import Theia.Spec.CandidateLinks
import Theia.Spec.DiscoveryLinks

/-!
# Stale links

What the cleanup at the end of a discovery pass deletes. A link is kept if an upsert of the pass
was merged into it, and if an observation that was materialized names its ports. Both are read off
the events of `ApplyObservations`, which carry the names that the upsert has left in the link: an
observation that leaves a port blank can be recorded under the name of another row. Only the link
of such an observation can be lost, or of one that `CandidateLinks` takes for a duplicate.
-/

namespace Theia

open List

/-! ### The events of `ApplyObservations` -/

section Events

variable {lower : Char → Char} {maps : CanvasMaps} {store : LinkStore} {row link : LinkRow}
  {calls : List (LinkRow × Stamp)} {result applied : ApplyResult}

/-- The event has the protocol, the devices and the names of the link; a blank name may have been
filled. -/
structure Records (event : ApplyEvent) (link : LinkRow) : Prop where
  protocol : event.link.discoveryProtocol = link.discoveryProtocol
  source : event.link.sourceDeviceID = link.sourceDeviceID
  target : event.link.targetDeviceID = link.targetDeviceID
  sourceIf : link.sourceIfName ≠ "" → event.link.sourceIfName = link.sourceIfName
  targetIf : link.targetIfName ≠ "" → event.link.targetIfName = link.targetIfName

namespace LinkStore

theorem fillName_of_score {existing incoming : String} {n : Nat}
    (h : sameDirectionInterfaceScore existing incoming = some n) (hnamed : incoming ≠ "") :
    fillName existing incoming = incoming := by
  unfold sameDirectionInterfaceScore at h
  unfold fillName
  split at h
  · rename_i heq
    rw [heq, if_neg (by simp [hnamed])]
  split at h
  · rename_i hblank
    rcases hblank with hblank | hblank
    · rw [if_pos ⟨hblank, hnamed⟩]
    · exact absurd hblank hnamed
  · cases h

theorem placement_records (h : store.WellKeyed) {p : Placement}
    (hp : placement lower store link = some p) (result : LinkUpsertResult) :
    Records ⟨p.link, result⟩ link := by
  unfold placement at hp
  split at hp
  · rename_i matched hsame
    cases hp
    obtain ⟨n, -, -, -, hscore, -⟩ := (sameDirection_eq_some_iff h).1 hsame
    obtain ⟨s, t, hs, ht, -⟩ := bind_score_eq_some.1 hscore
    exact ⟨rfl, rfl, rfl, fillName_of_score hs, fillName_of_score ht⟩
  · obtain ⟨matched, -, rfl⟩ := Option.map_eq_some_iff.1 hp
    exact ⟨rfl, rfl, rfl, fun _ => rfl, fun _ => rfl⟩

section Upserted

variable {newID : UUID} {now : Time} {upserted : Upserted} (h : store.WellKeyed)
  (hok : upsertDetailed lower maps store link newID now = .ok upserted)
include h hok

theorem upserted_records : Records ⟨upserted.link, upserted.result⟩ link := by
  rcases upsertDetailed_ok h hok with ⟨p, kind, hp, rfl⟩ | ⟨-, -, rfl⟩
  · exact { placement_records h hp (placedOutcome maps store p kind).result with }
  · exact ⟨rfl, rfl, rfl, fun _ => rfl, fun _ => rfl⟩

/-- A row after a call is the row that the call has written, with the protocol of its link, or a
row that was there before. -/
theorem upserted_rows (hrow : row ∈ upserted.store.links) :
    (row.id = upserted.link.id ∧ row.discoveryProtocol = link.discoveryProtocol) ∨
      (row ∈ store.links ∧ row.id ≠ upserted.link.id) := by
  rcases upsertDetailed_ok h hok with ⟨p, kind, hp, rfl⟩ | ⟨-, hid, rfl⟩
  · have hlinkID : p.link.id = p.replaced.id := (placement_link hp).1.trans (placement_id hp).symm
    rcases mem_putRow hrow with rfl | ⟨hold, hne⟩
    · have hprotocol := placement_protocol hp
      exact .inl ⟨hlinkID.symm, hprotocol⟩
    · exact .inr ⟨hold, hlinkID ▸ hne⟩
  · rcases mem_append.1 hrow with hold | hnew
    · refine .inr ⟨hold, ?_⟩
      intro heq
      exact hid (mem_map.2 ⟨row, hold, heq⟩)
    · rw [mem_singleton.1 hnew]
      exact .inl ⟨rfl, rfl⟩

end Upserted

end LinkStore

/-- Every candidate leaves an event. -/
theorem applyLinks_records (h : store.WellKeyed)
    (hok : (applyLinks lower maps store result calls).2 = .ok applied) :
    ∀ call ∈ calls, ∃ event ∈ applied.events, Records event call.1 := by
  have hinv := applyLinks_ok_invariant (P := fun done store events => store.WellKeyed ∧
    ∀ call ∈ done, ∃ event ∈ events, Records event call.1) hok [] ⟨h, nofun⟩ ?_
  · simpa using hinv.2
  intro done store events call upserted _ ⟨hkeyed, hdone⟩ hupsert
  refine ⟨hkeyed.upserted hupsert, forall_mem_cons.2 ⟨?_, fun call hcall => ?_⟩⟩
  · exact ⟨_, mem_append_right _ mem_cons_self, LinkStore.upserted_records hkeyed hupsert⟩
  · obtain ⟨event, hevent, hrecords⟩ := hdone call hcall
    exact ⟨event, mem_append_left _ hevent, hrecords⟩

/-- What the events say about the rows: a row with an event has one with its protocol. -/
structure EventsCover (store : LinkStore) (events : List ApplyEvent) : Prop where
  keyed : store.WellKeyed
  ids : ∀ row ∈ store.links, row.id ≠ UUID.nil
  protocol : ∀ row ∈ store.links, (∃ event ∈ events, event.link.id = row.id) →
    ∃ event ∈ events, event.link.id = row.id ∧ event.link.discoveryProtocol = row.discoveryProtocol

theorem EventsCover.upserted {events : List ApplyEvent} {stamp : Stamp}
    {outcome : Upserted} (h : EventsCover store events)
    (hid : (LinkStore.stampLink link stamp.newID stamp.now).id ≠ UUID.nil)
    (hok : store.upsertDetailed lower maps link stamp.newID stamp.now = .ok outcome) :
    EventsCover outcome.store (events ++ [⟨outcome.link, outcome.result⟩]) := by
  have hrec := LinkStore.upserted_records h.keyed hok
  have hnew : (⟨outcome.link, outcome.result⟩ : ApplyEvent) ∈
      events ++ [⟨outcome.link, outcome.result⟩] := mem_append_right _ mem_cons_self
  have hlinkID : outcome.link.id ≠ UUID.nil := by
    rcases LinkStore.upsertDetailed_ok h.keyed hok with ⟨p, kind, hp, rfl⟩ | ⟨-, -, rfl⟩
    · show p.link.id ≠ UUID.nil
      rw [(LinkStore.placement_link hp).1]
      exact h.ids p.matched (LinkStore.placement_mem h.keyed hp)
    · exact hid
  refine ⟨h.keyed.upserted hok, ?_, ?_⟩
  · intro row hrow
    rcases LinkStore.upserted_rows h.keyed hok hrow with ⟨heq, -⟩ | ⟨hold, -⟩
    · rw [heq]
      exact hlinkID
    · exact h.ids row hold
  · intro row hrow hevents
    rcases LinkStore.upserted_rows h.keyed hok hrow with ⟨heq, hprotocol⟩ | ⟨hold, hne⟩
    · exact ⟨_, hnew, heq.symm, hrec.protocol.trans hprotocol.symm⟩
    -- the new event is about another row
    obtain ⟨event, hevent, heq⟩ := hevents
    have hbefore : event ∈ events := by
      rcases mem_append.1 hevent with hbefore | hlast
      · exact hbefore
      · rw [mem_singleton.1 hlast] at heq
        exact absurd heq.symm hne
    obtain ⟨other, hother, hotherID, hprotocol⟩ := h.protocol row hold ⟨event, hbefore, heq⟩
    exact ⟨other, mem_append_left _ hother, hotherID, hprotocol⟩

/-- A row that was written has an event of its protocol. -/
theorem events_cover (h : store.WellKeyed) (hids : ∀ row ∈ store.links, row.id ≠ UUID.nil)
    (hfresh : ∀ call ∈ calls, (LinkStore.stampLink call.1 call.2.newID call.2.now).id ≠ UUID.nil)
    (hok : (applyLinks lower maps store {} calls).2 = .ok applied) :
    EventsCover (applyLinks lower maps store {} calls).1 applied.events := by
  refine applyLinks_ok_invariant (P := fun _ => EventsCover) hok [] ⟨h, hids, ?_⟩ ?_
  · rintro row - ⟨event, hevent, -⟩
    cases hevent
  · intro _ current events call upserted hcall hcover hupsert
    exact hcover.upserted (hfresh call hcall) hupsert

end Events

/-! ### Observations that name a link -/

/-- The observation names the two devices of the link, in either direction, with ports that are
equal to those of the link up to case and surrounding blanks. -/
def NamesLink (lower : Char → Char) (o : Observation) (link : LinkRow) : Prop :=
  let name := Topology.normalizeInterfaceName lower
  (o.localDeviceID = link.sourceDeviceID ∧ o.remoteDeviceID = link.targetDeviceID ∧
    name o.localPort = name link.sourceIfName ∧ name o.remotePort = name link.targetIfName) ∨
  (o.localDeviceID = link.targetDeviceID ∧ o.remoteDeviceID = link.sourceDeviceID ∧
    name o.localPort = name link.targetIfName ∧ name o.remotePort = name link.sourceIfName)

section Keys

variable {lower : Char → Char} {link : LinkRow} {o : Observation}

theorem physicalLinkKey_swap (a b : String) :
    (if b < a then b ++ "<->" ++ a else a ++ "<->" ++ b) =
      if a < b then a ++ "<->" ++ b else b ++ "<->" ++ a := by
  rcases lt_trichotomy a b with hlt | heq | hgt
  · rw [if_pos hlt, if_neg hlt.not_gt]
  · rw [heq]
  · rw [if_pos hgt, if_neg hgt.not_gt]

theorem NamesLink.physicalLinkKey_eq (h : NamesLink lower o link) :
    physicalLinkKey lower o.link = physicalLinkKey lower link := by
  have hkey : ∀ {a b : UUID} {s t : String}, a = b →
      Topology.normalizeInterfaceName lower s = Topology.normalizeInterfaceName lower t →
      physicalEndpointKey lower a s = physicalEndpointKey lower b t := by
    rintro a b s t rfl hnames
    unfold Topology.normalizeInterfaceName at hnames
    unfold physicalEndpointKey
    rw [hnames]
  unfold physicalLinkKey
  dsimp [Observation.link]
  rcases h with ⟨hlocal, hremote, hlocalPort, hremotePort⟩ | ⟨hlocal, hremote, hlocalPort, hremotePort⟩
  · rw [hkey hlocal hlocalPort, hkey hremote hremotePort]
  · rw [hkey hlocal hlocalPort, hkey hremote hremotePort, physicalLinkKey_swap]

theorem Records.physicalLinkKey_eq {event : ApplyEvent} (h : Records event link)
    (hsource : link.sourceIfName ≠ "") (htarget : link.targetIfName ≠ "") :
    physicalLinkKey lower event.link = physicalLinkKey lower link := by
  unfold physicalLinkKey
  rw [h.source, h.target, h.sourceIf hsource, h.targetIf htarget]

end Keys

/-! ### What keeps a link -/

section Carried

variable (lower fold : Char → Char) (localDeviceID : UUID) (current : List Observation)

/-- What keeps the link in the cleanup after the events: one went into it or has its ports, or a
current observation of the polled device supports it. -/
inductive Carried (events : List ApplyEvent) (row : LinkRow) : Prop
  | written (h : ∃ event ∈ events, event.link.id = row.id)
  | ports (h : ∃ event ∈ events,
      isReconcilableDiscoveryProtocol event.link.discoveryProtocol = true ∧
        physicalLinkKey lower event.link = physicalLinkKey lower row)
  | resolved (h : currentResolvedObservationSupportsLink fold row current = true)
  | unresolved (h : currentUnresolvedObservationSupportsLink fold localDeviceID row current = true)

variable {lower fold localDeviceID current}

/-- `isStaleLink` looks for events of the two neighbour protocols with an ID; since the events cover
the rows, it misses none. -/
theorem isStaleLink_iff {store : LinkStore} {row : LinkRow} {events : List ApplyEvent}
    {protocols : List DiscoveryProtocol} (hcover : EventsCover store events)
    (hrow : row ∈ store.links) (hpruned : row.discoveryProtocol ∈ protocols)
    (hrec : isReconcilableDiscoveryProtocol row.discoveryProtocol = true) :
    isStaleLink lower fold localDeviceID protocols events current row = true ↔
      ¬Carried lower fold localDeviceID current events row := by
  have hmanual : row.discoveryProtocol ≠ .manual := by
    intro heq
    simp [heq, isReconcilableDiscoveryProtocol] at hrec
  have hwritten : row.id ∈ (((events.map (·.link)).filter fun link =>
      isReconcilableDiscoveryProtocol link.discoveryProtocol).map (·.id)).filter (· ≠ UUID.nil) ↔
      ∃ event ∈ events, event.link.id = row.id := by
    constructor
    · intro hmem
      obtain ⟨link, hlink, hid⟩ := mem_map.1 (mem_filter.1 hmem).1
      obtain ⟨event, hevent, rfl⟩ := mem_map.1 (mem_filter.1 hlink).1
      exact ⟨event, hevent, hid⟩
    · intro hevents
      obtain ⟨event, hevent, hid, hprotocol⟩ := hcover.protocol row hrow hevents
      have hnil := hcover.ids row hrow
      rw [← hid] at hnil ⊢
      rw [← hprotocol] at hrec
      simp only [mem_filter, mem_map]
      exact ⟨⟨event.link, ⟨⟨event, hevent, rfl⟩, hrec⟩, rfl⟩, by simpa using hnil⟩
  have hports : physicalLinkKey lower row ∈ ((events.map (·.link)).filter fun link =>
      isReconcilableDiscoveryProtocol link.discoveryProtocol).map (physicalLinkKey lower) ↔
      ∃ event ∈ events, isReconcilableDiscoveryProtocol event.link.discoveryProtocol = true ∧
        physicalLinkKey lower event.link = physicalLinkKey lower row := by
    simp only [mem_map, mem_filter, exists_exists_and_eq_and, and_assoc]
  unfold isStaleLink
  simp only [Bool.and_eq_true, Bool.not_eq_true', contains_eq_mem, decide_eq_false_iff_not,
    decide_eq_true_eq, mem_filter.2 ⟨hpruned, hrec⟩, hwritten, hports]
  constructor
  · rintro ⟨⟨⟨⟨-, hid⟩, hkey⟩, hresolved⟩, hunresolved⟩ (h | h | h | h)
    · exact hid h
    · exact hkey h
    · simp [h] at hresolved
    · simp [h] at hunresolved
  · intro hnot
    refine ⟨⟨⟨⟨⟨hmanual, trivial⟩, fun h => hnot (.written h)⟩, fun h => hnot (.ports h)⟩, ?_⟩, ?_⟩
    · exact Bool.eq_false_iff.2 fun h => hnot (.resolved h)
    · exact Bool.eq_false_iff.2 fun h => hnot (.unresolved h)

end Carried

/-! ### What a pass deletes -/

/-- The deletions remove every listed row. -/
theorem notMem_deleteLinks {store : LinkStore} {links : List LinkRow} {row : LinkRow}
    (hlinks : ∀ link ∈ links, link ∈ store.links) (hids : (links.map (·.id)).Nodup) (deleted : Nat)
    (hrow : row ∈ links) : row.id ∉ (deleteLinks store deleted links).1.links.map (·.id) := by
  induction links generalizing store deleted with
  | nil => cases hrow
  | cons link rest ih =>
    obtain ⟨hlink, hrest⟩ := forall_mem_cons.1 hlinks
    rw [map_cons, nodup_cons] at hids
    have hnext : store.deleteLink link.id = some _ := if_pos (mem_map.2 ⟨link, hlink, rfl⟩)
    rw [deleteLinks, hnext]
    rcases mem_cons.1 hrow with rfl | hrow
    · -- the row is gone, and later deletions add none
      intro hmem
      obtain ⟨other, hother, heq⟩ := mem_map.1 hmem
      have hleft := (deleteLinks_sublist _ _ _).subset hother
      exact absurd heq (by simpa using (mem_filter.1 hleft).2)
    · refine ih (fun other hother => mem_filter.2 ⟨hrest other hother, ?_⟩) hids.2 _ hrow
      refine decide_eq_true fun heq => hids.1 (mem_map.2 ⟨other, hother, heq⟩)

theorem notMem_deleteLinks_iff {store : LinkStore} {links : List LinkRow} {row : LinkRow}
    (h : store.WellKeyed) (hlinks : links.Sublist store.links) (deleted : Nat)
    (hrow : row ∈ store.links) :
    row.id ∉ (deleteLinks store deleted links).1.links.map (·.id) ↔ row ∈ links := by
  constructor
  · intro hnot
    by_contra hkept
    refine hnot (mem_map.2 ⟨row, mem_deleteLinks hrow deleted ?_, rfl⟩)
    intro link hlink hid
    rw [h.eq_of_id (hlinks.subset hlink) hrow hid] at hlink
    exact hkept hlink
  · exact notMem_deleteLinks (fun _ hlink => hlinks.subset hlink) ((hlinks.map _).nodup h.ids) deleted

section Pass

variable (lower fold : Char → Char) (maps : CanvasMaps) (lookup : String → Option UUID)
  (tables : TopologyTables) (input : DiscoveryInput) (now : Time) (stamps : Nat → Stamp)

/-- The link tables of a pass before its cleanup. -/
def linksBeforeCleanup : LinkStore :=
  if input.materialize then (materializeLinks lower maps lookup tables input now stamps).1
  else tables.links

/-- A listed observation of the link's protocol, resolved and not blank on both ports, names it. -/
structure NamedBy (o : Observation) (row : LinkRow) : Prop where
  listed : o ∈ listedObservations lower lookup tables input now
  protocol : o.protocol = row.discoveryProtocol
  resolved : o.remoteDeviceID ≠ UUID.nil
  ports : ¬(isBlank o.localPort ∧ isBlank o.remotePort)
  names : NamesLink lower o row

/-- Nothing supports the link: the polled device could have reported it in this poll and did not,
no upsert of the pass went into it, and no listed observation names it. -/
structure Unsupported (row : LinkRow) : Prop where
  touches : row.sourceDeviceID = input.freshID ∨ row.targetDeviceID = input.freshID
  protocol : row.discoveryProtocol = .lldp ∨ row.discoveryProtocol = .cdp
  attempted : row.discoveryProtocol ∈ input.attemptedProtocols ∨
    (∀ protocol ∈ input.attemptedProtocols, isReconcilableDiscoveryProtocol protocol = false) ∧
      ∃ neighbor ∈ input.neighbors, neighbor.protocol = row.discoveryProtocol
  notFailed : row.discoveryProtocol ∉ input.failures
  notWritten : ∃ applied,
    (materializeLinks lower maps lookup tables input now stamps).2 = .ok applied ∧
      ∀ event ∈ applied.events, event.link.id ≠ row.id
  notNamed : ∀ o, ¬NamedBy lower lookup tables input now o row

/-- What an upsert records of the observation may be another link: a port is blank, or
`CandidateLinks` has kept another observation with its key. -/
def Recast (o : Observation) : Prop :=
  o.localPort = "" ∨ o.remotePort = "" ∨ o.link ∉ candidateLinks
    (materializableTopologyObservations (listedObservations lower lookup tables input now))

/-- The cleanup after the events looks at the link. -/
structure InCleanup (applied : ApplyResult) (row : LinkRow) : Prop where
  materialize : input.materialize = true
  applied : (materializeLinks lower maps lookup tables input now stamps).2 = .ok applied
  touches : row.sourceDeviceID = input.freshID ∨ row.targetDeviceID = input.freshID
  pruned : row.discoveryProtocol ∈ input.pruneProtocols lower lookup now

variable {lower fold maps lookup tables input now stamps}

theorem mem_reconciledProtocols {protocol : DiscoveryProtocol}
    (h : protocol ∈ reconciledNeighborDiscoveryProtocols input.attemptedProtocols input.neighbors
      input.failures) :
    isReconcilableDiscoveryProtocol protocol = true ∧
      (protocol ∈ input.attemptedProtocols ∨
        (∀ p ∈ input.attemptedProtocols, isReconcilableDiscoveryProtocol p = false) ∧
          ∃ neighbor ∈ input.neighbors, neighbor.protocol = protocol) ∧
      protocol ∉ input.failures := by
  unfold reconciledNeighborDiscoveryProtocols at h
  obtain ⟨-, hprotocol⟩ := mem_filter.1 h
  simp only [decide_eq_true_eq] at hprotocol
  obtain ⟨hattempted, hfailed⟩ := hprotocol
  split_ifs at hattempted with hnone
  · obtain ⟨hmem, hrec⟩ := mem_filter.1 hattempted
    obtain ⟨neighbor, hneighbor, heq⟩ := mem_map.1 hmem
    refine ⟨hrec, .inr ⟨?_, neighbor, hneighbor, heq⟩, ?_⟩
    · intro p hp
      have := filter_eq_nil_iff.1 hnone p hp
      simpa using this
    · exact fun hmem => hfailed (mem_filter.2 ⟨hmem, hrec⟩)
  · obtain ⟨hmem, hrec⟩ := mem_filter.1 hattempted
    exact ⟨hrec, .inl hmem, fun hmem => hfailed (mem_filter.2 ⟨hmem, hrec⟩)⟩

/-- A pass deletes the links that its cleanup looks at and takes for stale. -/
theorem deleted_iff {row : LinkRow}
    (hkeyed : (linksBeforeCleanup lower maps lookup tables input now stamps).WellKeyed)
    (hrow : row ∈ (linksBeforeCleanup lower maps lookup tables input now stamps).links) :
    row.id ∉ (applyDiscoveryViaObservationStore lower fold maps lookup tables input now
      stamps).1.links.links.map (·.id) ↔
    ∃ applied, InCleanup lower maps lookup tables input now stamps applied row ∧
      isStaleLink lower fold input.freshID (input.pruneProtocols lower lookup now) applied.events
        (currentObservations lower lookup input.freshID now input.neighbors) row = true := by
  have hkept : ∀ {links : List LinkRow}, row ∈ links → ¬row.id ∉ links.map (·.id) :=
    fun hmem hnot => hnot (mem_map.2 ⟨row, hmem, rfl⟩)
  unfold linksBeforeCleanup at hkeyed hrow
  unfold applyDiscoveryViaObservationStore
  cases hmaterialize : input.materialize with
  | false =>
    rw [hmaterialize] at hrow
    refine iff_of_false (hkept hrow) ?_
    rintro ⟨applied, h, -⟩
    exact absurd h.materialize (by simp [hmaterialize])
  | true =>
    rw [hmaterialize] at hrow hkeyed
    rcases hresult : materializeLinks lower maps lookup tables input now stamps with ⟨links, outcome⟩
    rw [hresult] at hrow hkeyed
    cases outcome with
    | error e =>
      refine iff_of_false (hkept hrow) ?_
      rintro ⟨applied, h, -⟩
      exact absurd h.applied (by simp [hresult])
    | ok applied =>
      simp only [if_true] at hrow hkeyed
      have hsub : ((links.getByDeviceID input.freshID).filter (isStaleLink lower fold input.freshID
          (input.pruneProtocols lower lookup now) applied.events
          (currentObservations lower lookup input.freshID now input.neighbors))).Sublist links.links :=
        filter_sublist.trans filter_sublist
      refine Iff.trans ?_ ((notMem_deleteLinks_iff hkeyed hsub 0 hrow).trans ?_)
      · -- whether a deletion fails or not, the links are those of the cleanup
        simp only [Bool.not_true, Bool.false_eq_true, if_false]
        split <;> rename_i heq <;> rw [deleteStaleAutoDiscoveredLinks] at heq <;> rw [heq]
      · rw [mem_filter, LinkStore.getByDeviceID, mem_filter]
        constructor
        · rintro ⟨⟨-, htouches⟩, hstale⟩
          have hprotocol : row.discoveryProtocol ∈ input.pruneProtocols lower lookup now := by
            simp only [isStaleLink, Bool.and_eq_true, contains_eq_mem, decide_eq_true_eq] at hstale
            exact (mem_filter.1 hstale.1.1.1.1.2).1
          refine ⟨applied, ⟨hmaterialize, ?_, by simpa using htouches, hprotocol⟩, hstale⟩
          rw [hresult]
        · rintro ⟨other, h, hstale⟩
          have heq : applied = other := by simpa [hresult] using h.applied
          subst heq
          exact ⟨⟨hrow, by simpa using h.touches⟩, hstale⟩

/-- The tables of a pass: the link table has its keys, and no link has the nil ID. -/
structure ValidTables (tables : TopologyTables) : Prop where
  keyed : tables.links.WellKeyed
  ids : ∀ row ∈ tables.links.links, row.id ≠ UUID.nil

theorem ValidTables.beforeCleanup (h : ValidTables tables) :
    (linksBeforeCleanup lower maps lookup tables input now stamps).WellKeyed := by
  unfold linksBeforeCleanup
  split
  · exact h.keyed.applyLinks {}
  · exact h.keyed

theorem InCleanup.eventsCover {applied : ApplyResult} {row : LinkRow}
    (h : InCleanup lower maps lookup tables input now stamps applied row)
    (hvalid : ValidTables tables) (hstamps : ∀ i, (stamps i).newID ≠ UUID.nil) :
    EventsCover (linksBeforeCleanup lower maps lookup tables input now stamps)
      applied.events := by
  unfold linksBeforeCleanup
  rw [if_pos h.materialize]
  refine events_cover hvalid.keyed hvalid.ids (fun call hcall => ?_) h.applied
  -- a candidate has no ID of its own, so it gets that of its stamp
  obtain ⟨i, hi, rfl⟩ := mem_mapIdx.1 hcall
  obtain ⟨o, -, ho⟩ := mem_candidateLinks (getElem_mem hi)
  have hnil : ((candidateLinks (materializableTopologyObservations
      (listedObservations lower lookup tables input now)))[i]).id = UUID.nil := by
    unfold Observation.candidate? at ho
    split at ho
    · cases ho
    · rw [← Option.some.inj ho]
      rfl
  show (if _ = UUID.nil then _ else _) ≠ UUID.nil
  rw [if_pos hnil]
  exact hstamps i

/-- The event of an observation that names both ports has the ports of the link. -/
theorem NamedBy.carried {applied : ApplyResult} {row : LinkRow} {o : Observation}
    {current : List Observation} (h : NamedBy lower lookup tables input now o row)
    (hkeyed : tables.links.WellKeyed)
    (happlied : (materializeLinks lower maps lookup tables input now stamps).2 = .ok applied)
    (hrec : isReconcilableDiscoveryProtocol row.discoveryProtocol = true)
    (hfull : ¬Recast lower lookup tables input now o) :
    Carried lower fold input.freshID current applied.events row := by
  rw [Recast, not_or, not_or, not_not] at hfull
  obtain ⟨hlocal, hremote, hcandidate⟩ := hfull
  obtain ⟨call, hcall, hlink⟩ := exists_mem_candidateCalls stamps hcandidate
  obtain ⟨event, hevent, hrecords⟩ := applyLinks_records hkeyed happlied call hcall
  rw [hlink] at hrecords
  refine .ports ⟨event, hevent, ?_, ?_⟩
  · rw [hrecords.protocol]
    show isReconcilableDiscoveryProtocol o.protocol = true
    rw [h.protocol]
    exact hrec
  · rw [hrecords.physicalLinkKey_eq hlocal hremote, h.names.physicalLinkKey_eq]

end Pass

/-- An LLDP link that nobody reports any more. -/
def unreportedLink : LinkRow where
  id := 7
  sourceDeviceID := 1
  sourceIfName := "ether1"
  targetDeviceID := 2
  targetIfName := "sfp2"
  discoveryProtocol := .lldp

/-- A poll without neighbours. -/
def emptyPoll (deviceID : UUID) : DiscoveryInput where
  freshID := deviceID
  attemptedProtocols := [.lldp, .cdp]

def pollStamps (i : Nat) : Stamp := ⟨BitVec.ofNat 128 (100 + i % 1000), 100⟩

theorem pollStamps_ne_nil (i : Nat) : (pollStamps i).newID ≠ UUID.nil := by
  intro h
  have hval := congrArg BitVec.toNat h
  simp only [pollStamps, BitVec.toNat_ofNat] at hval
  rw [Nat.mod_eq_of_lt (by omega)] at hval
  simp [UUID.nil] at hval

/-- The link that device 1 reports without the port of device 2, as device 2 once reported it. -/
def halfLink : LinkRow where
  id := 8
  sourceDeviceID := 2
  sourceIfName := ""
  targetDeviceID := 1
  targetIfName := "ether1"
  discoveryProtocol := .lldp

/-- The observation of device 1 that names `halfLink`. -/
def halfObservation : Observation where
  localDeviceID := 1
  remoteIdentity := "two"
  remoteDeviceID := 2
  localPort := "ether1"

/-- A link of device 2 to a third device that does not report it. -/
def thirdLink : LinkRow where
  id := 9
  sourceDeviceID := 2
  sourceIfName := "ether3"
  targetDeviceID := 3
  targetIfName := "ether2"
  discoveryProtocol := .lldp

def keptTables : TopologyTables where
  links := { devices := {1, 2, 3}, links := [halfLink, thirdLink] }
  observations := [halfObservation]

theorem materializeLinks_half {tables : TopologyTables}
    (hlisted : listedObservations Char.toLower (fun _ => none) tables (emptyPoll 2) 100 =
      [halfObservation]) :
    materializeLinks Char.toLower {} (fun _ => none) tables (emptyPoll 2) 100 pollStamps =
      applyLinks Char.toLower {} tables.links {} [(halfObservation.link, pollStamps 0)] := by
  have hcalls : candidateCalls [halfObservation] pollStamps = [(halfObservation.link, pollStamps 0)] :=
    LinkStore.candidateCalls_singleton pollStamps (by decide) (by decide)
  rw [materializeLinks, applyObservations, hlisted, ← hcalls]
  rfl

def namedTables : TopologyTables where
  links := { devices := {1, 2}, links := [unreportedLink, halfLink] }
  observations := [halfObservation]

end Theia
