import Theia.Native.StaticPersistence
import Theia.Spec.LinkUpsert

/-!
# Manual links and discovery

A discovery step writes the links of its observations or deletes stale links. Deletions leave
manual links alone, but an upsert gives the row that it matches the protocol of the observation, so
a manual link survives as long as no upsert of another protocol matches it.
-/

namespace Theia

open List

/-! ### The loop of `ApplyObservations` -/

/-- A condition on every call that the loop makes, in the state before the call. -/
def AlongCalls (lower : Char → Char) (maps : CanvasMaps) (ok : LinkStore → LinkRow → Prop) :
    LinkStore → List (LinkRow × Stamp) → Prop
  | _, [] => True
  | store, (link, stamp) :: rest => ok store link ∧
    ∀ upserted, store.upsertDetailed lower maps link stamp.newID stamp.now = .ok upserted →
      AlongCalls lower maps ok upserted.store rest

section Loop

variable {lower : Char → Char} {maps : CanvasMaps} {ok : LinkStore → LinkRow → Prop}
  {store : LinkStore} {calls : List (LinkRow × Stamp)}

/-- What every successful call keeps, the loop keeps. -/
theorem applyLinks_invariant {P : LinkStore → Prop} (result : ApplyResult) (hinit : P store)
    (hok : AlongCalls lower maps ok store calls)
    (hstep : ∀ (store : LinkStore) (link : LinkRow) (stamp : Stamp) (upserted : Upserted),
      P store → ok store link →
      store.upsertDetailed lower maps link stamp.newID stamp.now = .ok upserted →
      P upserted.store) :
    P (applyLinks lower maps store result calls).1 := by
  induction calls generalizing store result with
  | nil => exact hinit
  | cons call rest ih =>
    obtain ⟨link, stamp⟩ := call
    unfold applyLinks
    split
    · exact hinit
    · rename_i upserted hupsert
      exact ih _ (hstep store link stamp upserted hinit hok.1 hupsert) (hok.2 upserted hupsert)

theorem AlongCalls.trivial (store : LinkStore) (calls : List (LinkRow × Stamp)) :
    AlongCalls lower maps (fun _ _ => True) store calls := by
  induction calls generalizing store with
  | nil => exact True.intro
  | cons call rest ih => exact ⟨True.intro, fun upserted _ => ih upserted.store⟩

/-- What every successful call keeps of the calls made, the tables and the events, a successful loop
keeps. -/
theorem applyLinks_ok_invariant {result applied : ApplyResult}
    {P : List (LinkRow × Stamp) → LinkStore → List ApplyEvent → Prop}
    (hok : (applyLinks lower maps store result calls).2 = .ok applied)
    (done : List (LinkRow × Stamp)) (hinit : P done store result.events)
    (hstep : ∀ done store events call upserted, call ∈ calls → P done store events →
      store.upsertDetailed lower maps call.1 call.2.newID call.2.now = .ok upserted →
      P (call :: done) upserted.store (events ++ [⟨upserted.link, upserted.result⟩])) :
    P (calls.reverse ++ done) (applyLinks lower maps store result calls).1 applied.events := by
  induction calls generalizing store result done with
  | nil =>
    cases hok
    exact hinit
  | cons call rest ih =>
    obtain ⟨link, stamp⟩ := call
    unfold applyLinks at hok ⊢
    rw [reverse_cons, append_assoc]
    cases hupsert : store.upsertDetailed lower maps link stamp.newID stamp.now with
    | error e =>
      rw [hupsert] at hok
      cases hok
    | ok upserted =>
      rw [hupsert] at hok
      refine ih hok _ (hstep _ _ _ (link, stamp) upserted mem_cons_self hinit hupsert) ?_
      intro done store events call upserted hcall
      exact hstep done store events call upserted (mem_cons_of_mem _ hcall)

theorem LinkStore.WellKeyed.applyLinks (h : store.WellKeyed) (result : ApplyResult) :
    (applyLinks lower maps store result calls).1.WellKeyed := by
  refine applyLinks_invariant (P := LinkStore.WellKeyed) result h (.trivial store calls) ?_
  intro store link stamp upserted hkeyed _ hok
  exact hkeyed.upserted hok

end Loop

/-! ### The deletions of a cleanup -/

section Delete

variable {store : LinkStore} {row : LinkRow} {links : List LinkRow}

theorem LinkStore.deleteLink_eq_some {id : UUID} {next : LinkStore}
    (h : store.deleteLink id = some next) :
    next.links = store.links.filter fun row => row.id ≠ id := by
  unfold LinkStore.deleteLink at h
  split at h
  · cases h
    rfl
  · cases h

/-- The deletions remove no row but the listed ones, and change none. -/
theorem mem_deleteLinks (hrow : row ∈ store.links) (deleted : Nat)
    (hlinks : ∀ link ∈ links, link.id ≠ row.id) :
    row ∈ (deleteLinks store deleted links).1.links := by
  induction links generalizing store deleted with
  | nil => exact hrow
  | cons link rest ih =>
    unfold deleteLinks
    split
    · exact hrow
    · rename_i next hnext
      refine ih ?_ _ fun other hother => hlinks other (mem_cons_of_mem _ hother)
      rw [LinkStore.deleteLink_eq_some hnext]
      have hne := hlinks link mem_cons_self
      exact mem_filter.2 ⟨hrow, by simpa using hne.symm⟩

theorem deleteLinks_sublist (store : LinkStore) (deleted : Nat) (links : List LinkRow) :
    (deleteLinks store deleted links).1.links.Sublist store.links := by
  induction links generalizing store deleted with
  | nil => exact .refl _
  | cons link rest ih =>
    unfold deleteLinks
    split
    · exact .refl _
    · rename_i next hnext
      refine (ih next _).trans ?_
      rw [LinkStore.deleteLink_eq_some hnext]
      exact filter_sublist

theorem LinkStore.WellKeyed.deleteLinks (h : store.WellKeyed) (deleted : Nat)
    (links : List LinkRow) : (deleteLinks store deleted links).1.WellKeyed :=
  ⟨h.ids.sublist ((deleteLinks_sublist store deleted links).map _),
    h.endpoints.sublist ((deleteLinks_sublist store deleted links).map _)⟩

end Delete

/-! ### Runs of discovery steps -/

/-- A step of a discovery on the link table. -/
inductive DiscoveryOp
  | applyObservations (observations : List Observation) (stamps : Nat → Stamp)
  | deleteStale (localDeviceID : UUID) (reconciledProtocols : List DiscoveryProtocol)
      (materializedEvents : List ApplyEvent) (currentObservations : List Observation)

namespace LinkStore

variable (lower fold : Char → Char) (maps : CanvasMaps)

def discoveryStep (store : LinkStore) : DiscoveryOp → LinkStore
  | .applyObservations observations stamps =>
    (applyObservations lower maps store observations stamps).1
  | .deleteStale localDeviceID reconciledProtocols materializedEvents currentObservations =>
    (deleteStaleAutoDiscoveredLinks lower fold store localDeviceID reconciledProtocols
      materializedEvents currentObservations).1

/-- The row that the two searches of an upsert find. -/
def findMatch (store : LinkStore) (link : LinkRow) : Option LinkRow :=
  (store.findBestSameDirectionLinkMatch link).or (store.findBestReverseLinkMatch lower link)

/-- No link of another protocol is upserted into a manual row. -/
def KeepsManual (store : LinkStore) : DiscoveryOp → Prop
  | .applyObservations observations stamps =>
    AlongCalls lower maps
      (fun store link => ∀ row, store.findMatch lower link = some row →
        row.discoveryProtocol = .manual → link.discoveryProtocol = .manual)
      store (candidateCalls observations stamps)
  | .deleteStale .. => True

/-- There is a manual row with the ID. -/
def HasManual (id : UUID) (store : LinkStore) : Prop :=
  ∃ row ∈ store.links, row.id = id ∧ row.discoveryProtocol = .manual

variable {lower fold maps} {store : LinkStore} {link : LinkRow}

theorem findMatch_of_placement {p : Placement} (h : placement lower store link = some p) :
    store.findMatch lower link = some p.matched := by
  unfold findMatch
  rcases placement_eq_some h with ⟨hsame, -⟩ | ⟨hsame, hrev, -⟩
  · rw [hsame]
    rfl
  · rw [hsame, hrev]
    rfl

theorem enrichedRow_protocol (matched link : LinkRow) (newSrcIf newTgtIf : String) :
    (enrichedRow matched link newSrcIf newTgtIf).discoveryProtocol = link.discoveryProtocol := by
  unfold enrichedRow
  split_ifs with h
  · exact h.2.2
  · rfl

theorem placement_protocol {p : Placement} (h : placement lower store link = some p) :
    p.replaced.discoveryProtocol = link.discoveryProtocol := by
  rcases placement_eq_some h with ⟨-, hreplaced⟩ | ⟨-, -, hreplaced⟩
  · rw [hreplaced]
    exact enrichedRow_protocol ..
  · rw [hreplaced, reverseRow]
    split
    · rfl
    · exact enrichedRow_protocol ..

theorem upserted_row {newID : UUID} {now : Time} {upserted : Upserted} {row : LinkRow}
    (h : store.WellKeyed) (hok : upsertDetailed lower maps store link newID now = .ok upserted)
    (hrow : row ∈ store.links) :
    row ∈ upserted.store.links ∨
      store.findMatch lower link = some row ∧
        ∃ new ∈ upserted.store.links, new.id = row.id ∧
          new.discoveryProtocol = link.discoveryProtocol := by
  rcases upsertDetailed_ok h hok with ⟨p, kind, hp, rfl⟩ | ⟨-, -, rfl⟩
  · by_cases heq : row = p.matched
    · subst heq
      have hfound := findMatch_of_placement hp
      have hprotocol := placement_protocol hp
      refine .inr ⟨hfound, p.replaced, ?_, placement_id hp, hprotocol⟩
      exact mem_map.2 ⟨p.matched, hrow, if_pos (placement_id hp).symm⟩
    · refine .inl (mem_map.2 ⟨row, hrow, if_neg ?_⟩)
      intro hid
      exact heq (h.eq_of_id hrow (placement_mem h hp) (hid.trans (placement_id hp)))
  · exact .inl (mem_append_left _ hrow)

theorem HasManual.upserted {id newID : UUID} {now : Time} {upserted : Upserted}
    (h : store.WellKeyed) (hmanual : store.HasManual id)
    (hkeeps : ∀ row, store.findMatch lower link = some row →
      row.discoveryProtocol = .manual → link.discoveryProtocol = .manual)
    (hok : upsertDetailed lower maps store link newID now = .ok upserted) :
    upserted.store.HasManual id := by
  obtain ⟨row, hrow, hid, hprotocol⟩ := hmanual
  rcases upserted_row h hok hrow with hmem | ⟨hmatch, new, hnew, hnewID, hnewProtocol⟩
  · exact ⟨row, hmem, hid, hprotocol⟩
  · exact ⟨new, hnew, hnewID.trans hid, hnewProtocol.trans (hkeeps row hmatch hprotocol)⟩

theorem HasManual.step {id : UUID} {op : DiscoveryOp} (h : store.WellKeyed)
    (hmanual : store.HasManual id) (hop : KeepsManual lower maps store op) :
    (discoveryStep lower fold maps store op).WellKeyed ∧
      (discoveryStep lower fold maps store op).HasManual id := by
  cases op with
  | applyObservations observations stamps =>
    refine applyLinks_invariant (P := fun store => store.WellKeyed ∧ store.HasManual id) {}
      ⟨h, hmanual⟩ hop ?_
    intro store link stamp upserted hinv hkeeps hok
    exact ⟨hinv.1.upserted hok, hinv.2.upserted hinv.1 hkeeps hok⟩
  | deleteStale localDeviceID reconciledProtocols materializedEvents currentObservations =>
    refine ⟨h.deleteLinks _ _, ?_⟩
    obtain ⟨row, hrow, hid, hprotocol⟩ := hmanual
    refine ⟨row, mem_deleteLinks hrow 0 ?_, hid, hprotocol⟩
    -- a stale link with the ID would be the manual row
    intro link hlink heq
    obtain ⟨hmem, hstale⟩ := mem_filter.1 hlink
    have hsame := h.eq_of_id (mem_filter.1 hmem).1 hrow heq
    simp [isStaleLink, hsame, hprotocol] at hstale

theorem candidateLinks_singleton {observation : Observation}
    (hlocal : observation.localDeviceID ≠ UUID.nil)
    (hremote : observation.remoteDeviceID ≠ UUID.nil) :
    candidateLinks [observation] = [observation.link] := by
  simp [candidateLinks, sortSliceBy, hlocal, hremote, keepFirst, keepFirstFrom]

theorem candidateCalls_singleton {observation : Observation} (stamps : Nat → Stamp)
    (hlocal : observation.localDeviceID ≠ UUID.nil)
    (hremote : observation.remoteDeviceID ≠ UUID.nil) :
    candidateCalls [observation] stamps = [(observation.link, stamps 0)] := by
  rw [candidateCalls, candidateLinks_singleton hlocal hremote]
  rfl

/-- In every run of discovery steps that upsert no link of another protocol into a manual row,
every manual link keeps a row with its ID. -/
theorem manual_links_survive {initial : LinkStore} {ops : List DiscoveryOp} {row : LinkRow}
    (h : initial.WellKeyed) (hrow : row ∈ initial.links)
    (hmanual : row.discoveryProtocol = .manual)
    (run : Run (· = initial) (ActStep (discoveryStep lower fold maps) (KeepsManual lower maps))
      store ops) :
    row.id ∈ store.links.map (·.id) := by
  have hinv : store.WellKeyed ∧ store.HasManual row.id := by
    refine run.act_invariant (P := fun store => store.WellKeyed ∧ store.HasManual row.id)
      ⟨h, row, hrow, rfl, hmanual⟩ ?_
    intro store op hs hop
    exact hs.2.step hs.1 hop
  obtain ⟨kept, hkept, hid, -⟩ := hinv.2
  exact mem_map.2 ⟨kept, hkept, hid⟩

/-- A manual link between two devices. -/
def manualLink : LinkRow where
  id := 7
  sourceDeviceID := 1
  sourceIfName := "ether1"
  targetDeviceID := 2
  targetIfName := "ether2"
  discoveryProtocol := .manual

def manualStore : LinkStore where
  devices := {1, 2}
  links := [manualLink]

/-- What device 1 reports about device 2. -/
def reported (localPort remotePort : String) : Observation where
  localDeviceID := 1
  remoteIdentity := "two"
  remoteDeviceID := 2
  localPort := localPort
  remotePort := remotePort

def reportStamps (i : Nat) : Stamp := ⟨BitVec.ofNat 128 (8 + i), 100⟩

theorem manual_links_survive_parallel :
    manualLink.id ∈ ([DiscoveryOp.applyObservations [reported "ether3" "ether4"] reportStamps,
      .deleteStale 1 [.lldp] [] []].foldl (discoveryStep Char.toLower Char.toLower {})
        manualStore).links.map (·.id) := by
  have hkeeps : KeepsManual Char.toLower {} manualStore
      (.applyObservations [reported "ether3" "ether4"] reportStamps) := by
    simp only [KeepsManual]
    rw [candidateCalls_singleton reportStamps (by decide) (by decide)]
    refine ⟨?_, fun _ _ => trivial⟩
    intro row hrow
    cases hrow
  have hrun := Run.of_ops (show OkAlong (discoveryStep Char.toLower Char.toLower {})
    (KeepsManual Char.toLower {}) manualStore [.applyObservations [reported "ether3" "ether4"]
      reportStamps, .deleteStale 1 [.lldp] [] []] from ⟨hkeeps, trivial, trivial⟩)
  exact manual_links_survive ⟨by decide, by decide⟩ mem_cons_self rfl hrun

/-- Rediscovering the link by LLDP makes it an LLDP link, which the next cleanup deletes. -/
theorem manual_link_deleted :
    manualLink ∈ manualStore.links ∧ manualLink.discoveryProtocol = .manual ∧
      manualLink.id ∉ ([DiscoveryOp.applyObservations [reported "ether1" "ether2"] reportStamps,
        .deleteStale 1 [.lldp] [] []].foldl (discoveryStep Char.toLower Char.toLower {})
          manualStore).links.map (·.id) := by
  simp only [List.foldl, discoveryStep, applyObservations]
  decide +kernel

end LinkStore

end Theia
