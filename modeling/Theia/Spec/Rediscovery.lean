import Theia.Spec.CandidateLinks
import Theia.Spec.DiscoveryLinks

/-!
# Rediscovering the same topology

An upsert of a link has nothing to write exactly if the link is settled: its search finds a row with its
protocol and with a name wherever it has one. A link is settled right after its own upsert. Applying
the same observations again changes nothing exactly if the links are all still settled when the first
run ends. A later candidate of the run can take the row of an earlier one: it gives the row another
protocol, or makes the search for the earlier one ambiguous.
-/

namespace Theia

open List

variable {p : Placement}

namespace LinkStore

open Finset

variable {lower : Char → Char} {maps : CanvasMaps} {store : LinkStore} {link row x : LinkRow}

/-! ### Settled links -/

/-- The row has the protocol of the link, a name for each of the two names that is not blank, and is a
member of the maps that have both devices. -/
def HasAll (maps : CanvasMaps) (store : LinkStore) (row link : LinkRow)
    (sourceIf targetIf : String) : Prop :=
  (row.discoveryProtocol = link.discoveryProtocol ∧ (sourceIf ≠ "" → row.sourceIfName ≠ "") ∧
    (targetIf ≠ "" → row.targetIfName ≠ "")) ∧
  ∀ mapID ∈ endpointMaps maps link.sourceDeviceID link.targetDeviceID,
    (mapID, row.id) ∈ store.mapLinks

/-- A search for the link finds a row that has all of it, and a row of the other direction is not
turned. -/
def Settled (lower : Char → Char) (maps : CanvasMaps) (store : LinkStore) (link : LinkRow) : Prop :=
  match store.findBestSameDirectionLinkMatch link with
  | some row => HasAll maps store row link link.sourceIfName link.targetIfName
  | none =>
    match store.findBestReverseLinkMatch lower link with
    | some row => shouldReorientReverseLink row link = false ∧
      HasAll maps store row link link.targetIfName link.sourceIfName
    | none => False

theorem fillName_eq_left_iff {existing incoming : String} :
    fillName existing incoming = existing ↔ (incoming ≠ "" → existing ≠ "") := by
  unfold fillName
  split_ifs with h
  · simp [h.1, h.2]
  · exact iff_of_true rfl fun hnamed hblank => h ⟨hblank, hnamed⟩

theorem fillName_ne_blank {existing incoming : String} (h : incoming ≠ "") :
    fillName existing incoming ≠ "" := by
  unfold fillName
  split_ifs with hfill
  · exact h
  · exact fun hblank => hfill ⟨hblank, h⟩

/-- A matching row stays as it is exactly if it has the names and the protocol of the link. -/
theorem filledRow_eq_self_iff {sourceIf targetIf : String} :
    enrichedRow row link (fillName row.sourceIfName sourceIf) (fillName row.targetIfName targetIf) =
        row ↔
      row.discoveryProtocol = link.discoveryProtocol ∧ (sourceIf ≠ "" → row.sourceIfName ≠ "") ∧
        (targetIf ≠ "" → row.targetIfName ≠ "") := by
  rw [enrichedRow_eq_self_iff, fillName_eq_left_iff, fillName_eq_left_iff, ← and_assoc, and_comm]

theorem reverseRow_eq_self_iff : reverseRow row link = row ↔
    shouldReorientReverseLink row link = false ∧ row.discoveryProtocol = link.discoveryProtocol ∧
      (link.targetIfName ≠ "" → row.sourceIfName ≠ "") ∧
      (link.sourceIfName ≠ "" → row.targetIfName ≠ "") := by
  cases h : shouldReorientReverseLink row link with
  | true => simp [reverseRow_ne_self h]
  | false =>
    rw [reverseRow, h, if_neg Bool.false_ne_true, filledRow_eq_self_iff]
    simp

theorem memberships_subset_iff (hp : placement lower store link = some p) :
    memberships maps p.link ⊆ store.mapLinks ↔
      ∀ mapID ∈ endpointMaps maps link.sourceDeviceID link.targetDeviceID,
        (mapID, p.matched.id) ∈ store.mapLinks := by
  obtain ⟨hid, hsrcDev, htgtDev⟩ := placement_link hp
  unfold memberships
  rw [hid, hsrcDev, htgtDev, image_subset_iff]

/-- In terms of what an upsert does: it leaves the row that it finds as it is. -/
theorem settled_iff_placement : Settled lower maps store link ↔
    ∃ p, placement lower store link = some p ∧ p.replaced = p.matched ∧
      memberships maps p.link ⊆ store.mapLinks := by
  have hrule : ∀ p : Placement, (∃ q, some p = some q ∧ q.replaced = q.matched ∧
      memberships maps q.link ⊆ store.mapLinks) ↔
        p.replaced = p.matched ∧ memberships maps p.link ⊆ store.mapLinks := by
    simp
  unfold Settled
  cases hp : placement lower store link with
  | none =>
    obtain ⟨hsame, hrev⟩ := placement_eq_none hp
    rw [hsame, hrev]
    simp
  | some p =>
    rw [hrule, memberships_subset_iff hp]
    rcases placement_eq_some hp with ⟨hsame, hreplaced⟩ | ⟨hsame, hrev, hreplaced⟩
    · rw [hsame, hreplaced, sameDirectionRow, filledRow_eq_self_iff]
      rfl
    · rw [hsame, hrev, hreplaced, reverseRow_eq_self_iff, and_assoc]
      rfl

/-! ### Upserts of settled links -/

section Upsert

variable {newID : UUID} {now : Time} {outcome : Upserted} (hkeyed : store.WellKeyed)
include hkeyed

/-- An upsert of a settled link changes nothing. -/
theorem upsert_of_settled (h : Settled lower maps store link) (newID : UUID) (now : Time) :
    ∃ upserted, upsertDetailed lower maps store link newID now = .ok upserted ∧
      upserted.store = store ∧ upserted.result.created = false ∧
      upserted.result.changed = false := by
  have hstamped : Settled lower maps store (stampLink link newID now) := h
  obtain ⟨p, hp, hsame, hmembers⟩ := settled_iff_placement.1 hstamped
  obtain ⟨kind, heq⟩ := upsertDetailed_placed maps hkeyed hp
  refine ⟨_, heq, ?_, rfl, ?_⟩
  · show { store with
      links := putRow store.links p.replaced
      mapLinks := store.mapLinks ∪ memberships maps p.link } = store
    rw [hsame, hkeyed.putRow_self (placement_mem hkeyed hp), union_eq_left.2 hmembers]
  · show (decide (p.replaced ≠ p.matched) || !decide (memberships maps p.link ⊆ store.mapLinks)) =
      false
    simp [hsame, hmembers]

variable (hok : upsertDetailed lower maps store link newID now = .ok outcome)
include hok

/-- A link whose upsert reports no change was settled. -/
theorem settled_of_unchanged (h : outcome.result.changed = false) : Settled lower maps store link := by
  show Settled lower maps store (stampLink link newID now)
  rcases upsertDetailed_ok hkeyed hok with ⟨p, kind, hp, rfl⟩ | ⟨-, -, rfl⟩
  · simp only [placedOutcome, Bool.or_eq_false_iff, decide_eq_false_iff_not, not_not,
      Bool.not_eq_false', decide_eq_true_eq] at h
    exact settled_iff_placement.2 ⟨p, hp, h⟩
  · cases h

/-! ### A link is settled by its own upsert -/

omit hkeyed hok in
/-- Rows that a search does not consider do not matter for it. -/
theorem filter_putRow {matched : LinkRow} {considers : LinkRow → Bool} (hkeyed : store.WellKeyed)
    (hmatched : matched ∈ store.links) (hid : row.id = matched.id)
    (hold : considers matched = false) (hnew : considers row = false) :
    (putRow store.links row).filter considers = store.links.filter considers := by
  have hsame : ∀ stored ∈ store.links, stored.id = row.id → stored = matched :=
    fun stored hstored heq => hkeyed.eq_of_id hstored hmatched (heq.trans hid)
  rw [putRow, List.filter_map]
  have hfilter : store.links.filter (considers ∘ fun stored => if stored.id = row.id then row else
      stored) = store.links.filter considers := by
    apply List.filter_congr
    intro stored hstored
    dsimp
    split_ifs with heq
    · rw [hnew, hsame stored hstored heq, hold]
    · rfl
  rw [hfilter]
  nth_rewrite 2 [← map_id (store.links.filter considers)]
  apply map_congr_left
  intro stored hstored
  obtain ⟨hmem, hconsidered⟩ := List.mem_filter.1 hstored
  refine if_neg fun heq => ?_
  rw [hsame stored hmem heq, hold] at hconsidered
  cases hconsidered

omit hkeyed hok in
/-- A search finds the row that its match is replaced by, if the score does not fall. -/
theorem bestMatch_putRow {matched : LinkRow} {score : LinkRow → Option Nat}
    {considers : LinkRow → Bool} (hkeyed : store.WellKeyed)
    (hnew : { store with links := putRow store.links row }.WellKeyed)
    (h : bestMatch score (store.links.filter considers) = some matched) (hid : row.id = matched.id)
    (hconsiders : considers row = true)
    (hscore : ∀ n, score matched = some n → ∃ n', score row = some n' ∧ n ≤ n') :
    bestMatch score ((putRow store.links row).filter considers) = some row := by
  have hlinks := hkeyed.links_nodup.filter considers
  obtain ⟨-, hmatched, -⟩ := (bestMatch_eq_some_iff hlinks).1 h
  refine bestMatch_of_replaced hlinks (hnew.links_nodup.filter considers) h ?_ hscore ?_
  · refine List.mem_filter.2 ⟨mem_map.2 ⟨matched, (List.mem_filter.1 hmatched).1, ?_⟩, hconsiders⟩
    exact if_pos hid.symm
  · intro other hother hne
    obtain ⟨hmem, hconsidered⟩ := List.mem_filter.1 hother
    rcases mem_putRow hmem with rfl | ⟨hold, hotherID⟩
    · exact absurd rfl hne
    · exact ⟨List.mem_filter.2 ⟨hold, hconsidered⟩, fun heq => hotherID (heq ▸ hid.symm)⟩

omit hok in
/-- A link that has a row of its own is settled. -/
theorem settled_of_exact (hrow : row ∈ store.links) (heq : row.endpoints = link.endpoints)
    (hprotocol : row.discoveryProtocol = link.discoveryProtocol)
    (hmaps : ∀ mapID ∈ endpointMaps maps link.sourceDeviceID link.targetDeviceID,
      (mapID, row.id) ∈ store.mapLinks) : Settled lower maps store link := by
  obtain ⟨-, hsource, -, htarget⟩ := endpoints_eq_iff.1 heq
  unfold Settled
  rw [sameDirection_of_exact link hkeyed hrow heq]
  exact ⟨⟨hprotocol, fun h => hsource ▸ h, fun h => htarget ▸ h⟩, hmaps⟩

omit hok in
/-- Where a link is merged into a row, the same search finds what becomes of the row. -/
theorem settled_placed (hp : placement lower store link = some p)
    (hends : link.sourceDeviceID ≠ link.targetDeviceID) (kind : LinkUpsertKind) :
    Settled lower maps (placedOutcome maps store p kind).store link := by
  have hkeyed' : (placedOutcome maps store p kind).store.WellKeyed := hkeyed.placed hp
  have hmatched := placement_mem hkeyed hp
  have hid := placement_id hp
  have hprotocol := placement_protocol hp
  have hmaps : ∀ mapID ∈ endpointMaps maps link.sourceDeviceID link.targetDeviceID,
      (mapID, p.replaced.id) ∈ store.mapLinks ∪ memberships maps p.link := by
    obtain ⟨hlinkID, hsrcDev, htgtDev⟩ := placement_link hp
    intro mapID hmap
    rw [hid, ← hlinkID]
    exact mem_union_right _ (mem_image_of_mem _ (by rw [hsrcDev, htgtDev]; exact hmap))
  have hnew : { store with links := putRow store.links p.replaced }.WellKeyed :=
    ⟨hkeyed'.ids, hkeyed'.endpoints⟩
  rcases placement_eq_some hp with ⟨hsame, hreplaced⟩ | ⟨hsame, hrev, hreplaced⟩
  · obtain ⟨n, -, hsrcDev, htgtDev, -⟩ := (sameDirection_eq_some_iff hkeyed).1 hsame
    obtain ⟨hsrc, hsourceIf, htgt, htargetIf⟩ :=
      fields_of_enrichedRow (congrArg (·.endpoints) hreplaced)
    have hfound : (placedOutcome maps store p kind).store.findBestSameDirectionLinkMatch link =
        some p.replaced := by
      refine bestMatch_putRow hkeyed hnew hsame hid ?_ fun n hn =>
        sameDirectionScore_filled hn hsourceIf htargetIf
      exact decide_eq_true ⟨hsrc.trans hsrcDev, htgt.trans htgtDev⟩
    unfold Settled
    rw [hfound]
    exact ⟨⟨hprotocol, hsourceIf ▸ fillName_ne_blank, htargetIf ▸ fillName_ne_blank⟩, hmaps⟩
  obtain ⟨n, -, hsrcDev, htgtDev, -⟩ := (reverse_eq_some_iff hkeyed).1 hrev
  rw [reverseRow] at hreplaced
  split_ifs at hreplaced with hturn
  · -- a turned row has the endpoints of the link
    have hmem : p.replaced ∈ putRow store.links p.replaced :=
      mem_map.2 ⟨p.matched, hmatched, if_pos hid.symm⟩
    exact settled_of_exact hkeyed' hmem (by rw [hreplaced]; rfl) hprotocol hmaps
  obtain ⟨hsrc, hsourceIf, htgt, htargetIf⟩ :=
    fields_of_enrichedRow (congrArg (·.endpoints) hreplaced)
  have hnone : (placedOutcome maps store p kind).store.findBestSameDirectionLinkMatch link =
      none := by
    refine (congrArg (bestMatch _) (filter_putRow hkeyed hmatched hid ?_ ?_)).trans hsame
    · exact decide_eq_false fun h => hends (h.1.symm.trans hsrcDev)
    · exact decide_eq_false fun h => hends (h.1.symm.trans (hsrc.trans hsrcDev))
  have hfound : (placedOutcome maps store p kind).store.findBestReverseLinkMatch lower link =
      some p.replaced := by
    refine bestMatch_putRow hkeyed hnew hrev hid ?_ fun n hn =>
      reverseScore_filled hn hsourceIf htargetIf
    exact decide_eq_true ⟨hsrc.trans hsrcDev, htgt.trans htgtDev⟩
  unfold Settled
  rw [hnone, hfound]
  refine ⟨?_, ⟨hprotocol, hsourceIf ▸ fillName_ne_blank, htargetIf ▸ fillName_ne_blank⟩, hmaps⟩
  -- a source name that is still blank was blank before, and the row was not turned then
  rw [Bool.eq_false_iff]
  intro hagain
  simp only [shouldReorientReverseLink, Bool.and_eq_true, decide_eq_true_eq, hsourceIf] at hagain
  obtain ⟨⟨hblank, hnamed⟩, htarget⟩ := hagain
  apply hturn
  have hold : p.matched.sourceIfName = "" := by
    rcases fillName_cases p.matched.sourceIfName link.targetIfName with heq | ⟨hold, -, -⟩
    · exact heq.symm.trans hblank
    · exact hold
  simp [shouldReorientReverseLink, hold, hnamed, htarget]

/-- A link between two devices is settled right after its upsert. -/
theorem settled_upserted (hends : link.sourceDeviceID ≠ link.targetDeviceID) :
    Settled lower maps outcome.store link := by
  have hkeyed' := hkeyed.upserted hok
  rcases upsertDetailed_ok hkeyed hok with ⟨p, kind, hp, rfl⟩ | ⟨-, -, rfl⟩
  · exact settled_placed hkeyed hp hends kind
  · exact settled_of_exact hkeyed' (mem_append_right _ mem_cons_self) rfl rfl fun mapID hmap =>
      mem_union_right _ (mem_image_of_mem _ hmap)

end Upsert

/-! ### Two runs of `ApplyObservations` -/

section Calls

variable {calls : List (LinkRow × Stamp)} {result applied : ApplyResult}

/-- A change that was reported stays reported. -/
theorem topologyChanged_of_result (h : result.topologyChanged = true)
    (hok : (applyLinks lower maps store result calls).2 = .ok applied) :
    applied.topologyChanged = true := by
  induction calls generalizing store result with
  | nil =>
    cases hok
    exact h
  | cons call rest ih =>
    unfold applyLinks at hok
    split at hok
    · cases hok
    · exact ih (by simp [ApplyResult.add, h]) hok

/-- A run reports no change exactly if all its links are settled, and then it changes nothing. -/
theorem applyLinks_unchanged_iff (hkeyed : store.WellKeyed) (result : ApplyResult) :
    (∃ applied, applyLinks lower maps store result calls = (store, .ok applied) ∧
      applied.linksCreated = result.linksCreated ∧ applied.topologyChanged = false) ↔
    result.topologyChanged = false ∧ ∀ call ∈ calls, Settled lower maps store call.1 := by
  induction calls generalizing result with
  | nil => simp [applyLinks]
  | cons call rest ih =>
    obtain ⟨link, stamp⟩ := call
    rw [List.forall_mem_cons]
    constructor
    · rintro ⟨applied, heq, hcreated, hunchanged⟩
      unfold applyLinks at heq
      split at heq
      · cases heq
      rename_i upserted hok
      -- the first call reports no change either, so its link is settled
      have hfirst : (result.add upserted).topologyChanged = false := by
        by_contra hchanged
        have hlater := topologyChanged_of_result (Bool.eq_true_of_not_eq_false hchanged)
          (congrArg Prod.snd heq)
        rw [hunchanged] at hlater
        cases hlater
      obtain ⟨hresult, hupserted⟩ := Bool.or_eq_false_iff.1 hfirst
      have hsettled := settled_of_unchanged hkeyed hok hupserted
      obtain ⟨same, hsame, hstore, hnotCreated, -⟩ :=
        upsert_of_settled hkeyed hsettled stamp.newID stamp.now
      cases hok.symm.trans hsame
      rw [hstore] at heq
      have hrest := (ih (result.add upserted)).1 ⟨applied, heq, by
        rw [hcreated, ApplyResult.add, hnotCreated]; rfl, hunchanged⟩
      exact ⟨hresult, hsettled, hrest.2⟩
    · rintro ⟨hresult, hsettled, hrest⟩
      obtain ⟨upserted, hok, hstore, hcreated, hchanged⟩ :=
        upsert_of_settled hkeyed hsettled stamp.newID stamp.now
      obtain ⟨applied, heq, hlinks, hunchanged⟩ := (ih (result.add upserted)).2
        ⟨by simp [ApplyResult.add, hresult, hchanged], hrest⟩
      refine ⟨applied, ?_, ?_, hunchanged⟩
      · rw [applyLinks, hok]
        dsimp only
        rw [hstore, heq]
      · rw [hlinks, ApplyResult.add, hcreated]
        rfl

/-- Every link is settled right after its call. -/
theorem settled_along {before after : List (LinkRow × Stamp)} {call : LinkRow × Stamp}
    (hkeyed : store.WellKeyed)
    (hok : (applyLinks lower maps store result (before ++ call :: after)).2 = .ok applied)
    (hends : call.1.sourceDeviceID ≠ call.1.targetDeviceID) :
    Settled lower maps (applyLinks lower maps store result (before ++ [call])).1 call.1 := by
  obtain ⟨link, stamp⟩ := call
  induction before generalizing store result with
  | nil =>
    rw [nil_append, applyLinks] at hok
    rw [nil_append, applyLinks]
    cases hupsert : store.upsertDetailed lower maps link stamp.newID stamp.now with
    | error e => simp [hupsert] at hok
    | ok upserted => exact settled_upserted hkeyed hupsert hends
  | cons first rest ih =>
    rw [cons_append, applyLinks] at hok
    rw [cons_append, applyLinks]
    cases hupsert : store.upsertDetailed lower maps first.1 first.2.newID first.2.now with
    | error e => simp [hupsert] at hok
    | ok upserted =>
      rw [hupsert] at hok
      exact ih (hkeyed.upserted hupsert) hok

end Calls

/-- The same link, as device 2 reports it. -/
def reportedBack : Observation where
  localDeviceID := 2
  remoteIdentity := "one"
  remoteDeviceID := 1
  localPort := "ETHER2"
  remotePort := "Ether1"

/-- A stored cable, and a row of the same devices that leaves the port of device 2 blank. -/
def halfKnown : LinkStore where
  devices := {1, 2}
  links := [{ (reported "ether1" "ether2").link with id := 7 },
    { (reported "ether1" "").link with id := 8 }]

/-- A run leaves the same tables and reports the same result whatever the order in which its
observations are listed: they are sorted before the first write, and those that the order does not
tell apart propose the same link. -/
theorem discovery_order_irrelevant (lower : Char → Char) (maps : CanvasMaps) (store : LinkStore)
    (stamps : Nat → Stamp) {observations observations' : List Observation}
    (h : observations.Perm observations') :
    applyObservations lower maps store observations stamps =
      applyObservations lower maps store observations' stamps := by
  unfold applyObservations candidateCalls
  rw [candidateLinks_perm h]

theorem discovery_order_irrelevant_pair :
    applyObservations Char.toLower {} pairStore [reported "ether1" "ether2", reportedBack]
        reportStamps =
      applyObservations Char.toLower {} pairStore [reportedBack, reported "ether1" "ether2"]
        reportStamps :=
  discovery_order_irrelevant _ _ _ _ (List.Perm.swap ..)

end LinkStore

end Theia
