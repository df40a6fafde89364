import Theia.Native.BulkBackupRun

/-!
# A finished bulk run is complete

Whoever holds the lease is the only one that writes items, and it writes those it found open.
`Knows` says what the holder of the lease knows about the tables at each of its statements; every
statement of the holder keeps it, and nobody else can break it. A run becomes terminal by
`FinishBulkRun` alone, at a point where the holder knows that every item is terminal.

The one gap is the loop that cancels the pending items of a cancelled run: it goes on when the
update of an item fails, and the run is finished with the item open.
-/

namespace Theia

open List BulkRunProcessor BulkRunStore

variable {s s' : BulkRunStore} {phase phase' : Phase} {items : List BulkBackupRunItem}
  {item : BulkBackupRunItem} {p : Nat} {batchSize : Int}

/-- The item is not terminal. -/
def BulkBackupRunItem.Open (item : BulkBackupRunItem) : Prop :=
  bulkRunItemTerminal item.status = false

namespace BulkRunStore

/-- Every item is terminal. -/
def AllTerminal (s : BulkRunStore) : Prop :=
  ∀ item ∈ s.items, bulkRunItemTerminal item.status = true

/-- Every item succeeded. -/
def AllSuccess (s : BulkRunStore) : Prop := ∀ item ∈ s.items, item.status = .success

end BulkRunStore

/-! ### Counting -/

theorem countItems_terminal (h : ∀ item ∈ items, bulkRunItemTerminal item.status = true) :
    (countItems items).success + (countItems items).failed + (countItems items).skipped +
      (countItems items).cancelled = items.length := by
  simp only [countItems]
  induction items with
  | nil => rfl
  | cons item items ih =>
    have hitem := h item mem_cons_self
    have ih := ih fun item hmem => h item (mem_cons_of_mem _ hmem)
    cases hs : item.status <;> simp [hs, bulkRunItemTerminal] at hitem ⊢ <;> omega

theorem countItems_success (h : (countItems items).success = (countItems items).total) :
    ∀ item ∈ items, item.status = .success := by
  intro item hmem
  have hall := countP_eq_length.1 h item hmem
  simpa using hall

/-! ### What the holder of the lease knows -/

namespace BulkRunProcessor

/-- The items that a processor may still write, in this batch or this cancellation. -/
def pending : Phase → List UUID
  | .complete item next => item.id :: pending next
  | .count next => pending next
  | .claim _ todo claimed => claimed ++ todo
  | .claimRead _ id todo claimed => claimed ++ id :: todo
  | .check _ todo candidates => candidates ++ todo
  | .attach _ todo _ => todo
  | _ => []

/-- In `cancelPendingBulkRunItems`, the items that are still to be cancelled. -/
def toCancel : Phase → Option (List UUID)
  | .rereadCancelling => some []
  | .count next => toCancel next
  | .complete item next =>
    if item.status = .cancelled then (toCancel next).map (item.id :: ·) else none
  | _ => none

/-- `finishBulkBackupRun` is under way. -/
def finishing : Phase → Bool
  | .countFinished | .readFinished | .finish _ => true
  | _ => false

/-- What comes after an update of an item: only terminal items are written, only the loop that
cancels items writes cancelled ones, and no update is followed by the end at once. -/
def WellFormed : Phase → Prop
  | .complete item next =>
    bulkRunItemTerminal item.status = true ∧ (item.status ≠ .cancelled → toCancel next = none) ∧
      finishing next = false ∧ WellFormed next
  | .count next => finishing next = false ∧ WellFormed next
  | _ => True

/-- What a processor that holds the lease knows about the tables. -/
structure Knows (s : BulkRunStore) (phase : Phase) : Prop where
  wellFormed : WellFormed phase
  nodup : (pending phase).Nodup
  isOpen : ∀ item ∈ s.items, item.id ∈ pending phase → item.Open
  covered : ∀ ids, toCancel phase = some ids → ∀ item ∈ s.items, item.Open →
    ¬(item.status = .active ∨ item.status = .running) → item.id ∈ ids
  terminal : finishing phase = true → s.AllTerminal
  counted : phase = .readFinished ∨ (∃ status, phase = .finish status) →
    s.run.counts = countItems s.items
  decided : ∀ status, phase = .finish status →
    bulkRunTerminal status = true ∧ (status = .success → s.AllSuccess)

section

variable (hwf : WellFormed phase) (hnd : (pending phase).Nodup)
  (hopen : ∀ item ∈ s.items, item.id ∈ pending phase → item.Open)
include hwf hnd hopen

theorem Knows.unfinished
    (hcovered : ∀ ids, toCancel phase = some ids → ∀ item ∈ s.items, item.Open →
      ¬(item.status = .active ∨ item.status = .running) → item.id ∈ ids)
    (hfin : finishing phase = false) : Knows s phase where
  wellFormed := hwf
  nodup := hnd
  isOpen := hopen
  covered := hcovered
  terminal h := by
    rw [hfin] at h
    cases h
  counted h := by
    rcases h with rfl | ⟨status, rfl⟩ <;> cases hfin
  decided status h := by
    rw [h] at hfin
    cases hfin

theorem Knows.batch
    (hcancel : toCancel phase = none) (hfin : finishing phase = false) : Knows s phase := by
  refine .unfinished hwf hnd hopen (fun ids hids => ?_) hfin
  rw [hcancel] at hids
  cases hids

end

theorem Knows.plain (s : BulkRunStore) (hwf : WellFormed phase) (hpend : pending phase = [])
    (hcancel : toCancel phase = none) (hfin : finishing phase = false) : Knows s phase := by
  refine .batch hwf ?_ (fun item _ hmem => ?_) hcancel hfin
  · rw [hpend]
    exact nodup_nil
  · rw [hpend] at hmem
    cases hmem

theorem Knows.shrink (h : Knows s phase) (hwf : WellFormed phase')
    (hsub : (pending phase').Sublist (pending phase)) (hcancel : toCancel phase' = none)
    (hfin : finishing phase' = false) : Knows s phase' :=
  .batch hwf (h.nodup.sublist hsub)
    (fun item hitem hmem => h.isOpen item hitem (hsub.subset hmem)) hcancel hfin

/-! ### Rewriting items -/

/-- Items keep their IDs, and terminal items their status. -/
def ItemsKept (s s' : BulkRunStore) : Prop :=
  ∃ f : BulkBackupRunItem → BulkBackupRunItem, s'.items = s.items.map f ∧
    (∀ item, (f item).id = item.id) ∧
    ∀ item ∈ s.items, bulkRunItemTerminal item.status = true → (f item).status = item.status

theorem ItemsKept.refl (h : s'.items = s.items) : ItemsKept s s' :=
  ⟨id, by rw [h, map_id], fun _ => rfl, fun _ _ _ => rfl⟩

section WithItem

variable {id : UUID} {f : BulkBackupRunItem → BulkBackupRunItem}
  (hf : ∀ item, item.id = id → (f item).id = item.id)
include hf

theorem withItem_id (row : BulkBackupRunItem) :
    (if row.id = id then f row else row).id = row.id := by
  split
  · exact hf row ‹_›
  · rfl

theorem withItem_kept
    (hterm : ∀ item ∈ s.items, item.id = id → bulkRunItemTerminal item.status = true →
      (f item).status = item.status) : ItemsKept s (s.withItem id f) := by
  refine ⟨_, rfl, withItem_id hf, fun row hrow hterminal => ?_⟩
  split
  · exact hterm row hrow ‹_› hterminal
  · rfl

theorem withItem_ids (s : BulkRunStore) :
    (s.withItem id f).items.map (·.id) = s.items.map (·.id) := by
  rw [withItem, map_map]
  exact map_congr_left fun row _ => withItem_id hf row

theorem withItem_isOpen {ids : List UUID}
    (h : ∀ item ∈ s.items, item.id ∈ ids → item.Open ∧ (item.id = id → (f item).Open)) :
    ∀ item ∈ (s.withItem id f).items, item.id ∈ ids → item.Open := by
  intro item hmem hin
  obtain ⟨row, hrow, rfl⟩ := mem_map.1 hmem
  rw [withItem_id hf] at hin
  split
  · exact (h row hrow hin).2 ‹_›
  · exact (h row hrow hin).1

end WithItem

theorem claimedItem_id (item : BulkBackupRunItem) : (claimedItem item).id = item.id := by
  unfold claimedItem
  split <;> rfl

theorem claimedItem_open (h : item.Open) : (claimedItem item).Open := by
  unfold claimedItem
  split
  · rfl
  · exact h

theorem claimedItem_terminal (h : bulkRunItemTerminal item.status = true) :
    (claimedItem item).status = item.status := by
  unfold claimedItem
  split_ifs with hchecking
  · rw [hchecking] at h
    cases h
  · rfl

/-! ### One statement of the holder -/

/-- A finished run: every item is terminal and counted, and `success` means success. -/
structure Finished (s : BulkRunStore) : Prop where
  terminal : s.AllTerminal
  counts : s.run.counts = countItems s.items
  success : s.run.status = .success → s.AllSuccess

/-- The status of the run stays, or the run was open and is now finished only if it is complete. -/
def RunKept (s s' : BulkRunStore) : Prop :=
  (s'.run.status = s.run.status ∧
    (s'.run.counts = s.run.counts ∨ s'.run.counts = countItems s'.items)) ∨
  (bulkRunTerminal s.run.status = false ∧ (bulkRunTerminal s'.run.status = true → Finished s'))

theorem RunKept.refl (h : s'.run = s.run) : RunKept s s' :=
  .inl ⟨by rw [h], .inl (by rw [h])⟩

/-- The outcome of a statement of the holder of the lease. -/
structure HolderStep (s s' : BulkRunStore) (phase' : Phase) : Prop where
  knows : Knows s' phase'
  items : ItemsKept s s'
  run : RunKept s s'
  owner : s'.processingOwner = s.processingOwner ∨ s'.processingOwner = none

theorem HolderStep.read (h : Knows s phase') : HolderStep s s phase' :=
  ⟨h, .refl rfl, .refl rfl, .inl rfl⟩

/-- A statement of the holder, in a phase. -/
abbrev HolderAdvance (s : BulkRunStore) (p : Nat) (input : Input) (phase : Phase) : Prop :=
  HolderStep s (advance s p input phase).1 (advance s p input phase).2

theorem knows_release (s : BulkRunStore) : Knows s .release := .plain s trivial rfl rfl rfl

theorem knows_refresh (s : BulkRunStore) : Knows s .refresh := .plain s trivial rfl rfl rfl

theorem of_guarded {α : Type} {c : Prop} [Decidable c] {result : Option α} {a : α}
    (h : (if c then result else none) = some a) : result = some a :=
  (Option.ite_none_right_eq_some.1 h).2

@[simp]
theorem attempt_none {α : Type} (input : Input) : attempt input (none : Option α) = none :=
  ite_self _

theorem Knows.recount (h : Knows s phase) :
    Knows { s with run := { s.run with counts := countItems s.items } } phase :=
  { h with counted := fun _ => rfl }

theorem recalculate_holder (h : Knows s phase) (hs : s.recalculateRunCounters p = some s') :
    HolderStep s s' phase ∧ s'.run.counts = countItems s'.items := by
  cases of_guarded hs
  exact ⟨⟨h.recount, .refl rfl, .inl ⟨rfl, .inr rfl⟩, .inl rfl⟩, rfl⟩

section Holder

variable (p) (input : Input) {next : Phase} {id : UUID} {batch todo ids : List UUID}

/-- `recalculateBulkRunCounters` -/
theorem count_holder (h : Knows s (.count next)) : HolderAdvance s p input (.count next) := by
  -- the phase that follows has the same obligations
  have hnext : Knows s next :=
    .unfinished h.wellFormed.2 h.nodup h.isOpen h.covered h.wellFormed.1
  simp only [HolderAdvance, advance]
  cases hr : attempt input (s.recalculateRunCounters p) with
  | none => exact .read hnext
  | some s' => exact (recalculate_holder hnext (of_guarded hr)).1

/-- `completeBulkRunItem`; an update in the loop that cancels items must not fail. -/
theorem complete_holder (hlock : s.lockProcessor p = true) (h : Knows s (.complete item next))
    (hcareful : item.status = .cancelled → input.ok = true) :
    HolderAdvance s p input (.complete item next) := by
  obtain ⟨hterm, hcancelNone, hfin, hwf⟩ := h.wellFormed
  have hnd := h.nodup
  rw [pending, nodup_cons] at hnd
  have hopen : ∀ row ∈ s.items, row.id ∈ pending next → row.Open := fun row hrow hin =>
    h.isOpen row hrow (mem_cons_of_mem _ hin)
  have hcovered : ∀ ids, toCancel next = some ids → ∀ row ∈ s.items, row.Open →
      ¬(row.status = .active ∨ row.status = .running) →
      item.status = .cancelled ∧ row.id ∈ item.id :: ids := by
    intro ids hids row hrow hrowOpen hidle
    have hcancelled : item.status = .cancelled := by
      by_contra hne
      rw [hcancelNone hne] at hids
      cases hids
    exact ⟨hcancelled, h.covered (item.id :: ids) (by simp [toCancel, hcancelled, hids]) row hrow
      hrowOpen hidle⟩
  simp only [HolderAdvance, advance]
  cases hr : attempt input (s.updateRunItem p item) with
  | none =>
    -- the update failed, or there is no such item
    refine .read (.unfinished hwf hnd.2 hopen ?_ hfin)
    intro ids hids row hrow hrowOpen hidle
    obtain ⟨hcancelled, hmem⟩ := hcovered ids hids row hrow hrowOpen hidle
    rcases mem_cons.1 hmem with hid | hmem
    · exfalso
      rw [attempt, if_pos (hcareful hcancelled), updateRunItem, if_pos] at hr
      · cases hr
      · rw [hlock, Bool.true_and, any_eq_true]
        exact ⟨row, hrow, decide_eq_true hid⟩
    · exact hmem
  | some s' =>
    cases of_guarded (of_guarded hr)
    refine ⟨.unfinished ⟨hfin, hwf⟩ hnd.2 ?_ ?_ rfl, ?_, .refl rfl, .inl rfl⟩
    · -- the item that was written is not pending any more
      refine withItem_isOpen (fun row hrow => hrow.symm) fun row hrow hin => ?_
      exact ⟨hopen row hrow hin, fun heq => absurd (heq ▸ hin) hnd.1⟩
    · intro ids hids row hrow hrowOpen hidle
      obtain ⟨old, hold, rfl⟩ := mem_map.1 hrow
      by_cases heq : old.id = item.id
      · rw [if_pos heq] at hrowOpen
        rw [BulkBackupRunItem.Open, hterm] at hrowOpen
        cases hrowOpen
      · rw [if_neg heq] at hrowOpen hidle ⊢
        have hmem := (hcovered ids hids old hold hrowOpen hidle).2
        exact (mem_cons.1 hmem).resolve_left heq
    · refine withItem_kept (fun row hrow => hrow.symm) fun row hrow heq hterminal => ?_
      have hrowOpen := h.isOpen row hrow (heq ▸ mem_cons_self)
      rw [BulkBackupRunItem.Open, hterminal] at hrowOpen
      cases hrowOpen

/-- The items that `cancelPendingBulkRunItems` cancels. -/
def cancellable (items : List BulkBackupRunItem) : List BulkBackupRunItem :=
  items.filter fun item => decide
    (bulkRunItemTerminal item.status = false ∧ ¬(item.status = .active ∨ item.status = .running))

theorem cancelPending_spec (items : List BulkBackupRunItem) :
    WellFormed (cancelPendingBulkRunItems items) ∧
      finishing (cancelPendingBulkRunItems items) = false ∧
      pending (cancelPendingBulkRunItems items) = (cancellable items).map (·.id) ∧
      toCancel (cancelPendingBulkRunItems items) = some ((cancellable items).map (·.id)) := by
  induction items with
  | nil => exact ⟨⟨rfl, trivial⟩, rfl, rfl, rfl⟩
  | cons item items ih =>
    obtain ⟨hwf, hfin, hpending, hcancel⟩ := ih
    simp only [cancelPendingBulkRunItems]
    split_ifs with hskip
    · rw [cancellable, filter_cons_of_neg]
      · exact ⟨hwf, hfin, hpending, hcancel⟩
      · rw [decide_eq_true_eq]
        rintro ⟨hopen, hidle⟩
        simp [hopen, hidle] at hskip
    · rw [not_or, Bool.not_eq_true] at hskip
      have hkept : cancellable (item :: items) = item :: cancellable items :=
        filter_cons_of_pos (decide_eq_true hskip)
      rw [hkept, map_cons]
      refine ⟨⟨rfl, fun h => absurd rfl h, hfin, hwf⟩, rfl, ?_, ?_⟩
      · rw [pending, hpending]
        rfl
      · simp [toCancel, completedItem, hcancel]

theorem knows_cancelPending (s : BulkRunStore) (hids : (s.items.map (·.id)).Nodup) :
    Knows s (cancelPendingBulkRunItems s.items) := by
  obtain ⟨hwf, hfin, hpending, hcancel⟩ := cancelPending_spec s.items
  refine .unfinished hwf ?_ ?_ ?_ hfin
  · rw [hpending]
    exact hids.sublist (filter_sublist.map _)
  · intro item hitem hmem
    rw [hpending] at hmem
    obtain ⟨row, hrow, hrowid⟩ := mem_map.1 hmem
    obtain ⟨hrow, hopen⟩ := mem_filter.1 hrow
    have heq : row = item := inj_on_of_nodup_map hids hrow hitem hrowid
    exact heq ▸ (of_decide_eq_true hopen).1
  · intro ids hids' item hitem hopen hidle
    rw [hcancel] at hids'
    cases hids'
    exact mem_map_of_mem (mem_filter.2 ⟨hitem, decide_eq_true ⟨hopen, hidle⟩⟩)

theorem mem_nextBulkRunBatch (h : item ∈ nextBulkRunBatch items batchSize) :
    item ∈ items ∧ item.Open := by
  have hmem := mem_filter.1 (mem_of_mem_take h)
  refine ⟨hmem.1, ?_⟩
  simpa [BulkBackupRunItem.Open] using hmem.2

theorem nextBulkRunBatch_eq_nil (h : nextBulkRunBatch items batchSize = []) :
    ∀ item ∈ items, bulkRunItemTerminal item.status = true := by
  have hsize : (if batchSize ≤ 0 then defaultBulkBackupRunBatchSize else batchSize.toNat) ≠ 0 := by
    unfold defaultBulkBackupRunBatchSize
    split <;> omega
  have hnil := (take_eq_nil_iff.1 h).resolve_left hsize
  intro item hitem
  simpa using filter_eq_nil_iff.1 hnil item hitem

theorem nextBulkRunBatch_sublist (items : List BulkBackupRunItem) (batchSize : Int) :
    (nextBulkRunBatch items batchSize).Sublist items :=
  (take_sublist _ _).trans filter_sublist

theorem knows_processRun (s : BulkRunStore) (hids : (s.items.map (·.id)).Nodup)
    (run : BulkBackupRun) : Knows s (processRun run s.items) := by
  unfold processRun
  split
  · exact knows_release s
  split
  · exact knows_release s
  split
  · exact .plain s trivial rfl rfl rfl
  split
  · exact knows_cancelPending s hids
  cases hbatch : nextBulkRunBatch s.items run.batchSize with
  | nil =>
    exact ⟨trivial, nodup_nil, nofun, nofun, fun _ => nextBulkRunBatch_eq_nil hbatch, nofun, nofun⟩
  | cons first rest =>
    refine .batch trivial ?_ ?_ rfl rfl
    · show (([] : List UUID) ++ (first :: rest).map (·.id)).Nodup
      rw [nil_append, ← hbatch]
      exact hids.sublist ((nextBulkRunBatch_sublist _ _).map _)
    · intro item hitem hmem
      rw [pending, nil_append, ← hbatch] at hmem
      obtain ⟨row, hrow, hrowid⟩ := mem_map.1 hmem
      obtain ⟨hrowmem, hrowOpen⟩ := mem_nextBulkRunBatch hrow
      have heq : row = item := inj_on_of_nodup_map hids hrowmem hitem hrowid
      exact heq ▸ hrowOpen

/-- The `GetRun` after the pending items were cancelled: if nothing is running, nothing is
open. -/
theorem rereadCancelling_holder (h : Knows s .rereadCancelling) :
    HolderAdvance s p input .rereadCancelling := by
  simp only [HolderAdvance, advance]
  refine .read ?_
  split
  · exact knows_release s
  split_ifs with hnone
  · have hall : s.AllTerminal := by
      intro item hitem
      by_contra hopen
      rw [Bool.not_eq_true] at hopen
      have hidle : ¬(item.status = .active ∨ item.status = .running) := by
        have hfilter := filter_eq_nil_iff.1 hnone item hitem
        simpa using hfilter
      cases h.covered [] rfl item hitem hopen hidle
    exact ⟨trivial, nodup_nil, nofun, nofun, fun _ => hall, nofun, nofun⟩
  · exact .plain s trivial rfl rfl rfl

/-- `ClaimBulkRunItem` -/
theorem claim_holder {claimed : List UUID} (h : Knows s (.claim batch (id :: todo) claimed)) :
    HolderAdvance s p input (.claim batch (id :: todo) claimed) := by
  have hrest : Knows s (.claim batch todo claimed) :=
    h.shrink trivial (List.Sublist.append_left (sublist_cons_self _ _) _) rfl rfl
  simp only [HolderAdvance, advance]
  cases hr : attempt input (s.claimBulkRunItem p id) with
  | none => exact .read hrest
  | some res =>
    have hs := of_guarded (of_guarded hr)
    split at hs
    · cases hs
      have hid : ∀ row : BulkBackupRunItem, row.id = id → _ := fun row _ => claimedItem_id row
      refine ⟨.batch trivial h.nodup ?_ rfl rfl, withItem_kept hid ?_, .refl rfl, .inl rfl⟩
      · refine withItem_isOpen hid fun row hrow hin => ?_
        exact ⟨h.isOpen row hrow hin, fun _ => claimedItem_open (h.isOpen row hrow hin)⟩
      · intro row _ _
        exact claimedItem_terminal
    · cases hs
      exact .read hrest

theorem check_holder {candidates : List UUID} (h : Knows s (.check batch (id :: todo) candidates)) :
    HolderAdvance s p input (.check batch (id :: todo) candidates) := by
  simp only [HolderAdvance, advance]
  cases hv : input.verdict.outcome with
  | none =>
    exact .read (h.shrink trivial (by simp [pending]) rfl rfl)
  | some outcome =>
    obtain ⟨status, reason⟩ := outcome
    have hstatus : bulkRunItemTerminal status = true := by
      cases hverdict : input.verdict <;> rw [hverdict] at hv <;> cases hv <;> rfl
    have hperm : (candidates ++ id :: todo).Perm (id :: (candidates ++ todo)) := perm_middle
    refine .read (.batch ⟨hstatus, fun _ => rfl, rfl, trivial⟩ ?_ ?_ ?_ rfl)
    · exact hperm.nodup_iff.1 h.nodup
    · intro item hitem hmem
      exact h.isOpen item hitem (hperm.mem_iff.2 hmem)
    · simp [toCancel]

/-- `CreateBulkRunJob`, or the completion of an item that gets no job. -/
theorem attach_holder {created : Bool} (h : Knows s (.attach batch (id :: todo) created)) :
    HolderAdvance s p input (.attach batch (id :: todo) created) := by
  have hcomplete : ∀ status reason, bulkRunItemTerminal status = true →
      HolderStep s s (.complete (completedItem id status reason) (.attach batch todo created)) := by
    intro status reason hstatus
    refine .read (h.shrink ⟨hstatus, fun _ => rfl, rfl, trivial⟩ (.refl _) ?_ rfl)
    simp [toCancel]
  have hnd := h.nodup
  rw [pending, nodup_cons] at hnd
  simp only [HolderAdvance, advance]
  split
  · exact hcomplete _ _ rfl
  cases hr : attempt input (s.createBulkRunJob p id input.jobID) with
  | none => exact hcomplete _ _ rfl
  | some s' =>
    cases of_guarded (of_guarded hr)
    have hid : ∀ item : BulkBackupRunItem, item.id = id →
        { item with backupJobID := some input.jobID }.id = item.id := fun _ _ => rfl
    refine ⟨.batch trivial hnd.2 (withItem_isOpen hid fun row hrow hin => ?_) rfl rfl,
      withItem_kept hid fun _ _ _ _ => rfl, .refl rfl, .inl rfl⟩
    have hrowOpen := h.isOpen row hrow (mem_cons_of_mem _ hin)
    exact ⟨hrowOpen, fun _ => hrowOpen⟩

theorem reconcileItem_id (s : BulkRunStore) (ids : List UUID) (item : BulkBackupRunItem) :
    (s.reconcileItem ids item).id = item.id := by
  unfold reconcileItem
  split
  · split
    · rfl
    · split <;> rfl
  · rfl

theorem reconcileItem_terminal (s : BulkRunStore) (ids : List UUID)
    (h : bulkRunItemTerminal item.status = true) : s.reconcileItem ids item = item := by
  unfold reconcileItem
  split_ifs with hjob
  · exfalso
    cases hs : item.status <;> simp [hs, bulkRunItemTerminal, hasJob] at h hjob
  · rfl

/-- A successful `ReconcileBulkRunBatchContext` rewrites items and recounts them. -/
theorem reconcile_spec {p : Nat} {ids : List UUID} {complete : Bool}
    (h : s.reconcileBulkRunBatch p ids = some (s', complete)) :
    (s'.items = s.items ∨ s'.items = s.items.map (s.reconcileItem ids)) ∧
      (s'.run = s.run ∨ s'.run = { s.run with counts := countItems s'.items }) ∧
      s'.processingOwner = s.processingOwner ∧ s'.leaseExpired = s.leaseExpired := by
  unfold reconcileBulkRunBatch at h
  split at h
  · cases h
    exact ⟨.inl rfl, .inl rfl, rfl, rfl⟩
  split at h
  · dsimp only at h
    split at h
    · rw [← (Prod.mk.inj (Option.some.inj h)).1]
      split
      · exact ⟨.inr rfl, .inr rfl, rfl, rfl⟩
      · exact ⟨.inr rfl, .inl rfl, rfl, rfl⟩
    · cases h
  · cases h

/-- `ReconcileBulkRunBatchContext` while waiting for the batch. -/
theorem wait_holder : HolderAdvance s p input (.wait ids) := by
  have hwait : ∀ s', Knows s' (.wait ids) := fun s' => .plain s' trivial rfl rfl rfl
  simp only [HolderAdvance, advance]
  split
  · exact .read (knows_release s)
  split
  · split
    · exact .read (hwait s)
    · exact .read (knows_release s)
  cases hr : attempt input (s.reconcileBulkRunBatch p ids) with
  | none => exact .read (knows_release s)
  | some res =>
    obtain ⟨s', complete⟩ := res
    obtain ⟨hitems, hrun, howner, -⟩ := reconcile_spec (of_guarded hr)
    have hkept : ItemsKept s s' := by
      rcases hitems with hitems | hitems
      · exact .refl hitems
      · refine ⟨_, hitems, reconcileItem_id s ids, fun item _ hterm => ?_⟩
        rw [reconcileItem_terminal s ids hterm]
    have hrunKept : RunKept s s' := by
      rcases hrun with hrun | hrun
      · exact .refl hrun
      · exact .inl ⟨by rw [hrun], .inr (by rw [hrun])⟩
    cases complete
    · exact ⟨hwait s', hkept, hrunKept, .inl howner⟩
    · exact ⟨knows_refresh s', hkept, hrunKept, .inl howner⟩

theorem countFinished_holder (h : Knows s .countFinished) :
    HolderAdvance s p input .countFinished := by
  simp only [HolderAdvance, advance]
  cases hr : attempt input (s.recalculateRunCounters p) with
  | none => exact .read (knows_release s)
  | some s' =>
    obtain ⟨⟨hknows, hitems, hrun, howner⟩, hcounts⟩ := recalculate_holder h (of_guarded hr)
    exact ⟨⟨trivial, nodup_nil, nofun, nofun, fun _ => hknows.terminal rfl, fun _ => hcounts,
      nofun⟩, hitems, hrun, howner⟩

/-- The status that a run is given is terminal, and `success` only if every item succeeded. -/
theorem finishStatus_spec (hcounts : s.run.counts = countItems s.items) :
    bulkRunTerminal (finishStatus s.run) = true ∧
      (finishStatus s.run = .success → s.AllSuccess) := by
  unfold finishStatus
  split
  · split <;> exact ⟨rfl, nofun⟩
  split
  · rename_i hall
    refine ⟨rfl, fun _ => ?_⟩
    rw [hcounts] at hall
    exact countItems_success hall.2
  split <;> exact ⟨rfl, nofun⟩

theorem readFinished_holder (h : Knows s .readFinished) :
    HolderAdvance s p input .readFinished := by
  simp only [HolderAdvance, advance]
  refine .read ?_
  split
  · have hcounts := h.counted (.inl rfl)
    refine ⟨trivial, nodup_nil, nofun, nofun, fun _ => h.terminal rfl, fun _ => hcounts, ?_⟩
    intro status hstatus
    rw [← Phase.finish.inj hstatus]
    exact finishStatus_spec hcounts
  · exact knows_release s

/-- `FinishBulkRun` -/
theorem finish_holder {status : BulkBackupRunStatus} (h : Knows s (.finish status)) :
    HolderAdvance s p input (.finish status) := by
  simp only [HolderAdvance, advance]
  cases hr : attempt input (s.finishBulkRun p status) with
  | none => exact .read (knows_release s)
  | some s' =>
    have hs := of_guarded (of_guarded hr)
    split at hs
    · cases hs
      exact .read (knows_release s)
    rename_i hopen
    cases hs
    rw [Bool.not_eq_true] at hopen
    refine ⟨knows_release _, .refl rfl, .inr ⟨hopen, fun _ => ⟨h.terminal rfl, ?_, ?_⟩⟩, .inl rfl⟩
    · exact h.counted (.inr ⟨status, rfl⟩)
    · exact (h.decided status rfl).2

/-- `UpdateRun` with the status paused. -/
theorem pause_holder {latest : BulkBackupRun} : HolderAdvance s p input (.pause latest) := by
  simp only [HolderAdvance, advance]
  cases hr : attempt input (s.updateRun p { latest with status := .paused }) with
  | none => exact .read (knows_release s)
  | some s' =>
    have hs := of_guarded (of_guarded hr)
    split_ifs at hs with hopen
    · cases hs
      refine ⟨knows_release _, .refl rfl, .inr ⟨?_, nofun⟩, .inl rfl⟩
      -- a terminal status is not `paused`
      simp only [Bool.or_eq_true, Bool.not_eq_true', decide_eq_true_eq] at hopen
      rcases hopen with hopen | hpaused
      · exact hopen
      · rw [hpaused]
        rfl
    · cases hs
      exact .read (knows_release s)

theorem recoverItem_id (item : BulkBackupRunItem) : (recoverItem item).id = item.id := by
  unfold recoverItem
  split <;> rfl

/-- `RecoverBulkRun` -/
theorem recover_holder : HolderAdvance s p input .recover := by
  simp only [HolderAdvance, advance]
  cases hr : attempt input (s.recoverBulkRun p) with
  | none => exact .read (knows_release s)
  | some s' =>
    cases of_guarded (of_guarded hr)
    refine ⟨knows_refresh _, ⟨_, rfl, recoverItem_id, fun item _ hterm => ?_⟩, ?_, .inl rfl⟩
    · rw [recoverItem, if_pos hterm]
    by_cases hpausing : s.run.status = .pausing
    · right
      simp only [if_pos hpausing]
      exact ⟨by rw [hpausing]; rfl, nofun⟩
    · left
      simp only [if_neg hpausing]
      exact ⟨trivial, .inl trivial⟩

theorem release_holder : HolderAdvance s p input .release := by
  have hknows : ∀ s', Knows s' .returned := fun s' => .plain s' trivial rfl rfl rfl
  simp only [HolderAdvance, advance, releaseBulkRunProcessor]
  split
  · split
    · exact ⟨hknows _, .refl rfl, .refl rfl, .inr rfl⟩
    · exact .read (hknows s)
  · exact .read (hknows s)

end Holder

/-- Every statement of the holder of the lease: it knows enough to go on, terminal items keep
their status, and the run ends only when it is complete. -/
theorem advance_holder (input : Input) (hids : (s.items.map (·.id)).Nodup)
    (hlock : s.lockProcessor p = true) (h : Knows s phase)
    (hcareful : ∀ item next, phase = .complete item next → item.status = .cancelled →
      input.ok = true) : HolderStep s (advance s p input phase).1 (advance s p input phase).2 := by
  cases phase with
  | acquire recoverInterrupted =>
    -- the lease is held by this processor, so nobody acquires it
    have hno : (s.tryAcquireBulkRunProcessor p) = (s, false) := by
      simp only [lockProcessor, Bool.and_eq_true, decide_eq_true_eq, Bool.not_eq_true'] at hlock
      simp [tryAcquireBulkRunProcessor, hlock.1, hlock.2]
    simp only [advance, hno]
    split <;> exact .read (.plain s trivial rfl rfl rfl)
  | recover => exact recover_holder p input
  | refresh | readRun =>
    simp only [advance]
    refine .read ?_
    split
    · exact .plain s trivial rfl rfl rfl
    · exact knows_release s
  | readItems run =>
    simp only [advance]
    refine .read ?_
    split
    · exact knows_processRun s hids run
    · exact knows_release s
  | rereadPausing =>
    simp only [advance]
    refine .read ?_
    split
    · exact knows_release s
    split
    · exact .plain s trivial rfl rfl rfl
    · exact knows_refresh s
  | pause latest => exact pause_holder p input
  | complete item next => exact complete_holder p input hlock h (hcareful item next rfl)
  | count next => exact count_holder p input h
  | rereadCancelling => exact rereadCancelling_holder p input h
  | claim batch todo claimed =>
    cases todo with
    | nil =>
      simp only [advance]
      refine .read ?_
      split
      · exact .plain s trivial rfl rfl rfl
      · exact h.shrink ⟨rfl, trivial⟩ (by simp [pending]) rfl rfl
    | cons id todo => exact claim_holder p input h
  | claimRead batch id todo claimed =>
    simp only [advance]
    refine .read ?_
    split
    · exact h.shrink trivial (by simp [pending]) rfl rfl
    · exact h.shrink trivial (List.Sublist.append_left (sublist_cons_self _ _) _) rfl rfl
  | check batch todo candidates =>
    cases todo with
    | nil => exact .read (h.shrink trivial (by simp [advance, pending]) rfl rfl)
    | cons id todo => exact check_holder p input h
  | attach batch todo created =>
    cases todo with
    | nil =>
      simp only [advance]
      refine .read ?_
      split
      · exact .plain s ⟨rfl, trivial⟩ rfl rfl rfl
      · exact .plain s trivial rfl rfl rfl
    | cons id todo => exact attach_holder p input h
  | wait ids => exact wait_holder p input
  | countFinished => exact countFinished_holder p input h
  | readFinished => exact readFinished_holder p input h
  | finish status => exact finish_holder p input h
  | release => exact release_holder p input
  | returned => exact .read h

/-! ### Statuses that stay -/

theorem countItems_congr {items' : List BulkBackupRunItem}
    (h : items'.map (·.status) = items.map (·.status)) : countItems items' = countItems items := by
  have hcounts : ∀ items : List BulkBackupRunItem, countItems items =
      let statuses := items.map (·.status)
      { total := statuses.length
        queued := statuses.countP fun status =>
          status = .active ∨ status = .queued ∨ status = .running
        success := statuses.countP fun status => status = .success
        failed := statuses.countP fun status => status = .failed
        skipped := statuses.countP fun status => status = .skipped
        cancelled := statuses.countP fun status => status = .cancelled } := by
    intro items
    simp only [countItems, countP_map, length_map]
    rfl
  rw [hcounts, hcounts, h]

theorem ItemsKept.statuses (h : ItemsKept s s') (hall : s.AllTerminal) :
    s'.items.map (·.status) = s.items.map (·.status) := by
  obtain ⟨f, hf, -, hterm⟩ := h
  rw [hf, map_map]
  exact map_congr_left fun item hitem => hterm item hitem (hall item hitem)

theorem ItemsKept.ids (h : ItemsKept s s') : s'.items.map (·.id) = s.items.map (·.id) := by
  obtain ⟨f, hf, hid, -⟩ := h
  rw [hf, map_map]
  exact map_congr_left fun item _ => hid item

theorem forall_status_congr {items' : List BulkBackupRunItem} {P : BulkBackupRunItemStatus → Prop}
    (h : items'.map (·.status) = items.map (·.status)) (hP : ∀ item ∈ items, P item.status) :
    ∀ item ∈ items', P item.status := by
  intro item hitem
  have hmem : item.status ∈ items.map (·.status) := h ▸ mem_map_of_mem hitem
  obtain ⟨row, hrow, heq⟩ := mem_map.1 hmem
  exact heq ▸ hP row hrow

theorem AllTerminal.congr (h : s.AllTerminal)
    (hsame : s'.items.map (·.status) = s.items.map (·.status)) : s'.AllTerminal :=
  forall_status_congr (P := fun status => bulkRunItemTerminal status = true) hsame h

theorem AllSuccess.congr (h : s.AllSuccess)
    (hsame : s'.items.map (·.status) = s.items.map (·.status)) : s'.AllSuccess :=
  forall_status_congr (P := fun status => status = .success) hsame h

theorem Finished.kept (h : Finished s) (hitems : ItemsKept s s')
    (hstatus : s'.run.status = s.run.status)
    (hcounts : s'.run.counts = s.run.counts ∨ s'.run.counts = countItems s'.items) :
    Finished s' := by
  have hsame := hitems.statuses h.terminal
  refine ⟨AllTerminal.congr h.terminal hsame, ?_, fun hsuccess => ?_⟩
  · rcases hcounts with hcounts | hcounts
    · rw [hcounts, h.counts, countItems_congr hsame]
    · exact hcounts
  · exact AllSuccess.congr (h.success (hstatus ▸ hsuccess)) hsame

/-- The effect of a step on the run and its items. -/
structure Kept (s s' : BulkRunStore) : Prop where
  items : ItemsKept s s'
  run : RunKept s s'

theorem Kept.status (h : Kept s s') (hterm : bulkRunTerminal s.run.status = true) :
    s'.run.status = s.run.status := by
  rcases h.run with hsame | hopen
  · exact hsame.1
  · rw [hterm] at hopen
    cases hopen.1

theorem Kept.finished (h : Kept s s') (hfin : bulkRunTerminal s.run.status = true → Finished s)
    (hterm : bulkRunTerminal s'.run.status = true) : Finished s' := by
  rcases h.run with hsame | hopen
  · exact (hfin (hsame.1 ▸ hterm)).kept h.items hsame.1 hsame.2
  · exact hopen.2 hterm

theorem Knows.congr (h : Knows s phase) (hids : s'.items.map (fun item => (item.id, item.status)) =
      s.items.map fun item => (item.id, item.status)) (hcounts : s'.run.counts = s.run.counts) :
    Knows s' phase := by
  have hstatus : s'.items.map (·.status) = s.items.map (·.status) := by
    simpa [Function.comp_def] using congrArg (List.map Prod.snd) hids
  have hrow : ∀ item ∈ s'.items, ∃ row ∈ s.items, row.id = item.id ∧ row.status = item.status := by
    intro item hitem
    have hmem : (item.id, item.status) ∈ s.items.map fun item => (item.id, item.status) :=
      hids ▸ mem_map_of_mem hitem
    obtain ⟨row, hrow, heq⟩ := mem_map.1 hmem
    exact ⟨row, hrow, (Prod.mk.inj heq).1, (Prod.mk.inj heq).2⟩
  refine ⟨h.wellFormed, h.nodup, ?_, ?_, ?_, ?_, ?_⟩
  · intro item hitem hmem
    obtain ⟨row, hrow, hid, hst⟩ := hrow item hitem
    rw [BulkBackupRunItem.Open, ← hst]
    exact h.isOpen row hrow (hid ▸ hmem)
  · intro ids hcancel item hitem hopen hidle
    obtain ⟨row, hrow, hid, hst⟩ := hrow item hitem
    rw [BulkBackupRunItem.Open, ← hst] at hopen
    rw [← hst] at hidle
    exact hid ▸ h.covered ids hcancel row hrow hopen hidle
  · intro hfin
    exact AllTerminal.congr (h.terminal hfin) hstatus
  · intro hphase
    rw [hcounts, h.counted hphase, countItems_congr hstatus]
  · intro status hphase
    exact ⟨(h.decided status hphase).1, fun hs =>
      AllSuccess.congr ((h.decided status hphase).2 hs) hstatus⟩

/-! ### Everyone else -/

/-- Without the lease a processor can acquire it or give up a lease that ran out; it writes
neither the run nor its items. -/
theorem advance_outsider (phase : Phase) (input : Input)
    (hlock : s.lockProcessor p = false) : (advance s p input phase).1 = s ∨
      ((advance s p input phase).1 = { s with processingOwner := some p, leaseExpired := false } ∧
        ((advance s p input phase).2 = .recover ∨ (advance s p input phase).2 = .refresh)) ∨
      (advance s p input phase).1 = { s with processingOwner := none, leaseExpired := false } := by
  -- statements that check the lease fail
  cases phase with
  | acquire recoverInterrupted =>
    simp only [advance]
    cases hok : input.ok with
    | false => exact .inl rfl
    | true =>
      by_cases hfree : (processable s.run.status &&
          (s.processingOwner = none || s.leaseExpired)) = true
      · simp only [if_true, tryAcquireBulkRunProcessor, if_pos hfree]
        refine .inr (.inl ⟨trivial, ?_⟩)
        cases recoverInterrupted
        · exact .inr rfl
        · exact .inl rfl
      · simp only [if_true, tryAcquireBulkRunProcessor, if_neg hfree]
        exact .inl trivial
  | recover => exact .inl (by simp [advance, recoverBulkRun, hlock])
  | pause latest => exact .inl (by simp [advance, updateRun, hlock])
  | complete item next => exact .inl (by simp [advance, updateRunItem, hlock])
  | count | countFinished =>
    exact .inl (by simp [advance, recalculateRunCounters, hlock])
  | claim batch todo claimed =>
    left
    cases todo with
    | nil => rfl
    | cons id todo => simp [advance, claimBulkRunItem, hlock]
  | check batch todo candidates =>
    left
    cases todo with
    | nil => rfl
    | cons id todo =>
      simp only [advance]
      split <;> rfl
  | attach batch todo created =>
    left
    cases todo with
    | nil => rfl
    | cons id todo =>
      simp only [advance, createBulkRunJob, hlock, Bool.false_and, Bool.false_eq_true,
        if_false, attempt_none]
      split <;> rfl
  | wait ids =>
    left
    simp only [advance]
    split
    · rfl
    split
    · rfl
    cases hr : attempt input (s.reconcileBulkRunBatch p ids) with
    | none => rfl
    | some res =>
      have hs := of_guarded hr
      unfold reconcileBulkRunBatch at hs
      split at hs
      · cases hs
        rfl
      · rw [hlock, if_neg Bool.false_ne_true] at hs
        cases hs
  | finish status => exact .inl (by simp [advance, finishBulkRun, hlock])
  | release =>
    simp only [advance, releaseBulkRunProcessor]
    split
    · split
      · exact .inr (.inr rfl)
      · exact .inl rfl
    · exact .inl rfl
  | refresh | readRun | readItems run | rereadPausing | rereadCancelling
  | claimRead _ _ _ _ | readFinished | returned => exact .inl rfl

end BulkRunProcessor

namespace BulkRunSystem

variable {sys sys' : BulkRunSystem}

/-! ### The whole system -/

/-- Item IDs are distinct, whoever holds the lease knows what its phase requires, and a run with
a terminal status is finished. -/
structure Inv (sys : BulkRunSystem) : Prop where
  ids : (sys.store.items.map (·.id)).Nodup
  knows : ∀ p phase, sys.processors.get p = some phase → sys.store.lockProcessor p = true →
    Knows sys.store phase
  finished : bulkRunTerminal sys.store.run.status = true → Finished sys.store

theorem Inv.kept (h : Inv sys) (hk : Kept sys.store sys'.store)
    (hknows : ∀ p phase, sys'.processors.get p = some phase → sys'.store.lockProcessor p = true →
      Knows sys'.store phase) : Inv sys' where
  ids := hk.items.ids ▸ h.ids
  knows := hknows
  finished := hk.finished h.finished

theorem Inv.leases (h : Inv sys)
    (hitems : sys'.store.items = sys.store.items) (hrun : sys'.store.run = sys.store.run)
    (hknows : ∀ p phase, sys'.processors.get p = some phase → sys'.store.lockProcessor p = true →
      Knows sys'.store phase) : Inv sys' ∧ Kept sys.store sys'.store :=
  have hk : Kept sys.store sys'.store := ⟨.refl hitems, .refl hrun⟩
  ⟨h.kept hk hknows, hk⟩

/-- What a request does to the tables: it may change an open run into another open one. -/
structure Requested (s s' : BulkRunStore) : Prop where
  items : s'.items = s.items
  counts : s'.run.counts = s.run.counts
  owner : s'.processingOwner = s.processingOwner
  lease : s'.leaseExpired = s.leaseExpired
  status : s'.run.status = s.run.status ∨
    bulkRunTerminal s.run.status = false ∧ bulkRunTerminal s'.run.status = false

theorem Requested.refl (s : BulkRunStore) : Requested s s := ⟨rfl, rfl, rfl, rfl, .inl rfl⟩

theorem Requested.kept (h : Requested s s') : Kept s s' := by
  refine ⟨.refl h.items, ?_⟩
  rcases h.status with hsame | hopen
  · exact .inl ⟨hsame, .inl h.counts⟩
  · refine .inr ⟨hopen.1, fun hterm => ?_⟩
    rw [hopen.2] at hterm
    cases hterm

theorem Requested.lockProcessor (h : Requested s s') (p : Nat) :
    s'.lockProcessor p = s.lockProcessor p := by
  unfold BulkRunStore.lockProcessor
  rw [h.owner, h.lease]

theorem Requested.knows (h : Requested s s') (hk : Knows s phase) : Knows s' phase :=
  hk.congr (by rw [h.items]) h.counts

/-- A statement of a request that changes the status of an open run, or nothing. -/
structure RequestStep (s s' : BulkRunStore) : Prop extends Requested s s' where
  unpaused : s'.run.status = .paused → s.run.status = .paused
  requested : s'.run.cancelRequested = true → s.run.cancelRequested = true ∨
    s'.run.status = .cancelling
  cancelled : s'.run.status = s.run.status ∨ s'.run.status = .cancelling ∨
    s'.run.cancelRequested = false

theorem RequestStep.refl (s : BulkRunStore) : RequestStep s s :=
  ⟨.refl s, id, .inl, .inl rfl⟩

theorem RequestStep.write {status : BulkBackupRunStatus} {cancel : Bool}
    (hopen : bulkRunTerminal s.run.status = false) (hnew : bulkRunTerminal status = false)
    (hpaused : status ≠ .paused) (hcancel : status = .cancelling ∨ cancel = false) :
    RequestStep s { s with run := { s.run with status := status, cancelRequested := cancel } } where
  toRequested := ⟨rfl, rfl, rfl, rfl, .inr ⟨hopen, hnew⟩⟩
  unpaused h := absurd h hpaused
  requested h := .inr (hcancel.resolve_right fun hno => by rw [hno] at h; cases h)
  cancelled := .inr hcancel

section

variable (s : BulkRunStore)

theorem requestStep_pause : RequestStep s s.requestBulkRunPause := by
  unfold requestBulkRunPause
  split_ifs with h
  · exact .write (by rw [h.1]; rfl) rfl nofun (.inr h.2)
  · exact .refl s

theorem requestStep_resumePaused : RequestStep s s.resumePaused.1 := by
  unfold resumePaused
  split_ifs with h
  · exact .write (by rw [h.1]; rfl) rfl nofun (.inr h.2)
  · exact .refl s

theorem requestStep_resumePausing : RequestStep s s.resumePausing := by
  unfold resumePausing
  split_ifs with h
  · exact .write (by rw [h.1]; rfl) rfl nofun (.inr h.2)
  · exact .refl s

theorem requestStep_cancelPaused : RequestStep s s.cancelPaused.1 := by
  unfold cancelPaused
  split_ifs with h
  · exact .write (by rw [h]; rfl) rfl nofun (.inl rfl)
  · exact .refl s

theorem requestStep_cancelRunning : RequestStep s s.cancelRunning := by
  unfold cancelRunning
  split_ifs with h
  · refine .write ?_ rfl nofun (.inl rfl)
    rcases h with h | h | h <;> rw [h] <;> rfl
  · exact .refl s

end

theorem Inv.requested (h : Inv sys) (hreq : Requested sys.store sys'.store)
    (hprocs : ∀ p phase, sys'.processors.get p = some phase →
      sys.processors.get p = some phase ∨ ∃ r, phase = .acquire r) : Inv sys' := by
  refine h.kept hreq.kept fun p phase hphase hlock => ?_
  rcases hprocs p phase hphase with hold | ⟨r, rfl⟩
  · rw [hreq.lockProcessor] at hlock
    exact hreq.knows (h.knows p phase hold hlock)
  · exact .plain _ trivial rfl rfl rfl

theorem Inv.advance (h : Inv sys) (input : Input) (hphase : sys.processors.get p = some phase)
    (hcareful : ∀ item next, phase = .complete item next → item.status = .cancelled →
      input.ok = true) :
    Inv (sys.step (.advance p input)) ∧ Kept sys.store (sys.step (.advance p input)).store := by
  have hstep : sys.step (.advance p input) =
      { sys with
        store := (BulkRunProcessor.advance sys.store p input phase).1
        processors :=
          sys.processors.insert p (BulkRunProcessor.advance sys.store p input phase).2 } := by
    simp [BulkRunSystem.step, hphase]
  rw [hstep]
  cases hlock : sys.store.lockProcessor p with
  | true =>
    have hs := advance_holder input h.ids hlock (h.knows p phase hphase hlock) hcareful
    refine ⟨h.kept ⟨hs.items, hs.run⟩ (FMap.forall_get_insert (fun _ => hs.knows)
      fun q ph hne hq hqlock => ?_), ⟨hs.items, hs.run⟩⟩
    -- nobody else has the lease now
    exfalso
    simp only [lockProcessor, Bool.and_eq_true, decide_eq_true_eq] at hlock hqlock
    rcases hs.owner with howner | howner
    · rw [howner, hlock.1] at hqlock
      exact hne (Option.some.inj hqlock.1).symm
    · rw [howner] at hqlock
      cases hqlock.1
  | false =>
    generalize hres : BulkRunProcessor.advance sys.store p input phase = res
    have hout := advance_outsider phase input hlock
    rw [hres] at hout
    obtain ⟨store, phase'⟩ := res
    rcases hout with rfl | ⟨rfl, hacquired⟩ | rfl <;>
      refine h.leases rfl rfl fun q ph hq hqlock => ?_
    · have hne : q ≠ p := by
        rintro rfl
        rw [hlock] at hqlock
        cases hqlock
      rw [FMap.get_insert_ne _ _ hne] at hq
      exact h.knows q ph hq hqlock
    · have heq : q = p := by
        simp only [lockProcessor, Bool.and_eq_true, decide_eq_true_eq] at hqlock
        exact (Option.some.inj hqlock.1).symm
      rw [heq, FMap.get_insert_self] at hq
      cases hq
      rcases hacquired with rfl | rfl <;> exact .plain _ trivial rfl rfl rfl
    · simp [lockProcessor] at hqlock

/-- The updates of items in `cancelPendingBulkRunItems` do not fail. -/
def CancelsReliably (sys : BulkRunSystem) : Op → Prop
  | .advance p input =>
    match sys.processors.get p with
    | some (.complete item _) => item.status = .cancelled → input.ok = true
    | _ => True
  | _ => True

instance (sys : BulkRunSystem) (op : Op) : Decidable (CancelsReliably sys op) := by
  induction op using Op.casesOn <;> dsimp only [CancelsReliably] <;>
    first | infer_instance | split <;> infer_instance

theorem deleteJob_kept (sys : BulkRunSystem) (jobID : UUID) :
    ItemsKept sys.store (sys.step (.deleteJob jobID)).store := by
  refine ⟨_, rfl, fun item => ?_, fun item _ _ => ?_⟩ <;> split <;> rfl

/-- Every step keeps the invariant. -/
theorem Inv.step (h : Inv sys) {op : Op} (hc : CancelsReliably sys op) :
    Inv (sys.step op) ∧ Kept sys.store (sys.step op).store := by
  have hrequest : ∀ {store : BulkRunStore} {resuming cancelling : Nat}, Requested sys.store store →
      Inv { sys with store := store, resuming := resuming, cancelling := cancelling } ∧
        Kept sys.store store :=
    fun hreq => ⟨h.requested hreq fun p phase hphase => .inl hphase, hreq.kept⟩
  have hstart : ∀ {store : BulkRunStore} (p : Nat) (r : Bool), Requested sys.store store →
      Inv { sys with store := store, processors := sys.processors.insert p (.acquire r) } ∧
        Kept sys.store store := by
    intro store p r hreq
    exact ⟨h.requested hreq (FMap.forall_get_insert (.inr ⟨r, rfl⟩) fun q phase _ hphase =>
      .inl hphase), hreq.kept⟩
  cases op with
  | advance p input =>
    cases hphase : sys.processors.get p with
    | none =>
      simp only [BulkRunSystem.step, hphase]
      exact ⟨h, .refl rfl, .refl rfl⟩
    | some phase =>
      refine h.advance input hphase fun item next hph hcancelled => ?_
      simp only [CancelsReliably, hphase, hph] at hc
      exact hc hcancelled
  | pause => exact hrequest (requestStep_pause sys.store).toRequested
  | resume p =>
    have hreq := (requestStep_resumePaused sys.store).toRequested
    simp only [BulkRunSystem.step]
    split <;> rename_i hres <;> rw [hres] at hreq
    · exact hstart p false hreq
    · exact hrequest hreq
  | resumeAgain => exact hrequest (requestStep_resumePausing sys.store).toRequested
  | cancel p =>
    have hreq := (requestStep_cancelPaused sys.store).toRequested
    simp only [BulkRunSystem.step]
    split <;> rename_i hres <;> rw [hres] at hreq
    · exact hstart p false hreq
    · exact hrequest hreq
  | cancelAgain => exact hrequest (requestStep_cancelRunning sys.store).toRequested
  | restart p =>
    simp only [BulkRunSystem.step]
    split
    · exact hstart p true (.refl sys.store)
    · exact ⟨h, .refl rfl, .refl rfl⟩
  | expire =>
    refine h.leases rfl rfl fun q ph _ hqlock => ?_
    simp [BulkRunSystem.step, lockProcessor] at hqlock
  | reportJob jobID job =>
    refine h.leases rfl rfl fun q ph hq hqlock => ?_
    exact (h.knows q ph hq hqlock).congr rfl rfl
  | deleteJob jobID =>
    have hitems := deleteJob_kept sys jobID
    refine ⟨h.kept ⟨hitems, .refl rfl⟩ fun q ph hq hqlock => ?_, ⟨hitems, .refl rfl⟩⟩
    refine (h.knows q ph hq hqlock).congr ?_ rfl
    simp only [BulkRunSystem.step, map_map]
    refine map_congr_left fun item _ => ?_
    simp only [Function.comp_apply]
    split <;> rfl

/-! ### Runs -/

/-- A complete run: every item is terminal, the counters of the outcomes add up to the number of
items, and `success` means that every item succeeded. -/
structure Complete (s : BulkRunStore) : Prop where
  terminal : s.AllTerminal
  counted : s.run.counts.success + s.run.counts.failed + s.run.counts.skipped +
    s.run.counts.cancelled = s.items.length
  success : s.run.status = .success → s.AllSuccess

theorem complete_of_finished (h : Finished s) : Complete s where
  terminal := h.terminal
  counted := by
    rw [h.counts]
    exact countItems_terminal h.terminal
  success := h.success

theorem IsStarted.inv (h : IsStarted sys) : Inv sys := by
  obtain ⟨items, jobs, hnd, -, rfl⟩ := h
  exact ⟨hnd, FMap.forall_get_insert (fun _ => .plain _ trivial rfl rfl rfl) nofun, nofun⟩

/-- The steps in which no update of an item that is to be cancelled fails. Any other statement
may fail, leases may run out and processors may be started by a restart of the server. -/
def Reliable (sys : BulkRunSystem) (op : Op) : Prop := op.Valid sys ∧ CancelsReliably sys op

instance (sys : BulkRunSystem) (op : Op) : Decidable (Reliable sys op) :=
  inferInstanceAs (Decidable (_ ∧ _))

/-- In every state of such a run, a terminal run is complete; the next step changes neither its
status nor the status of a terminal item. -/
theorem finished_run_complete {sys : BulkRunSystem} {ops : List Op}
    (h : Run IsStarted (ActStep step Reliable) sys ops) :
    (bulkRunTerminal sys.store.run.status = true → Complete sys.store) ∧
    ∀ op, Reliable sys op →
      (bulkRunTerminal sys.store.run.status = true →
        (sys.step op).store.run.status = sys.store.run.status) ∧
      ∀ item ∈ sys.store.items, bulkRunItemTerminal item.status = true →
        ∃ item' ∈ (sys.step op).store.items, item'.id = item.id ∧ item'.status = item.status := by
  have hinv : Inv sys := by
    refine Run.invariant (P := fun sys _ => Inv sys) h (fun sys hs => hs.inv) ?_
    intro sys _ _ sys' _ hP hstep
    obtain ⟨op, hop, -, rfl⟩ := hstep
    exact (hP.step hop.2).1
  refine ⟨fun hterm => complete_of_finished (hinv.finished hterm), fun op hop => ?_⟩
  have hkept := (hinv.step hop.2).2
  refine ⟨hkept.status, fun item hitem hterm => ?_⟩
  obtain ⟨f, hf, hid, hstatus⟩ := hkept.items
  refine ⟨f item, ?_, hid item, hstatus item hitem hterm⟩
  rw [hf]
  exact mem_map_of_mem hitem

/-- A run of one device as it is started. -/
def oneDevice : BulkRunSystem where
  store :=
    { run := { status := .running, batchSize := 10, counts := countItems [⟨1, .checking, "", none⟩] }
      items := [⟨1, .checking, "", none⟩] }
  processors := FMap.insert ∅ 0 (.acquire false)

theorem oneDevice_started : IsStarted oneDevice :=
  ⟨[⟨1, .checking, "", none⟩], ∅, by decide, by decide, rfl⟩

/-- `n` statements of the first processor that do not fail. -/
def proceed (n : Nat) : List Op := List.replicate n (.advance 0 {})

/-- The processor backs up the device: its job succeeds, and the run with it. -/
def backedUp : List Op :=
  proceed 12 ++ [.reportJob 0 { status := .success }] ++ proceed 9

theorem finished_run_complete_backedUp :
    Run IsStarted (ActStep step Reliable) (backedUp.foldl step oneDevice) backedUp ∧
      (backedUp.foldl step oneDevice).store.run.status = .success ∧
      Complete (backedUp.foldl step oneDevice).store := by
  have hrun : Run IsStarted (ActStep step Reliable) (backedUp.foldl step oneDevice) backedUp :=
    .of_init oneDevice_started (.of_ops (by decide +kernel))
  have hstatus : (backedUp.foldl step oneDevice).store.run.status = .success := by decide +kernel
  exact ⟨hrun, hstatus, (finished_run_complete hrun).1 (by rw [hstatus]; rfl)⟩

/-- The run is cancelled before its item is claimed, and the update that cancels the item
fails: the run is finished as cancelled, with an open item that no counter counts. -/
theorem cancelled_with_open_item : ∃ ops : List Op,
    Run IsStarted (ActStep step fun sys op => op.Valid sys) (ops.foldl step oneDevice) ops ∧
      (ops.foldl step oneDevice).store.run.status = .cancelled ∧
      (ops.foldl step oneDevice).store.items = [⟨1, .checking, "", none⟩] ∧
      (ops.foldl step oneDevice).store.run.counts = { total := 1 } := by
  refine ⟨[.cancel 1, .cancelAgain] ++ proceed 4 ++ [.advance 0 { ok := false }] ++ proceed 6,
    .of_init oneDevice_started (.of_ops ?_), ?_, ?_, ?_⟩ <;> decide +kernel

end BulkRunSystem

end Theia
