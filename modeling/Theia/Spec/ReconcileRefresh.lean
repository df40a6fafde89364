import Theia.Spec.SchedulerOnePlace

/-!
# Reconciling one device and refreshing all of them

`ReconcileDeviceTasks` deletes and re-creates the items of one device; `refreshDevices` writes the
items of all listed devices and sweeps the keys it has not seen. `OthersKept mine` says that a
transition leaves every item alone whose key is not in `mine`; the sweeps are described by the keys
they retire (`sweep_scheduled`).
-/

namespace Theia.Scheduler

open List

variable {k : TaskKey} {f : Scheduler → TaskKey → Scheduler} {device : Device}
  {swept : TaskKey → Prop} {order : List TaskKey} {r : ItemRef}

/-! ### The items of other keys -/

/-- The entries of a ready queue that belong to other keys than `mine`, in order. -/
def othersReady (mine : TaskKey → Bool) (s : Scheduler) (p : Fin 3) : List ItemRef :=
  (s.ready p).filter fun r => !mine (s.store r).task.key

/-- From `s` to `s'` the items of other keys than `mine` stay in the map, keep their place and their
order in the ready queues, and are written only in the heap position they remember. -/
structure OthersKept (mine : TaskKey → Bool) (s s' : Scheduler) : Prop where
  items : ∀ k, mine k = false → s'.items.get k = s.items.get k
  kept : ∀ k r, mine k = false → s.items.get k = some r → Kept s s' r
  ready : ∀ p, s'.othersReady mine p = s.othersReady mine p

section Others

variable {mine mine' : TaskKey → Bool} {s t u : Scheduler} {key : TaskKey} {r : ItemRef}

theorem OthersKept.refl (mine : TaskKey → Bool) (s : Scheduler) : OthersKept mine s s where
  items _ _ := rfl
  kept _ _ _ _ := kept_of_eq rfl rfl rfl
  ready _ := rfl

theorem OthersKept.trans (h : OthersKept mine s t) (h' : OthersKept mine t u) :
    OthersKept mine s u where
  items k hk := (h'.items k hk).trans (h.items k hk)
  kept k r hk hr := (h.kept k r hk hr).trans (h'.kept k r hk ((h.items k hk).trans hr))
  ready p := (h'.ready p).trans (h.ready p)

theorem othersReady_mono (h : ∀ k, mine k = true → mine' k = true) (s : Scheduler) (p : Fin 3) :
    s.othersReady mine' p = (s.othersReady mine p).filter fun r => !mine' (s.store r).task.key := by
  simp only [othersReady, filter_filter]
  apply filter_congr
  intro r _
  cases hm : mine (s.store r).task.key with
  | false => simp
  | true => simp [h _ hm]

theorem OthersKept.mono (h : OthersKept mine s t) (hp : s.Placed) (mine' : TaskKey → Bool)
    (hsub : ∀ k, mine k = true → mine' k = true) : OthersKept mine' s t where
  items k hk := h.items k (by
    by_contra hm
    simp [hsub k (by simpa using hm)] at hk)
  kept k r hk := h.kept k r (by
    by_contra hm
    simp [hsub k (by simpa using hm)] at hk)
  ready p := by
    rw [othersReady_mono hsub, othersReady_mono hsub, h.ready p]
    apply filter_congr
    intro r hr
    -- an entry of another key is written in its index only
    obtain ⟨hready, hmine⟩ := mem_filter.1 hr
    obtain ⟨k, hk⟩ := PlacedAt.readyCurrent hp r (mem_readyEntries.2 ⟨p, hready⟩)
    rw [(PlacedAt.shape hp k r hk).key] at hmine
    rw [(h.kept k r (by simpa using hmine) hk).item]

/-- The item at `r` is the item of `key` only. -/
structure Owns (s : Scheduler) (key : TaskKey) (r : ItemRef) : Prop where
  only : ∀ k, s.items.get k = some r → k = key
  task : (s.store r).task.key = key

theorem Placed.owns (h : s.Placed) (hr : s.items.get key = some r) : Owns s key r where
  only _ hk := PlacedAt.key_unique h hk hr
  task := (PlacedAt.shape h key r hr).key

/-- Only the key is written. -/
abbrev just (key k : TaskKey) : Bool := decide (k = key)

section

variable (h : Owns s key r)
include h

theorem Owns.ne {q : ItemRef} (hk : just key k = false) (hq : s.items.get k = some q) : q ≠ r := by
  intro e
  rw [e] at hq
  simp [just, h.only k hq] at hk

omit h in
/-- Removing entries of `r` from a queue or adding some does not change the order of the others. -/
theorem filter_others_eq {queue queue' : List ItemRef} {f g : ItemRef → Bool}
    (h : queue'.filter (· ≠ r) = queue.filter (· ≠ r)) (hf : f r = false) (hg : g r = false)
    (hfg : ∀ q, q ≠ r → g q = f q) : queue'.filter g = queue.filter f := by
  have hdrop : ∀ (f : ItemRef → Bool) (l : List ItemRef), f r = false →
      l.filter f = (l.filter (· ≠ r)).filter f := by
    intro f l hf
    rw [filter_filter]
    apply filter_congr
    intro q _
    by_cases hq : q = r
    · simp [hq, hf]
    · simp [hq]
  rw [hdrop g queue' hg, hdrop f queue hf, h]
  apply filter_congr
  intro q hq
  exact hfg q (by simpa using (mem_filter.1 hq).2)

theorem Owns.write {f : HeapItem → HeapItem} {queues : Fin 3 → List ItemRef}
    (htask : (f (s.store r)).task.key = key)
    (hqueues : ∀ p, (queues p).filter (· ≠ r) = (s.ready p).filter (· ≠ r)) :
    OthersKept (just key) s { s.modify r f with ready := queues } ∧
      Owns { s.modify r f with ready := queues } key r := by
  refine ⟨⟨fun _ _ => rfl, ?_, ?_⟩, h.only, ?_⟩
  · intro k q hk hq
    have hne := h.ne hk hq
    have hstore : (s.modify r f).store q = s.store q := modify_store_ne s f hne
    refine ⟨Iff.rfl, ?_, ?_, fun _ => ?_⟩
    · have hmem : ∀ p, q ∈ queues p ↔ q ∈ s.ready p := by
        intro p
        have := congrArg (q ∈ ·) (hqueues p)
        simpa [mem_filter, hne] using this
      simp [mem_readyEntries, hmem]
    · show (s.modify r f).store q = _
      rw [hstore]
    · show ((s.modify r f).store q).index = _
      rw [hstore]
  · intro p
    apply filter_others_eq (hqueues p)
    · simp [just, h.task]
    · show (!just key ((s.modify r f).store r).task.key) = false
      simp [just, modify_store_self, htask]
    · intro q hq
      show (!just key ((s.modify r f).store q).task.key) = _
      rw [modify_store_ne s f hq]
  · show ((s.modify r f).store r).task.key = key
    rw [modify_store_self, htask]

theorem Owns.modify {f : HeapItem → HeapItem} (htask : (f (s.store r)).task.key = key) :
    OthersKept (just key) s (s.modify r f) ∧ Owns (s.modify r f) key r :=
  h.write htask fun _ => rfl

theorem Owns.pushReadyFront : OthersKept (just key) s (s.pushReadyFront r) := by
  unfold Scheduler.pushReadyFront enqueueWith
  split
  · exact .refl _ s
  refine (h.write ?_ ?_).1
  · exact (normalizeTask_key _).trans h.task
  · intro p
    simp only [Function.update_apply]
    split
    · next hp => simp [hp]
    · rfl

omit h in
theorem filter_ne_erase (queue : List ItemRef) (r : ItemRef) :
    (queue.erase r).filter (· ≠ r) = queue.filter (· ≠ r) := by
  induction queue with
  | nil => rfl
  | cons a queue ih =>
    by_cases ha : a = r
    · simp [ha]
    · rw [erase_cons_tail (by simpa using ha), filter_cons, filter_cons, ih]

theorem Owns.removeReadyItem :
    OthersKept (just key) s (s.removeReadyItem r) ∧ Owns (s.removeReadyItem r) key r := by
  unfold Scheduler.removeReadyItem
  split
  · apply h.write
    · exact h.task
    intro p
    simp only [Function.update_apply]
    split
    · next hp =>
      rw [hp, filter_ne_erase]
      rfl
    · rfl
  · exact ⟨.refl _ s, h⟩

/-- A heap operation that adds or removes nothing but `r`. -/
theorem Owns.heapStep {es : List ItemRef} (hst : HeapStep s t es)
    (hes : ∀ q, q ≠ r → (q ∈ es ↔ q ∈ s.heap)) : OthersKept (just key) s t ∧ Owns t key r := by
  have htask : ∀ q, (t.store q).task = (s.store q).task := fun q => by rw [hst.item q]
  refine ⟨⟨fun k _ => ?_, ?_, fun p => ?_⟩, ?_, ?_⟩
  · rw [hst.items_eq]
  · intro k q hk hq
    exact hst.kept (hes q (h.ne hk hq))
  · have hready : t.ready = s.ready := by rw [hst.frame]
    simp [othersReady, hready, htask]
  · intro k hk
    rw [hst.items_eq] at hk
    exact h.only k hk
  · rw [htask, h.task]

end

theorem OthersKept.withItems (h : OthersKept mine s t) {items : FMap TaskKey ItemRef}
    (hitems : ∀ k, mine k = false → items.get k = t.items.get k) :
    OthersKept mine s { t with items := items } where
  items k hk := (hitems k hk).trans (h.items k hk)
  kept k r hk hr := by
    obtain ⟨hheap, hready, hitem, hindex⟩ := h.kept k r hk hr
    exact ⟨hheap, hready, hitem, hindex⟩
  ready := h.ready

theorem OthersKept.erase (h : OthersKept (just key) s t) :
    OthersKept (just key) s { t with items := t.items.erase key } := by
  apply h.withItems
  intro k hk
  rw [FMap.get_erase, if_neg (by simpa [just] using hk)]

theorem OthersKept.insert (h : OthersKept (just key) s t) (r : ItemRef) :
    OthersKept (just key) s { t with items := t.items.insert key r } := by
  apply h.withItems
  intro k hk
  rw [FMap.get_insert, if_neg (by simpa [just] using hk)]

theorem Placed.alloc_others (h : s.Placed) (item : HeapItem) :
    OthersKept (just item.task.key) s (s.alloc item).1 ∧
      Owns (s.alloc item).1 item.task.key s.nextRef := by
  have hstore : ∀ q, q ≠ s.nextRef → (s.alloc item).1.store q = s.store q := by
    intro q hq
    simp [alloc, hq]
  refine ⟨⟨fun _ _ => rfl, ?_, ?_⟩, ?_, ?_⟩
  · intro k q _ hq
    have hne := (PlacedAt.bound h k q hq).ne
    exact kept_of_eq rfl rfl (hstore q hne)
  · intro p
    apply filter_congr
    intro q hq
    obtain ⟨k, hk⟩ := PlacedAt.readyCurrent h q (mem_readyEntries.2 ⟨p, hq⟩)
    rw [hstore q (PlacedAt.bound h k q hk).ne]
  · intro k hk
    exact absurd rfl (PlacedAt.bound h k _ hk).ne
  · simp [alloc]

end Others

/-! ### Writing the tasks of a device -/

section Functions

variable {s s' s'' : Scheduler} {key : TaskKey}

theorem OthersKept.scheduled_iff {mine : TaskKey → Bool} (h : OthersKept mine s s')
    (hk : mine k = false) : s'.Scheduled k ↔ s.Scheduled k := by
  unfold Scheduled
  rw [h.items k hk]
  apply exists_congr
  intro r
  apply and_congr_right
  intro hr
  rw [(h.kept k r hk hr).item]

/-- The tasks of `keys` were written for a device, and no others. -/
structure Upserts (device : Device) (keys : List TaskKey) (s s' : Scheduler) : Prop
    extends Ensures (fun _ => True) device keys s s' where
  others : OthersKept (fun k => decide (k ∈ keys)) s s'

theorem Placed.upserts (h : s.Placed) (device : Device) : Upserts device [] s s :=
  ⟨h.ensures device, .refl _ s⟩

theorem Upserts.trans {keys keys' : List TaskKey} (hp : s.Placed) (h : Upserts device keys s s')
    (h' : Upserts device keys' s' s'') : Upserts device (keys ++ keys') s s'' where
  toEnsures := h.toEnsures.trans h'.toEnsures
  others := by
    have hleft := h.others.mono hp (fun k => decide (k ∈ keys ++ keys')) (by simp +contextual)
    have hright := h'.others.mono h.quiet.placed (fun k => decide (k ∈ keys ++ keys'))
      (by simp +contextual)
    exact hleft.trans hright

theorem Upserts.scheduled_iff {keys : List TaskKey} (h : Upserts device keys s s') (k : TaskKey) :
    s'.Scheduled k ↔ k ∈ keys ∨ s.Scheduled k := by
  by_cases hk : k ∈ keys
  · simp [hk, h.scheduled k hk]
  · rw [h.others.scheduled_iff (by simpa using hk)]
    simp [hk]

theorem OthersKept.singleton (h : OthersKept (just key) s s') :
    OthersKept (fun k => decide (k ∈ [key])) s s' := by
  simpa [just] using h

section

variable (h : s.Placed) (device : Device)
include h

theorem upsertScheduledItem_upserts {shape : TaskShape}
    (hs : ProperShape shape) (hd : device.id = shape.key.deviceID) (interval : Duration)
    (now : Time) :
    Upserts device [shape.key] s (s.upsertScheduledItem device shape interval now) := by
  refine ⟨upsertScheduledItem_ensures device hs hd h interval now, OthersKept.singleton ?_⟩
  unfold upsertScheduledItem
  split
  · rename_i r hr
    exact ((h.owns hr).modify rfl).1
  rename_i hnone
  -- the new item is pushed on the heap and then entered in the map
  have halloc := PlacedAt.quietAlloc (R := fun _ => True) h hnone
    (hs.fresh device hd (now + initialOffsetForKey shape.key interval) interval) rfl rfl rfl
  obtain ⟨hothers, howns⟩ := h.alloc_others
    (HeapItem.fresh shape device (now + initialOffsetForKey shape.key interval) interval)
  have hp := halloc.placed.heldAt (FMap.get_insert_self _ _ _)
  obtain ⟨hst, -⟩ := heapPush_spec halloc.placed.heapOK hp.1
  have hpush := (howns.heapStep hst fun q hq => by simp [hq]).1
  exact (hothers.trans hpush).insert s.nextRef

theorem redueItem_others (shape : TaskShape) (interval : Duration)
    (changedAt : Time) (hnone : s.items.get shape.key = none) :
    OthersKept (just shape.key) s (s.redueItem device shape interval changedAt) := by
  simp only [redueItem, hnone]
  obtain ⟨hothers, howns⟩ := h.alloc_others (HeapItem.fresh shape device changedAt interval)
  have hinsert := hothers.insert s.nextRef
  have hentered : Owns { (s.alloc (HeapItem.fresh shape device changedAt interval)).1 with
      items := s.items.insert shape.key s.nextRef } shape.key s.nextRef := by
    refine ⟨fun k hk => ?_, howns.task⟩
    by_contra hne
    have hk : (s.items.insert shape.key s.nextRef).get k = some s.nextRef := hk
    rw [FMap.get_insert, if_neg hne] at hk
    exact hne (howns.only k hk)
  exact hinsert.trans hentered.pushReadyFront

theorem upsertBootstrapItem_upserts (now : Time) :
    Upserts device [newBootstrapTaskKey device.id] s (s.upsertBootstrapItem device now) := by
  refine ⟨upsertBootstrapItem_ensures h device now, OthersKept.singleton ?_⟩
  unfold upsertBootstrapItem
  split
  · rename_i r hr
    exact ((h.owns hr).modify rfl).1
  · rename_i hnone
    exact redueItem_others h device (bootstrapShape device.id) _ _ hnone

/-- `scheduleRecurringDeviceLocked` schedules the keys of the device and touches no others. -/
theorem scheduleRecurringDeviceLocked_upserts (now : Time) :
    Upserts device (scheduledKeys device) s (s.scheduleRecurringDeviceLocked device now) :=
  scheduleRecurringDeviceLocked_rule (fun ht => ht.quiet.placed) (fun hs => hs.upserts device)
    Upserts.trans (fun hs hd ht interval => upsertScheduledItem_upserts ht device hs hd interval now)
    (fun hs => upsertBootstrapItem_upserts hs device now) h

end

theorem deviceID_of_mem_scheduledKeys (h : k ∈ scheduledKeys device) : k.deviceID = device.id := by
  simp only [scheduledKeys, mem_append, mem_map] at h
  rcases h with (h | h) | ⟨v, -, rfl⟩
  · split at h <;> simp_all [newEssentialTaskKey]
  · split at h <;> simp_all [newBootstrapTaskKey]
  · rfl

/-! ### Sweeps -/

/-- The key lost its item, or it is disabled, and nothing else changed. -/
structure Retired (key : TaskKey) (s s' : Scheduler) : Prop where
  others : OthersKept (just key) s s'
  dropped : ¬ s'.Scheduled key

theorem retired_of_none (hnone : s.items.get key = none) : Retired key s s where
  others := .refl _ s
  dropped := by
    intro ⟨r, hr, _⟩
    rw [hnone] at hr
    cases hr

theorem OthersKept.retire (h : OthersKept (just key) s s') :
    Retired key s { s' with items := s'.items.erase key } where
  others := h.erase
  dropped := by
    intro ⟨r, hr, _⟩
    rw [FMap.get_erase, if_pos rfl] at hr
    cases hr

theorem Owns.disable (h : Owns s key r) (hr : s.items.get key = some r) :
    Retired key s (s.modify r fun item => { item with disabled := true }) where
  others := (h.modify h.task).1
  dropped := by
    intro ⟨q, hq, henabled⟩
    rw [modify_items, hr, Option.some.injEq] at hq
    subst hq
    rw [modify_store_self] at henabled
    cases henabled

/-- A pass of a sweep over the item map, which retires the keys in `swept`. -/
structure SweepPass (swept : TaskKey → Prop) (f : Scheduler → TaskKey → Scheduler) : Prop where
  placed : ∀ s k, s.Placed → (f s k).Placed
  retires : ∀ s k, s.Placed → swept k → Retired k s (f s k)
  spares : ∀ s k, ¬ swept k → f s k = s

/-- One pass of a sweep. -/
theorem SweepPass.step (hf : SweepPass swept f) (h : s.Placed) (a k : TaskKey) :
    (f s a).Scheduled k ↔ s.Scheduled k ∧ ¬ (swept k ∧ k = a) := by
  by_cases hswept : swept a
  · have hretired := hf.retires s a h hswept
    by_cases hk : k = a
    · subst hk
      simp [hswept, hretired.dropped]
    · simp [hk, hretired.others.scheduled_iff (k := k) (by simpa [just] using hk)]
  · rw [hf.spares s a hswept]
    exact (and_iff_left fun ⟨hk, heq⟩ => hswept (heq ▸ hk)).symm

theorem SweepPass.run (hf : SweepPass swept f) (order : List TaskKey) (h : s.Placed) (k : TaskKey) :
    (order.foldl f s).Scheduled k ↔ s.Scheduled k ∧ ¬ (swept k ∧ k ∈ order) := by
  induction order generalizing s with
  | nil => simp
  | cons a order ih =>
    rw [foldl_cons, ih (hf.placed s a h), hf.step h, mem_cons]
    tauto

theorem SweepPass.enumerated (hf : SweepPass swept f) (horder : Enumerates order s.items)
    (h : s.Placed) (k : TaskKey) : (order.foldl f s).Scheduled k ↔ s.Scheduled k ∧ ¬ swept k := by
  rw [hf.run order h k]
  apply and_congr_right
  intro hk
  obtain ⟨r, hr, -⟩ := hk
  have hmem : k ∈ order := by
    rw [← mem_toFinset, horder.2]
    exact FMap.mem_dom_of_get hr
  simp [hmem]

theorem leaveHeap_others (h : s.Placed) (hr : s.items.get key = some r) (hmem : r ∈ s.heap) :
    OthersKept (just key) s (s.heapRemove (s.store r).index.toNat) ∧
      Owns (s.heapRemove (s.store r).index.toNat) key r := by
  obtain ⟨i, hget⟩ := mem_iff_getElem?.1 hmem
  rw [h.heapOK.index_eq i r hget, Int.toNat_natCast]
  apply (h.owns hr).heapStep (heapRemove_spec h.heapOK hget).1
  intro q hq
  simp [hq]

/-- The part of `removeDeviceTasksLocked` that takes an item out of its queue or out of the heap. -/
def leavePlace (s : Scheduler) (r : ItemRef) : Scheduler :=
  let s := if (s.store r).queued then s.removeReadyItem r else s
  if 0 ≤ (s.store r).index then s.heapRemove (s.store r).index.toNat else s

theorem removeDeviceTask_eq (hr : s.items.get key = some r) : removeDeviceTask key.deviceID s key =
      let t := (s.leavePlace r).modify r fun item => { item with pending := false }
      if (t.store r).inFlight then t.modify r fun item => { item with disabled := true }
      else { t with items := t.items.erase key } := by
  simp only [removeDeviceTask, hr, ne_eq, not_true_eq_false, if_false]
  rfl

@[simp] theorem leavePlace_items (s : Scheduler) (r : ItemRef) : (s.leavePlace r).items = s.items := by
  unfold leavePlace
  dsimp only
  split <;> split <;> simp

theorem leavePlace_others (h : s.Placed) (hr : s.items.get key = some r) :
    OthersKept (just key) s (s.leavePlace r) ∧ Owns (s.leavePlace r) key r := by
  have howns := h.owns hr
  obtain ⟨p, hp, hiff⟩ := PlacedAt.place h key r hr
  unfold leavePlace
  cases p with
  | heap =>
    simp only [hp.2.2.1, Bool.false_eq_true, if_false]
    split
    · exact leaveHeap_others h hr hp.1
    · exact ⟨.refl _ s, howns⟩
  | ready =>
    have hp' := (PlacedAt.removeReadyItem (R := fun _ => True) h hr hp.2.1).placed.heldAt hr
    simp only [hp.2.2.1, if_true, hp'.2.2.2.2, show ¬ (0 : Int) ≤ -1 by omega, if_false]
    exact howns.removeReadyItem
  | flight =>
    simp only [hp.2.2.1, Bool.false_eq_true, hp.2.2.2.2, show ¬ (0 : Int) ≤ -1 by omega, if_false]
    exact ⟨.refl _ s, howns⟩
  | held => exact absurd (hiff.1 rfl) (by simp)

theorem removeDeviceTask_pass (deviceID : UUID) :
    SweepPass (fun k => k.deviceID = deviceID) (removeDeviceTask deviceID) where
  placed s k h := (removeDeviceTask_quiet (R := fun _ => True) deviceID s k h).placed
  spares s k hk := by
    unfold removeDeviceTask
    split
    · rfl
    · exact if_pos hk
  retires s k h hk := by
    subst hk
    cases hr : s.items.get k with
    | none =>
      simp only [removeDeviceTask, hr]
      exact retired_of_none hr
    | some r =>
      rw [removeDeviceTask_eq hr]
      obtain ⟨hleave, howns⟩ := leavePlace_others h hr
      have hpending := howns.modify (f := fun item => { item with pending := false }) howns.task
      have hothers := hleave.trans hpending.1
      dsimp only
      split
      · have hdisabled := hpending.2.disable (by rw [modify_items, leavePlace_items, hr])
        exact ⟨hothers.trans hdisabled.others, hdisabled.dropped⟩
      · exact hothers.retire

theorem dropUnseen_pass (seen : List TaskKey) : SweepPass (· ∉ seen) (dropUnseen seen) where
  placed s k h := (dropUnseen_quiet (R := fun _ => True) seen s k h).placed
  spares s k hk := by
    unfold dropUnseen
    split
    · rfl
    · exact if_pos (not_not.1 hk)
  retires s k h hk := by
    cases hr : s.items.get k with
    | none =>
      simp only [dropUnseen, hr]
      exact retired_of_none hr
    | some r =>
      simp only [dropUnseen, hr, if_neg hk]
      split
      · exact (h.owns hr).disable hr
      split
      · next hindex =>
        have hmem : r ∈ s.heap := by
          obtain ⟨p, hp, -⟩ := PlacedAt.place h k r hr
          cases p with
          | heap => exact hp.1
          | _ => simp [hp.2.2.2.2] at hindex
        exact (leaveHeap_others h hr hmem).1.retire
      · exact (OthersKept.refl _ s).retire

/-! ### The enabled keys afterwards -/

/-- The keys of a device that the scheduler should poll. -/
def wantedKeys (device : Device) : List TaskKey :=
  if shouldScheduleRecurringDevice device then scheduledKeys device else []

theorem removeDeviceTasksLocked_scheduled (h : s.Placed) (horder : Enumerates order s.items)
    (deviceID : UUID) (k : TaskKey) : (s.removeDeviceTasksLocked deviceID order).Scheduled k ↔
      s.Scheduled k ∧ k.deviceID ≠ deviceID :=
  (removeDeviceTask_pass deviceID).enumerated horder h k

/-- After a reconcile exactly the wanted keys of the device are enabled. -/
theorem reconcileDeviceTasks_scheduled (h : s.Placed) (device : Device) (changedAt now : Time)
    (horder : Enumerates order s.items) (hk : k.deviceID = device.id) :
    (s.reconcileDeviceTasks device true changedAt now order).Scheduled k ↔ k ∈ wantedKeys device := by
  have hplaced : (s.removeDeviceTasksLocked device.id order).Placed :=
    (removeDeviceTasksLocked_quiet (R := fun _ => True) h device.id order).placed
  have hremoved : ¬ (s.removeDeviceTasksLocked device.id order).Scheduled k := by
    rw [removeDeviceTasksLocked_scheduled h horder]
    exact fun hs => hs.2 hk
  simp only [reconcileDeviceTasks, wantedKeys, Bool.true_and]
  split
  · rw [(scheduleRecurringDeviceLocked_upserts hplaced device _).scheduled_iff]
    simp [hremoved]
  · simp [hremoved]

/-- The first loop of `refreshDevices` schedules every key it marks as seen. -/
theorem scheduleDevices_scheduled (devices : List Device) (now : Time) (h : s.Placed)
    (hk : k ∈ seenKeys devices ∨ s.Scheduled k) : (s.scheduleDevices devices now).Scheduled k := by
  induction devices generalizing s with
  | nil =>
    obtain hk | hk := hk
    · cases hk
    · exact hk
  | cons device devices ih =>
    simp only [seenKeys, flatMap_cons, mem_append] at hk
    show (scheduleDevices (if shouldScheduleRecurringDevice device then
      s.scheduleRecurringDeviceLocked device now else s) devices now).Scheduled k
    split
    · next hwanted =>
      have hupserts := scheduleRecurringDeviceLocked_upserts h device now
      apply ih hupserts.quiet.placed
      rw [hupserts.scheduled_iff]
      rw [if_pos hwanted] at hk
      exact (or_assoc.trans or_left_comm).1 hk
    · next hwanted =>
      apply ih h
      rw [if_neg hwanted] at hk
      exact hk.imp_left (Or.resolve_left · not_mem_nil)

/-- After a refresh exactly the keys it has seen are enabled. -/
theorem refreshDevices_scheduled (h : s.Placed) (devices : List Device) (now : Time)
    (horder : Enumerates order (s.scheduleDevices devices now).items) (k : TaskKey) :
    (s.refreshDevices (some devices) now order).Scheduled k ↔ k ∈ seenKeys devices := by
  have hplaced := (scheduleDevices_quiet (R := fun _ => True) h devices now).placed
  simp only [refreshDevices]
  rw [(dropUnseen_pass (seenKeys devices)).enumerated horder hplaced, not_not]
  constructor
  · exact fun hk => hk.2
  · exact fun hk => ⟨scheduleDevices_scheduled devices now h (.inl hk), hk⟩

theorem mem_seenKeys_iff {devices : List Device} (hmem : device ∈ devices)
    (hunique : ∀ d ∈ devices, d.id = device.id → d = device) (hk : k.deviceID = device.id) :
    k ∈ seenKeys devices ↔ k ∈ wantedKeys device := by
  simp only [seenKeys, mem_flatMap]
  constructor
  · rintro ⟨d, hd, hkd⟩
    have hid : d.id = device.id := by
      split at hkd
      · rw [← deviceID_of_mem_scheduledKeys hkd, hk]
      · cases hkd
    rwa [← hunique d hd hid]
  · exact fun hkd => ⟨device, hmem, hkd⟩

theorem reconcileDeviceTasks_others (h : s.Placed) (device : Device) (included : Bool)
    (changedAt now : Time) (order : List TaskKey) :
    OthersKept (fun k => decide (k.deviceID = device.id)) s
      (s.reconcileDeviceTasks device included changedAt now order) := by
  have hremove : ∀ (order : List TaskKey) (s : Scheduler), s.Placed →
      OthersKept (fun k => decide (k.deviceID = device.id)) s
        (s.removeDeviceTasksLocked device.id order) := by
    intro order
    induction order with
    | nil => exact fun s _ => .refl _ s
    | cons a order ih =>
      intro s h
      have hpass := removeDeviceTask_pass device.id
      refine OthersKept.trans ?_ (ih _ (hpass.placed s a h))
      by_cases ha : a.deviceID = device.id
      · apply (hpass.retires s a h ha).others.mono h _
        intro k hk
        simpa [just] using (of_decide_eq_true hk) ▸ ha
      · rw [hpass.spares s a ha]
        exact .refl _ s
  have hplaced : (s.removeDeviceTasksLocked device.id order).Placed :=
    (removeDeviceTasksLocked_quiet (R := fun _ => True) h device.id order).placed
  simp only [reconcileDeviceTasks]
  split
  · apply (hremove order s h).trans
    apply (scheduleRecurringDeviceLocked_upserts hplaced device _).others.mono hplaced _
    intro k hk
    simpa using deviceID_of_mem_scheduledKeys (of_decide_eq_true hk)
  · exact hremove order s h

/-- In every reachable state: after a reconcile of a listed device, for which the membership gate
answers, its enabled keys are those that a refresh of the list leaves enabled; the tasks of other
devices keep their place, their order and all that is written in them; and a refresh whose source
fails changes nothing. -/
theorem reconcile_agrees_with_refresh {tr : List Event} (h : Reached s tr) {devices : List Device}
    {device : Device} (hmem : device ∈ devices)
    (hunique : ∀ d ∈ devices, d.id = device.id → d = device) (gate : MembershipGate)
    (changedAt now : Time) {order order' : List TaskKey} (horder : Enumerates order s.items)
    (horder' : Enumerates order' (s.scheduleDevices devices now).items) :
    (gate = .absent ∨ gate = .answers true → ∀ k, k.deviceID = device.id →
      ((s.reconcileDeviceTasks device (sourceIncludesDevice gate) changedAt now order).Scheduled k ↔
        (s.refreshDevices (some devices) now order').Scheduled k)) ∧
    OthersKept (fun k => decide (k.deviceID = device.id)) s
      (s.reconcileDeviceTasks device (sourceIncludesDevice gate) changedAt now order) ∧
    s.refreshDevices none now order' = s := by
  refine ⟨?_, reconcileDeviceTasks_others h.placed device _ changedAt now order, rfl⟩
  intro hgate k hk
  have hincluded : sourceIncludesDevice gate = true := by
    obtain rfl | rfl := hgate <;> rfl
  rw [hincluded, reconcileDeviceTasks_scheduled h.placed device changedAt now horder hk,
    refreshDevices_scheduled h.placed devices now horder', mem_seenKeys_iff hmem hunique hk]

end Functions

/-- A second device beside the probe. -/
def neighbour : Device := { probe 3 with id := 2 }

theorem reconcile_agrees_with_refresh_probe :
    (probeScheduled.reconcileDeviceTasks (probe 2) (sourceIncludesDevice (.answers true)) 0
      (5 * second) [probeKey]).Scheduled probeKey ↔
    (probeScheduled.refreshDevices (some [neighbour, probe 2]) (5 * second)
      [newBackgroundTaskKey 2 .operational, probeKey]).Scheduled probeKey :=
  (reconcile_agrees_with_refresh probeScheduled_reached
    (show probe 2 ∈ [neighbour, probe 2] by decide +kernel) (by decide +kernel) (.answers true) 0
    (5 * second) (by decide +kernel) (by decide +kernel)).1 (.inr rfl) probeKey rfl

/-- The membership check of a listed device fails: the reconcile drops the tasks of the device, which
a refresh keeps. -/
theorem reconcile_drops_tasks : ∃ (s : Scheduler) (tr : List Event) (devices : List Device)
    (device : Device) (order order' : List TaskKey) (now : Time), Reached s tr ∧ device ∈ devices ∧
    (∀ d ∈ devices, d.id = device.id → d = device) ∧ Enumerates order s.items ∧
    Enumerates order' (s.scheduleDevices devices now).items ∧
    ¬ (s.reconcileDeviceTasks device (sourceIncludesDevice .fails) 0 now order).Scheduled probeKey ∧
    (s.refreshDevices (some devices) now order').Scheduled probeKey := by
  refine ⟨probeScheduled, [], [probe 2], probe 2, [probeKey], [probeKey], 5 * second,
    probeScheduled_reached, by decide +kernel, by decide +kernel, by decide +kernel,
    by decide +kernel, ?_, 0, by decide +kernel, by decide +kernel⟩
  rintro ⟨r, hr, -⟩
  cases hr

end Theia.Scheduler
