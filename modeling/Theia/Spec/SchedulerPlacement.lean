import Theia.Spec.SchedulerHeap

/-!
# Where a scheduled item is

`PlacedAt m s held` says that every item of the map `m` is in exactly one of the due heap, one
slot of one ready queue, or in flight, and that the heap and the queues hold nothing else. One
item may be `held`: taken from its place and not yet put in another, as it is inside a critical
section. All transitions of the scheduler are made of moves of one item (`PlacedAt.move`), the
creation of an item (`PlacedAt.alloc`) and its removal (`PlacedAt.forget`).
-/

namespace Theia.Scheduler

open HeapInterface

variable {k : TaskKey} {s : Scheduler} {r q : ItemRef} {p : Place}

/-! ### Task shape -/

/-- The volatility class of the task scheduled under a key. -/
def classOf (k : TaskKey) : VolatilityClass :=
  match k.kind with
  | .essential => .unset
  | .bootstrap => .static
  | .background | .unset => k.volatilityClass

/-- `task` is the task scheduled under `k`: device, kind and class are determined by the key. -/
structure Shaped (k : TaskKey) (task : PollTask) : Prop where
  key : task.key = k
  deviceID : task.device.id = k.deviceID
  kind : task.kind = k.kind
  kind_set : k.kind ≠ .unset
  lane_set : task.lane ≠ .unset
  volatilityClass : task.volatilityClass = classOf k

theorem Shaped.congr {t t' : PollTask} (h : Shaped k t) (hkey : t'.key = t.key)
    (hdevice : t'.device = t.device) (hkind : t'.kind = t.kind) (hlane : t'.lane = t.lane)
    (hclass : t'.volatilityClass = t.volatilityClass) : Shaped k t' :=
  ⟨hkey.trans h.key, hdevice ▸ h.deviceID, hkind.trans h.kind, h.kind_set, hlane ▸ h.lane_set,
    hclass.trans h.volatilityClass⟩

theorem Shaped.normalizeTask_eq {task : PollTask} (h : Shaped k task) :
    normalizeTask task = task := by
  have hk : task.kind ≠ .unset := by rw [h.kind]; exact h.kind_set
  have hv : task.kind = .background → task.volatilityClass = task.key.volatilityClass := by
    intro hb
    rw [h.volatilityClass, h.key, classOf, ← h.kind, hb]
  unfold normalizeTask
  simp only [if_neg hk, if_neg h.lane_set]
  split_ifs with hc
  · rw [← hv hc.1]
  · rfl

theorem Shaped.heapPriority_eq {t t' : PollTask} (h : Shaped k t) (h' : Shaped k t') :
    heapPriority t' = heapPriority t := by
  simp [heapPriority, h.normalizeTask_eq, h'.normalizeTask_eq, h.kind, h'.kind, h.volatilityClass,
    h'.volatilityClass]

theorem Shaped.sortKey_eq {a b : HeapItem} (h : Shaped k a.task) (h' : Shaped k b.task)
    (hd : b.dueAt = a.dueAt) : HeapItem.sortKey b = HeapItem.sortKey a := by
  simp [HeapItem.sortKey, hd, h.heapPriority_eq h', h.key, h'.key]

/-- A shape whose kind and class are the ones of its key. -/
structure ProperShape (shape : TaskShape) : Prop where
  kind : shape.kind = shape.key.kind
  kind_set : shape.key.kind ≠ .unset
  lane_set : shape.lane ≠ .unset
  volatilityClass : shape.volatilityClass = classOf shape.key

theorem essentialShape_proper (id : UUID) : ProperShape (essentialShape id) := by
  constructor <;> simp [essentialShape, newEssentialTaskKey, classOf]

theorem backgroundShape_proper (id : UUID) (v : VolatilityClass) :
    ProperShape (backgroundShape id v) := by
  constructor <;> simp [backgroundShape, newBackgroundTaskKey, classOf]

theorem bootstrapShape_proper (id : UUID) : ProperShape (bootstrapShape id) := by
  constructor <;> simp [bootstrapShape, newBootstrapTaskKey, classOf]

theorem ProperShape.reschedule {shape : TaskShape} (h : ProperShape shape) (item : HeapItem)
    (device : Device) (hd : device.id = shape.key.deviceID) (dueAt : Time) (interval : Duration) :
    Shaped shape.key (item.reschedule shape device dueAt interval).task :=
  { h with key := rfl, deviceID := hd }

theorem ProperShape.fresh {shape : TaskShape} (h : ProperShape shape) (device : Device)
    (hd : device.id = shape.key.deviceID) (dueAt : Time) (interval : Duration) :
    Shaped shape.key (HeapItem.fresh shape device dueAt interval).task :=
  { h with key := rfl, deviceID := hd }

/-! ### Places -/

/-- Where an item can be. -/
inductive Place
  | heap | ready | flight | held
  deriving DecidableEq

/-- The item at `r` is in one place, and its flags say so. -/
def At (s : Scheduler) (r : ItemRef) : Place → Prop
  | .heap => r ∈ s.heap ∧ r ∉ s.readyEntries ∧ (s.store r).queued = false ∧
      (s.store r).inFlight = false
  | .ready => r ∉ s.heap ∧ r ∈ s.readyEntries ∧ (s.store r).queued = true ∧
      (s.store r).inFlight = false ∧ (s.store r).index = -1
  | .flight => r ∉ s.heap ∧ r ∉ s.readyEntries ∧ (s.store r).queued = false ∧
      (s.store r).inFlight = true ∧ (s.store r).index = -1
  | .held => r ∉ s.heap ∧ r ∉ s.readyEntries ∧ (s.store r).queued = false ∧
      (s.store r).inFlight = false ∧ (s.store r).index = -1

/-- Every item of `m` has its place, the heap and the ready queues hold nothing else, and only
`held` is between two places. -/
structure PlacedAt (m : FMap TaskKey ItemRef) (s : Scheduler) (held : Option ItemRef) : Prop where
  heapOK : HeapOK s
  readyNodup : s.readyEntries.Nodup
  shape : ∀ k r, m.get k = some r → Shaped k (s.store r).task
  bound : ∀ k r, m.get k = some r → r < s.nextRef
  heapCurrent : ∀ r ∈ s.heap, ∃ k, m.get k = some r
  readyCurrent : ∀ r ∈ s.readyEntries, ∃ k, m.get k = some r
  place : ∀ k r, m.get k = some r → ∃ p, At s r p ∧ (p = .held ↔ held = some r)

/-- Every item of the scheduler has its place. -/
def Placed (s : Scheduler) : Prop := PlacedAt s.items s none

theorem PlacedAt.key_unique {m : FMap TaskKey ItemRef} {held : Option ItemRef}
    (h : PlacedAt m s held) {k' : TaskKey} (hk : m.get k = some r) (hk' : m.get k' = some r) :
    k = k' :=
  (h.shape k r hk).key.symm.trans (h.shape k' r hk').key

/-- The item at `q` keeps its place from `s` to `s'`. -/
structure Kept (s s' : Scheduler) (q : ItemRef) : Prop where
  heap_iff : q ∈ s'.heap ↔ q ∈ s.heap
  ready_iff : q ∈ s'.readyEntries ↔ q ∈ s.readyEntries
  item : s'.store q = { s.store q with index := (s'.store q).index }
  index : q ∉ s.heap → (s'.store q).index = (s.store q).index

theorem Kept.at {s' : Scheduler} (h : Kept s s' q) (hp : At s q p) : At s' q p := by
  have hq : (s'.store q).queued = (s.store q).queued := by rw [h.item]
  have hf : (s'.store q).inFlight = (s.store q).inFlight := by rw [h.item]
  cases p with
  | heap => simpa [At, h.heap_iff, h.ready_iff, hq, hf] using hp
  | ready | flight | held => simpa [At, h.heap_iff, h.ready_iff, hq, hf, h.index hp.1] using hp

theorem Kept.trans {t u : Scheduler} (h : Kept s t q) (h' : Kept t u q) : Kept s u q where
  heap_iff := h'.heap_iff.trans h.heap_iff
  ready_iff := h'.ready_iff.trans h.ready_iff
  item := by rw [h'.item, h.item]
  index hq := (h'.index fun hm => hq (h.heap_iff.1 hm)).trans (h.index hq)

theorem kept_of_eq {s' : Scheduler} (hheap : s'.heap = s.heap)
    (hready : s'.readyEntries = s.readyEntries) (hq : s'.store q = s.store q) : Kept s s' q :=
  ⟨by rw [hheap], by rw [hready], by rw [hq], fun _ => by rw [hq]⟩

theorem kept_modify (s : Scheduler) (f : HeapItem → HeapItem) (h : q ≠ r) :
    Kept s (s.modify r f) q :=
  kept_of_eq rfl rfl (modify_store_ne s f h)

theorem At.mem_heap_iff (h : At s r p) : r ∈ s.heap ↔ p = .heap := by
  cases p <;> simp_all [At]

theorem At.mem_ready_iff (h : At s r p) : r ∈ s.readyEntries ↔ p = .ready := by
  cases p <;> simp_all [At]

theorem At.inFlight_iff (h : At s r p) : (s.store r).inFlight = true ↔ p = .flight := by
  cases p <;> simp_all [At]

theorem At.queued_iff (h : At s r p) : (s.store r).queued = true ↔ p = .ready := by
  cases p <;> simp_all [At]

section Moves

variable {m : FMap TaskKey ItemRef} {s s' : Scheduler} {held : Option ItemRef} {k : TaskKey}
  {r : ItemRef}

theorem PlacedAt.heldAt (h : PlacedAt m s (some r)) (hr : m.get k = some r) : At s r .held := by
  obtain ⟨p, hp, hiff⟩ := h.place k r hr
  obtain rfl := hiff.2 rfl
  exact hp

theorem PlacedAt.index_nonneg (h : PlacedAt m s held) (hmem : r ∈ s.heap) :
    0 ≤ (s.store r).index := by
  obtain ⟨i, hget⟩ := List.mem_iff_getElem?.1 hmem
  rw [h.heapOK.index_eq i r hget]
  exact Int.natCast_nonneg i

/-- Moving the item of one key to the place `p`, with all others kept in theirs. -/
theorem PlacedAt.move (h : PlacedAt m s held) (hr : m.get k = some r)
    (hheld : ∀ q, held = some q → q = r) (hok : HeapOK s') (hnd : s'.readyEntries.Nodup)
    (hnext : s'.nextRef = s.nextRef) (hother : ∀ q, q ≠ r → Kept s s' q)
    (hshape : Shaped k (s'.store r).task) (hp : At s' r p) :
    PlacedAt m s' (if p = .held then some r else none) where
  heapOK := hok
  readyNodup := hnd
  shape k' q hq := by
    by_cases hqr : q = r
    · subst hqr
      rw [h.key_unique hq hr]
      exact hshape
    · have hs := h.shape k' q hq
      rw [(hother q hqr).item]
      exact hs
  bound k' q hq := by
    rw [hnext]
    exact h.bound k' q hq
  heapCurrent q hq := by
    by_cases hqr : q = r
    · exact ⟨k, hqr ▸ hr⟩
    · exact h.heapCurrent q ((hother q hqr).heap_iff.1 hq)
  readyCurrent q hq := by
    by_cases hqr : q = r
    · exact ⟨k, hqr ▸ hr⟩
    · exact h.readyCurrent q ((hother q hqr).ready_iff.1 hq)
  place k' q hq := by
    by_cases hqr : q = r
    · subst hqr
      exact ⟨p, hp, by split <;> simp_all⟩
    · obtain ⟨p', hp', hiff⟩ := h.place k' q hq
      refine ⟨p', (hother q hqr).at hp', ?_⟩
      have hne : held ≠ some q := fun e => hqr (hheld q e)
      simp only [hiff, hne, false_iff]
      split <;> simp [Ne.symm hqr]

theorem PlacedAt.alloc (h : PlacedAt m s none) (hk : m.get k = none) {item : HeapItem}
    (hshape : Shaped k item.task) (hqueued : item.queued = false) (hf : item.inFlight = false)
    (hi : item.index = -1) :
    PlacedAt (m.insert k s.nextRef) (s.alloc item).1 (some s.nextRef) := by
  have hnew : ∀ k' r, m.get k' = some r → r ≠ s.nextRef :=
    fun k' r hr => (h.bound k' r hr).ne
  have hnh : s.nextRef ∉ s.heap := fun hm => by
    obtain ⟨k', hk'⟩ := h.heapCurrent _ hm
    exact hnew k' _ hk' rfl
  have hnr : s.nextRef ∉ s.readyEntries := fun hm => by
    obtain ⟨k', hk'⟩ := h.readyCurrent _ hm
    exact hnew k' _ hk' rfl
  have hst : ∀ q, q ≠ s.nextRef → (s.alloc item).1.store q = s.store q := fun q hq => by
    simp [Scheduler.alloc, hq]
  have hself : (s.alloc item).1.store s.nextRef = item := by simp [Scheduler.alloc]
  have hkeep : ∀ {q}, (∃ k', m.get k' = some q) → ∃ k', (m.insert k s.nextRef).get k' = some q := by
    rintro q ⟨k', hq⟩
    refine ⟨k', (FMap.get_insert_ne m _ ?_).trans hq⟩
    rintro rfl
    rw [hk] at hq
    cases hq
  constructor
  · refine h.heapOK.congr rfl fun q hq => ?_
    rw [hst q fun e => hnh (e ▸ hq)]
    exact ⟨rfl, rfl⟩
  · exact h.readyNodup
  · refine FMap.forall_get_insert (hself.symm ▸ hshape) fun k' q _ hq => ?_
    rw [hst q (hnew k' q hq)]
    exact h.shape k' q hq
  · exact FMap.forall_get_insert (Nat.lt_succ_self _) fun k' q _ hq =>
      Nat.lt_succ_of_lt (h.bound k' q hq)
  · exact fun q hq => hkeep (h.heapCurrent q hq)
  · exact fun q hq => hkeep (h.readyCurrent q hq)
  · refine FMap.forall_get_insert ⟨.held, ?_, by simp⟩ fun k' q _ hq => ?_
    · exact ⟨hnh, hnr, by rw [hself, hqueued], by rw [hself, hf], by rw [hself, hi]⟩
    · obtain ⟨p, hp, hiff⟩ := h.place k' q hq
      have hne := hnew k' q hq
      have hkept : Kept s (s.alloc item).1 q := kept_of_eq rfl rfl (hst q hne)
      exact ⟨p, hkept.at hp, by simp [hiff, Ne.symm hne]⟩

theorem PlacedAt.forget (h : PlacedAt m s (some r)) (hr : m.get k = some r) :
    PlacedAt (m.erase k) s none := by
  have hp := h.heldAt hr
  have hkeep : ∀ q, q ≠ r → (∃ k', m.get k' = some q) → ∃ k', (m.erase k).get k' = some q := by
    rintro q hq ⟨k', hk'⟩
    refine ⟨k', FMap.get_erase_eq_some.2 ⟨?_, hk'⟩⟩
    rintro rfl
    exact hq (Option.some.inj (hk'.symm.trans hr))
  exact
    { heapOK := h.heapOK
      readyNodup := h.readyNodup
      shape := fun k' q hq => h.shape k' q (FMap.get_erase_eq_some.1 hq).2
      bound := fun k' q hq => h.bound k' q (FMap.get_erase_eq_some.1 hq).2
      heapCurrent := fun q hq =>
        hkeep q (fun e => hp.1 (e ▸ hq)) (h.heapCurrent q hq)
      readyCurrent := fun q hq =>
        hkeep q (fun e => hp.2.1 (e ▸ hq)) (h.readyCurrent q hq)
      place := fun k' q hq => by
        obtain ⟨hne, hq⟩ := FMap.get_erase_eq_some.1 hq
        obtain ⟨p', hp', hiff'⟩ := h.place k' q hq
        refine ⟨p', hp', ?_⟩
        have hqr : r ≠ q := by
          rintro rfl; exact hne (h.key_unique hq hr)
        simp only [hiff', Option.some.injEq, hqr, reduceCtorEq] }

end Moves

end Theia.Scheduler
