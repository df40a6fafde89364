import Theia.Spec.SchedulerPlacement

/-!
# Transitions that keep the tasks in flight

A refresh, a reconciliation, a re-due request and the promotion of due work neither dispatch nor
complete anything. `QuietStep w` says what they do to a placed scheduler: every item has its place
again, the counters are untouched, the tasks in flight are the same up to the device rows that `w`
writes into them, an enabled task stays scheduled unless `w` retires it, and an item keeps its due
time unless its key may be re-due.
-/

namespace Theia.Scheduler

open FMap List HeapInterface

variable {w : Effects} {k : TaskKey} {x y : Option HeapItem} {f : HeapItem → HeapItem}
  {es : List ItemRef} {r : ItemRef}

/-! ### Tasks in flight -/

/-- The item in flight under a key of `m`. -/
def flightAt (m : FMap TaskKey ItemRef) (s : Scheduler) (k : TaskKey) : Option HeapItem :=
  (m.get k).bind fun r => if (s.store r).inFlight then some (s.store r) else none

/-- The item in flight under a key. -/
abbrev flight (s : Scheduler) (k : TaskKey) : Option HeapItem := s.flightAt s.items k

/-- What a transition may do to the item of a key: write a device row into it, or stop
scheduling it. -/
inductive Effect
  | write (key : TaskKey) (device : Device)
  | retire (key : TaskKey)

abbrev Effects := List Effect

/-- What is in flight under `k` stays in flight in the same run; its device row is the old one
or one that `w` writes. -/
def FlightKept (w : Effects) (k : TaskKey) : Option HeapItem → Option HeapItem → Prop
  | none, none => True
  | some a, some b => b.runID = a.runID ∧ b.task.kind = a.task.kind ∧
      (b.task.device = a.task.device ∨ .write k b.task.device ∈ w)
  | _, _ => False

theorem FlightKept.refl (w : Effects) (k : TaskKey) (x : Option HeapItem) : FlightKept w k x x := by
  cases x <;> simp [FlightKept]

theorem FlightKept.eq_none_iff (h : FlightKept w k x y) : x = none ↔ y = none := by
  cases x <;> cases y <;> simp_all [FlightKept]

theorem FlightKept.trans {w' : Effects} {z : Option HeapItem} (h : FlightKept w k x y)
    (h' : FlightKept w' k y z) : FlightKept (w ++ w') k x z := by
  cases x <;> cases y <;> cases z <;> simp only [FlightKept] at h h' ⊢
  obtain ⟨hr, hk, hd⟩ := h
  obtain ⟨hr', hk', hd'⟩ := h'
  refine ⟨hr'.trans hr, hk'.trans hk, ?_⟩
  rcases hd' with hd' | hd'
  · rw [hd']
    exact hd.imp_right fun h => mem_append_left _ h
  · exact .inr (mem_append_right _ hd')

theorem FlightKept.mono {w' : Effects} (h : FlightKept w k x y) (hsub : w ⊆ w') :
    FlightKept w' k x y := by
  cases x <;> cases y <;> simp only [FlightKept] at h ⊢
  exact ⟨h.1, h.2.1, h.2.2.imp_right fun h => hsub h⟩

/-- The part of the state that only dispatch, completion and the run lifecycle change. -/
def counters (s : Scheduler) :
    Bool × Int × (VolatilityClass → Int) × Int × IsolationCounts × IsolationCounts × Nat × Nat :=
  (s.started, s.inFlight, s.inFlightByClass, s.inFlightEssential, s.inFlightBy, s.essentialBy,
    s.runID, s.deadlineMissTotal)

/-- From `s` with the item map `m` to `s'` with `m'`, new keys have new items, and the item of a key
keeps its due time and gets no request to run again, unless `R` allows a re-due of the key. -/
structure DueKept (R : TaskKey → Prop) (m : FMap TaskKey ItemRef) (s : Scheduler)
    (m' : FMap TaskKey ItemRef) (s' : Scheduler) : Prop where
  next : s.nextRef ≤ s'.nextRef
  old : ∀ k r, m'.get k = some r → r < s.nextRef → m.get k = some r
  item : ∀ k r, m'.get k = some r → r < s.nextRef → ¬R k →
    (s'.store r).dueAt = (s.store r).dueAt ∧
      (s'.store r).immediateRerun = (s.store r).immediateRerun

/-- From `s` with the item map `m` to `s'` with `m'`, nothing was dispatched or completed. -/
structure QuietStep (R : TaskKey → Prop) (w : Effects) (m : FMap TaskKey ItemRef)
    (s : Scheduler) (m' : FMap TaskKey ItemRef) (s' : Scheduler) (held' : Option ItemRef) :
    Prop where
  placed : PlacedAt m' s' held'
  frame : s'.counters = s.counters
  flights : ∀ k, FlightKept w k (s.flightAt m k) (s'.flightAt m' k)
  enabled : ∀ k r, m.get k = some r → (s.store r).disabled = false → .retire k ∉ w →
    m'.get k = some r ∧ (s'.store r).disabled = false
  due : DueKept R m s m' s'

/-- What a quiet transition may do to the item of `k`, its place apart. -/
structure QuietWrite (R : TaskKey → Prop) (w : Effects) (k : TaskKey) (a b : HeapItem) :
    Prop where
  shape : Shaped k b.task
  inFlight : b.inFlight = a.inFlight
  run : a.inFlight = true → b.runID = a.runID ∧
    (b.task.device = a.task.device ∨ .write k b.task.device ∈ w)
  enabled : a.disabled = false → .retire k ∉ w → b.disabled = false
  due : ¬R k → b.dueAt = a.dueAt ∧ b.immediateRerun = a.immediateRerun

section Quiet

variable {m m' m'' : FMap TaskKey ItemRef} {s s' s'' : Scheduler} {held held' held'' : Option ItemRef}
  {k : TaskKey} {r : ItemRef} {w w' : Effects} {R : TaskKey → Prop}

theorem DueKept.refl (R : TaskKey → Prop) (m : FMap TaskKey ItemRef) (s : Scheduler) :
    DueKept R m s m s :=
  ⟨le_rfl, fun _ _ hr _ => hr, fun _ _ _ _ _ => ⟨rfl, rfl⟩⟩

theorem DueKept.trans (h : DueKept R m s m' s') (h' : DueKept R m' s' m'' s'') :
    DueKept R m s m'' s'' where
  next := h.next.trans h'.next
  old k r hr hlt := h.old k r (h'.old k r hr (hlt.trans_le h.next)) hlt
  item k r hr hlt hk := by
    have hlt' := hlt.trans_le h.next
    obtain ⟨hdue, hrerun⟩ := h.item k r (h'.old k r hr hlt') hlt hk
    obtain ⟨hdue', hrerun'⟩ := h'.item k r hr hlt' hk
    exact ⟨hdue'.trans hdue, hrerun'.trans hrerun⟩

theorem DueKept.mono {R' : TaskKey → Prop} (h : DueKept R m s m' s')
    (hsub : ∀ k, R k → R' k) : DueKept R' m s m' s' :=
  ⟨h.next, h.old, fun k r hr hlt hk => h.item k r hr hlt (mt (hsub k) hk)⟩

theorem PlacedAt.quiet (h : PlacedAt m s held) : QuietStep R [] m s m s held :=
  ⟨h, rfl, fun _ => FlightKept.refl _ _ _, fun _ _ hr hd _ => ⟨hr, hd⟩, .refl _ _ _⟩

theorem QuietStep.trans (h : QuietStep R w m s m' s' held')
    (h' : QuietStep R w' m' s' m'' s'' held'') :
    QuietStep R (w ++ w') m s m'' s'' held'' where
  placed := h'.placed
  frame := h'.frame.trans h.frame
  flights k := (h.flights k).trans (h'.flights k)
  enabled k r hr hd hw := by
    rw [mem_append, not_or] at hw
    obtain ⟨hr', hd'⟩ := h.enabled k r hr hd hw.1
    exact h'.enabled k r hr' hd' hw.2
  due := h.due.trans h'.due

theorem QuietStep.mono (h : QuietStep R w m s m' s' held') (hsub : w ⊆ w') :
    QuietStep R w' m s m' s' held' :=
  { h with
    flights := fun k => (h.flights k).mono hsub
    enabled := fun k r hr hd hw => h.enabled k r hr hd fun hm => hw (hsub hm) }

theorem Shaped.moved {a b : HeapItem} (h : Shaped k a.task)
    (hb : b = { a with index := b.index }) : QuietWrite R w k a b := by
  rw [hb]
  exact ⟨h, rfl, fun _ => ⟨rfl, .inl rfl⟩, fun hd _ => hd, fun _ => ⟨rfl, rfl⟩⟩

section

variable (h : PlacedAt m s held) (hr : m.get k = some r) (hheld : ∀ q, held = some q → q = r)
include h hr hheld

/-- `PlacedAt.move` for an item whose flight status does not change. -/
theorem PlacedAt.quietMove (hok : HeapOK s') (hnd : s'.readyEntries.Nodup)
    (hnext : s'.nextRef = s.nextRef) (hframe : s'.counters = s.counters)
    (hother : ∀ q, q ≠ r → Kept s s' q) (hitem : QuietWrite R w k (s.store r) (s'.store r))
    {p : Place} (hp : At s' r p) :
    QuietStep R w m s m s' (if p = .held then some r else none) where
  placed := h.move hr hheld hok hnd hnext hother hitem.shape hp
  frame := hframe
  flights k' := by
    cases hk' : m.get k' with
    | none => simp [flightAt, hk', FlightKept]
    | some q =>
      simp only [flightAt, hk', Option.bind_some]
      by_cases hqr : q = r
      · subst hqr
        obtain rfl := h.key_unique hr hk'
        rw [hitem.inFlight]
        split_ifs with hin
        · obtain ⟨h1, h2⟩ := hitem.run hin
          exact ⟨h1, by rw [hitem.shape.kind, (h.shape k q hr).kind], h2⟩
        · trivial
      · have hitem := (hother q hqr).item
        have hin : (s'.store q).inFlight = (s.store q).inFlight := by rw [hitem]
        rw [hin]
        split
        · rw [hitem]
          exact ⟨rfl, rfl, .inl rfl⟩
        · trivial
  enabled k' q hq hd hw := by
    refine ⟨hq, ?_⟩
    by_cases hqr : q = r
    · subst hqr
      obtain rfl := h.key_unique hr hq
      exact hitem.enabled hd hw
    · rw [(hother q hqr).item]
      exact hd
  due := by
    refine ⟨hnext.ge, fun _ _ hq _ => hq, fun k' q hq _ hk' => ?_⟩
    by_cases hqr : q = r
    · subst hqr
      obtain rfl := h.key_unique hr hq
      exact hitem.due hk'
    · rw [(hother q hqr).item]
      exact ⟨rfl, rfl⟩

/-- A write through the pointer of an item that changes neither its place nor, in the heap,
its due time. -/
theorem PlacedAt.modify (hitem : QuietWrite R w k (s.store r) (f (s.store r)))
    (hq : (f (s.store r)).queued = (s.store r).queued)
    (hi : (f (s.store r)).index = (s.store r).index)
    (hdue : r ∈ s.heap → (f (s.store r)).dueAt = (s.store r).dueAt) :
    QuietStep R w m s m (s.modify r f) held := by
  have hself : (s.modify r f).store r = f (s.store r) := modify_store_self s r f
  have hne : ∀ q, q ≠ r → (s.modify r f).store q = s.store q := fun q h => modify_store_ne s f h
  have hok : HeapOK (s.modify r f) := by
    refine h.heapOK.congr rfl fun q hmem => ?_
    by_cases hqr : q = r
    · subst hqr
      rw [hself]
      exact ⟨hi, (h.shape k q hr).sortKey_eq hitem.shape (hdue hmem)⟩
    · rw [hne q hqr]
      exact ⟨rfl, rfl⟩
  obtain ⟨p, hp, hiff⟩ := h.place k r hr
  have hp' : At (s.modify r f) r p := by
    cases p <;> simpa [At, hself, hq, hitem.inFlight, hi, modify_heap, readyEntries, modify_ready] using hp
  have hres := h.quietMove hr hheld hok h.readyNodup rfl rfl
    (fun q hqr => kept_modify s f hqr) (by rw [hself]; exact hitem) hp'
  -- the held item, if there is one, is this one
  have hsame : (if p = .held then some r else none) = held := by
    split
    · exact (hiff.1 ‹_›).symm
    · cases held with
      | none => rfl
      | some q => exact absurd (hiff.2 (by rw [hheld q rfl])) ‹_›
  rwa [hsame] at hres

end

/-! ### Moves of one item -/

section

variable (h : HeapStep s s' es)
include h

theorem HeapStep.readyEntries_eq : s'.readyEntries = s.readyEntries := by
  rw [h.frame]; rfl

theorem HeapStep.items_eq : s'.items = s.items := by
  rw [h.frame]

theorem HeapStep.counters_eq : s'.counters = s.counters := by
  rw [h.frame]; rfl

theorem HeapStep.nextRef_eq : s'.nextRef = s.nextRef := by
  rw [h.frame]

theorem HeapStep.kept {q : ItemRef} (hq : q ∈ es ↔ q ∈ s.heap) : Kept s s' q where
  heap_iff := by rw [h.perm.mem_iff, hq]
  ready_iff := by rw [h.readyEntries_eq]
  item := h.item q
  index hn := by rw [h.off q hn (fun he => hn (hq.1 he))]

end

/-- Taking an item out of the heap (`heap.Pop` or `heap.Remove`). -/
theorem PlacedAt.leaveHeap (h : PlacedAt m s none) (hr : m.get k = some r) (hmem : r ∈ s.heap)
    (hst : HeapStep s s' (s.heap.erase r)) (hok : HeapOK s') (hidx : (s'.store r).index = -1) :
    QuietStep R [] m s m s' (some r) := by
  obtain ⟨p, hp, -⟩ := h.place k r hr
  obtain rfl := hp.mem_heap_iff.1 hmem
  have hitem := hst.item r
  have hnot : r ∉ s'.heap := by
    rw [hst.perm.mem_iff]
    exact fun hm => (h.heapOK.nodup.mem_erase_iff.1 hm).1 rfl
  have hp' : At s' r .held := by
    refine ⟨hnot, ?_, ?_, ?_, hidx⟩
    · rw [hst.readyEntries_eq]; exact hp.2.1
    · rw [hitem]; exact hp.2.2.1
    · rw [hitem]; exact hp.2.2.2
  refine h.quietMove hr (by simp) hok (by rw [hst.readyEntries_eq]; exact h.readyNodup)
    hst.nextRef_eq hst.counters_eq (fun q hqr => hst.kept ?_) ((h.shape k r hr).moved hitem) hp'
  rw [h.heapOK.nodup.mem_erase_iff]
  exact ⟨fun h => h.2, fun h => ⟨hqr, h⟩⟩

theorem PlacedAt.heapPush (h : PlacedAt m s (some r)) (hr : m.get k = some r) :
    QuietStep R [] m s m (s.heapPush r) none := by
  have hp := h.heldAt hr
  obtain ⟨hst, hok⟩ := heapPush_spec h.heapOK hp.1
  have hitem := hst.item r
  have hp' : At (s.heapPush r) r .heap := by
    refine ⟨?_, ?_, ?_, ?_⟩
    · rw [hst.perm.mem_iff]; simp
    · rw [hst.readyEntries_eq]; exact hp.2.1
    · rw [hitem]; exact hp.2.2.1
    · rw [hitem]; exact hp.2.2.2.1
  exact h.quietMove hr (by simp) hok (by rw [hst.readyEntries_eq]; exact h.readyNodup)
    hst.nextRef_eq hst.counters_eq (fun q hqr => hst.kept (by simp [hqr]))
    ((h.shape k r hr).moved hitem) hp'

theorem mem_readyEntries {q : ItemRef} : q ∈ s.readyEntries ↔ ∃ p, q ∈ s.ready p := by
  simp only [readyEntries, mem_append]
  constructor
  · rintro ((h | h) | h)
    · exact ⟨0, h⟩
    · exact ⟨1, h⟩
    · exact ⟨2, h⟩
  · rintro ⟨p, hp⟩
    fin_cases p
    · exact .inl (.inl hp)
    · exact .inl (.inr hp)
    · exact .inr hp

theorem count_readyEntries_update (p : Fin 3) (queue : List ItemRef) (a : ItemRef)
    (hs' : s'.ready = Function.update s.ready p queue) :
    s'.readyEntries.count a + (s.ready p).count a = s.readyEntries.count a + queue.count a := by
  simp only [readyEntries, hs', count_append]
  fin_cases p <;> simp <;> omega

/-- Moving an item that is neither in the heap nor in flight in or out of the ready queues:
`s'` is `s` with other queues and with `f` applied to the item. -/
theorem PlacedAt.readyMove (h : PlacedAt m s held) (hr : m.get k = some r)
    (hheld : ∀ q, held = some q → q = r) (hheap : r ∉ s.heap) {queues : Fin 3 → List ItemRef}
    (hs' : s' = { s.modify r f with ready := queues })
    (hitem : QuietWrite R w k (s.store r) (f (s.store r))) (hnd : s'.readyEntries.Nodup)
    (hmem : ∀ q, q ≠ r → (q ∈ s'.readyEntries ↔ q ∈ s.readyEntries)) {p : Place} (hp : At s' r p) :
    QuietStep R w m s m s' (if p = .held then some r else none) := by
  have hself : s'.store r = f (s.store r) := by rw [hs']; exact modify_store_self s r f
  have hne : ∀ q, q ≠ r → s'.store q = s.store q := fun q hq => by
    rw [hs']; exact modify_store_ne s f hq
  have hok : HeapOK s' := by
    refine h.heapOK.congr (by rw [hs']; rfl) fun q hq => ?_
    rw [hne q fun e => hheap (e ▸ hq)]
    exact ⟨rfl, rfl⟩
  refine h.quietMove hr hheld hok hnd (by rw [hs']; rfl) (by rw [hs']; rfl) (fun q hqr => ?_)
    (by rw [hself]; exact hitem) hp
  exact ⟨by rw [hs']; exact Iff.rfl, hmem q hqr, by rw [hne q hqr], fun _ => by rw [hne q hqr]⟩

/-- Taking an item out of its ready queue; `s'` is `s` without that slot and with `queued`
cleared. -/
theorem PlacedAt.leaveReady (h : PlacedAt m s none) (hr : m.get k = some r) {p : Fin 3}
    {queue : List ItemRef} (hperm : (r :: queue).Perm (s.ready p))
    (hs' : s' = { s.modify r (fun item => { item with queued := false }) with
      ready := Function.update s.ready p queue }) :
    QuietStep R [] m s m s' (some r) := by
  have hmem : r ∈ s.readyEntries := mem_readyEntries.2 ⟨p, hperm.mem_iff.1 (by simp)⟩
  obtain ⟨pl, hp, -⟩ := h.place k r hr
  obtain rfl := hp.mem_ready_iff.1 hmem
  have hall : (r :: s'.readyEntries).Perm s.readyEntries := by
    refine perm_iff_count.2 fun a => ?_
    have h1 := count_readyEntries_update p queue a
      (show s'.ready = Function.update s.ready p queue by rw [hs'])
    have h2 := hperm.count_eq a
    simp only [count_cons] at h2 ⊢
    omega
  have hnd : (r :: s'.readyEntries).Nodup := hall.nodup_iff.2 h.readyNodup
  have hself : s'.store r = { s.store r with queued := false } := by
    rw [hs']; simp [modify_store_self]
  refine h.readyMove (p := .held) hr (by simp) hp.1 hs' ⟨h.shape k r hr, rfl,
    fun _ => ⟨rfl, .inl rfl⟩, fun hd _ => hd, fun _ => ⟨rfl, rfl⟩⟩ (nodup_cons.1 hnd).2
    (fun q hqr => ?_) ?_
  · rw [← hall.mem_iff, mem_cons]
    simp [hqr]
  · refine ⟨by rw [hs']; exact hp.1, (nodup_cons.1 hnd).1, by rw [hself], ?_, ?_⟩
    · rw [hself]; exact hp.2.2.2.1
    · rw [hself]; exact hp.2.2.2.2

/-- `removeReadyItem` of an item that is in a ready queue. -/
theorem PlacedAt.removeReadyItem (h : PlacedAt m s none) (hr : m.get k = some r)
    (hmem : r ∈ s.readyEntries) : QuietStep R [] m s m (s.removeReadyItem r) (some r) := by
  unfold Scheduler.removeReadyItem
  split
  · rename_i p hfind
    have hin : r ∈ s.ready p := by simpa using List.find?_some hfind
    exact h.leaveReady hr (perm_cons_erase hin).symm rfl
  · rename_i hfind
    obtain ⟨p, hp⟩ := mem_readyEntries.1 hmem
    have hnone := List.find?_eq_none.1 hfind p (by fin_cases p <;> simp)
    simp [hp] at hnone

section

variable (h : PlacedAt m s (some r)) (hr : m.get k = some r)
include h hr

theorem PlacedAt.enqueueWith {place : List ItemRef → ItemRef → List ItemRef}
    (hplace : ∀ queue, (place queue r).Perm (r :: queue)) :
    QuietStep R [] m s m (s.enqueueWith place r) none := by
  have hp := h.heldAt hr
  have hshape := h.shape k r hr
  have hq : (s.store r).queued = false := hp.2.2.1
  simp only [Scheduler.enqueueWith, hq, Bool.false_eq_true, if_false]
  generalize hs' : ({ s.modify r _ with ready := _ } : Scheduler) = s'
  have hself : s'.store r = { s.store r with
      task := { normalizeTask (s.store r).task with dueAt := (s.store r).dueAt }, queued := true } := by
    rw [← hs']; simp [modify_store_self]
  have hall : s'.readyEntries.Perm (r :: s.readyEntries) := by
    refine perm_iff_count.2 fun a => ?_
    obtain ⟨p, hready⟩ : ∃ p, s'.ready = Function.update s.ready p (place (s.ready p) r) :=
      ⟨_, by rw [← hs']; rfl⟩
    have h1 := count_readyEntries_update p _ a hready
    have h2 := (hplace (s.ready p)).count_eq a
    simp only [count_cons] at h2 ⊢
    omega
  have hnd : s'.readyEntries.Nodup := by
    rw [hall.nodup_iff, nodup_cons]
    exact ⟨hp.2.1, h.readyNodup⟩
  refine h.readyMove (p := .ready) hr (by simp) hp.1 hs'.symm ?_ hnd (fun q hqr => ?_) ?_
  · refine ⟨?_, rfl, ?_, fun hd _ => hd, fun _ => ⟨rfl, rfl⟩⟩
    · rw [hshape.normalizeTask_eq]
      exact hshape.congr rfl rfl rfl rfl rfl
    · simp [hp.2.2.2.1]
  · rw [hall.mem_iff, mem_cons]
    simp [hqr]
  · refine ⟨by rw [← hs']; exact hp.1, hall.mem_iff.2 (by simp), by rw [hself], ?_, ?_⟩
    · rw [hself]; exact hp.2.2.2.1
    · rw [hself]; exact hp.2.2.2.2

theorem PlacedAt.enqueueReady : QuietStep R [] m s m (s.enqueueReady r) none :=
  h.enqueueWith hr fun queue => perm_append_singleton r queue

theorem PlacedAt.pushReadyFront : QuietStep R [] m s m (s.pushReadyFront r) none :=
  h.enqueueWith hr fun _ => List.Perm.refl _

end

/-- Rewriting the due time of an item in the heap and restoring the order with `heap.Fix`. -/
theorem PlacedAt.modifyFix (h : PlacedAt m s none) (hr : m.get k = some r) (hmem : r ∈ s.heap)
    (hitem : QuietWrite R w k (s.store r) (f (s.store r)))
    (hq : (f (s.store r)).queued = (s.store r).queued)
    (hi : (f (s.store r)).index = (s.store r).index) :
    QuietStep R w m s m ((s.modify r f).heapFix (s.store r).index.toNat) none := by
  obtain ⟨p, hp, -⟩ := h.place k r hr
  obtain rfl := hp.mem_heap_iff.1 hmem
  obtain ⟨i, hget⟩ := mem_iff_getElem?.1 hmem
  have hidx := h.heapOK.index_eq i r hget
  have hilt : i < s.heap.length := (List.getElem?_eq_some_iff.1 hget).1
  have hself : (s.modify r f).store r = f (s.store r) := modify_store_self s r f
  have hne : ∀ q, q ≠ r → (s.modify r f).store q = s.store q := fun q h => modify_store_ne s f h
  have hix : Indexed (s.modify r f) := by
    refine ⟨h.heapOK.nodup, fun j q hj => ?_⟩
    by_cases hqr : q = r
    · subst hqr
      rw [hself, hi]
      exact h.heapOK.index_eq j q hj
    · rw [hne q hqr]
      exact h.heapOK.index_eq j q hj
  rw [hidx, Int.toNat_natCast]
  obtain ⟨hst, hok⟩ := heapFix_spec h.heapOK.ordered hix rfl hilt (fun c hc hci => by
    have hcr : s.heap.getD c 0 ≠ r := by
      intro e
      have hc' : s.heap[c]? = some r := by
        rw [← e, getD_eq_getElem _ _ hc]; exact List.getElem?_eq_getElem hc
      have := h.heapOK.index_eq c r hc'
      omega
    simp only [heapKey, heapItemAt, modify_heap, hne _ hcr])
  have hfix := hst.item r
  rw [hself] at hfix
  have hp' : At ((s.modify r f).heapFix i) r .heap := by
    refine ⟨hst.perm.mem_iff.2 hmem, ?_, ?_, ?_⟩
    · rw [hst.readyEntries_eq]; exact hp.2.1
    · rw [hfix]; exact hq.trans hp.2.2.1
    · rw [hfix]; exact hitem.inFlight.trans hp.2.2.2
  refine h.quietMove hr (by simp) hok (by rw [hst.readyEntries_eq]; exact h.readyNodup)
    hst.nextRef_eq hst.counters_eq
    (fun q hqr => (kept_modify s f hqr).trans (hst.kept Iff.rfl)) ?_ hp'
  rw [hfix]
  exact { hitem with }

theorem PlacedAt.congr (h : PlacedAt m s held) (hstore : s'.store = s.store)
    (hheap : s'.heap = s.heap) (hready : s'.ready = s.ready) (hnext : s'.nextRef = s.nextRef) :
    PlacedAt m s' held := by
  have hre : s'.readyEntries = s.readyEntries := by simp [readyEntries, hready]
  have hkept : ∀ q, Kept s s' q := fun q => kept_of_eq hheap hre (by rw [hstore])
  exact
    { heapOK := h.heapOK.congr hheap fun q _ => by rw [hstore]; exact ⟨rfl, rfl⟩
      readyNodup := hre ▸ h.readyNodup
      shape := fun k r hr => hstore ▸ h.shape k r hr
      bound := fun k r hr => hnext ▸ h.bound k r hr
      heapCurrent := fun r hr => h.heapCurrent r (hheap ▸ hr)
      readyCurrent := fun r hr => h.readyCurrent r (hre ▸ hr)
      place := fun k r hr => by
        obtain ⟨p, hp, hiff⟩ := h.place k r hr
        exact ⟨p, (hkept r).at hp, hiff⟩ }

theorem QuietStep.withItems (h : QuietStep R w m s m' s' held')
    (items : FMap TaskKey ItemRef) :
    QuietStep R w m s m' { s' with items := items } held' :=
  { h with placed := h.placed.congr rfl rfl rfl rfl, due := { h.due with } }

theorem PlacedAt.quietAlloc (h : PlacedAt m s none) (hk : m.get k = none) {item : HeapItem}
    (hshape : Shaped k item.task) (hq : item.queued = false) (hf : item.inFlight = false)
    (hi : item.index = -1) :
    QuietStep R [] m s (m.insert k s.nextRef) (s.alloc item).1 (some s.nextRef) where
  placed := h.alloc hk hshape hq hf hi
  frame := rfl
  due := by
    have hget : ∀ k' q, (m.insert k s.nextRef).get k' = some q → q < s.nextRef →
        m.get k' = some q := by
      intro k' q hq hlt
      rw [get_insert] at hq
      split at hq
      · exact absurd (Option.some.inj hq) hlt.ne'
      · exact hq
    refine ⟨Nat.le_succ _, hget, fun k' q _ hlt _ => ?_⟩
    simp [Scheduler.alloc, hlt.ne]
  flights k' := by
    simp only [flightAt, get_insert]
    by_cases hkk : k' = k
    · subst hkk
      simp [hk, Scheduler.alloc, hf, FlightKept]
    rw [if_neg hkk]
    cases hk' : m.get k' with
    | none => simp [FlightKept]
    | some q =>
      have hne : q ≠ s.nextRef := (h.bound k' q hk').ne
      have hst : (s.alloc item).1.store q = s.store q := by simp [Scheduler.alloc, hne]
      simp only [Option.bind_some, hst]
      exact FlightKept.refl _ _ _
  enabled k' q hq hd _ := by
    have hne : q ≠ s.nextRef := (h.bound k' q hq).ne
    refine ⟨?_, ?_⟩
    · rw [get_insert_ne]
      · exact hq
      · rintro rfl; rw [hk] at hq; cases hq
    · simpa [Scheduler.alloc, hne] using hd

/-- Deleting the key of the held item, which is not in flight. If it is disabled, nothing that
is scheduled is lost. -/
theorem PlacedAt.quietForget (h : PlacedAt m s (some r)) (hr : m.get k = some r)
    (hw : (s.store r).disabled = true ∨ .retire k ∈ w) :
    QuietStep R w m s (m.erase k) s none where
  placed := h.forget hr
  frame := rfl
  due := ⟨le_rfl, fun _ _ hq _ => (get_erase_eq_some.1 hq).2, fun _ _ _ _ _ => ⟨rfl, rfl⟩⟩
  flights k' := by
    simp only [flightAt, get_erase]
    by_cases hkk : k' = k
    · subst hkk
      simp [hr, (h.heldAt hr).2.2.2.1, FlightKept]
    · rw [if_neg hkk]
      exact FlightKept.refl _ _ _
  enabled k' q hq hd hret := by
    refine ⟨get_erase_eq_some.2 ⟨?_, hq⟩, hd⟩
    rintro rfl
    obtain rfl := Option.some.inj (hr.symm.trans hq)
    rcases hw with hw | hw
    · rw [hd] at hw; cases hw
    · exact hret hw

end Quiet

/-! ### The scheduler's functions -/

/-- `s'` comes from `s` by a quiet transition. -/
def Quiet (R : TaskKey → Prop) (w : Effects) (s s' : Scheduler) : Prop :=
  QuietStep R w s.items s s'.items s' none

section Functions

variable {s s' s'' : Scheduler} {w w' : Effects} {R : TaskKey → Prop}

theorem Placed.quiet (h : s.Placed) : Quiet R [] s s := PlacedAt.quiet h

theorem Quiet.placed (h : Quiet R w s s') : s'.Placed := QuietStep.placed h

theorem Quiet.trans (h : Quiet R w s s') (h' : Quiet R w' s' s'') : Quiet R (w ++ w') s s'' :=
  QuietStep.trans h h'

theorem Quiet.mono (h : Quiet R w s s') (hsub : w ⊆ w') : Quiet R w' s s' :=
  QuietStep.mono h hsub

theorem foldl_quiet {α : Type} (f : Scheduler → α → Scheduler) (effects : α → Effects)
    (hf : ∀ s a, s.Placed → Quiet R (effects a) s (f s a)) (l : List α) (h : s.Placed) :
    Quiet R (l.flatMap effects) s (l.foldl f s) := by
  induction l generalizing s with
  | nil => exact h.quiet
  | cons a l ih =>
    have h1 := hf s a h
    exact h1.trans (ih h1.placed)

theorem foldl_quiet_nil {α : Type} (f : Scheduler → α → Scheduler)
    (hf : ∀ s a, s.Placed → Quiet R [] s (f s a)) (l : List α) (h : s.Placed) :
    Quiet R [] s (l.foldl f s) :=
  (foldl_quiet f (fun _ => []) hf l h).mono (by simp)

section

variable (item : HeapItem) (shape : TaskShape) (device : Device) (dueAt : Time)
  (interval : Duration)

@[simp] theorem reschedule_queued :
    (item.reschedule shape device dueAt interval).queued = item.queued := rfl

@[simp] theorem reschedule_inFlight :
    (item.reschedule shape device dueAt interval).inFlight = item.inFlight := rfl

@[simp] theorem reschedule_index :
    (item.reschedule shape device dueAt interval).index = item.index := rfl

end

/-- An enabled task is scheduled under `k`. -/
def Scheduled (s : Scheduler) (k : TaskKey) : Prop :=
  ∃ r, s.items.get k = some r ∧ (s.store r).disabled = false

theorem Quiet.scheduled (h : Quiet R w s s') (hw : .retire k ∉ w) (hk : s.Scheduled k) :
    s'.Scheduled k := by
  obtain ⟨r, hr, hd⟩ := hk
  exact ⟨r, h.enabled k r hr hd hw⟩

/-- From `s` to `s'` the device was written to the tasks of `keys`, all of which are scheduled. -/
structure Ensures (R : TaskKey → Prop) (device : Device) (keys : List TaskKey)
    (s s' : Scheduler) : Prop where
  quiet : Quiet R (keys.map fun k => .write k device) s s'
  scheduled : ∀ k ∈ keys, s'.Scheduled k

theorem Placed.ensures (h : s.Placed) (device : Device) : Ensures R device [] s s :=
  ⟨h.quiet, by simp⟩

theorem Ensures.trans {device : Device} {keys keys' : List TaskKey}
    (h : Ensures R device keys s s') (h' : Ensures R device keys' s' s'') :
    Ensures R device (keys ++ keys') s s'' where
  quiet := by
    rw [map_append]
    exact h.quiet.trans h'.quiet
  scheduled k hk := by
    rcases mem_append.1 hk with hk | hk
    · exact h'.quiet.scheduled (by simp) (h.scheduled k hk)
    · exact h'.scheduled k hk

section Upsert

variable (device : Device) {shape : TaskShape} (hs : ProperShape shape)
  (hd : device.id = shape.key.deviceID)
include hs hd

theorem reschedule_ensures (h : s.Placed) (hr : s.items.get shape.key = some r)
    (interval : Duration) : Ensures R device [shape.key] s
      (s.modify r fun item => item.reschedule shape device item.dueAt interval) := by
  constructor
  · exact PlacedAt.modify h hr (by simp) ⟨hs.reschedule _ _ hd _ _, rfl,
      fun _ => ⟨rfl, .inr (mem_singleton.2 rfl)⟩, fun _ _ => rfl, fun _ => ⟨rfl, rfl⟩⟩ rfl rfl
      fun _ => rfl
  · intro k hk
    rw [mem_singleton.1 hk]
    exact ⟨r, hr, by simp only [modify_store_self]; rfl⟩

section

variable (h : s.Placed) (interval : Duration)
include h

theorem upsertScheduledItem_ensures (now : Time) :
    Ensures R device [shape.key] s (s.upsertScheduledItem device shape interval now) := by
  unfold upsertScheduledItem
  split
  · exact reschedule_ensures device hs hd h ‹_› interval
  rename_i hnone
  have halloc := PlacedAt.quietAlloc (R := R) h hnone
    (hs.fresh device hd (now + initialOffsetForKey shape.key interval) interval) rfl rfl rfl
  have hpush := halloc.placed.heapPush (R := R) (get_insert_self _ _ _)
  constructor
  · simp only [Quiet, heapPush_items]
    exact ((halloc.trans hpush).withItems _).mono (by simp)
  · intro k hk
    rw [mem_singleton.1 hk]
    have hnew := hpush.enabled shape.key s.nextRef (get_insert_self _ _ _)
      (by simp [Scheduler.alloc, HeapItem.fresh]) (by simp)
    exact ⟨s.nextRef, get_insert_self _ _ _, hnew.2⟩

theorem redueItem_ensures (changedAt : Time) (hnone : s.items.get shape.key = none) :
    Ensures R device [shape.key] s (s.redueItem device shape interval changedAt) := by
  simp only [redueItem, hnone]
  have hself := get_insert_self s.items shape.key s.nextRef
  have hnew := (PlacedAt.quietAlloc (R := R) h hnone
    (hs.fresh device hd changedAt interval) rfl rfl rfl).withItems
      (s.items.insert shape.key s.nextRef)
  have hpush := hnew.placed.pushReadyFront (R := R) hself
  constructor
  · simp only [Quiet, pushReadyFront_items]
    exact QuietStep.mono (hnew.trans hpush) (by simp)
  intro k hk
  rw [mem_singleton.1 hk]
  refine ⟨s.nextRef, ?_⟩
  rw [pushReadyFront_items]
  exact ⟨hself, (hpush.enabled shape.key s.nextRef hself
    (by simp [Scheduler.alloc, HeapItem.fresh]) (by simp)).2⟩

theorem redueItem_quiet (changedAt : Time) (hredued : R shape.key) :
    Quiet R [.write shape.key device] s (s.redueItem device shape interval changedAt) := by
  cases hr : s.items.get shape.key with
  | none => exact (redueItem_ensures device hs hd h interval changedAt hr).quiet
  | some r =>
    obtain ⟨p, hp, hiff⟩ := PlacedAt.place h shape.key r hr
    have hitem : QuietWrite R [.write shape.key device] shape.key (s.store r)
        ((s.store r).reschedule shape device changedAt interval) :=
      ⟨hs.reschedule _ device hd changedAt interval, rfl,
        fun _ => ⟨rfl, .inr (mem_singleton.2 rfl)⟩, fun _ _ => rfl, absurd hredued⟩
    -- rewriting keeps the flags, so the switch sees the place the item had before
    have hwrite : r ∉ s.heap → Quiet R [.write shape.key device] s
        (s.modify r fun item => item.reschedule shape device changedAt interval) := fun hnot =>
      PlacedAt.modify h hr (by simp) hitem rfl rfl fun hm => absurd hm hnot
    simp only [redueItem, hr, modify_store_self, reschedule_inFlight, reschedule_queued,
      reschedule_index]
    cases p with
    | heap =>
      rw [if_neg (by simp [hp.2.2.2]), if_neg (by simp [hp.2.2.1]),
        if_pos (PlacedAt.index_nonneg h hp.1)]
      simp only [Quiet, heapFix_items, modify_items]
      exact PlacedAt.modifyFix h hr hp.1 hitem rfl rfl
    | ready =>
      rw [if_neg (by simp [hp.2.2.2.1]), if_pos hp.2.2.1]
      simp only [Quiet, pushReadyFront_items, removeReadyItem_items, modify_items]
      have h1 := hwrite hp.1
      have h2 := PlacedAt.removeReadyItem (R := R) h1.placed hr hp.2.1
      exact QuietStep.mono (QuietStep.trans h1 (h2.trans (h2.placed.pushReadyFront hr))) (by simp)
    | flight =>
      rw [if_pos hp.2.2.2.1]
      have h1 := hwrite hp.1
      have h2 := PlacedAt.modify (w := []) h1.placed hr (by simp)
        (f := fun item => { item with pending := true, immediateRerun := true })
        ⟨PlacedAt.shape h1.placed _ _ hr, rfl, fun _ => ⟨rfl, .inl rfl⟩, fun hd _ => hd,
          absurd hredued⟩ rfl rfl (fun _ => rfl)
      exact QuietStep.mono (QuietStep.trans h1 h2) (by simp)
    | held => exact absurd (hiff.1 rfl) (by simp)

end

end Upsert

/-- The rule of `scheduleRecurringDeviceLocked`, which upserts the tasks that the device is polled
with one after the other. -/
theorem scheduleRecurringDeviceLocked_rule {P : List TaskKey → Scheduler → Scheduler → Prop}
    {device : Device} {now : Time} (hplaced : ∀ {keys s t}, P keys s t → t.Placed)
    (hrefl : ∀ {s}, s.Placed → P [] s s)
    (htrans : ∀ {keys keys' s t u}, s.Placed → P keys s t → P keys' t u → P (keys ++ keys') s u)
    (hupsert : ∀ {s shape}, ProperShape shape → device.id = shape.key.deviceID → s.Placed →
      ∀ interval, P [shape.key] s (s.upsertScheduledItem device shape interval now))
    (hbootstrap : ∀ {s}, s.Placed →
      P [newBootstrapTaskKey device.id] s (s.upsertBootstrapItem device now)) (h : s.Placed) :
    P (scheduledKeys device) s (s.scheduleRecurringDeviceLocked device now) := by
  have hite : ∀ {c : Bool} {keys s t}, s.Placed → P keys s t →
      P (if c then keys else []) s (if c then t else s) := by
    intro c keys s t hs ht
    cases c with
    | false => exact hrefl hs
    | true => exact ht
  have hessential := hite (c := shouldScheduleEssentialTask device) h
    (hupsert (essentialShape_proper device.id) rfl h (essentialInterval device))
  have hboot := hite (c := shouldScheduleBootstrapTask device) (hplaced hessential)
    (hbootstrap (hplaced hessential))
  -- the loop over the background classes
  have hbackground : ∀ (classes : List VolatilityClass) (t : Scheduler), t.Placed →
      P (classes.map (newBackgroundTaskKey device.id)) t (classes.foldl (fun s volatility =>
        s.upsertScheduledItem device (backgroundShape device.id volatility)
          (effectiveInterval device volatility) now) t) := by
    intro classes
    induction classes with
    | nil => exact fun t ht => hrefl ht
    | cons v classes ih =>
      intro t ht
      have hv := hupsert (backgroundShape_proper device.id v) rfl ht (effectiveInterval device v)
      exact htrans ht hv (ih _ (hplaced hv))
  exact htrans h (htrans h hessential hboot) (hbackground _ _ (hplaced hboot))

variable (h : s.Placed) (device : Device) (devices : List Device) (deviceID : UUID)
  (included : Bool) (changedAt now : Time) (order : List TaskKey)
include h

theorem upsertBootstrapItem_ensures :
    Ensures R device [newBootstrapTaskKey device.id] s (s.upsertBootstrapItem device now) := by
  have hs := bootstrapShape_proper device.id
  unfold upsertBootstrapItem
  split
  · exact reschedule_ensures device hs rfl h ‹_› _
  · exact redueItem_ensures device hs rfl h _ _ ‹_›

/-- After `scheduleRecurringDeviceLocked` every task that the device is polled with is
scheduled. -/
theorem scheduleRecurringDeviceLocked_ensures :
    Ensures R device (scheduledKeys device) s (s.scheduleRecurringDeviceLocked device now) :=
  scheduleRecurringDeviceLocked_rule (fun ht => ht.quiet.placed) (fun hs => hs.ensures device)
    (fun _ => Ensures.trans)
    (fun hs hd ht interval => upsertScheduledItem_ensures device hs hd ht interval now)
    (fun hs => upsertBootstrapItem_ensures hs device now) h

/-- The device rows that `scheduleRecurringDeviceLocked` writes. -/
def deviceWrites (device : Device) : Effects := (scheduledKeys device).map fun k => .write k device

theorem scheduleRecurringDeviceLocked_quiet :
    Quiet R (deviceWrites device) s (s.scheduleRecurringDeviceLocked device now) :=
  (scheduleRecurringDeviceLocked_ensures h device now).quiet

/-- The device rows that the first loop of `refreshDevices` writes. -/
def refreshWrites (devices : List Device) : Effects :=
  devices.flatMap fun device =>
    if shouldScheduleRecurringDevice device then deviceWrites device else []

theorem scheduleDevices_quiet :
    Quiet R (refreshWrites devices) s (s.scheduleDevices devices now) := by
  refine foldl_quiet _ _ (fun s device hs => ?_) devices h
  split
  · exact scheduleRecurringDeviceLocked_quiet hs device now
  · exact hs.quiet

theorem modify_flag_quiet (hr : s.items.get k = some r)
    (hf : ∀ item, (f item).task = item.task ∧ (f item).dueAt = item.dueAt ∧
      (f item).queued = item.queued ∧ (f item).inFlight = item.inFlight ∧
      (f item).index = item.index ∧ (f item).runID = item.runID ∧
      (f item).immediateRerun = item.immediateRerun)
    (hen : (s.store r).disabled = false → .retire k ∉ w → (f (s.store r)).disabled = false) :
    Quiet R w s (s.modify r f) := by
  obtain ⟨htask, hdue, hq, hfl, hi, hrun, hrerun⟩ := hf (s.store r)
  exact PlacedAt.modify h hr (by simp) ⟨htask ▸ PlacedAt.shape h k r hr, hfl,
    fun _ => ⟨hrun, .inl (by rw [htask])⟩, hen, fun _ => ⟨hdue, hrerun⟩⟩ hq hi fun _ => hdue

theorem removeFromHeap_quiet (hr : s.items.get k = some r) (hmem : r ∈ s.heap) :
    QuietStep R [] s.items s s.items (s.heapRemove (s.store r).index.toNat) (some r) := by
  obtain ⟨i, hget⟩ := mem_iff_getElem?.1 hmem
  rw [h.heapOK.index_eq i r hget, Int.toNat_natCast]
  obtain ⟨hst, hok, hidx⟩ := heapRemove_spec h.heapOK hget
  exact PlacedAt.leaveHeap h hr hmem hst hok hidx

/-- The second loop of `refreshDevices` retires the keys it has not seen. -/
def dropEffects (seen : List TaskKey) (key : TaskKey) : Effects :=
  if key ∈ seen then [] else [.retire key]

omit h in
theorem dropUnseen_quiet (seen : List TaskKey) (s : Scheduler) (key : TaskKey) (h : s.Placed) :
    Quiet R (dropEffects seen key) s (dropUnseen seen s key) := by
  unfold dropUnseen
  split
  · exact h.quiet.mono (by simp)
  rename_i r hr
  split
  · exact h.quiet.mono (by simp)
  rename_i hseen
  rw [dropEffects, if_neg hseen]
  obtain ⟨p, hp, hiff⟩ := PlacedAt.place h key r hr
  dsimp only
  split
  · exact modify_flag_quiet h hr (fun _ => ⟨rfl, rfl, rfl, rfl, rfl, rfl, rfl⟩)
      (fun _ hw => absurd (mem_singleton.2 rfl) hw)
  rename_i hidle
  simp only [Bool.or_eq_true, not_or, Bool.not_eq_true] at hidle
  cases p with
  | heap =>
    rw [if_pos (PlacedAt.index_nonneg h hp.1)]
    have h1 := removeFromHeap_quiet (R := R) h hr hp.1
    simp only [Quiet, heapRemove_items]
    exact (h1.trans (h1.placed.quietForget hr (.inr (mem_singleton.2 rfl)))).withItems _
  | ready => exact absurd hp.2.2.1 (by simp [hidle.2])
  | flight => exact absurd hp.2.2.2.1 (by simp [hidle.1])
  | held => exact absurd (hiff.1 rfl) (by simp)

/-- What `refreshDevices` does to the items it finds. -/
def refreshEffects (devices : List Device) (order : List TaskKey) : Effects :=
  refreshWrites devices ++ order.flatMap (dropEffects (seenKeys devices))

theorem refreshDevices_quiet (devices : Option (List Device)) (now : Time)
    (order : List TaskKey) : Quiet R (match devices with
      | none => []
      | some devices => refreshEffects devices order) s (s.refreshDevices devices now order) := by
  cases devices with
  | none => exact h.quiet
  | some devices =>
    have h1 := scheduleDevices_quiet (R := R) h devices now
    exact h1.trans (foldl_quiet (dropUnseen (seenKeys devices)) _ (dropUnseen_quiet _) order
      h1.placed)

omit h in
/-- The end of `removeDeviceTasksLocked` for an item that was taken from its place. -/
theorem forgetIdle_quiet {m : FMap TaskKey ItemRef} (h : PlacedAt m s (some r))
    (hr : m.get k = some r) : QuietStep R [.retire k] m s (m.erase k)
      (s.modify r fun item => { item with pending := false }) none := by
  have h1 := PlacedAt.modify (R := R) (w := []) h hr (by simp)
    (f := fun item => { item with pending := false }) ⟨h.shape k r hr, rfl,
      fun _ => ⟨rfl, .inl rfl⟩, fun hd _ => hd, fun _ => ⟨rfl, rfl⟩⟩ rfl rfl (fun _ => rfl)
  exact h1.trans (h1.placed.quietForget hr (.inr (mem_singleton.2 rfl)))

/-- `removeDeviceTasksLocked` retires the keys of its device. -/
def removeEffects (deviceID : UUID) (key : TaskKey) : Effects :=
  if key.deviceID = deviceID then [.retire key] else []

omit h in
theorem removeDeviceTask_quiet (deviceID : UUID) (s : Scheduler) (key : TaskKey) (h : s.Placed) :
    Quiet R (removeEffects deviceID key) s (removeDeviceTask deviceID s key) := by
  unfold removeDeviceTask
  split
  · exact h.quiet.mono (by simp)
  rename_i r hr
  split
  · exact h.quiet.mono (by simp)
  rename_i hid
  rw [removeEffects, if_pos (not_not.1 hid)]
  obtain ⟨p, hp, hiff⟩ := PlacedAt.place h key r hr
  cases p with
  | heap =>
    have h1 := removeFromHeap_quiet (R := R) h hr hp.1
    have hp' := h1.placed.heldAt hr
    simp only [hp.2.2.1, Bool.false_eq_true, if_false, PlacedAt.index_nonneg h hp.1,
      if_true, modify_store_self, hp'.2.2.2.1, modify_items, heapRemove_items]
    exact (h1.trans (forgetIdle_quiet h1.placed hr)).withItems _
  | ready =>
    have h1 := PlacedAt.removeReadyItem (R := R) h hr hp.2.1
    have hp' := h1.placed.heldAt hr
    simp only [hp.2.2.1, if_true, hp'.2.2.2.2, show ¬ (0 : Int) ≤ -1 by omega, if_false,
      modify_store_self, hp'.2.2.2.1, Bool.false_eq_true, modify_items, removeReadyItem_items]
    exact (h1.trans (forgetIdle_quiet h1.placed hr)).withItems _
  | flight =>
    -- work in flight is only disabled; its completion will drop it
    simp only [hp.2.2.1, Bool.false_eq_true, if_false, hp.2.2.2.2, show ¬ (0 : Int) ≤ -1 by omega,
      modify_store_self, hp.2.2.2.1, if_true]
    have h1 := modify_flag_quiet (R := R) (w := []) h hr (f := fun item => { item with pending := false })
      (fun _ => ⟨rfl, rfl, rfl, rfl, rfl, rfl, rfl⟩) (fun hd _ => hd)
    exact h1.trans (modify_flag_quiet (w := [.retire key]) h1.placed hr
      (f := fun item => { item with disabled := true })
      (fun _ => ⟨rfl, rfl, rfl, rfl, rfl, rfl, rfl⟩)
      (fun _ hw => absurd (mem_singleton.2 rfl) hw))
  | held => exact absurd (hiff.1 rfl) (by simp)

/-- What `ReconcileDeviceTasks` does to the items it finds. -/
def reconcileEffects (device : Device) (included : Bool) (order : List TaskKey) : Effects :=
  order.flatMap (removeEffects device.id) ++
    if included && shouldScheduleRecurringDevice device then deviceWrites device else []

theorem removeDeviceTasksLocked_quiet :
    Quiet R (order.flatMap (removeEffects deviceID)) s
      (s.removeDeviceTasksLocked deviceID order) :=
  foldl_quiet (removeDeviceTask deviceID) _ (removeDeviceTask_quiet deviceID) order h

theorem reconcileDeviceTasks_quiet : Quiet R (reconcileEffects device included order) s
      (s.reconcileDeviceTasks device included changedAt now order) := by
  have h1 := removeDeviceTasksLocked_quiet (R := R) h device.id order
  simp only [reconcileDeviceTasks, reconcileEffects]
  split
  · exact h1.trans (scheduleRecurringDeviceLocked_quiet h1.placed device _)
  · exact h1.mono (by simp)

/-- The device row that `handleReduePerformanceTask` writes. -/
def reduePerformanceWrites (device : Device) (included : Bool) : Effects :=
  if redueAllowed device included then
    if shouldScheduleBootstrapTask device then [.write (newBootstrapTaskKey device.id) device]
    else [.write (newBackgroundTaskKey device.id .performance) device]
  else []

theorem handleReduePerformanceTask_quiet (hbootstrap : R (newBootstrapTaskKey device.id))
    (hperformance : R (newBackgroundTaskKey device.id .performance)) :
    Quiet R (reduePerformanceWrites device included) s
      (s.handleReduePerformanceTask device included changedAt now) := by
  unfold handleReduePerformanceTask reduePerformanceWrites
  split
  · split
    · exact redueItem_quiet device (bootstrapShape_proper device.id) rfl h _ _ hbootstrap
    · exact redueItem_quiet device (backgroundShape_proper device.id .performance) rfl h _ _
        hperformance
  · exact h.quiet

/-- The device row that `handleRedueEssentialTask` writes. -/
def redueEssentialWrites (device : Device) (included : Bool) : Effects :=
  if redueAllowed device included then [.write (newEssentialTaskKey device.id) device] else []

theorem handleRedueEssentialTask_quiet (hessential : R (newEssentialTaskKey device.id)) :
    Quiet R (redueEssentialWrites device included) s
      (s.handleRedueEssentialTask device included changedAt now) := by
  unfold handleRedueEssentialTask redueEssentialWrites
  split
  · exact redueItem_quiet device (essentialShape_proper device.id) rfl h _ _ hessential
  · exact h.quiet

theorem markSkippedWindow_quiet (hr : s.items.get k = some r) :
    Quiet R [] s (s.markSkippedWindow r) := by
  unfold markSkippedWindow
  split
  · exact h.quiet
  · exact modify_flag_quiet h hr (fun _ => ⟨rfl, rfl, rfl, rfl, rfl, rfl, rfl⟩) (fun hd _ => hd)

omit h in
theorem markElapsed_quiet (now : Time) (s : Scheduler) (key : TaskKey) (h : s.Placed) :
    Quiet R [] s (markElapsed now s key) := by
  unfold markElapsed
  split
  · exact h.quiet
  rename_i r hr
  dsimp only
  split
  · exact h.quiet
  · split
    · exact h.quiet
    · exact markSkippedWindow_quiet h hr

theorem markElapsedInFlightWindows_quiet :
    Quiet R [] s (s.markElapsedInFlightWindows now order) := by
  unfold markElapsedInFlightWindows
  split
  · exact h.quiet
  · exact foldl_quiet_nil (markElapsed now) (markElapsed_quiet now) order h

omit h in
theorem moveLoop_quiet (now : Time) (fuel : Nat) (h : s.Placed) :
    Quiet R [] s (moveLoop now fuel s) := by
  induction fuel generalizing s with
  | zero => exact h.quiet
  | succ fuel ih =>
    simp only [moveLoop]
    split
    · exact h.quiet
    rename_i r hhead
    split
    · exact h.quiet
    -- the root leaves the heap; being neither queued nor in flight, it is held
    have hmem : r ∈ s.heap := mem_of_mem_head? hhead
    obtain ⟨k, hr⟩ := PlacedAt.heapCurrent h r hmem
    obtain ⟨hst, hok, hidx⟩ := heapPop_spec h.heapOK hhead
    have hpop := PlacedAt.leaveHeap (R := R) h hr hmem hst hok hidx
    have hp := hpop.placed.heldAt hr
    simp only [hp.2.2.1, hp.2.2.2.1, Bool.false_eq_true, if_false]
    split_ifs with hdis
    · rw [(hpop.placed.shape k r hr).key, heapPop_items]
      have h1 : Quiet R [] s { s.heapPop with items := s.items.erase k } :=
        (hpop.trans (hpop.placed.quietForget (w := []) hr (.inl hdis))).withItems _
      exact h1.trans (ih h1.placed)
    · have h1 : Quiet R [] s (s.heapPop.enqueueReady r) := by
        simp only [Quiet, enqueueReady_items, heapPop_items]
        exact hpop.trans (hpop.placed.enqueueReady hr)
      exact h1.trans (ih h1.placed)

theorem moveDueTasksToReady_quiet : Quiet R [] s (s.moveDueTasksToReady now order) := by
  have h1 := markElapsedInFlightWindows_quiet (R := R) h now order
  exact h1.trans (moveLoop_quiet now _ h1.placed)

end Functions

end Theia.Scheduler
