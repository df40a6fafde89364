import Theia.Spec.DispatchReference
import Theia.Spec.SchedulerQuiet

/-!
# What one step of the scheduler does

Every critical section is made of quiet transitions, dispatches of single tasks and at most one
accepted completion. `DispatchStep` and `CompleteStep` describe the last two; `StepRules.step`
turns what they preserve into what every step preserves.
-/

namespace Theia.Scheduler

open PlacedAt

variable {s t s' : Scheduler} {task : PollTask} {R : TaskKey → Prop} {m : FMap TaskKey ItemRef}
  {k : TaskKey} {r : ItemRef} {f : HeapItem → HeapItem} {tr : List Event}

/-! ### Counters -/

/-- Fields that the in-flight counters do not touch. -/
structure SameItems (s s' : Scheduler) : Prop where
  items : s'.items = s.items
  store : s'.store = s.store
  heap : s'.heap = s.heap
  ready : s'.ready = s.ready
  nextRef : s'.nextRef = s.nextRef

/-- Fields that an update of the class and kind counters does not touch either. -/
structure SameLife (s s' : Scheduler) : Prop extends SameItems s s' where
  started : s'.started = s.started
  runID : s'.runID = s.runID
  inFlight : s'.inFlight = s.inFlight

/-- What `incrementInFlight` and `decrementInFlight` do for a task of a normal shape. -/
structure Counted (f : FMap String Int → String → FMap String Int) (task : PollTask)
    (s s' : Scheduler) : Prop extends SameLife s s' where
  inFlightBy : s'.inFlightBy = s.inFlightBy.update f task
  essentialBy : s'.essentialBy =
    if task.kind = .essential then s.essentialBy.update f task else s.essentialBy

theorem updateIsolationCounts_counted (f : FMap String Int → String → FMap String Int)
    (hn : normalizeTask task = task) (ht : SameLife s t) (hby : t.inFlightBy = s.inFlightBy)
    (hessential : t.essentialBy = s.essentialBy) :
    Counted f task s (t.updateIsolationCounts f task) := by
  unfold updateIsolationCounts
  rw [hn, hby, hessential]
  by_cases hk : task.kind = .essential
  · rw [if_neg (not_not.2 hk)]
    exact ⟨{ ht with }, rfl, by rw [if_pos hk]⟩
  · rw [if_pos hk]
    exact ⟨{ ht with }, rfl, by rw [if_neg hk, ← hessential]⟩

theorem incrementInFlight_counted (s : Scheduler) (hn : normalizeTask task = task) :
    Counted incrementCount task s (s.incrementInFlight task) := by
  unfold incrementInFlight incrementIsolationCounts
  split <;> exact updateIsolationCounts_counted _ hn ⟨⟨rfl, rfl, rfl, rfl, rfl⟩, rfl, rfl, rfl⟩ rfl rfl

theorem decrementInFlight_counted (s : Scheduler) (hn : normalizeTask task = task) :
    Counted decrementCount task s (s.decrementInFlight task) := by
  unfold decrementInFlight decrementIsolationCounts
  split
  · split <;> exact updateIsolationCounts_counted _ hn ⟨⟨rfl, rfl, rfl, rfl, rfl⟩, rfl, rfl, rfl⟩ rfl rfl
  · split <;> exact updateIsolationCounts_counted _ hn ⟨⟨rfl, rfl, rfl, rfl, rfl⟩, rfl, rfl, rfl⟩ rfl rfl

/-! ### The slot of a task -/

theorem slotCount_of_counters (h : t.counters = s.counters) (slot : Option VolatilityClass) :
    t.slotCount slot = s.slotCount slot := by
  simp only [counters, Prod.mk.injEq] at h
  exact slotCount_congr h.2.2.2.1 h.2.2.1 slot

theorem slotCount_decrementInFlight (s : Scheduler) (task : PollTask)
    (h : 0 < s.slotCount (slotOf task)) (slot : Option VolatilityClass) :
    (s.decrementInFlight task).slotCount slot =
      s.slotCount slot + if slot = slotOf task then -1 else 0 := by
  simp only [decrementInFlight, decrementIsolationCounts, slotCount_updateIsolationCounts]
  apply slotCount_add
  -- the counter is positive, so it is not left at zero
  by_cases hkind : task.kind = .essential
  · have hpos : 0 < s.inFlightEssential := by simpa [slotOf, if_pos hkind, slotCount] using h
    rw [if_pos hkind, if_pos hkind, if_pos hpos]
    rfl
  · have hpos : 0 < s.inFlightByClass task.volatilityClass := by
      simpa [slotOf, if_neg hkind, slotCount] using h
    rw [if_neg hkind, if_neg hkind, if_pos hpos]
    rfl

/-! ### Popping a ready task -/

section Pop

variable {R : TaskKey → Prop} {s : Scheduler} (limits : DispatchLimits) (kind : TaskKind)

/-- A scan normalizes the tasks it passes, which are normal already, and finds an entry of the
queue. -/
theorem scanQueue_spec (scan : DispatchScanState) (index : Nat) (queue : List ItemRef)
    (hq : ∀ r ∈ queue, normalizeTask (s.store r).task = (s.store r).task) :
    (scanQueue limits kind s scan index queue).1 = s ∧
    ∀ i r, (scanQueue limits kind s scan index queue).2.2 = some (i, r) →
      ∃ j, i = index + j ∧ queue[j]? = some r := by
  induction queue generalizing scan index with
  | nil => exact ⟨rfl, fun i r hir => nomatch hir⟩
  | cons r rest ih =>
    have hsame : s.modify r (fun item => { item with task := normalizeTask item.task }) = s := by
      simp [modify, hq r (by simp)]
    -- whatever the verdict on this entry, the scan goes on in the same state
    have hnext : ∀ scan', (scanQueue limits kind s scan' (index + 1) rest).1 = s ∧
        ∀ i q, (scanQueue limits kind s scan' (index + 1) rest).2.2 = some (i, q) →
          ∃ j, i = index + j ∧ (r :: rest)[j]? = some q := by
      intro scan'
      obtain ⟨hstate, hfound⟩ := ih scan' (index + 1) fun q hm => hq q (by simp [hm])
      refine ⟨hstate, fun i q hiq => ?_⟩
      obtain ⟨j, hj, hget⟩ := hfound i q hiq
      exact ⟨j + 1, by omega, by simpa using hget⟩
    simp only [scanQueue, hsame]
    split
    · exact hnext scan
    split
    · exact hnext scan
    · split
      · exact hnext _
      · refine ⟨rfl, fun i q hiq => ⟨0, ?_, ?_⟩⟩
        · simp_all
        · simp_all

/-- The outcome of a pop: a quiet transition that leaves the popped item held. -/
structure PopSpec (R : TaskKey → Prop) (s : Scheduler)
    (res : Scheduler × DispatchScanState × Option ItemRef) : Prop where
  items : res.1.items = s.items
  quiet : QuietStep R [] s.items s res.1.items res.1 res.2.2
  current : ∀ r, res.2.2 = some r → ∃ k, s.items.get k = some r
  unchanged : res.2.2 = none → res.1 = s

theorem popFromQueues_spec (h : s.Placed) (scan : DispatchScanState) (ps : List (Fin 3)) :
    PopSpec R s (popFromQueues limits kind s scan ps) := by
  induction ps generalizing scan with
  | nil => exact ⟨rfl, h.quiet, by simp [popFromQueues], fun _ => rfl⟩
  | cons p ps ih =>
    have hcurrent : ∀ r ∈ s.ready p, ∃ k, s.items.get k = some r := fun r hr =>
      readyCurrent h r (mem_readyEntries.2 ⟨p, hr⟩)
    have hscan := scanQueue_spec limits kind scan 0 (s.ready p) fun r hr =>
      (hcurrent r hr).elim fun k hk => (shape h k r hk).normalizeTask_eq
    simp only [popFromQueues]
    split
    · rename_i s1 scan1 index r heq
      rw [heq] at hscan
      obtain ⟨rfl, hfound⟩ : s1 = s ∧ _ := hscan
      obtain ⟨j, hj, hget⟩ := hfound index r rfl
      obtain rfl : index = j := by omega
      obtain ⟨hlt, hgetr⟩ := List.getElem?_eq_some_iff.1 hget
      obtain ⟨k, hk⟩ := hcurrent r (List.mem_of_getElem? hget)
      have hperm : (r :: (s1.ready p).eraseIdx index).Perm (s1.ready p) := by
        rw [← hgetr]
        exact List.getElem_cons_eraseIdx_perm hlt
      refine ⟨rfl, leaveReady h hk hperm rfl, fun q hqr => ⟨k, ?_⟩, by simp⟩
      rw [← Option.some.inj hqr]
      exact hk
    · rename_i s1 scan1 heq
      rw [heq] at hscan
      rw [show s1 = s from hscan.1]
      exact ih scan1

theorem popReadyKinds_spec (h : s.Placed) (scan : DispatchScanState) (kinds : List TaskKind) :
    PopSpec R s (popReadyKinds limits s scan kinds) := by
  induction kinds generalizing scan with
  | nil => exact ⟨rfl, h.quiet, nofun, fun _ => rfl⟩
  | cons kind kinds ih =>
    have hpop := popFromQueues_spec (R := R) limits kind h scan [0, 1, 2]
    simp only [popReadyKinds, popReadyEligibleKind]
    split
    · rename_i s1 scan1 r heq
      rw [heq] at hpop
      exact hpop
    · rename_i s1 scan1 heq
      rw [heq] at hpop
      rw [show s1 = s from hpop.unchanged rfl]
      exact ih scan1

end Pop

/-! ### Dispatch -/

/-- One task goes out: its key was not in flight before and is afterwards, with the task as it
was sent; the other tasks in flight are kept, and the counters count the task. -/
structure DispatchStep (s : Scheduler) (task : PollTask) (s' : Scheduler) : Prop where
  placed : s'.Placed
  started : s'.started = s.started
  runID : s'.runID = s.runID
  taskRunID : task.runID = s.runID
  before : s.flight task.key = none
  after : ∃ item, s'.flight task.key = some item ∧ item.task = task ∧ item.runID = s.runID
  others : ∀ k, k ≠ task.key → FlightKept [] k (s.flight k) (s'.flight k)
  inFlight : s'.inFlight = s.inFlight + 1
  inFlightBy : s'.inFlightBy = s.inFlightBy.update incrementCount task
  essentialBy : s'.essentialBy =
    if task.kind = .essential then s.essentialBy.update incrementCount task else s.essentialBy
  slots : ∀ slot, s'.slotCount slot = s.slotCount slot + if slot = slotOf task then 1 else 0
  enabled : ∀ k r, s.items.get k = some r → (s.store r).disabled = false →
    s'.items.get k = some r ∧ (s'.store r).disabled = false
  due : DueKept (fun _ => False) s.items s s'.items s'

/-- What `markDispatched` does besides marking the item. -/
theorem markDispatched_counted (s : Scheduler) (r : ItemRef) (now : Time)
    (hn : normalizeTask task = task) : Counted incrementCount task
      { s.modify r (fun item =>
          { item with inFlight := true, dispatchedAt := now, runID := s.runID, task := task }) with
        inFlight := s.inFlight + 1 }
      (s.markDispatched r task now) := by
  unfold markDispatched
  have h := incrementInFlight_counted
    { s.modify r (fun item =>
        { item with inFlight := true, dispatchedAt := now, runID := s.runID, task := task }) with
      inFlight := s.inFlight + 1 } hn
  split <;> exact { h with }

theorem PlacedAt.rewrite {held : Option ItemRef} (h : PlacedAt m s held) (hr : m.get k = some r)
    (hheld : ∀ q, held = some q → q = r) (hheap : r ∉ s.heap) (hs : SameItems (s.modify r f) s')
    (hshape : Shaped k (f (s.store r)).task)
    (hdue : ¬R k → (f (s.store r)).dueAt = (s.store r).dueAt ∧
      (f (s.store r)).immediateRerun = (s.store r).immediateRerun) {p : Place}
    (hp : At (s.modify r f) r p) : PlacedAt m s' (if p = .held then some r else none) ∧
      (∀ k', k' ≠ k → s'.flightAt m k' = s.flightAt m k') ∧ DueKept R m s m s' := by
  have hself : s'.store r = f (s.store r) := by rw [hs.store, modify_store_self]
  have hne : ∀ {k' q}, m.get k' = some q → k' ≠ k → s'.store q = s.store q := by
    intro k' q hq hk'
    rw [hs.store]
    apply modify_store_ne
    rintro rfl
    exact hk' (h.key_unique hq hr)
  refine ⟨?_, ?_, ?_⟩
  · have hok : HeapOK (s.modify r f) := h.heapOK.congr rfl fun q hm => by
      have hqr : q ≠ r := fun e => hheap (e ▸ hm)
      rw [modify_store_ne s f hqr]
      exact ⟨rfl, rfl⟩
    exact (h.move hr hheld hok h.readyNodup rfl (fun q hqr => kept_modify s f hqr)
      (by rw [modify_store_self]; exact hshape) hp).congr hs.store hs.heap hs.ready hs.nextRef
  · intro k' hk'
    unfold flightAt
    cases hget : m.get k' with
    | none => rfl
    | some q => simp [hne hget hk']
  · refine ⟨hs.nextRef.ge, fun _ _ hq _ => hq, fun k' q hq _ hk' => ?_⟩
    by_cases hkk : k' = k
    · subst hkk
      obtain rfl := Option.some.inj (hq.symm.trans hr)
      rw [hself]
      exact hdue hk'
    · rw [hne hq hkk]
      exact ⟨rfl, rfl⟩

section Dispatch

variable {s : Scheduler}

theorem counters_eq_iff (h : t.counters = s.counters) :
    t.started = s.started ∧ t.inFlight = s.inFlight ∧ t.inFlightBy = s.inFlightBy ∧
      t.essentialBy = s.essentialBy ∧ t.runID = s.runID := by
  simp only [counters, Prod.mk.injEq] at h
  exact ⟨h.1, h.2.1, h.2.2.2.2.1, h.2.2.2.2.2.1, h.2.2.2.2.2.2.1⟩

theorem dispatchStep_of_held (now : Time)
    (hq : QuietStep (fun _ => False) [] s.items s t.items t (some r))
    (hr : t.items.get k = some r) : DispatchStep s (t.dispatchTask now (t.store r))
      (t.markDispatched r (t.dispatchTask now (t.store r)) now) := by
  have hshape := hq.placed.shape k r hr
  have hp := hq.placed.heldAt hr
  obtain ⟨hst, hinf, hby, hess, hrun⟩ := counters_eq_iff hq.frame
  have htask : Shaped k (t.dispatchTask now (t.store r)) := by
    simp only [dispatchTask, hshape.normalizeTask_eq]
    exact hshape.congr rfl rfl rfl rfl rfl
  have hrunID : (t.dispatchTask now (t.store r)).runID = t.runID := rfl
  generalize t.dispatchTask now (t.store r) = task at htask hrunID ⊢
  have hcount := markDispatched_counted t r now htask.normalizeTask_eq
  have hslots := markDispatched_slots t r task now
  generalize t.markDispatched r task now = s' at hcount hslots ⊢
  have hitems : s'.items = t.items := hcount.items
  have hself : s'.store r =
      { t.store r with inFlight := true, dispatchedAt := now, runID := t.runID, task := task } := by
    rw [hcount.store]; simp [modify_store_self]
  obtain ⟨hplaced, hfl, hdue⟩ := hq.placed.rewrite (R := fun _ => False) (p := .flight) hr (by simp)
    hp.1 (f := fun item =>
      { item with inFlight := true, dispatchedAt := now, runID := t.runID, task := task })
    { hcount with } htask (fun _ => ⟨rfl, rfl⟩)
    ⟨hp.1, hp.2.1, by rw [modify_store_self]; exact hp.2.2.1, by rw [modify_store_self],
      by rw [modify_store_self]; exact hp.2.2.2.2⟩
  have hkey : task.key = k := htask.key
  exact
    { placed := by
        rw [Placed, hitems]
        exact hplaced
      started := hcount.started.trans hst
      runID := hcount.runID.trans hrun
      taskRunID := hrunID.trans hrun
      before := by
        rw [hkey]
        apply (hq.flights k).eq_none_iff.2
        simp [flightAt, hr, hp.2.2.2.1]
      after := by
        refine ⟨s'.store r, ?_, by rw [hself], by rw [hself]; exact hrun⟩
        rw [hkey]
        simp only [flight, flightAt, hitems, hr, Option.bind_some]
        rw [if_pos (by rw [hself])]
      others := fun k' hk' => by
        rw [flight, flight, hitems, hfl k' (hkey ▸ hk')]
        exact hq.flights k'
      inFlight := by
        rw [hcount.inFlight]
        show t.inFlight + 1 = s.inFlight + 1
        rw [hinf]
      inFlightBy := by
        rw [hcount.inFlightBy]
        exact congrArg (IsolationCounts.update incrementCount · task) hby
      essentialBy := by
        rw [hcount.essentialBy]
        show (if task.kind = .essential then t.essentialBy.update incrementCount task
          else t.essentialBy) = _
        rw [hess]
      slots := fun slot => by rw [hslots, slotCount_of_counters hq.frame]
      enabled := fun k' q hk' hd => by
        obtain ⟨hget, hd'⟩ := hq.enabled k' q hk' hd (by simp)
        refine ⟨hitems ▸ hget, ?_⟩
        rw [hcount.store]
        simp only [modify_store]
        split_ifs with hqr
        · exact hqr ▸ hd'
        · exact hd'
      due := by
        rw [hitems]
        exact hq.due.trans hdue }

/-- The induction rule of the dispatch loop: what quiet transitions and single dispatches below the
global limit preserve, the loop preserves. -/
theorem dispatchLoop_rule (limits : DispatchLimits) {P : Scheduler → List Event → Prop}
    (hquiet : ∀ {s s' tr}, s.Placed → P s tr → Quiet (fun _ => False) [] s s' → P s' tr)
    (hdispatch : ∀ {s s' tr task}, s.Placed → s.inFlight < limits.globalLimit → P s tr →
      DispatchStep s task s' → P s' (tr ++ [.dispatched task]))
    (now : Time) (fuel : Nat) (cancelAfter : Option Nat)
    (scan : DispatchScanState) (tr : List Event) (h : s.Placed) (hP : P s tr) :
    (dispatchLoop limits now fuel cancelAfter s scan).1.Placed ∧
      P (dispatchLoop limits now fuel cancelAfter s scan).1
        (tr ++ (dispatchLoop limits now fuel cancelAfter s scan).2.map .dispatched) := by
  induction fuel generalizing s cancelAfter scan tr with
  | zero => simpa [dispatchLoop] using ⟨h, hP⟩
  | succ fuel ih =>
    simp only [dispatchLoop]
    split
    · simpa using ⟨h, hP⟩
    rename_i hroom
    have hpop := popReadyKinds_spec (R := fun _ => False) limits h scan
      [.essential, .bootstrap, .unset]
    simp only [popReadyEligible]
    split
    · rename_i t scan' heq
      rw [heq] at hpop
      have hq : Quiet (fun _ => False) [] s t := hpop.quiet
      simpa using ⟨hq.placed, hquiet h hP hq⟩
    · rename_i t scan' r heq
      rw [heq] at hpop
      obtain ⟨hitems, hq, hcur, -⟩ := hpop
      obtain ⟨k, hk⟩ := hcur r rfl
      have hr : t.items.get k = some r := hitems ▸ hk
      split
      · -- a disabled item is dropped on the way
        rename_i hdis
        rw [(hq.placed.shape k r hr).key]
        have hdrop : Quiet (fun _ => False) [] s { t with items := t.items.erase k } :=
          QuietStep.withItems (hq.trans (hq.placed.quietForget (w := []) hr (.inl hdis))) _
        exact ih cancelAfter scan' tr hdrop.placed (hquiet h hP hdrop)
      · split
        · have hback : Quiet (fun _ => False) [] s (t.pushReadyFront r) := by
            simp only [Quiet, pushReadyFront_items]
            exact hq.trans (hq.placed.pushReadyFront hr)
          simpa using ⟨hback.placed, hquiet h hP hback⟩
        · have hstep := dispatchStep_of_held now hq hr
          have hrest := ih (cancelAfter.map (· - 1)) scan' _ hstep.placed
            (hdispatch h (not_le.1 hroom) hP hstep)
          rw [List.append_assoc] at hrest
          exact hrest

end Dispatch

/-! ### Completion -/

/-- One completion is accepted: its key was in flight in that run and is no longer; the other
tasks in flight are kept, and the counters drop the task as the item holds it now. -/
structure CompleteStep (s : Scheduler) (c : Completion) (s' : Scheduler) : Prop where
  placed : s'.Placed
  started : s'.started = s.started
  runID : s'.runID = s.runID
  after : s'.flight c.key = none
  others : ∀ k, k ≠ c.key → FlightKept [] k (s.flight k) (s'.flight k)
  inFlight : s'.inFlight = s.inFlight - 1
  item : ∃ item, s.flight c.key = some item ∧ item.runID = c.runID ∧
    s'.inFlightBy = s.inFlightBy.update decrementCount item.task ∧
    s'.essentialBy =
      (if item.task.kind = .essential then s.essentialBy.update decrementCount item.task
      else s.essentialBy) ∧
    (0 < s.slotCount (slotOf item.task) → ∀ slot, s'.slotCount slot =
      s.slotCount slot + if slot = slotOf item.task then -1 else 0)
  enabled : ∀ k r, s.items.get k = some r → (s.store r).disabled = false →
    s'.items.get k = some r ∧ (s'.store r).disabled = false
  due : DueKept (· = c.key) s.items s s'.items s'

/-- `f` changes neither what kind of task an item holds nor its flags, the flight flag apart. -/
def KeepsShape (f : HeapItem → HeapItem) : Prop :=
  ∀ item, (f item).task.key = item.task.key ∧ (f item).task.kind = item.task.kind ∧
    (f item).task.lane = item.task.lane ∧
    (f item).task.volatilityClass = item.task.volatilityClass ∧
    (f item).task.device = item.task.device ∧
    (f item).queued = item.queued ∧ (f item).index = item.index ∧
    (f item).disabled = item.disabled

theorem KeepsShape.shaped (hf : KeepsShape f) {item : HeapItem} (h : Shaped k item.task) :
    Shaped k (f item).task := by
  obtain ⟨hkey, hkind, hlane, hclass, hdevice, -⟩ := hf item
  exact h.congr hkey hdevice hkind hlane hclass

section Complete

variable {s : Scheduler}

theorem PlacedAt.modifyHeld (h : PlacedAt m s (some r)) (hr : m.get k = some r) (hf : KeepsShape f)
    (hfl : (f (s.store r)).inFlight = (s.store r).inFlight) :
    QuietStep (· = k) [] m s m (s.modify r f) (some r) := by
  have hp := h.heldAt hr
  obtain ⟨-, -, -, -, -, hq, hi, hen⟩ := hf (s.store r)
  refine h.modify hr (by simp) ⟨hf.shaped (h.shape k r hr), hfl, fun hin => ?_,
    fun hd _ => hen ▸ hd, absurd rfl⟩ hq hi fun hm => absurd hm hp.1
  rw [hp.2.2.2.1] at hin
  cases hin

theorem requeueCompleted_quiet (h : PlacedAt m s (some r)) (hr : m.get k = some r)
    (finishedAt : Time) (jitter : Duration) :
    QuietStep (· = k) [] m s m (s.requeueCompleted r finishedAt jitter) none := by
  unfold requeueCompleted
  dsimp only
  have h1 := h.modifyHeld hr (f := fun item => { item with pending := false, immediateRerun := false })
    (fun _ => ⟨rfl, rfl, rfl, rfl, rfl, rfl, rfl, rfl⟩) rfl
  split
  · have h2 := h1.placed.modifyHeld hr (f := fun item => { item with
      dueAt := finishedAt
      task := { item.task with dueAt := finishedAt, deadlineAt := finishedAt + item.interval } })
      (fun _ => ⟨rfl, rfl, rfl, rfl, rfl, rfl, rfl, rfl⟩) rfl
    exact (h1.trans h2).trans (h2.placed.enqueueReady hr)
  · generalize (if taskIsBackground (s.store r).task = true then
      nextPhaseAfter (s.store r).dueAt (s.store r).interval finishedAt
      else jitteredNext finishedAt (s.store r).interval jitter) = next
    have h2 := h1.placed.modifyHeld hr (f := fun item => { item with
      dueAt := next
      task := { item.task with dueAt := next, deadlineAt := next + item.interval }
      skippedWindows := 0 }) (fun _ => ⟨rfl, rfl, rfl, rfl, rfl, rfl, rfl, rfl⟩) rfl
    exact (h1.trans h2).trans (h2.placed.heapPush hr)

@[simp] theorem requeueCompleted_items (s : Scheduler) (r : ItemRef) (finishedAt : Time)
    (jitter : Duration) : (s.requeueCompleted r finishedAt jitter).items = s.items := by
  unfold requeueCompleted
  dsimp only
  split <;> simp

/-- The item of an accepted completion leaves the flight and is held; `t` is the scheduler
between the counter update and the decision where the item goes. -/
theorem endFlight (h : s.Placed) (hr : s.items.get k = some r) (hin : (s.store r).inFlight = true)
    (hf : KeepsShape f) (hfl : (f (s.store r)).inFlight = false) (ht : SameItems s t) :
    PlacedAt s.items (t.modify r f) (some r) ∧ (t.modify r f).flightAt s.items k = none ∧
      (∀ k', k' ≠ k → (t.modify r f).flightAt s.items k' = s.flight k') ∧
      (∀ q, ((t.modify r f).store q).disabled = (s.store q).disabled) ∧
      DueKept (· = k) s.items s s.items (t.modify r f) := by
  obtain ⟨p, hp, -⟩ := place h k r hr
  obtain rfl := hp.inFlight_iff.1 hin
  obtain ⟨-, -, -, -, -, hq, hi, hen⟩ := hf (s.store r)
  have hsame : SameItems (s.modify r f) (t.modify r f) :=
    { ht with store := by simp only [Scheduler.modify, ht.store] }
  obtain ⟨hplaced, hothers, hdue⟩ := rewrite (R := (· = k)) (p := .held) h hr (by simp) hp.1
    hsame (hf.shaped (shape h k r hr)) (absurd rfl)
    ⟨hp.1, hp.2.1, by rw [modify_store_self, hq]; exact hp.2.2.1, by rw [modify_store_self, hfl],
      by rw [modify_store_self, hi]; exact hp.2.2.2.2⟩
  refine ⟨hplaced, ?_, hothers, fun q => ?_, hdue⟩
  · simp [flightAt, hr, hsame.store, modify_store_self, hfl]
  · rw [hsame.store]
    by_cases hqr : q = r
    · rw [hqr, modify_store_self, hen]
    · rw [modify_store_ne s f hqr]

/-- `handleCompletion` either ignores the completion or accepts it. -/
theorem handleCompletion_cases (h : s.Placed) (c : Completion) (now : Time) (jitter : Duration) :
    s.handleCompletion c now jitter = (s, false) ∨
      ∃ s', s.handleCompletion c now jitter = (s', true) ∧ CompleteStep s c s' := by
  unfold handleCompletion
  split
  · exact .inl rfl
  rename_i r hr
  dsimp only
  generalize (if Time.isZero c.finishedAt = true then now else c.finishedAt) = finishedAt
  split
  · rename_i hacc
    right
    simp only [acceptsCompletion, Bool.and_eq_true, decide_eq_true_eq] at hacc
    obtain ⟨⟨hin, -⟩, hrunid⟩ := hacc
    have hshape := shape h c.key r hr
    have hcount := decrementInFlight_counted { s with inFlight := s.inFlight - 1 }
      hshape.normalizeTask_eq
    have hslots := slotCount_decrementInFlight { s with inFlight := s.inFlight - 1 } (s.store r).task
    generalize ({ s with inFlight := s.inFlight - 1 } : Scheduler).decrementInFlight
      (s.store r).task = t at hcount hslots ⊢
    obtain ⟨hheld, hnone, hothers, hdis, hdue⟩ := endFlight (t := t) (f := fun item => { item with
        inFlight := false, dispatchedAt := 0, runID := 0, task := { item.task with runID := 0 } })
      h hr hin (fun _ => ⟨rfl, rfl, rfl, rfl, rfl, rfl, rfl, rfl⟩) rfl { hcount with }
    have hitems : (t.modify r fun item => { item with
        inFlight := false, dispatchedAt := 0, runID := 0,
        task := { item.task with runID := 0 } }).items = s.items := hcount.items
    generalize hu : (t.modify r fun item => { item with
        inFlight := false, dispatchedAt := 0, runID := 0,
        task := { item.task with runID := 0 } }) = u at hheld hnone hothers hdis hdue hitems ⊢
    have hframe : u.counters = t.counters := by rw [← hu]; rfl
    -- in both branches the held item is put away quietly
    have hfinish : ∀ s', QuietStep (· = c.key) [] s.items u s'.items s' none →
        CompleteStep s c s' := by
      intro s' hq
      obtain ⟨hst, hinf, hby, hess, hrun⟩ := counters_eq_iff (hq.frame.trans hframe)
      refine ⟨hq.placed, hst.trans hcount.started, hrun.trans hcount.runID, ?_, ?_, ?_, ?_,
        fun k q hk hd => hq.enabled k q hk ((hdis q).trans hd) (by simp), hdue.trans hq.due⟩
      · exact (hq.flights c.key).eq_none_iff.1 hnone
      · intro k hk
        rw [← hothers k hk]
        exact hq.flights k
      · rw [hinf, hcount.inFlight]
      refine ⟨s.store r, ?_, hrunid.symm, ?_, ?_, fun hpos slot => ?_⟩
      · simp [flight, flightAt, hr, hin]
      · rw [hby, hcount.inFlightBy]
      · rw [hess, hcount.essentialBy]
      · rw [slotCount_of_counters (hq.frame.trans hframe)]
        exact (hslots hpos slot).trans (congrArg (· + _) (slotCount_congr rfl rfl slot))
    split
    · rename_i hd
      refine ⟨_, rfl, hfinish _ ?_⟩
      rw [hitems]
      exact (hheld.quietForget hr (.inl ((hdis r).trans hd))).withItems _
    · refine ⟨_, rfl, hfinish _ ?_⟩
      rw [requeueCompleted_items, hitems]
      exact requeueCompleted_quiet hheld hr finishedAt jitter
  · exact .inl rfl

end Complete

/-! ### One rule for all critical sections -/

/-- What a critical section does to the items it finds; `Stop` is described by its event. -/
def Op.effects : Op → Effects
  | .start (some devices) _ order => refreshEffects devices order
  | .refresh (some devices) _ order => refreshEffects devices order
  | .reconcile device included _ _ order => reconcileEffects device included order
  | .reduePerformance device included _ _ => reduePerformanceWrites device included
  | .redueEssential device included _ _ => redueEssentialWrites device included
  | _ => []

/-- The keys whose due time a critical section may rewrite. -/
def Op.redued : Op → List TaskKey
  | .reduePerformance device _ _ _ =>
    [newBootstrapTaskKey device.id, newBackgroundTaskKey device.id .performance]
  | .redueEssential device _ _ _ => [newEssentialTaskKey device.id]
  | _ => []

/-- `s` with the next run begun, before its first refresh. -/
def beginRun (s : Scheduler) : Scheduler := { s with started := true, runID := s.runID + 1 }

/-- What a property `P` of a state and its history must satisfy to hold in every run whose
steps have only effects that `A` allows and re-due only keys of `R`. -/
structure StepRules (R : TaskKey → Prop) (A : Scheduler → Effects → Prop)
    (P : Scheduler → List Event → Prop) : Prop where
  allowed_nil : ∀ s, A s []
  allowed_begin : ∀ {s w}, A s w → A s.beginRun w
  quiet : ∀ {w s s' tr}, s.Placed → P s tr → A s w → Quiet R w s s' → P s' tr
  dispatch : ∀ {s s' tr task}, s.started = true → s.Placed → P s tr → DispatchStep s task s' →
    P s' (tr ++ [.dispatched task])
  complete : ∀ {s s' tr c}, s.started = true → s.Placed → P s tr → CompleteStep s c s' →
    P s' (tr ++ [.completed c.runID c.key])
  start : ∀ {s tr}, s.started = false → P s tr → P s.beginRun tr
  stop : ∀ {s tr}, s.started = true → P s tr → P s.resetRuntimeState (tr ++ [.stopped])

theorem resetRuntimeState_placed (s : Scheduler) : s.resetRuntimeState.Placed := by
  refine ⟨⟨⟨List.nodup_nil, fun i r h => ?_⟩, fun c _ hc => ?_⟩, List.nodup_nil, ?_, ?_, ?_, ?_, ?_⟩
  · simp [resetRuntimeState] at h
  · simp [resetRuntimeState] at hc
  all_goals simp [resetRuntimeState, readyEntries]

theorem Quiet.any {w : Effects} (h : Quiet (fun _ => False) w s s') : Quiet R w s s' :=
  { h with due := h.due.mono nofun }

theorem Quiet.started_eq {w : Effects} (h : Quiet R w s s') :
    s'.started = s.started := (counters_eq_iff h.frame).1

section Rules

variable {R : TaskKey → Prop} {A : Scheduler → Effects → Prop}
  {P : Scheduler → List Event → Prop} {s : Scheduler} {tr : List Event}

theorem StepRules.dispatchReady (hR : StepRules R A P) (limits : DispatchLimits) (now : Time)
    (cancelAfter : Option Nat) (hst : s.started = true) (h : s.Placed) (hP : P s tr) :
    (s.dispatchReady limits now cancelAfter).1.Placed ∧
      P (s.dispatchReady limits now cancelAfter).1
        (tr ++ (s.dispatchReady limits now cancelAfter).2.map .dispatched) := by
  unfold Scheduler.dispatchReady
  split
  · simpa using ⟨h, hP⟩
  -- carry along that the run loop is running
  have hloop := dispatchLoop_rule limits (P := fun s tr => s.started = true ∧ P s tr)
    (fun hp hP hq => ⟨hq.started_eq.trans hP.1, hR.quiet hp hP.2 (hR.allowed_nil _) hq.any⟩)
    (fun hp _ hP hd => ⟨hd.started.trans hP.1, hR.dispatch hP.1 hp hP.2 hd⟩)
    now (s.readyEntries.length + 1) cancelAfter {} tr h ⟨hst, hP⟩
  exact ⟨hloop.1, hloop.2.2⟩

/-- Every critical section preserves what the rules ask for. -/
theorem StepRules.step (hR : StepRules R A P) (op : Op) (hv : op.Valid s) (hA : A s op.effects)
    (hredued : ∀ k ∈ op.redued, R k) (h : s.Placed) (hP : P s tr) :
    (s.step op).1.Placed ∧ P (s.step op).1 (tr ++ (s.step op).2) := by
  have hquiet : ∀ {w s'}, A s w → Quiet R w s s' → s'.Placed ∧ P s' (tr ++ []) := fun ha hq =>
    ⟨hq.placed, by rw [List.append_nil]; exact hR.quiet h hP ha hq⟩
  cases op with
  | start devices now order =>
    simp only [Scheduler.step]
    split
    · exact hquiet (hR.allowed_nil s) h.quiet
    rename_i hst
    simp only [Bool.not_eq_true] at hst
    have hb : s.beginRun.Placed := congr h rfl rfl rfl rfl
    have hq := refreshDevices_quiet (R := R) hb devices now order
    refine ⟨hq.placed, ?_⟩
    rw [List.append_nil]
    refine hR.quiet hb (hR.start hst hP) (hR.allowed_begin ?_) hq
    cases devices <;> exact hA
  | stop =>
    simp only [Scheduler.step]
    split
    · exact ⟨resetRuntimeState_placed s, hR.stop ‹_› hP⟩
    · exact hquiet (hR.allowed_nil s) h.quiet
  | refresh devices now order =>
    have hq := refreshDevices_quiet (R := R) h devices now order
    cases devices <;> exact hquiet hA hq
  | reconcile device included changedAt now order =>
    exact hquiet hA (reconcileDeviceTasks_quiet h device included changedAt now order)
  | reduePerformance device included changedAt now =>
    exact hquiet hA (handleReduePerformanceTask_quiet h device included changedAt now
      (hredued _ (by simp [Op.redued])) (hredued _ (by simp [Op.redued])))
  | redueEssential device included changedAt now =>
    exact hquiet hA (handleRedueEssentialTask_quiet h device included changedAt now
      (hredued _ (by simp [Op.redued])))
  | move now order => exact hquiet hA (moveDueTasksToReady_quiet h now order)
  | dispatch limits now cancelAfter => exact hR.dispatchReady limits now cancelAfter hv h hP
  | complete c now jitter =>
    simp only [Scheduler.step]
    rcases handleCompletion_cases h c now jitter with heq | ⟨s', heq, hc⟩
    · rw [heq]
      exact hquiet (hR.allowed_nil s) h.quiet
    · rw [heq]
      exact ⟨hc.placed, hR.complete hv h hP hc⟩

end Rules

theorem placed_new : ({} : Scheduler).Placed := resetRuntimeState_placed {}

theorem step_placed (h : s.Placed) {op : Op} (hv : op.Valid s) : (s.step op).1.Placed := by
  have hrules : StepRules (fun _ => True) (fun _ _ => True) (fun _ _ => True) := by
    constructor <;> intros <;> trivial
  exact (@StepRules.step _ _ _ s [] hrules op hv trivial (fun _ _ => trivial) h trivial).1

/-- In every reachable state each item has its place. -/
theorem Reached.placed (h : Reached s tr) : s.Placed := by
  apply Run.invariant (P := fun s _ => s.Placed) h
  · intro s hs
    rw [hs]
    exact placed_new
  · intro s tr es s' _ hp hstep
    obtain ⟨op, hv, hstep⟩ := hstep
    have := step_placed hp hv
    rwa [hstep] at this

/-- A property with step rules that holds of a new scheduler holds in every run whose steps
have only allowed effects. -/
theorem StepRules.run {A : Scheduler → Effects → Prop} {P : Scheduler → List Event → Prop}
    (hR : StepRules (fun _ => True) A P) (h0 : P {} [])
    (h : Run IsNew (fun s es s' => ∃ op : Op, op.Valid s ∧ A s op.effects ∧ s.step op = (s', es))
      s tr) : P s tr := by
  have hall : s.Placed ∧ P s tr := by
    refine Run.invariant (P := fun s tr => s.Placed ∧ P s tr) h (fun s hs => ?_) ?_
    · rw [hs]
      exact ⟨placed_new, h0⟩
    · rintro s tr es s' - ⟨hp, hP⟩ ⟨op, hv, hA, hstep⟩
      have := hR.step op hv hA (fun _ _ => trivial) hp hP
      rwa [hstep] at this
  exact hall.2

/-- What `exec` reaches is reached by steps that are all allowed. -/
theorem exec_run {allowed : Scheduler → Op → Bool} (ops : List Op) {tr' : List Event}
    (h : Run IsNew (fun s es s' => ∃ op : Op, op.Valid s ∧ allowed s op ∧ s.step op = (s', es)) s tr)
    (hexec : exec allowed (s, tr) ops = some (s', tr')) :
    Run IsNew (fun s es s' => ∃ op : Op, op.Valid s ∧ allowed s op ∧ s.step op = (s', es)) s' tr' := by
  induction ops generalizing s tr with
  | nil =>
    cases hexec
    exact h
  | cons op ops ih =>
    rw [exec] at hexec
    split at hexec
    · rename_i hop
      exact ih (.step h ⟨op, hop.1, hop.2, rfl⟩) hexec
    · cases hexec

theorem exec_reached {allowed : Scheduler → Op → Bool} {ops : List Op}
    (hexec : exec allowed ({}, []) ops = some (s, tr)) : Reached s tr :=
  (exec_run ops (.init rfl) hexec).mono fun _ _ _ ⟨op, hv, _, hstep⟩ => ⟨op, hv, hstep⟩

end Theia.Scheduler
