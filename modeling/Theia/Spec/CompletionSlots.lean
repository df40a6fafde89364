import Theia.Spec.SchedulerChannels

/-!
# A completion gives its slot back

A task in flight occupies a slot of the global limit and one of its class, or of the essential
workers. `handleCompletion` is the only place that frees them, and it compares two clock readings
before it does: the one at the dispatch and the one of the worker.
-/

namespace Theia

variable {s : Scheduler} {c : Completion} {tr : List Event} {item : HeapItem}

namespace Scheduler

/-! ### The counters count what is outstanding -/

/-- The tasks that count in a slot. -/
def inSlot (slot : Option VolatilityClass) (tasks : List PollTask) : Nat :=
  tasks.countP fun task => slotOf task = slot

theorem inSlot_cons (slot : Option VolatilityClass) (task : PollTask) (tasks : List PollTask) :
    (inSlot slot (task :: tasks) : Int) =
      inSlot slot tasks + if slot = slotOf task then 1 else 0 := by
  by_cases hslot : slot = slotOf task
  · simp [hslot, inSlot]
  · simp [hslot, Ne.symm hslot, inSlot]

theorem Shaped.slotOf_eq {k : TaskKey} {a b : PollTask} (ha : Shaped k a) (hb : Shaped k b) :
    slotOf a = slotOf b := by
  simp [slotOf, ha.kind, hb.kind, ha.volatilityClass, hb.volatilityClass]

/-- The class counters and the essential counter count the outstanding tasks. -/
structure SlotInv (s : Scheduler) (tr : List Event) : Prop extends FlightInv s tr where
  slots : ∀ slot, s.slotCount slot = inSlot slot (outstanding tr)

theorem SlotInv.completed {s' : Scheduler} (hp : s.Placed) (hP : SlotInv s tr)
    (hc : CompleteStep s c s') (hitem : s.flight c.key = some item)
    (slot : Option VolatilityClass) :
    s'.slotCount slot = s.slotCount slot + if slot = slotOf item.task then -1 else 0 := by
  obtain ⟨item', hitem', -, -, -, hcount⟩ := hc.item
  rw [hitem] at hitem'
  cases hitem'
  obtain ⟨t, ht, hkey, -⟩ := hc.outstanding hP.toFlightInv
  apply hcount
  rw [hP.slots, (flight_shaped hp hitem).slotOf_eq (hkey ▸ hP.shaped t ht)]
  exact_mod_cast List.countP_pos_iff.2 ⟨t, ht, by simp⟩

theorem slot_rules : StepRules (fun _ => True) (fun _ _ => True) SlotInv where
  allowed_nil _ := trivial
  allowed_begin _ := trivial
  quiet _ hP _ hq :=
    ⟨hP.quiet hq, fun slot => (slotCount_of_counters hq.frame slot).trans (hP.slots slot)⟩
  dispatch hst _ hP hd := by
    refine ⟨hP.dispatch hst hd, fun slot => ?_⟩
    rw [hd.slots, hP.slots, outstanding_concat, outstandingAfter, inSlot_cons]
  complete {s s' tr c} hst hp hP hc := by
    refine ⟨hP.complete hst hc, fun slot => ?_⟩
    obtain ⟨item, hitem, -⟩ := hc.item
    obtain ⟨t, ht, hkey, -, hperm, -⟩ := hc.outstanding hP.toFlightInv
    have hcount : inSlot slot (outstanding tr) = inSlot slot (t :: _) := hperm.countP_eq _
    rw [hP.completed hp hc hitem, hP.slots, hcount, inSlot_cons,
      (flight_shaped hp hitem).slotOf_eq (hkey ▸ hP.shaped t ht)]
    split <;> omega
  start hst hP :=
    ⟨hP.toFlightInv.start hst, fun slot => (slotCount_congr rfl rfl slot).trans (hP.slots slot)⟩
  stop _ _ := by
    refine ⟨.stop, fun slot => ?_⟩
    rw [outstanding_concat]
    cases slot <;> rfl

/-- In every run the class counters and the essential counter count the outstanding tasks. -/
theorem Reached.slotInv (h : Reached s tr) : SlotInv s tr := by
  refine slot_rules.run ⟨flightInv_new, fun slot => ?_⟩ h.unrestricted
  cases slot <;> rfl

/-! ### Completions -/

/-- The finish time of `handleCompletion`. -/
def finishTime (c : Completion) (now : Time) : Time :=
  if c.finishedAt.isZero then now else c.finishedAt

/-- What `handleCompletion` does is decided by the item of the key. -/
theorem handleCompletion_accepts {r : ItemRef} (hr : s.items.get c.key = some r) (now : Time)
    (jitter : Duration) :
    (s.handleCompletion c now jitter).2 = acceptsCompletion (s.store r) c (finishTime c now) := by
  unfold finishTime
  simp only [handleCompletion, hr]
  generalize (if Time.isZero c.finishedAt = true then now else c.finishedAt) = finishedAt
  cases acceptsCompletion (s.store r) c finishedAt with
  | true =>
    rw [if_pos rfl]
    split <;> rfl
  | false => rfl

end Scheduler

namespace SchedulerChannels

open Scheduler

/-! ### Handling a completion -/

/-- A task left the flight, and the counters it counted in are lower by one. -/
structure Freed (s s' : Scheduler) (task : PollTask) : Prop where
  flight : s'.flight task.key = none
  inFlight : s'.inFlight = s.inFlight - 1
  slot : s'.slotCount (slotOf task) = s.slotCount (slotOf task) - 1

theorem inFlight_of_completion {st : SchedulerChannels} (h : Reached st tr)
    (hst : st.scheduler.started = true) (hc : c ∈ st.completions)
    (hrun : c.runID = st.scheduler.runID) :
    ∃ item, st.scheduler.flight c.key = some item ∧ item.runID = c.runID := by
  obtain ⟨hreached, hinv⟩ := h.scheduler_inv
  have hpending : completionID c ∈ st.pendingIDs := by
    simp only [pendingIDs, List.mem_append]
    exact .inr (.inr (.inr (List.mem_map_of_mem hc)))
  obtain ⟨t, ht, heq⟩ := List.mem_map.1 (hinv.sent hst _ hpending hrun)
  obtain ⟨item, hitem, hitemRun⟩ := hreached.flightInv.flies t ht
  simp only [taskID, completionID, Prod.mk.injEq] at heq
  rw [heq.2] at hitem
  exact ⟨item, hitem, hitemRun.trans heq.1⟩

theorem freed_of_accepted {s' : Scheduler} (hreached : Scheduler.Reached s tr)
    (hitem : s.flight c.key = some item) (hc : CompleteStep s c s') : Freed s s' item.task := by
  refine ⟨(flight_shaped hreached.placed hitem).key ▸ hc.after, hc.inFlight, ?_⟩
  rw [hreached.slotInv.completed hreached.placed hc hitem, if_pos rfl]
  rfl

instance (st : SchedulerChannels) (op : Op) : Decidable (op.Valid st) := by
  unfold Op.Valid
  split <;> infer_instance

/-- The worker settings of the probe's limits. -/
def probeSettings : WorkerSettings where
  budgets _ := 10
  policy := probeLimits.policy
  essentialWorkers := 10

/-- The probe is polled: its task is dispatched at 100 s and a worker has it. -/
def probePolled : List Op :=
  [.locked (.start (some [probe 2]) second [probeKey]), .locked (.move (100 * second) [probeKey]),
    .dispatch probeSettings (100 * second) none, .receive]

/-- The task of the worker. -/
def probeTask : PollTask :=
  (probePolled.foldl step {}).working.headD HeapItem.unallocated.task

/-- The worker completes the task, by its own clock at `finishedAt`. -/
def probeCompleted (finishedAt : Time) : List Op :=
  probePolled ++ [.complete probeTask finishedAt, .send (completionOf probeTask finishedAt)]

/-- The state in which the completion is in the channel. -/
def probeState (finishedAt : Time) : SchedulerChannels := (probeCompleted finishedAt).foldl step {}

theorem probeState_reached (finishedAt : Time)
    (h : OkAlong step (fun st op => op.Valid st) {} (probeCompleted finishedAt)) :
    ∃ tr, Reached (probeState finishedAt) tr :=
  Run.of_allowed (fun _ op hv => ⟨_, op, hv, rfl, rfl⟩) h

end SchedulerChannels

end Theia
