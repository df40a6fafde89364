import Theia.Native.SchedulerChannels
import Theia.Spec.SchedulerIsolation

/-!
# Sends of the scheduler do not wait

The scheduler sends tasks under its lock, so a send that waits stops all polling. A dispatch
cycle stops at the global limit, which is at most the capacity of either channel, and what is in
the channels belongs to tasks in flight, as long as it belongs to the current run.

`Stop` drains the channels, but a call of `Complete` that found the scheduler running may send
after that: such a completion is rejected by its run ID once it is received, and takes a place
in the channel until then.
-/

namespace Theia

open List Function

variable {s s' : Scheduler} {c : Completion} {tr : List Event} {op : Op} {st : SchedulerChannels}

namespace Scheduler

/-! ### The limit of a dispatch cycle -/

theorem dispatchReady_run (limits : DispatchLimits) (h : s.Placed) (now : Time)
    (cancelAfter : Option Nat) :
    (s.dispatchReady limits now cancelAfter).1.started = s.started ∧
      (s.dispatchReady limits now cancelAfter).1.runID = s.runID ∧
      (s.dispatchReady limits now cancelAfter).1.inFlight ≤ max s.inFlight limits.globalLimit := by
  unfold dispatchReady
  split
  · exact ⟨rfl, rfl, le_max_left _ _⟩
  refine (dispatchLoop_rule limits (P := fun t _ => t.started = s.started ∧ t.runID = s.runID ∧
    t.inFlight ≤ max s.inFlight limits.globalLimit)
    ?_ ?_ now (s.readyEntries.length + 1) cancelAfter {} [] h ⟨rfl, rfl, le_max_left _ _⟩).2
  · intro t t' tr _ hP hq
    obtain ⟨hst, hinf, -, -, hrun⟩ := counters_eq_iff hq.frame
    exact ⟨hst.trans hP.1, hrun.trans hP.2.1, hinf.trans_le hP.2.2⟩
  · intro t t' tr task _ hroom hP hd
    refine ⟨hd.started.trans hP.1, hd.runID.trans hP.2.1, ?_⟩
    rw [hd.inFlight]
    omega

/-! ### Sections without dispatch -/

/-- What a critical section that neither dispatches nor completes does to the run: it begins
one, ends one, or leaves it. -/
inductive RunChange (s : Scheduler) : Op → Scheduler → List Event → Prop
  | begins {op : Op} {s' : Scheduler} : s.started = false → s'.started = true →
      s'.runID = s.runID + 1 → RunChange s op s' []
  | ends {s' : Scheduler} : s.started = true → s'.started = false → s'.runID = s.runID →
      RunChange s .stop s' [.stopped]
  | stays {op : Op} {s' : Scheduler} : (op = .stop → s.started = false) →
      s'.started = s.started → s'.runID = s.runID → RunChange s op s' []

theorem step_runChange (h : s.Placed) (hop : SchedulerChannels.isLocked op = true) :
    RunChange s op (s.step op).1 (s.step op).2 := by
  have hquiet : ∀ {w : Effects} {s' : Scheduler}, op ≠ .stop → Quiet (fun _ => True) w s s' →
      RunChange s op s' [] := by
    intro w s' hne hq
    obtain ⟨hst, -, -, -, hrun⟩ := counters_eq_iff hq.frame
    exact .stays (fun he => absurd he hne) hst hrun
  cases op with
  | start devices now order =>
    by_cases hst : s.started = true
    · simp only [step, if_pos hst]
      exact hquiet (by simp) h.quiet
    simp only [step, if_neg hst]
    rw [Bool.not_eq_true] at hst
    have hb : s.beginRun.Placed := PlacedAt.congr h rfl rfl rfl rfl
    obtain ⟨hst', -, -, -, hrun⟩ :=
      counters_eq_iff (refreshDevices_quiet (R := fun _ => True) hb devices now order).frame
    exact .begins hst hst' hrun
  | stop =>
    by_cases hst : s.started = true
    · simp only [step, if_pos hst]
      exact .ends hst rfl rfl
    · simp only [step, if_neg hst]
      exact .stays (fun _ => Bool.not_eq_true _ ▸ hst) rfl rfl
  | refresh devices now order => exact hquiet (by simp) (refreshDevices_quiet h devices now order)
  | reconcile device included changedAt now order =>
    exact hquiet (by simp) (reconcileDeviceTasks_quiet h device included changedAt now order)
  | reduePerformance device included changedAt now =>
    exact hquiet (by simp) (handleReduePerformanceTask_quiet h device included changedAt now trivial
      trivial)
  | redueEssential device included changedAt now =>
    exact hquiet (by simp) (handleRedueEssentialTask_quiet h device included changedAt now trivial)
  | move now order => exact hquiet (by simp) (moveDueTasksToReady_quiet h now order)
  | dispatch | complete => cases hop

end Scheduler

namespace SchedulerChannels

open Scheduler

/-! ### What is in the channels and with the workers -/

/-- The run and the key of a task. -/
def taskID (task : PollTask) : Nat × TaskKey := (task.runID, task.key)

/-- The run and the key of the task that a completion is for. -/
def completionID (c : Completion) : Nat × TaskKey := (c.runID, c.key)

/-- The tasks that were sent and whose completion was not yet received, of whatever run. -/
def pendingIDs (st : SchedulerChannels) : List (Nat × TaskKey) :=
  st.tasks.map taskID ++ (st.working.map taskID ++
    (st.completing.map completionID ++ st.completions.map completionID))

/-- Every task of the current run that is in a channel, with a worker or in a call of `Complete`
is outstanding, and is there once. -/
structure ChannelInv (st : SchedulerChannels) (tr : List Event) : Prop where
  known : ∀ x ∈ st.pendingIDs, x.1 ≤ st.scheduler.runID
  fresh : ∀ t ∈ st.tasks, st.scheduler.started = true ∧ t.runID = st.scheduler.runID
  nodup : st.pendingIDs.Nodup
  sent : st.scheduler.started = true → ∀ x ∈ st.pendingIDs, x.1 = st.scheduler.runID →
    x ∈ (outstanding tr).map taskID
  bounded : (outstanding tr).length ≤ defaultTaskBuffer

/-- Within a run, tasks may move on and be dropped. -/
theorem ChannelInv.moves {st' : SchedulerChannels} (h : ChannelInv st tr)
    (hst : st'.scheduler.started = st.scheduler.started)
    (hrun : st'.scheduler.runID = st.scheduler.runID)
    (hids : st'.pendingIDs.Subperm st.pendingIDs) (htasks : st'.tasks ⊆ st.tasks) :
    ChannelInv st' tr := by
  constructor
  · rw [hrun]
    exact fun x hx => h.known x (hids.subset hx)
  · rw [hst, hrun]
    exact fun t ht => h.fresh t (htasks ht)
  · obtain ⟨l, hperm, hsub⟩ := hids
    exact hperm.nodup_iff.1 (h.nodup.sublist hsub)
  · rw [hst, hrun]
    exact fun hst x hx => h.sent hst x (hids.subset hx)
  · exact h.bounded

theorem pendingIDs_congr {st' : SchedulerChannels} (ht : st'.tasks = st.tasks)
    (hw : st'.working = st.working) (hc : st'.completing = st.completing)
    (hp : st'.completions = st.completions) : st'.pendingIDs = st.pendingIDs := by
  unfold pendingIDs
  rw [ht, hw, hc, hp]

section

variable (st : SchedulerChannels)

/-- A call of `Complete` up to its send moves the task, or drops it. -/
theorem pendingIDs_complete {task : PollTask} (finishedAt : Time) (htask : task ∈ st.working) :
    (st.complete task finishedAt).pendingIDs.Subperm st.pendingIDs := by
  have hwork : (st.working.map taskID).Perm
      (taskID task :: (st.working.erase task).map taskID) :=
    (perm_cons_erase htask).map taskID
  cases hrun : st.running with
  | false =>
    simp only [complete, hrun, pendingIDs]
    refine (List.Subperm.refl _).append (List.Subperm.append ?_ (List.Subperm.refl _))
    exact (sublist_cons_self _ _).subperm.trans hwork.symm.subperm
  | true =>
    simp only [complete, hrun, pendingIDs]
    apply List.Perm.subperm
    apply List.Perm.append_left
    rw [if_pos trivial]
    -- the ID of the completion is the ID of the task
    show ((st.working.erase task).map taskID ++ (taskID task :: _)).Perm _
    exact perm_middle.trans (hwork.symm.append_right _)

theorem pendingIDs_send (hc : c ∈ st.completing) :
    (st.step (.send c)).pendingIDs.Perm st.pendingIDs := by
  have hcall : (st.completing.map completionID).Perm
      (completionID c :: (st.completing.erase c).map completionID) :=
    (perm_cons_erase hc).map completionID
  simp only [step, pendingIDs, map_append, map_cons, map_nil]
  apply List.Perm.append_left
  apply List.Perm.append_left
  have hend : ((st.completing.erase c).map completionID ++
      (st.completions.map completionID ++ [completionID c])).Perm
      (completionID c :: ((st.completing.erase c).map completionID ++
        st.completions.map completionID)) := by
    rw [← append_assoc]
    exact perm_append_singleton _ _
  exact hend.trans (hcall.symm.append_right _)

theorem pendingIDs_receive : (st.step .receive).pendingIDs.Perm st.pendingIDs := by
  simp only [step]
  cases htasks : st.tasks with
  | nil => exact List.Perm.refl _
  | cons task tasks =>
    simp only [pendingIDs, htasks, map_cons, cons_append]
    exact perm_middle

end

/-! ### One step -/

theorem outstanding_dispatched (tr : List Event) (sent : List PollTask) :
    outstanding (tr ++ sent.map .dispatched) = sent.reverse ++ outstanding tr := by
  induction sent using List.reverseRecOn with
  | nil => simp
  | append_singleton sent task ih =>
    rw [map_append, ← append_assoc, map_singleton, outstanding_concat, ih]
    simp [outstandingAfter]

theorem dispatchLimits_globalLimit_le (settings : WorkerSettings) :
    (dispatchLimits settings (bufferLimit defaultTaskBuffer defaultTaskBuffer)).globalLimit ≤
      defaultTaskBuffer := by
  have hbuf : bufferLimit defaultTaskBuffer defaultTaskBuffer = 128 := by decide
  rw [hbuf]
  simp only [dispatchLimits, defaultTaskBuffer]
  split <;> omega

section

variable (h : ChannelInv st tr) (hr : Scheduler.Reached st.scheduler tr)
include h hr

theorem ChannelInv.dispatch
    {limits : DispatchLimits} (hlimit : limits.globalLimit ≤ defaultTaskBuffer) (now : Time)
    (cancelAfter : Option Nat) (hst : st.scheduler.started = true) {sent : List PollTask}
    (hres : st.scheduler.dispatchReady limits now cancelAfter = (s', sent)) :
    ChannelInv { st with scheduler := s', tasks := st.tasks ++ sent }
      (tr ++ sent.map .dispatched) := by
  obtain ⟨hstarted, hrun, hle⟩ := dispatchReady_run limits hr.placed now cancelAfter
  have hafter : Scheduler.Reached s' (tr ++ sent.map .dispatched) := by
    refine hr.step ⟨.dispatch limits now cancelAfter, hst, ?_⟩
    simp [Scheduler.step, hres]
  rw [hres] at hstarted hrun hle
  dsimp only at hstarted hrun hle
  have hout := outstanding_dispatched tr sent
  have hflight := hafter.flightInv
  have hbefore := hr.flightInv
  have hsentRun : ∀ t ∈ sent, t.runID = s'.runID := by
    intro t ht
    apply hflight.current
    rw [hout]
    exact mem_append_left _ (mem_reverse.2 ht)
  have hpending : (pendingIDs
      { st with scheduler := s', tasks := st.tasks ++ sent }).Perm
      (sent.map taskID ++ st.pendingIDs) := by
    simp only [pendingIDs, map_append]
    rw [← append_assoc (sent.map taskID)]
    exact perm_append_comm.append_right _
  constructor
  · intro x hx
    show x.1 ≤ s'.runID
    rcases mem_append.1 (hpending.mem_iff.1 hx) with hx | hx
    · obtain ⟨t, ht, rfl⟩ := mem_map.1 hx
      exact (hsentRun t ht).le
    · rw [hrun]
      exact h.known x hx
  · intro t ht
    show s'.started = true ∧ t.runID = s'.runID
    rcases mem_append.1 ht with ht | ht
    · rw [hstarted, hrun]
      exact h.fresh t ht
    · exact ⟨hstarted.trans hst, hsentRun t ht⟩
  · -- the keys of all outstanding tasks are distinct, the new ones included
    have hkeys := hflight.keys
    rw [hout, map_append, nodup_append] at hkeys
    rw [hpending.nodup_iff, nodup_append]
    refine ⟨?_, h.nodup, ?_⟩
    · rw [map_reverse, nodup_reverse] at hkeys
      apply List.Nodup.of_map Prod.snd
      rw [map_map]
      exact hkeys.1
    · intro x hx y hy hxy
      obtain ⟨t, ht, rfl⟩ := mem_map.1 hx
      have hcurrent : y.1 = st.scheduler.runID := by
        rw [← hxy, ← hrun]
        exact hsentRun t ht
      obtain ⟨u, hu, rfl⟩ := mem_map.1 (h.sent hst y hy hcurrent)
      apply hkeys.2.2 t.key _ u.key _ (congrArg Prod.snd hxy)
      · exact mem_map_of_mem (mem_reverse.2 ht)
      · exact mem_map_of_mem hu
  · intro _ x hx hcurrent
    rw [hout, map_append]
    rcases mem_append.1 (hpending.mem_iff.1 hx) with hx | hx
    · rw [map_reverse]
      exact mem_append_left _ (mem_reverse.2 hx)
    · exact mem_append_right _ (h.sent hst x hx (hcurrent.trans hrun))
  · have hbound := h.bounded
    have hin := hflight.inFlight
    have hin' := hbefore.inFlight
    omega

omit hr in
theorem ChannelInv.accepted {rest : List Completion} (hst : st.scheduler.started = true)
    (hc : CompleteStep st.scheduler c s') (hperm : st.pendingIDs.Perm
      (completionID c :: pendingIDs { st with completions := rest })) :
    ChannelInv { st with scheduler := s', completions := rest }
      (tr ++ [.completed c.runID c.key]) := by
  have hnd := hperm.nodup_iff.1 h.nodup
  rw [nodup_cons] at hnd
  constructor
  · intro x hx
    show x.1 ≤ s'.runID
    rw [hc.runID]
    exact h.known x (hperm.mem_iff.2 (mem_cons_of_mem _ hx))
  · intro t ht
    show s'.started = true ∧ t.runID = s'.runID
    rw [hc.started, hc.runID]
    exact h.fresh t ht
  · exact hnd.2
  · intro _ x hx hcurrent
    obtain ⟨t, ht, rfl⟩ := mem_map.1 (h.sent hst x
      (hperm.mem_iff.2 (mem_cons_of_mem _ hx)) (hcurrent.trans hc.runID))
    apply mem_map_of_mem
    rw [outstanding_concat, outstandingAfter, mem_filter]
    refine ⟨ht, ?_⟩
    rw [decide_eq_true_eq]
    intro hsame
    -- the same task would be pending twice
    apply hnd.1
    rw [show completionID c = taskID t from Prod.ext hsame.1.symm hsame.2.symm]
    exact hx
  · rw [outstanding_concat, outstandingAfter]
    exact (length_filter_le _ _).trans h.bounded

theorem ChannelInv.handle (now : Time) (jitter : Duration) (hst : st.scheduler.started = true) :
    ChannelInv (st.step (.handle now jitter)) (tr ++ st.events (.handle now jitter)) := by
  simp only [step, events, criticalSection]
  cases hcs : st.completions with
  | nil =>
    simp only [List.head?_nil, Option.map_none, append_nil]
    exact h
  | cons c rest =>
    simp only [List.head?_cons, Option.map_some, Scheduler.step]
    have hperm : st.pendingIDs.Perm (completionID c :: pendingIDs
        { st with completions := rest }) := by
      simp only [pendingIDs, hcs, map_cons]
      rw [← append_assoc, ← append_assoc]
      refine perm_middle.trans ?_
      rw [append_assoc, append_assoc]
    have hrest : ChannelInv { st with completions := rest } tr :=
      h.moves rfl rfl ((sublist_cons_self _ _).subperm.trans hperm.symm.subperm)
        (List.Subset.refl _)
    rcases handleCompletion_cases hr.placed c now jitter with heq | ⟨s', heq, hc⟩
    · simp only [heq, Bool.false_eq_true, if_false, append_nil]
      exact hrest
    · simp only [heq, if_true]
      exact h.accepted hst hc hperm

omit h hr in
theorem locked_lists (st : SchedulerChannels) (op : Scheduler.Op)
    (hop : op = .stop → st.scheduler.started = false) :
    (st.locked op).scheduler = (st.scheduler.step op).1 ∧
      (st.locked op).tasks = st.tasks ∧ (st.locked op).working = st.working ∧
      (st.locked op).completing = st.completing ∧ (st.locked op).completions = st.completions := by
  cases op with
  | stop => simp [locked, hop rfl]
  | _ => exact ⟨rfl, rfl, rfl, rfl, rfl⟩

theorem ChannelInv.locked {op : Scheduler.Op} (hop : isLocked op = true) :
    ChannelInv (st.locked op) (tr ++ (st.scheduler.step op).2) := by
  have hchange := step_runChange hr.placed hop
  generalize hres : st.scheduler.step op = res at hchange ⊢
  obtain ⟨s', es⟩ := res
  cases hchange with
  | begins hstop hst' hrun =>
    obtain ⟨hs, ht, hw, hc, hp⟩ := locked_lists st op fun _ => hstop
    have hids := pendingIDs_congr ht hw hc hp
    rw [hres] at hs
    rw [append_nil]
    constructor
    · intro x hx
      rw [hids] at hx
      rw [hs, hrun]
      have hle := h.known x hx
      omega
    · intro t hmem
      rw [ht] at hmem
      rw [(h.fresh t hmem).1] at hstop
      cases hstop
    · rw [hids]
      exact h.nodup
    · -- what is left over belongs to earlier runs
      intro _ x hx hcurrent
      rw [hids] at hx
      rw [hs, hrun] at hcurrent
      have hle := h.known x hx
      omega
    · exact h.bounded
  | ends hst hst' hrun =>
    have hlocked : st.locked .stop =
        { st with scheduler := s', running := false, tasks := [], completions := [] } := by
      simp [SchedulerChannels.locked, hres, if_pos hst]
    have hids : (st.locked .stop).pendingIDs.Sublist st.pendingIDs := by
      rw [hlocked]
      simp only [pendingIDs, map_nil, append_nil, nil_append]
      exact ((sublist_append_left _ _).append_left _).trans (sublist_append_right _ _)
    constructor
    · intro x hx
      rw [hlocked]
      show x.1 ≤ s'.runID
      rw [hrun]
      exact h.known x (hids.subset hx)
    · rw [hlocked]
      intro t ht
      cases ht
    · exact h.nodup.sublist hids
    · rw [hlocked]
      intro hst
      cases hst'.symm.trans hst
    · rw [outstanding_concat]
      exact Nat.zero_le _
  | stays hne hst' hrun =>
    obtain ⟨hs, ht, hw, hc, hp⟩ := locked_lists st op hne
    have hids := pendingIDs_congr ht hw hc hp
    rw [hres] at hs
    rw [append_nil]
    exact h.moves (by rw [hs, hst']) (by rw [hs, hrun]) (hids ▸ .refl _) (ht ▸ List.Subset.refl _)

/-- Every step keeps the invariant. -/
theorem ChannelInv.step (hv : op.Valid st) : ChannelInv (st.step op) (tr ++ st.events op) := by
  -- a step outside the lock emits nothing
  have hmoves : st.events op = [] → (st.step op).scheduler = st.scheduler →
      (st.step op).pendingIDs.Subperm st.pendingIDs → (st.step op).tasks ⊆ st.tasks →
      ChannelInv (st.step op) (tr ++ st.events op) := by
    intro he hs hids htasks
    rw [he, append_nil]
    exact h.moves (congrArg _ hs) (congrArg _ hs) hids htasks
  cases op with
  | locked op => exact h.locked hr hv.2
  | dispatch settings now cancelAfter =>
    exact h.dispatch hr (dispatchLimits_globalLimit_le settings) now cancelAfter hv rfl
  | halt => exact hmoves rfl rfl (List.Subperm.refl _) (List.Subset.refl _)
  | receive =>
    apply hmoves rfl _ (pendingIDs_receive st).subperm
    · simp only [step]
      cases htasks : st.tasks with
      | nil => simp [htasks]
      | cons task tasks => exact subset_cons_self _ _
    · simp only [step]
      cases st.tasks <;> rfl
  | complete task finishedAt =>
    apply hmoves rfl _ (pendingIDs_complete st finishedAt hv)
    · simp only [step, complete]
      split <;> exact List.Subset.refl _
    · simp only [step, complete]
      split <;> rfl
  | send c => exact hmoves rfl rfl (pendingIDs_send st hv).subperm (List.Subset.refl _)
  | handle now jitter => exact h.handle hr now jitter hv

end

/-! ### Whole runs -/

theorem step_scheduler (st : SchedulerChannels) (hv : op.Valid st) :
    st.events op = [] ∧ (st.step op).scheduler = st.scheduler ∨
      Scheduler.Step st.scheduler (st.events op) (st.step op).scheduler := by
  cases op with
  | locked op =>
    right
    refine ⟨op, hv.1, Prod.ext ?_ rfl⟩
    show (st.scheduler.step op).1 = (st.locked op).scheduler
    cases op with
    | stop =>
      simp only [locked]
      split <;> rfl
    | _ => rfl
  | dispatch settings now cancelAfter =>
    exact .inr ⟨.dispatch (dispatchLimits settings (bufferLimit defaultTaskBuffer
      defaultTaskBuffer)) now cancelAfter, hv, rfl⟩
  | halt | send => exact .inl ⟨rfl, rfl⟩
  | receive =>
    left
    simp only [step]
    cases st.tasks <;> exact ⟨rfl, rfl⟩
  | complete task finishedAt =>
    left
    simp only [step, complete]
    split <;> exact ⟨rfl, rfl⟩
  | handle now jitter =>
    simp only [step, events, criticalSection]
    cases st.completions with
    | nil => exact .inl ⟨rfl, rfl⟩
    | cons c rest => exact .inr ⟨.complete c now jitter, hv, rfl⟩

theorem Reached.scheduler_inv (h : Reached st tr) :
    Scheduler.Reached st.scheduler tr ∧ ChannelInv st tr := by
  refine Run.invariant (P := fun st tr => Scheduler.Reached st.scheduler tr ∧ ChannelInv st tr)
    h ?_ ?_
  · intro st hst
    rw [hst]
    refine ⟨.init rfl, ?_⟩
    constructor <;> simp [pendingIDs, defaultTaskBuffer]
  · intro st tr es st' _ hP hstep
    obtain ⟨op, hv, rfl, rfl⟩ := hstep
    refine ⟨?_, hP.2.step hP.1 hv⟩
    rcases step_scheduler st hv with ⟨he, hs⟩ | hs
    · rw [he, hs, append_nil]
      exact hP.1
    · exact hP.1.step hs

theorem ChannelInv.length_le (h : ChannelInv st tr) {ids : List (Nat × TaskKey)}
    (hids : ids.Sublist st.pendingIDs)
    (hcur : ∀ x ∈ ids, st.scheduler.started = true ∧ x.1 = st.scheduler.runID) :
    ids.length ≤ defaultTaskBuffer := by
  cases hst : st.scheduler.started with
  | false =>
    -- nothing is current while the scheduler is stopped
    have hnil : ids = [] := by
      apply eq_nil_iff_forall_not_mem.2
      intro x hx
      rw [hst] at hcur
      exact absurd (hcur x hx).1 nofun
    rw [hnil]
    exact Nat.zero_le _
  | true =>
    have hsent : ids ⊆ (outstanding tr).map taskID := fun x hx =>
      h.sent hst x (hids.subset hx) (hcur x hx).2
    have hlen := ((h.nodup.sublist hids).subperm hsent).length_le
    rw [length_map] at hlen
    exact hlen.trans h.bounded

/-- In every run, the send of a task never waits. -/
theorem tasks_le (h : Reached st tr) : st.tasks.length ≤ defaultTaskBuffer := by
  have hinv := h.scheduler_inv.2
  rw [← length_map taskID]
  apply hinv.length_le (sublist_append_left _ _)
  intro x hx
  obtain ⟨t, ht, rfl⟩ := mem_map.1 hx
  exact hinv.fresh t ht

/-- A call of `Complete` sends while the run that dispatched its task is in progress. -/
def Timely (st : SchedulerChannels) : Op → Prop
  | .send c => st.scheduler.started = true ∧ c.runID = st.scheduler.runID
  | _ => True

/-- A step in which no completion outlives its run. -/
def TimelyStep (st : SchedulerChannels) (es : List Scheduler.Event) (st' : SchedulerChannels) :
    Prop :=
  ∃ op : Op, op.Valid st ∧ Timely st op ∧ es = st.events op ∧ st' = st.step op

/-- The completions in the channel are of the run in progress. -/
def Punctual (st : SchedulerChannels) : Prop :=
  ∀ c ∈ st.completions, st.scheduler.started = true ∧ c.runID = st.scheduler.runID

theorem Punctual.step (h : Punctual st) (hp : st.scheduler.Placed) (hv : op.Valid st)
    (ht : Timely st op) : Punctual (st.step op) := by
  cases op with
  | locked op =>
    have hchange := step_runChange hp hv.2
    show Punctual (st.locked op)
    generalize hres : st.scheduler.step op = res at hchange
    obtain ⟨s', es⟩ := res
    cases hchange with
    | begins hstop hst' hrun =>
      obtain ⟨-, -, -, -, hc⟩ := locked_lists st op fun _ => hstop
      intro c hmem
      rw [hc] at hmem
      rw [(h c hmem).1] at hstop
      cases hstop
    | ends hst hst' hrun =>
      have hnil : (st.locked .stop).completions = [] := by
        simp [locked, if_pos hst]
      intro c hmem
      rw [hnil] at hmem
      cases hmem
    | stays hne hst' hrun =>
      obtain ⟨hs, -, -, -, hc⟩ := locked_lists st op hne
      intro c hmem
      rw [hc] at hmem
      rw [hs, hres, hst', hrun]
      exact h c hmem
  | dispatch settings now cancelAfter =>
    intro c hmem
    obtain ⟨hst, hrun, -⟩ := dispatchReady_run
      (dispatchLimits settings (bufferLimit defaultTaskBuffer defaultTaskBuffer)) hp now cancelAfter
    obtain ⟨hcst, hcrun⟩ := h c hmem
    exact ⟨hst.trans hcst, hcrun.trans hrun.symm⟩
  | halt => exact h
  | receive =>
    simp only [step]
    cases st.tasks <;> exact h
  | complete task finishedAt =>
    simp only [step, complete]
    split <;> exact h
  | send c =>
    intro d hd
    rcases mem_append.1 hd with hd | hd
    · exact h d hd
    · rw [mem_singleton.1 hd]
      exact ht
  | handle now jitter =>
    simp only [step]
    cases hcs : st.completions with
    | nil => exact h
    | cons c rest =>
      intro d hd
      obtain ⟨hdst, hdrun⟩ := h d (by rw [hcs]; exact mem_cons_of_mem c hd)
      show (st.scheduler.handleCompletion c now jitter).1.started = true ∧
        d.runID = (st.scheduler.handleCompletion c now jitter).1.runID
      rcases handleCompletion_cases hp c now jitter with heq | ⟨s', heq, hc⟩
      · rw [heq]
        exact ⟨hdst, hdrun⟩
      · rw [heq]
        exact ⟨hc.started.trans hdst, hdrun.trans hc.runID.symm⟩

theorem timely_reached (h : Run (· = ({} : SchedulerChannels)) TimelyStep st tr) : Reached st tr :=
  h.mono fun _ _ _ ⟨op, hv, _, he, hs⟩ => ⟨op, hv, he, hs⟩

/-! ### A task of every run -/

/-- A router whose probe settings change, so that its essential task is due at once. -/
def router : Device := { id := 1, ip := "10.0.0.1", deviceType := .router, managed := true }

def routerSettings : WorkerSettings where
  budgets _ := 10
  policy := ⟨4, 4, 4, 4⟩
  essentialWorkers := 10

def routerLimits : DispatchLimits :=
  dispatchLimits routerSettings (bufferLimit defaultTaskBuffer defaultTaskBuffer)

/-- The essential item of the router in a ready queue. -/
def routerItem : HeapItem :=
  { HeapItem.fresh (essentialShape 1) router second (essentialInterval router) with queued := true }

/-- A stopped scheduler, with whatever items earlier runs left behind. -/
def idle (store : ItemRef → HeapItem) (n r : Nat) : Scheduler :=
  { store := store, nextRef := n, runID := r }

/-- The scheduler in its run `r` with the router's essential task ready. -/
def routerReady (store : ItemRef → HeapItem) (n r : Nat) : Scheduler :=
  { store := update store n routerItem, nextRef := n + 1, runID := r, started := true
    items := FMap.insert ∅ (newEssentialTaskKey 1) n
    ready := update (fun _ => []) 0 [n] }

section

variable (store : ItemRef → HeapItem) (n r : Nat)

theorem idle_redue :
    ({ idle store n r with started := true }.step (.redueEssential router true second second)).1 =
      routerReady store n r := by
  have hallowed : redueAllowed router true = true := by decide +kernel
  have hchanged : Time.isZero second = false := by decide
  have hnew : (∅ : FMap TaskKey ItemRef).get (essentialShape router.id).key = none := rfl
  have hqueued : (HeapItem.fresh (essentialShape router.id) router second
      (essentialInterval router)).queued = false := rfl
  simp only [Scheduler.step, handleRedueEssentialTask, idle, hallowed, hchanged, if_true, redueItem,
    hnew, alloc, pushReadyFront, enqueueWith, Scheduler.modify, update_self, hqueued,
    Bool.false_eq_true, if_false, update_idem]
  rfl

theorem routerReady_scan : scanQueue routerLimits .essential (routerReady store n r) {} 0 [n] =
      (routerReady store n r, {}, some (0, n)) := by
  have hnormal : normalizeTask routerItem.task = routerItem.task := by decide +kernel
  have hkeep : (routerReady store n r).modify n
      (fun item => { item with task := normalizeTask item.task }) = routerReady store n r := by
    simp [routerReady, Scheduler.modify, update_idem, hnormal]
  have htask : ((routerReady store n r).store n).task = routerItem.task := by
    simp [routerReady]
  -- nothing is in flight, so no limit blocks the task
  have hblock : (routerReady store n r).dispatchBlockWithLimits routerItem.task routerLimits =
      none := by
    show Scheduler.dispatchBlockWithLimits {} routerItem.task routerLimits = none
    decide +kernel
  have hskip : skipsKind .essential routerItem.task = false := by decide
  have hknown : DispatchScanState.isKnownBlocked {} routerItem.task = false := by decide
  simp [scanQueue, hkeep, htask, hskip, hknown, hblock]

theorem routerReady_dispatch : ∃ task rest,
    ((routerReady store n r).dispatchReady routerLimits second none).2 = task :: rest := by
  have hsome : (routerReady store n r).readyQueuesEmpty = false := rfl
  have hfuel : (routerReady store n r).readyEntries.length = 1 := rfl
  have hready : (routerReady store n r).ready 0 = [n] := rfl
  have henabled : ((routerReady store n r).store n).disabled = false := by
    simp only [routerReady, update_self]
    rfl
  have hzero : (routerReady store n r).inFlight = 0 := rfl
  have hlimit : ¬routerLimits.globalLimit ≤ 0 := by decide
  simp only [dispatchReady, hsome, hfuel, if_false, Bool.false_eq_true, dispatchLoop, hzero, hlimit,
    popReadyEligible, popReadyKinds, popReadyEligibleKind, popFromQueues, hready, routerReady_scan,
    Scheduler.modify, update_self, henabled]
  exact ⟨_, _, rfl⟩

end

/-- From a stopped scheduler a new run can begin in which a worker completes one task and its
call of `Complete` is about to send. -/
theorem router_completes {store : ItemRef → HeapItem} {n r : Nat} {cs ds : List Completion}
    (h : Run (· = ({} : SchedulerChannels)) TimelyStep
      { scheduler := idle store n r, completing := cs, completions := ds } tr) :
    ∃ s' tasks c tr', s'.started = true ∧ c.runID = s'.runID ∧
      Run (· = ({} : SchedulerChannels)) TimelyStep
        { scheduler := s', running := true, tasks := tasks, completing := c :: cs
          completions := ds } tr' := by
  have hstart := h.step ⟨.locked (.start (some []) second []),
    ⟨⟨nodup_nil, rfl⟩, rfl⟩, trivial, rfl, rfl⟩
  have hstate : step
      { scheduler := idle store n r, completing := cs, completions := ds }
      (.locked (.start (some []) second [])) =
      { scheduler := { idle store n (r + 1) with started := true }, running := true,
        completing := cs, completions := ds } := rfl
  rw [hstate] at hstart
  have hredue := hstart.step ⟨.locked (.redueEssential router true second second),
    ⟨rfl, rfl⟩, trivial, rfl, rfl⟩
  simp only [step, locked, idle_redue] at hredue
  obtain ⟨task, rest, hsent⟩ := routerReady_dispatch store n (r + 1)
  have hdispatch : Run (· = ({} : SchedulerChannels)) TimelyStep
      { scheduler := ((routerReady store n (r + 1)).dispatchReady routerLimits second none).1,
        running := true,
        tasks := [] ++ ((routerReady store n (r + 1)).dispatchReady routerLimits second none).2,
        completing := cs, completions := ds } _ :=
    hredue.step ⟨.dispatch routerSettings second none, rfl, trivial, rfl, rfl⟩
  rw [hsent, nil_append] at hdispatch
  generalize ((routerReady store n (r + 1)).dispatchReady routerLimits second none).1 = s'
    at hdispatch
  have hfresh := (timely_reached hdispatch).scheduler_inv.2.fresh task mem_cons_self
  have hreceive := hdispatch.step ⟨.receive, trivial, trivial, rfl, rfl⟩
  have hcomplete := hreceive.step ⟨.complete task second, mem_cons_self, trivial, rfl, rfl⟩
  simp only [step, complete, if_true, erase_cons_head] at hcomplete
  exact ⟨s', rest, completionOf task second, _, hfresh.1, hfresh.2, hcomplete⟩

/-- Each of any number of runs can leave a call of `Complete` that did not send yet. -/
theorem calls_left (k : Nat) : ∃ store n r cs tr, cs.length = k ∧
    Run (· = ({} : SchedulerChannels)) TimelyStep
      { scheduler := idle store n r, completing := cs } tr := by
  induction k with
  | zero => exact ⟨_, 0, 0, [], [], rfl, .init rfl⟩
  | succ k ih =>
    obtain ⟨store, n, r, cs, tr, hlen, hrun⟩ := ih
    obtain ⟨s', tasks, c, tr', hst, -, hnext⟩ := router_completes hrun
    have hstop := hnext.step ⟨.locked .stop, ⟨trivial, rfl⟩, trivial, rfl, rfl⟩
    simp only [step, locked, Scheduler.step, hst, if_true] at hstop
    exact ⟨s'.store, s'.nextRef, s'.runID, c :: cs, _, by simp [hlen], hstop⟩

/-- The calls of `Complete` that are left send one after the other. -/
theorem calls_send (cs : List Completion) {ds : List Completion}
    (h : Reached { scheduler := s, completing := cs, completions := ds } tr) :
    ∃ tr', Reached { scheduler := s, completions := ds ++ cs } tr' := by
  induction cs generalizing ds tr with
  | nil =>
    rw [append_nil]
    exact ⟨tr, h⟩
  | cons c cs ih =>
    have hsend := h.step ⟨.send c, mem_cons_self, rfl, rfl⟩
    simp only [step, erase_cons_head] at hsend
    obtain ⟨tr', hrun⟩ := ih hsend
    rw [append_assoc] at hrun
    exact ⟨tr', hrun⟩

/-! ### Sends -/

/-- While no completion outlives its run, neither channel ever holds more than its capacity:
the sends of `dispatchReady` and of `Complete` do not wait. -/
theorem sends_never_wait {st : SchedulerChannels} {tr : List Event}
    (h : Run (· = ({} : SchedulerChannels)) TimelyStep st tr) :
    st.tasks.length ≤ defaultTaskBuffer ∧ st.completions.length ≤ defaultTaskBuffer := by
  have hpunctual : Punctual st := by
    refine Run.invariant (P := fun st _ => Punctual st) h ?_ ?_
    · intro st hst c hc
      rw [hst] at hc
      cases hc
    · intro st tr es st' hrun hP hstep
      obtain ⟨op, hv, ht, -, rfl⟩ := hstep
      exact hP.step (timely_reached hrun).scheduler_inv.1.placed hv ht
  refine ⟨tasks_le (timely_reached h), ?_⟩
  rw [← length_map completionID]
  apply (timely_reached h).scheduler_inv.2.length_le
  · exact ((sublist_append_right _ _).trans (sublist_append_right _ _)).trans
      (sublist_append_right _ _)
  · intro x hx
    obtain ⟨c, hc, rfl⟩ := mem_map.1 hx
    exact hpunctual c hc

theorem sends_never_wait_router : ∃ st tr, Run (· = ({} : SchedulerChannels)) TimelyStep st tr ∧
    st.completions.length = 1 ∧ st.tasks.length ≤ defaultTaskBuffer ∧
    st.completions.length ≤ defaultTaskBuffer := by
  have hnew : Run (· = ({} : SchedulerChannels)) TimelyStep
      { scheduler := idle (fun _ => HeapItem.unallocated) 0 0 } [] := .init rfl
  obtain ⟨s', tasks, c, tr, hst, hrun, hcall⟩ := router_completes hnew
  have hsend := hcall.step ⟨.send c, mem_cons_self, ⟨hst, hrun⟩, rfl, rfl⟩
  exact ⟨_, _, hsend, rfl, sends_never_wait hsend⟩

/-- Calls of `Complete` that found the scheduler running, each in its run, and that send after
the last `Stop` drained the channel: more of them than the channel has places, and no run loop
to receive. -/
theorem late_completions_wait : ∃ st tr, Reached st tr ∧ st.scheduler.started = false ∧
    st.running = false ∧ defaultTaskBuffer < st.completions.length := by
  obtain ⟨store, n, r, cs, tr, hlen, hrun⟩ := calls_left (defaultTaskBuffer + 1)
  obtain ⟨tr', hsent⟩ := calls_send cs (timely_reached hrun)
  refine ⟨_, tr', hsent, rfl, rfl, ?_⟩
  simp [hlen]

end SchedulerChannels

end Theia
