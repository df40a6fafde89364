import Theia.Spec.SchedulerRun

/-!
# Every scheduled task lives in exactly one place

The placement invariant of `Spec/SchedulerPlacement` in the scheduler's own terms (heap, ready
slices, flags), what it says about a history of dispatches and completions, and that no step
loses an enabled task.
-/

namespace Theia.Scheduler

open List HeapInterface

variable {s : Scheduler} {k : TaskKey} {tr : List Event}

/-! ### One place -/

/-- Exactly one of three propositions holds. -/
def ExactlyOne (a b c : Prop) : Prop := (a ∧ ¬b ∧ ¬c) ∨ (¬a ∧ b ∧ ¬c) ∨ (¬a ∧ ¬b ∧ c)

/-- Every item is in exactly one of the due heap, one slot of one ready queue, or in flight. The
heap is ordered by due time and its items know their position, queued items are marked, and the
heap and the queues hold only the current item of a key. -/
structure OnePlace (s : Scheduler) : Prop where
  place : ∀ k r, s.items.get k = some r →
    ExactlyOne (r ∈ s.heap) (∃ p, r ∈ s.ready p) ((s.store r).inFlight = true)
  heapIndex : ∀ (i : Nat) (r : ItemRef), s.heap[i]? = some r → (s.store r).index = i
  heapOrdered : ∀ c, 0 < c → c < s.heap.length →
    (s.heapItemAt ((c - 1) / 2)).dueAt ≤ (s.heapItemAt c).dueAt
  readySlot : ∀ p r, r ∈ s.ready p →
    (s.store r).queued = true ∧ (s.ready p).count r = 1 ∧ ∀ p', r ∈ s.ready p' → p' = p
  current : ∀ r, (r ∈ s.heap ∨ ∃ p, r ∈ s.ready p) → s.items.get (s.store r).task.key = some r

theorem ready_slot_unique (h : s.readyEntries.Nodup) {p p' : Fin 3} {r : ItemRef}
    (hp : r ∈ s.ready p) (hp' : r ∈ s.ready p') : p' = p := by
  simp only [readyEntries, nodup_append', disjoint_left, mem_append] at h
  obtain ⟨⟨-, -, h01⟩, -, h2⟩ := h
  have h01 := @h01 r
  have h2 := @h2 r
  fin_cases p <;> fin_cases p' <;> simp_all

theorem ready_nodup (h : s.readyEntries.Nodup) (p : Fin 3) : (s.ready p).Nodup := by
  simp only [readyEntries, nodup_append'] at h
  obtain ⟨⟨h0, h1, -⟩, h2, -⟩ := h
  fin_cases p
  · exact h0
  · exact h1
  · exact h2

theorem Placed.onePlace (h : s.Placed) : OnePlace s where
  place k r hr := by
    obtain ⟨p, hp, hheld⟩ := PlacedAt.place h k r hr
    unfold ExactlyOne
    rw [hp.mem_heap_iff, ← mem_readyEntries, hp.mem_ready_iff, hp.inFlight_iff]
    -- nothing is held between two critical sections
    cases p with
    | held => exact absurd (hheld.1 rfl) (by simp)
    | heap | ready | flight => simp
  heapIndex := h.heapOK.index_eq
  heapOrdered c hc hcn := h.heapOK.dueAt_le hc hcn
  readySlot p r hr := by
    have hmem : r ∈ s.readyEntries := mem_readyEntries.2 ⟨p, hr⟩
    obtain ⟨k, hk⟩ := h.readyCurrent r hmem
    obtain ⟨pl, hpl, -⟩ := PlacedAt.place h k r hk
    refine ⟨?_, ?_, fun p' hp' => ready_slot_unique h.readyNodup hr hp'⟩
    · rw [hpl.queued_iff, ← hpl.mem_ready_iff]
      exact hmem
    · exact count_eq_one_of_mem (ready_nodup h.readyNodup p) hr
  current r hr := by
    have hcur : ∃ k, s.items.get k = some r := by
      rcases hr with hr | hr
      · exact h.heapCurrent r hr
      · exact h.readyCurrent r (mem_readyEntries.2 hr)
    obtain ⟨k, hk⟩ := hcur
    rw [(h.shape k r hk).key]
    exact hk

/-! ### Outstanding work -/

/-- What an event does to the tasks sent and not yet completed. -/
def outstandingAfter (sent : List PollTask) : Event → List PollTask
  | .dispatched task => task :: sent
  | .completed runID key => sent.filter fun t => ¬(t.runID = runID ∧ t.key = key)
  | .stopped => []

/-- The tasks of a history that were dispatched in the current run and not yet completed. -/
def outstanding (tr : List Event) : List PollTask := tr.foldl outstandingAfter []

@[simp] theorem outstanding_nil : outstanding [] = [] := rfl

@[simp] theorem outstanding_concat (tr : List Event) (e : Event) :
    outstanding (tr ++ [e]) = outstandingAfter (outstanding tr) e := by
  simp [outstanding]

theorem mem_outstanding {task : PollTask} (a b : List Event) (hstop : .stopped ∉ b)
    (hdone : .completed task.runID task.key ∉ b) :
    task ∈ outstanding (a ++ .dispatched task :: b) := by
  induction b using List.reverseRecOn with
  | nil =>
    simp [outstandingAfter]
  | append_singleton b e ih =>
    rw [mem_append, not_or, mem_singleton] at hstop hdone
    have ih := ih hstop.1 hdone.1
    rw [← cons_append, ← append_assoc, outstanding_concat]
    cases e with
    | dispatched t => exact mem_cons_of_mem t ih
    | completed runID key =>
      refine mem_filter.2 ⟨ih, ?_⟩
      rw [decide_eq_true_eq]
      intro hsame
      exact hdone.2 (by rw [hsame.1, hsame.2])
    | stopped => exact absurd rfl hstop.2

/-- Between two dispatches of a key in one run the first of them was completed. -/
def DispatchedOnce (tr : List Event) : Prop :=
  ∀ a t b t' c, tr = a ++ .dispatched t :: b ++ .dispatched t' :: c → t.key = t'.key →
    .stopped ∉ b → .completed t.runID t.key ∈ b

/-- The task is in flight in the run it was dispatched in. -/
def InFlightAs (s : Scheduler) (t : PollTask) : Prop :=
  ∃ item, s.flight t.key = some item ∧ item.runID = t.runID

theorem InFlightAs.kept {w : Effects} {s' : Scheduler} {t : PollTask} (h : s.InFlightAs t)
    (hk : FlightKept w t.key (s.flight t.key) (s'.flight t.key)) : s'.InFlightAs t := by
  obtain ⟨item, hitem, hrun⟩ := h
  rw [hitem] at hk
  cases hf : s'.flight t.key with
  | none =>
    rw [hf] at hk
    exact hk.elim
  | some item' =>
    rw [hf] at hk
    exact ⟨item', hf, hk.1.trans hrun⟩

theorem FlightKept.isSome_of {w : Effects} {x y : Option HeapItem} (h : FlightKept w k x y)
    {b : HeapItem} (hy : y = some b) : ∃ a, x = some a := by
  apply Option.ne_none_iff_exists'.1
  rw [Ne, h.eq_none_iff, hy]
  exact nofun

theorem flight_eq_some {item : HeapItem} (h : s.flight k = some item) :
    ∃ r, s.items.get k = some r ∧ (s.store r).inFlight = true ∧ s.store r = item := by
  obtain ⟨r, hr, hitem⟩ := Option.bind_eq_some_iff.1 h
  split at hitem
  · next hin => exact ⟨r, hr, hin, Option.some.inj hitem⟩
  · cases hitem

theorem flight_shaped (h : s.Placed) {item : HeapItem} (hf : s.flight k = some item) :
    Shaped k item.task := by
  obtain ⟨r, hr, -, rfl⟩ := flight_eq_some hf
  exact PlacedAt.shape h k r hr

theorem outstanding_completed {tasks : List PollTask} (hkeys : (tasks.map PollTask.key).Nodup)
    {t : PollTask} (ht : t ∈ tasks) :
    tasks.Perm (t :: outstandingAfter tasks (.completed t.runID t.key)) := by
  have herase : outstandingAfter tasks (.completed t.runID t.key) = tasks.erase t := by
    rw [List.Nodup.erase_eq_filter hkeys.of_map, outstandingAfter]
    apply filter_congr
    intro u hu
    by_cases hut : u = t
    · simp [hut]
    · have hne : u.key ≠ t.key := fun hk => hut (inj_on_of_nodup_map hkeys hu ht hk)
      simp [hut, hne]
  rw [herase]
  exact perm_cons_erase ht

/-- The outstanding tasks of a history are the tasks in flight, all of the current run. -/
structure FlightInv (s : Scheduler) (tr : List Event) : Prop where
  flies : ∀ t ∈ outstanding tr, s.InFlightAs t
  sent : ∀ k item, s.flight k = some item → ∃ t ∈ outstanding tr, t.key = k
  keys : ((outstanding tr).map PollTask.key).Nodup
  inFlight : s.inFlight = (outstanding tr).length
  current : ∀ t ∈ outstanding tr, t.runID = s.runID
  stopped : s.started = false → outstanding tr = []
  shaped : ∀ t ∈ outstanding tr, Shaped t.key t

section Flight

variable {R : TaskKey → Prop} {w : Effects} {s s' : Scheduler} {tr : List Event} {task : PollTask}
  {c : Completion}

theorem FlightInv.of_nil (hflight : ∀ k, s.flight k = none) (hcount : s.inFlight = 0)
    (hout : outstanding tr = []) : FlightInv s tr := by
  constructor <;> simp [hout, hflight, hcount]

theorem FlightInv.quiet (hP : FlightInv s tr) (hq : Quiet R w s s') : FlightInv s' tr := by
  obtain ⟨hst, hinf, -, -, hrun⟩ := counters_eq_iff hq.frame
  constructor
  · intro t ht
    exact (hP.flies t ht).kept (hq.flights t.key)
  · intro k b hf
    obtain ⟨a, ha⟩ := (hq.flights k).isSome_of hf
    exact hP.sent k a ha
  · exact hP.keys
  · rw [hinf, hP.inFlight]
  · rw [hrun]
    exact hP.current
  · rw [hst]
    exact hP.stopped
  · exact hP.shaped

theorem FlightInv.new_key (hP : FlightInv s tr) (hd : DispatchStep s task s') :
    ∀ t ∈ outstanding tr, t.key ≠ task.key := by
  intro t ht heq
  obtain ⟨item, hitem, -⟩ := hP.flies t ht
  rw [heq, hd.before] at hitem
  cases hitem

theorem FlightInv.dispatch (hst : s.started = true) (hP : FlightInv s tr)
    (hd : DispatchStep s task s') : FlightInv s' (tr ++ [.dispatched task]) := by
  have hout : outstanding (tr ++ [.dispatched task]) = task :: outstanding tr :=
    outstanding_concat tr _
  obtain ⟨item, hitem, htask, hrun⟩ := hd.after
  constructor
  · rw [hout, forall_mem_cons]
    refine ⟨⟨item, hitem, hrun.trans hd.taskRunID.symm⟩, fun t ht => ?_⟩
    exact (hP.flies t ht).kept (hd.others t.key (hP.new_key hd t ht))
  · intro k item' hf
    rw [hout]
    by_cases hk : k = task.key
    · exact ⟨task, mem_cons_self, hk.symm⟩
    · obtain ⟨a, ha⟩ := (hd.others k hk).isSome_of hf
      obtain ⟨t, ht, hkey⟩ := hP.sent k a ha
      exact ⟨t, mem_cons_of_mem _ ht, hkey⟩
  · rw [hout, map_cons, nodup_cons]
    refine ⟨fun hmem => ?_, hP.keys⟩
    obtain ⟨t, ht, hkey⟩ := mem_map.1 hmem
    exact hP.new_key hd t ht hkey
  · rw [hout, hd.inFlight, hP.inFlight, length_cons]
    rfl
  · rw [hout, hd.runID, forall_mem_cons]
    exact ⟨hd.taskRunID, hP.current⟩
  · intro hs'
    rw [hd.started, hst] at hs'
    cases hs'
  · rw [hout, forall_mem_cons]
    exact ⟨htask ▸ flight_shaped hd.placed (htask.symm ▸ hitem), hP.shaped⟩

theorem CompleteStep.outstanding (hP : FlightInv s tr) (hc : CompleteStep s c s') :
    ∃ t ∈ outstanding tr, t.key = c.key ∧ t.runID = c.runID ∧
      (Scheduler.outstanding tr).Perm
        (t :: Scheduler.outstanding (tr ++ [.completed c.runID c.key])) ∧
      ∀ u ∈ Scheduler.outstanding (tr ++ [.completed c.runID c.key]),
        u ∈ Scheduler.outstanding tr ∧ u.key ≠ c.key := by
  obtain ⟨item, hitem, hrun, -⟩ := hc.item
  obtain ⟨t, ht, hkey⟩ := hP.sent c.key item hitem
  obtain ⟨item', hitem', hrun'⟩ := hP.flies t ht
  rw [hkey, hitem] at hitem'
  cases hitem'
  have hperm := outstanding_completed hP.keys ht
  have hnd := (hperm.map PollTask.key).nodup_iff.1 hP.keys
  rw [map_cons, nodup_cons] at hnd
  rw [outstanding_concat, ← hrun, hrun', ← hkey]
  refine ⟨t, ht, rfl, rfl, hperm, fun u hu => ?_⟩
  refine ⟨hperm.mem_iff.2 (mem_cons_of_mem t hu), fun hk => ?_⟩
  exact hnd.1 (mem_map.2 ⟨u, hu, hk⟩)

theorem FlightInv.complete (hst : s.started = true) (hP : FlightInv s tr)
    (hc : CompleteStep s c s') : FlightInv s' (tr ++ [.completed c.runID c.key]) := by
  obtain ⟨t, -, hkey, -, hperm, hrest⟩ := hc.outstanding hP
  constructor
  · intro u hu
    obtain ⟨hu, hne⟩ := hrest u hu
    exact (hP.flies u hu).kept (hc.others u.key hne)
  · intro k b hf
    by_cases hk : k = c.key
    · rw [hk, hc.after] at hf
      cases hf
    obtain ⟨a, ha⟩ := (hc.others k hk).isSome_of hf
    obtain ⟨u, hu, hukey⟩ := hP.sent k a ha
    refine ⟨u, ?_, hukey⟩
    rcases mem_cons.1 (hperm.mem_iff.1 hu) with rfl | hu
    · exact absurd (hukey.symm.trans hkey) hk
    · exact hu
  · have hnd := (hperm.map PollTask.key).nodup_iff.1 hP.keys
    exact (nodup_cons.1 hnd).2
  · have hlen := hperm.length_eq
    rw [length_cons] at hlen
    rw [hc.inFlight, hP.inFlight, hlen]
    omega
  · intro u hu
    rw [hc.runID]
    exact hP.current u (hrest u hu).1
  · intro hs'
    rw [hc.started, hst] at hs'
    cases hs'
  · exact fun u hu => hP.shaped u (hrest u hu).1

theorem FlightInv.start (hst : s.started = false) (hP : FlightInv s tr) :
    FlightInv s.beginRun tr := by
  -- a stopped scheduler has nothing outstanding
  have hnil := hP.stopped hst
  have hnone : ∀ t, t ∉ outstanding tr := by simp [hnil]
  exact { hP with current := fun t ht => absurd ht (hnone t), stopped := fun _ => hnil }

theorem FlightInv.stop : FlightInv s.resetRuntimeState (tr ++ [.stopped]) :=
  .of_nil (fun _ => rfl) rfl (outstanding_concat tr _)

theorem flightInv_new : FlightInv {} [] := .of_nil (fun _ => rfl) rfl rfl

end Flight

/-- No task was sent while its key was outstanding. -/
structure SentOnce (s : Scheduler) (tr : List Event) : Prop extends FlightInv s tr where
  once : ∀ a t', a ++ [.dispatched t'] <+: tr → ∀ t ∈ outstanding a, t.key ≠ t'.key

theorem SentOnce.once_concat (h : SentOnce s tr) {e : Event}
    (he : ∀ t', e = .dispatched t' → ∀ t ∈ outstanding tr, t.key ≠ t'.key) :
    ∀ a t', a ++ [.dispatched t'] <+: tr ++ [e] → ∀ t ∈ outstanding a, t.key ≠ t'.key := by
  intro a t' hpre
  rcases prefix_concat_iff.1 hpre with heq | hpre
  · obtain ⟨ha, he'⟩ := append_inj' heq rfl
    rw [ha]
    exact he t' (List.cons.inj he').1.symm
  · exact h.once a t' hpre

theorem sentOnce_rules : StepRules (fun _ => True) (fun _ _ => True) SentOnce where
  allowed_nil _ := trivial
  allowed_begin _ := trivial
  quiet _ hP _ hq := ⟨hP.quiet hq, hP.once⟩
  dispatch hst _ hP hd := by
    refine ⟨hP.dispatch hst hd, hP.once_concat fun t' he => ?_⟩
    cases he
    exact hP.new_key hd
  complete hst _ hP hc := ⟨hP.complete hst hc, hP.once_concat fun t' he => nomatch he⟩
  start hst hP := ⟨hP.start hst, hP.once⟩
  stop _ hP := ⟨.stop, hP.once_concat fun t' he => nomatch he⟩

theorem Reached.unrestricted (h : Reached s tr) :
    Run IsNew (fun s es s' => ∃ op : Op, op.Valid s ∧ True ∧ s.step op = (s', es)) s tr :=
  h.mono fun _ _ _ ⟨op, hv, hstep⟩ => ⟨op, hv, trivial, hstep⟩

theorem Reached.sentOnce (h : Reached s tr) : SentOnce s tr :=
  sentOnce_rules.run ⟨flightInv_new, fun a t' hpre => by simp at hpre⟩ h.unrestricted

theorem Reached.flightInv (h : Reached s tr) : FlightInv s tr :=
  h.sentOnce.toFlightInv

theorem SentOnce.dispatchedOnce (h : SentOnce s tr) : DispatchedOnce tr := by
  intro a t b t' c htr hkey hstop
  by_contra hdone
  have hopen := mem_outstanding a b hstop hdone
  refine h.once (a ++ .dispatched t :: b) t' ⟨c, ?_⟩ t hopen hkey
  rw [htr]
  simp

/-! ### No lost task -/

/-- The step takes the key out of the schedule: the run ends, or the device rows it was given no
longer ask for the task. -/
def Op.Unschedules (k : TaskKey) : Op → Prop
  | .stop => True
  | .start (some devices) _ _ | .refresh (some devices) _ _ => k ∉ seenKeys devices
  | .reconcile device included _ _ _ => k.deviceID = device.id ∧
      ¬((included && shouldScheduleRecurringDevice device) ∧ k ∈ scheduledKeys device)
  | _ => False

theorem scheduled_rules (k : TaskKey) :
    StepRules (fun _ => True) (fun _ w => .retire k ∉ w) (fun s tr => s.Scheduled k ∨ .stopped ∈ tr) where
  allowed_nil _ := by simp
  allowed_begin h := h
  quiet _ hP hA hq := hP.imp_left fun h => hq.scheduled hA h
  dispatch _ _ hP hd := by
    rcases hP with ⟨r, hr, hdis⟩ | hP
    · exact .inl ⟨r, hd.enabled k r hr hdis⟩
    · exact .inr (mem_append_left _ hP)
  complete _ _ hP hc := by
    rcases hP with ⟨r, hr, hdis⟩ | hP
    · exact .inl ⟨r, hc.enabled k r hr hdis⟩
    · exact .inr (mem_append_left _ hP)
  start _ hP := hP
  stop _ _ := .inr (by simp)

/-- A retired key is one that the step unschedules, or one that a reconciliation schedules
again. -/
theorem unschedules_of_retire {op : Op} (h : .retire k ∈ op.effects) :
    op.Unschedules k ∨ ∃ device changedAt now order,
      op = .reconcile device true changedAt now order ∧
        shouldScheduleRecurringDevice device = true ∧ k ∈ scheduledKeys device := by
  have hseen : ∀ devices order, .retire k ∈ refreshEffects devices order → k ∉ seenKeys devices := by
    intro devices order hmem
    simp only [refreshEffects, refreshWrites, deviceWrites, dropEffects, mem_append,
      mem_flatMap] at hmem
    rcases hmem with ⟨device, -, hmem⟩ | ⟨key, -, hmem⟩
    · split at hmem <;> simp at hmem
    · split at hmem
      · simp at hmem
      · simp only [mem_singleton, Effect.retire.injEq] at hmem
        rwa [hmem]
  cases op with
  | start devices now order | refresh devices now order =>
    cases devices with
    | none => simp [Op.effects] at h
    | some devices => exact .inl (hseen devices order h)
  | reconcile device included changedAt now order =>
    simp only [Op.effects, reconcileEffects, deviceWrites, removeEffects, mem_append,
      mem_flatMap] at h
    have hid : k.deviceID = device.id := by
      rcases h with ⟨key, -, hmem⟩ | hmem
      · split_ifs at hmem with hid
        · simp only [mem_singleton, Effect.retire.injEq] at hmem
          rw [hmem, hid]
        · simp at hmem
      · split at hmem <;> simp at hmem
    by_cases hagain : (included && shouldScheduleRecurringDevice device) ∧ k ∈ scheduledKeys device
    · rw [Bool.and_eq_true] at hagain
      obtain ⟨⟨rfl, hs⟩, hk⟩ := hagain
      exact .inr ⟨device, changedAt, now, order, rfl, hs, hk⟩
    · exact .inl ⟨hid, hagain⟩
  | reduePerformance device included changedAt now =>
    simp only [Op.effects, reduePerformanceWrites] at h
    split at h
    · split at h <;> simp at h
    · simp at h
  | redueEssential device included changedAt now =>
    simp only [Op.effects, redueEssentialWrites] at h
    split at h <;> simp at h
  | stop => exact .inl trivial
  | move | dispatch | complete => simp [Op.effects] at h

/-- Only `Stop` ends a run. -/
theorem stop_of_mem_step {op : Op} (h : .stopped ∈ (s.step op).2) : op = .stop := by
  cases op with
  | stop => rfl
  | start | complete =>
    simp only [step] at h
    split at h <;> simp at h
  | _ => simp [step] at h

theorem step_scheduled (h : s.Placed) (op : Op) (hv : op.Valid s) (hop : ¬op.Unschedules k)
    (hk : s.Scheduled k) : (s.step op).1.Scheduled k := by
  by_cases hret : .retire k ∈ op.effects
  · -- only a reconciliation retires a key that it does not unschedule: it schedules it again
    rcases unschedules_of_retire hret with hun | ⟨device, changedAt, now, order, rfl, hs, hmem⟩
    · exact absurd hun hop
    · have hq := removeDeviceTasksLocked_quiet (R := fun _ => True) h device.id order
      simp only [step, reconcileDeviceTasks, Bool.true_and, hs, if_true]
      exact (scheduleRecurringDeviceLocked_ensures (R := fun _ => True) hq.placed device _).scheduled
        k hmem
  · have hstep := (@StepRules.step _ _ _ s [] (scheduled_rules k) op hv hret (fun _ _ => trivial) h
      (.inl hk)).2
    rcases hstep with hstep | hstop
    · exact hstep
    · rw [stop_of_mem_step hstop] at hop
      exact absurd trivial hop

/-- In every reachable state each task lives in exactly one place, no key was dispatched twice in
a run without an accepted completion between, and no step loses an enabled task. -/
theorem each_task_in_one_place {s : Scheduler} {tr : List Event} (h : Reached s tr) :
    OnePlace s ∧ DispatchedOnce tr ∧
      ∀ (op : Op) (k : TaskKey), op.Valid s → ¬op.Unschedules k → s.Scheduled k →
        (s.step op).1.Scheduled k :=
  ⟨h.placed.onePlace, h.sentOnce.dispatchedOnce,
    fun op _ hv hop hk => step_scheduled h.placed op hv hop hk⟩

/-- A virtual device with an address has one task, its operational poll. -/
def probe (area : UUID) : Device :=
  { id := 1, ip := "probe", deviceType := .virtual, managed := true, areaIDs := [area] }

def probeKey : TaskKey := newBackgroundTaskKey 1 .operational

def probeLimits : DispatchLimits where
  budgets _ := 10
  policy := ⟨4, 4, 4, 4⟩
  essentialLimit := 10
  globalLimit := 10

/-- Start with the probe in one area, wait until its task is due and dispatch it. -/
def probeRun (area : UUID) : List Op :=
  [.start (some [probe area]) second [probeKey], .move (100 * second) [probeKey],
    .dispatch probeLimits (100 * second) none]

/-- The scheduler that has just started with the probe. -/
def probeScheduled : Scheduler :=
  (({} : Scheduler).step (.start (some [probe 2]) second [probeKey])).1

theorem probeScheduled_reached : Reached probeScheduled [] := by
  have hstart : Step {} [] probeScheduled :=
    ⟨.start (some [probe 2]) second [probeKey], by decide +kernel, rfl⟩
  exact (Run.init (show IsNew {} from rfl)).step hstart

theorem each_task_in_one_place_probe : ∃ s tr,
    exec (fun _ _ => true) ({}, []) (probeRun 2) = some (s, tr) ∧ s.inFlight = 1 ∧
      s.Scheduled probeKey ∧ OnePlace s ∧ DispatchedOnce tr := by
  have hrun : ((exec (fun _ _ => true) ({}, []) (probeRun 2)).any fun st =>
      st.1.inFlight = 1 ∧ st.1.items.get probeKey = some 0 ∧ (st.1.store 0).disabled = false) =
      true := by decide +kernel
  obtain ⟨⟨s, tr⟩, hexec, hst⟩ := (Option.any_eq_true _ _).1 hrun
  have hall := each_task_in_one_place (exec_reached hexec)
  simp only [decide_eq_true_eq] at hst
  exact ⟨s, tr, hexec, hst.1, ⟨0, hst.2⟩, hall.1, hall.2.1⟩

end Theia.Scheduler
