import Theia.Spec.SchedulerOnePlace

/-!
# Isolation counters against outstanding work

`dispatchReady` counts a task under its device, its sites, its subnet and its SNMP profile, and
`handleCompletion` takes the counts back. Both read the device row that the item holds at that
moment, and a refresh, a reconciliation or a re-due request may have replaced the row in between.
-/

namespace Theia.Scheduler

open List

variable {m : FMap String Int} {l : List String} {t t' : PollTask} {s s' : Scheduler}
  {tr : List Event}

/-! ### Counting keys -/

/-- `m` counts the keys of `l`; a key that does not occur is absent. -/
def CountsOf (m : FMap String Int) (l : List String) : Prop :=
  ∀ key, m.get key = if l.count key = 0 then none else some (l.count key : Int)

theorem CountsOf.perm {l' : List String} (h : CountsOf m l) (hp : l.Perm l') : CountsOf m l' := by
  intro key
  rw [h key, hp.count_eq]

theorem CountsOf.countOf_eq (h : CountsOf m l) (key : String) : countOf m key = l.count key := by
  unfold countOf
  rw [h key]
  split_ifs with h0
  · simp [h0]
  · rfl

theorem CountsOf.eq_empty (h : CountsOf m []) : m = ∅ := by
  apply FMap.ext
  intro key
  rw [h key]
  rfl

theorem CountsOf.increment (h : CountsOf m l) (key : String) :
    CountsOf (incrementCount m key) ([key].filter (· ≠ "") ++ l) := by
  unfold incrementCount
  split
  · rename_i h0
    simpa [h0] using h
  rename_i h0
  intro key'
  rw [FMap.get_insert, h.countOf_eq]
  simp only [h0, ne_eq, not_false_eq_true, decide_true, filter_cons_of_pos,
    filter_nil, cons_append, nil_append, count_cons, beq_iff_eq]
  by_cases hk : key' = key
  · simp [hk]
  · rw [if_neg hk, if_neg (Ne.symm hk), h key', Nat.add_zero]

theorem CountsOf.decrement (key : String) (h : CountsOf m ([key].filter (· ≠ "") ++ l)) :
    CountsOf (decrementCount m key) l := by
  unfold decrementCount
  split
  · rename_i h0
    simpa [h0] using h
  rename_i h0
  have hcount : ∀ key', ([key].filter (· ≠ "") ++ l).count key' =
      l.count key' + if key = key' then 1 else 0 := by
    intro key'
    simp [h0, count_cons]
  have hself := hcount key
  rw [if_pos rfl] at hself
  -- the count drops by one, and the key goes when it was the last
  rw [h.countOf_eq, hself]
  intro key'
  have hother : key' ≠ key → m.get key' =
      if l.count key' = 0 then none else some (l.count key' : Int) := by
    intro hk
    rw [h key', hcount key', if_neg (Ne.symm hk), Nat.add_zero]
  split
  · rw [FMap.get_erase]
    split
    · rename_i hk
      rw [hk, if_pos (by omega)]
    · rename_i hk
      exact hother hk
  · rw [FMap.get_insert]
    split
    · rename_i hk
      rw [hk, if_neg (by omega)]
      congr 1
      omega
    · rename_i hk
      exact hother hk

/-! ### The keys of a task -/

/-- What the isolation limits are kept for. -/
inductive Scope
  | device | site | subnet | profile
  deriving DecidableEq, Repr

/-- The keys that a task is counted under, one for each of its areas. -/
def rawKeys (task : PollTask) : Scope → List String
  | .device => [task.device.id.toString]
  | .site => task.device.areaIDs.map taskSiteKey
  | .subnet => [taskSubnetKey task]
  | .profile => [taskProfileKey task]

/-- The keys of a task: the empty key is not counted. -/
def scopeKeys (σ : Scope) (task : PollTask) : List String := (rawKeys task σ).filter (· ≠ "")

/-- The map of one scope. -/
def countsFor (counts : IsolationCounts) : Scope → FMap String Int
  | .device => counts.device
  | .site => counts.site
  | .subnet => counts.subnet
  | .profile => counts.profile

theorem countsFor_update (f : FMap String Int → String → FMap String Int)
    (counts : IsolationCounts) (task : PollTask) (σ : Scope) :
    countsFor (counts.update f task) σ = (rawKeys task σ).foldl f (countsFor counts σ) := by
  cases σ with
  | site => simp [countsFor, IsolationCounts.update, rawKeys, foldl_map]
  | device | subnet | profile => rfl

theorem CountsOf.increments (keys : List String) (h : CountsOf m l) :
    CountsOf (keys.foldl incrementCount m) (keys.filter (· ≠ "") ++ l) := by
  induction keys generalizing m l with
  | nil => exact h
  | cons key keys ih =>
    have hsplit : (key :: keys).filter (· ≠ "") = [key].filter (· ≠ "") ++ keys.filter (· ≠ "") :=
      filter_append [key] keys
    refine (ih (h.increment key)).perm ?_
    rw [hsplit, ← append_assoc]
    exact perm_append_comm.append_right l

theorem CountsOf.decrements (keys : List String) (h : CountsOf m (keys.filter (· ≠ "") ++ l)) :
    CountsOf (keys.foldl decrementCount m) l := by
  induction keys generalizing m with
  | nil => exact h
  | cons key keys ih =>
    rw [← singleton_append, filter_append, append_assoc] at h
    exact ih (h.decrement key)

/-- The maps of all scopes count the keys of `tasks`. -/
def Tally (counts : IsolationCounts) (tasks : List PollTask) : Prop :=
  ∀ σ, CountsOf (countsFor counts σ) (tasks.flatMap (scopeKeys σ))

theorem tally_empty : Tally {} [] := by
  intro σ key
  cases σ <;> rfl

theorem Tally.increment {counts : IsolationCounts} {tasks : List PollTask}
    (h : Tally counts tasks) (task : PollTask) :
    Tally (counts.update incrementCount task) (task :: tasks) := by
  intro σ
  rw [countsFor_update]
  exact (h σ).increments (rawKeys task σ)

/-- Taking the counts of one task back under the keys that `task'` has now. -/
theorem Tally.decrement {counts : IsolationCounts} {tasks rest : List PollTask}
    {task task' : PollTask} (h : Tally counts tasks) (hp : tasks.Perm (task :: rest))
    (hkeys : ∀ σ, (scopeKeys σ task).Perm (scopeKeys σ task')) :
    Tally (counts.update decrementCount task') rest := by
  intro σ
  rw [countsFor_update]
  apply CountsOf.decrements
  refine (h σ).perm ((hp.flatMap_right _).trans ?_)
  exact (hkeys σ).append_right _

/-! ### Rows that keep a task where it is counted -/

/-- Two tasks are counted under the same sites, subnet and profile. -/
structure SameIsolation (t t' : PollTask) : Prop where
  site : (scopeKeys .site t).Perm (scopeKeys .site t')
  subnet : taskSubnetKey t' = taskSubnetKey t
  profile : taskProfileKey t' = taskProfileKey t

theorem SameIsolation.keys (h : SameIsolation t t') (hid : t'.device.id = t.device.id) (σ : Scope) :
    (scopeKeys σ t).Perm (scopeKeys σ t') := by
  cases σ with
  | site => exact h.site
  | device => simp only [scopeKeys, rawKeys, hid]; exact .refl _
  | subnet => simp only [scopeKeys, rawKeys, h.subnet]; exact .refl _
  | profile => simp only [scopeKeys, rawKeys, h.profile]; exact .refl _

theorem SameIsolation.trans {t'' : PollTask} (h : SameIsolation t t') (h' : SameIsolation t' t'') :
    SameIsolation t t'' :=
  ⟨h.site.trans h'.site, h'.subnet.trans h.subnet, h'.profile.trans h.profile⟩

theorem sameIsolation_of_device (h : t'.device = t.device) : SameIsolation t t' := by
  refine ⟨?_, ?_, ?_⟩
  · simp only [scopeKeys, rawKeys, h]; exact .refl _
  · simp [taskSubnetKey, h]
  · simp [taskProfileKey, h]

/-- No effect writes a row into a task in flight that moves it to another site, subnet or
profile. -/
def KeepsIsolation (s : Scheduler) (w : Effects) : Prop :=
  ∀ k device, .write k device ∈ w → ∀ item, s.flight k = some item →
    SameIsolation item.task { item.task with device := device }

instance (t t' : PollTask) : Decidable (SameIsolation t t') :=
  decidable_of_iff ((scopeKeys .site t).Perm (scopeKeys .site t') ∧
      taskSubnetKey t' = taskSubnetKey t ∧ taskProfileKey t' = taskProfileKey t)
    ⟨fun h => ⟨h.1, h.2.1, h.2.2⟩, fun h => ⟨h.site, h.subnet, h.profile⟩⟩

/-- `KeepsIsolation` for one effect, as a check. -/
def keepsIsolation (s : Scheduler) : Effect → Bool
  | .write k device => (s.flight k).all fun item =>
      decide (SameIsolation item.task { item.task with device := device })
  | .retire _ => true

instance (s : Scheduler) (w : Effects) : Decidable (KeepsIsolation s w) :=
  decidable_of_iff (∀ e ∈ w, s.keepsIsolation e = true) <| by
    constructor
    · intro h k device hw item hf
      have he := h _ hw
      simp only [keepsIsolation, hf, Option.all_some, decide_eq_true_eq] at he
      exact he
    · intro h e he
      cases e with
      | retire k => rfl
      | write k device =>
        cases hf : s.flight k with
        | none => simp [keepsIsolation, hf]
        | some item =>
          simp only [keepsIsolation, hf, Option.all_some, decide_eq_true_eq]
          exact h k device he item hf

/-! ### The invariant -/

/-- The item in flight under the key of `t` is counted where `t` was. -/
def CountedAs (s : Scheduler) (t : PollTask) : Prop :=
  ∀ item, s.flight t.key = some item → SameIsolation t item.task

/-- The tasks that are counted in the essential maps. -/
def essentialTasks (tasks : List PollTask) : List PollTask :=
  tasks.filter fun t => t.kind = .essential

/-- The outstanding tasks are the ones in flight, and the counters count them. -/
structure IsolationInv (s : Scheduler) (tr : List Event) : Prop extends FlightInv s tr where
  counted : ∀ t ∈ outstanding tr, s.CountedAs t
  inFlightBy : Tally s.inFlightBy (outstanding tr)
  essentialBy : Tally s.essentialBy (essentialTasks (outstanding tr))

theorem CountedAs.kept {w : Effects} (h : s.CountedAs t) (hA : KeepsIsolation s w)
    (hk : FlightKept w t.key (s.flight t.key) (s'.flight t.key)) : s'.CountedAs t := by
  intro item' hf
  obtain ⟨item, hitem⟩ := hk.isSome_of hf
  rw [hitem, hf] at hk
  obtain ⟨-, -, hdev⟩ := hk
  apply (h item hitem).trans
  rcases hdev with hdev | hdev
  · exact sameIsolation_of_device hdev
  · exact (hA _ _ hdev item hitem).trans (sameIsolation_of_device rfl)

theorem essentialTasks_cons (t : PollTask) (tasks : List PollTask) :
    essentialTasks (t :: tasks) =
      if t.kind = .essential then t :: essentialTasks tasks else essentialTasks tasks := by
  unfold essentialTasks
  split_ifs with h
  · simp [h]
  · simp [h]

theorem isolation_dispatch {task : PollTask} (hst : s.started = true) (hP : IsolationInv s tr)
    (hd : DispatchStep s task s') : IsolationInv s' (tr ++ [.dispatched task]) := by
  have hout : outstanding (tr ++ [.dispatched task]) = task :: outstanding tr :=
    outstanding_concat tr _
  refine ⟨hP.dispatch hst hd, ?_, ?_, ?_⟩
  · rw [hout, forall_mem_cons]
    constructor
    · intro item hitem
      obtain ⟨item', hitem', htask, -⟩ := hd.after
      rw [hitem'] at hitem
      cases hitem
      exact sameIsolation_of_device (by rw [htask])
    · intro t ht
      exact (hP.counted t ht).kept (w := []) (by simp [KeepsIsolation])
        (hd.others t.key (hP.new_key hd t ht))
  · rw [hout, hd.inFlightBy]
    exact hP.inFlightBy.increment task
  · rw [hout, hd.essentialBy, essentialTasks_cons]
    split
    · exact hP.essentialBy.increment task
    · exact hP.essentialBy

theorem isolation_complete {c : Completion} (hst : s.started = true) (hp : s.Placed)
    (hP : IsolationInv s tr) (hc : CompleteStep s c s') :
    IsolationInv s' (tr ++ [.completed c.runID c.key]) := by
  -- the task that the completion is for
  obtain ⟨t, ht, hkey, -, hperm, hrest⟩ := hc.outstanding hP.toFlightInv
  obtain ⟨item, hitem, -, hby, hess, -⟩ := hc.item
  have hitemShaped := flight_shaped hp hitem
  have hshaped := hP.shaped t ht
  rw [hkey] at hshaped
  have hkeys : ∀ σ, (scopeKeys σ t).Perm (scopeKeys σ item.task) := by
    apply (hP.counted t ht item (hkey ▸ hitem)).keys
    rw [hitemShaped.deviceID, hshaped.deviceID]
  refine ⟨hP.complete hst hc, fun u hu => ?_, ?_, ?_⟩
  · obtain ⟨hu, hne⟩ := hrest u hu
    exact (hP.counted u hu).kept (w := []) (by simp [KeepsIsolation]) (hc.others u.key hne)
  · rw [hby]
    exact hP.inFlightBy.decrement hperm hkeys
  have hessperm := hperm.filter fun t => decide (t.kind = .essential)
  change (essentialTasks (outstanding tr)).Perm (essentialTasks (t :: _)) at hessperm
  rw [essentialTasks_cons] at hessperm
  rw [hess, hitemShaped.kind, ← hshaped.kind]
  split_ifs with he
  · rw [if_pos he] at hessperm
    exact hP.essentialBy.decrement hessperm hkeys
  · rw [if_neg he] at hessperm
    intro σ
    exact (hP.essentialBy σ).perm (hessperm.flatMap_right _)

theorem isolation_rules : StepRules (fun _ => True) KeepsIsolation IsolationInv where
  allowed_nil _ := by simp [KeepsIsolation]
  allowed_begin h := h
  quiet _ hP hA hq := by
    obtain ⟨-, -, hby, hess, -⟩ := counters_eq_iff hq.frame
    exact ⟨hP.quiet hq, fun t ht => (hP.counted t ht).kept hA (hq.flights t.key),
      hby ▸ hP.inFlightBy, hess ▸ hP.essentialBy⟩
  dispatch hst _ hP hd := isolation_dispatch hst hP hd
  complete hst hp hP hc := isolation_complete hst hp hP hc
  start hst hP := { hP with toFlightInv := hP.toFlightInv.start hst }
  stop {s tr} _ _ := by
    have hout : outstanding (tr ++ [.stopped]) = [] := outstanding_concat tr _
    refine ⟨.stop, ?_, ?_, ?_⟩
    · simp [hout]
    · rw [hout]
      exact tally_empty
    · rw [hout]
      exact tally_empty

/-- The isolation counters are the counts of the outstanding tasks. -/
structure CountersMatch (s : Scheduler) (tr : List Event) : Prop where
  inFlightBy : ∀ σ key, countOf (countsFor s.inFlightBy σ) key =
    ((outstanding tr).flatMap (scopeKeys σ)).count key
  essentialBy : ∀ σ key, countOf (countsFor s.essentialBy σ) key =
    ((essentialTasks (outstanding tr)).flatMap (scopeKeys σ)).count key
  idle : s.inFlight = 0 → ∀ σ, countsFor s.inFlightBy σ = ∅ ∧ countsFor s.essentialBy σ = ∅

theorem IsolationInv.countersMatch (h : IsolationInv s tr) : CountersMatch s tr where
  inFlightBy σ key := (h.inFlightBy σ).countOf_eq key
  essentialBy σ key := (h.essentialBy σ).countOf_eq key
  idle h0 σ := by
    have hnil : outstanding tr = [] := by
      rw [h.inFlight] at h0
      exact eq_nil_of_length_eq_zero (by omega)
    have hby := h.inFlightBy σ
    have hess := h.essentialBy σ
    rw [hnil] at hby hess
    exact ⟨hby.eq_empty, hess.eq_empty⟩

/-- The steps that keep every task in flight where it is counted. -/
def IsolatedStep (s : Scheduler) (es : List Event) (s' : Scheduler) : Prop :=
  ∃ op : Op, op.Valid s ∧ KeepsIsolation s op.effects ∧ s.step op = (s', es)

/-- In every run in which no row written into a task in flight moves it to another site, subnet
or profile, the isolation counters match the outstanding tasks. -/
theorem counters_match_outstanding {s : Scheduler} {tr : List Event}
    (h : Run IsNew IsolatedStep s tr) : CountersMatch s tr := by
  apply IsolationInv.countersMatch
  exact isolation_rules.run ⟨flightInv_new, by simp, tally_empty, tally_empty⟩ h

/-- The probe is polled; while the poll runs a refresh reads it with the areas of `later`. -/
def refreshDuringPoll (area later : UUID) : List Op :=
  probeRun area ++
    [.refresh (some [{ probe later with hostname := "renamed" }]) (101 * second) [probeKey],
      .complete { runID := 1, key := probeKey, finishedAt := 102 * second } (102 * second) 0]

/-- Renaming the device during the poll is harmless. -/
theorem counters_match_outstanding_renamed : ∃ s tr,
    Run IsNew IsolatedStep s tr ∧ tr.length = 2 ∧ s.inFlight = 0 ∧
      ∀ σ, countsFor s.inFlightBy σ = ∅ ∧ countsFor s.essentialBy σ = ∅ := by
  have hrun : ((exec (fun s op => KeepsIsolation s op.effects) ({}, [])
      (refreshDuringPoll 2 2)).any fun st => st.2.length = 2 ∧ st.1.inFlight = 0) = true := by
    decide +kernel
  obtain ⟨⟨s, tr⟩, hexec, hst⟩ := (Option.any_eq_true _ _).1 hrun
  simp only [decide_eq_true_eq] at hst
  have hr : Run IsNew IsolatedStep s tr :=
    (exec_run _ (.init rfl) hexec).mono fun _ _ _ ⟨op, hv, hA, hstep⟩ =>
      ⟨op, hv, of_decide_eq_true hA, hstep⟩
  exact ⟨s, tr, hr, hst.1, hst.2, (counters_match_outstanding hr).idle hst.2⟩

/-- Moving the device to another area during the poll: the poll is counted under the old area
and taken back under the new one, so that the old site stays counted with nothing in flight. -/
theorem site_count_leaks : ∃ s tr, Reached s tr ∧ outstanding tr = [] ∧ s.inFlight = 0 ∧
    countOf (countsFor s.inFlightBy .site) (taskSiteKey 2) = 1 ∧ ¬CountersMatch s tr := by
  have hrun : ((exec (fun _ _ => true) ({}, []) (refreshDuringPoll 2 3)).any fun st =>
      outstanding st.2 = [] ∧ st.1.inFlight = 0 ∧
        countOf (countsFor st.1.inFlightBy .site) (taskSiteKey 2) = 1) = true := by
    decide +kernel
  obtain ⟨⟨s, tr⟩, hexec, hst⟩ := (Option.any_eq_true _ _).1 hrun
  simp only [decide_eq_true_eq] at hst
  obtain ⟨hout, hidle, hleak⟩ := hst
  refine ⟨s, tr, exec_reached hexec, hout, hidle, hleak, fun hmatch => ?_⟩
  rw [(hmatch.idle hidle .site).1] at hleak
  exact absurd hleak (by decide)

end Theia.Scheduler
