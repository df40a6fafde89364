import Theia.Spec.CompletionSlots

/-!
# The phase of background polls

The due time of a background item changes only when a completion of its task is accepted, and then
it becomes the least time of the item's phase that is after both the old due time and the finish of
the task. The phase is kept as long as the due time is not Go's zero time and the way from it to the
next window fits in a `Duration`.
-/

namespace Theia

variable {interval : Int} {op : Op} {k : TaskKey} {r : ItemRef}

/-! ### The next window -/

theorem Duration.wrap_of_fits {d : Int} (hpos : 0 ≤ d) (hfits : d < 2 ^ 63) :
    Duration.wrap d = d := by
  apply Int.bmod_eq_of_le_mul_two
  · omega
  · omega

theorem Time.sub_of_fits {t u : Int} (hpos : 0 ≤ t - u) (hfits : t - u < 2 ^ 63) :
    Time.sub t u = t - u := by
  show max (-2 ^ 63 : Int) (min (t - u) (2 ^ 63 - 1)) = t - u
  omega

/-- `next` is the least time after `due` and `finish` that is a whole number of intervals away from
`first`. -/
structure NextWindow (first interval due finish next : Int) : Prop where
  phase : ∃ n : Nat, next = first + n * interval
  after_due : due < next
  after_finish : finish < next
  least : ∀ n : Int, due < first + n * interval → finish < first + n * interval →
    next ≤ first + n * interval

theorem NextWindow.of_due {first due finish next : Int} {m : Nat}
    (hdue : due = first + m * interval) (h : NextWindow due interval due finish next) :
    NextWindow first interval due finish next where
  phase := by
    obtain ⟨n, hn⟩ := h.phase
    refine ⟨m + n, ?_⟩
    rw [hn, hdue]
    push_cast
    ring
  after_due := h.after_due
  after_finish := h.after_finish
  least := by
    intro n
    have hshift : first + n * interval = due + (n - m) * interval := by
      rw [hdue]
      ring
    rw [hshift]
    exact h.least (n - m)

theorem interval_le_of_pos {n : Int} (hinterval : 0 < interval) (h : 0 < n * interval) :
    interval ≤ n * interval := by
  have hn : 0 < n := (mul_pos_iff_of_pos_right hinterval).1 h
  nlinarith

/-- `nextPhaseAfter` finds the next window: before the first window ends this is the next one, and a
late finish skips the windows it missed. -/
theorem nextPhaseAfter_spec {due finish : Int} (hinterval : 0 < interval) (hdue : due ≠ 0)
    (hfits : finish - due + interval < 2 ^ 63) :
    NextWindow due interval due finish (nextPhaseAfter due interval finish) := by
  have hzero : Time.isZero due = false := by simpa [Time.isZero] using hdue
  simp only [nextPhaseAfter, if_neg (not_le.2 hinterval), hzero, Bool.false_eq_true, if_false]
  split
  · -- the finish is before the end of the first window
    next hearly =>
    refine ⟨⟨1, by simp⟩, by omega, hearly, ?_⟩
    intro n hn _
    have := interval_le_of_pos hinterval (by omega : 0 < n * interval)
    omega
  · -- `q` windows were missed
    next hlate =>
    have hlate : due + interval ≤ finish := not_lt.1 hlate
    have helapsed : 0 < finish - due := by omega
    have hdiv : (finish - due).tdiv interval = (finish - due) / interval :=
      Int.tdiv_eq_ediv_of_nonneg helapsed.le
    have hq : 0 ≤ (finish - due) / interval := Int.ediv_nonneg helapsed.le hinterval.le
    have hle : (finish - due) / interval * interval ≤ finish - due :=
      Int.ediv_mul_le _ hinterval.ne'
    have hlt : finish - due < ((finish - due) / interval + 1) * interval :=
      Int.lt_ediv_add_one_mul_self _ hinterval
    have hself : (finish - due) / interval ≤ finish - due :=
      Int.ediv_le_self _ helapsed.le
    rw [Time.sub_of_fits helapsed.le (by omega), hdiv]
    generalize (finish - due) / interval = q at hq hle hlt hself ⊢
    have hproduct : (q + 1) * interval = q * interval + interval := by ring
    rw [Duration.wrap_of_fits (d := q + 1) (by omega) (by omega),
      Duration.wrap_of_fits (by omega) (by omega)]
    refine ⟨⟨(q + 1).toNat, ?_⟩, by omega, by omega, ?_⟩
    · rw [Int.toNat_of_nonneg (by omega)]
    intro n _ hn
    -- a window after the finish is not one of the `q` missed ones
    have hqn : q < n := by
      by_contra hnq
      have := mul_le_mul_of_nonneg_right (not_lt.1 hnq) hinterval.le
      omega
    have := mul_le_mul_of_nonneg_right (Int.add_one_le_iff.2 hqn) hinterval.le
    omega

namespace Scheduler

variable {s : Scheduler}

/-! ### What leaves the due time of an item alone -/

/-- A re-due request for a device. -/
def Op.redues (deviceID : UUID) : Op → Bool
  | .reduePerformance device _ _ _ | .redueEssential device _ _ _ => device.id = deviceID
  | _ => false

/-- The completion of a task. -/
def Op.completes (k : TaskKey) : Op → Bool
  | .complete c _ _ => c.key = k
  | _ => false

theorem completes_of_mem_step {runID : Nat} (h : .completed runID k ∈ (s.step op).2) :
    op.completes k = true := by
  cases op with
  | start | stop =>
    simp only [step] at h
    split at h <;> simp at h
  | complete c now jitter =>
    simp only [step] at h
    split at h <;> simp_all [Op.completes]
  | _ => simp [step] at h

theorem due_rules (s₀ : Scheduler) (k : TaskKey) : StepRules (· ≠ k) (fun _ _ => True)
    (fun s tr => (∃ n, .completed n k ∈ tr) ∨ DueKept (· ≠ k) s₀.items s₀ s.items s) where
  allowed_nil _ := trivial
  allowed_begin _ := trivial
  quiet _ hP _ hq := hP.imp_right fun h => h.trans hq.due
  dispatch _ _ hP hd := by
    refine hP.imp (fun ⟨n, hn⟩ => ⟨n, List.mem_append_left _ hn⟩) fun h => h.trans ?_
    exact hd.due.mono nofun
  complete {s s' tr c} _ _ hP hc := by
    by_cases hk : c.key = k
    · exact .inl ⟨c.runID, by simp [hk]⟩
    · refine hP.imp (fun ⟨n, hn⟩ => ⟨n, List.mem_append_left _ hn⟩) fun h => h.trans ?_
      exact hc.due.mono fun k' hk' => hk' ▸ hk
  start _ hP := hP.imp_right fun h => { h with }
  stop _ hP := by
    refine hP.imp (fun ⟨n, hn⟩ => ⟨n, List.mem_append_left _ hn⟩) fun h => ?_
    exact ⟨h.next, nofun, nofun⟩

/-- A critical section that is neither a re-due request for the device of an item nor a completion
of its task leaves the due time of the item alone. -/
theorem step_keepsDue (h : s.Placed) (hr : s.items.get k = some r) (hv : op.Valid s)
    (hredue : op.redues k.deviceID = false) (hcomplete : op.completes k = false)
    (hstays : (s.step op).1.items.get k = some r) :
    ((s.step op).1.store r).dueAt = (s.store r).dueAt ∧
      ((s.step op).1.store r).immediateRerun = (s.store r).immediateRerun := by
  have hredued : ∀ k' ∈ op.redued, k' ≠ k := by
    rintro k' hk' rfl
    cases op <;> simp_all [Op.redued, Op.redues]
    · obtain rfl | rfl := hk' <;> exact hredue rfl
    · exact hredue rfl
  obtain ⟨-, hstep⟩ := @StepRules.step _ _ _ s [] (due_rules s k) op hv trivial hredued h
    (.inr (.refl _ _ _))
  obtain ⟨n, hn⟩ | hdue := hstep
  · rw [completes_of_mem_step hn] at hcomplete
    cases hcomplete
  · exact hdue.item k r hstays (PlacedAt.bound h k r hr) fun hne => hne rfl

/-! ### Completions -/

/-- Where `requeueCompleted` puts a background item that nobody asked to run again. -/
theorem requeueCompleted_background (hshape : Shaped k (s.store r).task)
    (hkind : k.kind = .background) (hrerun : (s.store r).immediateRerun = false) (finishedAt : Time)
    (jitter : Duration) : ((s.requeueCompleted r finishedAt jitter).store r).dueAt =
        nextPhaseAfter (s.store r).dueAt (s.store r).interval finishedAt ∧
      ((s.requeueCompleted r finishedAt jitter).store r).immediateRerun = false := by
  have hbackground : taskIsBackground (s.store r).task = true := by
    simp [taskIsBackground, hshape.key, hkind]
  have hessential : (s.store r).task.kind ≠ .essential := by
    rw [hshape.kind, hkind]
    decide
  simp only [requeueCompleted, hrerun, Bool.false_eq_true, hessential, false_and, or_self, if_false,
    hbackground, if_true]
  rw [(heapPush_indexOnly _ r).item r]
  simp [modify_store_self]

theorem handleCompletion_background (h : s.Placed) {c : Completion}
    (hr : s.items.get c.key = some r) (hkind : c.key.kind = .background)
    (hrerun : (s.store r).immediateRerun = false) {now : Time} {jitter : Duration}
    (haccepted : (s.handleCompletion c now jitter).2 = true)
    (hstays : (s.handleCompletion c now jitter).1.items.get c.key = some r) :
    ((s.handleCompletion c now jitter).1.store r).dueAt =
        nextPhaseAfter (s.store r).dueAt (s.store r).interval (finishTime c now) ∧
      ((s.handleCompletion c now jitter).1.store r).immediateRerun = false := by
  have hshape := PlacedAt.shape h c.key r hr
  rw [handleCompletion_accepts hr] at haccepted
  unfold finishTime at haccepted ⊢
  simp only [handleCompletion, hr, haccepted, if_true] at hstays ⊢
  have hcount := (decrementInFlight_counted { s with inFlight := s.inFlight - 1 }
    hshape.normalizeTask_eq).store
  generalize ({ s with inFlight := s.inFlight - 1 } : Scheduler).decrementInFlight
    (s.store r).task = t at hcount hstays ⊢
  have hitem : (t.modify r fun item => { item with
      inFlight := false, dispatchedAt := 0, runID := 0,
      task := { item.task with runID := 0 } }).store r = { s.store r with
        inFlight := false, dispatchedAt := 0, runID := 0,
        task := { (s.store r).task with runID := 0 } } := by
    rw [modify_store_self, hcount]
  generalize (t.modify r fun item => { item with
      inFlight := false, dispatchedAt := 0, runID := 0,
      task := { item.task with runID := 0 } }) = u at hitem hstays ⊢
  split at hstays
  · -- a disabled item would be gone
    rw [FMap.get_erase, if_pos rfl] at hstays
    cases hstays
  · rename_i hdisabled
    rw [if_neg hdisabled]
    have hlanded : Shaped c.key (u.store r).task := by
      rw [hitem]
      exact hshape.congr rfl rfl rfl rfl rfl
    have hrequeued := requeueCompleted_background hlanded hkind (by rw [hitem]; exact hrerun)
      (if Time.isZero c.finishedAt = true then now else c.finishedAt) jitter
    rw [hitem] at hrequeued
    exact hrequeued

/-! ### Runs -/

/-- A step of a run in which the item at `r` stays scheduled under `k` with one interval and is not
re-due. -/
def PhaseOp (k : TaskKey) (r : ItemRef) (interval : Duration) (s : Scheduler) (op : Op) : Prop :=
  op.Valid s ∧ op.redues k.deviceID = false ∧ (s.step op).1.items.get k = some r ∧
    ((s.step op).1.store r).interval = interval
  deriving Decidable

/-- A completion of the task of `k` finds a due time that is not the zero time, and finishes so early
that the way to the next window fits in a `Duration`. -/
def Op.Fits (k : TaskKey) (r : ItemRef) (s : Scheduler) : Op → Prop
  | .complete c now _ => c.key = k → (s.store r).dueAt ≠ 0 ∧
      finishTime c now - (s.store r).dueAt + (s.store r).interval < 2 ^ 63
  | _ => True

instance (k : TaskKey) (r : ItemRef) (s : Scheduler) (op : Op) : Decidable (op.Fits k r s) := by
  induction op using Op.casesOn <;> unfold Op.Fits <;> infer_instance

/-- An accepted completion moves the due time to the next window of the phase; nothing else changes
it. -/
def DueStep (first : Time) (interval : Duration) (k : TaskKey) (r : ItemRef) (s : Scheduler)
    (op : Op) : Prop :=
  match op with
  | .complete c now jitter =>
    if c.key = k ∧ (s.handleCompletion c now jitter).2 = true then
      NextWindow first interval (s.store r).dueAt (finishTime c now)
        ((s.step (.complete c now jitter)).1.store r).dueAt
    else ((s.step (.complete c now jitter)).1.store r).dueAt = (s.store r).dueAt
  | op => ((s.step op).1.store r).dueAt = (s.store r).dueAt

/-- What a run of such steps keeps of a background item. -/
structure InPhase (first : Time) (interval : Duration) (k : TaskKey) (r : ItemRef)
    (s : Scheduler) : Prop where
  placed : s.Placed
  item : s.items.get k = some r
  interval_eq : (s.store r).interval = interval
  rerun : (s.store r).immediateRerun = false
  phase : ∃ n : Nat, (s.store r).dueAt = first + n * interval

section Run

variable {first : Time} {interval : Duration} {k : TaskKey} {r : ItemRef}

theorem InPhase.of_keepsDue (h : InPhase first interval k r s) (hop : PhaseOp k r interval s op)
    (hcompletes : op.completes k = false) : InPhase first interval k r (s.step op).1 ∧
      ((s.step op).1.store r).dueAt = (s.store r).dueAt := by
  obtain ⟨hv, hredue, hitem, hinterval⟩ := hop
  obtain ⟨hdue, hrerun⟩ := step_keepsDue h.placed h.item hv hredue hcompletes hitem
  refine ⟨⟨step_placed h.placed hv, hitem, hinterval, hrerun.trans h.rerun, ?_⟩, hdue⟩
  rw [hdue]
  exact h.phase

/-- One step keeps the phase. -/
theorem InPhase.step (hkind : k.kind = .background) (hpos : 0 < interval)
    (h : InPhase first interval k r s) (hop : PhaseOp k r interval s op) (hfits : op.Fits k r s) :
    InPhase first interval k r (s.step op).1 ∧ DueStep first interval k r s op := by
  have ⟨hv, hredue, hitem, hinterval⟩ := hop
  cases hcompletes : op.completes k with
  | false =>
    have hkept := h.of_keepsDue hop hcompletes
    refine ⟨hkept.1, ?_⟩
    unfold DueStep
    split
    · rw [if_neg fun hc => by simp [Op.completes, hc.1] at hcompletes]
      exact hkept.2
    · exact hkept.2
  | true =>
    obtain ⟨c, now, jitter, rfl⟩ : ∃ c now jitter, op = .complete c now jitter := by
      cases op with
      | complete c now jitter => exact ⟨c, now, jitter, rfl⟩
      | _ => cases hcompletes
    have hkey : c.key = k := by simpa [Op.completes] using hcompletes
    cases haccepted : (s.handleCompletion c now jitter).2 with
    | false =>
      -- an ignored completion changes nothing
      have hsame : (s.step (.complete c now jitter)).1 = s := by
        show (s.handleCompletion c now jitter).1 = s
        obtain heq | ⟨s', heq, -⟩ := handleCompletion_cases h.placed c now jitter
        · rw [heq]
        · rw [heq] at haccepted
          cases haccepted
      rw [hsame]
      refine ⟨h, ?_⟩
      simp [DueStep, hkey, haccepted, hsame]
    | true =>
      have hget : s.items.get c.key = some r := hkey ▸ h.item
      obtain ⟨hdue, hrerun⟩ := handleCompletion_background h.placed hget (hkey ▸ hkind) h.rerun
        haccepted (hkey ▸ hitem)
      obtain ⟨hzero, hway⟩ := hfits hkey
      obtain ⟨m, hm⟩ := h.phase
      rw [h.interval_eq] at hdue hway
      have hnext := NextWindow.of_due hm (nextPhaseAfter_spec hpos hzero hway)
      rw [← hdue] at hnext
      refine ⟨⟨step_placed h.placed hv, hitem, hinterval, hrerun, hnext.phase⟩, ?_⟩
      simp only [DueStep, hkey, haccepted, and_self, if_true]
      exact hnext

/-- Over every run in which a background item stays scheduled with one interval and is not re-due,
each accepted completion of its task moves the due time to the least window of its phase after the
old due time and the finish, and nothing else moves it. -/
theorem due_keeps_phase {s₀ : Scheduler} {tr : List Event} (h : Reached s₀ tr)
    (hkind : k.kind = .background) (hr : s₀.items.get k = some r)
    (hrerun : (s₀.store r).immediateRerun = false) (hpos : 0 < (s₀.store r).interval)
    (ops : List Op)
    (hops : OkAlong (fun s op => (s.step op).1)
      (fun s op => PhaseOp k r (s₀.store r).interval s op ∧ op.Fits k r s) s₀ ops) (op : Op)
    (hop : PhaseOp k r (s₀.store r).interval (ops.foldl (fun s op => (s.step op).1) s₀) op)
    (hfits : op.Fits k r (ops.foldl (fun s op => (s.step op).1) s₀)) :
    DueStep (s₀.store r).dueAt (s₀.store r).interval k r
      (ops.foldl (fun s op => (s.step op).1) s₀) op := by
  have hphase : InPhase (s₀.store r).dueAt (s₀.store r).interval k r
      (ops.foldl (fun s op => (s.step op).1) s₀) := by
    apply (Run.of_ops hops).act_invariant
    · exact ⟨h.placed, hr, rfl, hrerun, 0, by simp⟩
    · intro s op hs hok
      exact (hs.step hkind hpos hok.1 hok.2).1
  exact (hphase.step hkind hpos hop hfits).2

end Run

/-- The task of the probe is dispatched at 100 s. -/
def probeDispatched : List Op :=
  [.move (100 * second) [probeKey], .dispatch probeLimits (100 * second) none]

/-- The completion of the probe's task. -/
def probeFinish (finishedAt : Time) : Op :=
  .complete ⟨1, probeKey, finishedAt⟩ (finishedAt + second) 0

theorem due_keeps_phase_probe :
    ((probeDispatched.foldl (fun s op => (s.step op).1) probeScheduled).handleCompletion
      ⟨1, probeKey, 400 * second⟩ (401 * second) 0).2 = true ∧
    DueStep (probeScheduled.store 0).dueAt (probeScheduled.store 0).interval probeKey 0
      (probeDispatched.foldl (fun s op => (s.step op).1) probeScheduled)
      (probeFinish (400 * second)) :=
  ⟨by decide +kernel, due_keeps_phase probeScheduled_reached rfl (by decide +kernel)
    (by decide +kernel) (by decide +kernel) probeDispatched (by decide +kernel)
    (probeFinish (400 * second)) (by decide +kernel) (by decide +kernel)⟩

/-- A task that finishes three hundred years after it was due: the number of nanoseconds to the next
window does not fit in a `Duration`, and the new due time is before the old one. -/
theorem phase_lost : ∃ (s₀ : Scheduler) (tr : List Event) (ops : List Op) (op : Op),
    Reached s₀ tr ∧ s₀.items.get probeKey = some 0 ∧ (s₀.store 0).immediateRerun = false ∧
    0 < (s₀.store 0).interval ∧
    OkAlong (fun s op => (s.step op).1) (PhaseOp probeKey 0 (s₀.store 0).interval) s₀ ops ∧
    PhaseOp probeKey 0 (s₀.store 0).interval (ops.foldl (fun s op => (s.step op).1) s₀) op ∧
    ¬ DueStep (s₀.store 0).dueAt (s₀.store 0).interval probeKey 0
      (ops.foldl (fun s op => (s.step op).1) s₀) op := by
  refine ⟨probeScheduled, [], probeDispatched, probeFinish (300 * 365 * 86400 * second),
    probeScheduled_reached, by decide +kernel, by decide +kernel, by decide +kernel,
    by decide +kernel, by decide +kernel, ?_⟩
  generalize hs : probeDispatched.foldl (fun s op => (s.step op).1) probeScheduled = s
  have haccepted : (s.handleCompletion ⟨1, probeKey, 300 * 365 * 86400 * second⟩
      (300 * 365 * 86400 * second + second) 0).2 = true := by
    rw [← hs]
    decide +kernel
  have hback : ((s.step (probeFinish (300 * 365 * 86400 * second))).1.store 0).dueAt ≤
      (s.store 0).dueAt := by
    rw [← hs]
    decide +kernel
  intro hdue
  simp only [DueStep, probeFinish, haccepted, and_self, if_true] at hdue
  exact absurd hdue.after_due (not_lt.2 hback)

end Scheduler

end Theia
