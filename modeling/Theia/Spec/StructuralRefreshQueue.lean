import Theia.Native.StructuralRefreshQueue

/-!
# Structural refreshes are not lost and do not overlap
-/

namespace Theia.Client

namespace RefreshQueue

variable {C : Type} [DecidableEq C] {q : RefreshQueue C} {cause : C} {events : List (RefreshEvent C)}

/-! ### One refresh at a time -/

/-- The timer or a call of `runRefresh`, not both, will see to the pending causes. -/
structure Serial (q : RefreshQueue C) : Prop where
  armed : q.armedTimers = if q.timer then 1 else 0
  progress : q.inProgress = if q.running then 1 else 0
  exclusive : q.timer = false ∨ q.running = false
  attended : q.pendingCauses ≠ ∅ → q.timer = true ∨ q.running = true

theorem Serial.runPendingRefresh (harmed : q.armedTimers = 0) (htimer : q.timer = false)
    (hprogress : q.inProgress = if q.running then 1 else 0) : q.runPendingRefresh.Serial := by
  unfold RefreshQueue.runPendingRefresh
  split_ifs with h
  · exact ⟨by simp [harmed, htimer], hprogress, .inl htimer, fun hne => .inr (h.resolve_right hne)⟩
  · obtain ⟨hrunning, -⟩ := not_or.1 h
    exact ⟨by simp [harmed, htimer], by simp [hprogress, hrunning], .inl htimer, by simp⟩

theorem Serial.step (h : q.Serial) (event : RefreshEvent C) : (q.step event).Serial := by
  obtain ⟨harmed, hprogress, hexclusive, hattended⟩ := h
  cases event with
  | queue cause =>
    simp only [RefreshQueue.step, RefreshQueue.queue]
    split_ifs with hbusy
    · exact ⟨harmed, hprogress, hexclusive, fun _ => hbusy.symm⟩
    · simp only [not_or, Bool.not_eq_true] at hbusy
      exact ⟨by simp [harmed, hbusy.2], hprogress, .inr hbusy.1, fun _ => .inl rfl⟩
  | cancel =>
    simp only [RefreshQueue.step, RefreshQueue.cancel]
    split_ifs with htimer
    · exact ⟨by simp [harmed, htimer], hprogress, .inl rfl, by simp⟩
    · exact ⟨harmed, hprogress, hexclusive, by simp⟩
  | timerFires =>
    simp only [RefreshQueue.step]
    split_ifs with hnone
    · exact ⟨harmed, hprogress, hexclusive, hattended⟩
    · have hone : q.armedTimers ≤ 1 := by
        rw [harmed]
        split <;> omega
      exact .runPendingRefresh (by show q.armedTimers - 1 = 0; omega) rfl hprogress
  | refreshEnds outcome =>
    simp only [RefreshQueue.step]
    split_ifs with hnone
    · exact ⟨harmed, hprogress, hexclusive, hattended⟩
    · -- a refresh was in progress, so no timer is set
      have hrunning : q.running = true := by
        by_contra hnot
        simp [hprogress, hnot] at hnone
      have htimer : q.timer = false := hexclusive.resolve_right (by simp [hrunning])
      exact .runPendingRefresh (by simp [harmed, htimer]) htimer (by simp [hprogress, hrunning])

theorem Serial.steps (h : q.Serial) : (q.steps events).Serial := by
  induction events generalizing q with
  | nil => exact h
  | cons event events ih => exact ih (h.step event)

/-! ### What becomes of a pending cause -/

theorem runPendingRefresh_effect :
    (q.runPendingRefresh.pendingCauses = q.pendingCauses ∧
      q.runPendingRefresh.refreshed = q.refreshed) ∨
    (q.runPendingRefresh.pendingCauses = ∅ ∧
      q.runPendingRefresh.refreshed = q.refreshed ++ [q.pendingCauses]) := by
  unfold runPendingRefresh
  split_ifs with h
  · exact .inl ⟨rfl, rfl⟩
  · exact .inr ⟨rfl, rfl⟩

/-- A refresh takes all that is pending. Otherwise a cause is lost only by `cancel`, and it becomes
pending only by `queue`. -/
theorem step_effect (q : RefreshQueue C) (event : RefreshEvent C) (cause : C) :
    ((q.step event).refreshed = q.refreshed ∧
      (cause ∈ q.pendingCauses → event = .cancel ∨ cause ∈ (q.step event).pendingCauses) ∧
      (cause ∈ (q.step event).pendingCauses → event = .queue cause ∨ cause ∈ q.pendingCauses)) ∨
    ((q.step event).pendingCauses = ∅ ∧
      (q.step event).refreshed = q.refreshed ++ [q.pendingCauses]) := by
  cases event with
  | queue queued =>
    left
    simp only [step, queue]
    split_ifs <;> simp +contextual [eq_comm]
  | cancel =>
    left
    simp only [step, cancel]
    split_ifs <;> simp
  | timerFires =>
    simp only [step]
    split_ifs with h
    · simp +contextual
    · exact runPendingRefresh_effect.imp_left fun ⟨hp, hr⟩ => ⟨hr, by simp [hp]⟩
  | refreshEnds outcome =>
    simp only [step, settleRefresh]
    split_ifs with h
    · simp +contextual
    · exact runPendingRefresh_effect.imp_left fun ⟨hp, hr⟩ => ⟨hr, by simp [hp]⟩

theorem not_refreshed (q : RefreshQueue C) (events : List (RefreshEvent C)) (cause : C) :
    ∃ later, (q.steps events).refreshed = q.refreshed ++ later ∧
      (cause ∉ q.pendingCauses → .queue cause ∉ events → ∀ causes ∈ later, cause ∉ causes) := by
  induction events generalizing q with
  | nil => exact ⟨[], by simp [steps]⟩
  | cons event events ih =>
    obtain ⟨later, hlater, hnone⟩ := ih (q.step event)
    rw [show q.steps (event :: events) = (q.step event).steps events from rfl, hlater]
    rcases q.step_effect event cause with ⟨hsame, -, hqueued⟩ | ⟨hempty, htaken⟩
    · refine ⟨later, by rw [hsame], fun hnot hqueue => hnone (fun hmem => ?_) ?_⟩
      · rcases hqueued hmem with rfl | hpending
        · simp at hqueue
        · exact hnot hpending
      · exact fun hmem => hqueue (List.mem_cons_of_mem _ hmem)
    · refine ⟨q.pendingCauses :: later, by simp [htaken], fun hnot hqueue => ?_⟩
      have hrest := hnone (by simp [hempty]) fun hmem => hqueue (List.mem_cons_of_mem _ hmem)
      simpa [hnot] using hrest

/-- A pending cause is still pending, was cancelled before any refresh, or was taken by the next one
and, unless it is queued again, by no other. -/
theorem served (hpending : cause ∈ q.pendingCauses) :
    ((q.steps events).refreshed = q.refreshed ∧ cause ∈ (q.steps events).pendingCauses) ∨
    (∃ before after, events = before ++ .cancel :: after ∧
      (q.steps before).refreshed = q.refreshed) ∨
    ∃ causes later, (q.steps events).refreshed = q.refreshed ++ causes :: later ∧ cause ∈ causes ∧
      (.queue cause ∉ events → ∀ other ∈ later, cause ∉ other) := by
  induction events generalizing q with
  | nil => exact .inl ⟨rfl, hpending⟩
  | cons event events ih =>
    have hsteps : q.steps (event :: events) = (q.step event).steps events := rfl
    rcases q.step_effect event cause with ⟨hsame, hkept, -⟩ | ⟨hempty, htaken⟩
    · rcases hkept hpending with rfl | hstill
      · exact .inr (.inl ⟨[], events, rfl, rfl⟩)
      · rw [hsteps, ← hsame]
        refine (ih hstill).imp_right (Or.imp ?_ ?_)
        · rintro ⟨before, after, rfl, hbefore⟩
          exact ⟨event :: before, after, rfl, hbefore⟩
        · rintro ⟨causes, later, hlater, hmem, hnone⟩
          exact ⟨causes, later, hlater, hmem,
            fun hqueue => hnone fun h => hqueue (List.mem_cons_of_mem _ h)⟩
    · -- the refresh empties the pending causes, so only another `queue` brings this one back
      obtain ⟨later, hlater, hnone⟩ := not_refreshed (q.step event) events cause
      refine .inr (.inr ⟨q.pendingCauses, later, by simp [hsteps, hlater, htaken], hpending, ?_⟩)
      exact fun hqueue => hnone (by simp [hempty]) fun h => hqueue (List.mem_cons_of_mem _ h)

end RefreshQueue

open RefreshQueue

/-- After any events at most one refresh is in progress. If causes are pending, a timer is armed that
starts a refresh with them, or a refresh is in progress whose end does. And a cause that is queued then
is, after any further events, still pending, cancelled before a refresh, or in the set of the next
refresh, and in no later set unless it is queued again. -/
theorem structural_refreshes_kept {C : Type} [DecidableEq C] (events : List (RefreshEvent C)) :
    let q := ({} : RefreshQueue C).steps events
    q.inProgress ≤ 1 ∧
    (q.pendingCauses ≠ ∅ →
      (q.armedTimers = 1 ∧ (q.step .timerFires).refreshed = q.refreshed ++ [q.pendingCauses]) ∨
      (q.inProgress = 1 ∧ ∀ outcome,
        (q.step (.refreshEnds outcome)).refreshed = q.refreshed ++ [q.pendingCauses])) ∧
    ∀ cause further,
      let q' := (q.step (.queue cause)).steps further
      (q'.refreshed = q.refreshed ∧ cause ∈ q'.pendingCauses) ∨
      (∃ before after, further = before ++ .cancel :: after ∧
        ((q.step (.queue cause)).steps before).refreshed = q.refreshed) ∨
      ∃ causes later, q'.refreshed = q.refreshed ++ causes :: later ∧ cause ∈ causes ∧
        (.queue cause ∉ further → ∀ other ∈ later, cause ∉ other) := by
  intro q
  have hserial : q.Serial := Serial.steps ⟨rfl, rfl, .inl rfl, by simp⟩
  refine ⟨?_, fun hpending => ?_, fun cause further => ?_⟩
  · rw [hserial.progress]
    split <;> omega
  · rcases hserial.attended hpending with htimer | hrunning
    · have hidle : q.running = false := hserial.exclusive.resolve_left (by simp [htimer])
      have harmed : q.armedTimers = 1 := by simp [hserial.armed, htimer]
      refine .inl ⟨harmed, ?_⟩
      simp [step, runPendingRefresh, harmed, hidle, hpending]
    · have hprogress : q.inProgress = 1 := by simp [hserial.progress, hrunning]
      refine .inr ⟨hprogress, fun outcome => ?_⟩
      simp [step, settleRefresh, runPendingRefresh, hprogress, hpending]
  · have hqueued : (q.step (.queue cause)).refreshed = q.refreshed ∧
        cause ∈ (q.step (.queue cause)).pendingCauses := by
      simp only [step, queue]
      split_ifs <;> simp
    rw [← hqueued.1]
    exact served hqueued.2

end Theia.Client
