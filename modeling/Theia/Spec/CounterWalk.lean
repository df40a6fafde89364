import Theia.Native.CounterWalk

/-!
# When counter walks are skipped

The stored state of a walk is a function of its timeouts since its last other result: from the
second one on each of them starts a cooldown, which doubles with every further timeout and is
between a minute and half an hour.
-/

namespace Theia.CounterWalkCooldowns

open List

variable {c : CounterWalkCooldowns} {d : UUID} {o : String} {earlier : List (Time × Duration)}

/-- The cooldown after `n` more timeouts than the two that start one. -/
def cooldown (expectedInterval : Duration) (n : Nat) : Duration :=
  max minCooldown (min maxCooldown
    ((if expectedInterval ≤ 0 then minCooldown else expectedInterval) * 2 ^ n))

theorem min_backOff (level : Nat) {duration : Int} (hpos : 0 < duration) :
    min maxCooldown (backOff level duration) = min maxCooldown (duration * 2 ^ level) := by
  induction level generalizing duration with
  | zero => rw [backOff, pow_zero, mul_one]
  | succ level ih =>
    have hpow : duration * 2 ^ (level + 1) = duration * 2 * 2 ^ level := by ring
    rw [backOff, hpow]
    split
    · -- the next doubling reaches the bound already
      rename_i hhalf
      have hle : duration * 2 ≤ duration * 2 * 2 ^ level :=
        le_mul_of_one_le_right (by positivity) (one_le_pow₀ (by norm_num))
      have hmax : maxCooldown ≤ duration * 2 := by
        have hhalf : 1800000000000 / 2 ≤ duration := hhalf
        show 1800000000000 ≤ duration * 2
        omega
      rw [min_self, min_eq_left (hmax.trans hle)]
    · exact ih (by positivity)

/-- The loop that doubles until it reaches the bound. -/
theorem counterWalkCooldownDuration_eq (expectedInterval : Duration) (level : Nat) :
    counterWalkCooldownDuration expectedInterval level = cooldown expectedInterval level := by
  have hpos : 0 < if expectedInterval ≤ 0 then minCooldown else expectedInterval := by
    split
    · decide
    · exact not_le.1 ‹_›
  have hle : minCooldown ≤ maxCooldown := by decide
  rw [cooldown, ← min_backOff level hpos]
  simp only [counterWalkCooldownDuration]
  grind

/-- The timeouts of a walk since its last other result, the latest first. -/
def timeouts (d : UUID) (o : String) (earlier : List (Time × Duration)) :
    Op → List (Time × Duration)
  | .record deviceID operation result now expectedInterval =>
    if deviceID = d ∧ operation = o then match result with
      | .timeout => (now, expectedInterval) :: earlier
      | .skippedCooldown => earlier
      | .success | .failed => []
    else earlier
  | .reset deviceID => if deviceID = d then [] else earlier

/-- The stored state of a walk. -/
def stateAt (c : CounterWalkCooldowns) (d : UUID) (o : String) :
    Option CounterWalkCooldownState := (c.get d).bind (·.get o)

/-- The state after some timeouts. -/
def stateOf : List (Time × Duration) → Option CounterWalkCooldownState
  | [] => none
  | [_] => some { consecutiveTimeouts := 1 }
  | (now, expectedInterval) :: _ :: more => some
      { consecutiveTimeouts := more.length + 2
        backoffLevel := more.length + 1
        cooldownUntil := now + counterWalkCooldownDuration expectedInterval more.length }

theorem stateAt_clear (deviceID : UUID) (operation : String) :
    (c.clearCounterWalkCooldown deviceID operation).stateAt d o =
      if deviceID = d ∧ operation = o then none else c.stateAt d o := by
  unfold clearCounterWalkCooldown
  split
  · grind [stateAt]
  rename_i operations hsome
  by_cases hd : deviceID = d
  · subst hd
    have herase : (if deviceID = deviceID ∧ operation = o then none else c.stateAt deviceID o) =
        (operations.erase operation).get o := by
      grind [stateAt, FMap.get_erase]
    rw [herase]
    split_ifs with hempty hrest
    · grind [stateAt, FMap.get_erase, FMap.isEmpty_iff]
    · rw [FMap.isEmpty_iff.1 hrest o]
      simp [stateAt]
    · simp [stateAt]
  · split_ifs <;> grind [stateAt, FMap.get_insert, FMap.get_erase]

theorem get_getD (d : UUID) (o : String) : ((c.get d).getD ∅).get o = c.stateAt d o := by
  unfold stateAt
  cases c.get d <;> rfl

theorem stateAt_insert (deviceID : UUID) (operation : String) (state : CounterWalkCooldownState) :
    stateAt (c.insert deviceID (((c.get deviceID).getD ∅).insert operation state)) d o =
      if deviceID = d ∧ operation = o then some state else c.stateAt d o := by
  by_cases hd : deviceID = d
  · subst hd
    simp [stateAt, get_getD, eq_comm]
  · simp [stateAt, hd, Ne.symm hd]

/-- One call keeps the state of every walk what its timeouts make it. -/
theorem stateAt_step (hd : d ≠ UUID.nil) (ho : o ≠ "") (h : c.stateAt d o = stateOf earlier)
    (op : Op) : (c.step op).stateAt d o = stateOf (timeouts d o earlier op) := by
  cases op with
  | reset deviceID =>
    simp only [step, resetDeviceRuntime, timeouts]
    grind [stateAt, stateOf, FMap.get_erase]
  | record deviceID operation result now expectedInterval =>
    by_cases hsame : deviceID = d ∧ operation = o
    · obtain ⟨rfl, rfl⟩ := hsame
      simp only [step, recordCounterWalkResult, timeouts, hd, ho, or_self, if_false, and_self,
        if_true]
      cases result with
      | skippedCooldown => exact h
      | success | failed => rw [stateAt_clear, if_pos ⟨rfl, rfl⟩]; rfl
      | timeout =>
        rw [stateAt_insert, if_pos ⟨rfl, rfl⟩, get_getD, h]
        -- the first timeout, the second one and the later ones
        cases earlier with
        | nil => simp [stateOf]
        | cons _ more => cases more <;> simp [stateOf]
    · simp only [step, recordCounterWalkResult, timeouts, if_neg hsame, ← h]
      split
      · rfl
      cases result with
      | skippedCooldown => rfl
      | success | failed => exact (stateAt_clear _ _).trans (if_neg hsame)
      | timeout => exact (stateAt_insert _ _ _).trans (if_neg hsame)

/-- For every sequence of results and resets: a walk is skipped exactly while the cooldown of its
last timeout runs, if another timeout came right before it. -/
theorem skips_iff (ops : List Op) (d : UUID) (o : String) (now : Time) :
    (ops.foldl step ∅).shouldSkipCounterWalk d o now = true ↔ d ≠ UUID.nil ∧ o ≠ "" ∧
      ∃ last expectedInterval before more,
        ops.foldl (timeouts d o) [] = (last, expectedInterval) :: before :: more ∧
        last + cooldown expectedInterval more.length ≠ 0 ∧
        now < last + cooldown expectedInterval more.length := by
  unfold shouldSkipCounterWalk
  split
  · grind
  rename_i hnamed
  rw [not_or] at hnamed
  have hstate : (ops.foldl step ∅).stateAt d o = stateOf (ops.foldl (timeouts d o) []) := by
    induction ops using reverseRecOn with
    | nil => rfl
    | append_singleton ops op ih =>
      rw [foldl_append, foldl_append]
      exact stateAt_step hnamed.1 hnamed.2 ih op
  rw [stateAt] at hstate
  dsimp only
  rw [hstate, Bool.and_eq_true, Bool.not_eq_true', Time.isZero, decide_eq_false_iff_not,
    decide_eq_true_iff]
  simp only [← counterWalkCooldownDuration_eq]
  cases hrecent : ops.foldl (timeouts d o) [] with
  | nil => simp [stateOf]
  | cons latest earlier =>
    obtain ⟨last, expectedInterval⟩ := latest
    cases earlier <;> simp [stateOf, hnamed]

end Theia.CounterWalkCooldowns
