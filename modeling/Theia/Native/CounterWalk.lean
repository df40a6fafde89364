import Theia.ForStd.FMap
import Theia.Native.Basic

/-!
# The cooldown of counter walks

The `counterWalkCooldowns` of `internal/worker/pipeline_runtime_state.go`. Times are the caller's,
or the clock's where the caller has none. The attempt times and the last result are never read.
-/

namespace Theia

/-- The results of a walk; every other text is `failed`. -/
inductive WalkResult
  | success | timeout | skippedCooldown | failed

structure CounterWalkCooldownState where
  consecutiveTimeouts : Nat := 0
  backoffLevel : Nat := 0
  cooldownUntil : Time := 0

abbrev CounterWalkCooldowns := FMap UUID (FMap String CounterWalkCooldownState)

def minCooldown : Duration := 60 * second
def maxCooldown : Duration := 1800 * second

/-- The loop of `counterWalkCooldownDuration`. -/
def backOff : Nat → Duration → Duration
  | 0, duration => duration
  | level + 1, duration =>
    if maxCooldown / 2 ≤ duration then maxCooldown else backOff level (duration * 2)

def counterWalkCooldownDuration (expectedInterval : Duration) (backoffLevel : Nat) : Duration :=
  let expectedInterval := if expectedInterval ≤ 0 then minCooldown else expectedInterval
  let duration := backOff backoffLevel expectedInterval
  if duration < minCooldown then minCooldown
  else if maxCooldown < duration then maxCooldown
  else duration

namespace CounterWalkCooldowns

def shouldSkipCounterWalk (c : CounterWalkCooldowns) (deviceID : UUID) (operation : String)
    (now : Time) : Bool :=
  if deviceID = UUID.nil ∨ operation = "" then false
  else
    let state := ((c.get deviceID).bind (·.get operation)).getD {}
    !state.cooldownUntil.isZero && decide (now < state.cooldownUntil)

def clearCounterWalkCooldown (c : CounterWalkCooldowns) (deviceID : UUID) (operation : String) :
    CounterWalkCooldowns :=
  match c.get deviceID with
  | none => c
  | some operations =>
    if operations.isEmpty then c
    else if (operations.erase operation).isEmpty then c.erase deviceID
    else c.insert deviceID (operations.erase operation)

def recordCounterWalkResult (c : CounterWalkCooldowns) (deviceID : UUID) (operation : String)
    (result : WalkResult) (now : Time) (expectedInterval : Duration) : CounterWalkCooldowns :=
  if deviceID = UUID.nil ∨ operation = "" then c
  else match result with
    | .skippedCooldown => c
    | .success | .failed => c.clearCounterWalkCooldown deviceID operation
    | .timeout =>
      let operations := (c.get deviceID).getD ∅
      let state := (operations.get operation).getD {}
      let state := { state with consecutiveTimeouts := state.consecutiveTimeouts + 1 }
      let state :=
        if 2 ≤ state.consecutiveTimeouts then
          { state with
            cooldownUntil :=
              now + counterWalkCooldownDuration expectedInterval state.backoffLevel
            backoffLevel := state.backoffLevel + 1 }
        else state
      c.insert deviceID (operations.insert operation state)

/-- The cooldowns in `resetDeviceRuntime`. -/
def resetDeviceRuntime (c : CounterWalkCooldowns) (deviceID : UUID) : CounterWalkCooldowns :=
  if deviceID = UUID.nil then c else c.erase deviceID

inductive Op
  | record (deviceID : UUID) (operation : String) (result : WalkResult) (now : Time)
      (expectedInterval : Duration)
  | reset (deviceID : UUID)

def step (c : CounterWalkCooldowns) : Op → CounterWalkCooldowns
  | .record deviceID operation result now expectedInterval =>
    c.recordCounterWalkResult deviceID operation result now expectedInterval
  | .reset deviceID => c.resetDeviceRuntime deviceID

end CounterWalkCooldowns

end Theia
