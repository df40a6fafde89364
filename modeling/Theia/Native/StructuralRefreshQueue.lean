import Mathlib

/-!
# Coalesced structural refreshes

Port of `createStructuralRefreshQueue` of `structuralRefreshQueue.ts`. Besides the variables of the
closure, the state has what happens around it: the timers that wait to fire, the calls of `runRefresh`
that are in progress and the sets that `runRefresh` was called with.

A call of `runRefresh` is in progress until it has returned nothing, has thrown or the promise that it
returned has settled, and each of these goes to `settleRefresh`. What comes after `settleRefresh` in
`runPendingRefresh` is only a return, and no call of `runPendingRefresh` throws, so the refreshes that
nested calls start follow one another as events. `queue` and `cancel` can come at any time, also from
inside of `runRefresh`.
-/

namespace Theia.Client

/-- How a call of `runRefresh` ends. -/
inductive RefreshOutcome
  | returned | threw | fulfilled | rejected

inductive RefreshEvent (C : Type)
  | queue (cause : C)
  | cancel
  | timerFires
  | refreshEnds (outcome : RefreshOutcome)

structure RefreshQueue (C : Type) where
  pendingCauses : Finset C := ∅
  /-- `timer` is not null. -/
  timer : Bool := false
  running : Bool := false
  armedTimers : Nat := 0
  inProgress : Nat := 0
  refreshed : List (Finset C) := []

namespace RefreshQueue

variable {C : Type} [DecidableEq C] (q : RefreshQueue C)

/-- `runPendingRefresh`, up to the call of `runRefresh`. -/
def runPendingRefresh : RefreshQueue C :=
  if q.running ∨ q.pendingCauses = ∅ then q
  else
    { q with
      pendingCauses := ∅
      running := true
      inProgress := q.inProgress + 1
      refreshed := q.refreshed ++ [q.pendingCauses] }

def settleRefresh : RefreshQueue C := runPendingRefresh { q with running := false }

def queue (cause : C) : RefreshQueue C :=
  let q := { q with pendingCauses := insert cause q.pendingCauses }
  if q.running ∨ q.timer then q else { q with timer := true, armedTimers := q.armedTimers + 1 }

def cancel : RefreshQueue C :=
  let q := if q.timer then { q with timer := false, armedTimers := q.armedTimers - 1 } else q
  { q with pendingCauses := ∅ }

/-- One event. A timer fires only if one is armed, and only a call in progress ends. -/
def step : RefreshEvent C → RefreshQueue C
  | .queue cause => q.queue cause
  | .cancel => q.cancel
  | .timerFires =>
    if q.armedTimers = 0 then q
    else runPendingRefresh { q with timer := false, armedTimers := q.armedTimers - 1 }
  | .refreshEnds _ =>
    if q.inProgress = 0 then q else settleRefresh { q with inProgress := q.inProgress - 1 }

def steps (events : List (RefreshEvent C)) : RefreshQueue C := events.foldl step q

end RefreshQueue

end Theia.Client
