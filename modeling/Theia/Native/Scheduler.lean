import Theia.ForStd.Run
import Theia.Native.SchedulerDispatch

/-!
# The scheduler's transitions

Inventory refresh, reconciliation, re-due requests, promotion of due work, completion and the
run lifecycle of `scheduler.go`, and the transition system they form.

A loop over the item map takes the order in which Go happens to visit the keys as an input
(`order`); `Op.Valid` asks that it is an enumeration of the map. Clock readings, the answer of
the membership gate and the jitter sample are inputs as well.
-/

namespace Theia

/-! ### Task keys and intervals -/

def newEssentialTaskKey (deviceID : UUID) : TaskKey := { deviceID, kind := .essential }

def newBackgroundTaskKey (deviceID : UUID) (volatility : VolatilityClass) : TaskKey :=
  { deviceID, kind := .background, volatilityClass := volatility }

def newBootstrapTaskKey (deviceID : UUID) : TaskKey := { deviceID, kind := .bootstrap }

def effectiveInterval (device : Device) : VolatilityClass → Duration
  | .performance =>
    match device.pollIntervalOverride with
    | some seconds => if 0 < seconds then seconds * second else device.pollClass.interval
    | none => device.pollClass.interval
  | .operational => operationalClassInterval
  | .static => staticClassInterval
  | .unset => device.pollClass.interval

def essentialInterval (device : Device) : Duration := effectiveInterval device .performance

def shouldScheduleRecurringDevice (device : Device) : Bool :=
  device.managed && devicePollingEnabled device && !isVirtualNoIPDevice device

def shouldScheduleEssentialTask (device : Device) : Bool :=
  shouldScheduleRecurringDevice device && !isVirtualWithIPDevice device

def shouldScheduleBootstrapTask (device : Device) : Bool :=
  shouldScheduleRecurringDevice device && device.deviceType ≠ .virtual &&
    trimSpace device.ip ≠ "" &&
    !(device.metricsSource = .prometheus || device.metricsSource = .none) &&
    normalizeTopologyBootstrapState device.topologyBootstrapState = .pending

def scheduledBackgroundVolatilityClassesForDevice (device : Device) : List VolatilityClass :=
  if device.deviceType = .virtual then [.operational] else [.performance, .operational, .static]

def initialOffsetForKey (key : TaskKey) (interval : Duration) : Duration :=
  if interval ≤ 0 then 0
  else
    let bytes := key.deviceID.bytes ++ stringBytes "|" ++ stringBytes key.kind.toString ++
      stringBytes "|" ++ stringBytes key.volatilityClass.toString
    (fnv64a bytes : Int) % interval

/-- `jitteredNext`, for a sampled deviation of at most a tenth of the interval. -/
def jitteredNext (lastFire : Time) (interval sampledDelta : Duration) : Time :=
  if interval ≤ 0 then lastFire else lastFire + (interval + sampledDelta)

/-- `Time.Sub`, which saturates at the ends of the `int64` range of `Duration`. -/
def Time.sub (t u : Time) : Duration := max (-2 ^ 63) (min (t - u) (2 ^ 63 - 1))

/-- Arithmetic on `Duration` wraps. -/
def Duration.wrap (d : Int) : Duration := Int.bmod d (2 ^ 64)

def nextPhaseAfter (previousDue : Time) (interval : Duration) (after : Time) : Time :=
  if interval ≤ 0 then after
  else if Time.isZero previousDue then after + interval
  else if after < previousDue + interval then previousDue + interval
  else
    let windows := Duration.wrap ((Time.sub after previousDue).tdiv interval + 1)
    previousDue + Duration.wrap (windows * interval)

/-! ### Writing a device into an item -/

/-- The key, kind, lane and class under which a task is scheduled. -/
structure TaskShape where
  key : TaskKey
  kind : TaskKind
  lane : Lane
  volatilityClass : VolatilityClass
  deriving DecidableEq, Repr

/-- The shape of a device's essential task. -/
def essentialShape (deviceID : UUID) : TaskShape where
  key := newEssentialTaskKey deviceID
  kind := .essential
  lane := .essential
  volatilityClass := .unset

/-- The shape of a device's background task of one class. -/
def backgroundShape (deviceID : UUID) (volatility : VolatilityClass) : TaskShape where
  key := newBackgroundTaskKey deviceID volatility
  kind := .background
  lane := .background
  volatilityClass := volatility

/-- The shape of a device's bootstrap task. -/
def bootstrapShape (deviceID : UUID) : TaskShape where
  key := newBootstrapTaskKey deviceID
  kind := .bootstrap
  lane := .bootstrap
  volatilityClass := .static

/-- Write a device and a due time into an item: the assignments that `upsertScheduledItem`,
`applyPerformanceRedue`, `applyEssentialRedue` and `applyBootstrapSchedule` share. -/
def HeapItem.reschedule (item : HeapItem) (shape : TaskShape) (device : Device) (dueAt : Time)
    (interval : Duration) : HeapItem :=
  { item with
    disabled := false
    interval := interval
    dueAt := dueAt
    task :=
      { item.task with
        key := shape.key
        kind := shape.kind
        lane := shape.lane
        device := device
        pollClass := device.pollClass
        volatilityClass := shape.volatilityClass
        expectedInterval := interval
        dueAt := dueAt
        deadlineAt := dueAt + interval } }

/-- A new item, not yet in the heap or a queue. -/
def HeapItem.fresh (shape : TaskShape) (device : Device) (dueAt : Time) (interval : Duration) :
    HeapItem where
  task :=
    { key := shape.key, kind := shape.kind, lane := shape.lane, device := device
      pollClass := device.pollClass, volatilityClass := shape.volatilityClass
      expectedInterval := interval, dueAt := dueAt, deadlineAt := dueAt + interval }
  dueAt := dueAt
  interval := interval

namespace Scheduler

/-- `upsertScheduledItem`: an existing item keeps its due time and its place. -/
def upsertScheduledItem (s : Scheduler) (device : Device) (shape : TaskShape)
    (interval : Duration) (now : Time) : Scheduler :=
  match s.items.get shape.key with
  | some r => s.modify r fun item => item.reschedule shape device item.dueAt interval
  | none =>
    let dueAt := now + initialOffsetForKey shape.key interval
    let (s, r) := s.alloc (HeapItem.fresh shape device dueAt interval)
    let s := s.heapPush r
    { s with items := s.items.insert shape.key r }

/-- Make a task due at `changedAt`: the common body of `handleReduePerformanceTask`,
`handleRedueEssentialTask` and `scheduleBootstrapItem`. -/
def redueItem (s : Scheduler) (device : Device) (shape : TaskShape) (interval : Duration)
    (changedAt : Time) : Scheduler :=
  match s.items.get shape.key with
  | some r =>
    let s := s.modify r fun item => item.reschedule shape device changedAt interval
    let item := s.store r
    if item.inFlight then
      s.modify r fun item => { item with pending := true, immediateRerun := true }
    else if item.queued then (s.removeReadyItem r).pushReadyFront r
    else if 0 ≤ item.index then s.heapFix item.index.toNat
    else s.pushReadyFront r
  | none =>
    let (s, r) := s.alloc (HeapItem.fresh shape device changedAt interval)
    { s with items := s.items.insert shape.key r }.pushReadyFront r

def scheduleBootstrapItem (s : Scheduler) (device : Device) (dueAt : Time) : Scheduler :=
  s.redueItem device (bootstrapShape device.id) staticClassInterval dueAt

/-- The bootstrap part of `scheduleRecurringDeviceLocked`: an existing item is rewritten in
place with its own due time, a missing one becomes due at once. -/
def upsertBootstrapItem (s : Scheduler) (device : Device) (now : Time) : Scheduler :=
  match s.items.get (newBootstrapTaskKey device.id) with
  | some r =>
    s.modify r fun item =>
      item.reschedule (bootstrapShape device.id) device item.dueAt staticClassInterval
  | none => s.scheduleBootstrapItem device now

/-- The keys that `scheduleRecurringDeviceLocked` schedules for a device. -/
def scheduledKeys (device : Device) : List TaskKey :=
  (if shouldScheduleEssentialTask device then [newEssentialTaskKey device.id] else []) ++
  (if shouldScheduleBootstrapTask device then [newBootstrapTaskKey device.id] else []) ++
  (scheduledBackgroundVolatilityClassesForDevice device).map (newBackgroundTaskKey device.id)

/-- `scheduleRecurringDeviceLocked`; the keys it marks as seen are `scheduledKeys device`. -/
def scheduleRecurringDeviceLocked (s : Scheduler) (device : Device) (now : Time) : Scheduler :=
  let s :=
    if shouldScheduleEssentialTask device then
      s.upsertScheduledItem device (essentialShape device.id) (essentialInterval device) now
    else s
  let s := if shouldScheduleBootstrapTask device then s.upsertBootstrapItem device now else s
  (scheduledBackgroundVolatilityClassesForDevice device).foldl
    (fun s volatility => s.upsertScheduledItem device (backgroundShape device.id volatility)
      (effectiveInterval device volatility) now) s

/-- The first loop of `refreshDevices`. -/
def scheduleDevices (s : Scheduler) (devices : List Device) (now : Time) : Scheduler :=
  devices.foldl (fun s device =>
    if shouldScheduleRecurringDevice device then s.scheduleRecurringDeviceLocked device now
    else s) s

/-- The keys seen by the first loop of `refreshDevices`. -/
def seenKeys (devices : List Device) : List TaskKey :=
  devices.flatMap fun device =>
    if shouldScheduleRecurringDevice device then scheduledKeys device else []

/-- One pass of the second loop of `refreshDevices`: work in progress is only disabled. -/
def dropUnseen (seen : List TaskKey) (s : Scheduler) (key : TaskKey) : Scheduler :=
  match s.items.get key with
  | none => s
  | some r =>
    if key ∈ seen then s
    else
      let item := s.store r
      if item.inFlight || item.queued then s.modify r fun item => { item with disabled := true }
      else
        let s := if 0 ≤ item.index then s.heapRemove item.index.toNat else s
        { s with items := s.items.erase key }

/-- `refreshDevices`; `none` is a failed `GetDevices`. -/
def refreshDevices (s : Scheduler) (devices : Option (List Device)) (now : Time)
    (order : List TaskKey) : Scheduler :=
  match devices with
  | none => s
  | some devices => order.foldl (dropUnseen (seenKeys devices)) (s.scheduleDevices devices now)

/-- One pass of `removeDeviceTasksLocked`. -/
def removeDeviceTask (deviceID : UUID) (s : Scheduler) (key : TaskKey) : Scheduler :=
  match s.items.get key with
  | none => s
  | some r =>
    if key.deviceID ≠ deviceID then s
    else
      let s := if (s.store r).queued then s.removeReadyItem r else s
      let item := s.store r
      let s := if 0 ≤ item.index then s.heapRemove item.index.toNat else s
      let s := s.modify r fun item => { item with pending := false }
      if (s.store r).inFlight then s.modify r fun item => { item with disabled := true }
      else { s with items := s.items.erase key }

def removeDeviceTasksLocked (s : Scheduler) (deviceID : UUID) (order : List TaskKey) : Scheduler :=
  order.foldl (removeDeviceTask deviceID) s

/-- How the device source answers whether it includes a device: it has no membership gate, or the
gate's answer, or the gate fails. -/
inductive MembershipGate
  | absent
  | answers (included : Bool)
  | fails
  deriving DecidableEq, Repr

def sourceIncludesDevice : MembershipGate → Bool
  | .absent => true
  | .answers included => included
  | .fails => false

/-- `ReconcileDeviceTasks`; `included` is the answer of `sourceIncludesDevice`. -/
def reconcileDeviceTasks (s : Scheduler) (device : Device) (included : Bool) (changedAt now : Time)
    (order : List TaskKey) : Scheduler :=
  let changedAt := if changedAt.isZero then now else changedAt
  let s := s.removeDeviceTasksLocked device.id order
  if included && shouldScheduleRecurringDevice device then
    s.scheduleRecurringDeviceLocked device changedAt
  else s

/-- The guard shared by the redue handlers. -/
def redueAllowed (device : Device) (included : Bool) : Bool :=
  shouldScheduleRecurringDevice device && included && device.deviceType ≠ .virtual

def handleReduePerformanceTask (s : Scheduler) (device : Device) (included : Bool)
    (changedAt now : Time) : Scheduler :=
  if redueAllowed device included then
    let changedAt := if changedAt.isZero then now else changedAt
    if shouldScheduleBootstrapTask device then s.scheduleBootstrapItem device changedAt
    else
      s.redueItem device (backgroundShape device.id .performance)
        (effectiveInterval device .performance) changedAt
  else s

def handleRedueEssentialTask (s : Scheduler) (device : Device) (included : Bool)
    (changedAt now : Time) : Scheduler :=
  if redueAllowed device included then
    let changedAt := if changedAt.isZero then now else changedAt
    s.redueItem device (essentialShape device.id) (essentialInterval device) changedAt
  else s

def markSkippedWindow (s : Scheduler) (r : ItemRef) : Scheduler :=
  if (s.store r).pending then s
  else s.modify r fun item =>
    { item with pending := true, skippedWindows := item.skippedWindows + 1 }

/-- One pass of `markElapsedInFlightWindows`. -/
def markElapsed (now : Time) (s : Scheduler) (key : TaskKey) : Scheduler :=
  match s.items.get key with
  | none => s
  | some r =>
    let item := s.store r
    if !item.inFlight || decide (now < item.dueAt) then s
    else if 0 < item.interval ∧ now < item.dueAt + item.interval then s
    else s.markSkippedWindow r

def markElapsedInFlightWindows (s : Scheduler) (now : Time) (order : List TaskKey) : Scheduler :=
  if s.inFlight ≤ 0 then s else order.foldl (markElapsed now) s

/-- The loop of `moveDueTasksToReady`; every pass pops the heap, so its length is enough fuel. -/
def moveLoop (now : Time) : Nat → Scheduler → Scheduler
  | 0, s => s
  | fuel + 1, s =>
    match s.heap.head? with
    | none => s
    | some r =>
      if now < (s.store r).dueAt then s
      else
        let s := s.heapPop
        let item := s.store r
        if item.disabled then moveLoop now fuel { s with items := s.items.erase item.task.key }
        else if item.inFlight then moveLoop now fuel (s.markSkippedWindow r)
        else if item.queued then moveLoop now fuel (s.markSkippedWindow r)
        else moveLoop now fuel (s.enqueueReady r)

def moveDueTasksToReady (s : Scheduler) (now : Time) (order : List TaskKey) : Scheduler :=
  moveLoop now s.heap.length (s.markElapsedInFlightWindows now order)

def taskIsBackground (task : PollTask) : Bool :=
  task.kind = .background ∨ task.key.kind = .background

/-- Whether `handleCompletion` accepts a completion for an item. -/
def acceptsCompletion (item : HeapItem) (c : Completion) (finishedAt : Time) : Bool :=
  item.inFlight && !(!Time.isZero item.dispatchedAt && decide (finishedAt < item.dispatchedAt)) &&
    c.runID = item.runID

/-- What `handleCompletion` does with an item that stays enabled: run it again at once, or
put it back in the heap at its next due time. -/
def requeueCompleted (s : Scheduler) (r : ItemRef) (finishedAt : Time) (jitter : Duration) :
    Scheduler :=
  let item := s.store r
  let overdue := 0 < item.interval ∧ item.dueAt + item.interval < finishedAt
  let s := s.modify r fun item => { item with pending := false, immediateRerun := false }
  if item.immediateRerun ∨ (item.task.kind = .essential ∧ (item.pending ∨ overdue)) then
    let s := s.modify r fun item =>
      { item with
        dueAt := finishedAt
        task := { item.task with dueAt := finishedAt, deadlineAt := finishedAt + item.interval } }
    s.enqueueReady r
  else
    let next :=
      if taskIsBackground item.task then nextPhaseAfter item.dueAt item.interval finishedAt
      else jitteredNext finishedAt item.interval jitter
    let s := s.modify r fun item =>
      { item with
        dueAt := next
        task := { item.task with dueAt := next, deadlineAt := next + item.interval }
        skippedWindows := 0 }
    s.heapPush r

/-- `handleCompletion`, with the task it accepts as completed. -/
def handleCompletion (s : Scheduler) (c : Completion) (now : Time) (jitter : Duration) :
    Scheduler × Bool :=
  match s.items.get c.key with
  | none => (s, false)
  | some r =>
    let item := s.store r
    let finishedAt := if c.finishedAt.isZero then now else c.finishedAt
    if acceptsCompletion item c finishedAt then
      let s := { s with inFlight := s.inFlight - 1 }
      let s := s.decrementInFlight item.task
      let s := s.modify r fun item =>
        { item with
          inFlight := false, dispatchedAt := 0, runID := 0, task := { item.task with runID := 0 } }
      if item.disabled then ({ s with items := s.items.erase c.key }, true)
      else (s.requeueCompleted r finishedAt jitter, true)
    else (s, false)

/-- `resetRuntimeState`; the task, completion and redue channels are drained. -/
def resetRuntimeState (s : Scheduler) : Scheduler :=
  { store := s.store, nextRef := s.nextRef, runID := s.runID }

/-! ### The transition system -/

/-- One critical section of the scheduler with the inputs it reads. -/
inductive Op
  | start (devices : Option (List Device)) (now : Time) (order : List TaskKey)
  | stop
  | refresh (devices : Option (List Device)) (now : Time) (order : List TaskKey)
  | reconcile (device : Device) (included : Bool) (changedAt now : Time) (order : List TaskKey)
  | reduePerformance (device : Device) (included : Bool) (changedAt now : Time)
  | redueEssential (device : Device) (included : Bool) (changedAt now : Time)
  | move (now : Time) (order : List TaskKey)
  | dispatch (limits : DispatchLimits) (now : Time) (cancelAfter : Option Nat)
  | complete (c : Completion) (now : Time) (jitter : Duration)

/-- What a run shows to the outside: the tasks sent, the completions accepted, the end of a
run. -/
inductive Event
  | dispatched (task : PollTask)
  | completed (runID : Nat) (key : TaskKey)
  | stopped
  deriving DecidableEq, Repr

/-- The effect of one critical section. `Start` does nothing while started, `Stop` nothing
while stopped. -/
def step (s : Scheduler) : Op → Scheduler × List Event
  | .start devices now order =>
    if s.started then (s, [])
    else ({ s with started := true, runID := s.runID + 1 }.refreshDevices devices now order, [])
  | .stop => if s.started then (s.resetRuntimeState, [.stopped]) else (s, [])
  | .refresh devices now order => (s.refreshDevices devices now order, [])
  | .reconcile device included changedAt now order =>
    (s.reconcileDeviceTasks device included changedAt now order, [])
  | .reduePerformance device included changedAt now =>
    (s.handleReduePerformanceTask device included changedAt now, [])
  | .redueEssential device included changedAt now =>
    (s.handleRedueEssentialTask device included changedAt now, [])
  | .move now order => (s.moveDueTasksToReady now order, [])
  | .dispatch limits now cancelAfter =>
    let (s, sent) := s.dispatchReady limits now cancelAfter
    (s, sent.map .dispatched)
  | .complete c now jitter =>
    let (s', accepted) := s.handleCompletion c now jitter
    (s', if accepted then [.completed c.runID c.key] else [])

/-- `order` visits every key of a map once. -/
def Enumerates (order : List TaskKey) (items : FMap TaskKey ItemRef) : Prop :=
  order.Nodup ∧ order.toFinset = items.dom
  deriving Decidable

/-- The steps that can be taken: only the run loop of a started scheduler refreshes, moves,
dispatches and handles requests; a loop over the item map visits every key once. -/
def Op.Valid (s : Scheduler) : Op → Prop
  | .start (some devices) now order =>
    Enumerates order ({ s with started := true, runID := s.runID + 1 }.scheduleDevices
      devices now).items
  | .start none _ _ | .stop => True
  | .refresh (some devices) now order =>
    s.started = true ∧ Enumerates order (s.scheduleDevices devices now).items
  | .refresh none _ _ => s.started = true
  | .reconcile _ _ _ _ order => Enumerates order s.items
  | .move _ order => s.started = true ∧ Enumerates order s.items
  | .reduePerformance _ _ _ _ | .redueEssential _ _ _ _ | .dispatch _ _ _ | .complete _ _ _ =>
    s.started = true

instance (s : Scheduler) (op : Op) : Decidable (op.Valid s) := by
  unfold Op.Valid
  split <;> infer_instance

/-- `NewScheduler` -/
def IsNew (s : Scheduler) : Prop := s = {}

/-- One step with the events it emits. -/
def Step (s : Scheduler) (es : List Event) (s' : Scheduler) : Prop :=
  ∃ op : Op, op.Valid s ∧ s.step op = (s', es)

/-- A state the scheduler can reach, with what it did so far. -/
abbrev Reached : Scheduler → List Event → Prop := Run IsNew Step

/-- Run a list of critical sections from a state with its history; `none` if one of them cannot
be taken there or is not `allowed`. -/
def exec (allowed : Scheduler → Op → Bool) :
    Scheduler × List Event → List Op → Option (Scheduler × List Event)
  | st, [] => some st
  | (s, tr), op :: ops =>
    if op.Valid s ∧ allowed s op then exec allowed ((s.step op).1, tr ++ (s.step op).2) ops
    else none

end Scheduler

end Theia
