import Theia.Native.Broadcaster

/-!
# The broadcast loop

`broadcastLoop` of `internal/worker/pipeline_snapshot_broadcaster.go` as a state machine: the
marks that the loop keeps between flushes, one event for each case of its `select`, and the events
of other goroutines that touch the same runtime state or the overflow flag of the state store.
-/

namespace Theia

/-- The state of the loop, with the runtime state and `Store.overflowed`. -/
structure BroadcastLoop where
  runtime : PipelineRuntimeState
  overflowed : Bool := false
  dirtyDevices : Finset UUID := ∅
  topologyDirty : Bool := false
  alertsDirty : Bool := false
  forceFull : Bool := false
  flushScheduled : Bool := false

namespace BroadcastLoop

inductive Event
  /-- A batch of `Store.Changes`. -/
  | stateChanges (ids : List UUID)
  /-- A `domain.DeviceChangeEvent`. -/
  | deviceChange (kind : ChangeKind) (deviceID : UUID)
  /-- A `domain.LinkChangeEvent`. -/
  | linkChange
  | topologyNotify
  | alertNotify
  /-- A tick of the full resync ticker. -/
  | fullResync
  /-- The flush timer fires. -/
  | flush (hasOverviewClients : Bool) (reads : OverviewReads) (streamID : String)
  /-- `emitChanges` drops a batch. -/
  | storeOverflow
  /-- The Prometheus monitor stores alerts. -/
  | setAlerts (next : FMap UUID (List AlertState)) (changed : Bool)
  | setPrometheusStatus (status : PrometheusStatus)
  /-- A client asks for the overview. -/
  | getOrBuildOverviewState (reads : OverviewReads) (streamID : String) (hasOverviewClients : Bool)

def addDirtyDeviceIDs (target : Finset UUID) (ids : List UUID) : Finset UUID :=
  ids.foldl (fun target id => if id = UUID.nil then target else insert id target) target

def resetDirtyState (s : BroadcastLoop) : BroadcastLoop :=
  { s with
    dirtyDevices := ∅
    topologyDirty := false
    alertsDirty := false
    forceFull := false
    flushScheduled := false }

section Step

variable (lower : Char → Char) (hash : List WireValue → Nat)
  (marshal : RuntimeDeltaPayload → Option Nat)

/-- The loop before its first event: the inputs are drained and `broadcastOnce` has run. -/
def start (runtime : PipelineRuntimeState) (reads : OverviewReads) (streamID : String)
    (drainedTopology : Bool) : BroadcastLoop where
  runtime := (runtime.broadcastOnce lower hash marshal reads streamID drainedTopology).1

/-- A flush: `consumeResyncRequired` clears the overflow flag, and the marks are cleared whether
`broadcastDirty` fails or not. -/
def flush (s : BroadcastLoop) (hasOverviewClients : Bool) (reads : OverviewReads)
    (streamID : String) : BroadcastLoop :=
  let result := s.runtime.broadcastDirty lower hash marshal s.dirtyDevices s.alertsDirty
    s.topologyDirty s.forceFull s.overflowed hasOverviewClients reads streamID
  { s with
    runtime := (result.getD (s.runtime, [])).1
    overflowed := false }.resetDirtyState

/-- One iteration of the loop, or one action of another goroutine. -/
def step (s : BroadcastLoop) : Event → BroadcastLoop
  | .stateChanges ids =>
    { s with dirtyDevices := addDirtyDeviceIDs s.dirtyDevices ids, flushScheduled := true }
  | .deviceChange kind deviceID =>
    match kind with
    | .created | .deleted => { s with topologyDirty := true, flushScheduled := true }
    | .updated =>
      { s with
        dirtyDevices := if deviceID ≠ UUID.nil then insert deviceID s.dirtyDevices
          else s.dirtyDevices
        flushScheduled := true }
  | .linkChange => { s with topologyDirty := true, flushScheduled := true }
  | .topologyNotify => { s with topologyDirty := true, flushScheduled := true }
  | .alertNotify => { s with alertsDirty := true, flushScheduled := true }
  | .fullResync => { s with forceFull := true, flushScheduled := true }
  | .flush hasOverviewClients reads streamID =>
    if s.flushScheduled then s.flush lower hash marshal hasOverviewClients reads streamID else s
  | .storeOverflow => { s with overflowed := true }
  | .setAlerts next changed => { s with runtime := s.runtime.setAlerts next changed }
  | .setPrometheusStatus status => { s with runtime := s.runtime.setPrometheusStatus status }
  | .getOrBuildOverviewState reads streamID hasOverviewClients =>
    { s with
      runtime :=
        (s.runtime.getOrBuildOverviewState lower hash reads streamID hasOverviewClients).1 }

end Step

end BroadcastLoop

end Theia
