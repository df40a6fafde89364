import Theia.Native.DirtyDelta

/-!
# Building and publishing the overview

`internal/worker/pipeline_snapshot_broadcaster.go` and `getOrBuildOverviewStateLocked` of
`internal/worker/pipeline.go`. Each function holds `overviewBuildMu`, so it is one step on the
runtime state; what it reads from the cache and the state store, the answers of the hub and the
identifier that `uuid.NewString` makes are inputs. What it hands to the hub is a list of
`HubCall`s. Metrics, logs and the alert messages, which go through another queue, are left out.
-/

namespace Theia

/-- `ws.RuntimeOverviewState` -/
structure RuntimeOverviewState where
  snapshot : SnapshotPayload
  version : Nat
  streamID : String

/-- A message for all overview clients. -/
inductive HubCall
  /-- `replaceOverviewClientsWithSnapshotLocked` -/
  | replaceOverviewClients (state : RuntimeOverviewState)
  /-- `BroadcastOverviewStreamDelta`, and the synchronization of the clients that overflow. -/
  | broadcastOverviewStreamDelta (delta : RuntimeDeltaPayload) (baseVersion version : Nat)
      (streamID : String)
  /-- The message of `broadcastTopologyInvalidationLocked`. -/
  | topologyChanged (version : Nat)

namespace PipelineRuntimeState

def newPipelineRuntimeState (initialPromStatus : PrometheusStatus) (streamID : String) :
    PipelineRuntimeState where
  overviewStreamID := streamID
  promStatus := initialPromStatus

/-- `setAlerts`; `changed` tells whether the alert messages differ. -/
def setAlerts (runtime : PipelineRuntimeState) (next : FMap UUID (List AlertState))
    (changed : Bool) : PipelineRuntimeState :=
  { runtime with
    alerts := next
    alertVersion := if changed then runtime.alertVersion + 1 else runtime.alertVersion }

def setPrometheusStatus (runtime : PipelineRuntimeState) (status : PrometheusStatus) :
    PipelineRuntimeState :=
  { runtime with promStatus := status }

/-- The inputs of a build that reads these rows. -/
def inputs (runtime : PipelineRuntimeState) (devices : List Device) (links : List Link)
    (states : FMap UUID DeviceState) : OverviewInputs :=
  { devices, links, states, alerts := runtime.alerts, promStatus := runtime.promStatus }

/-- The inputs of a build, if both reads of the cache succeed. -/
def readInputs (runtime : PipelineRuntimeState) (reads : OverviewReads) : Option OverviewInputs :=
  match reads.devices, reads.links with
  | some devices, some links => some (runtime.inputs devices links reads.states)
  | _, _ => none

def buildFullOverviewSnapshot (lower : Char → Char) (runtime : PipelineRuntimeState)
    (reads : OverviewReads) : Option SnapshotPayload :=
  (runtime.readInputs reads).map (buildPipelineSnapshot lower)

def markOverviewRuntimeBaseStale (runtime : PipelineRuntimeState) : PipelineRuntimeState :=
  { runtime with prevHashes := none }

/-- `broadcastTopologyInvalidationLocked` -/
def broadcastTopologyInvalidation (runtime : PipelineRuntimeState) :
    PipelineRuntimeState × List HubCall :=
  ({ runtime with prevHashes := none, topologyVersion := runtime.topologyVersion + 1 },
    [.topologyChanged (runtime.topologyVersion + 1)])

section Build

variable (lower : Char → Char) (hash : List WireValue → Nat)
  (marshal : RuntimeDeltaPayload → Option Nat)

/-- The state that `getOrBuildOverviewStateLocked` returns without building. -/
def currentState (runtime : PipelineRuntimeState) : RuntimeOverviewState where
  snapshot := cloneSnapshot runtime.lastSnapshot
  version := runtime.overviewVersion
  streamID := runtime.overviewStreamID

/-- A full snapshot starts a new stream at the next version. -/
def startStream (runtime : PipelineRuntimeState) (snapshot : SnapshotPayload) (streamID : String) :
    PipelineRuntimeState :=
  { runtime with
    lastSnapshot := some snapshot
    prevHashes := some (computeSnapshotHashes hash snapshot)
    overviewVersion := runtime.overviewVersion + 1
    overviewStreamID := streamID
    overviewJournal := runtime.overviewJournal.reset }

/-- `broadcastFullSnapshotLocked` and `broadcastFullSnapshotWithResyncLocked`, which differ in the
reason they report; `none` is a failed read. -/
def broadcastFullSnapshot (runtime : PipelineRuntimeState) (reads : OverviewReads)
    (streamID : String) (topologyChanged : Bool) : Option (PipelineRuntimeState × List HubCall) :=
  match runtime.buildFullOverviewSnapshot lower reads with
  | none => none
  | some snapshot =>
    let started := runtime.startStream hash snapshot streamID
    let next := { started with previousAlertRuntime := alertRuntimeSummaryFromSnapshot snapshot }
    let calls := [HubCall.replaceOverviewClients
      { snapshot, version := next.overviewVersion, streamID := next.overviewStreamID }]
    if topologyChanged then
      let invalidated := next.broadcastTopologyInvalidation
      some (invalidated.1, calls ++ invalidated.2)
    else some (next, calls)

/-- A patch is journalled and broadcast as the next version. -/
def publishPatch (runtime : PipelineRuntimeState) (patch : RuntimeDeltaPayload) :
    PipelineRuntimeState × List HubCall :=
  let baseVersion := runtime.overviewVersion
  ({ runtime with
     overviewVersion := baseVersion + 1
     overviewJournal := runtime.overviewJournal.append marshal baseVersion (baseVersion + 1)
       (some patch) },
    [.broadcastOverviewStreamDelta patch baseVersion (baseVersion + 1) runtime.overviewStreamID])

/-- What `broadcastOnce` publishes after it has stored the new snapshot. -/
def publishOnce (previous runtime : PipelineRuntimeState) (snapshot : SnapshotPayload)
    (streamID : String) : PipelineRuntimeState × List HubCall :=
  match previous.prevHashes with
  | none =>
    let next := runtime.startStream hash snapshot streamID
    (next, [.replaceOverviewClients
      { snapshot, version := next.overviewVersion, streamID := next.overviewStreamID }])
  | some previousHashes =>
    let delta := buildDelta snapshot (computeSnapshotHashes hash snapshot) previousHashes
    match buildRuntimeDeltaPatch delta (some (cloneSnapshot previous.lastSnapshot)) with
    | none => (runtime, [])
    | some patch => runtime.publishPatch marshal patch

/-- `broadcastOnce`: a failed read of the links is treated as no links. -/
def broadcastOnce (runtime : PipelineRuntimeState) (reads : OverviewReads) (streamID : String)
    (drainedTopology : Bool) : PipelineRuntimeState × List HubCall :=
  match reads.devices with
  | none => (runtime, [])
  | some devices =>
    let snapshot := buildPipelineSnapshot lower
      (runtime.inputs devices (reads.links.getD []) reads.states)
    let stored := { runtime with
      lastSnapshot := some snapshot
      prevHashes := some (computeSnapshotHashes hash snapshot)
      previousAlertRuntime := alertRuntimeSummaryFromSnapshot snapshot }
    let published := publishOnce hash marshal runtime stored snapshot streamID
    if drainedTopology then
      let invalidated := published.1.broadcastTopologyInvalidation
      (invalidated.1, published.2 ++ invalidated.2)
    else published

/-- `getOrBuildOverviewStateLocked`: the next runtime state, what it returns and what it hands to
the hub. -/
def getOrBuildOverviewState (runtime : PipelineRuntimeState) (reads : OverviewReads)
    (streamID : String) (hasOverviewClients : Bool) :
    PipelineRuntimeState × RuntimeOverviewState × List HubCall :=
  match runtime.prevHashes with
  | some _ => (runtime, runtime.currentState, [])
  | none =>
    match runtime.buildFullOverviewSnapshot lower reads with
    | none => (runtime, runtime.currentState, [])
    | some snapshot =>
      let next := runtime.startStream hash snapshot streamID
      (next, next.currentState,
        if hasOverviewClients then [.replaceOverviewClients next.currentState] else [])

def previousAlertRuntimePatchBase (delta : SnapshotPayload)
    (summary : FMap UUID DeviceRuntimeDTO) : Option SnapshotPayload :=
  let devices := delta.devices.filterMap fun id current =>
    (parseDeviceID id).bind fun deviceID => (summary.get deviceID).map fun alertRuntime =>
      { current with
        alertStatus := alertRuntime.alertStatus
        firingAlertCount := alertRuntime.firingAlertCount }
  if devices.isEmpty then none else some { devices }

/-- The end of `broadcastDirty`: publish a delta, unless its patch is empty. -/
def publishDelta (runtime : PipelineRuntimeState) (delta : SnapshotPayload) (alertsDirty : Bool) :
    PipelineRuntimeState × List HubCall :=
  let previous := match runtime.lastSnapshot with
    | some snapshot => some snapshot
    | none => if alertsDirty then
        previousAlertRuntimePatchBase delta runtime.previousAlertRuntime
      else none
  match buildRuntimeDeltaPatch (some delta) previous with
  | none => (runtime, [])
  | some patch =>
    let merged := applySnapshotDeltaToRuntime hash runtime.lastSnapshot runtime.prevHashes
      (some delta)
    let stored := { runtime with
      lastSnapshot := some merged.1
      prevHashes := some merged.2
      previousAlertRuntime := alertRuntimeSummaryFromSnapshot merged.1 }
    stored.publishPatch marshal patch

/-- `skipOverviewWorkWithoutClientsLocked`, and then a topology invalidation if one is due. -/
def skipOverviewWork (runtime : PipelineRuntimeState) (topologyDirty : Bool) :
    PipelineRuntimeState × List HubCall :=
  let stale := runtime.markOverviewRuntimeBaseStale
  if topologyDirty then stale.broadcastTopologyInvalidation else (stale, [])

/-- `broadcastDirty`; `none` is an error, which leaves the runtime state as it is. `overflowed` is
the answer of `consumeResyncRequired`. -/
def broadcastDirty (runtime : PipelineRuntimeState) (dirtyDevices : Finset UUID)
    (alertsDirty topologyDirty forceFull overflowed hasOverviewClients : Bool)
    (reads : OverviewReads) (streamID : String) :
    Option (PipelineRuntimeState × List HubCall) :=
  if overflowed then
    if hasOverviewClients then
      runtime.broadcastFullSnapshot lower hash reads streamID topologyDirty
    else some (runtime.skipOverviewWork topologyDirty)
  else if topologyDirty then some runtime.broadcastTopologyInvalidation
  else if forceFull then
    if hasOverviewClients then runtime.broadcastFullSnapshot lower hash reads streamID false
    else some (runtime.skipOverviewWork false)
  else if dirtyDevices = ∅ ∧ alertsDirty = false then some (runtime, [])
  else if hasOverviewClients = false then some (runtime.skipOverviewWork false)
  else if runtime.prevHashes.isNone || snapshotPayloadEmpty runtime.lastSnapshot then
    runtime.broadcastFullSnapshot lower hash reads streamID false
  else
    match buildDirtyOverviewDelta lower hash runtime reads dirtyDevices alertsDirty with
    | none => none
    | some (_, true) => runtime.broadcastFullSnapshot lower hash reads streamID false
    | some (none, false) => some (runtime, [])
    | some (some delta, false) => some (runtime.publishDelta hash marshal delta alertsDirty)

/-- One step on the runtime state. -/
inductive Op
  | broadcastOnce (reads : OverviewReads) (streamID : String) (drainedTopology : Bool)
  | broadcastDirty (dirtyDevices : Finset UUID)
      (alertsDirty topologyDirty forceFull overflowed hasOverviewClients : Bool)
      (reads : OverviewReads) (streamID : String)
  | getOrBuildOverviewState (reads : OverviewReads) (streamID : String) (hasOverviewClients : Bool)
  | setAlerts (next : FMap UUID (List AlertState)) (changed : Bool)
  | setPrometheusStatus (status : PrometheusStatus)

/-- The next runtime state, and what the hub is told. -/
def step (runtime : PipelineRuntimeState) : Op → PipelineRuntimeState × List HubCall
  | .broadcastOnce reads streamID drainedTopology =>
    runtime.broadcastOnce lower hash marshal reads streamID drainedTopology
  | .broadcastDirty dirtyDevices alertsDirty topologyDirty forceFull overflowed
      hasOverviewClients reads streamID =>
    (runtime.broadcastDirty lower hash marshal dirtyDevices alertsDirty topologyDirty forceFull
      overflowed hasOverviewClients reads streamID).getD (runtime, [])
  | .getOrBuildOverviewState reads streamID hasOverviewClients =>
    let built := runtime.getOrBuildOverviewState lower hash reads streamID hasOverviewClients
    (built.1, built.2.2)
  | .setAlerts next changed => (runtime.setAlerts next changed, [])
  | .setPrometheusStatus status => (runtime.setPrometheusStatus status, [])

end Build

end PipelineRuntimeState

end Theia
