import Theia.Native.DirtyDelta
import Theia.Native.RuntimeClient

/-!
# Detail deltas

`publishSubscribedDetailDelta` of `internal/worker/pipeline_task_runner.go` with its builders of
`snapshot_builder.go`, and what `parseWSMessage` of the browser reads from its message. A missing
hub or state store is `none`; so is the answer of the cache if there is none or if it fails.
-/

namespace Theia

structure SnapshotDeltaMessagePayload where
  baseVersion : Nat
  version : Nat
  delta : SnapshotPayload

/-- The payload of `NewSnapshotDeltaMessage`. -/
def newSnapshotDeltaMessage (delta : Option SnapshotPayload) (baseVersion version : Nat) :
    SnapshotDeltaMessagePayload :=
  { baseVersion, version, delta := cloneSnapshot delta }

def buildDeviceDetailDeltaWithLinks (device : Device) (deviceState : DeviceState)
    (linkRuntimes : List LinkRuntimeDTO) (alerts : List AlertState) (promStatus : PrometheusStatus) :
    SnapshotPayload where
  devices := FMap.ofList
    [(device.id.toString, normalizeDeviceRuntimeDTO device deviceState alerts promStatus)]
  links := FMap.ofList (linkRuntimes.map fun linkRuntime => (linkRuntime.linkID, linkRuntime))

/-- The record of one end of a link: that of the device itself, or of its peer. -/
def endpointRuntime (device : Device) (deviceState : DeviceState)
    (devicesByID : FMap UUID Device) (states : FMap UUID DeviceState)
    (promStatus : PrometheusStatus) (endpoint : UUID) : DeviceRuntimeDTO :=
  if endpoint = device.id then normalizeDeviceRuntimeDTO device deviceState [] promStatus
  else
    normalizeDeviceRuntimeDTO (FMap.getZero devicesByID {} endpoint)
      (FMap.getZero states {} endpoint) [] promStatus

def buildDeviceLinkRuntimeDTOs (lower : Char → Char) (device : Device) (deviceState : DeviceState)
    (devicesByID : FMap UUID Device) (states : FMap UUID DeviceState) (links : List Link)
    (promStatus : PrometheusStatus) : List LinkRuntimeDTO :=
  (links.filter fun link =>
      link.sourceDeviceID = device.id || link.targetDeviceID = device.id).map fun link =>
    let linkMetric := selectNormalizedLinkMetric lower link
      (FMap.getZero devicesByID {} link.sourceDeviceID)
      (FMap.getZero devicesByID {} link.targetDeviceID)
      (FMap.getZero states {} link.sourceDeviceID).linkMetrics
      (FMap.getZero states {} link.targetDeviceID).linkMetrics
    let endpoint := endpointRuntime device deviceState devicesByID states promStatus
    normalizeLinkRuntimeDTO link linkMetric (endpoint link.sourceDeviceID)
      (endpoint link.targetDeviceID)

/-- The other ends of the links of a device. -/
def peerIDs (device : Device) (links : List Link) : List UUID :=
  links.flatMap fun link =>
    [link.sourceDeviceID, link.targetDeviceID].filter fun endpoint => endpoint ≠ device.id

/-- The links of the delta; `deviceTopology` is the answer of `cache.GetDeviceTopology`. -/
def detailLinkRuntimes (lower : Char → Char) (runtime : PipelineRuntimeState) (device : Device)
    (deviceState : DeviceState) (states : FMap UUID DeviceState)
    (deviceTopology : Option (FMap UUID Device × List Link)) : List LinkRuntimeDTO :=
  match deviceTopology with
  | none => []
  | some (endpoints, links) =>
    let devicesByID := (FMap.ofList [(device.id, device)]).overlay endpoints
    let states := (snapshotPipelineStateFor states (peerIDs device links).toFinset).insert device.id
      deviceState
    buildDeviceLinkRuntimeDTOs lower device deviceState devicesByID states links runtime.promStatus

/-- `publishSubscribedDetailDelta`: the subscribers with the message that `SendToMany` gives them. -/
def publishSubscribedDetailDelta {Client : Type} (lower : Char → Char)
    (runtime : PipelineRuntimeState)
    (detailSubscribers : Option (UUID → List Client)) (stateStore : Option (FMap UUID DeviceState))
    (deviceTopology : Option (FMap UUID Device × List Link)) (device : Device) :
    List (Client × SnapshotDeltaMessagePayload) :=
  match detailSubscribers, stateStore with
  | some detailSubscribers, some states =>
    match states.get device.id with
    | none => []
    | some deviceState =>
      let version := runtime.overviewVersion
      let delta := buildDeviceDetailDeltaWithLinks device deviceState
        (detailLinkRuntimes lower runtime device deviceState states deviceTopology)
        (FMap.getZero runtime.alerts [] device.id) runtime.promStatus
      (detailSubscribers device.id).map fun subscriber =>
        (subscriber, newSnapshotDeltaMessage (some delta) version version)
  | _, _ => []

namespace Client

/-- The case `snapshot_delta` of `parseWSMessage`, on the message of the server. The server has
no field for a runtime stream, and the parser reads none. -/
def parseSnapshotDelta (payload : SnapshotDeltaMessagePayload) :
    Option (RuntimeDeltaEnvelope × RuntimeRecords) := do
  let delta ← parseSnapshotPayload payload.delta.toWire
  return ({ baseVersion := some (.ofDecimal payload.baseVersion)
            version := some (.ofDecimal payload.version) }, delta)

end Client

end Theia
