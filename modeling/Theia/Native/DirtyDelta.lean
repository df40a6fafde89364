import Theia.Native.OverviewJournal
import Theia.Native.SnapshotBuilder

/-!
# The delta of the dirty devices

`buildDirtyOverviewDelta` of `internal/worker/pipeline_snapshot_broadcaster.go` with its helpers,
over the part of `pipelineRuntimeState` that the overview uses. A set of device identifiers
(`map[uuid.UUID]struct{}`) is a `Finset`. The clones that are taken of the runtime state under its
lock are equal to what they copy.
-/

namespace Theia

/-- `pipelineRuntimeState`, the fields of the overview. -/
structure PipelineRuntimeState where
  lastSnapshot : Option SnapshotPayload := some emptySnapshot
  overviewVersion : Nat := 0
  overviewStreamID : String := ""
  overviewJournal : OverviewJournal :=
    newOverviewJournal overviewJournalCapacity overviewJournalMaxBytes
  topologyVersion : Nat := 0
  alertVersion : Nat := 0
  promStatus : PrometheusStatus := {}
  alerts : FMap UUID (List AlertState) := ∅
  previousAlertRuntime : FMap UUID DeviceRuntimeDTO := ∅
  prevHashes : Option SectionHashes := none

/-- What one build reads: `cache.GetDevices` and `cache.GetLinks`, where `none` is an error, and
the state store. -/
structure OverviewReads where
  devices : Option (List Device)
  links : Option (List Link)
  states : FMap UUID DeviceState

def filterDevicesByID (devices : List Device) (ids : Finset UUID) : List Device :=
  devices.filter fun device => device.id ∈ ids

def filterLinksByDeviceID (links : List Link) (ids : Finset UUID) : List Link :=
  links.filter fun link => link.sourceDeviceID ∈ ids || link.targetDeviceID ∈ ids

/-- `Store.SnapshotFor` of the identifiers that `deviceIDSetToSlice` lists. -/
def snapshotPipelineStateFor (states : FMap UUID DeviceState) (ids : Finset UUID) :
    FMap UUID DeviceState :=
  states.filterMap fun id deviceState =>
    if id ∈ ids ∧ id ≠ UUID.nil then some deviceState else none

/-! ### Devices whose alerts matter -/

def alertStatesAffectRuntime (alerts : List AlertState) : Bool :=
  0 < (summarizeAlerts alerts).2 || (summarizeAlerts alerts).1 ≠ .normal

def deviceRuntimeHadAlertEffect (runtime : DeviceRuntimeDTO) : Bool :=
  0 < runtime.firingAlertCount ||
    (runtime.alertStatus ≠ "" && !equalFold runtime.alertStatus AlertStatus.normal.toString)

def addCurrentAlertRuntimeDeviceIDs (alerts : FMap UUID (List AlertState)) : Finset UUID :=
  alerts.dom.filter fun id =>
    id ≠ UUID.nil ∧ alertStatesAffectRuntime (FMap.getZero alerts [] id)

/-- The device of an entry of a snapshot, if `uuid.Parse` finds one. -/
def parseDeviceID (id : String) : Option UUID :=
  (UUID.parse id).filter fun deviceID => deviceID ≠ UUID.nil

def addPreviousAlertRuntimeDeviceIDs (snapshot : SnapshotPayload) : Finset UUID :=
  (snapshot.devices.dom.filter fun id =>
    deviceRuntimeHadAlertEffect (FMap.getZero snapshot.devices {} id)).biUnion
    fun id => (parseDeviceID id).toFinset

def addPreviousAlertRuntimeSummaryDeviceIDs (summary : FMap UUID DeviceRuntimeDTO) :
    Finset UUID :=
  summary.dom.filter fun id =>
    id ≠ UUID.nil ∧ deviceRuntimeHadAlertEffect (FMap.getZero summary {} id)

def alertRuntimeSummaryFromSnapshot (snapshot : SnapshotPayload) : FMap UUID DeviceRuntimeDTO :=
  let ids := addPreviousAlertRuntimeDeviceIDs snapshot
  FMap.ofFinset ids fun id =>
    let runtime := FMap.getZero snapshot.devices {} id.toString
    { deviceID := runtime.deviceID
      alertStatus := runtime.alertStatus
      firingAlertCount := runtime.firingAlertCount }

def alertRuntimeFieldsChanged (current previous : DeviceRuntimeDTO) : Bool :=
  current.alertStatus ≠ previous.alertStatus || current.firingAlertCount ≠ previous.firingAlertCount

/-! ### The delta -/

section Hash

variable (lower : Char → Char) (hash : List WireValue → Nat)

/-- The devices that had an alert in the previous overview, and the hashes to compare with;
`none` when there is no previous overview to compare alerts with. -/
def previousAlertBase (runtime : PipelineRuntimeState) (dirtyDevices : Finset UUID)
    (alertsDirty : Bool) : Option (Finset UUID × Option SectionHashes) :=
  if alertsDirty then
    match runtime.lastSnapshot with
    | some snapshot =>
      some (addPreviousAlertRuntimeDeviceIDs snapshot,
        some (runtime.prevHashes.getD (computeSnapshotHashes hash (cloneSnapshot (some snapshot)))))
    | none =>
      let ids := if dirtyDevices = ∅ then
          addPreviousAlertRuntimeSummaryDeviceIDs runtime.previousAlertRuntime
        else ∅
      if 0 < ids.card then some (ids, runtime.prevHashes) else none
  else some (∅, runtime.prevHashes)

/-- The check of one alert device: is its record in the partial snapshot new? -/
def alertDeviceChanged (previousHashes : Option SectionHashes)
    (previousAlertRuntime : FMap UUID DeviceRuntimeDTO) (id : UUID) (current : DeviceRuntimeDTO) :
    Bool :=
  match previousHashes with
  | none => alertRuntimeFieldsChanged current (FMap.getZero previousAlertRuntime {} id)
  | some hashes =>
    hashes.devices.get id.toString ≠ some (computeDeviceRuntimeHashes hash current)

/-- The entries of a section that are stored under one of the identifiers. -/
def entriesOf {V : Type} (entries : FMap String V) (ids : Finset UUID) (keep : UUID → V → Bool) :
    FMap String V :=
  entries.filterMap fun key value =>
    if ∃ id ∈ ids, id.toString = key ∧ keep id value then some value else none

/-- The devices that the dirty ones and their links need; none when no dirty device is cached. -/
def dirtyContextIDs (inputs : OverviewInputs) (dirtyDevices : Finset UUID) : Finset UUID :=
  let filteredLinks := filterLinksByDeviceID inputs.links dirtyDevices
  if 0 < (filterDevicesByID inputs.devices dirtyDevices).length then
    dirtyDevices ∪ (filteredLinks.map (·.sourceDeviceID)).toFinset ∪
      (filteredLinks.map (·.targetDeviceID)).toFinset
  else ∅

/-- The devices whose alerts matter now or mattered in the previous overview. -/
def alertDeviceIDs (inputs : OverviewInputs) (alertsDirty : Bool)
    (previousAlertDeviceIDs : Finset UUID) : Finset UUID :=
  if alertsDirty then addCurrentAlertRuntimeDeviceIDs inputs.alerts ∪ previousAlertDeviceIDs
  else ∅

/-- The snapshot of the context: its devices, and the links at dirty devices. -/
def partialSnapshot (inputs : OverviewInputs) (dirtyDevices contextIDs : Finset UUID) :
    SnapshotPayload :=
  buildPipelineSnapshot lower
    { devices := filterDevicesByID inputs.devices contextIDs
      links := filterLinksByDeviceID inputs.links dirtyDevices
      states := snapshotPipelineStateFor inputs.states contextIDs
      alerts := inputs.alerts
      promStatus := inputs.promStatus }

/-- The records of the dirty devices and of their links, if some dirty device is cached. -/
def dirtyRecords (inputs : OverviewInputs) (dirtyDevices : Finset UUID) (built : SnapshotPayload) :
    SnapshotPayload :=
  if 0 < (filterDevicesByID inputs.devices dirtyDevices).length then
    { devices := entriesOf built.devices dirtyDevices fun _ _ => true
      links := built.links }
  else emptySnapshot

/-- The delta of `buildDirtyOverviewDelta` once the previous overview is known. -/
def collectDirtyDelta (inputs : OverviewInputs) (dirtyDevices : Finset UUID) (alertsDirty : Bool)
    (previousAlertDeviceIDs : Finset UUID) (previousHashes : Option SectionHashes)
    (previousAlertRuntime : FMap UUID DeviceRuntimeDTO) : Option SnapshotPayload :=
  let alertIDs := alertDeviceIDs inputs alertsDirty previousAlertDeviceIDs
  let contextIDs := dirtyContextIDs inputs dirtyDevices ∪ alertIDs
  if contextIDs = ∅ then none
  else
    let built := partialSnapshot lower inputs dirtyDevices contextIDs
    let dirtyDelta := dirtyRecords inputs dirtyDevices built
    let alertDelta := entriesOf built.devices alertIDs
      (alertDeviceChanged hash previousHashes previousAlertRuntime)
    let delta := { dirtyDelta with devices := dirtyDelta.devices.overlay alertDelta }
    if snapshotPayloadEmpty (some delta) then none else some delta

/-- `buildDirtyOverviewDelta`: the delta, and whether a full snapshot is required; `none` is a
failed read of the cache. -/
def buildDirtyOverviewDelta (runtime : PipelineRuntimeState) (reads : OverviewReads)
    (dirtyDevices : Finset UUID) (alertsDirty : Bool) : Option (Option SnapshotPayload × Bool) :=
  if dirtyDevices = ∅ ∧ alertsDirty = false then some (none, false)
  else
    match reads.devices, reads.links with
    | some devices, some links =>
      match previousAlertBase hash runtime dirtyDevices alertsDirty with
      | none => some (none, true)
      | some (previousAlertDeviceIDs, previousHashes) =>
        let inputs : OverviewInputs :=
          { devices, links, states := reads.states, alerts := runtime.alerts
            promStatus := runtime.promStatus }
        some (collectDirtyDelta lower hash inputs dirtyDevices alertsDirty previousAlertDeviceIDs
          previousHashes runtime.previousAlertRuntime, false)
    | _, _ => none

end Hash

end Theia
