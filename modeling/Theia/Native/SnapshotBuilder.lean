import Theia.Native.RuntimeNormalizer

/-!
# Building overview snapshots, deltas and patches

`internal/worker/snapshot_builder.go`, and `applySnapshotDeltaToRuntime` of `pipeline.go`.

A section hash is FNV-64a of a text that lists the fields of a record. Floating-point values
have no exact decimal text here, so the hash is a parameter of the definitions, a function of
the listed fields. `lower` stands for the table behind `strings.ToLower`. The compatibility copies
of the maps are not modelled.
-/

namespace Theia

section Build

variable (lower : Char → Char)

/-! ### Link metrics -/

def normalizeInterfaceName (name : String) : String := toLowerWith lower (trimSpace name)

def sameInterface (device : Device) (observedIfName linkIfName : String) : Bool :=
  let observed := normalizeInterfaceName lower observedIfName
  let linkName := normalizeInterfaceName lower linkIfName
  if observed = "" || linkName = "" then false
  else if observed = linkName then true
  else device.interfaces.any fun iface =>
    let ifaceName := normalizeInterfaceName lower iface.ifName
    let ifaceDescr := normalizeInterfaceName lower iface.ifDescr
    (observed = ifaceName || observed = ifaceDescr) && (linkName = ifaceName || linkName = ifaceDescr)

def matchLinkID (device : Device) (links : List Link) (metricIfName : String) : String :=
  match links.find? fun link =>
      (link.sourceDeviceID = device.id &&
        sameInterface lower device metricIfName link.sourceIfName) ||
      (link.targetDeviceID = device.id &&
        sameInterface lower device metricIfName link.targetIfName) with
  | some link => link.id.toString
  | none => ""

def interfaceSpeed (device : Device) (observedIfName : String) : Int :=
  let observed := normalizeInterfaceName lower observedIfName
  match device.interfaces.find? fun iface =>
      observed = normalizeInterfaceName lower iface.ifName ||
      observed = normalizeInterfaceName lower iface.ifDescr with
  | some iface => iface.speed
  | none => 0

def computeUtilization (device : Device) (observedIfName : String) (metric : LinkMetrics) :
    Option ℚ :=
  let speed := interfaceSpeed lower device observedIfName
  if speed ≤ 0 then metric.utilization
  else
    let maxRate := match metric.txBps, metric.rxBps with
      | none, rx => rx
      | some tx, none => some tx
      | some tx, some rx => some (if tx < rx then rx else tx)
    maxRate.map fun rate => max 0 (rate / speed)

def buildDeviceLinkMetrics (device : Device) (links : List Link) (metrics : List LinkMetrics) :
    List LinkMetrics :=
  metrics.filterMap fun metric =>
    let linkID := matchLinkID lower device links metric.ifName
    if linkID = "" then none
    else
      some { metric with
        deviceID := device.id
        linkID := linkID
        utilization :=
          (computeUtilization lower device metric.ifName metric).or metric.utilization }

def selectNormalizedLinkMetric (link : Link) (sourceDevice targetDevice : Device)
    (sourceMetrics targetMetrics : List LinkMetrics) : Option LinkMetrics :=
  let ofLink := fun (candidate : LinkMetrics) => candidate.linkID = link.id.toString
  ((buildDeviceLinkMetrics lower sourceDevice [link] sourceMetrics).find? ofLink).or
    ((buildDeviceLinkMetrics lower targetDevice [link] targetMetrics).find? ofLink)

/-! ### Snapshots -/

/-- What a snapshot is built from. -/
structure OverviewInputs where
  devices : List Device
  links : List Link
  states : FMap UUID DeviceState
  alerts : FMap UUID (List AlertState)
  promStatus : PrometheusStatus

/-- `devicesByID` of `buildPipelineSnapshot` -/
def devicesByID (devices : List Device) : FMap UUID Device :=
  FMap.ofList (devices.map fun device => (device.id, device))

/-- The record of a device in `buildPipelineSnapshot`. -/
def deviceRuntime (states : FMap UUID DeviceState) (alerts : FMap UUID (List AlertState))
    (promStatus : PrometheusStatus) (device : Device) : DeviceRuntimeDTO :=
  normalizeDeviceRuntimeDTO device (FMap.getZero states {} device.id)
    (FMap.getZero alerts [] device.id) promStatus

/-- The record of a link in `buildPipelineSnapshot`. -/
def linkRuntime (byID : FMap UUID Device) (states : FMap UUID DeviceState)
    (runtimes : FMap String DeviceRuntimeDTO) (link : Link) : LinkRuntimeDTO :=
  let metric := selectNormalizedLinkMetric lower link
    (FMap.getZero byID {} link.sourceDeviceID) (FMap.getZero byID {} link.targetDeviceID)
    (FMap.getZero states {} link.sourceDeviceID).linkMetrics
    (FMap.getZero states {} link.targetDeviceID).linkMetrics
  normalizeLinkRuntimeDTO link metric
    (FMap.getZero runtimes {} link.sourceDeviceID.toString)
    (FMap.getZero runtimes {} link.targetDeviceID.toString)

def buildPipelineSnapshot (inputs : OverviewInputs) : SnapshotPayload :=
  let runtimes := FMap.ofList (inputs.devices.map fun device =>
    (device.id.toString, deviceRuntime inputs.states inputs.alerts inputs.promStatus device))
  { devices := runtimes
    links := FMap.ofList (inputs.links.map fun link =>
      (link.id.toString,
        linkRuntime lower (devicesByID inputs.devices) inputs.states runtimes link)) }

end Build

/-! ### Hashes and deltas -/

/-- `sectionHashes`; `deviceMetrics` repeats `devices`. -/
structure SectionHashes where
  devices : FMap String Nat := ∅
  links : FMap String Nat := ∅
  deriving DecidableEq

def fieldStateHashPart (fields : FMap String String) : List String :=
  [FMap.getZero fields "" "uptime", FMap.getZero fields "" "cpu", FMap.getZero fields "" "memory"]

/-- What `computeDeviceRuntimeHashes` lists in its text. -/
def deviceHashParts (dm : DeviceRuntimeDTO) : List WireValue :=
  [.str dm.deviceID, .str dm.operationalStatus, .str dm.primaryHealth,
    .strs (dm.runtimeFlags.getD []), .strs (fieldStateHashPart dm.fieldStates),
    .str dm.networkReachable, .str dm.snmpReachable, .str dm.reachability, .str dm.health,
    .str dm.freshness, .str dm.primaryReason, .str dm.metricsStatus, .str dm.metricsReason,
    .str dm.alertStatus, .num dm.firingAlertCount, wireStringPtr dm.lastCollectedAt,
    wireStringPtr dm.lastPolledAt, wireFloatPtr dm.expectedPollIntervalSeconds,
    wireFloatPtr dm.cpuPercent, wireFloatPtr dm.memPercent, wireFloatPtr dm.tempCelsius,
    wireFloatPtr dm.uptimeSecs]

/-- What `computeLinkRuntimeHash` lists in its text. -/
def linkHashParts (lm : LinkRuntimeDTO) : List WireValue :=
  [.str lm.linkID, .str lm.sourceDeviceID, .str lm.targetDeviceID, .str lm.sourceIfName,
    .str lm.targetIfName, .str lm.metricsStatus, .str lm.metricsReason,
    wireStringPtr lm.lastCollectedAt, wireFloatPtr lm.txBps, wireFloatPtr lm.rxBps,
    wireFloatPtr lm.utilization]

section Hash

variable (hash : List WireValue → Nat)

def computeDeviceRuntimeHashes (dm : DeviceRuntimeDTO) : Nat := hash (deviceHashParts dm)

def computeLinkRuntimeHash (lm : LinkRuntimeDTO) : Nat := hash (linkHashParts lm)

def computeSnapshotHashes (snapshot : SnapshotPayload) : SectionHashes where
  devices := snapshot.devices.map fun _ dm => computeDeviceRuntimeHashes hash dm
  links := snapshot.links.map fun _ lm => computeLinkRuntimeHash hash lm

end Hash

def snapshotPayloadEmpty (payload : Option SnapshotPayload) : Bool :=
  match payload with
  | none => true
  | some payload => payload.devices.isEmpty && payload.links.isEmpty

/-- The entries of one section in `buildDelta`: those without the same previous hash. -/
def changedEntries {V : Type} (current : FMap String V) (currentHashes previousHashes : FMap String Nat) :
    FMap String V :=
  current.filterMap fun id value =>
    match currentHashes.get id with
    | none => none
    | some hash => if previousHashes.get id = some hash then none else some value

def buildDelta (current : SnapshotPayload) (currentHashes previousHashes : SectionHashes) :
    Option SnapshotPayload :=
  let delta : SnapshotPayload :=
    { devices := changedEntries current.devices currentHashes.devices previousHashes.devices
      links := changedEntries current.links currentHashes.links previousHashes.links }
  if snapshotPayloadEmpty (some delta) then none else some delta

/-! ### Patches -/

/-- `addString` of the patch builders: an empty value is never sent. -/
def addString (key currentValue previousValue : String) : String × Option WireValue :=
  (key, if currentValue ≠ "" ∧ currentValue ≠ previousValue then some (.str currentValue) else none)

def addInt (key : String) (currentValue previousValue : Int) : String × Option WireValue :=
  (key, if currentValue ≠ previousValue then some (.num currentValue) else none)

/-- `addStringPtr`: a cleared pointer is sent as null. -/
def addStringPtr (key : String) (currentValue previousValue : Option String) :
    String × Option WireValue :=
  (key, if currentValue ≠ previousValue then some (wireStringPtr currentValue) else none)

def addFloatPtr (key : String) (currentValue previousValue : Option ℚ) :
    String × Option WireValue :=
  (key, if currentValue ≠ previousValue then some (wireFloatPtr currentValue) else none)

def stringSliceRuntimeEqual (a b : Option (List String)) : Bool := a.getD [] = b.getD []

/-- `stringMapRuntimeEqual`: same size, and every entry of `a` reads the same in `b`. -/
def stringMapRuntimeEqual (a b : FMap String String) : Bool :=
  a.dom.card = b.dom.card ∧ ∀ key ∈ a.dom, FMap.getZero b "" key = FMap.getZero a "" key

def validRuntimeFieldStates (fields : FMap String String) : Bool :=
  !fields.isEmpty && ["uptime", "cpu", "memory"].all fun key => FMap.getZero fields "" key ≠ ""

/-- The fields that `buildDeviceRuntimePatch` compares, each with the value it sends. -/
def deviceRuntimeChanges (current previous : DeviceRuntimeDTO) : List (String × Option WireValue) :=
  [addString "operational_status" current.operationalStatus previous.operationalStatus,
    addString "primary_health" current.primaryHealth previous.primaryHealth,
    ("runtime_flags", match current.runtimeFlags with
      | none => none
      | some flags =>
        if stringSliceRuntimeEqual (some flags) previous.runtimeFlags then none
        else some (.strs flags)),
    ("field_states",
      if validRuntimeFieldStates current.fieldStates &&
          !stringMapRuntimeEqual current.fieldStates previous.fieldStates then
        some (.strMap current.fieldStates)
      else none),
    addString "network_reachable" current.networkReachable previous.networkReachable,
    addString "snmp_reachable" current.snmpReachable previous.snmpReachable,
    addString "reachability" current.reachability previous.reachability,
    addString "health" current.health previous.health,
    addString "freshness" current.freshness previous.freshness,
    addString "primary_reason" current.primaryReason previous.primaryReason,
    addString "metrics_status" current.metricsStatus previous.metricsStatus,
    addString "metrics_reason" current.metricsReason previous.metricsReason,
    addString "alert_status" current.alertStatus previous.alertStatus,
    addInt "firing_alert_count" current.firingAlertCount previous.firingAlertCount,
    addStringPtr "last_collected_at" current.lastCollectedAt previous.lastCollectedAt,
    addStringPtr "last_polled_at" current.lastPolledAt previous.lastPolledAt,
    addFloatPtr "expected_poll_interval_seconds" current.expectedPollIntervalSeconds
      previous.expectedPollIntervalSeconds,
    addFloatPtr "cpu_percent" current.cpuPercent previous.cpuPercent,
    addFloatPtr "mem_percent" current.memPercent previous.memPercent,
    addFloatPtr "temp_celsius" current.tempCelsius previous.tempCelsius,
    addFloatPtr "uptime_secs" current.uptimeSecs previous.uptimeSecs]

/-- The fields that `buildLinkRuntimePatch` compares. -/
def linkRuntimeChanges (current previous : LinkRuntimeDTO) : List (String × Option WireValue) :=
  [addString "metrics_status" current.metricsStatus previous.metricsStatus,
    addString "metrics_reason" current.metricsReason previous.metricsReason,
    addStringPtr "last_collected_at" current.lastCollectedAt previous.lastCollectedAt,
    addFloatPtr "tx_bps" current.txBps previous.txBps,
    addFloatPtr "rx_bps" current.rxBps previous.rxBps,
    addFloatPtr "utilization" current.utilization previous.utilization]

/-- The patch with an identifier and the changed fields, or `none` when nothing changed. -/
def patchOf (idKey id : String) (changes : List (String × Option WireValue)) : Option WireRecord :=
  if changes.all fun change => change.2.isNone then none
  else some ((FMap.ofList ((idKey, some (.str id)) :: changes)).filterMap fun _ value => value)

def buildDeviceRuntimePatch (current previous : DeviceRuntimeDTO) : Option WireRecord :=
  patchOf "device_id" current.deviceID (deviceRuntimeChanges current previous)

def buildLinkRuntimePatch (current previous : LinkRuntimeDTO) : Option WireRecord :=
  patchOf "link_id" current.linkID (linkRuntimeChanges current previous)

def buildRuntimeDeltaPatch (delta previous : Option SnapshotPayload) : Option RuntimeDeltaPayload :=
  match delta with
  | none => none
  | some delta =>
    let previous := previous.getD emptySnapshot
    let patch : RuntimeDeltaPayload :=
      { devices := delta.devices.filterMap fun id current =>
          (buildDeviceRuntimePatch current (FMap.getZero previous.devices {} id)).map
            fun devicePatch => devicePatch.insert "device_id" (.str id)
        links := delta.links.filterMap fun id current =>
          (buildLinkRuntimePatch current (FMap.getZero previous.links {} id)).map
            fun linkPatch => linkPatch.insert "link_id" (.str id) }
    if patch.devices.isEmpty && patch.links.isEmpty then none else some patch

/-! ### Applying a delta -/

/-- `cloneDeviceRuntimeForSnapshot`: an empty flag list becomes nil. -/
def cloneDeviceRuntimeForSnapshot (value : DeviceRuntimeDTO) : DeviceRuntimeDTO :=
  { value with
    runtimeFlags := match value.runtimeFlags with
      | none | some [] => none
      | some flags => some flags }

def applySnapshotDeltaToRuntime (hash : List WireValue → Nat) (base : Option SnapshotPayload)
    (hashes : Option SectionHashes) (delta : Option SnapshotPayload) :
    SnapshotPayload × SectionHashes :=
  let base := base.getD emptySnapshot
  let hashes := hashes.getD (computeSnapshotHashes hash base)
  match delta with
  | none => (base, hashes)
  | some delta =>
    let devices := delta.devices.map fun _ value => cloneDeviceRuntimeForSnapshot value
    ({ devices := base.devices.overlay devices
       links := base.links.overlay delta.links },
     { devices := hashes.devices.overlay
         (devices.map fun _ value => computeDeviceRuntimeHashes hash value)
       links := hashes.links.overlay
         (delta.links.map fun _ value => computeLinkRuntimeHash hash value) })

end Theia
