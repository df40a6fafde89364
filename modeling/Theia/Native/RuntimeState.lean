import Theia.Native.Domain
import Theia.Native.RuntimeWire

/-!
# Device runtime state and the overview records

`state.DeviceState`, the metrics and alerts it is shown with, and the records of the runtime
overview: `ws.DeviceRuntimeDTO`, `ws.LinkRuntimeDTO` and `ws.SnapshotPayload`.

A record keeps the strings of the source, because the patches compare them and the wire carries
them; the state behind it uses inductive types with their string values. The maps of a snapshot
that are not part of its JSON (`DeviceMetrics`, `LinkMetrics`, `DeviceStatuses`) are copies of
the others for older readers and are left out.
-/

namespace Theia

/-- `state.HealthStatus` -/
inductive HealthStatus
  | healthy | warning | critical | unknown | unset
  deriving DecidableEq, Repr

def HealthStatus.toString : HealthStatus → String
  | .healthy => "healthy"
  | .warning => "warning"
  | .critical => "critical"
  | .unknown => "unknown"
  | .unset => ""

/-- `state.ReachabilityStatus` -/
inductive ReachabilityStatus
  | unknown | up | softDown | hardDown | unset
  deriving DecidableEq, Repr

/-- `polling.PrimaryHealth` -/
inductive PrimaryHealth
  | probing | upFresh | upStale | snmpDegraded | unreachable | quarantined | unset
  deriving DecidableEq, Repr

def PrimaryHealth.toString : PrimaryHealth → String
  | .probing => "probing"
  | .upFresh => "up_fresh"
  | .upStale => "up_stale"
  | .snmpDegraded => "snmp_degraded"
  | .unreachable => "unreachable"
  | .quarantined => "quarantined"
  | .unset => ""

/-- `polling.TriState` -/
inductive TriState
  | true | false | unknown | unset
  deriving DecidableEq, Repr

def TriState.toString : TriState → String
  | .true => "true"
  | .false => "false"
  | .unknown => "unknown"
  | .unset => ""

/-- `polling.FieldState`; every writer stores one of the constants. -/
inductive FieldState
  | ok | missing | error | stale
  deriving DecidableEq, Repr

def FieldState.toString : FieldState → String
  | .ok => "ok"
  | .missing => "missing"
  | .error => "error"
  | .stale => "stale"

/-- `polling.RuntimeFlag` -/
inductive RuntimeFlag
  | deadlineMissed | overloaded | backgroundPending | partialTelemetry | degradedRisk
  | persistenceLagging
  deriving DecidableEq, Repr

def RuntimeFlag.toString : RuntimeFlag → String
  | .deadlineMissed => "deadline_missed"
  | .overloaded => "overloaded"
  | .backgroundPending => "background_pending"
  | .partialTelemetry => "partial_telemetry"
  | .degradedRisk => "degraded_risk"
  | .persistenceLagging => "persistence_lagging"

/-- `domain.AlertStatus` -/
inductive AlertStatus
  | normal | degraded | down
  deriving DecidableEq, Repr

def AlertStatus.toString : AlertStatus → String
  | .normal => "normal"
  | .degraded => "degraded"
  | .down => "down"

/-- `domain.DeviceMetrics`, without the device it belongs to. -/
structure DeviceMetrics where
  cpuPercent : Option ℚ := none
  memPercent : Option ℚ := none
  tempCelsius : Option ℚ := none
  uptimeSecs : Option ℚ := none
  collectedAt : Time := 0
  deriving DecidableEq

/-- `domain.LinkMetrics` -/
structure LinkMetrics where
  linkID : String := ""
  deviceID : UUID := UUID.nil
  ifName : String := ""
  txBps : Option ℚ := none
  rxBps : Option ℚ := none
  utilization : Option ℚ := none
  collectedAt : Time := 0
  deriving DecidableEq

/-- `domain.AlertState`, the fields that a runtime record depends on. -/
structure AlertState where
  severity : String
  state : String
  deriving DecidableEq

/-- `state.DeviceState`, the fields that a runtime record depends on. -/
structure DeviceState where
  metrics : DeviceMetrics := {}
  linkMetrics : List LinkMetrics := []
  health : HealthStatus := .unset
  reachability : ReachabilityStatus := .unset
  primaryHealth : PrimaryHealth := .unset
  networkReachable : TriState := .unset
  snmpReachable : TriState := .unset
  fieldStates : FMap String FieldState := ∅
  runtimeFlags : FMap RuntimeFlag Bool := ∅
  stale : Bool := false
  lastPolledAt : Time := 0
  expectedInterval : Duration := 0
  deriving DecidableEq

/-- `ws.PrometheusStatusPayload`, without the error text. -/
structure PrometheusStatus where
  enabled : Bool := false
  available : Bool := false
  deriving DecidableEq

/-- `ws.DeviceRuntimeDTO`; a nil flag list is `none`. -/
structure DeviceRuntimeDTO where
  deviceID : String := ""
  operationalStatus : String := ""
  primaryHealth : String := ""
  runtimeFlags : Option (List String) := none
  fieldStates : FMap String String := ∅
  networkReachable : String := ""
  snmpReachable : String := ""
  reachability : String := ""
  health : String := ""
  freshness : String := ""
  primaryReason : String := ""
  metricsStatus : String := ""
  metricsReason : String := ""
  alertStatus : String := ""
  firingAlertCount : Int := 0
  lastCollectedAt : Option String := none
  lastPolledAt : Option String := none
  expectedPollIntervalSeconds : Option ℚ := none
  cpuPercent : Option ℚ := none
  memPercent : Option ℚ := none
  tempCelsius : Option ℚ := none
  uptimeSecs : Option ℚ := none
  collectedAt : String := ""
  stale : Option Bool := none
  deriving DecidableEq

structure LinkRuntimeDTO where
  linkID : String := ""
  sourceDeviceID : String := ""
  targetDeviceID : String := ""
  sourceIfName : String := ""
  targetIfName : String := ""
  metricsStatus : String := ""
  metricsReason : String := ""
  lastCollectedAt : Option String := none
  txBps : Option ℚ := none
  rxBps : Option ℚ := none
  utilization : Option ℚ := none
  deviceID : String := ""
  ifName : String := ""
  collectedAt : String := ""
  deriving DecidableEq

structure SnapshotPayload where
  devices : FMap String DeviceRuntimeDTO := ∅
  links : FMap String LinkRuntimeDTO := ∅
  deriving DecidableEq

def emptySnapshot : SnapshotPayload := {}

/-- `cloneDeviceRuntimeDTO` of `messages.go`: the copied flag list is never nil. -/
def cloneDeviceRuntimeDTO (value : DeviceRuntimeDTO) : DeviceRuntimeDTO :=
  { value with runtimeFlags := some (value.runtimeFlags.getD []) }

def cloneSnapshot : Option SnapshotPayload → SnapshotPayload
  | none => emptySnapshot
  | some snapshot =>
    { snapshot with devices := snapshot.devices.map fun _ value => cloneDeviceRuntimeDTO value }

/-! ### JSON -/

/-- An optional string in JSON. -/
def wireStringPtr : Option String → WireValue
  | none => .null
  | some s => .str s

/-- An optional number in JSON. -/
def wireFloatPtr : Option ℚ → WireValue
  | none => .null
  | some x => .num x

/-- A string slice in JSON. -/
def wireStrings : Option (List String) → WireValue
  | none => .null
  | some l => .strs l

/-- The JSON fields of a `DeviceRuntimeDTO`. -/
def deviceRuntimeFields (dto : DeviceRuntimeDTO) : List (String × WireValue) :=
  [("device_id", .str dto.deviceID),
    ("operational_status", .str dto.operationalStatus),
    ("primary_health", .str dto.primaryHealth),
    ("runtime_flags", wireStrings dto.runtimeFlags),
    ("field_states", .strMap dto.fieldStates),
    ("network_reachable", .str dto.networkReachable),
    ("snmp_reachable", .str dto.snmpReachable),
    ("reachability", .str dto.reachability),
    ("health", .str dto.health),
    ("freshness", .str dto.freshness),
    ("primary_reason", .str dto.primaryReason),
    ("metrics_status", .str dto.metricsStatus),
    ("metrics_reason", .str dto.metricsReason),
    ("alert_status", .str dto.alertStatus),
    ("firing_alert_count", .num dto.firingAlertCount),
    ("last_collected_at", wireStringPtr dto.lastCollectedAt),
    ("last_polled_at", wireStringPtr dto.lastPolledAt),
    ("expected_poll_interval_seconds", wireFloatPtr dto.expectedPollIntervalSeconds),
    ("cpu_percent", wireFloatPtr dto.cpuPercent),
    ("mem_percent", wireFloatPtr dto.memPercent),
    ("temp_celsius", wireFloatPtr dto.tempCelsius),
    ("uptime_secs", wireFloatPtr dto.uptimeSecs)]

/-- The JSON fields of a `LinkRuntimeDTO`. -/
def linkRuntimeFields (dto : LinkRuntimeDTO) : List (String × WireValue) :=
  [("link_id", .str dto.linkID),
    ("source_device_id", .str dto.sourceDeviceID),
    ("target_device_id", .str dto.targetDeviceID),
    ("source_if_name", .str dto.sourceIfName),
    ("target_if_name", .str dto.targetIfName),
    ("metrics_status", .str dto.metricsStatus),
    ("metrics_reason", .str dto.metricsReason),
    ("last_collected_at", wireStringPtr dto.lastCollectedAt),
    ("tx_bps", wireFloatPtr dto.txBps),
    ("rx_bps", wireFloatPtr dto.rxBps),
    ("utilization", wireFloatPtr dto.utilization)]

/-- A snapshot as JSON. -/
def SnapshotPayload.toWire (snapshot : SnapshotPayload) : RuntimeRecords where
  devices := snapshot.devices.map fun _ dto => FMap.ofList (deviceRuntimeFields dto)
  links := snapshot.links.map fun _ dto => FMap.ofList (linkRuntimeFields dto)

end Theia
