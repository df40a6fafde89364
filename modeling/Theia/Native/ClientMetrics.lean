import Theia.Native.PipelineInputs

/-!
# Runtime records in the browser

`frontend/src/types/metrics.ts`: the parsers of full records and of patches, and
`mergeRuntimeDeltaPatch`. A parser that throws gives `none`; a parsed record is an object, so it
is a `WireRecord` again.
-/

namespace Theia.Client

/-- Reads one field; `none` is a thrown error. -/
abbrev Reader := WireValue → Option WireValue

/-! ### Allowed values -/

def runtimeReasons : List String :=
  ["ok", "awaiting_poll", "stale", "device_unreachable", "upstream_unavailable", "no_data",
    "unmonitored", "unsupported"]

def operationalStatuses : List String := ["up", "down", "probing", "unknown", "unmonitored"]

def reachabilityStatuses : List String :=
  ["up", "soft_down", "hard_down", "unknown", "unmonitored"]

def healthStatuses : List String := ["healthy", "warning", "critical", "unknown"]

def freshnessStatuses : List String := ["fresh", "stale", "awaiting_poll", "unmonitored"]

def metricsStatuses : List String := ["available", "partial", "unavailable", "unmonitored"]

def linkMetricsStatuses : List String := ["available", "partial", "unavailable"]

def alertStatuses : List String := ["normal", "degraded", "down"]

def primaryHealthStates : List String :=
  ["probing", "up_fresh", "up_stale", "snmp_degraded", "unreachable", "quarantined"]

def runtimeFlags : List String :=
  ["deadline_missed", "overloaded", "background_pending", "partial_telemetry", "degraded_risk",
    "persistence_lagging"]

def fieldStates : List String := ["ok", "missing", "error", "stale"]

def reachabilityEvidenceStates : List String := ["true", "false", "unknown"]

/-! ### Field readers -/

def readRequiredString (allowEmpty : Bool) : Reader
  | .str s => if allowEmpty || s ≠ "" then some (.str s) else none
  | _ => none

def readRequiredNullableString : Reader
  | .null => some .null
  | .str s => some (.str s)
  | _ => none

def readRequiredNullableNumber : Reader
  | .null => some .null
  | .num x => some (.num x)
  | _ => none

def readRequiredEnum (allowedValues : List String) : Reader
  | .str s => if s ∈ allowedValues then some (.str s) else none
  | _ => none

def readRuntimeFlags : Reader
  | .strs l => if ∀ entry ∈ l, entry ∈ runtimeFlags then some (.strs l) else none
  | _ => none

/-- `readRuntimeFlagsPatch`: null clears the list. -/
def readRuntimeFlagsPatch : Reader
  | .null => some (.strs [])
  | value => readRuntimeFlags value

/-- The entry of a grouped field state that `readFieldStates` checks. -/
def readFieldState (m : FMap String String) (key : String) : Option String :=
  (m.get key).bind fun value => if value ∈ fieldStates then some value else none

/-- `readFieldStates`: other entries are not kept. -/
def readFieldStates : Reader
  | .strMap m => do
    let uptime ← readFieldState m "uptime"
    let cpu ← readFieldState m "cpu"
    let memory ← readFieldState m "memory"
    return .strMap (FMap.ofList [("uptime", uptime), ("cpu", cpu), ("memory", memory)])
  | _ => none

/-- `Math.trunc` -/
def trunc (x : ℚ) : Int := if 0 ≤ x then x.floor else x.ceil

def readRequiredCount : Reader
  | .num x => if 0 ≤ x then some (.num (trunc x)) else none
  | _ => none

/-! ### Records -/

/-- Read every field of a table; all of them must be there. -/
def readAll (readers : FMap String Reader) (record : WireRecord) : Option WireRecord :=
  readers.traverse fun key read => (record.get key).bind read

/-- Read the fields of a table that are there. -/
def readPresent (readers : FMap String Reader) (record : WireRecord) : Option WireRecord :=
  (readers.filterMap fun key read => (record.get key).map read).traverse fun _ value => value

/-- The fields of `parseDeviceRuntime`. -/
def deviceRuntimeReaders : List (String × Reader) :=
  [("device_id", readRequiredString false),
    ("operational_status", readRequiredEnum operationalStatuses),
    ("primary_health", readRequiredEnum primaryHealthStates),
    ("runtime_flags", readRuntimeFlags),
    ("field_states", readFieldStates),
    ("network_reachable", readRequiredEnum reachabilityEvidenceStates),
    ("snmp_reachable", readRequiredEnum reachabilityEvidenceStates),
    ("reachability", readRequiredEnum reachabilityStatuses),
    ("health", readRequiredEnum healthStatuses),
    ("freshness", readRequiredEnum freshnessStatuses),
    ("primary_reason", readRequiredEnum runtimeReasons),
    ("metrics_status", readRequiredEnum metricsStatuses),
    ("metrics_reason", readRequiredEnum runtimeReasons),
    ("alert_status", readRequiredEnum alertStatuses),
    ("firing_alert_count", readRequiredCount),
    ("last_collected_at", readRequiredNullableString),
    ("last_polled_at", readRequiredNullableString),
    ("expected_poll_interval_seconds", readRequiredNullableNumber),
    ("cpu_percent", readRequiredNullableNumber),
    ("mem_percent", readRequiredNullableNumber),
    ("temp_celsius", readRequiredNullableNumber),
    ("uptime_secs", readRequiredNullableNumber)]

/-- The fields of `parseLinkRuntime`. -/
def linkRuntimeReaders : List (String × Reader) :=
  [("link_id", readRequiredString false),
    ("source_device_id", readRequiredString false),
    ("target_device_id", readRequiredString false),
    ("source_if_name", readRequiredString true),
    ("target_if_name", readRequiredString true),
    ("metrics_status", readRequiredEnum linkMetricsStatuses),
    ("metrics_reason", readRequiredEnum runtimeReasons),
    ("last_collected_at", readRequiredNullableString),
    ("tx_bps", readRequiredNullableNumber),
    ("rx_bps", readRequiredNullableNumber),
    ("utilization", readRequiredNullableNumber)]

def parseDeviceRuntime (value : WireRecord) : Option WireRecord :=
  readAll (FMap.ofList deviceRuntimeReaders) value

def parseLinkRuntime (value : WireRecord) : Option WireRecord :=
  readAll (FMap.ofList linkRuntimeReaders) value

/-- The fields of `parseDeviceRuntimePatch`: those of a full record, but null clears the flags. -/
def deviceRuntimePatchReaders : List (String × Reader) :=
  [("device_id", readRequiredString false),
    ("operational_status", readRequiredEnum operationalStatuses),
    ("primary_health", readRequiredEnum primaryHealthStates),
    ("runtime_flags", readRuntimeFlagsPatch),
    ("field_states", readFieldStates),
    ("network_reachable", readRequiredEnum reachabilityEvidenceStates),
    ("snmp_reachable", readRequiredEnum reachabilityEvidenceStates),
    ("reachability", readRequiredEnum reachabilityStatuses),
    ("health", readRequiredEnum healthStatuses),
    ("freshness", readRequiredEnum freshnessStatuses),
    ("primary_reason", readRequiredEnum runtimeReasons),
    ("metrics_status", readRequiredEnum metricsStatuses),
    ("metrics_reason", readRequiredEnum runtimeReasons),
    ("alert_status", readRequiredEnum alertStatuses),
    ("firing_alert_count", readRequiredCount),
    ("last_collected_at", readRequiredNullableString),
    ("last_polled_at", readRequiredNullableString),
    ("expected_poll_interval_seconds", readRequiredNullableNumber),
    ("cpu_percent", readRequiredNullableNumber),
    ("mem_percent", readRequiredNullableNumber),
    ("temp_celsius", readRequiredNullableNumber),
    ("uptime_secs", readRequiredNullableNumber)]

/-- The fields of `parseLinkRuntimePatch`: those of a full record. -/
def linkRuntimePatchReaders : List (String × Reader) :=
  [("link_id", readRequiredString false),
    ("source_device_id", readRequiredString false),
    ("target_device_id", readRequiredString false),
    ("source_if_name", readRequiredString true),
    ("target_if_name", readRequiredString true),
    ("metrics_status", readRequiredEnum linkMetricsStatuses),
    ("metrics_reason", readRequiredEnum runtimeReasons),
    ("last_collected_at", readRequiredNullableString),
    ("tx_bps", readRequiredNullableNumber),
    ("rx_bps", readRequiredNullableNumber),
    ("utilization", readRequiredNullableNumber)]

/-- A patch parser: the identifier is required, every other field is read if it is there. -/
def parsePatch (idKey : String) (readers : List (String × Reader)) (value : WireRecord) :
    Option WireRecord :=
  if (value.get idKey).isNone then none else readPresent (FMap.ofList readers) value

def parseDeviceRuntimePatch (value : WireRecord) : Option WireRecord :=
  parsePatch "device_id" deviceRuntimePatchReaders value

def parseLinkRuntimePatch (value : WireRecord) : Option WireRecord :=
  parsePatch "link_id" linkRuntimePatchReaders value

/-! ### Payloads -/

/-- Parse the records of one section; each must carry the identifier it is stored under. -/
def parseSection (idKey : String) (parse : WireRecord → Option WireRecord)
    (section_ : FMap String WireRecord) : Option (FMap String WireRecord) :=
  section_.traverse fun id value =>
    (parse value).bind fun record =>
      if record.get idKey = some (.str id) then some record else none

def parseSnapshotPayload (value : RuntimeRecords) : Option RuntimeRecords := do
  let devices ← parseSection "device_id" parseDeviceRuntime value.devices
  let links ← parseSection "link_id" parseLinkRuntime value.links
  return { devices, links }

def parseRuntimePatchPayload (value : RuntimeDeltaPayload) : Option RuntimeDeltaPayload := do
  let devices ← parseSection "device_id" parseDeviceRuntimePatch value.devices
  let links ← parseSection "link_id" parseLinkRuntimePatch value.links
  return { devices, links }

/-! ### Merging -/

/-- `runtimePatchValueEqual`; `none` is undefined. -/
def runtimePatchValueEqual : Option WireValue → Option WireValue → Bool
  | none, none => true
  | some (.strs left), some (.strs right) =>
    left.length = right.length ∧ ∀ i < left.length, left[i]? = right[i]?
  | some (.strMap left), some (.strMap right) =>
    left.dom.card = right.dom.card ∧ ∀ key ∈ left.dom, left.get key = right.get key
  | left, right => left = right

/-- The object `{ ...current, ...patch, [idKey]: current[idKey] }`. -/
def spreadRecord (idKey : String) (current patch : WireRecord) : WireRecord :=
  match current.get idKey with
  | some id => (current.overlay patch).insert idKey id
  | none => (current.overlay patch).erase idKey

/-- `mergeRecord`: the identifier of the current record stays, and an unchanged record is kept. -/
def mergeRecord (idKey : String) (current patch : WireRecord) : WireRecord :=
  let next := spreadRecord idKey current patch
  if ∃ key ∈ patch.dom, ¬runtimePatchValueEqual (current.get key) (next.get key) then next
  else current

/-- `mergeRuntimeDeltaPatch`: patches of entities that the snapshot does not have are skipped. -/
def mergeRuntimeDeltaPatch (existing : RuntimeRecords) (delta : RuntimeDeltaPayload) :
    RuntimeRecords where
  devices := existing.devices.patchWith (mergeRecord "device_id") delta.devices
  links := existing.links.patchWith (mergeRecord "link_id") delta.links

/-! ### Alerts -/

/-- The active alerts of `alertStatusForDevice`. -/
def activeAlerts (deviceId : String) (alerts : List AlertDTO) : List AlertDTO :=
  alerts.filter fun alert => alert.deviceID = deviceId && alert.state = "firing"

def alertStatusForDevice (deviceId : String) (alerts : List AlertDTO) : AlertStatus :=
  if (activeAlerts deviceId alerts).any (·.severity = "critical") then .down
  else if (activeAlerts deviceId alerts).any (·.severity = "warning") then .degraded
  else .normal

end Theia.Client
