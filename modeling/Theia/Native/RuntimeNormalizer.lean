import Theia.Native.RuntimeState

/-!
# Normalizing runtime state into overview records

`internal/worker/runtime_normalizer.go`.
-/

namespace Theia

/-- The `normalizedReason…` constants. -/
inductive NormalizedReason
  | ok | awaitingPoll | stale | deviceUnreachable | upstreamUnavailable | noData | unmonitored
  | unsupported
  deriving DecidableEq, Repr

def NormalizedReason.toString : NormalizedReason → String
  | .ok => "ok"
  | .awaitingPoll => "awaiting_poll"
  | .stale => "stale"
  | .deviceUnreachable => "device_unreachable"
  | .upstreamUnavailable => "upstream_unavailable"
  | .noData => "no_data"
  | .unmonitored => "unmonitored"
  | .unsupported => "unsupported"

/-- What `normalizeDeviceFreshness` can answer. -/
inductive Freshness
  | awaitingPoll | stale | fresh
  deriving DecidableEq, Repr

def Freshness.toString : Freshness → String
  | .awaitingPoll => "awaiting_poll"
  | .stale => "stale"
  | .fresh => "fresh"

/-! ### Timestamps -/

/-- Decimal digits of `n`, at least `width` of them. -/
def padNat (width n : Nat) : String :=
  let digits := (Nat.repr n).toList
  String.ofList (List.replicate (width - digits.length) '0' ++ digits)

/-- The days before each month of a common year. -/
def daysBefore : List Nat := [0, 31, 59, 90, 120, 151, 181, 212, 243, 273, 304, 334]

/-- Month and day of the `n`-th day of a year, both from 1. -/
def monthDay (leap : Bool) (n : Nat) : Nat × Nat :=
  let start := fun m => daysBefore.getD m 0 + if leap && 2 ≤ m then 1 else 0
  let month := ((List.range 12).filter fun m => start m ≤ n).getLast?.getD 0
  (month + 1, n - start month + 1)

/-- Year, month and day of the `days`-th day since January 1 of year 1. -/
def civilDate (days : Nat) : Nat × Nat × Nat :=
  let n400 := days / 146097
  let d := days % 146097
  let n100 := min (d / 36524) 3
  let d := d - 36524 * n100
  let n4 := d / 1461
  let d := d % 1461
  let n1 := min (d / 365) 3
  let year := 400 * n400 + 100 * n100 + 4 * n4 + n1 + 1
  let leap := year % 4 = 0 && (year % 100 ≠ 0 || year % 400 = 0)
  (year, monthDay leap (d - 365 * n1))

/-- `ts.UTC().Format(time.RFC3339)` -/
def formatRFC3339 (ts : Time) : String :=
  let seconds := (ts / second).toNat
  let (year, month, day) := civilDate (seconds / 86400)
  let s := seconds % 86400
  padNat 4 year ++ "-" ++ padNat 2 month ++ "-" ++ padNat 2 day ++ "T" ++
    padNat 2 (s / 3600) ++ ":" ++ padNat 2 (s / 60 % 60) ++ ":" ++ padNat 2 (s % 60) ++ "Z"

def timestampPtr (ts : Time) : Option String :=
  if Time.isZero ts then none else some (formatRFC3339 ts)

def stringValue (value : Option String) : String := value.getD ""

def durationSecondsPtr (value : Duration) : Option ℚ :=
  if value ≤ 0 then none else some (value / second)

/-! ### Devices -/

def normalizeDeviceFreshness (deviceState : DeviceState) : Freshness :=
  if Time.isZero deviceState.lastPolledAt && Time.isZero deviceState.metrics.collectedAt then
    .awaitingPoll
  else if deviceState.stale then .stale
  else .fresh

def normalizeDeviceReachability (deviceState : DeviceState) : String :=
  match deviceState.reachability with
  | .up => "up"
  | .softDown => "soft_down"
  | .hardDown => "hard_down"
  | .unknown | .unset => "unknown"

def primaryHealthForDTO (deviceState : DeviceState) : PrimaryHealth :=
  if deviceState.primaryHealth ≠ .unset then deviceState.primaryHealth
  else if deviceState.stale then .upStale
  else match deviceState.reachability with
    | .up => .upFresh
    | .softDown => .snmpDegraded
    | .hardDown => .unreachable
    | .unknown | .unset => .probing

/-- The runtime flags in the order of their strings. -/
def sortedRuntimeFlags : List RuntimeFlag :=
  [.backgroundPending, .deadlineMissed, .degradedRisk, .overloaded, .partialTelemetry,
    .persistenceLagging]

/-- `runtimeFlagsForDTO`: the enabled flags, sorted. -/
def runtimeFlagsForDTO (flags : FMap RuntimeFlag Bool) : List String :=
  (sortedRuntimeFlags.filter fun flag => flags.get flag = some true).map RuntimeFlag.toString

def fieldStatesForDTO (fields : FMap String FieldState) : FMap String String :=
  (FMap.ofList [("uptime", FieldState.missing.toString), ("cpu", FieldState.missing.toString),
    ("memory", FieldState.missing.toString)]).overlay (fields.map fun _ value => value.toString)

def reachabilityEvidenceForDTO (value : TriState) : TriState :=
  if value = .unset then .unknown else value

def isUnsupportedDevice (device : Device) : Bool :=
  device.metricsSource = .none && device.deviceType ≠ .virtual

def deviceDependsOnPrometheus (device : Device) : Bool :=
  let src := if device.metricsSource = .other "" then .prometheus else device.metricsSource
  src = .prometheus || src = .prometheusSNMPFallback

def deviceMetricCount (metrics : DeviceMetrics) : Nat :=
  metrics.cpuPercent.toList.length + metrics.memPercent.toList.length +
    metrics.uptimeSecs.toList.length

def isPrometheusBlocked (device : Device) (deviceState : DeviceState)
    (promStatus : PrometheusStatus) : Bool :=
  if !deviceDependsOnPrometheus device || !promStatus.enabled || promStatus.available then false
  else deviceMetricCount deviceState.metrics = 0

def normalizeDevicePrimaryReason (device : Device) (deviceState : DeviceState)
    (promStatus : PrometheusStatus) (freshness : Freshness) : NormalizedReason :=
  if isUnsupportedDevice device then .unsupported
  else if isPrometheusBlocked device deviceState promStatus then .upstreamUnavailable
  else if deviceState.reachability = .hardDown then .deviceUnreachable
  else if freshness = .awaitingPoll then .awaitingPoll
  else if freshness = .stale then .stale
  else .ok

def normalizeOperationalStatus (deviceState : DeviceState) (freshness : Freshness)
    (primaryReason : NormalizedReason) : String :=
  if primaryReason = .unsupported || primaryReason = .upstreamUnavailable then "unknown"
  else match deviceState.reachability with
    | .up => "up"
    | .softDown => "probing"
    | .hardDown => "down"
    | .unknown | .unset => if freshness = .awaitingPoll then "probing" else "unknown"

def normalizeDeviceMetricsStatus (device : Device) (deviceState : DeviceState)
    (promStatus : PrometheusStatus) (freshness : Freshness) : String × NormalizedReason :=
  if isUnsupportedDevice device then ("unavailable", .unsupported)
  else if isPrometheusBlocked device deviceState promStatus then
    ("unavailable", .upstreamUnavailable)
  else if deviceState.reachability = .hardDown then ("unavailable", .deviceUnreachable)
  else if freshness = .stale then ("unavailable", .stale)
  else if deviceMetricCount deviceState.metrics = 0 then
    if freshness = .awaitingPoll then ("unavailable", .awaitingPoll) else ("unavailable", .noData)
  else if deviceMetricCount deviceState.metrics < 3 then ("partial", .ok)
  else ("available", .ok)

/-- One alert of the loop of `summarizeAlerts`. -/
def summarizeAlert (acc : AlertStatus × Int) (alert : AlertState) : AlertStatus × Int :=
  if !equalFold alert.state "firing" then acc
  else if equalFold alert.severity "critical" then (.down, acc.2 + 1)
  else if acc.1 ≠ .down then (.degraded, acc.2 + 1)
  else (acc.1, acc.2 + 1)

def summarizeAlerts (alerts : List AlertState) : AlertStatus × Int :=
  alerts.foldl summarizeAlert (.normal, 0)

def staleCompatibilityPtr (freshness : Freshness) : Option Bool := some (freshness = .stale)

/-- The health shown for a device: an unset one is unknown. -/
def healthForDTO (health : HealthStatus) : HealthStatus :=
  if health = .unset then .unknown else health

def normalizeVirtualWithIPDeviceRuntimeDTO (device : Device) (deviceState : DeviceState)
    (alerts : List AlertState) : DeviceRuntimeDTO :=
  let device := { device with metricsSource := .none }
  let deviceState := { deviceState with metrics := {} }
  let freshness := normalizeDeviceFreshness deviceState
  let primaryReason := normalizeDevicePrimaryReason device deviceState {} freshness
  let (alertStatus, firingAlertCount) := summarizeAlerts alerts
  { deviceID := device.id.toString
    operationalStatus := normalizeOperationalStatus deviceState freshness primaryReason
    primaryHealth := (primaryHealthForDTO deviceState).toString
    runtimeFlags := some (runtimeFlagsForDTO deviceState.runtimeFlags)
    fieldStates := fieldStatesForDTO ∅
    networkReachable := (reachabilityEvidenceForDTO deviceState.networkReachable).toString
    snmpReachable := TriState.unknown.toString
    reachability := normalizeDeviceReachability deviceState
    health := (healthForDTO deviceState.health).toString
    freshness := freshness.toString
    primaryReason := primaryReason.toString
    metricsStatus := "unmonitored"
    metricsReason := NormalizedReason.unmonitored.toString
    alertStatus := alertStatus.toString
    firingAlertCount := firingAlertCount
    lastPolledAt := timestampPtr deviceState.lastPolledAt
    expectedPollIntervalSeconds := durationSecondsPtr deviceState.expectedInterval
    stale := staleCompatibilityPtr freshness }

def normalizeDeviceRuntimeDTO (device : Device) (deviceState : DeviceState)
    (alerts : List AlertState) (promStatus : PrometheusStatus) : DeviceRuntimeDTO :=
  if isVirtualNoIPDevice device then
    { deviceID := device.id.toString
      operationalStatus := "unmonitored"
      primaryHealth := PrimaryHealth.probing.toString
      runtimeFlags := some []
      fieldStates := fieldStatesForDTO ∅
      networkReachable := TriState.unknown.toString
      snmpReachable := TriState.unknown.toString
      reachability := "unmonitored"
      health := HealthStatus.unknown.toString
      freshness := "unmonitored"
      primaryReason := NormalizedReason.unmonitored.toString
      metricsStatus := "unmonitored"
      metricsReason := NormalizedReason.unmonitored.toString
      alertStatus := AlertStatus.normal.toString }
  else if isVirtualWithIPDevice device then
    normalizeVirtualWithIPDeviceRuntimeDTO device deviceState alerts
  else
    let freshness := normalizeDeviceFreshness deviceState
    let primaryReason := normalizeDevicePrimaryReason device deviceState promStatus freshness
    let (metricsStatus, metricsReason) :=
      normalizeDeviceMetricsStatus device deviceState promStatus freshness
    let (alertStatus, firingAlertCount) := summarizeAlerts alerts
    { deviceID := device.id.toString
      operationalStatus := normalizeOperationalStatus deviceState freshness primaryReason
      primaryHealth := (primaryHealthForDTO deviceState).toString
      runtimeFlags := some (runtimeFlagsForDTO deviceState.runtimeFlags)
      fieldStates := fieldStatesForDTO deviceState.fieldStates
      networkReachable := (reachabilityEvidenceForDTO deviceState.networkReachable).toString
      snmpReachable := (reachabilityEvidenceForDTO deviceState.snmpReachable).toString
      reachability := normalizeDeviceReachability deviceState
      health := (healthForDTO deviceState.health).toString
      freshness := freshness.toString
      primaryReason := primaryReason.toString
      metricsStatus := metricsStatus
      metricsReason := metricsReason.toString
      alertStatus := alertStatus.toString
      firingAlertCount := firingAlertCount
      lastCollectedAt := timestampPtr deviceState.metrics.collectedAt
      lastPolledAt := timestampPtr deviceState.lastPolledAt
      expectedPollIntervalSeconds := durationSecondsPtr deviceState.expectedInterval
      cpuPercent := deviceState.metrics.cpuPercent
      memPercent := deviceState.metrics.memPercent
      tempCelsius := deviceState.metrics.tempCelsius
      uptimeSecs := deviceState.metrics.uptimeSecs
      collectedAt := stringValue (timestampPtr deviceState.metrics.collectedAt)
      stale := staleCompatibilityPtr freshness }

/-! ### Links -/

/-- The reasons of the switch in `normalizeLinkMetricsStatus`. -/
def linkBlockingReasons : List NormalizedReason :=
  [.upstreamUnavailable, .deviceUnreachable, .stale, .awaitingPoll, .unmonitored, .unsupported]

def normalizeLinkMetricsStatus (metric : Option LinkMetrics)
    (sourceRuntime targetRuntime : DeviceRuntimeDTO) : String × NormalizedReason :=
  let count := match metric with
    | some metric => metric.txBps.toList.length + metric.rxBps.toList.length +
        metric.utilization.toList.length
    | none => 0
  if count = 3 then ("available", .ok)
  else if 0 < count then ("partial", .ok)
  else
    let reasons := [sourceRuntime.primaryReason, targetRuntime.primaryReason,
      sourceRuntime.metricsReason, targetRuntime.metricsReason]
    ("unavailable", (reasons.findSome? fun reason =>
      linkBlockingReasons.find? fun r => r.toString = reason).getD .noData)

def normalizeLinkRuntimeDTO (link : Link) (metric : Option LinkMetrics)
    (sourceRuntime targetRuntime : DeviceRuntimeDTO) : LinkRuntimeDTO :=
  let (metricsStatus, metricsReason) :=
    normalizeLinkMetricsStatus metric sourceRuntime targetRuntime
  let lastCollectedAt := metric.bind fun metric => timestampPtr metric.collectedAt
  { linkID := link.id.toString
    sourceDeviceID := link.sourceDeviceID.toString
    targetDeviceID := link.targetDeviceID.toString
    sourceIfName := link.sourceIfName
    targetIfName := link.targetIfName
    metricsStatus := metricsStatus
    metricsReason := metricsReason.toString
    lastCollectedAt := lastCollectedAt
    txBps := metric.bind LinkMetrics.txBps
    rxBps := metric.bind LinkMetrics.rxBps
    utilization := metric.bind LinkMetrics.utilization
    deviceID := match metric with
      | some metric =>
        if metric.deviceID ≠ UUID.nil then metric.deviceID.toString
        else link.sourceDeviceID.toString
      | none => link.sourceDeviceID.toString
    ifName := match metric with
      | some metric => if metric.ifName ≠ "" then metric.ifName else link.sourceIfName
      | none => link.sourceIfName
    collectedAt := stringValue lastCollectedAt }

end Theia
