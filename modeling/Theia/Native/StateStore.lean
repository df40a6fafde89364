import Theia.Native.ChangeChannel
import Theia.Native.RuntimeState

/-!
# The state store

`internal/state/store.go` and `internal/state/health.go`: what one poll result does to the state of
its device, when a device becomes stale, and which changes are announced.

Each operation holds `Store.mu` while it changes the map, so it is one step on the store. The
clones of the source are equal to what they copy, and a nil map or slice is an empty one. The
metrics are rationals, so the case of a NaN has no counterpart.
-/

namespace Theia

inductive MetricSeverity
  | ok | warning | critical | unset
  deriving DecidableEq, Repr

/-- `polling.PollStatus` -/
inductive PollStatus
  | complete | partialPoll | failed | unset
  deriving DecidableEq, Repr

/-- `polling.NetworkProbeResult` -/
structure NetworkProbeResult where
  port : Int
  reachable : Bool
  error : String := ""
  deriving DecidableEq, Repr

/-- `state.DeviceState` with the fields that no runtime record shows. -/
structure StoredState extends DeviceState where
  cpuSeverity : MetricSeverity := .unset
  memSeverity : MetricSeverity := .unset
  tempSeverity : MetricSeverity := .unset
  consecutiveFailures : Nat := 0
  networkReachabilityResults : List NetworkProbeResult := []
  deriving DecidableEq

structure EssentialUpdate where
  pollStatus : PollStatus := .unset
  networkReachable : TriState := .unset
  networkReachabilityResults : List NetworkProbeResult := []
  snmpReachable : TriState := .unset
  uptime : FieldState := .missing
  cpu : FieldState := .missing
  memory : FieldState := .missing
  deadlineMissed : Bool := false
  overloaded : Bool := false
  deriving DecidableEq

structure StateUpdate where
  deviceID : UUID
  volatilityClass : VolatilityClass := .unset
  metrics : Option DeviceMetrics := none
  linkMetrics : List LinkMetrics := []
  pollSuccess : Bool := false
  expectedInterval : Duration := 0
  timestamp : Time := 0
  essential : Option EssentialUpdate := none
  deriving DecidableEq

/-! ### Health -/

structure ThresholdConfig where
  warnRise : ℚ
  warnFall : ℚ
  criticalRise : ℚ
  criticalFall : ℚ

/-- The entry of `defaultThresholds`, which is the same for cpu, mem and temp. -/
def defaultThresholds : ThresholdConfig where
  warnRise := 70
  warnFall := 60
  criticalRise := 90
  criticalFall := 80

def evaluateMetricSeverity (value : ℚ) (current : MetricSeverity) (threshold : ThresholdConfig) :
    MetricSeverity :=
  match current with
  | .warning =>
    if threshold.criticalRise ≤ value then .critical
    else if value < threshold.warnFall then .ok
    else .warning
  | .critical =>
    if value < threshold.warnFall then .ok
    else if value < threshold.criticalFall then .warning
    else .critical
  | .ok | .unset =>
    if threshold.criticalRise ≤ value then .critical
    else if threshold.warnRise ≤ value then .warning
    else .ok

def aggregateHealth (cpu mem temp : MetricSeverity) : HealthStatus :=
  let severities := [cpu, mem, temp]
  if severities.contains .critical then .critical
  else if severities.all (· = .unset) then .unknown
  else if severities.contains .warning then .warning
  else .healthy

/-- The severity of one metric after a poll; a missing value leaves it as it is. -/
def nextSeverity (value : Option ℚ) (current : MetricSeverity) : MetricSeverity :=
  match value with
  | some value => evaluateMetricSeverity value current defaultThresholds
  | none => current

/-- `evaluateHealth` of the state and its own metrics. -/
def evaluateHealth (state : StoredState) : StoredState :=
  let cpu := nextSeverity state.metrics.cpuPercent state.cpuSeverity
  let mem := nextSeverity state.metrics.memPercent state.memSeverity
  let temp := nextSeverity state.metrics.tempCelsius state.tempSeverity
  { state with
    cpuSeverity := cpu
    memSeverity := mem
    tempSeverity := temp
    health := aggregateHealth cpu mem temp }

/-! ### One update -/

def applyFreshnessMetadata (next : StoredState) (update : StateUpdate) : StoredState :=
  { next with
    lastPolledAt := update.timestamp
    expectedInterval :=
      if 0 < update.expectedInterval then update.expectedInterval else next.expectedInterval
    stale := false }

def essentialNetworkReachability (essential : EssentialUpdate) : TriState :=
  if essential.networkReachable ≠ .unknown then essential.networkReachable
  else if essential.networkReachabilityResults = [] then .unknown
  else if essential.networkReachabilityResults.any (·.reachable) then .true
  else .false

def isDownReachability (reachability : ReachabilityStatus) : Bool :=
  reachability = .softDown || reachability = .hardDown

def mergeEssentialFieldState (observed : FieldState) (existingValue : Option ℚ) : FieldState :=
  if observed = .missing ∧ existingValue.isSome then .ok else observed

/-- `mergeEssentialFieldStates`: every key of the literal is overwritten at the end. -/
def mergeEssentialFieldStates (prev : FMap String FieldState) (metrics : DeviceMetrics)
    (essential : EssentialUpdate) : FMap String FieldState :=
  ((prev.insert "uptime" (mergeEssentialFieldState essential.uptime metrics.uptimeSecs)).insert
    "cpu" (mergeEssentialFieldState essential.cpu metrics.cpuPercent)).insert
    "memory" (mergeEssentialFieldState essential.memory metrics.memPercent)

def hasPartialTelemetryFields (fields : FMap String FieldState) : Bool :=
  ["uptime", "cpu", "memory"].any fun key => fields.get key ≠ some .ok

def cloneRuntimeFlags (flags : FMap RuntimeFlag Bool) : FMap RuntimeFlag Bool :=
  flags.filterMap fun _ value => if value then some true else none

def setFlag (flags : FMap RuntimeFlag Bool) (flag : RuntimeFlag) (enabled : Bool) :
    FMap RuntimeFlag Bool :=
  if enabled then flags.insert flag true else flags.erase flag

/-- The metrics after an essential poll. -/
def mergeEssentialMetrics (metrics : DeviceMetrics) (update : Option DeviceMetrics) :
    DeviceMetrics :=
  match update with
  | none => metrics
  | some observed =>
    { metrics with
      cpuPercent := observed.cpuPercent.or metrics.cpuPercent
      memPercent := observed.memPercent.or metrics.memPercent
      uptimeSecs := observed.uptimeSecs.or metrics.uptimeSecs
      collectedAt := observed.collectedAt }

/-- The switch at the end of `applyEssentialUpdate`. -/
def applyNetworkEvidence (next prev : StoredState) (networkReachable snmpReachable : TriState) :
    StoredState :=
  match networkReachable with
  | .true =>
    { next with
      consecutiveFailures := 0
      reachability := .up
      primaryHealth := if snmpReachable = .false then .snmpDegraded else .upFresh }
  | .false =>
    { next with
      consecutiveFailures := prev.consecutiveFailures + 1
      reachability := if 3 ≤ prev.consecutiveFailures + 1 then .hardDown else .softDown
      primaryHealth := .unreachable }
  | .unknown | .unset =>
    if isDownReachability prev.reachability then
      { next with
        consecutiveFailures := prev.consecutiveFailures
        reachability := prev.reachability
        networkReachable :=
          if prev.networkReachable = .false then .false else next.networkReachable
        primaryHealth := .unreachable }
    else
      { next with
        consecutiveFailures := 0
        reachability := if prev.reachability = .up then .up else .unknown
        primaryHealth := if snmpReachable = .false then .snmpDegraded else .probing }

def applyEssentialUpdate (prev : StoredState) (update : StateUpdate)
    (essential : EssentialUpdate) : StoredState :=
  let next := applyFreshnessMetadata prev update
  let networkReachable := essentialNetworkReachability essential
  let observed :=
    networkReachable ≠ .unknown || !essential.networkReachabilityResults.isEmpty
  let metrics := mergeEssentialMetrics next.metrics update.metrics
  let fieldStates := mergeEssentialFieldStates prev.fieldStates metrics essential
  let flags := setFlag (setFlag (cloneRuntimeFlags prev.runtimeFlags) .deadlineMissed
    essential.deadlineMissed) .overloaded essential.overloaded
  let next := { next with
    networkReachable := if observed then networkReachable else next.networkReachable
    networkReachabilityResults :=
      if observed then essential.networkReachabilityResults else next.networkReachabilityResults
    snmpReachable := essential.snmpReachable
    metrics := metrics
    fieldStates := fieldStates
    runtimeFlags := setFlag flags .partialTelemetry
      (essential.pollStatus = .partialPoll && hasPartialTelemetryFields fieldStates) }
  applyNetworkEvidence next prev networkReachable essential.snmpReachable

def markMetricFieldStates (next : StoredState) (metrics : DeviceMetrics) : StoredState :=
  let mark := fun (fields : FMap String FieldState) (key : String) (value : Option ℚ) =>
    if value.isSome then fields.insert key .ok else fields
  { next with
    fieldStates := mark (mark (mark next.fieldStates "uptime" metrics.uptimeSecs) "cpu"
      metrics.cpuPercent) "memory" metrics.memPercent }

def applyPerformanceUpdate (next : StoredState) (update : StateUpdate) : StoredState :=
  if !update.pollSuccess then next
  else
    let next := if update.linkMetrics = [] then next
      else { next with linkMetrics := update.linkMetrics }
    match update.metrics with
    | none => next
    | some metrics =>
      let merged := { next.metrics with
        cpuPercent := metrics.cpuPercent.or next.metrics.cpuPercent
        memPercent := metrics.memPercent.or next.metrics.memPercent
        tempCelsius := metrics.tempCelsius.or next.metrics.tempCelsius
        uptimeSecs := metrics.uptimeSecs.or next.metrics.uptimeSecs
        collectedAt := metrics.collectedAt }
      evaluateHealth (markMetricFieldStates { next with metrics := merged } metrics)

def applyReachabilityUpdate (next prev : StoredState) (pollSuccess : Bool) : StoredState :=
  if pollSuccess then { next with reachability := .up, consecutiveFailures := 0 }
  else
    { next with
      consecutiveFailures := prev.consecutiveFailures + 1
      reachability := if 3 ≤ prev.consecutiveFailures + 1 then .hardDown else .softDown }

def applySNMPFailureOnlyUpdate (next prev : StoredState) : StoredState :=
  let next := { next with snmpReachable := .false }
  if isDownReachability prev.reachability then
    { next with
      reachability := prev.reachability
      consecutiveFailures := prev.consecutiveFailures
      networkReachable := if prev.networkReachable = .false then .false else next.networkReachable
      primaryHealth := .unreachable }
  else
    { next with
      consecutiveFailures := 0
      reachability := if prev.reachability = .up then .up else .unknown
      primaryHealth := .snmpDegraded }

def applyOperationalUpdate (prev : StoredState) (update : StateUpdate) : StoredState :=
  let next := if !update.pollSuccess then applySNMPFailureOnlyUpdate prev prev
    else applyReachabilityUpdate { prev with snmpReachable := .true } prev update.pollSuccess
  let next := match update.metrics.bind DeviceMetrics.uptimeSecs with
    | some uptime => { next with metrics := { next.metrics with uptimeSecs := some uptime } }
    | none => next
  if next.reachability = .up then evaluateHealth next else next

def applyStaticUpdate (next : StoredState) (update : StateUpdate) : StoredState :=
  match update.metrics with
  | none => next
  | some metrics =>
    if !update.pollSuccess then next
    else
      let merged := { next.metrics with
        cpuPercent := metrics.cpuPercent.or next.metrics.cpuPercent
        memPercent := metrics.memPercent.or next.metrics.memPercent
        tempCelsius := metrics.tempCelsius.or next.metrics.tempCelsius
        collectedAt := metrics.collectedAt }
      let next := markMetricFieldStates { next with metrics := merged } metrics
      if next.reachability = .up then evaluateHealth next else next

def applyLegacyUpdate (next prev : StoredState) (existed : Bool) (update : StateUpdate) :
    StoredState :=
  let next := applyReachabilityUpdate next prev update.pollSuccess
  if !update.pollSuccess then next
  else
    let next := if update.linkMetrics = [] then next
      else { next with linkMetrics := update.linkMetrics }
    match update.metrics with
    | some metrics => evaluateHealth { next with metrics := metrics }
    | none =>
      { next with
        metrics := {}
        cpuSeverity := .unset
        memSeverity := .unset
        tempSeverity := .unset
        health := .unknown
        consecutiveFailures := if existed then next.consecutiveFailures else 0 }

/-- The switch of `Store.Update`. -/
def applyUpdate (prev : StoredState) (existed : Bool) (update : StateUpdate) : StoredState :=
  match update.essential with
  | some essential => applyEssentialUpdate prev update essential
  | none =>
    match update.volatilityClass with
    | .performance => applyPerformanceUpdate (applyFreshnessMetadata prev update) update
    | .operational => applyOperationalUpdate prev update
    | .static => applyStaticUpdate prev update
    | .unset => applyLegacyUpdate (applyFreshnessMetadata prev update) prev existed update

/-- The state that `Store.Update` writes: health is never left unset. -/
def nextState (prev : StoredState) (existed : Bool) (update : StateUpdate) : StoredState :=
  let next := applyUpdate prev existed update
  if next.health = .unset then { next with health := .unknown } else next

/-! ### Change detection -/

/-- The loop of `fieldStatesEqual` and `runtimeFlagsEqual`: a missing key reads as the zero value. -/
def mapsEqual {K V : Type} [DecidableEq K] [DecidableEq V] (zero : Option V) (a b : FMap K V) :
    Bool :=
  decide (a.dom.card = b.dom.card) &&
    decide (∀ key ∈ a.dom, (b.get key).or zero = a.get key)

/-- `fieldStatesEqual`; no stored field state is the zero value `""`. -/
def fieldStatesEqual (a b : FMap String FieldState) : Bool := mapsEqual none a b

def runtimeFlagsEqual (a b : FMap RuntimeFlag Bool) : Bool := mapsEqual (some false) a b

/-- The comparison of one pair in the loop of `linkMetricsEqual`. -/
def linkMetricEqual (left right : LinkMetrics) : Bool :=
  left.linkID = right.linkID && left.deviceID = right.deviceID && left.ifName = right.ifName &&
    left.txBps = right.txBps && left.rxBps = right.rxBps && left.utilization = right.utilization

section Sorting

-- `sort.Slice` with the order of `linkMetricsEqual`: by interface name, then by link. The sort is
-- not stable, so nothing more is known about the order of equal elements.
variable (sortSlice : List LinkMetrics → List LinkMetrics)

def linkMetricsEqual (a b : List LinkMetrics) : Bool :=
  a.length = b.length &&
    (List.zipWith linkMetricEqual (sortSlice a) (sortSlice b)).all id

def deviceStateEqual (a b : StoredState) : Bool :=
  a.health = b.health && a.cpuSeverity = b.cpuSeverity && a.memSeverity = b.memSeverity &&
    a.tempSeverity = b.tempSeverity && a.reachability = b.reachability &&
    a.primaryHealth = b.primaryHealth && a.networkReachable = b.networkReachable &&
    a.snmpReachable = b.snmpReachable &&
    a.networkReachabilityResults = b.networkReachabilityResults &&
    fieldStatesEqual a.fieldStates b.fieldStates &&
    runtimeFlagsEqual a.runtimeFlags b.runtimeFlags &&
    a.consecutiveFailures = b.consecutiveFailures && a.stale = b.stale &&
    a.expectedInterval = b.expectedInterval && a.metrics.cpuPercent = b.metrics.cpuPercent &&
    a.metrics.memPercent = b.metrics.memPercent && a.metrics.tempCelsius = b.metrics.tempCelsius &&
    a.metrics.uptimeSecs = b.metrics.uptimeSecs &&
    linkMetricsEqual sortSlice a.linkMetrics b.linkMetrics

/-! ### The store -/

/-- `state.Store` -/
structure StateStore where
  devices : FMap UUID StoredState := ∅
  changes : ChangeChannel := {}

/-- An operation on the store. -/
inductive StoreOp
  | update (u : StateUpdate)
  | remove (id : UUID)
  /-- A staleness tick; `order` is the order in which it iterates over the devices. -/
  | markStale (now : Time) (order : List UUID)

namespace StateStore

/-- `Store.Snapshot`, as far as a runtime record depends on it. -/
def snapshot (s : StateStore) : FMap UUID DeviceState :=
  s.devices.map fun _ stored => stored.toDeviceState

def update (s : StateStore) (u : StateUpdate) : StateStore :=
  if u.deviceID = UUID.nil then s
  else
    let prev := FMap.getZero s.devices {} u.deviceID
    let existed := (s.devices.get u.deviceID).isSome
    let next := nextState prev existed u
    let changed := !existed || !deviceStateEqual sortSlice prev next
    { devices := s.devices.insert u.deviceID next
      changes := if changed then s.changes.emitChanges [u.deviceID] else s.changes }

def remove (s : StateStore) (id : UUID) : StateStore :=
  if (s.devices.get id).isSome then
    { devices := s.devices.erase id, changes := s.changes.emitChanges [id] }
  else s

/-- Does `markStale` mark this device? -/
def expired (now : Time) (ds : StoredState) : Bool :=
  !ds.stale && 0 < ds.expectedInterval && ds.lastPolledAt + 2 * ds.expectedInterval < now

/-- The state that `markStale` writes for an expired device. -/
def staleState (ds : StoredState) : StoredState :=
  { ds with
    stale := true
    primaryHealth := if ds.primaryHealth = .upFresh then .upStale else ds.primaryHealth }

def markStale (s : StateStore) (now : Time) (order : List UUID) : StateStore where
  devices := s.devices.map fun _ ds => if expired now ds then staleState ds else ds
  changes := s.changes.emitChanges
    (order.filter fun id => ((s.devices.get id).map (expired now)).getD false)

/-- One operation on the store. -/
def step (s : StateStore) : StoreOp → StateStore
  | .update u => s.update sortSlice u
  | .remove id => s.remove id
  | .markStale now order => s.markStale now order

end StateStore

end Sorting

end Theia
