import Theia.Native.SnapshotBuilder
import Theia.Native.StateStore

/-!
# What the overview is built from

The state store, the alerts and the Prometheus status, with the operations that change them:
`internal/state/store.go`, `setAlerts` and `publishStatus` of
`internal/worker/pipeline_prometheus_monitor.go`, and the receives of the broadcast loop.

The message that `publishStatus` sends to the hub is left out: it is not one of the inputs of the
broadcast loop.
-/

namespace Theia

/-- `domain.AlertState` with the fields of its message. -/
structure Alert extends AlertState where
  deviceID : UUID := UUID.nil
  alertName : String := ""
  summary : String := ""
  deriving DecidableEq

/-- `ws.AlertDTO` -/
structure AlertDTO where
  deviceID : String
  severity : String
  alertName : String
  state : String
  summary : String
  deriving DecidableEq

/-- `flattenAlerts`; `order` is the order of the iteration over the map. -/
def flattenAlerts (order : List UUID) (alertsByDevice : FMap UUID (List Alert)) : List Alert :=
  order.flatMap fun deviceID =>
    (FMap.getZero alertsByDevice [] deviceID).map fun alert =>
      if alert.deviceID = UUID.nil then { alert with deviceID := deviceID } else alert

/-- The message of one alert. -/
def Alert.toDTO (alert : Alert) : AlertDTO where
  deviceID := alert.deviceID.toString
  severity := alert.severity
  alertName := alert.alertName
  state := alert.state
  summary := alert.summary

/-- The inputs of an overview build, and the notification channels of the broadcast loop. -/
structure PipelineInputs where
  store : StateStore := {}
  alerts : FMap UUID (List Alert) := ∅
  promStatus : PrometheusStatus := {}
  /-- `alertNotify` holds a token. -/
  alertNotify : Bool := false

namespace PipelineInputs

inductive Op
  | store (op : StoreOp)
  /-- The monitor stores alerts; the orders are those of the iterations over the old and the new
  map. -/
  | setAlerts (next : FMap UUID (List Alert)) (previousOrder nextOrder : List UUID)
  | publishStatus (status : PrometheusStatus)
  /-- The broadcast loop receives a batch of changes. -/
  | receiveChanges
  /-- The broadcast loop calls `ConsumeOverflowed`. -/
  | consumeOverflowed
  /-- The broadcast loop receives the alert notification. -/
  | receiveAlert

section Step

-- `sort.Slice` of `linkMetricsEqual` and of `AlertsToDTOs`. The second order does not compare the
-- state of an alert, and neither sort is stable.
variable (sortSlice : List LinkMetrics → List LinkMetrics) (sortAlerts : List Alert → List Alert)

/-- `ws.AlertsToDTOs` -/
def alertsToDTOs (alerts : List Alert) : List AlertDTO :=
  ((sortAlerts alerts).filter fun alert => alert.deviceID ≠ UUID.nil).map Alert.toDTO

/-- `setAlerts` of the runtime state and of the monitor. A token that is already there stays. -/
def setAlerts (s : PipelineInputs) (next : FMap UUID (List Alert))
    (previousOrder nextOrder : List UUID) : PipelineInputs :=
  let previous := alertsToDTOs sortAlerts (flattenAlerts previousOrder s.alerts)
  let current := alertsToDTOs sortAlerts (flattenAlerts nextOrder next)
  { s with
    alerts := next
    alertNotify := s.alertNotify || decide (previous ≠ current) }

def publishStatus (s : PipelineInputs) (status : PrometheusStatus) : PipelineInputs :=
  { s with promStatus := status }

/-- One operation. -/
def step (s : PipelineInputs) : Op → PipelineInputs
  | .store op => { s with store := s.store.step sortSlice op }
  | .setAlerts next previousOrder nextOrder =>
    s.setAlerts sortAlerts next previousOrder nextOrder
  | .publishStatus status => s.publishStatus status
  | .receiveChanges =>
    { s with store := { s.store with
      changes := { s.store.changes with queue := s.store.changes.queue.tail } } }
  | .consumeOverflowed =>
    { s with store := { s.store with changes := s.store.changes.consumeOverflowed.1 } }
  | .receiveAlert => { s with alertNotify := false }

end Step

/-- What `buildPipelineSnapshot` is given for these rows of the cache. -/
def overviewInputs (s : PipelineInputs) (devices : List Device) (links : List Link) :
    OverviewInputs where
  devices := devices
  links := links
  states := s.store.snapshot
  alerts := s.alerts.map fun _ alerts => alerts.map (·.toAlertState)
  promStatus := s.promStatus

end PipelineInputs

end Theia
