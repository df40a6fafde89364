import Theia.Native.NetAddr

/-!
# Devices, poll classes and task kinds

The parts of `internal/domain` and `internal/polling` that the scheduler and the runtime
overview read. The string types of the source are inductive types; a type whose values come
from the database keeps the remaining strings under `other`, and a type whose zero value `""`
is used by the code has `unset`.
-/

namespace Theia

inductive DeviceType
  | router | switch | ap | virtual | unknown
  | other (value : String)
  deriving DecidableEq, Repr

inductive MetricsSource
  | prometheus | snmp | prometheusSNMPFallback | none
  | other (value : String)
  deriving DecidableEq, Repr

inductive PollClass
  | core | standard | low
  | other (value : String)
  deriving DecidableEq, Repr

inductive TopologyBootstrapState
  | idle | pending | followupScheduled | completed
  | other (value : String)
  deriving DecidableEq, Repr

inductive SNMPVersion
  | v2c | v3
  | other (value : String)
  deriving DecidableEq, Repr

inductive VolatilityClass
  | static | operational | performance | unset
  deriving DecidableEq, Repr

inductive TaskKind
  | essential | background | bootstrap | unset
  deriving DecidableEq, Repr

inductive Lane
  | essential | background | performanceCounterWalks | bootstrap | quarantine | unset
  deriving DecidableEq, Repr

/-- The string value of a task kind. -/
def TaskKind.toString : TaskKind → String
  | .essential => "essential"
  | .background => "background"
  | .bootstrap => "bootstrap"
  | .unset => ""

/-- The string value of a volatility class. -/
def VolatilityClass.toString : VolatilityClass → String
  | .static => "static"
  | .operational => "operational"
  | .performance => "performance"
  | .unset => ""

/-- `domain.SNMPv3Credentials`, without the passwords, which no modelled function reads. -/
structure SNMPv3Credentials where
  username : String
  authProtocol : String
  privProtocol : String
  securityLevel : String
  deriving DecidableEq, Repr

/-- `domain.SNMPCredentials`; `v2c` is the community string. -/
structure SNMPCredentials where
  version : SNMPVersion := .other ""
  v2c : Option String := none
  v3 : Option SNMPv3Credentials := none
  deriving DecidableEq, Repr

structure Interface where
  ifName : String
  ifDescr : String
  speed : Int
  deriving DecidableEq, Repr

/-- `domain.Device`, the fields that polling and the overview read. -/
structure Device where
  id : UUID := UUID.nil
  hostname : String := ""
  ip : String := ""
  snmpCredentials : SNMPCredentials := {}
  deviceType : DeviceType := .other ""
  pollClass : PollClass := .other ""
  pollIntervalOverride : Option Int := none
  pollingEnabled : Option Bool := none
  managed : Bool := false
  interfaces : List Interface := []
  areaIDs : List UUID := []
  metricsSource : MetricsSource := .other ""
  topologyBootstrapState : TopologyBootstrapState := .other ""
  deriving DecidableEq, Repr

/-- `domain.Link`, the fields that the overview reads. -/
structure Link where
  id : UUID
  sourceDeviceID : UUID
  sourceIfName : String
  targetDeviceID : UUID
  targetIfName : String
  deriving DecidableEq, Repr

inductive ChangeKind
  | created | updated | deleted
  deriving DecidableEq, Repr

def devicePollingEnabled (device : Device) : Bool :=
  device.pollingEnabled.getD true

def isVirtualWithIPDevice (device : Device) : Bool :=
  device.deviceType = .virtual ∧ trimSpace device.ip ≠ ""

def isVirtualNoIPDevice (device : Device) : Bool :=
  device.deviceType = .virtual ∧ trimSpace device.ip = ""

def normalizeTopologyBootstrapState : TopologyBootstrapState → TopologyBootstrapState
  | .other _ => .idle
  | state => state

def PollClass.interval : PollClass → Duration
  | .core => 30 * second
  | .standard => 60 * second
  | .low => 300 * second
  | .other _ => 60 * second

def operationalClassInterval : Duration := 60 * second

def staticClassInterval : Duration := 300 * second

end Theia
