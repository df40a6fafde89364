import Theia.ForStd.List
import Theia.ForStd.SortSlice
import Theia.Native.LinkRepo

/-!
# Topology observations

`internal/topology/observations.go`: what a neighbour discovery has observed, the links that follow
from it, and how they are written. `sort.Slice` may leave elements that compare equal in any order;
observations that compare equal give the same link.
-/

namespace Theia

/-- `topology.Observation`, the fields that resolving and materializing read. -/
structure Observation where
  localDeviceID : UUID
  remoteIdentity : String := ""
  remoteDeviceID : UUID := UUID.nil
  localPort : String := ""
  remotePort : String := ""
  protocol : DiscoveryProtocol := .lldp
  selfNeighbor : Bool := false
  lastObservedAt : Time := 0
  deriving DecidableEq, Repr

def normalizeRemoteIdentity (lower : Char → Char) (value : String) : String :=
  beforeDot (trimSuffixDot (toLowerWith lower (trimSpace value)))

/-- The order of `CandidateLinks`. -/
def observationBefore (a b : Observation) : Bool :=
  if a.protocol ≠ b.protocol then a.protocol.toString < b.protocol.toString
  else if a.localDeviceID ≠ b.localDeviceID then
    a.localDeviceID.toString < b.localDeviceID.toString
  else if a.remoteDeviceID ≠ b.remoteDeviceID then
    a.remoteDeviceID.toString < b.remoteDeviceID.toString
  else if a.localPort ≠ b.localPort then a.localPort < b.localPort
  else if a.remotePort ≠ b.remotePort then a.remotePort < b.remotePort
  else if a.remoteIdentity ≠ b.remoteIdentity then a.remoteIdentity < b.remoteIdentity
  else a.lastObservedAt < b.lastObservedAt

/-- The link of an observation, without an ID. -/
def Observation.link (observation : Observation) : LinkRow where
  id := UUID.nil
  sourceDeviceID := observation.localDeviceID
  sourceIfName := observation.localPort
  targetDeviceID := observation.remoteDeviceID
  targetIfName := observation.remotePort
  discoveryProtocol := observation.protocol

/-- The key under which `CandidateLinks` has seen a link. -/
def candidateKey (link : LinkRow) : String :=
  link.discoveryProtocol.toString ++ "|" ++ link.sourceDeviceID.toString ++ "|" ++
    link.sourceIfName ++ "|" ++ link.targetDeviceID.toString ++ "|" ++ link.targetIfName

def candidateLinks (observations : List Observation) : List LinkRow :=
  let sorted := sortSliceBy observationBefore observations
  let resolved := sorted.filter fun observation =>
    !(observation.localDeviceID = UUID.nil || observation.remoteDeviceID = UUID.nil)
  keepFirst candidateKey (resolved.map (·.link))

structure ApplyEvent where
  link : LinkRow
  result : LinkUpsertResult
  deriving DecidableEq, Repr

structure ApplyResult where
  topologyChanged : Bool := false
  linksCreated : Nat := 0
  events : List ApplyEvent := []
  deriving DecidableEq, Repr

/-- What `uuid.New` and `time.Now` return in one call of `UpsertDetailed`. -/
structure Stamp where
  newID : UUID
  now : Time
  deriving DecidableEq, Repr

/-- One pass of the loop of `ApplyObservations`. -/
def ApplyResult.add (result : ApplyResult) (upserted : Upserted) : ApplyResult where
  topologyChanged := result.topologyChanged || upserted.result.changed
  linksCreated := if upserted.result.created then result.linksCreated + 1 else result.linksCreated
  events := result.events ++ [{ link := upserted.link, result := upserted.result }]

section Apply

variable (lower : Char → Char) (maps : CanvasMaps)

/-- The loop of `ApplyObservations`. It stops at the first error and keeps what is written. -/
def applyLinks (store : LinkStore) (result : ApplyResult) :
    List (LinkRow × Stamp) → LinkStore × Except ConstraintError ApplyResult
  | [] => (store, .ok result)
  | (link, stamp) :: rest =>
    match store.upsertDetailed lower maps link stamp.newID stamp.now with
    | .error e => (store, .error e)
    | .ok upserted => applyLinks upserted.store (result.add upserted) rest

/-- The calls of one run of `ApplyObservations`, where `stamps i` is for its call `i`. -/
def candidateCalls (observations : List Observation) (stamps : Nat → Stamp) :
    List (LinkRow × Stamp) :=
  (candidateLinks observations).mapIdx fun i link => (link, stamps i)

/-- `ApplyObservations` with `LinkRepo` as its writer. -/
def applyObservations (store : LinkStore) (observations : List Observation)
    (stamps : Nat → Stamp) : LinkStore × Except ConstraintError ApplyResult :=
  applyLinks lower maps store {} (candidateCalls observations stamps)

end Apply

end Theia
