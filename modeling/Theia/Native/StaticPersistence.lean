import Theia.Native.Observations
import Theia.ForStd.FMap

/-!
# Discovery passes

The topology part of `internal/service/static_persistence.go` with the observation table of
`internal/repository/postgres/topology_observation_repo.go`: a discovery pass of one device, the
cleanup of links that nothing supports any more, and the reconciliation of stored observations
after an import. The link repository and the observation store are configured. A database error
other than a failed constraint has no counterpart, and the table of unresolved neighbours, which
nothing here reads, is left out.

`lower` and `fold` stand for the tables behind `strings.ToLower` and `strings.EqualFold`.
-/

namespace Theia

/-- `strings.EqualFold` -/
def equalFoldWith (fold : Char → Char) (s t : String) : Bool :=
  s.toList.map fold == t.toList.map fold

/-- `strings.TrimSpace(s) == ""` -/
def isBlank (s : String) : Bool := trimSpace s = ""

/-! ### Protocols -/

def isReconcilableDiscoveryProtocol (protocol : DiscoveryProtocol) : Bool :=
  protocol = .lldp || protocol = .cdp

/-- `snmp.NeighborInfo` -/
structure NeighborInfo where
  remoteChassisID : String := ""
  remotePortID : String := ""
  remoteSysName : String := ""
  localIfName : String := ""
  protocol : DiscoveryProtocol := .lldp
  deriving DecidableEq, Repr

/-- `reconciledNeighborDiscoveryProtocols`; of a failure only its protocol is read. -/
def reconciledNeighborDiscoveryProtocols (attemptedProtocols : List DiscoveryProtocol)
    (neighbors : List NeighborInfo) (failures : List DiscoveryProtocol) :
    List DiscoveryProtocol :=
  let requested := attemptedProtocols.filter isReconcilableDiscoveryProtocol
  let attempted := if requested = [] then
      (neighbors.map (·.protocol)).filter isReconcilableDiscoveryProtocol
    else requested
  let failed := failures.filter isReconcilableDiscoveryProtocol
  [.lldp, .cdp].filter fun protocol => protocol ∈ attempted ∧ protocol ∉ failed

def isAmbiguousResolvedDiscoveryObservation (observation : Observation) : Bool :=
  observation.remoteDeviceID ≠ UUID.nil && isReconcilableDiscoveryProtocol observation.protocol &&
    isBlank observation.localPort && isBlank observation.remotePort

def pruneSafeNeighborDiscoveryProtocols (protocols : List DiscoveryProtocol)
    (currentObservations : List Observation) : List DiscoveryProtocol :=
  let ambiguousProtocols :=
    (currentObservations.filter isAmbiguousResolvedDiscoveryObservation).map (·.protocol)
  protocols.filter fun protocol => protocol ∉ ambiguousProtocols

def materializableTopologyObservations (observations : List Observation) : List Observation :=
  observations.filter fun observation => !isAmbiguousResolvedDiscoveryObservation observation

/-! ### Support of a link -/

section Support

variable (lower fold : Char → Char)

def physicalEndpointKey (deviceID : UUID) (port : String) : String :=
  deviceID.toString ++ "|" ++ toLowerWith lower (trimSpace port)

def physicalLinkKey (link : LinkRow) : String :=
  let source := physicalEndpointKey lower link.sourceDeviceID link.sourceIfName
  let target := physicalEndpointKey lower link.targetDeviceID link.targetIfName
  if target < source then target ++ "<->" ++ source else source ++ "<->" ++ target

def sameDiscoveryPort (left right : String) : Bool :=
  equalFoldWith fold (trimSpace left) (trimSpace right)

def discoveryPortsSupportLink (observedLocal observedRemote linkLocal linkRemote : String) : Bool :=
  let localSupported := isBlank observedLocal || isBlank linkLocal ||
    sameDiscoveryPort fold observedLocal linkLocal
  let remoteSupported := isBlank observedRemote || isBlank linkRemote ||
    sameDiscoveryPort fold observedRemote linkRemote
  localSupported && remoteSupported

def currentResolvedObservationSupportsLink (link : LinkRow)
    (currentObservations : List Observation) : Bool :=
  currentObservations.any fun observation =>
    if observation.remoteDeviceID = UUID.nil ∨ observation.protocol ≠ link.discoveryProtocol then
      false
    else if observation.localDeviceID = link.sourceDeviceID ∧
        observation.remoteDeviceID = link.targetDeviceID then
      discoveryPortsSupportLink fold observation.localPort observation.remotePort
        link.sourceIfName link.targetIfName
    else if observation.localDeviceID = link.targetDeviceID ∧
        observation.remoteDeviceID = link.sourceDeviceID then
      discoveryPortsSupportLink fold observation.localPort observation.remotePort
        link.targetIfName link.sourceIfName
    else false

def linkPortsForLocalEndpoint (localDeviceID : UUID) (link : LinkRow) : Option (String × String) :=
  if link.sourceDeviceID = localDeviceID then some (link.sourceIfName, link.targetIfName)
  else if link.targetDeviceID = localDeviceID then some (link.targetIfName, link.sourceIfName)
  else none

/-- The ports of one observation in `currentUnresolvedObservationSupportsLink`. -/
def unresolvedPortsSupport (observedLocal observedRemote localPort remotePort : String) : Bool :=
  if !isBlank observedLocal then
    if isBlank localPort || !sameDiscoveryPort fold observedLocal localPort then false
    else isBlank observedRemote || sameDiscoveryPort fold observedRemote remotePort
  else !isBlank observedRemote && !isBlank remotePort &&
    sameDiscoveryPort fold observedRemote remotePort

def currentUnresolvedObservationSupportsLink (localDeviceID : UUID) (link : LinkRow)
    (currentObservations : List Observation) : Bool :=
  match linkPortsForLocalEndpoint localDeviceID link with
  | none => false
  | some (localPort, remotePort) =>
    if isBlank localPort && isBlank remotePort then false
    else currentObservations.any fun observation =>
      if observation.localDeviceID ≠ localDeviceID ∨ observation.remoteDeviceID ≠ UUID.nil ∨
          observation.protocol ≠ link.discoveryProtocol then false
      else unresolvedPortsSupport fold observation.localPort observation.remotePort localPort
        remotePort

/-! ### The cleanup -/

def LinkStore.getByDeviceID (store : LinkStore) (deviceID : UUID) : List LinkRow :=
  store.links.filter fun row => row.sourceDeviceID = deviceID ∨ row.targetDeviceID = deviceID

/-- `Delete`; `none` if there is no such row. The memberships of the link go with it. -/
def LinkStore.deleteLink (store : LinkStore) (id : UUID) : Option LinkStore :=
  if id ∈ store.links.map (·.id) then
    some { store with
      links := store.links.filter fun row => row.id ≠ id
      mapLinks := store.mapLinks.filter fun membership => membership.2 ≠ id }
  else none

/-- The checks that one link has to fail to be deleted. -/
def isStaleLink (localDeviceID : UUID) (reconciledProtocols : List DiscoveryProtocol)
    (materializedEvents : List ApplyEvent) (currentObservations : List Observation)
    (link : LinkRow) : Bool :=
  let protocolSet := reconciledProtocols.filter isReconcilableDiscoveryProtocol
  let supported := (materializedEvents.map (·.link)).filter fun link =>
    isReconcilableDiscoveryProtocol link.discoveryProtocol
  let supportedLinkIDs := (supported.map (·.id)).filter fun id => id ≠ UUID.nil
  let supportedLinks := supported.map (physicalLinkKey lower)
  link.discoveryProtocol ≠ .manual &&
    protocolSet.contains link.discoveryProtocol &&
    !supportedLinkIDs.contains link.id &&
    !supportedLinks.contains (physicalLinkKey lower link) &&
    !currentResolvedObservationSupportsLink fold link currentObservations &&
    !currentUnresolvedObservationSupportsLink fold localDeviceID link currentObservations

/-- The deletions of `deleteStaleAutoDiscoveredLinks`: the tables, the number of deleted links and
whether a deletion failed. -/
def deleteLinks (store : LinkStore) (deleted : Nat) : List LinkRow → LinkStore × Nat × Bool
  | [] => (store, deleted, false)
  | link :: rest =>
    match store.deleteLink link.id with
    | none => (store, deleted, true)
    | some store => deleteLinks store (deleted + 1) rest

def deleteStaleAutoDiscoveredLinks (store : LinkStore) (localDeviceID : UUID)
    (reconciledProtocols : List DiscoveryProtocol) (materializedEvents : List ApplyEvent)
    (currentObservations : List Observation) : LinkStore × Nat × Bool :=
  deleteLinks store 0 <| (store.getByDeviceID localDeviceID).filter <|
    isStaleLink lower fold localDeviceID reconciledProtocols materializedEvents currentObservations

end Support

/-! ### The observation table -/

/-- The columns of `UNIQUE(local_device_id, remote_identity, local_port, remote_port, protocol)`. -/
def Observation.key (observation : Observation) :
    UUID × String × String × String × DiscoveryProtocol :=
  (observation.localDeviceID, observation.remoteIdentity, observation.localPort,
    observation.remotePort, observation.protocol)

/-- `UpsertObservation` of an observation that carries its time. A batch of
`UpsertDiscoveryObservations` leaves the same rows. -/
def upsertObservation (table : List Observation) (observation : Observation) : List Observation :=
  if observation.key ∈ table.map (·.key) then
    table.map fun stored =>
      if stored.key = observation.key then
        { stored with
          remoteDeviceID := observation.remoteDeviceID
          selfNeighbor := observation.selfNeighbor
          lastObservedAt := observation.lastObservedAt }
      else stored
  else table ++ [observation]

def pruneLocalObservations (table : List Observation) (localDeviceID : UUID)
    (protocols : List DiscoveryProtocol) (keep : List Observation) : List Observation :=
  if localDeviceID = UUID.nil then table
  else
    let normalizedProtocols := protocols.filter fun protocol => protocol ≠ .unset
    let keepKeys := (keep.filter fun observation => observation.localDeviceID = localDeviceID ∧
      observation.protocol ∈ normalizedProtocols).map (·.key)
    table.filter fun stored => ¬(stored.localDeviceID = localDeviceID ∧
      stored.protocol ∈ normalizedProtocols ∧ stored.key ∉ keepKeys)

/-- `ListObservationsForDevices`. An unresolved remote device is stored as an empty text, which is
no device ID. -/
def listObservationsForDevices (table : List Observation) (deviceIDs : List UUID) :
    List Observation :=
  table.filter fun stored => stored.localDeviceID ∈ deviceIDs ∨
    stored.remoteDeviceID ≠ UUID.nil ∧ stored.remoteDeviceID ∈ deviceIDs

/-! ### A discovery pass -/

/-- The tables of a discovery pass. -/
structure TopologyTables where
  links : LinkStore
  observations : List Observation := []

/-- `StaticPersistenceResult`, the fields of a discovery pass. -/
structure StaticPersistenceResult where
  topologyChanged : Bool := false
  topologyMaterialized : Bool := false
  linksCreated : Nat := 0
  unresolvedNeighbors : Nat := 0
  deriving DecidableEq, Repr

section Pass

variable (lower fold : Char → Char)

def discoveredNeighborRemoteIdentity (neighbor : NeighborInfo) : String :=
  if !isBlank neighbor.remoteSysName then normalizeRemoteIdentity lower neighbor.remoteSysName
  else toLowerWith lower (trimSpace neighbor.remoteChassisID)

/-- The observation of a neighbour; one without an identity has none. `lookup` is the answer of the
device repository for a `SysName`, and a blank name is not looked up. -/
def neighborObservation (lookup : String → Option UUID) (freshID : UUID) (now : Time)
    (neighbor : NeighborInfo) : Option Observation :=
  let normalizedIdentity := discoveredNeighborRemoteIdentity lower neighbor
  let remoteDevice := if isBlank neighbor.remoteSysName then none
    else lookup neighbor.remoteSysName
  if normalizedIdentity = "" then none
  else some
    { localDeviceID := freshID
      remoteIdentity := normalizedIdentity
      remoteDeviceID := remoteDevice.getD UUID.nil
      localPort := neighbor.localIfName
      remotePort := neighbor.remotePortID
      protocol := neighbor.protocol
      selfNeighbor := remoteDevice = some freshID
      lastObservedAt := now }

/-- `currentObservations` of a pass. -/
def currentObservations (lookup : String → Option UUID) (freshID : UUID) (now : Time)
    (neighbors : List NeighborInfo) : List Observation :=
  neighbors.filterMap (neighborObservation lower lookup freshID now)

/-- The observation table after a pass: the current observations are written and what they replace
is pruned. -/
def recordObservations (table : List Observation) (freshID : UUID)
    (pruneProtocols : List DiscoveryProtocol) (current : List Observation) : List Observation :=
  pruneLocalObservations (current.foldl upsertObservation table) freshID pruneProtocols current

/-- The devices whose observations a pass lists: the device and its resolved neighbours. -/
def affectedDeviceIDs (freshID : UUID) (current : List Observation) : List UUID :=
  freshID :: (current.map (·.remoteDeviceID)).filter fun id => id ≠ UUID.nil

/-- What a discovery pass is given. -/
structure DiscoveryInput where
  freshID : UUID
  neighbors : List NeighborInfo := []
  attemptedProtocols : List DiscoveryProtocol := []
  failures : List DiscoveryProtocol := []
  materialize : Bool := true

variable (maps : CanvasMaps) (lookup : String → Option UUID)

/-- The protocols whose links and observations a pass may drop. -/
def DiscoveryInput.pruneProtocols (input : DiscoveryInput) (now : Time) : List DiscoveryProtocol :=
  pruneSafeNeighborDiscoveryProtocols
    (reconciledNeighborDiscoveryProtocols input.attemptedProtocols input.neighbors input.failures)
    (currentObservations lower lookup input.freshID now input.neighbors)

/-- The stored observations that a pass lists. -/
def listedObservations (tables : TopologyTables) (input : DiscoveryInput) (now : Time) :
    List Observation :=
  let current := currentObservations lower lookup input.freshID now input.neighbors
  listObservationsForDevices
    (recordObservations tables.observations input.freshID
      (input.pruneProtocols lower lookup now) current)
    (affectedDeviceIDs input.freshID current)

/-- The link tables after `ApplyObservations` of a pass, and its result. -/
def materializeLinks (tables : TopologyTables) (input : DiscoveryInput) (now : Time)
    (stamps : Nat → Stamp) : LinkStore × Except ConstraintError ApplyResult :=
  applyObservations lower maps tables.links
    (materializableTopologyObservations (listedObservations lower lookup tables input now)) stamps

/-- `applyDiscoveryViaObservationStore`: the tables and the result, `none` for an error. -/
def applyDiscoveryViaObservationStore (tables : TopologyTables) (input : DiscoveryInput)
    (now : Time) (stamps : Nat → Stamp) : TopologyTables × Option StaticPersistenceResult :=
  let current := currentObservations lower lookup input.freshID now input.neighbors
  let pruneProtocols := input.pruneProtocols lower lookup now
  let written := current.foldl upsertObservation tables.observations
  let observations := recordObservations tables.observations input.freshID pruneProtocols current
  let prunedObservations := written.length - observations.length
  let unresolvedNeighbors := (current.filter fun o => o.remoteDeviceID = UUID.nil).length
  if !input.materialize then ({ tables with observations }, some { unresolvedNeighbors })
  else
    match materializeLinks lower maps lookup tables input now stamps with
    | (links, .error _) => ({ links, observations }, none)
    | (links, .ok applied) =>
      match deleteStaleAutoDiscoveredLinks lower fold links input.freshID pruneProtocols
          applied.events current with
      | (links, _, true) => ({ links, observations }, none)
      | (links, deletedStaleLinks, false) => ({ links, observations }, some
        { topologyChanged := applied.topologyChanged || 0 < prunedObservations ||
            0 < deletedStaleLinks
          topologyMaterialized := true
          linksCreated := applied.linksCreated
          unresolvedNeighbors })

end Pass

end Theia
