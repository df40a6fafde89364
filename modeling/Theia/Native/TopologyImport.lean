import Theia.ForStd.SoleClaim
import Theia.Native.StaticPersistence

/-!
# Reconciliation after an import

`ReconcileStoredTopologyForImport` of `internal/service/static_persistence.go`: stored observations
of imported devices are resolved against the devices of the destination map, and their links are
written. The observation store and the link repository are configured; the notification of the
topology change is left out.
-/

namespace Theia

structure StaticTopologyDeviceResult where
  linksCreated : Nat := 0
  unresolvedNeighbors : Nat := 0
  deriving DecidableEq, Repr

/-- `StaticPersistenceResult` with the results of the imported devices. -/
structure ImportResult extends StaticPersistenceResult where
  deviceResults : FMap UUID StaticTopologyDeviceResult := ∅

section Resolve

variable (lower : Char → Char)

/-- The identities that one device claims: `SysName`, `Hostname` and `IP`, normalized, unless
blank. -/
def deviceClaims (device : DeviceRow) : List (String × UUID) :=
  (([device.sysName, device.hostname, device.ip].map (normalizeRemoteIdentity lower)).filter
    fun normalized => normalized ≠ "").map fun normalized => (normalized, device.id)

/-- `identities` and `ambiguous`: the loop over the devices of the scope. -/
def scopeIdentities (devices : List DeviceRow) : SoleClaims String UUID :=
  SoleClaims.addAll (devices.flatMap (deviceClaims lower))

/-- The device that a stored observation is resolved to, if it is unresolved. -/
def resolveRemote (devices : List DeviceRow) (observation : Observation) : Option UUID :=
  ((scopeIdentities lower devices).owners.get
    (normalizeRemoteIdentity lower observation.remoteIdentity)).filter fun remoteID =>
      remoteID ≠ observation.localDeviceID

/-- The observation with its remote device; `none` if it stays unresolved. -/
def resolveObservation (devices : List DeviceRow) (now : Time) (observation : Observation) :
    Option Observation :=
  if observation.remoteDeviceID = UUID.nil then
    (resolveRemote lower devices observation).map fun remoteID =>
      { observation with
        remoteDeviceID := remoteID
        selfNeighbor := false
        lastObservedAt := now }
  else some observation

def topologyDevicesByIDs (deviceTable : List DeviceRow) (deviceIDs : List UUID) : List DeviceRow :=
  deviceTable.filter fun device => device.id ∈ deviceIDs

/-- What a reconciliation is given. -/
structure ImportInput where
  scopeDeviceIDs : List UUID
  importedDeviceIDs : List UUID

/-- The imported devices of the scope, in the order of `importedIDs`. -/
def importedIDs (devices : List DeviceRow) (input : ImportInput) : List UUID :=
  sortSliceBy (fun a b => decide (a.toString < b.toString))
    (input.importedDeviceIDs.dedup.filter fun id => id ∈ devices.map (·.id))

variable (devices : List DeviceRow) (imported : List UUID) (observations : List Observation)

/-- `resolvedObservations`, which are stored again. -/
def resolvedObservations (now : Time) : List Observation :=
  (observations.filter fun observation =>
    observation.localDeviceID ∈ imported ∧ observation.remoteDeviceID = UUID.nil).filterMap
      (resolveObservation lower devices now)

/-- `materializable`: the observations of imported devices with a remote device of the scope. -/
def importObservations (now : Time) : List Observation :=
  ((observations.filter fun observation => observation.localDeviceID ∈ imported).filterMap
    (resolveObservation lower devices now)).filter fun observation =>
      observation.remoteDeviceID ∈ devices.map (·.id)

/-- The observations of imported devices that count as unresolved. -/
def unresolvedObservations (now : Time) : List Observation :=
  (observations.filter fun observation => observation.localDeviceID ∈ imported).filter
    fun observation =>
      match resolveObservation lower devices now observation with
      | none => true
      | some resolved => resolved.remoteDeviceID ∉ devices.map (·.id)

def scopedSupportObservations : List Observation :=
  (observations.filter fun observation =>
    observation.localDeviceID ∈ devices.map (·.id)).filterMap fun observation =>
      let support := if observation.remoteDeviceID = UUID.nil then
          (resolveRemote lower devices observation).map fun remoteID =>
            { observation with remoteDeviceID := remoteID, selfNeighbor := false }
        else some observation
      support.filter fun support => support.remoteDeviceID ∈ devices.map (·.id)

/-- `cleanupObservationsByDevice` of an imported device. -/
def cleanupObservations (deviceID : UUID) : List Observation :=
  (scopedSupportObservations lower devices observations).flatMap (fun observation =>
    (if observation.localDeviceID = deviceID then [observation] else []) ++
      if observation.remoteDeviceID = deviceID then [observation] else []) ++
    observations.filter fun observation =>
      observation.localDeviceID = deviceID ∧ observation.remoteDeviceID = UUID.nil

end Resolve

/-! ### Results -/

/-- The events that are counted as created links: one for each link of an imported device. -/
def countedEvents (lower : Char → Char) (imported : List UUID) (events : List ApplyEvent) :
    List ApplyEvent :=
  keepFirst (fun event => if event.link.id = UUID.nil then physicalLinkKey lower event.link
    else event.link.id.toString) (events.filter fun event => event.link.sourceDeviceID ∈ imported)

/-- `DeviceResults` -/
def importDeviceResults (imported : List UUID) (unresolved : List Observation)
    (counted : List ApplyEvent) : FMap UUID StaticTopologyDeviceResult :=
  FMap.ofFinset imported.toFinset fun deviceID =>
    { linksCreated := (counted.filter fun event => event.link.sourceDeviceID = deviceID).length
      unresolvedNeighbors := (unresolved.filter fun o => o.localDeviceID = deviceID).length }

/-- The cleanup of the imported devices: the tables, whether a link was deleted, and whether a
deletion failed. -/
def importCleanup (lower fold : Char → Char) (devices : List DeviceRow)
    (observations : List Observation) (events : List ApplyEvent) (links : LinkStore)
    (changed : Bool) : List UUID → LinkStore × Bool × Bool
  | [] => (links, changed, false)
  | deviceID :: rest =>
    let current := cleanupObservations lower devices observations deviceID
    let reconciledProtocols := pruneSafeNeighborDiscoveryProtocols [.lldp, .cdp] current
    match deleteStaleAutoDiscoveredLinks lower fold links deviceID reconciledProtocols events
        current with
    | (links, _, true) => (links, changed, true)
    | (links, deleted, false) =>
      importCleanup lower fold devices observations events links (changed || 0 < deleted) rest

/-- `ApplyObservations` of a reconciliation. -/
def importLinks (lower : Char → Char) (maps : CanvasMaps) (devices : List DeviceRow)
    (imported : List UUID) (tables : TopologyTables) (observations : List Observation) (now : Time)
    (stamps : Nat → Stamp) : LinkStore × Except ConstraintError ApplyResult :=
  applyObservations lower maps tables.links (materializableTopologyObservations
    (importObservations lower devices imported observations now)) stamps

/-- `ReconcileStoredTopologyForImport`: the tables and the result, `none` for an error. -/
def reconcileStoredTopologyForImport (lower fold : Char → Char) (maps : CanvasMaps)
    (deviceTable : List DeviceRow) (tables : TopologyTables) (input : ImportInput) (now : Time)
    (stamps : Nat → Stamp) : TopologyTables × Option ImportResult :=
  let devices := topologyDevicesByIDs deviceTable input.scopeDeviceIDs
  let imported := importedIDs devices input
  -- an empty scope or import leaves `imported` empty
  if imported = [] then (tables, some { topologyMaterialized := true })
  else
    let observations := listObservationsForDevices tables.observations input.importedDeviceIDs
    let stored := (resolvedObservations lower devices imported observations now).foldl
      upsertObservation tables.observations
    let unresolved := unresolvedObservations lower devices imported observations now
    match importLinks lower maps devices imported tables observations now stamps with
    | (links, .error _) => ({ links, observations := stored }, none)
    | (links, .ok applied) =>
      let counted := countedEvents lower imported applied.events
      match importCleanup lower fold devices observations applied.events links
          applied.topologyChanged imported with
      | (links, _, true) => ({ links, observations := stored }, none)
      | (links, topologyChanged, false) => ({ links, observations := stored }, some
        { topologyChanged
          topologyMaterialized := true
          linksCreated := counted.length
          unresolvedNeighbors := unresolved.length
          deviceResults := importDeviceResults imported unresolved counted })

end Theia
