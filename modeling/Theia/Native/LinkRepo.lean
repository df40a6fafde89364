import Theia.ForStd.BestMatch
import Theia.Native.Topology

/-!
# The link table

`UpsertDetailed` of `internal/repository/postgres/link_repo.go` with its matching, over the tables
that its transaction reads and writes. A failed statement rolls the transaction back, so a failed
call leaves the tables as they are. The rows stand in the order of `created_at`. `now` and `newID`
are what `time.Now` and `uuid.New` return in the call.
-/

namespace Theia

/-- `domain.LinkUpsertKind` -/
inductive LinkUpsertKind
  | created | enriched | reoriented | updated | noop
  deriving DecidableEq, Repr

/-- `domain.LinkUpsertResult` -/
structure LinkUpsertResult where
  created : Bool := false
  changed : Bool := false
  kind : LinkUpsertKind := .noop
  deriving DecidableEq, Repr

/-- `domain.CanvasMapDeviceRole` -/
inductive CanvasMapDeviceRole
  | base | ghost
  deriving DecidableEq, Repr

/-- A row of `canvas_map_devices`. -/
structure CanvasMapDevice where
  mapID : UUID
  deviceID : UUID
  role : CanvasMapDeviceRole
  deriving DecidableEq, Repr

/-- The maps as an upsert reads them: their devices, and which of them have
`membership_materialized`. -/
structure CanvasMaps where
  devices : List CanvasMapDevice := []
  materialized : Finset UUID := ∅

/-- The columns of `UNIQUE(source_device_id, source_if_name, target_device_id, target_if_name)`. -/
def LinkRow.endpoints (row : LinkRow) : UUID × String × UUID × String :=
  (row.sourceDeviceID, row.sourceIfName, row.targetDeviceID, row.targetIfName)

/-- The tables that an upsert writes, and the device IDs that a link may refer to. -/
structure LinkStore where
  devices : Finset UUID
  links : List LinkRow := []
  /-- `canvas_map_links`: a map and a link of it. -/
  mapLinks : Finset (UUID × UUID) := ∅

/-- The constraint of the link table that a statement breaks. -/
inductive ConstraintError
  | primaryKey | unique | foreignKey
  deriving DecidableEq, Repr

/-- What a call leaves behind: the tables, the link that it was given and its result. -/
structure Upserted where
  store : LinkStore
  link : LinkRow
  result : LinkUpsertResult

namespace LinkStore

/-- `INSERT INTO links` -/
def insertLink (store : LinkStore) (link : LinkRow) : Except ConstraintError LinkStore :=
  if link.id ∈ store.links.map (·.id) then .error .primaryKey
  else if link.endpoints ∈ store.links.map (·.endpoints) then .error .unique
  else if link.sourceDeviceID ∉ store.devices ∨ link.targetDeviceID ∉ store.devices then
    .error .foreignKey
  else .ok { store with links := store.links ++ [link] }

/-- `UPDATE links SET ... WHERE id = ?`. No update of the source brings in a device that the row
did not refer to. -/
def updateLink (store : LinkStore) (id : UUID) (change : LinkRow → LinkRow) :
    Except ConstraintError LinkStore :=
  let links := store.links.map fun row => if row.id = id then change row else row
  if (links.map (·.endpoints)).Nodup then .ok { store with links } else .error .unique

/-- The materialized maps that have both devices, one of them in the base role. -/
def endpointMaps (maps : CanvasMaps) (source target : UUID) : Finset UUID :=
  maps.materialized.filter fun mapID =>
    ∃ sourceMember ∈ maps.devices, ∃ targetMember ∈ maps.devices,
      sourceMember.mapID = mapID ∧ sourceMember.deviceID = source ∧
      targetMember.mapID = mapID ∧ targetMember.deviceID = target ∧
      (sourceMember.role = .base ∨ targetMember.role = .base)

def addLinkToMaterializedBaseEndpointMaps (maps : CanvasMaps) (store : LinkStore)
    (link : LinkRow) : LinkStore × Bool :=
  let memberships :=
    (endpointMaps maps link.sourceDeviceID link.targetDeviceID).image fun mapID => (mapID, link.id)
  ({ store with mapLinks := store.mapLinks ∪ memberships }, !decide (memberships ⊆ store.mapLinks))

/-! ### Matching -/

def sameDirectionInterfaceScore (existing incoming : String) : Option Nat :=
  if existing = incoming then
    if existing = "" then some 1 else some 3
  else if existing = "" ∨ incoming = "" then some 0
  else none

/-- The score of a candidate of `findBestSameDirectionLinkMatch`. -/
def sameDirectionScore (link candidate : LinkRow) : Option Nat :=
  (sameDirectionInterfaceScore candidate.sourceIfName link.sourceIfName).bind fun srcScore =>
    (sameDirectionInterfaceScore candidate.targetIfName link.targetIfName).map (srcScore + ·)

def findBestSameDirectionLinkMatch (store : LinkStore) (link : LinkRow) : Option LinkRow :=
  bestMatch (sameDirectionScore link) <| store.links.filter fun row =>
    row.sourceDeviceID = link.sourceDeviceID ∧ row.targetDeviceID = link.targetDeviceID

section Names

variable (lower : Char → Char)

def compatibleInterfaceScore (existing incoming : String) : Option Nat :=
  if existing = "" ∨ incoming = "" then some 0
  else if Topology.normalizeInterfaceName lower existing =
      Topology.normalizeInterfaceName lower incoming then some 3
  else if physicalInterfaceAnchor lower existing ≠ "" ∧
      physicalInterfaceAnchor lower existing = physicalInterfaceAnchor lower incoming then some 2
  else none

/-- The score of a candidate of `findBestReverseLinkMatch`. -/
def reverseScore (link candidate : LinkRow) : Option Nat :=
  (compatibleInterfaceScore lower candidate.sourceIfName link.targetIfName).bind fun srcScore =>
    (compatibleInterfaceScore lower candidate.targetIfName link.sourceIfName).map (srcScore + ·)

def findBestReverseLinkMatch (store : LinkStore) (link : LinkRow) : Option LinkRow :=
  bestMatch (reverseScore lower link) <| store.links.filter fun row =>
    row.sourceDeviceID = link.targetDeviceID ∧ row.targetDeviceID = link.sourceDeviceID

def shouldReorientReverseLink (reverse link : LinkRow) : Bool :=
  reverse.sourceIfName = "" && link.sourceIfName ≠ "" && link.targetIfName = ""

/-! ### The upsert -/

/-- A stored name, or the incoming one if nothing is stored. -/
def fillName (existing incoming : String) : String :=
  if existing = "" ∧ incoming ≠ "" then incoming else existing

/-- The end of both enriching branches: the matching row gets the two names and the protocol of
the link, unless it has them. -/
def enrichMatch (maps : CanvasMaps) (store : LinkStore) (matched link : LinkRow)
    (newSrcIf newTgtIf : String) : Except ConstraintError Upserted :=
  let portsChanged := newSrcIf ≠ matched.sourceIfName || newTgtIf ≠ matched.targetIfName
  let protocolChanged : Bool := matched.discoveryProtocol ≠ link.discoveryProtocol
  if !portsChanged && !protocolChanged then
    let (store, membershipChanged) := store.addLinkToMaterializedBaseEndpointMaps maps link
    .ok { store, link, result := { changed := membershipChanged } }
  else
    (store.updateLink matched.id fun row =>
        { row with
          sourceIfName := newSrcIf
          targetIfName := newTgtIf
          discoveryProtocol := link.discoveryProtocol
          updatedAt := link.updatedAt }).map fun store =>
      { store := (store.addLinkToMaterializedBaseEndpointMaps maps link).1
        link
        result := { changed := true, kind := if portsChanged then .enriched else .updated } }

/-- The branch of a same-direction match. The link takes the names of the row. -/
def upsertSameDirection (maps : CanvasMaps) (store : LinkStore) (sameDirection link : LinkRow) :
    Except ConstraintError Upserted :=
  let newSrcIf := fillName sameDirection.sourceIfName link.sourceIfName
  let newTgtIf := fillName sameDirection.targetIfName link.targetIfName
  store.enrichMatch maps sameDirection
    { link with id := sameDirection.id, sourceIfName := newSrcIf, targetIfName := newTgtIf }
    newSrcIf newTgtIf

/-- The branch of a reverse match. The link keeps its own orientation and names. -/
def upsertReverse (maps : CanvasMaps) (store : LinkStore) (reverse link : LinkRow) :
    Except ConstraintError Upserted :=
  let link := { link with id := reverse.id }
  if shouldReorientReverseLink reverse link then
    (store.updateLink reverse.id fun row =>
        { row with
          sourceDeviceID := link.sourceDeviceID
          sourceIfName := link.sourceIfName
          targetDeviceID := link.targetDeviceID
          targetIfName := link.targetIfName
          discoveryProtocol := link.discoveryProtocol
          updatedAt := link.updatedAt }).map fun store =>
      { store := (store.addLinkToMaterializedBaseEndpointMaps maps link).1
        link
        result := { changed := true, kind := .reoriented } }
  else
    store.enrichMatch maps reverse link (fillName reverse.sourceIfName link.targetIfName)
      (fillName reverse.targetIfName link.sourceIfName)

/-- The branch without a match. -/
def upsertInsert (maps : CanvasMaps) (store : LinkStore) (link : LinkRow) :
    Except ConstraintError Upserted :=
  (store.insertLink link).map fun store =>
    { store := (store.addLinkToMaterializedBaseEndpointMaps maps link).1
      link
      result := { created := true, changed := true, kind := .created } }

/-- The link as `upsertOnce` works with it: stamped, and with an ID. -/
def stampLink (link : LinkRow) (newID : UUID) (now : Time) : LinkRow :=
  { link with id := if link.id = UUID.nil then newID else link.id, updatedAt := now }

/-- `UpsertDetailed`, which is `upsertOnce`. -/
def upsertDetailed (maps : CanvasMaps) (store : LinkStore) (link : LinkRow) (newID : UUID)
    (now : Time) : Except ConstraintError Upserted :=
  let link := stampLink link newID now
  match store.findBestSameDirectionLinkMatch link with
  | some sameDirection => store.upsertSameDirection maps sameDirection link
  | none =>
    match store.findBestReverseLinkMatch lower link with
    | some reverse => store.upsertReverse maps reverse link
    | none => store.upsertInsert maps { link with createdAt := now }

/-- The tables after a call. -/
def afterUpsert (store : LinkStore) (outcome : Except ConstraintError Upserted) : LinkStore :=
  match outcome with
  | .ok upserted => upserted.store
  | .error _ => store

end Names

end LinkStore

end Theia
