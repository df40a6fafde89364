import Theia.ForStd.RowTransaction
import Theia.ForStd.Run
import Theia.Native.DeviceLinkCache
import Theia.Native.LinkRepo

/-!
# Isolation of the virtual devices of a map

`IsolateVirtualDevices` of `internal/repository/postgres/canvas_map_isolation_repo.go`, statement by
statement. A transaction locks the row of its map, so there is one on each map at a time; under read
committed isolation a statement sees what is committed when it starts and the transaction's own
writes. Each insert, update and delete is the list of what it does to single rows; the delete of a
member deletes its area rows with it.

The address rows of a device and the area rows of a member are kept together; the identifiers of
address rows, which nothing reads, are left out, and so is `canvas_maps.updated_at`.
-/

namespace Theia

/-! ### Tables -/

/-- The tables that an isolation reads or writes. -/
inductive CanvasTable
  | devices | deviceAddresses | links
  | mapDevices | mapDeviceAreas | mapPositions | mapLinks | mapLinkRoutes
  deriving DecidableEq, Repr

/-- A row of `device_addresses`. -/
structure DeviceAddressRow where
  address : String
  normalizedAddress : String
  label : String := ""
  role : String := "other"
  isPrimary : Bool := false
  priority : Int := 100
  probePorts : String := ""
  deriving DecidableEq, Repr

/-- A row of `canvas_map_devices`. -/
structure MapDeviceRow where
  role : CanvasMapDeviceRole := .base
  visualColor : Option String := none
  addedAt : Time := 0
  deriving DecidableEq, Repr

/-- A row of `canvas_map_positions`. -/
structure MapPositionRow where
  x : ℚ
  y : ℚ
  pinned : Bool := false
  updatedAt : Time := 0
  deriving DecidableEq

/-- A row of `canvas_map_link_routes`. -/
structure MapLinkRouteRow where
  routeVersion : Int := 1
  waypoints : String
  updatedAt : Time := 0
  deriving DecidableEq, Repr

namespace CanvasTable

/-- The primary key: an identifier, or that of a map and of a device or link. -/
@[reducible] def Key : CanvasTable → Type
  | .devices | .deviceAddresses | .links => UUID
  | .mapDevices | .mapDeviceAreas | .mapPositions | .mapLinks | .mapLinkRoutes => UUID × UUID

/-- The columns: `mapDeviceAreas` has `assigned_at` by area, `mapLinks` has `added_at`. -/
@[reducible] def Row : CanvasTable → Type
  | .devices => DeviceRow
  | .deviceAddresses => List DeviceAddressRow
  | .links => LinkRow
  | .mapDevices => MapDeviceRow
  | .mapDeviceAreas => FMap UUID Time
  | .mapPositions => MapPositionRow
  | .mapLinks => Time
  | .mapLinkRoutes => MapLinkRouteRow

instance : (t : CanvasTable) → DecidableEq t.Key
  | .devices | .deviceAddresses | .links => inferInstanceAs (DecidableEq UUID)
  | .mapDevices | .mapDeviceAreas | .mapPositions | .mapLinks | .mapLinkRoutes =>
    inferInstanceAs (DecidableEq (UUID × UUID))

end CanvasTable

/-- The tables of the database. -/
abbrev CanvasDB := Tables CanvasTable.Key CanvasTable.Row

/-- What a statement does, row by row. -/
abbrev CanvasStatement := List (RowAction CanvasTable.Key CanvasTable.Row)

/-! ### Statements -/

namespace CanvasIsolation

/-- The first select: the virtual devices of the map that are on another map too. -/
def sharedVirtualDevices (db : CanvasDB) (mapID : UUID) : Finset UUID :=
  (db .devices).dom.filter fun id =>
    ((db .devices).get id).any (fun device => decide (device.deviceType = .virtual)) ∧
      (mapID, id) ∈ (db .mapDevices).dom ∧
      (db .mapDevices).any fun key _ => decide (key.2 = id ∧ key.1 ≠ mapID)

/-- The copy of a device: interfaces and areas are not copied. -/
def cloneDevice (device : DeviceRow) (newID : UUID) : DeviceRow :=
  { device with id := newID, metricsSource := .none, interfaces := [], areaIDs := [] }

/-- The update of a key: the row is moved. -/
def moveRow (t : CanvasTable) (src dst : t.Key) : CanvasStatement :=
  [.copy t id src dst, .erase t src]

/-- The statements for one device, with the delete that cascades to the areas. -/
def cloneStatements (mapID : UUID) (clone : UUID × UUID) : List CanvasStatement :=
  [[.copy .devices (fun device => cloneDevice device clone.2) clone.1 clone.2],
    [.copy .deviceAddresses id clone.1 clone.2],
    [.copy .mapDevices id (mapID, clone.1) (mapID, clone.2)],
    [.copy .mapDeviceAreas id (mapID, clone.1) (mapID, clone.2)],
    moveRow .mapPositions (mapID, clone.1) (mapID, clone.2),
    [.erase .mapDevices (mapID, clone.1), .erase .mapDeviceAreas (mapID, clone.1)]]

/-- `remap`: a link of the map with its new identifier and the endpoints it gets. -/
structure LinkClone where
  id : UUID
  newID : UUID
  source : UUID
  target : UUID
  deriving DecidableEq, Repr

/-- The identifier that takes the place of another. -/
def remap (clones : List (UUID × UUID)) (id : UUID) : UUID :=
  ((clones.find? fun clone => clone.1 = id).map (·.2)).getD id

/-- The links of the second select that have an endpoint among the clones. -/
def changedLinks (db : CanvasDB) (mapID : UUID) (clones : List (UUID × UUID)) : Finset UUID :=
  (db .links).dom.filter fun id =>
    (mapID, id) ∈ (db .mapLinks).dom ∧
      ((db .links).get id).any fun link =>
        decide (link.sourceDeviceID ∈ clones.map (·.1) ∨ link.targetDeviceID ∈ clones.map (·.1))

/-- The rows of the second select that are changed, under their new identifiers. -/
def linkClones (db : CanvasDB) (clones newLinks : List (UUID × UUID)) : List LinkClone :=
  newLinks.filterMap fun newLink =>
    ((db .links).get newLink.1).map fun link =>
      { id := newLink.1
        newID := newLink.2
        source := remap clones link.sourceDeviceID
        target := remap clones link.targetDeviceID }

/-- The row of a link's copy. -/
def clonedLink (now : Time) (clone : LinkClone) (link : LinkRow) : LinkRow :=
  { link with
    id := clone.newID
    sourceDeviceID := clone.source
    targetDeviceID := clone.target
    createdAt := now
    updatedAt := now }

/-- The statements for one link. -/
def linkStatements (mapID : UUID) (now : Time) (clone : LinkClone) : List CanvasStatement :=
  [[.copy .links (clonedLink now clone) clone.id clone.newID],
    moveRow .mapLinks (mapID, clone.id) (mapID, clone.newID),
    moveRow .mapLinkRoutes (mapID, clone.id) (mapID, clone.newID)]

end CanvasIsolation

/-! ### Transactions -/

/-- Which of its selects a transaction has made. -/
inductive IsolationStage
  | locked | selected | linked
  deriving DecidableEq, Repr

/-- A transaction: what its selects returned, the statements it has still to make, and what it
wrote. -/
structure IsolationTxn where
  mapID : UUID
  now : Time
  stage : IsolationStage := .locked
  clones : List (UUID × UUID) := []
  links : List CanvasIsolation.LinkClone := []
  todo : List CanvasStatement := []
  writes : Writes CanvasTable.Key CanvasTable.Row := fun _ => ∅

/-- The database and the transactions in progress. `isolated` are the maps whose isolation is
committed. -/
structure IsolationSystem where
  db : CanvasDB := fun _ => ∅
  txns : FMap Nat IsolationTxn := ∅
  isolated : Finset UUID := ∅

namespace IsolationSystem

open CanvasIsolation

inductive Op
  /-- `BeginTx` and `lockCanvasMap` -/
  | lock (t : Nat) (mapID : UUID) (now : Time)
  /-- The first select; each device found is paired with the identifier made for it. -/
  | select (t : Nat) (clones : List (UUID × UUID))
  /-- The next statement. -/
  | exec (t : Nat)
  /-- The second select; each link to be changed is paired with the identifier made for it. -/
  | selectLinks (t : Nat) (newLinks : List (UUID × UUID))
  | commit (t : Nat)
  /-- A statement fails. -/
  | rollback (t : Nat)
  deriving DecidableEq, Repr

/-- The transaction makes its next statement. -/
def exec (db : CanvasDB) (txn : IsolationTxn) : IsolationTxn :=
  match txn.todo with
  | [] => txn
  | statement :: todo =>
    { txn with todo, writes := statement.foldl (fun w a => a.record db w) txn.writes }

/-- The transaction knows what it has to clone; without shared devices it has nothing to do. -/
def select (txn : IsolationTxn) (clones : List (UUID × UUID)) : IsolationTxn :=
  { txn with
    stage := if clones = [] then .linked else .selected
    clones
    todo := clones.flatMap (cloneStatements txn.mapID) }

/-- The transaction knows the links it has to change. -/
def selectLinks (db : CanvasDB) (txn : IsolationTxn) (newLinks : List (UUID × UUID)) :
    IsolationTxn :=
  let links := linkClones (RowAction.view db txn.writes) txn.clones newLinks
  { txn with stage := .linked, links, todo := links.flatMap (linkStatements txn.mapID txn.now) }

def step (sys : IsolationSystem) : Op → IsolationSystem
  | .lock t mapID now => { sys with txns := sys.txns.insert t { mapID, now } }
  | .select t clones =>
    match sys.txns.get t with
    | none => sys
    | some txn => { sys with txns := sys.txns.insert t (select txn clones) }
  | .exec t =>
    match sys.txns.get t with
    | none => sys
    | some txn => { sys with txns := sys.txns.insert t (exec sys.db txn) }
  | .selectLinks t newLinks =>
    match sys.txns.get t with
    | none => sys
    | some txn => { sys with txns := sys.txns.insert t (selectLinks sys.db txn newLinks) }
  | .commit t =>
    match sys.txns.get t with
    | none => sys
    | some txn =>
      { sys with
        db := RowAction.view sys.db txn.writes
        txns := sys.txns.erase t
        isolated := insert txn.mapID sys.isolated }
  | .rollback t => { sys with txns := sys.txns.erase t }

/-- An identifier that `uuid.NewString` makes: it is not in use, and no transaction has made it. -/
def isFresh (sys : IsolationSystem) (id : UUID) : Bool :=
  decide (id ∉ (sys.db .devices).dom ∧ id ∉ (sys.db .links).dom) &&
    !sys.txns.any fun _ txn => decide (id ∈ txn.clones.map (·.2) ∨ id ∈ txn.links.map (·.newID))

/-- The pairs give each of these rows an identifier of its own. -/
def isRenaming (sys : IsolationSystem) (ids : Finset UUID) (pairs : List (UUID × UUID)) : Bool :=
  decide ((pairs.map (·.1)).Nodup ∧ (pairs.map (·.1)).toFinset = ids ∧ (pairs.map (·.2)).Nodup) &&
    pairs.all fun pair => sys.isFresh pair.2

/-- When a transaction can take a step: a lock waits for the transaction that holds it, the selects
return what the database holds, and a transaction commits after its last statement. -/
def Op.Valid (sys : IsolationSystem) : Op → Prop
  | .lock t mapID _ => sys.txns.get t = none ∧
      sys.txns.any (fun _ txn => decide (txn.mapID = mapID)) = false
  | .select t clones => (sys.txns.get t).any (fun txn =>
      decide (txn.stage = .locked) &&
        sys.isRenaming (sharedVirtualDevices sys.db txn.mapID) clones) = true
  | .exec t => (sys.txns.get t).any (fun txn => !txn.todo.isEmpty) = true
  | .selectLinks t newLinks => (sys.txns.get t).any (fun txn =>
      decide (txn.stage = .selected) && txn.todo.isEmpty &&
        sys.isRenaming (changedLinks (RowAction.view sys.db txn.writes) txn.mapID txn.clones)
          newLinks) = true
  | .commit t => (sys.txns.get t).any (fun txn =>
      decide (txn.stage = .linked) && txn.todo.isEmpty) = true
  | .rollback _ => True

instance (sys : IsolationSystem) (op : Op) : Decidable (op.Valid sys) := by
  unfold Op.Valid
  split <;> infer_instance

end IsolationSystem

end Theia
