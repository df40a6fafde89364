import Theia.ForStd.SecondaryIndex
import Theia.ForStd.SortSlice
import Theia.Native.Topology

/-!
# The device and link cache

The maps of `internal/cache/cache.go`: a full load, the incremental changes and the getters that
read the maps. Each function holds `DeviceLinkCache.mu` while it changes or reads them. Go iterates
over a map in any order, so a function that does takes the order as an argument.
-/

namespace Theia

structure LinkEndpointKey where
  sourceDeviceID : UUID
  sourceIfName : String
  targetDeviceID : UUID
  targetIfName : String
  deriving DecidableEq, Repr

/-- `cache.DeviceLinkCache`, its maps and lists. -/
structure DeviceLinkCache where
  devicesByID : FMap UUID DeviceRow := ∅
  devicesBySysName : FMap String UUID := ∅
  linksByID : FMap UUID LinkRow := ∅
  linksByEndpoint : FMap LinkEndpointKey UUID := ∅
  linksByDevice : FMap UUID (Finset UUID) := ∅
  devices : List DeviceRow := []
  links : List LinkRow := []
  devicesDirty : Bool := true
  linksDirty : Bool := true

/-- What a change event does to one row, once the changed rows are loaded. -/
inductive RowChange (α : Type)
  | upsert (row : α)
  | delete (id : UUID)

/-- The order of `buildSortedDevices`. -/
def deviceBefore (a b : DeviceRow) : Bool :=
  if a.hostname ≠ b.hostname then a.hostname < b.hostname else a.id.toString < b.id.toString

/-- The order of `buildSortedLinks` and `GetDeviceTopology`. -/
def linkBefore (a b : LinkRow) : Bool :=
  if a.createdAt ≠ b.createdAt then a.createdAt < b.createdAt else a.id.toString < b.id.toString

namespace DeviceLinkCache

section Names

variable (lower : Char → Char)

/-- The key of a device in `devicesBySysName`; a blank name has none. -/
def sysNameKey (device : DeviceRow) : Option String :=
  let normalized := normalizeSysNameLookup lower device.sysName
  if normalized ≠ "" then some normalized else none

def makeLinkEndpointKey (link : LinkRow) : LinkEndpointKey where
  sourceDeviceID := link.sourceDeviceID
  sourceIfName := Topology.normalizeInterfaceName lower link.sourceIfName
  targetDeviceID := link.targetDeviceID
  targetIfName := Topology.normalizeInterfaceName lower link.targetIfName

/-- `upsertDeviceLocked` -/
def upsertDevice (c : DeviceLinkCache) (device : DeviceRow) : DeviceLinkCache :=
  let dropped := dropKey c.devicesBySysName ((c.devicesByID.get device.id).bind (sysNameKey lower))
  { c with
    devicesByID := c.devicesByID.insert device.id device
    devicesBySysName := putKey dropped device.id (sysNameKey lower device)
    devicesDirty := true }

/-- `deleteDeviceLocked` -/
def deleteDevice (c : DeviceLinkCache) (deviceID : UUID) : DeviceLinkCache :=
  match c.devicesByID.get deviceID with
  | none => c
  | some existing =>
    { c with
      devicesByID := c.devicesByID.erase deviceID
      devicesBySysName := dropKey c.devicesBySysName (sysNameKey lower existing)
      devicesDirty := true }

end Names

/-- One endpoint of `indexLinkEndpointsLocked`. -/
def indexEndpoint (linkID : UUID) (linksByDevice : FMap UUID (Finset UUID)) (id : UUID) :
    FMap UUID (Finset UUID) :=
  linksByDevice.insert id (insert linkID (FMap.getZero linksByDevice ∅ id))

/-- `indexLinkEndpointsLocked` -/
def indexLinkEndpoints (linksByDevice : FMap UUID (Finset UUID)) (link : LinkRow) :
    FMap UUID (Finset UUID) :=
  [link.sourceDeviceID, link.targetDeviceID].foldl (indexEndpoint link.id) linksByDevice

/-- One endpoint of `unindexLinkEndpointsLocked`. -/
def unindexEndpoint (linkID : UUID) (linksByDevice : FMap UUID (Finset UUID)) (id : UUID) :
    FMap UUID (Finset UUID) :=
  let remaining := (FMap.getZero linksByDevice ∅ id).erase linkID
  if remaining = ∅ then linksByDevice.erase id else linksByDevice.insert id remaining

/-- `unindexLinkEndpointsLocked` -/
def unindexLinkEndpoints (linksByDevice : FMap UUID (Finset UUID)) (link : LinkRow) :
    FMap UUID (Finset UUID) :=
  [link.sourceDeviceID, link.targetDeviceID].foldl (unindexEndpoint link.id) linksByDevice

section Names

variable (lower : Char → Char)

/-- `upsertLinkLocked` -/
def upsertLink (c : DeviceLinkCache) (link : LinkRow) : DeviceLinkCache :=
  let existing := c.linksByID.get link.id
  let unindexed := match existing with
    | some existing => unindexLinkEndpoints c.linksByDevice existing
    | none => c.linksByDevice
  let dropped := dropKey c.linksByEndpoint (existing.map (makeLinkEndpointKey lower))
  { c with
    linksByID := c.linksByID.insert link.id link
    linksByEndpoint := dropped.insert (makeLinkEndpointKey lower link) link.id
    linksByDevice := indexLinkEndpoints unindexed link
    linksDirty := true }

/-- `deleteLinkLocked` -/
def deleteLink (c : DeviceLinkCache) (linkID : UUID) : DeviceLinkCache :=
  match c.linksByID.get linkID with
  | none => c
  | some existing =>
    { c with
      linksByID := c.linksByID.erase linkID
      linksByEndpoint := c.linksByEndpoint.erase (makeLinkEndpointKey lower existing)
      linksByDevice := unindexLinkEndpoints c.linksByDevice existing
      linksDirty := true }

/-- One device of the loop of `applyPendingIncrementalChangesLocked`. -/
def applyDeviceChange (c : DeviceLinkCache) : RowChange DeviceRow → DeviceLinkCache
  | .upsert device => c.upsertDevice lower device
  | .delete id => c.deleteDevice lower id

/-- One link of the loop of `applyPendingIncrementalChangesLocked`. -/
def applyLinkChange (c : DeviceLinkCache) : RowChange LinkRow → DeviceLinkCache
  | .upsert link => c.upsertLink lower link
  | .delete id => c.deleteLink lower id

/-- The two loops of `applyPendingIncrementalChangesLocked`, in the order of their maps. -/
def applyChanges (c : DeviceLinkCache) (devices : List (RowChange DeviceRow))
    (links : List (RowChange LinkRow)) : DeviceLinkCache :=
  links.foldl (applyLinkChange lower) (devices.foldl (applyDeviceChange lower) c)

/-- `reloadLocked`, with the rows that the repositories return. -/
def reload (devices : List DeviceRow) (links : List LinkRow) : DeviceLinkCache where
  devicesByID := FMap.ofList (devices.map fun device => (device.id, device))
  devicesBySysName := devices.foldl
    (fun index device => putKey index device.id (sysNameKey lower device)) ∅
  linksByID := FMap.ofList (links.map fun link => (link.id, link))
  linksByEndpoint := links.foldl
    (fun index link => index.insert (makeLinkEndpointKey lower link) link.id) ∅
  linksByDevice := links.foldl indexLinkEndpoints ∅
  devices := devices
  links := links
  devicesDirty := false
  linksDirty := false

end Names

/-! ### Getters -/

def buildSortedDevices (devicesByID : FMap UUID DeviceRow) (order : List UUID) : List DeviceRow :=
  sortSliceBy deviceBefore (order.filterMap devicesByID.get)

def buildSortedLinks (linksByID : FMap UUID LinkRow) (order : List UUID) : List LinkRow :=
  sortSliceBy linkBefore (order.filterMap linksByID.get)

/-- `GetDevices` on a prepared cache. -/
def getDevices (c : DeviceLinkCache) (order : List UUID) : DeviceLinkCache × List DeviceRow :=
  if c.devicesDirty then
    let devices := buildSortedDevices c.devicesByID order
    ({ c with devices, devicesDirty := false }, devices)
  else (c, c.devices)

/-- `GetLinks` on a prepared cache. -/
def getLinks (c : DeviceLinkCache) (order : List UUID) : DeviceLinkCache × List LinkRow :=
  if c.linksDirty then
    let links := buildSortedLinks c.linksByID order
    ({ c with links, linksDirty := false }, links)
  else (c, c.links)

/-- The links that `GetDeviceTopology` returns on a prepared cache; `order` is the order in which
it iterates over the links of the device. -/
def getDeviceTopology (c : DeviceLinkCache) (order : List UUID) : List LinkRow :=
  sortSliceBy linkBefore
    (order.map fun linkID => (c.linksByID.get linkID).getD
      { id := UUID.nil, sourceDeviceID := UUID.nil, sourceIfName := "",
        targetDeviceID := UUID.nil, targetIfName := "" })

end DeviceLinkCache

end Theia
