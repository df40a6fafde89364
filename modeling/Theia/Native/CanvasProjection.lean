import Theia.ForStd.FMap
import Theia.Native.Domain

/-!
# What a canvas map shows

`internal/service/canvasmap/projection.go`: the devices and links that a map filter selects, the
membership that is stored for a map, and the devices and links that a stored membership shows. A
set of identifiers (`map[uuid.UUID]struct{}`) is a `Finset`.
-/

namespace Theia

/-- `domain.Device` with the tags that a map filter reads. -/
structure MapDevice extends Device where
  tags : FMap String String := ∅
  deriving DecidableEq

/-- `domain.CanvasMapFilter` -/
structure CanvasMapFilter where
  areaID : Option UUID := none
  deviceIDs : List UUID := []
  includeCrossAreaLinks : Bool := false
  includeGhostDevices : Bool := false
  tags : FMap String String := ∅

/-- `domain.CanvasMapDeviceRole` in a membership, where it is any string. -/
inductive MembershipRole
  | base | ghost
  | other (value : String)
  deriving DecidableEq, Repr

/-- `domain.CanvasMapDeviceMembership`; the color of a new member is not set. -/
structure CanvasMapDeviceMembership where
  deviceID : UUID
  role : MembershipRole
  areaIDs : List UUID := []
  visualColor : Option String := none

/-- `domain.CanvasMapAreaMembership` -/
structure CanvasMapAreaMembership where
  areaID : UUID
  name : String
  description : String
  color : String

/-- `domain.CanvasMapMembership` -/
structure CanvasMapMembership where
  devices : List CanvasMapDeviceMembership
  linkIDs : List UUID
  areas : List CanvasMapAreaMembership

/-- `domain.AreaWithCount` -/
structure AreaWithCount where
  id : UUID
  name : String := ""
  description : String := ""
  color : String := ""
  deviceCount : Nat := 0

structure TopologyProjection where
  devices : List MapDevice
  links : List Link
  ghostDevices : List MapDevice

namespace CanvasMap

def deviceHasArea (device : MapDevice) (areaID : UUID) : Bool :=
  device.areaIDs.any fun deviceAreaID => deviceAreaID = areaID

def deviceMatchesTags (device : MapDevice) (tags : FMap String String) : Bool :=
  ∀ key ∈ tags.dom, device.tags.get key = tags.get key

/-- The test of the first loop of `ProjectTopologyForFilter`. -/
def isBaseDevice (filter : CanvasMapFilter) (device : MapDevice) : Bool :=
  let selectedDeviceIDs := filter.deviceIDs.toFinset
  let baseDevice :=
    if 0 < selectedDeviceIDs.card then decide (device.id ∈ selectedDeviceIDs)
    else match filter.areaID with
      | some areaID => deviceHasArea device areaID
      | none => true
  baseDevice && deviceMatchesTags device filter.tags

/-- The identifiers of the devices. -/
def deviceIDSet (devices : List MapDevice) : Finset UUID := (devices.map (·.id)).toFinset

/-- The test of the second loop of `ProjectTopologyForFilter`. -/
def includesLink (filter : CanvasMapFilter) (knownDeviceIDs baseDeviceIDs : Finset UUID)
    (link : Link) : Bool :=
  let sourceIsBase : Bool := link.sourceDeviceID ∈ baseDeviceIDs
  let targetIsBase : Bool := link.targetDeviceID ∈ baseDeviceIDs
  link.sourceDeviceID ∈ knownDeviceIDs && link.targetDeviceID ∈ knownDeviceIDs &&
    ((sourceIsBase && targetIsBase) ||
      (filter.includeCrossAreaLinks && (sourceIsBase || targetIsBase)))

/-- The endpoints of a link that the second loop adds to the ghosts. -/
def ghostEndpoints (baseDeviceIDs : Finset UUID) (link : Link) : List UUID :=
  let sourceIsBase : Bool := link.sourceDeviceID ∈ baseDeviceIDs
  let targetIsBase : Bool := link.targetDeviceID ∈ baseDeviceIDs
  (if sourceIsBase && !targetIsBase then [link.targetDeviceID] else []) ++
    (if targetIsBase && !sourceIsBase then [link.sourceDeviceID] else [])

def projectTopologyForFilter (devices : List MapDevice) (links : List Link)
    (filter : CanvasMapFilter) : TopologyProjection :=
  let baseDevices := devices.filter (isBaseDevice filter)
  let baseDeviceIDs := deviceIDSet baseDevices
  let included := links.filter (includesLink filter (deviceIDSet devices) baseDeviceIDs)
  let ghostDeviceIDs :=
    if filter.includeGhostDevices then (included.flatMap (ghostEndpoints baseDeviceIDs)).toFinset
    else ∅
  { devices := baseDevices
    links := included
    ghostDevices :=
      if filter.includeGhostDevices && 0 < ghostDeviceIDs.card then
        devices.filter fun device => device.id ∉ baseDeviceIDs && device.id ∈ ghostDeviceIDs
      else [] }

def areasForMembership (areas : List AreaWithCount) (baseDevices : List MapDevice)
    (filter : CanvasMapFilter) : List AreaWithCount :=
  let includedAreaIDs : Finset UUID := match filter.areaID with
    | some areaID => {areaID}
    | none => (baseDevices.flatMap (·.areaIDs)).toFinset
  areas.filter fun area => area.id ∈ includedAreaIDs

def areaWithCountIDSet (areas : List AreaWithCount) : Finset UUID := (areas.map (·.id)).toFinset

def filterDeviceAreaIDs (areaIDs : List UUID) (included : Finset UUID) : List UUID :=
  if areaIDs.length = 0 || included.card = 0 then []
  else areaIDs.filter fun areaID => areaID ∈ included

def materializeMembership (devices : List MapDevice) (links : List Link)
    (areas : List AreaWithCount) (filter : CanvasMapFilter) : CanvasMapMembership :=
  let projection := projectTopologyForFilter devices links filter
  let areaMemberships := areasForMembership areas projection.devices filter
  let includedAreaIDs := areaWithCountIDSet areaMemberships
  { devices :=
      projection.devices.map (fun device =>
        { deviceID := device.id
          role := .base
          areaIDs := filterDeviceAreaIDs device.areaIDs includedAreaIDs }) ++
      projection.ghostDevices.map (fun device => { deviceID := device.id, role := .ghost })
    linkIDs := projection.links.map (·.id)
    areas := areaMemberships.map fun area =>
      { areaID := area.id, name := area.name, description := area.description
        color := area.color } }

def projectTopologyForMembership (devices : List MapDevice) (links : List Link)
    (membership : CanvasMapMembership) : TopologyProjection :=
  let deviceRoles := FMap.ofList (membership.devices.map fun member =>
    (member.deviceID, member.role))
  let deviceAreaIDs := FMap.ofList (membership.devices.map fun member =>
    (member.deviceID, member.areaIDs))
  let withAreas := fun device : MapDevice =>
    { device with areaIDs := FMap.getZero deviceAreaIDs [] device.id }
  let members := devices.filter fun device => device.id ∈ deviceRoles.dom
  { devices := (members.filter fun device => deviceRoles.get device.id ≠ some .ghost).map withAreas
    ghostDevices :=
      (members.filter fun device => deviceRoles.get device.id = some .ghost).map withAreas
    links := links.filter fun link =>
      link.id ∈ membership.linkIDs && link.sourceDeviceID ∈ deviceRoles.dom &&
        link.targetDeviceID ∈ deviceRoles.dom }

end CanvasMap

end Theia
