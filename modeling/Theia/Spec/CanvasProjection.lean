import Theia.Native.CanvasProjection

/-!
# A materialized map and its filter

A map that is materialized from a filter shows the base and ghost devices of the filter, with the
areas of the map. It shows the links of the filter between these devices: a link to a device that
is neither is stored and not shown, which happens where the filter asks for links across areas
without ghost devices.
-/

namespace Theia.CanvasMap

open List FMap

variable {devices : List MapDevice} {links : List Link} {areas : List AreaWithCount}
  {filter : CanvasMapFilter} {device : MapDevice} {link : Link}

/-! ### The filter -/

theorem mem_deviceIDSet {id : UUID} :
    id ∈ deviceIDSet devices ↔ ∃ device ∈ devices, device.id = id := by
  simp [deviceIDSet]

/-- The identifiers of the base devices. -/
def baseIDs (devices : List MapDevice) (filter : CanvasMapFilter) : Finset UUID :=
  deviceIDSet (devices.filter (isBaseDevice filter))

theorem mem_baseIDs {id : UUID} :
    id ∈ baseIDs devices filter ↔
      ∃ device ∈ devices, isBaseDevice filter device = true ∧ device.id = id := by
  simp [baseIDs, mem_deviceIDSet, and_assoc]

/-- The link joins the device and a base device. -/
def JoinsBase (devices : List MapDevice) (filter : CanvasMapFilter) (device : MapDevice)
    (link : Link) : Prop :=
  (link.sourceDeviceID ∈ baseIDs devices filter ∧ link.targetDeviceID = device.id) ∨
    (link.targetDeviceID ∈ baseIDs devices filter ∧ link.sourceDeviceID = device.id)

/-- The device is shown as a ghost: it is not a base device, and a link joins it with one. -/
def IsGhost (devices : List MapDevice) (links : List Link) (filter : CanvasMapFilter)
    (device : MapDevice) : Prop :=
  filter.includeGhostDevices = true ∧ filter.includeCrossAreaLinks = true ∧
    isBaseDevice filter device = false ∧ ∃ link ∈ links, JoinsBase devices filter device link

theorem mem_filterDevices :
    device ∈ (projectTopologyForFilter devices links filter).devices ↔
      device ∈ devices ∧ isBaseDevice filter device = true := by
  simp [projectTopologyForFilter]

theorem mem_filterLinks :
    link ∈ (projectTopologyForFilter devices links filter).links ↔
      link ∈ links ∧ includesLink filter (deviceIDSet devices) (baseIDs devices filter) link := by
  simp [projectTopologyForFilter, baseIDs]

theorem filterGhosts_sublist :
    (projectTopologyForFilter devices links filter).ghostDevices.Sublist devices := by
  have hsublist : ∀ (some : Bool) (p : MapDevice → Bool),
      (if some then devices.filter p else []).Sublist devices := by
    intro some p
    cases some with
    | true => exact filter_sublist
    | false => exact nil_sublist _
  exact hsublist _ _

theorem mem_ghostEndpoints {base : Finset UUID} {id : UUID} :
    id ∈ ghostEndpoints base link ↔
      (link.sourceDeviceID ∈ base ∧ link.targetDeviceID ∉ base ∧ link.targetDeviceID = id) ∨
        (link.targetDeviceID ∈ base ∧ link.sourceDeviceID ∉ base ∧ link.sourceDeviceID = id) := by
  unfold ghostEndpoints
  by_cases hsource : link.sourceDeviceID ∈ base <;> by_cases htarget : link.targetDeviceID ∈ base <;>
    simp [hsource, htarget, eq_comm]

/-! ### The stored membership -/

/-- The areas that the membership keeps. -/
def keptAreaIDs (devices : List MapDevice) (areas : List AreaWithCount) (filter : CanvasMapFilter) :
    Finset UUID :=
  areaWithCountIDSet (areasForMembership areas (devices.filter (isBaseDevice filter)) filter)

theorem mem_keptAreaIDs {areaID : UUID} :
    areaID ∈ keptAreaIDs devices areas filter ↔ areaID ∈ areaWithCountIDSet areas ∧
      match filter.areaID with
      | some filterID => areaID = filterID
      | none => ∃ device ∈ devices, isBaseDevice filter device = true ∧
          areaID ∈ device.areaIDs := by
  unfold keptAreaIDs areaWithCountIDSet areasForMembership
  cases hfilter : filter.areaID with
  | some filterID =>
    simp only [mem_toFinset, mem_map, mem_filter, Finset.mem_singleton, decide_eq_true_eq]
    grind
  | none =>
    simp only [mem_toFinset, mem_map, mem_filter, mem_flatMap, decide_eq_true_eq]
    grind

theorem filterDeviceAreaIDs_eq (areaIDs : List UUID) (included : Finset UUID) :
    filterDeviceAreaIDs areaIDs included = areaIDs.filter fun areaID => areaID ∈ included := by
  unfold filterDeviceAreaIDs
  split_ifs with hempty
  · simp only [Bool.or_eq_true, decide_eq_true_eq, length_eq_zero_iff, Finset.card_eq_zero] at hempty
    rcases hempty with rfl | rfl <;> simp
  · rfl

/-- The members of the map and what is stored with them. -/
def Stored (devices : List MapDevice) (links : List Link) (areas : List AreaWithCount)
    (filter : CanvasMapFilter) (device : MapDevice) (role : MembershipRole)
    (areaIDs : List UUID) : Prop :=
  (isBaseDevice filter device = true ∧ role = .base ∧
      areaIDs = device.areaIDs.filter fun areaID => areaID ∈ keptAreaIDs devices areas filter) ∨
    (IsGhost devices links filter device ∧ role = .ghost ∧ areaIDs = [])

/-- The roles that `ProjectTopologyForMembership` looks up. -/
def rolesOf (membership : CanvasMapMembership) : FMap UUID MembershipRole :=
  ofList (membership.devices.map fun member => (member.deviceID, member.role))

/-- The areas that `ProjectTopologyForMembership` looks up. -/
def areasOf (membership : CanvasMapMembership) : FMap UUID (List UUID) :=
  ofList (membership.devices.map fun member => (member.deviceID, member.areaIDs))

/-! ### The map -/

/-- The row with another list of areas. -/
def withAreaIDs (row : MapDevice) (areaIDs : List UUID) : MapDevice := { row with areaIDs }

theorem withAreaIDs_inj {row : MapDevice} {a b : List UUID} :
    withAreaIDs row a = withAreaIDs row b ↔ a = b :=
  ⟨congrArg fun device : MapDevice => device.areaIDs, congrArg (withAreaIDs row)⟩

/-- The map that is materialized from a filter. -/
def shown (devices : List MapDevice) (links : List Link) (areas : List AreaWithCount)
    (filter : CanvasMapFilter) : TopologyProjection :=
  projectTopologyForMembership devices links (materializeMembership devices links areas filter)

theorem mem_shownLinks (hlinks : (links.map (·.id)).Nodup) :
    link ∈ (shown devices links areas filter).links ↔
      link ∈ (projectTopologyForFilter devices links filter).links ∧
        link.sourceDeviceID ∈ (rolesOf (materializeMembership devices links areas filter)).dom ∧
        link.targetDeviceID ∈ (rolesOf (materializeMembership devices links areas filter)).dom := by
  have hid : link ∈ links → (link.id ∈ (materializeMembership devices links areas filter).linkIDs ↔
      link ∈ (projectTopologyForFilter devices links filter).links) := by
    intro hlink
    unfold materializeMembership
    rw [mem_map]
    constructor
    · rintro ⟨other, hother, heq⟩
      have hsame : other = link :=
        inj_on_of_nodup_map hlinks (mem_filterLinks.1 hother).1 hlink heq
      rw [← hsame]
      exact hother
    · intro hmem
      exact ⟨link, hmem, rfl⟩
  unfold shown projectTopologyForMembership
  simp only [mem_filter, Bool.and_eq_true, decide_eq_true_eq, and_assoc]
  constructor
  · rintro ⟨hlink, hmember, hends⟩
    exact ⟨(hid hlink).1 hmember, hends⟩
  · rintro ⟨hmember, hends⟩
    have hlink := (mem_filterLinks.1 hmember).1
    exact ⟨hlink, (hid hlink).2 hmember, hends⟩

/-- The areas of a device that exist. -/
def restrictAreas (areas : List AreaWithCount) (device : MapDevice) : MapDevice :=
  withAreaIDs device (device.areaIDs.filter fun areaID => areaID ∈ areaWithCountIDSet areas)

/-- The same devices, ghosts and links, with the area lists restricted to the areas that exist. -/
structure ShowsSame (areas : List AreaWithCount) (shown filtered : TopologyProjection) :
    Prop where
  devices : ∀ device, device ∈ shown.devices ↔
    ∃ row ∈ filtered.devices, device = restrictAreas areas row
  ghostDevices : ∀ device, device ∈ shown.ghostDevices ↔
    ∃ row ∈ filtered.ghostDevices, device = restrictAreas areas row
  links : ∀ link, link ∈ shown.links ↔ link ∈ filtered.links

/-- What the filter and the rows have to meet. -/
structure ShowsAll (devices : List MapDevice) (links : List Link) (areas : List AreaWithCount)
    (filter : CanvasMapFilter) : Prop where
  /-- No link is asked for without the device at its other end. -/
  crossLinks : filter.includeCrossAreaLinks = true → filter.includeGhostDevices = false →
    ∀ link ∈ links, link.sourceDeviceID ∈ deviceIDSet devices →
      link.targetDeviceID ∈ deviceIDSet devices →
      (link.sourceDeviceID ∈ baseIDs devices filter ↔ link.targetDeviceID ∈ baseIDs devices filter)
  /-- The base devices of an area are in no other area. -/
  baseAreas : ∀ areaID, filter.areaID = some areaID → ∀ device ∈ devices,
    isBaseDevice filter device = true → ∀ other ∈ device.areaIDs,
      other ∈ areaWithCountIDSet areas → other = areaID
  /-- Ghosts are in no area. -/
  ghostAreas : ∀ device ∈ devices, IsGhost devices links filter device →
    ∀ areaID ∈ device.areaIDs, areaID ∉ areaWithCountIDSet areas

section UniqueIDs

variable (hids : (devices.map (·.id)).Nodup)
include hids

/-! ### What the filter selects -/

theorem eq_of_id_eq {a b : MapDevice} (ha : a ∈ devices)
    (hb : b ∈ devices) (h : a.id = b.id) : a = b :=
  inj_on_of_nodup_map hids ha hb h

theorem id_mem_baseIDs (hdevice : device ∈ devices) :
    device.id ∈ baseIDs devices filter ↔ isBaseDevice filter device = true := by
  rw [mem_baseIDs]
  constructor
  · rintro ⟨other, hother, hbase, hid⟩
    rw [← eq_of_id_eq hids hother hdevice hid]
    exact hbase
  · intro hbase
    exact ⟨device, hdevice, hbase, rfl⟩

theorem mem_included_ghost (hdevice : device ∈ devices)
    (hbase : isBaseDevice filter device = false) :
    (∃ link ∈ (projectTopologyForFilter devices links filter).links,
        device.id ∈ ghostEndpoints (baseIDs devices filter) link) ↔
      filter.includeCrossAreaLinks = true ∧ ∃ link ∈ links, JoinsBase devices filter device link := by
  have hnot : device.id ∉ baseIDs devices filter := by
    rw [id_mem_baseIDs hids hdevice, hbase]
    exact Bool.false_ne_true
  have hknown : ∀ id ∈ baseIDs devices filter, id ∈ deviceIDSet devices := by
    intro id hid
    obtain ⟨other, hother, -, rfl⟩ := mem_baseIDs.1 hid
    exact mem_deviceIDSet.2 ⟨other, hother, rfl⟩
  have hself : device.id ∈ deviceIDSet devices := mem_deviceIDSet.2 ⟨device, hdevice, rfl⟩
  constructor
  · rintro ⟨link, hlink, hghost⟩
    obtain ⟨hmem, hincludes⟩ := mem_filterLinks.1 hlink
    have hends := mem_ghostEndpoints.1 hghost
    refine ⟨?_, link, hmem, hends.imp (fun h => ⟨h.1, h.2.2⟩) fun h => ⟨h.1, h.2.2⟩⟩
    -- one end only is a base device
    rcases hends with ⟨hbase, hother, -⟩ | ⟨hbase, hother, -⟩ <;>
      simp [includesLink, hbase, hother] at hincludes <;> exact hincludes.2
  · rintro ⟨hcross, link, hlink, hjoins⟩
    refine ⟨link, mem_filterLinks.2 ⟨hlink, ?_⟩, mem_ghostEndpoints.2 ?_⟩
    · rcases hjoins with ⟨hbase, hother⟩ | ⟨hbase, hother⟩ <;>
        simp [includesLink, hbase, hother, hcross, hknown _ hbase, hself]
    · rcases hjoins with ⟨hbase, hother⟩ | ⟨hbase, hother⟩
      · exact .inl ⟨hbase, hother ▸ hnot, hother⟩
      · exact .inr ⟨hbase, hother ▸ hnot, hother⟩

theorem mem_filterGhosts :
    device ∈ (projectTopologyForFilter devices links filter).ghostDevices ↔
      device ∈ devices ∧ IsGhost devices links filter device := by
  cases hghosts : filter.includeGhostDevices with
  | false => simp [projectTopologyForFilter, IsGhost, hghosts]
  | true =>
    have hmem : device ∈ (projectTopologyForFilter devices links filter).ghostDevices ↔
        device ∈ devices ∧ device.id ∉ baseIDs devices filter ∧
          ∃ link ∈ (projectTopologyForFilter devices links filter).links,
            device.id ∈ ghostEndpoints (baseIDs devices filter) link := by
      -- the test that there is a ghost is implied by the one that this device is one
      simp only [projectTopologyForFilter, hghosts, if_true, Bool.true_and, decide_eq_true_eq,
        Finset.card_pos]
      split
      · simp [baseIDs]
      rename_i hempty
      rw [Finset.not_nonempty_iff_eq_empty] at hempty
      simp only [not_mem_nil, false_iff]
      rintro ⟨-, -, link, hlink, hid⟩
      have hid' := mem_toFinset.2 (mem_flatMap.2 ⟨link, hlink, hid⟩)
      rw [baseIDs, hempty] at hid'
      exact Finset.notMem_empty _ hid'
    rw [hmem]
    refine and_congr_right fun hdevice => ?_
    simp only [id_mem_baseIDs hids hdevice, Bool.not_eq_true, IsGhost, hghosts, true_and]
    rw [and_left_comm]
    exact and_congr_right (mem_included_ghost hids hdevice)

/-! ### What is stored -/

theorem nodup_memberIDs :
    ((materializeMembership devices links areas filter).devices.map (·.deviceID)).Nodup := by
  have hbase : ((projectTopologyForFilter devices links filter).devices.map (·.id)).Nodup :=
    hids.sublist (filter_sublist.map _)
  have hghosts : ((projectTopologyForFilter devices links filter).ghostDevices.map (·.id)).Nodup :=
    hids.sublist (filterGhosts_sublist.map _)
  have hmembers : (materializeMembership devices links areas filter).devices.map (·.deviceID) =
      (projectTopologyForFilter devices links filter).devices.map (·.id) ++
        (projectTopologyForFilter devices links filter).ghostDevices.map (·.id) := by
    simp [materializeMembership, Function.comp_def]
  rw [hmembers]
  refine hbase.append hghosts ?_
  -- a ghost is not a base device
  intro id hid hid'
  obtain ⟨base, hmem, rfl⟩ := mem_map.1 hid
  obtain ⟨ghost, hmem', heq⟩ := mem_map.1 hid'
  obtain ⟨hdevice, hisBase⟩ := mem_filterDevices.1 hmem
  obtain ⟨hdevice', hghost⟩ := (mem_filterGhosts hids).1 hmem'
  rw [eq_of_id_eq hids hdevice' hdevice heq] at hghost
  exact absurd hisBase (Bool.eq_false_iff.1 hghost.2.2.1)

theorem mem_members (hdevice : device ∈ devices)
    {member : CanvasMapDeviceMembership} (hid : member.deviceID = device.id) :
    member ∈ (materializeMembership devices links areas filter).devices ↔
      ∃ role areaIDs, Stored devices links areas filter device role areaIDs ∧
        member = { deviceID := device.id, role, areaIDs } := by
  unfold materializeMembership
  simp only [mem_append, mem_map, filterDeviceAreaIDs_eq]
  constructor
  · rintro (⟨other, hmem, rfl⟩ | ⟨other, hmem, rfl⟩)
    · obtain ⟨hother, hbase⟩ := mem_filterDevices.1 hmem
      rw [eq_of_id_eq hids hother hdevice hid] at hbase ⊢
      exact ⟨_, _, .inl ⟨hbase, rfl, rfl⟩, rfl⟩
    · obtain ⟨hother, hghost⟩ := (mem_filterGhosts hids).1 hmem
      rw [eq_of_id_eq hids hother hdevice hid] at hghost ⊢
      exact ⟨_, _, .inr ⟨hghost, rfl, rfl⟩, rfl⟩
  · rintro ⟨role, areaIDs, ⟨hbase, rfl, rfl⟩ | ⟨hghost, rfl, rfl⟩, rfl⟩
    · exact .inl ⟨device, mem_filterDevices.2 ⟨hdevice, hbase⟩, rfl⟩
    · exact .inr ⟨device, (mem_filterGhosts hids).2 ⟨hdevice, hghost⟩, rfl⟩

/-- A field of the members, looked up by device as `ProjectTopologyForMembership` does. -/
theorem get_members {V : Type} (hdevice : device ∈ devices)
    (field : CanvasMapDeviceMembership → V) {value : V} :
    (ofList ((materializeMembership devices links areas filter).devices.map fun member =>
        (member.deviceID, field member))).get device.id = some value ↔
      ∃ role areaIDs, Stored devices links areas filter device role areaIDs ∧
        field { deviceID := device.id, role, areaIDs } = value := by
  have hkeys : (((materializeMembership devices links areas filter).devices.map fun member =>
      (member.deviceID, field member)).map Prod.fst).Nodup := by
    rw [map_map]
    exact nodup_memberIDs hids
  rw [get_ofList_iff_mem hkeys, mem_map]
  constructor
  · rintro ⟨member, hmem, heq⟩
    rw [Prod.mk.injEq] at heq
    obtain ⟨role, areaIDs, hstored, rfl⟩ := (mem_members hids hdevice heq.1).1 hmem
    exact ⟨role, areaIDs, hstored, heq.2⟩
  · rintro ⟨role, areaIDs, hstored, rfl⟩
    exact ⟨_, (mem_members hids hdevice rfl).2 ⟨role, areaIDs, hstored, rfl⟩, rfl⟩

section Lookup

variable (hdevice : device ∈ devices)
include hdevice

theorem lookup_stored {role : MembershipRole} {areaIDs : List UUID}
    (hstored : Stored devices links areas filter device role areaIDs) :
    (rolesOf (materializeMembership devices links areas filter)).get device.id = some role ∧
      getZero (areasOf (materializeMembership devices links areas filter)) [] device.id =
        areaIDs := by
  have hrole := (get_members hids hdevice (·.role)).2 ⟨_, _, hstored, rfl⟩
  have hareas := (get_members hids hdevice (·.areaIDs)).2 ⟨_, _, hstored, rfl⟩
  refine ⟨hrole, ?_⟩
  rw [getZero, areasOf, hareas]
  rfl

theorem mem_rolesOf :
    device.id ∈ (rolesOf (materializeMembership devices links areas filter)).dom ↔
      ∃ role areaIDs, Stored devices links areas filter device role areaIDs := by
  rw [mem_dom_iff_exists, rolesOf]
  simp only [get_members hids hdevice]
  grind

end Lookup

/-! ### What the map shows -/

/-- The rows that `ProjectTopologyForMembership` finds under some of the roles. -/
theorem mem_withRole (p : Option MembershipRole → Prop) :
    (∃ row, ((row ∈ devices ∧
        row.id ∈ (rolesOf (materializeMembership devices links areas filter)).dom) ∧
        p ((rolesOf (materializeMembership devices links areas filter)).get row.id)) ∧
      withAreaIDs row (getZero (areasOf (materializeMembership devices links areas filter)) []
        row.id) = device) ↔
      ∃ row ∈ devices, ∃ role areaIDs, Stored devices links areas filter row role areaIDs ∧
        p (some role) ∧ device = withAreaIDs row areaIDs := by
  constructor
  · rintro ⟨row, ⟨⟨hrow, hmember⟩, hrole⟩, rfl⟩
    obtain ⟨role, areaIDs, hstored⟩ := (mem_rolesOf hids hrow).1 hmember
    obtain ⟨hget, hareas⟩ := lookup_stored hids hrow hstored
    exact ⟨row, hrow, role, areaIDs, hstored, hget ▸ hrole, congrArg (withAreaIDs row) hareas⟩
  · rintro ⟨row, hrow, role, areaIDs, hstored, hrole, rfl⟩
    obtain ⟨hget, hareas⟩ := lookup_stored hids hrow hstored
    exact ⟨row, ⟨⟨hrow, (mem_rolesOf hids hrow).2 ⟨_, _, hstored⟩⟩, hget ▸ hrole⟩,
      congrArg (withAreaIDs row) hareas⟩

theorem mem_shownDevices :
    device ∈ (shown devices links areas filter).devices ↔
      ∃ row ∈ devices, isBaseDevice filter row = true ∧ device = withAreaIDs row
        (row.areaIDs.filter fun areaID => areaID ∈ keptAreaIDs devices areas filter) := by
  unfold shown projectTopologyForMembership
  simp only [mem_map, mem_filter, decide_eq_true_eq]
  refine (mem_withRole hids (· ≠ some .ghost)).trans ?_
  simp [Stored, or_and_right, exists_or, and_assoc]

theorem mem_shownGhosts :
    device ∈ (shown devices links areas filter).ghostDevices ↔
      ∃ row ∈ devices, IsGhost devices links filter row ∧ device = withAreaIDs row [] := by
  unfold shown projectTopologyForMembership
  simp only [mem_map, mem_filter, decide_eq_true_eq]
  refine (mem_withRole hids (· = some .ghost)).trans ?_
  simp [Stored]

/-! ### When the two agree -/

theorem views_eq_iff (P : MapDevice → Prop)
    (f g : MapDevice → MapDevice) (hf : ∀ row, (f row).id = row.id)
    (hg : ∀ row, (g row).id = row.id) :
    (∀ device, (∃ row ∈ devices, P row ∧ device = f row) ↔
        ∃ row ∈ devices, P row ∧ device = g row) ↔
      ∀ row ∈ devices, P row → f row = g row := by
  constructor
  · intro h row hrow hP
    obtain ⟨other, hother, -, heq⟩ := (h (f row)).1 ⟨row, hrow, hP, rfl⟩
    have hid : other.id = row.id := by rw [← hg other, ← heq, hf row]
    rw [heq, eq_of_id_eq hids hother hrow hid]
  · intro h device
    refine exists_congr fun row => and_congr_right fun hrow => and_congr_right fun hP => ?_
    rw [h row hrow hP]

theorem devices_same_iff :
    (∀ device, device ∈ (shown devices links areas filter).devices ↔
        ∃ row ∈ (projectTopologyForFilter devices links filter).devices,
          device = restrictAreas areas row) ↔
      ∀ areaID, filter.areaID = some areaID → ∀ device ∈ devices,
        isBaseDevice filter device = true → ∀ other ∈ device.areaIDs,
          other ∈ areaWithCountIDSet areas → other = areaID := by
  simp only [mem_shownDevices hids, mem_filterDevices, and_assoc]
  rw [views_eq_iff hids (fun row => isBaseDevice filter row = true) (fun row => withAreaIDs row
    (row.areaIDs.filter fun areaID => areaID ∈ keptAreaIDs devices areas filter))
    (restrictAreas areas) (fun _ => rfl) (fun _ => rfl)]
  have hrow : ∀ row : MapDevice, withAreaIDs row (row.areaIDs.filter fun areaID =>
        areaID ∈ keptAreaIDs devices areas filter) = restrictAreas areas row ↔
      ∀ areaID ∈ row.areaIDs,
        areaID ∈ keptAreaIDs devices areas filter ↔ areaID ∈ areaWithCountIDSet areas := by
    intro row
    rw [restrictAreas, withAreaIDs_inj, filter_mem_eq_iff]
  simp only [hrow, mem_keptAreaIDs]
  cases hfilter : filter.areaID with
  | none =>
    -- without an area filter the areas of the base devices are kept
    simp only [reduceCtorEq, false_implies, implies_true, iff_true]
    intro row hmem hbase areaID harea
    exact ⟨fun h => h.1, fun h => ⟨h, row, hmem, hbase, harea⟩⟩
  | some filterID =>
    simp only [Option.some.injEq, forall_eq']
    constructor
    · intro h row hmem hbase areaID harea hexists
      exact ((h row hmem hbase areaID harea).2 hexists).2
    · intro h row hmem hbase areaID harea
      exact ⟨fun hkept => hkept.1, fun hexists => ⟨hexists, h row hmem hbase areaID harea hexists⟩⟩

theorem ghosts_same_iff :
    (∀ device, device ∈ (shown devices links areas filter).ghostDevices ↔
        ∃ row ∈ (projectTopologyForFilter devices links filter).ghostDevices,
          device = restrictAreas areas row) ↔
      ∀ device ∈ devices, IsGhost devices links filter device →
        ∀ areaID ∈ device.areaIDs, areaID ∉ areaWithCountIDSet areas := by
  simp only [mem_shownGhosts hids, mem_filterGhosts hids, and_assoc]
  rw [views_eq_iff hids (IsGhost devices links filter) (fun row => withAreaIDs row [])
    (restrictAreas areas) (fun _ => rfl) (fun _ => rfl)]
  have hrow : ∀ row : MapDevice, withAreaIDs row [] = restrictAreas areas row ↔
      ∀ areaID ∈ row.areaIDs, areaID ∉ areaWithCountIDSet areas := by
    intro row
    rw [restrictAreas, withAreaIDs_inj, eq_comm, filter_eq_nil_iff]
    simp
  simp [hrow]

theorem mem_rolesOf_of_joins {id : UUID}
    (hid : id ∈ deviceIDSet devices) (hlink : link ∈ links)
    (hjoins : (link.sourceDeviceID ∈ baseIDs devices filter ∧ link.targetDeviceID = id) ∨
      (link.targetDeviceID ∈ baseIDs devices filter ∧ link.sourceDeviceID = id))
    (hcross : filter.includeCrossAreaLinks = true) :
    id ∈ (rolesOf (materializeMembership devices links areas filter)).dom ↔
      id ∈ baseIDs devices filter ∨ filter.includeGhostDevices = true := by
  obtain ⟨device, hdevice, rfl⟩ := mem_deviceIDSet.1 hid
  rw [mem_rolesOf hids hdevice, id_mem_baseIDs hids hdevice]
  constructor
  · rintro ⟨role, areaIDs, hbase | hghost⟩
    · exact .inl hbase.1
    · exact .inr hghost.1.1
  · intro h
    cases hbase : isBaseDevice filter device with
    | true => exact ⟨_, _, .inl ⟨hbase, rfl, rfl⟩⟩
    | false =>
      have hghosts := h.resolve_left (Bool.eq_false_iff.1 hbase)
      exact ⟨_, _, .inr ⟨⟨hghosts, hcross, hbase, link, hlink, hjoins⟩, rfl, rfl⟩⟩

/-- The devices of a link of the filter are base devices or ghosts, unless the filter asks for
links across areas without ghosts. -/
theorem links_same_iff (hlinks : (links.map (·.id)).Nodup) :
    (∀ link, link ∈ (shown devices links areas filter).links ↔
        link ∈ (projectTopologyForFilter devices links filter).links) ↔
      (filter.includeCrossAreaLinks = true → filter.includeGhostDevices = false →
        ∀ link ∈ links, link.sourceDeviceID ∈ deviceIDSet devices →
          link.targetDeviceID ∈ deviceIDSet devices →
          (link.sourceDeviceID ∈ baseIDs devices filter ↔
            link.targetDeviceID ∈ baseIDs devices filter)) := by
  simp only [mem_shownLinks hlinks, and_iff_left_iff_imp]
  have hbaseRole : ∀ id ∈ baseIDs devices filter,
      id ∈ (rolesOf (materializeMembership devices links areas filter)).dom := by
    intro id hid
    obtain ⟨row, hrow, hbase, rfl⟩ := mem_baseIDs.1 hid
    exact (mem_rolesOf hids hrow).2 ⟨_, _, .inl ⟨hbase, rfl, rfl⟩⟩
  constructor
  · intro h hcross hghosts link hlink hsource htarget
    -- a link with one base device is one of the filter, so its other device is shown
    constructor
    · intro hbase
      have hshown := (h link (mem_filterLinks.2
        ⟨hlink, by simp [includesLink, hsource, htarget, hbase, hcross]⟩)).2
      rw [mem_rolesOf_of_joins hids htarget hlink (.inl ⟨hbase, rfl⟩) hcross, hghosts] at hshown
      simpa using hshown
    · intro hbase
      have hshown := (h link (mem_filterLinks.2
        ⟨hlink, by simp [includesLink, hsource, htarget, hbase, hcross]⟩)).1
      rw [mem_rolesOf_of_joins hids hsource hlink (.inr ⟨hbase, rfl⟩) hcross, hghosts] at hshown
      simpa using hshown
  · intro h link hincluded
    obtain ⟨hlink, hincludes⟩ := mem_filterLinks.1 hincluded
    simp only [includesLink, Bool.and_eq_true, Bool.or_eq_true, decide_eq_true_eq] at hincludes
    obtain ⟨⟨hsource, htarget⟩, ⟨hsourceBase, htargetBase⟩ | ⟨hcross, hone⟩⟩ := hincludes
    · exact ⟨hbaseRole _ hsourceBase, hbaseRole _ htargetBase⟩
    have hends : filter.includeGhostDevices = true ∨ (link.sourceDeviceID ∈ baseIDs devices filter ↔
        link.targetDeviceID ∈ baseIDs devices filter) := by
      cases hghosts : filter.includeGhostDevices with
      | true => exact .inl rfl
      | false => exact .inr (h hcross hghosts link hlink hsource htarget)
    rcases hone with hbase | hbase
    · refine ⟨hbaseRole _ hbase, ?_⟩
      rw [mem_rolesOf_of_joins hids htarget hlink (.inl ⟨hbase, rfl⟩) hcross]
      exact (hends.imp_right fun hiff => hiff.1 hbase).symm
    · refine ⟨?_, hbaseRole _ hbase⟩
      rw [mem_rolesOf_of_joins hids hsource hlink (.inr ⟨hbase, rfl⟩) hcross]
      exact (hends.imp_right fun hiff => hiff.2 hbase).symm

end UniqueIDs

/-- A map that is materialized from a filter shows what the filter selects, exactly if these
conditions hold. The first one is about the links that are stored and not shown; the other two are
about the area lists, of which the map keeps its own areas and none for ghosts. -/
theorem materialized_shows_same_iff (devices : List MapDevice) (links : List Link)
    (areas : List AreaWithCount) (filter : CanvasMapFilter) (hids : (devices.map (·.id)).Nodup)
    (hlinks : (links.map (·.id)).Nodup) :
    ShowsSame areas
        (projectTopologyForMembership devices links
          (materializeMembership devices links areas filter))
        (projectTopologyForFilter devices links filter) ↔
      ShowsAll devices links areas filter := by
  constructor
  · intro h
    exact ⟨(links_same_iff hids hlinks).1 h.links, (devices_same_iff hids).1 h.devices,
      (ghosts_same_iff hids).1 h.ghostDevices⟩
  · intro h
    exact ⟨(devices_same_iff hids).2 h.baseAreas, (ghosts_same_iff hids).2 h.ghostAreas,
      (links_same_iff hids hlinks).2 h.crossLinks⟩

/-- A router in an area, and one outside that it is linked to. -/
def inside : MapDevice := { id := 1#128, areaIDs := [5#128] }

def outside : MapDevice := { id := 2#128 }

def uplink : Link where
  id := 9#128
  sourceDeviceID := 1#128
  sourceIfName := "ether1"
  targetDeviceID := 2#128
  targetIfName := "ether2"

/-- The map of the area, with the links that leave it. -/
def areaFilter (includeGhostDevices : Bool) : CanvasMapFilter where
  areaID := some 5#128
  includeCrossAreaLinks := true
  includeGhostDevices := includeGhostDevices

/-- With ghosts the map shows the device outside the area and the link to it. -/
theorem materialized_shows_same_ghost :
    ShowsSame [{ id := 5#128 }]
      (projectTopologyForMembership [inside, outside] [uplink]
        (materializeMembership [inside, outside] [uplink] [{ id := 5#128 }] (areaFilter true)))
      (projectTopologyForFilter [inside, outside] [uplink] (areaFilter true)) := by
  refine (materialized_shows_same_iff _ _ _ _ (by decide) (by decide)).2 ⟨?_, ?_, ?_⟩
  · intro _ hghosts
    cases hghosts
  · intro areaID harea device hdevice _ other hother _
    cases harea
    simp only [mem_cons, not_mem_nil, or_false] at hdevice
    rcases hdevice with rfl | rfl
    · simpa [inside] using hother
    · simp [outside] at hother
  · intro device hdevice hghost areaID harea
    simp only [mem_cons, not_mem_nil, or_false] at hdevice
    rcases hdevice with rfl | rfl
    · exact absurd hghost.2.2.1 (by decide)
    · simp [outside] at harea

/-- Without ghosts the filter selects the link across areas and the membership stores it, but the
map does not show it. -/
theorem cross_area_link_not_shown :
    uplink ∈ (projectTopologyForFilter [inside, outside] [uplink] (areaFilter false)).links ∧
      uplink.id ∈ (materializeMembership [inside, outside] [uplink] [{ id := 5#128 }]
        (areaFilter false)).linkIDs ∧
      ¬ShowsSame [{ id := 5#128 }]
        (projectTopologyForMembership [inside, outside] [uplink]
          (materializeMembership [inside, outside] [uplink] [{ id := 5#128 }] (areaFilter false)))
        (projectTopologyForFilter [inside, outside] [uplink] (areaFilter false)) := by
  have hselected : uplink ∈
      (projectTopologyForFilter [inside, outside] [uplink] (areaFilter false)).links := by
    decide +kernel
  refine ⟨hselected, by decide +kernel, ?_⟩
  intro h
  have hmem := (h.links uplink).2 hselected
  cases hmem

end Theia.CanvasMap
