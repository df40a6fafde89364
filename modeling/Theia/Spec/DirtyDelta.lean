import Theia.Native.DirtyDelta
import Theia.Spec.RuntimePatch

/-!
# The incremental overview is the rebuilt one

`buildDirtyOverviewDelta` rebuilds the dirty devices, the links at them and the devices whose
alerts matter, in a context of only those devices. Applied to the previous overview, its delta
gives the overview of a full rebuild.
-/

namespace Theia

open List FMap Option

variable {lower : Char → Char} {device : Device} {inputs a b : OverviewInputs} {key : String}
  {dto : DeviceRuntimeDTO} {id : UUID} {link : Link} {dirtyDevices ids : Finset UUID}

/-! ### One record of a snapshot -/

/-- A row is found under its own identifier. -/
theorem devicesByID_id {devices : List Device}
    (h : (devicesByID devices).get id = some device) : device ∈ devices ∧ device.id = id := by
  have hmem := mem_of_get_ofList h
  obtain ⟨d, hd, he⟩ := List.mem_map.1 hmem
  rw [Prod.mk.injEq] at he
  obtain ⟨hid, rfl⟩ := he
  exact ⟨hd, hid⟩

theorem devicesByID_isSome {devices : List Device} (h : device ∈ devices) :
    ∃ row, (devicesByID devices).get device.id = some row :=
  mem_dom_iff_exists.1 (mem_dom_ofList (List.mem_map_of_mem h))

/-- Filtering the rows filters the index. -/
theorem devicesByID_filter (devices : List Device) (ids : Finset UUID) (id : UUID) :
    (devicesByID (filterDevicesByID devices ids)).get id =
      if id ∈ ids then (devicesByID devices).get id else none := by
  have hfilter := get_ofList_filter (fun id => decide (id ∈ ids))
    (devices.map fun device => (device.id, device)) id
  rw [List.filter_map] at hfilter
  simpa [devicesByID, filterDevicesByID, Function.comp_def] using hfilter

/-- The record of a device in a snapshot. -/
theorem buildPipelineSnapshot_device (inputs : OverviewInputs) (id : UUID) :
    (buildPipelineSnapshot lower inputs).devices.get id.toString =
      ((devicesByID inputs.devices).get id).map
        (deviceRuntime inputs.states inputs.alerts inputs.promStatus) :=
  get_ofList_rename UUID.toString_injective Device.id _ inputs.devices id

theorem buildPipelineSnapshot_deviceKey
    (h : (buildPipelineSnapshot lower inputs).devices.get key = some dto) :
    ∃ id : UUID, key = id.toString := by
  obtain ⟨device, -, he⟩ := List.mem_map.1 (mem_of_get_ofList h)
  rw [Prod.mk.injEq] at he
  exact ⟨device.id, he.1.symm⟩

/-- The record of a link in a snapshot, with the records of its endpoints. -/
def linkRecord (lower : Char → Char) (inputs : OverviewInputs) (link : Link) : LinkRuntimeDTO :=
  linkRuntime lower (devicesByID inputs.devices) inputs.states
    (buildPipelineSnapshot lower inputs).devices link

/-- The records of links in a snapshot. -/
theorem buildPipelineSnapshot_link (h : (inputs.links.map (·.id)).Nodup) {dto : LinkRuntimeDTO} :
    (buildPipelineSnapshot lower inputs).links.get key = some dto ↔
      ∃ link ∈ inputs.links, link.id.toString = key ∧ linkRecord lower inputs link = dto := by
  have hnodup : ((inputs.links.map fun link => (link.id.toString, linkRecord lower inputs link)).map
      Prod.fst).Nodup := by
    rw [List.map_map]
    have := h.map UUID.toString_injective
    rwa [List.map_map] at this
  show (FMap.ofList (inputs.links.map fun link =>
    (link.id.toString, linkRecord lower inputs link))).get key = some dto ↔ _
  rw [get_ofList_iff_mem hnodup, List.mem_map]
  simp

/-! ### What a record depends on -/

/-- The record of a device in a snapshot of the inputs. -/
abbrev OverviewInputs.deviceRecord (inputs : OverviewInputs) (device : Device) : DeviceRuntimeDTO :=
  deviceRuntime inputs.states inputs.alerts inputs.promStatus device

/-- The alert fields of two records are equal. -/
abbrev DeviceRuntimeDTO.SameAlerts (a b : DeviceRuntimeDTO) : Prop :=
  a.alertStatus = b.alertStatus ∧ a.firingAlertCount = b.firingAlertCount

/-- The reasons of two records are equal. -/
abbrev DeviceRuntimeDTO.SameReasons (a b : DeviceRuntimeDTO) : Prop :=
  a.primaryReason = b.primaryReason ∧ a.metricsReason = b.metricsReason

/-- A record depends on its alerts through their summary. -/
theorem normalizeDeviceRuntimeDTO_congr (device : Device) (deviceState : DeviceState)
    (promStatus : PrometheusStatus) {a b : List AlertState}
    (h : summarizeAlerts a = summarizeAlerts b) :
    normalizeDeviceRuntimeDTO device deviceState a promStatus =
      normalizeDeviceRuntimeDTO device deviceState b promStatus := by
  unfold normalizeDeviceRuntimeDTO normalizeVirtualWithIPDeviceRuntimeDTO
  rw [h]

theorem AlertStatus.toString_injective : Function.Injective AlertStatus.toString := by
  intro a b h
  cases a <;> cases b <;> first | rfl | exact absurd h (by decide)

theorem normalizeDeviceRuntimeDTO_alertFields (h : ¬isVirtualNoIPDevice device = true)
    (deviceState : DeviceState) (promStatus : PrometheusStatus) (alerts : List AlertState) :
    (normalizeDeviceRuntimeDTO device deviceState alerts promStatus).alertStatus =
        (summarizeAlerts alerts).1.toString ∧
      (normalizeDeviceRuntimeDTO device deviceState alerts promStatus).firingAlertCount =
        (summarizeAlerts alerts).2 := by
  unfold normalizeDeviceRuntimeDTO
  rw [if_neg h]
  split <;> exact ⟨rfl, rfl⟩

section

variable (device : Device) (deviceState : DeviceState) (promStatus : PrometheusStatus)
  (a b : List AlertState)

/-- Two records that differ only in the alerts they were built from are equal when their alert
fields are. -/
theorem normalizeDeviceRuntimeDTO_eq_of_alertFields
    (h : (normalizeDeviceRuntimeDTO device deviceState a promStatus).SameAlerts
      (normalizeDeviceRuntimeDTO device deviceState b promStatus)) :
    normalizeDeviceRuntimeDTO device deviceState a promStatus =
      normalizeDeviceRuntimeDTO device deviceState b promStatus := by
  by_cases hvirtual : isVirtualNoIPDevice device = true
  · simp [normalizeDeviceRuntimeDTO, hvirtual]
  · apply normalizeDeviceRuntimeDTO_congr
    have hfields := normalizeDeviceRuntimeDTO_alertFields hvirtual deviceState promStatus
    rw [DeviceRuntimeDTO.SameAlerts, (hfields a).1, (hfields b).1, (hfields a).2, (hfields b).2] at h
    exact Prod.ext (AlertStatus.toString_injective h.1) h.2

theorem normalizeDeviceRuntimeDTO_reasons :
    (normalizeDeviceRuntimeDTO device deviceState a promStatus).SameReasons
      (normalizeDeviceRuntimeDTO device deviceState b promStatus) := by
  unfold normalizeDeviceRuntimeDTO
  split
  · exact ⟨rfl, rfl⟩
  · split
    · exact ⟨rfl, rfl⟩
    · exact ⟨rfl, rfl⟩

end

theorem normalizeLinkRuntimeDTO_congr (link : Link) (metric : Option LinkMetrics)
    {s s' t t' : DeviceRuntimeDTO} (hs : s.SameReasons s') (ht : t.SameReasons t') :
    normalizeLinkRuntimeDTO link metric s t = normalizeLinkRuntimeDTO link metric s' t' := by
  simp [normalizeLinkRuntimeDTO, normalizeLinkMetricsStatus, hs.1, hs.2, ht.1, ht.2]

/-- The zero device has no readings for a link. -/
theorem buildDeviceLinkMetrics_zero (hs : link.sourceDeviceID ≠ UUID.nil)
    (ht : link.targetDeviceID ≠ UUID.nil) (metrics : List LinkMetrics) :
    buildDeviceLinkMetrics lower {} [link] metrics = [] := by
  have hmatch : ∀ name, matchLinkID lower {} [link] name = "" := by
    intro name
    simp [matchLinkID, hs, ht]
  simp [buildDeviceLinkMetrics, hmatch]

/-- Both inputs have the same row for a device, and the same state if there is a row. -/
def SameDevice (a b : OverviewInputs) (id : UUID) : Prop :=
  (devicesByID a.devices).get id = (devicesByID b.devices).get id ∧
    ∀ device, (devicesByID a.devices).get id = some device →
      FMap.getZero a.states {} id = FMap.getZero b.states {} id

section

variable (h : SameDevice a b id) (hs : link.sourceDeviceID ≠ UUID.nil)
  (ht : link.targetDeviceID ≠ UUID.nil)
include h hs ht

/-- A device that the inputs share gives a link the same readings. -/
theorem SameDevice.linkMetrics :
    buildDeviceLinkMetrics lower (FMap.getZero (devicesByID a.devices) {} id) [link]
        (FMap.getZero a.states {} id).linkMetrics =
      buildDeviceLinkMetrics lower (FMap.getZero (devicesByID b.devices) {} id) [link]
        (FMap.getZero b.states {} id).linkMetrics := by
  obtain ⟨hrow, hstate⟩ := h
  unfold FMap.getZero
  rw [← hrow]
  cases hget : (devicesByID a.devices).get id with
  | none => rw [getD_none, buildDeviceLinkMetrics_zero hs ht, buildDeviceLinkMetrics_zero hs ht]
  | some device =>
    have hs' := hstate device hget
    unfold FMap.getZero at hs'
    rw [hs']

omit hs ht in
/-- A device that the inputs share has the same reasons in both snapshots. -/
theorem SameDevice.reasons (hprom : a.promStatus = b.promStatus) :
    (FMap.getZero (buildPipelineSnapshot lower a).devices {} id.toString).SameReasons
      (FMap.getZero (buildPipelineSnapshot lower b).devices {} id.toString) := by
  obtain ⟨hrow, hstate⟩ := h
  unfold FMap.getZero
  rw [buildPipelineSnapshot_device, buildPipelineSnapshot_device, ← hrow]
  cases hget : (devicesByID a.devices).get id with
  | none => exact ⟨rfl, rfl⟩
  | some device =>
    have hid := (devicesByID_id hget).2
    simp only [map_some, getD_some, deviceRuntime, hid, hstate device hget, hprom]
    exact normalizeDeviceRuntimeDTO_reasons _ _ _ _ _

omit h in
/-- The record of a link depends on its two ends only. -/
theorem linkRecord_congr
    (hprom : a.promStatus = b.promStatus) (hsource : SameDevice a b link.sourceDeviceID)
    (htarget : SameDevice a b link.targetDeviceID) :
    linkRecord lower a link = linkRecord lower b link := by
  have hmetric : selectNormalizedLinkMetric lower link
      (FMap.getZero (devicesByID a.devices) {} link.sourceDeviceID)
      (FMap.getZero (devicesByID a.devices) {} link.targetDeviceID)
      (FMap.getZero a.states {} link.sourceDeviceID).linkMetrics
      (FMap.getZero a.states {} link.targetDeviceID).linkMetrics =
      selectNormalizedLinkMetric lower link
      (FMap.getZero (devicesByID b.devices) {} link.sourceDeviceID)
      (FMap.getZero (devicesByID b.devices) {} link.targetDeviceID)
      (FMap.getZero b.states {} link.sourceDeviceID).linkMetrics
      (FMap.getZero b.states {} link.targetDeviceID).linkMetrics := by
    unfold selectNormalizedLinkMetric
    rw [hsource.linkMetrics hs ht, htarget.linkMetrics hs ht]
  unfold linkRecord linkRuntime
  rw [hmetric]
  exact normalizeLinkRuntimeDTO_congr _ _ (hsource.reasons hprom) (htarget.reasons hprom)

end

/-! ### One record of a delta -/

/-- The rows that the database promises: identifiers are set and distinct, and links end at
devices. -/
structure ValidRows (inputs : OverviewInputs) : Prop where
  deviceIDs : ∀ device ∈ inputs.devices, device.id ≠ UUID.nil
  linkIDs : (inputs.links.map (·.id)).Nodup
  endpoints : ∀ link ∈ inputs.links, link.sourceDeviceID ≠ UUID.nil ∧ link.targetDeviceID ≠ UUID.nil

theorem ValidRows.link_eq (h : ValidRows inputs) {a b : Link} (ha : a ∈ inputs.links)
    (hb : b ∈ inputs.links) (hid : a.id.toString = b.id.toString) : a = b :=
  inj_on_of_nodup_map h.linkIDs ha hb (UUID.toString_injective hid)

/-- Some dirty device has a row. -/
def HasDirtyRow (inputs : OverviewInputs) (dirtyDevices : Finset UUID) : Prop :=
  ∃ id ∈ dirtyDevices, ∃ device, (devicesByID inputs.devices).get id = some device

theorem hasDirtyRow_iff (inputs : OverviewInputs) (dirtyDevices : Finset UUID) :
    0 < (filterDevicesByID inputs.devices dirtyDevices).length ↔
      HasDirtyRow inputs dirtyDevices := by
  rw [length_pos_iff_exists_mem]
  constructor
  · intro ⟨device, hdevice⟩
    obtain ⟨hmem, hid⟩ := mem_filter.1 hdevice
    exact ⟨device.id, of_decide_eq_true hid, devicesByID_isSome hmem⟩
  · intro ⟨id, hid, device, hget⟩
    obtain ⟨hmem, rfl⟩ := devicesByID_id hget
    exact ⟨device, mem_filter.2 ⟨hmem, decide_eq_true hid⟩⟩

theorem HasDirtyRow.context (h : HasDirtyRow inputs dirtyDevices) :
    dirtyContextIDs inputs dirtyDevices =
      dirtyDevices ∪
          ((filterLinksByDeviceID inputs.links dirtyDevices).map (·.sourceDeviceID)).toFinset ∪
        ((filterLinksByDeviceID inputs.links dirtyDevices).map (·.targetDeviceID)).toFinset :=
  if_pos ((hasDirtyRow_iff _ _).2 h)

theorem HasDirtyRow.mem_context (h : HasDirtyRow inputs dirtyDevices)
    (hid : id ∈ dirtyDevices) : id ∈ dirtyContextIDs inputs dirtyDevices := by
  rw [h.context]
  exact Finset.mem_union_left _ (Finset.mem_union_left _ hid)

instance (inputs : OverviewInputs) (dirtyDevices : Finset UUID) :
    Decidable (HasDirtyRow inputs dirtyDevices) :=
  decidable_of_iff _ (hasDirtyRow_iff inputs dirtyDevices)

/-- The inputs of the partial snapshot. -/
abbrev partialInputs (inputs : OverviewInputs) (dirtyDevices contextIDs : Finset UUID) :
    OverviewInputs :=
  { devices := filterDevicesByID inputs.devices contextIDs
    links := filterLinksByDeviceID inputs.links dirtyDevices
    states := snapshotPipelineStateFor inputs.states contextIDs
    alerts := inputs.alerts
    promStatus := inputs.promStatus }

theorem getZero_snapshotPipelineStateFor {states : FMap UUID DeviceState}
    (hid : id ∈ ids) (hnil : id ≠ UUID.nil) :
    FMap.getZero (snapshotPipelineStateFor states ids) {} id = FMap.getZero states {} id := by
  unfold FMap.getZero snapshotPipelineStateFor
  rw [get_filterMap]
  cases states.get id with
  | none => rfl
  | some deviceState => simp [hid, hnil]

/-- The partial snapshot has the records of its context. -/
theorem partialSnapshot_device (h : ValidRows inputs) (dirtyDevices contextIDs : Finset UUID)
    (id : UUID) : (partialSnapshot lower inputs dirtyDevices contextIDs).devices.get id.toString =
      if id ∈ contextIDs then (buildPipelineSnapshot lower inputs).devices.get id.toString
      else none := by
  show (buildPipelineSnapshot lower (partialInputs inputs dirtyDevices contextIDs)).devices.get
    _ = _
  rw [buildPipelineSnapshot_device, buildPipelineSnapshot_device, devicesByID_filter]
  split_ifs with hid
  · cases hget : (devicesByID inputs.devices).get id with
    | none => rfl
    | some device =>
      obtain ⟨hmem, rfl⟩ := devicesByID_id hget
      simp [deviceRuntime, getZero_snapshotPipelineStateFor hid (h.deviceIDs device hmem)]
  · rfl

theorem sameDevice_partialInputs (h : ValidRows inputs) {contextIDs : Finset UUID}
    (hid : id ∈ contextIDs) :
    SameDevice (partialInputs inputs dirtyDevices contextIDs) inputs id := by
  have hrow : (devicesByID (filterDevicesByID inputs.devices contextIDs)).get id =
      (devicesByID inputs.devices).get id := by
    rw [devicesByID_filter, if_pos hid]
  refine ⟨hrow, fun device hdevice => ?_⟩
  obtain ⟨hmem, rfl⟩ := devicesByID_id (hrow.symm.trans hdevice)
  exact getZero_snapshotPipelineStateFor hid (h.deviceIDs device hmem)

/-- A link at one of the devices. -/
def Touches (link : Link) (ids : Finset UUID) : Prop :=
  link.sourceDeviceID ∈ ids ∨ link.targetDeviceID ∈ ids

theorem mem_filterLinksByDeviceID {links : List Link} :
    link ∈ filterLinksByDeviceID links ids ↔ link ∈ links ∧ Touches link ids := by
  simp [filterLinksByDeviceID, Touches]

/-- It has the records of the links at dirty devices as a full snapshot has them. -/
theorem partialSnapshot_link (h : ValidRows inputs) {contextIDs : Finset UUID}
    (hcontext : dirtyContextIDs inputs dirtyDevices ⊆ contextIDs)
    (hdirty : HasDirtyRow inputs dirtyDevices) {dto : LinkRuntimeDTO} :
    (partialSnapshot lower inputs dirtyDevices contextIDs).links.get key = some dto ↔
      ∃ link ∈ inputs.links, Touches link dirtyDevices ∧ link.id.toString = key ∧
        linkRecord lower inputs link = dto := by
  have hnodup : ((filterLinksByDeviceID inputs.links dirtyDevices).map (·.id)).Nodup :=
    h.linkIDs.sublist (filter_sublist.map _)
  have hrecord : ∀ link ∈ filterLinksByDeviceID inputs.links dirtyDevices,
      linkRecord lower (partialInputs inputs dirtyDevices contextIDs) link =
        linkRecord lower inputs link := by
    intro link hlink
    have hends := h.endpoints link (mem_filterLinksByDeviceID.1 hlink).1
    -- both endpoints are in the context
    have hsource : link.sourceDeviceID ∈ contextIDs := by
      apply hcontext
      rw [hdirty.context]
      apply Finset.mem_union_left
      apply Finset.mem_union_right
      exact List.mem_toFinset.2 (List.mem_map.2 ⟨link, hlink, rfl⟩)
    have htarget : link.targetDeviceID ∈ contextIDs := by
      apply hcontext
      rw [hdirty.context]
      apply Finset.mem_union_right
      exact List.mem_toFinset.2 (List.mem_map.2 ⟨link, hlink, rfl⟩)
    exact linkRecord_congr hends.1 hends.2 rfl (sameDevice_partialInputs h hsource)
      (sameDevice_partialInputs h htarget)
  show (buildPipelineSnapshot lower (partialInputs inputs dirtyDevices contextIDs)).links.get key =
    _ ↔ _
  rw [buildPipelineSnapshot_link hnodup]
  constructor
  · intro ⟨link, hlink, hkey, hdto⟩
    obtain ⟨hmem, htouch⟩ := mem_filterLinksByDeviceID.1 hlink
    exact ⟨link, hmem, htouch, hkey, (hrecord link hlink).symm.trans hdto⟩
  · intro ⟨link, hmem, htouch, hkey, hdto⟩
    have hlink := mem_filterLinksByDeviceID.2 ⟨hmem, htouch⟩
    exact ⟨link, hlink, hkey, (hrecord link hlink).trans hdto⟩

theorem entriesOf_get {V : Type} (entries : FMap String V) (ids : Finset UUID)
    (keep : UUID → V → Bool) (id : UUID) :
    (entriesOf entries ids keep).get id.toString =
      (entries.get id.toString).bind fun value =>
        if id ∈ ids ∧ keep id value then some value else none := by
  unfold entriesOf
  apply Option.bind_congr
  intro value _
  have hiff : (∃ other ∈ ids, other.toString = id.toString ∧ keep other value = true) ↔
      id ∈ ids ∧ keep id value = true := by
    constructor
    · intro ⟨other, hother, heq, hkeep⟩
      rw [UUID.toString_inj] at heq
      exact heq ▸ ⟨hother, hkeep⟩
    · intro ⟨hid, hkeep⟩
      exact ⟨id, hid, rfl, hkeep⟩
  exact if_congr hiff rfl rfl

theorem entriesOf_value {V : Type} {entries : FMap String V} {keep : UUID → V → Bool} {value : V}
    (h : (entriesOf entries ids keep).get key = some value) : entries.get key = some value := by
  rw [entriesOf, get_filterMap] at h
  obtain ⟨v, hv, h⟩ := bind_eq_some_iff.1 h
  split at h
  · rw [hv, h]
  · cases h

theorem dirtyRecords_device (inputs : OverviewInputs) (dirtyDevices : Finset UUID)
    (built : SnapshotPayload) (id : UUID) :
    (dirtyRecords inputs dirtyDevices built).devices.get id.toString =
      if HasDirtyRow inputs dirtyDevices ∧ id ∈ dirtyDevices then
        built.devices.get id.toString
      else none := by
  unfold dirtyRecords
  by_cases hrow : HasDirtyRow inputs dirtyDevices
  · rw [if_pos ((hasDirtyRow_iff _ _).2 hrow), entriesOf_get]
    by_cases hid : id ∈ dirtyDevices
    · simp [hrow, hid]
    · simp [hid]
  · rw [if_neg fun h => hrow ((hasDirtyRow_iff _ _).1 h), if_neg fun h => hrow h.1]
    rfl

section Collect

variable {hash : List WireValue → Nat} {inputs : OverviewInputs} {dirtyDevices : Finset UUID}
  {alertsDirty : Bool} {previousAlertDeviceIDs : Finset UUID}
  {previousHashes : Option SectionHashes} {previousAlertRuntime : FMap UUID DeviceRuntimeDTO}
  {delta : Option SnapshotPayload}

/-- The context of a delta. -/
abbrev contextOf (inputs : OverviewInputs) (dirtyDevices : Finset UUID) (alertsDirty : Bool)
    (previousAlertDeviceIDs : Finset UUID) : Finset UUID :=
  dirtyContextIDs inputs dirtyDevices ∪ alertDeviceIDs inputs alertsDirty previousAlertDeviceIDs

theorem eq_emptySnapshot {delta : SnapshotPayload} (h : snapshotPayloadEmpty (some delta) = true) :
    delta = emptySnapshot := by
  simp only [snapshotPayloadEmpty, Bool.and_eq_true] at h
  show delta = SnapshotPayload.mk ∅ ∅
  rw [← eq_empty_of_isEmpty h.1, ← eq_empty_of_isEmpty h.2]

theorem snapshotPayloadEmpty_getD (delta : SnapshotPayload) :
    (if snapshotPayloadEmpty (some delta) then none else some delta).getD emptySnapshot = delta := by
  split_ifs with h
  · exact (eq_emptySnapshot h).symm
  · rfl

section

variable (hdelta : collectDirtyDelta lower hash inputs dirtyDevices alertsDirty
  previousAlertDeviceIDs previousHashes previousAlertRuntime = delta)
include hdelta

/-- The delta has the new records of the dirty devices, and of those whose alerts have changed them.
-/
theorem collectDirtyDelta_device (h : ValidRows inputs) (id : UUID) :
    (delta.getD emptySnapshot).devices.get id.toString =
      ((buildPipelineSnapshot lower inputs).devices.get id.toString).bind fun dto =>
        if id ∈ dirtyDevices ∨ (id ∈ alertDeviceIDs inputs alertsDirty previousAlertDeviceIDs ∧
            alertDeviceChanged hash previousHashes previousAlertRuntime id dto = true) then
          some dto
        else none := by
  have hdirtyContext : ∀ dto,
      (buildPipelineSnapshot lower inputs).devices.get id.toString = some dto →
      id ∈ dirtyDevices → HasDirtyRow inputs dirtyDevices ∧
        id ∈ dirtyContextIDs inputs dirtyDevices := by
    intro dto hdto hid
    rw [buildPipelineSnapshot_device] at hdto
    obtain ⟨device, hdevice, -⟩ := map_eq_some_iff.1 hdto
    have hrow : HasDirtyRow inputs dirtyDevices := ⟨id, hid, device, hdevice⟩
    exact ⟨hrow, hrow.mem_context hid⟩
  rw [← hdelta]
  unfold collectDirtyDelta
  dsimp only
  split
  · -- without a context there is no dirty device and no alert device
    rename_i hempty
    rw [Finset.union_eq_empty] at hempty
    show none = _
    cases hdto : (buildPipelineSnapshot lower inputs).devices.get id.toString with
    | none => rfl
    | some dto =>
      rw [bind_some, if_neg]
      intro hor
      rcases hor with hid | ⟨hid, -⟩
      · have hmem := (hdirtyContext dto hdto hid).2
        rw [hempty.1] at hmem
        exact absurd hmem (Finset.notMem_empty id)
      · rw [hempty.2] at hid
        exact absurd hid (Finset.notMem_empty id)
  · rw [snapshotPayloadEmpty_getD]
    show (FMap.overlay _ _).get id.toString = _
    rw [get_overlay, entriesOf_get, partialSnapshot_device h]
    rw [dirtyRecords_device, partialSnapshot_device h]
    cases hdto : (buildPipelineSnapshot lower inputs).devices.get id.toString with
    | none => simp
    | some dto =>
      have hctx := hdirtyContext dto hdto
      by_cases hid : id ∈ dirtyDevices
      · -- the alert part can only repeat the record
        obtain ⟨hrow, hmem⟩ := hctx hid
        simp only [hrow, hid, Finset.mem_union, hmem, true_or, and_self, if_true, bind_some]
        split <;> rfl
      · by_cases halert : id ∈ alertDeviceIDs inputs alertsDirty previousAlertDeviceIDs
        · simp only [hid, halert, Finset.mem_union, or_true, and_false, if_true, if_false, true_and,
            false_or, bind_some]
          split <;> rfl
        · simp [hid, halert]

/-- All records of a delta are from a partial snapshot. -/
theorem collectDirtyDelta_entries : ∃ contextIDs,
    (∀ key dto, (delta.getD emptySnapshot).devices.get key = some dto →
      (partialSnapshot lower inputs dirtyDevices contextIDs).devices.get key = some dto) ∧
    ∀ key dto, (delta.getD emptySnapshot).links.get key = some dto →
      (partialSnapshot lower inputs dirtyDevices contextIDs).links.get key = some dto := by
  rw [← hdelta]
  unfold collectDirtyDelta
  dsimp only
  split
  · refine ⟨∅, fun key dto h => ?_, fun key dto h => ?_⟩
    · cases h
    · cases h
  rw [snapshotPayloadEmpty_getD]
  refine ⟨contextOf inputs dirtyDevices alertsDirty previousAlertDeviceIDs, ?_, ?_⟩
  · intro key dto hdto
    rcases get_overlay_eq_some hdto with hdto | hdto
    · exact entriesOf_value hdto
    · unfold dirtyRecords at hdto
      split at hdto
      · exact entriesOf_value hdto
      · cases hdto
  · intro key dto hdto
    change (dirtyRecords _ _ _).links.get key = some dto at hdto
    unfold dirtyRecords at hdto
    split at hdto
    · exact hdto
    · cases hdto

theorem collectDirtyDelta_deviceKey (h : (delta.getD emptySnapshot).devices.get key = some dto) :
    ∃ id : UUID, key = id.toString := by
  obtain ⟨contextIDs, hdevices, -⟩ := collectDirtyDelta_entries hdelta
  exact buildPipelineSnapshot_deviceKey (hdevices key dto h)

/-- The delta has the new records of the links at dirty devices, if some dirty device has a
row. -/
theorem collectDirtyDelta_link (h : ValidRows inputs) {dto : LinkRuntimeDTO} :
    (delta.getD emptySnapshot).links.get key = some dto ↔ HasDirtyRow inputs dirtyDevices ∧ ∃ link ∈ inputs.links, Touches link dirtyDevices ∧
        link.id.toString = key ∧ linkRecord lower inputs link = dto := by
  rw [← hdelta]
  unfold collectDirtyDelta
  dsimp only
  split
  · rename_i hempty
    rw [Finset.union_eq_empty] at hempty
    constructor
    · intro hnone
      cases hnone
    -- a dirty row puts its device into the context
    intro hor
    obtain ⟨id, hid, -⟩ := hor.1
    have hmem := hor.1.mem_context hid
    rw [hempty.1] at hmem
    exact absurd hmem (Finset.notMem_empty id)
  · rw [snapshotPayloadEmpty_getD]
    show (dirtyRecords inputs dirtyDevices _).links.get key = some dto ↔ _
    unfold dirtyRecords
    by_cases hrow : HasDirtyRow inputs dirtyDevices
    · rw [if_pos ((hasDirtyRow_iff _ _).2 hrow)]
      show (partialSnapshot lower inputs dirtyDevices _).links.get key = some dto ↔ _
      rw [partialSnapshot_link h Finset.subset_union_left hrow]
      simp [hrow]
    · rw [if_neg fun h => hrow ((hasDirtyRow_iff _ _).1 h)]
      simp only [hrow, false_and, iff_false]
      intro hnone
      cases hnone

end

end Collect

/-! ### Devices without an alert before and after -/

theorem summarizeAlerts_of_not_affect {alerts : List AlertState}
    (h : alertStatesAffectRuntime alerts = false) : summarizeAlerts alerts = (.normal, 0) := by
  simp only [alertStatesAffectRuntime, Bool.or_eq_false_iff, decide_eq_false_iff_not, not_lt,
    ne_eq, not_not] at h
  exact Prod.ext h.2 (le_antisymm h.1 (summarizeAlerts_count_nonneg alerts))

theorem deviceRuntime_no_alerts
    (h : alertStatesAffectRuntime (FMap.getZero inputs.alerts [] device.id) = false) :
    (inputs.deviceRecord device).alertStatus = "normal" ∧
      (inputs.deviceRecord device).firingAlertCount = 0 := by
  unfold OverviewInputs.deviceRecord deviceRuntime
  by_cases hvirtual : isVirtualNoIPDevice device = true
  · rw [normalizeDeviceRuntimeDTO, if_pos hvirtual]
    exact ⟨rfl, rfl⟩
  · have hfields := normalizeDeviceRuntimeDTO_alertFields hvirtual
      (FMap.getZero inputs.states {} device.id) inputs.promStatus
      (FMap.getZero inputs.alerts [] device.id)
    rw [summarizeAlerts_of_not_affect h] at hfields
    exact hfields

theorem alertFields_of_no_effect (hstatus : dto.alertStatus ∈ Client.alertStatuses)
    (hcount : 0 ≤ dto.firingAlertCount) (h : deviceRuntimeHadAlertEffect dto = false) :
    dto.alertStatus = "normal" ∧ dto.firingAlertCount = 0 := by
  rw [deviceRuntimeHadAlertEffect, Bool.or_eq_false_iff] at h
  refine ⟨?_, le_antisymm (not_lt.1 (of_decide_eq_false h.1)) hcount⟩
  have heffect := h.2
  simp only [Client.alertStatuses, mem_cons, not_mem_nil, or_false] at hstatus
  rcases hstatus with heq | heq | heq
  · exact heq
  · rw [heq] at heffect
    exact absurd heffect (by decide)
  · rw [heq] at heffect
    exact absurd heffect (by decide)

theorem alertStatesAffectRuntime_of_notMem {alerts : FMap UUID (List AlertState)}
    (hnil : id ≠ UUID.nil) (h : id ∉ addCurrentAlertRuntimeDeviceIDs alerts) :
    alertStatesAffectRuntime (FMap.getZero alerts [] id) = false := by
  by_cases hmem : id ∈ alerts.dom
  · simpa [addCurrentAlertRuntimeDeviceIDs, hmem, hnil] using h
  · rw [FMap.getZero, get_eq_none_iff.2 hmem]
    rfl

theorem deviceRuntimeHadAlertEffect_of_notMem {snapshot : SnapshotPayload}
    (hnil : id ≠ UUID.nil) (h : id ∉ addPreviousAlertRuntimeDeviceIDs snapshot)
    (hdto : snapshot.devices.get id.toString = some dto) :
    deviceRuntimeHadAlertEffect dto = false := by
  rw [← Bool.not_eq_true]
  intro heffect
  apply h
  have hzero : FMap.getZero snapshot.devices {} id.toString = dto := by
    rw [FMap.getZero, hdto]
    rfl
  have hparse : parseDeviceID id.toString = some id := by
    rw [parseDeviceID, UUID.parse_toString]
    simp [hnil]
  refine Finset.mem_biUnion.2 ⟨id.toString, Finset.mem_filter.2 ⟨mem_dom_of_get hdto, ?_⟩, ?_⟩
  · rw [hzero]
    exact heffect
  · simp [hparse]

/-! ### Incremental and full -/

/-- The new inputs differ from the old ones only in the rows and states of dirty devices and, if
`alertsDirty` is set, in alerts. -/
structure ChangedOnly (old new : OverviewInputs) (dirtyDevices : Finset UUID)
    (alertsDirty : Bool) : Prop where
  deviceIDs : ∀ id, (∃ device, (devicesByID new.devices).get id = some device) ↔
    ∃ device, (devicesByID old.devices).get id = some device
  rows : ∀ id, id ∉ dirtyDevices →
    (devicesByID new.devices).get id = (devicesByID old.devices).get id
  states : ∀ id, id ∉ dirtyDevices → new.states.get id = old.states.get id
  links : ∀ link, link ∈ new.links ↔ link ∈ old.links
  alerts : alertsDirty = false → new.alerts = old.alerts
  promStatus : new.promStatus = old.promStatus

/-- No two different records of one device, one in each snapshot, have the same hash. -/
def NoCollision (hash : List WireValue → Nat) (previous current : SnapshotPayload) : Prop :=
  ∀ key a b, previous.devices.get key = some a → current.devices.get key = some b →
    computeDeviceRuntimeHashes hash a = computeDeviceRuntimeHashes hash b →
    deviceHashParts a = deviceHashParts b

instance (hash : List WireValue → Nat) (previous current : SnapshotPayload) :
    Decidable (NoCollision hash previous current) :=
  decidable_of_iff (∀ key ∈ previous.devices.dom, ∀ a ∈ previous.devices.get key,
      ∀ b ∈ current.devices.get key,
        computeDeviceRuntimeHashes hash a = computeDeviceRuntimeHashes hash b →
        deviceHashParts a = deviceHashParts b)
    ⟨fun h key a b ha hb => h key (mem_dom_of_get ha) a ha b hb,
      fun h key _ a ha b hb => h key a b ha hb⟩

theorem alertFields_of_hashParts {a b : DeviceRuntimeDTO}
    (h : deviceHashParts a = deviceHashParts b) : a.SameAlerts b := by
  have hstatus : WireValue.str a.alertStatus = .str b.alertStatus :=
    congrArg (fun l => l.getD 13 .null) h
  have hcount : WireValue.num a.firingAlertCount = .num b.firingAlertCount :=
    congrArg (fun l => l.getD 14 .null) h
  rw [WireValue.str.injEq] at hstatus
  rw [WireValue.num.injEq] at hcount
  exact ⟨hstatus, by exact_mod_cast hcount⟩

theorem ChangedOnly.row_none {old new : OverviewInputs} {alertsDirty : Bool}
    (h : ChangedOnly old new dirtyDevices alertsDirty)
    (hnew : (devicesByID new.devices).get id = none) : (devicesByID old.devices).get id = none := by
  rw [eq_none_iff_forall_ne_some]
  intro device hget
  obtain ⟨device', hdevice'⟩ := (h.deviceIDs id).2 ⟨device, hget⟩
  rw [hnew] at hdevice'
  cases hdevice'

/-- A device that is not dirty is the same, and if no dirty device has a row, all are. -/
theorem ChangedOnly.sameDevice {old new : OverviewInputs} {alertsDirty : Bool}
    (h : ChangedOnly old new dirtyDevices alertsDirty)
    (hid : id ∉ dirtyDevices ∨ ¬HasDirtyRow new dirtyDevices) : SameDevice old new id := by
  by_cases hmem : id ∈ dirtyDevices
  · -- a dirty device without a row has no row in the old inputs either
    have hrow := hid.resolve_left fun h => h hmem
    have hnew : (devicesByID new.devices).get id = none :=
      eq_none_iff_forall_ne_some.2 fun device hget => hrow ⟨id, hmem, device, hget⟩
    have hold := h.row_none hnew
    refine ⟨hold.trans hnew.symm, fun device hdevice => ?_⟩
    rw [hold] at hdevice
    cases hdevice
  · refine ⟨(h.rows id hmem).symm, fun device _ => ?_⟩
    rw [FMap.getZero, FMap.getZero, h.states id hmem]

theorem cloneDeviceRuntimeDTO_forSnapshot (dto : DeviceRuntimeDTO) :
    cloneDeviceRuntimeDTO (cloneDeviceRuntimeForSnapshot dto) = cloneDeviceRuntimeDTO dto := by
  unfold cloneDeviceRuntimeDTO cloneDeviceRuntimeForSnapshot
  rcases dto.runtimeFlags with _ | _ | _ <;> rfl

section Apply

variable (hash : List WireValue → Nat) (base : SnapshotPayload) (hashes : Option SectionHashes)
  (delta : Option SnapshotPayload)

theorem applySnapshotDelta_device (key : String) :
    (applySnapshotDeltaToRuntime hash (some base) hashes delta).1.devices.get key =
      (((delta.getD emptySnapshot).devices.get key).map cloneDeviceRuntimeForSnapshot).orElse
        fun _ => base.devices.get key := by
  cases delta <;> rfl

theorem applySnapshotDelta_link (key : String) :
    (applySnapshotDeltaToRuntime hash (some base) hashes delta).1.links.get key =
      ((delta.getD emptySnapshot).links.get key).orElse fun _ => base.links.get key := by
  cases delta <;> rfl

end Apply

theorem cloneSnapshot_device (snapshot : SnapshotPayload) (key : String) :
    (cloneSnapshot (some snapshot)).devices.get key =
      (snapshot.devices.get key).map cloneDeviceRuntimeDTO := rfl

theorem cloneSnapshot_ext_iff {a b : SnapshotPayload} :
    cloneSnapshot (some a) = cloneSnapshot (some b) ↔
      (∀ key, (a.devices.get key).map cloneDeviceRuntimeDTO =
        (b.devices.get key).map cloneDeviceRuntimeDTO) ∧
      ∀ key, a.links.get key = b.links.get key := by
  constructor
  · intro h
    constructor
    · intro key
      rw [← cloneSnapshot_device, h, cloneSnapshot_device]
    · intro key
      show (cloneSnapshot (some a)).links.get key = (cloneSnapshot (some b)).links.get key
      rw [h]
  · intro ⟨hdevices, hlinks⟩
    show SnapshotPayload.mk _ _ = SnapshotPayload.mk _ _
    rw [SnapshotPayload.mk.injEq]
    exact ⟨FMap.ext hdevices, FMap.ext hlinks⟩

section Rebuild

variable {hash : List WireValue → Nat} {old new : OverviewInputs} {dirtyDevices : Finset UUID}
  {alertsDirty : Bool} {last : SnapshotPayload} {previousAlertRuntime : FMap UUID DeviceRuntimeDTO}
  {id : UUID} (hvalid : ValidRows new)
  (hhash : NoCollision hash last (buildPipelineSnapshot lower new))

include hvalid hhash

/-- A device that a delta for alerts leaves out is shown with its alerts: it has none, or its hash
says that its record is the same. -/
theorem alertFields_of_skipped (hrow : (devicesByID new.devices).get id = some device)
    (hdto : last.devices.get id.toString = some dto)
    (hstatus : dto.alertStatus ∈ Client.alertStatuses) (hcount : 0 ≤ dto.firingAlertCount)
    (halert : ¬(id ∈ alertDeviceIDs new true (addPreviousAlertRuntimeDeviceIDs last) ∧
      alertDeviceChanged hash (some (computeSnapshotHashes hash last)) previousAlertRuntime id
        (new.deviceRecord device) = true)) : dto.SameAlerts (new.deviceRecord device) := by
  obtain ⟨hmem, hid⟩ := devicesByID_id hrow
  have hnil : id ≠ UUID.nil := hid ▸ hvalid.deviceIDs device hmem
  have hnew : (buildPipelineSnapshot lower new).devices.get id.toString =
      some (new.deviceRecord device) := by
    rw [buildPipelineSnapshot_device, hrow]
    rfl
  by_cases hids : id ∈ alertDeviceIDs new true (addPreviousAlertRuntimeDeviceIDs last)
  · have hsame : alertDeviceChanged hash (some (computeSnapshotHashes hash last))
        previousAlertRuntime id _ ≠ true := fun h => halert ⟨hids, h⟩
    have hget : (computeSnapshotHashes hash last).devices.get id.toString =
        some (computeDeviceRuntimeHashes hash dto) := by
      rw [computeSnapshotHashes, FMap.get_map, hdto]
      rfl
    rw [alertDeviceChanged, hget, ne_eq, decide_eq_true_eq, not_not, Option.some.injEq] at hsame
    exact alertFields_of_hashParts (hhash _ _ _ hdto hnew hsame)
  · rw [alertDeviceIDs, if_pos rfl, Finset.mem_union, not_or] at hids
    have hquiet := alertStatesAffectRuntime_of_notMem hnil hids.1
    rw [← hid] at hquiet
    obtain ⟨hstatus', hcount'⟩ := deviceRuntime_no_alerts hquiet
    rw [DeviceRuntimeDTO.SameAlerts, hstatus', hcount']
    exact alertFields_of_no_effect hstatus hcount
      (deviceRuntimeHadAlertEffect_of_notMem hnil hids.2 hdto)

variable (hchanged : ChangedOnly old new dirtyDevices alertsDirty)
  (hlast : cloneSnapshot (some last) = cloneSnapshot (some (buildPipelineSnapshot lower old)))

include hchanged hlast

/-- A device that the delta leaves out has its old record. -/
theorem deviceRuntime_unchanged (hrow : (devicesByID new.devices).get id = some device)
    (hdirty : id ∉ dirtyDevices)
    (halert : ¬(id ∈ alertDeviceIDs new alertsDirty (addPreviousAlertRuntimeDeviceIDs last) ∧
      alertDeviceChanged hash (some (computeSnapshotHashes hash last)) previousAlertRuntime id
        (new.deviceRecord device) = true)) : old.deviceRecord device = new.deviceRecord device := by
  have hid := (devicesByID_id hrow).2
  have hstate : FMap.getZero new.states {} id = FMap.getZero old.states {} id := by
    rw [FMap.getZero, FMap.getZero, hchanged.states id hdirty]
  -- the previous overview has the old record, up to its flag list
  have hprev : (last.devices.get id.toString).map cloneDeviceRuntimeDTO =
      some (cloneDeviceRuntimeDTO (old.deviceRecord device)) := by
    rw [← cloneSnapshot_device, hlast, cloneSnapshot_device, buildPipelineSnapshot_device,
      ← hchanged.rows id hdirty, hrow]
    rfl
  obtain ⟨dto, hdto, hclone⟩ := map_eq_some_iff.1 hprev
  have hstatus : dto.alertStatus = (old.deviceRecord device).alertStatus :=
    congrArg (·.alertStatus) hclone
  have hcount : dto.firingAlertCount = (old.deviceRecord device).firingAlertCount :=
    congrArg (·.firingAlertCount) hclone
  have hknown : KnownDevice (old.deviceRecord device) := normalizeDeviceRuntimeDTO_known _ _ _ _
  cases alertsDirty with
  | false => simp [deviceRuntime, hid, hstate, hchanged.promStatus, hchanged.alerts rfl]
  | true =>
    have hsame := alertFields_of_skipped hvalid hhash hrow hdto
      (hstatus ▸ hknown.alertStatus) (hcount ▸ hknown.firingAlertCount) halert
    rw [DeviceRuntimeDTO.SameAlerts, hstatus, hcount] at hsame
    simp only [deviceRuntime, hid, hstate, hchanged.promStatus] at hsame ⊢
    exact normalizeDeviceRuntimeDTO_eq_of_alertFields _ _ _ _ _ hsame

variable (lower hash new dirtyDevices alertsDirty last) in
/-- The delta on new inputs against the previous overview and its hashes. -/
abbrev deltaAgainst (previousAlertRuntime : FMap UUID DeviceRuntimeDTO) : Option SnapshotPayload :=
  collectDirtyDelta lower hash new dirtyDevices alertsDirty (addPreviousAlertRuntimeDeviceIDs last)
    (some (computeSnapshotHashes hash last)) previousAlertRuntime

/-- The record of a device after the delta. -/
theorem deltaAgainst_device (id : UUID) :
    (((((deltaAgainst lower hash new dirtyDevices alertsDirty last previousAlertRuntime).getD
        emptySnapshot).devices.get id.toString).map cloneDeviceRuntimeForSnapshot).orElse
        fun _ => last.devices.get id.toString).map cloneDeviceRuntimeDTO =
      ((buildPipelineSnapshot lower new).devices.get id.toString).map cloneDeviceRuntimeDTO := by
  have hdevice := (cloneSnapshot_ext_iff.1 hlast).1 id.toString
  rw [collectDirtyDelta_device rfl hvalid, buildPipelineSnapshot_device]
  cases hrow : (devicesByID new.devices).get id with
  | none =>
    rw [buildPipelineSnapshot_device, hchanged.row_none hrow] at hdevice
    exact hdevice
  | some device =>
    rw [map_some, bind_some]
    split
    · show some (cloneDeviceRuntimeDTO (cloneDeviceRuntimeForSnapshot _)) = _
      rw [cloneDeviceRuntimeDTO_forSnapshot, map_some]
    rename_i hout
    rw [not_or] at hout
    have hsame := deviceRuntime_unchanged hvalid hhash hchanged hlast hrow hout.1 hout.2
    show (last.devices.get id.toString).map cloneDeviceRuntimeDTO = _
    rw [hdevice, buildPipelineSnapshot_device, ← hchanged.rows id hout.1, hrow]
    exact congrArg (fun dto => some (cloneDeviceRuntimeDTO dto)) hsame

omit hhash hlast in
/-- A link that the delta leaves out has its old record. -/
theorem linkRecord_unchanged (hmem : link ∈ new.links)
    (hout : ¬(HasDirtyRow new dirtyDevices ∧ Touches link dirtyDevices)) :
    linkRecord lower old link = linkRecord lower new link := by
  obtain ⟨hs, ht⟩ := hvalid.endpoints link hmem
  apply linkRecord_congr hs ht hchanged.promStatus.symm
  · apply hchanged.sameDevice
    rw [or_iff_not_imp_left, not_not]
    exact fun hid hrow => hout ⟨hrow, .inl hid⟩
  · apply hchanged.sameDevice
    rw [or_iff_not_imp_left, not_not]
    exact fun hid hrow => hout ⟨hrow, .inr hid⟩

omit hhash hlast in
/-- The record of a link after the delta. -/
theorem deltaAgainst_link (hold : ValidRows old) (key : String) :
    ((((deltaAgainst lower hash new dirtyDevices alertsDirty last previousAlertRuntime).getD
        emptySnapshot).links.get key).orElse
        fun _ => (buildPipelineSnapshot lower old).links.get key) =
      (buildPipelineSnapshot lower new).links.get key := by
  have hdelta : ∀ dto, ((deltaAgainst lower hash new dirtyDevices alertsDirty last
      previousAlertRuntime).getD emptySnapshot).links.get key = some dto ↔ _ :=
    fun dto => collectDirtyDelta_link rfl hvalid
  ext dto
  rw [buildPipelineSnapshot_link hvalid.linkIDs, ← orElse_eq_orElse, orElse_eq_some,
    hdelta, buildPipelineSnapshot_link hold.linkIDs]
  constructor
  · rintro (⟨-, link, hmem, -, hkey, hdto⟩ | ⟨hnone, link, hmem, hkey, hdto⟩)
    · exact ⟨link, hmem, hkey, hdto⟩
    -- the link is not in the delta, so its record is the old one
    have hmem := (hchanged.links link).2 hmem
    refine ⟨link, hmem, hkey, (linkRecord_unchanged hvalid hchanged hmem ?_).symm.trans hdto⟩
    intro ⟨hrow, htouch⟩
    have hsome := (hdelta _).2 ⟨hrow, link, hmem, htouch, hkey, rfl⟩
    rw [hnone] at hsome
    cases hsome
  · intro ⟨link, hmem, hkey, hdto⟩
    by_cases hin : HasDirtyRow new dirtyDevices ∧ Touches link dirtyDevices
    · exact .inl ⟨hin.1, link, hmem, hin.2, hkey, hdto⟩
    refine .inr ⟨?_, link, (hchanged.links link).1 hmem, hkey,
      (linkRecord_unchanged hvalid hchanged hmem hin).trans hdto⟩
    rw [eq_none_iff_forall_ne_some]
    intro other hother
    obtain ⟨hrow, other, hother, htouch, hkey', -⟩ := (hdelta _).1 hother
    have heq : other = link := hvalid.link_eq hother hmem (hkey'.trans hkey.symm)
    exact hin ⟨hrow, heq ▸ htouch⟩

theorem deltaAgainst_rebuilds (hold : ValidRows old) (hashes : Option SectionHashes)
    (previousAlertRuntime : FMap UUID DeviceRuntimeDTO) :
    cloneSnapshot (some (applySnapshotDeltaToRuntime hash (some last) hashes
        (deltaAgainst lower hash new dirtyDevices alertsDirty last previousAlertRuntime)).1) =
      cloneSnapshot (some (buildPipelineSnapshot lower new)) := by
  obtain ⟨hdevice, hlink⟩ := cloneSnapshot_ext_iff.1 hlast
  rw [cloneSnapshot_ext_iff]
  constructor
  · intro key
    rw [applySnapshotDelta_device]
    by_cases hkey : ∃ id : UUID, key = id.toString
    · obtain ⟨id, rfl⟩ := hkey
      exact deltaAgainst_device hvalid hhash hchanged hlast id
    -- only device identifiers are keys
    have hnone : ∀ inputs, (buildPipelineSnapshot lower inputs).devices.get key = none := by
      intro inputs
      rw [eq_none_iff_forall_ne_some]
      intro dto hget
      exact hkey (buildPipelineSnapshot_deviceKey hget)
    have hdelta : ((deltaAgainst lower hash new dirtyDevices alertsDirty last
        previousAlertRuntime).getD emptySnapshot).devices.get key = none := by
      rw [eq_none_iff_forall_ne_some]
      intro dto hget
      exact hkey (collectDirtyDelta_deviceKey rfl hget)
    have hprev := hdevice key
    rw [hnone] at hprev
    rw [hdelta, hnone]
    exact hprev
  · intro key
    rw [applySnapshotDelta_link, hlink]
    exact deltaAgainst_link hvalid hchanged hold key

end Rebuild

section

variable (lower : Char → Char) (hash : List WireValue → Nat) (inputs : OverviewInputs)

theorem collectDirtyDelta_no_alerts
    (dirtyDevices ids ids' : Finset UUID) (previousHashes previousHashes' : Option SectionHashes)
    (previousAlertRuntime : FMap UUID DeviceRuntimeDTO) :
    collectDirtyDelta lower hash inputs dirtyDevices false ids previousHashes previousAlertRuntime =
      collectDirtyDelta lower hash inputs dirtyDevices false ids' previousHashes'
        previousAlertRuntime := by
  have hempty : ∀ (entries : FMap String DeviceRuntimeDTO) keep, entriesOf entries ∅ keep = ∅ := by
    intro entries keep
    ext key : 1
    simp [entriesOf]
  simp [collectDirtyDelta, alertDeviceIDs, hempty]

theorem collectDirtyDelta_nothing (ids : Finset UUID) (previousHashes : Option SectionHashes)
    (previousAlertRuntime : FMap UUID DeviceRuntimeDTO) :
    collectDirtyDelta lower hash inputs ∅ false ids previousHashes previousAlertRuntime = none := by
  simp [collectDirtyDelta, alertDeviceIDs, dirtyContextIDs, filterDevicesByID]

end

/-- The incremental overview is the rebuilt one. If the last overview was built on old inputs and
the new inputs differ from them only in the rows and states of the dirty devices and, when alerts
are dirty, in alerts, then the delta of the dirty devices, applied to the last overview, gives the
overview built on the new inputs. A nil flag list and an empty one are the same flags, which is
what `cloneSnapshot` makes of both. -/
theorem incremental_overview_eq_rebuild (lower : Char → Char) (hash : List WireValue → Nat)
    (runtime : PipelineRuntimeState) (old new : OverviewInputs) (dirtyDevices : Finset UUID)
    (alertsDirty : Bool) (hold : ValidRows old) (hnew : ValidRows new)
    (hchanged : ChangedOnly old new dirtyDevices alertsDirty)
    (hlast : runtime.lastSnapshot = some (buildPipelineSnapshot lower old))
    (hhashes : runtime.prevHashes =
      some (computeSnapshotHashes hash (buildPipelineSnapshot lower old)))
    (halerts : runtime.alerts = new.alerts) (hprom : runtime.promStatus = new.promStatus)
    (hcollision : NoCollision hash (buildPipelineSnapshot lower old)
      (buildPipelineSnapshot lower new)) :
    ∃ delta,
      buildDirtyOverviewDelta lower hash runtime
          { devices := some new.devices, links := some new.links, states := new.states }
          dirtyDevices alertsDirty = some (delta, false) ∧
        cloneSnapshot (some (applySnapshotDeltaToRuntime hash runtime.lastSnapshot
            runtime.prevHashes delta).1) =
          cloneSnapshot (some (buildPipelineSnapshot lower new)) := by
  have h := deltaAgainst_rebuilds hnew hcollision hchanged rfl hold runtime.prevHashes
    runtime.previousAlertRuntime
  refine ⟨deltaAgainst lower hash new dirtyDevices alertsDirty (buildPipelineSnapshot lower old)
    runtime.previousAlertRuntime, ?_, hlast ▸ h⟩
  unfold buildDirtyOverviewDelta
  split_ifs with hnothing
  · obtain ⟨rfl, rfl⟩ := hnothing
    rw [deltaAgainst, collectDirtyDelta_nothing]
  · cases alertsDirty with
    | true => simp [previousAlertBase, hlast, hhashes, halerts, hprom]
    | false =>
      simp only [previousAlertBase, halerts, hprom, Bool.false_eq_true, if_false, deltaAgainst]
      rw [collectDirtyDelta_no_alerts]

/-- Two linked devices, of which the second has an alert. -/
def pairInputs : OverviewInputs where
  devices := [{ id := 1#128, ip := "10.0.0.1" }, { id := 2#128, ip := "10.0.0.2" }]
  links := [⟨3#128, 1#128, "eth0", 2#128, "eth1"⟩]
  states := ∅
  alerts := FMap.ofList [(2#128, [⟨"critical", "firing"⟩])]
  promStatus := {}

/-- The first device has come up, and the alert is gone. -/
def pairInputsUp : OverviewInputs :=
  { pairInputs with
    states := FMap.ofList [(1#128, { reachability := .up, health := .healthy })]
    alerts := ∅ }

/-- A hash that tells the records of the pair apart. -/
def lengthHash (parts : List WireValue) : Nat :=
  parts.foldl (fun acc part => match part with
    | .str s => 31 * acc + s.length
    | .num x => 31 * acc + x.num.natAbs
    | _ => 31 * acc) 0

/-- The runtime state after a build on the inputs of the pair. -/
def pairRuntime : PipelineRuntimeState where
  lastSnapshot := some (buildPipelineSnapshot Char.toLower pairInputs)
  prevHashes :=
    some (computeSnapshotHashes lengthHash (buildPipelineSnapshot Char.toLower pairInputs))

theorem pairInputs_changed : ChangedOnly pairInputs pairInputsUp {1#128} true where
  deviceIDs _ := Iff.rfl
  rows _ _ := rfl
  states _ hid := get_insert_ne ∅ _ (Finset.notMem_singleton.1 hid)
  links _ := Iff.rfl
  alerts := nofun
  promStatus := rfl

/-- The first device of the pair is dirty and the alerts are. -/
theorem incremental_overview_eq_rebuild_pair :
    ∃ delta,
      buildDirtyOverviewDelta Char.toLower lengthHash pairRuntime
          { devices := some pairInputsUp.devices, links := some pairInputsUp.links
            states := pairInputsUp.states } {1#128} true = some (delta, false) ∧
        cloneSnapshot (some (applySnapshotDeltaToRuntime lengthHash pairRuntime.lastSnapshot
            pairRuntime.prevHashes delta).1) =
          cloneSnapshot (some (buildPipelineSnapshot Char.toLower pairInputsUp)) :=
  incremental_overview_eq_rebuild Char.toLower lengthHash pairRuntime pairInputs pairInputsUp
    {1#128} true ⟨by decide, by decide, by decide⟩ ⟨by decide, by decide, by decide⟩ pairInputs_changed
    rfl rfl rfl rfl (by decide +kernel)

end Theia
