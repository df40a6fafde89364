import Theia.Native.PipelineInputs

/-!
# What a client sees of a snapshot, apart from times

A poll moves the times of a record whenever it comes in. Everything else that a client sees of a
snapshot depends on the state of the devices in a way that the change detection of the store can be
compared with.
-/

namespace Theia

open List FMap

/-! ### Records without times -/

/-- The record without its times and without the fields that its JSON leaves out. -/
def DeviceRuntimeDTO.untimed (dto : DeviceRuntimeDTO) : DeviceRuntimeDTO :=
  { dto with lastCollectedAt := none, lastPolledAt := none, collectedAt := "", stale := none }

/-- The record without its times and without the fields that its JSON leaves out. -/
def LinkRuntimeDTO.untimed (dto : LinkRuntimeDTO) : LinkRuntimeDTO :=
  { dto with lastCollectedAt := none, collectedAt := "", deviceID := "", ifName := "" }

/-- What a client sees of a snapshot, apart from times. -/
def SnapshotPayload.untimed (snapshot : SnapshotPayload) : SnapshotPayload where
  devices := snapshot.devices.map fun _ dto => dto.untimed
  links := snapshot.links.map fun _ dto => dto.untimed

/-! ### Devices -/

/-- The device waits for its first poll, as `normalizeDeviceFreshness` sees it. -/
def DeviceState.awaitsPoll (ds : DeviceState) : Bool :=
  Time.isZero ds.lastPolledAt && Time.isZero ds.metrics.collectedAt

/-- A state with other times and other link metrics. -/
def DeviceState.retime (ds : DeviceState) (polled collected : Time)
    (linkMetrics : List LinkMetrics) : DeviceState :=
  { ds with
    lastPolledAt := polled
    metrics := { ds.metrics with collectedAt := collected }
    linkMetrics := linkMetrics }

section Device

variable {ds : DeviceState} {polled collected : Time} {linkMetrics : List LinkMetrics}

theorem normalizeDeviceFreshness_retime
    (h : (ds.retime polled collected linkMetrics).awaitsPoll = ds.awaitsPoll) :
    normalizeDeviceFreshness (ds.retime polled collected linkMetrics) =
      normalizeDeviceFreshness ds := by
  unfold DeviceState.awaitsPoll at h
  unfold normalizeDeviceFreshness
  rw [h]
  rfl

/-- A record shows nothing of the times but whether the device still waits for a poll. A virtual
device has no metrics, so for it the first poll alone counts. -/
theorem untimed_retime (device : Device) (alerts : List AlertState) (promStatus : PrometheusStatus)
    (hpolled : Time.isZero polled = Time.isZero ds.lastPolledAt)
    (hawaits : (ds.retime polled collected linkMetrics).awaitsPoll = ds.awaitsPoll) :
    (normalizeDeviceRuntimeDTO device (ds.retime polled collected linkMetrics) alerts
        promStatus).untimed =
      (normalizeDeviceRuntimeDTO device ds alerts promStatus).untimed := by
  unfold normalizeDeviceRuntimeDTO
  split
  · rfl
  split
  · have hvirtual : normalizeDeviceFreshness
        { ds.retime polled collected linkMetrics with metrics := {} } =
        normalizeDeviceFreshness { ds with metrics := {} } := by
      unfold normalizeDeviceFreshness
      show (if Time.isZero polled && _ then _ else if ds.stale then _ else _) = _
      rw [hpolled]
    unfold normalizeVirtualWithIPDeviceRuntimeDTO
    dsimp only
    rw [hvirtual]
    rfl
  · rw [normalizeDeviceFreshness_retime hawaits]
    rfl

end Device

/-! ### Links -/

/-- The reading without its time. -/
def LinkMetrics.untimed (metric : LinkMetrics) : LinkMetrics := { metric with collectedAt := 0 }

open LinkMetrics

variable {lower : Char → Char}

theorem linkMetricEqual_iff {left right : LinkMetrics} :
    linkMetricEqual left right = true ↔ left.untimed = right.untimed := by
  simp [linkMetricEqual, untimed, and_assoc]

theorem buildDeviceLinkMetrics_untimed (device : Device) (links : List Link)
    (metrics : List LinkMetrics) :
    (buildDeviceLinkMetrics lower device links metrics).map untimed =
      (buildDeviceLinkMetrics lower device links (metrics.map untimed)).map
        untimed := by
  unfold buildDeviceLinkMetrics
  rw [map_filterMap, map_filterMap, filterMap_map]
  apply filterMap_congr
  intro metric _
  simp only [Function.comp_apply]
  by_cases hmatch : matchLinkID lower device links metric.ifName = ""
  · rw [if_pos hmatch,
      if_pos (show matchLinkID lower device links metric.untimed.ifName = "" from hmatch)]
  · rw [if_neg hmatch,
      if_neg (show ¬matchLinkID lower device links metric.untimed.ifName = "" from hmatch)]
    rfl

theorem perm_eq_of_length_le_one {α : Type} {l l' : List α} (h : l.Perm l') (hle : l.length ≤ 1) :
    l = l' := by
  match l, l', h with
  | [], l', h => exact (nil_perm.1 h).symm
  | [a], l', h => exact (perm_singleton.1 h.symm).symm
  | _ :: _ :: _, _, _ => simp at hle

/-- Readings in another order are the same for a link that at most one of them belongs to. -/
theorem linkMetrics_untimed_eq {sortSlice : List LinkMetrics → List LinkMetrics}
    (hsort : ∀ metrics, (sortSlice metrics).Perm metrics) {a b : List LinkMetrics}
    (heq : linkMetricsEqual sortSlice a b = true) (device : Device) (link : Link)
    (hone : (buildDeviceLinkMetrics lower device [link] b).length ≤ 1) :
    (buildDeviceLinkMetrics lower device [link] a).map untimed =
      (buildDeviceLinkMetrics lower device [link] b).map untimed := by
  have hsorted : (sortSlice a).map untimed = (sortSlice b).map untimed := by
    simp only [linkMetricsEqual, Bool.and_eq_true, decide_eq_true_eq, all_eq_true] at heq
    obtain ⟨hlength, hall⟩ := heq
    apply ext_getElem
    · simp [(hsort _).length_eq, hlength]
    intro i ha hb
    rw [length_map] at ha hb
    rw [getElem_map, getElem_map]
    apply linkMetricEqual_iff.1
    apply hall
    have hi : i < (List.zipWith linkMetricEqual (sortSlice a) (sortSlice b)).length := by
      rw [length_zipWith]
      omega
    have hmem := getElem_mem hi
    rwa [getElem_zipWith] at hmem
  -- sorting moves the one reading that belongs to the link nowhere
  have hperm : ∀ metrics, (buildDeviceLinkMetrics lower device [link] (sortSlice metrics)).Perm
      (buildDeviceLinkMetrics lower device [link] metrics) := fun metrics =>
        (hsort metrics).filterMap _
  have hmapped : (buildDeviceLinkMetrics lower device [link] (sortSlice a)).map untimed =
      (buildDeviceLinkMetrics lower device [link] (sortSlice b)).map untimed := by
    rw [buildDeviceLinkMetrics_untimed, hsorted, ← buildDeviceLinkMetrics_untimed]
  have hb := perm_eq_of_length_le_one (hperm b) ((hperm b).length_eq ▸ hone)
  have hlength := congrArg List.length hmapped
  rw [length_map, length_map, hb] at hlength
  have ha := perm_eq_of_length_le_one (hperm a) (by omega)
  rw [← ha, hmapped, hb]

theorem normalizeLinkRuntimeDTO_untimed (link : Link) (metric : Option LinkMetrics)
    (sourceRuntime targetRuntime : DeviceRuntimeDTO) :
    (normalizeLinkRuntimeDTO link (metric.map untimed) sourceRuntime
        targetRuntime).untimed =
      (normalizeLinkRuntimeDTO link metric sourceRuntime targetRuntime).untimed := by
  cases metric <;> rfl

theorem selectNormalizedLinkMetric_untimed (link : Link) (sourceDevice targetDevice : Device)
    {source source' target target' : List LinkMetrics}
    (hsource : (buildDeviceLinkMetrics lower sourceDevice [link] source).map untimed =
      (buildDeviceLinkMetrics lower sourceDevice [link] source').map untimed)
    (htarget : (buildDeviceLinkMetrics lower targetDevice [link] target).map untimed =
      (buildDeviceLinkMetrics lower targetDevice [link] target').map untimed) :
    (selectNormalizedLinkMetric lower link sourceDevice targetDevice source target).map
        untimed =
      (selectNormalizedLinkMetric lower link sourceDevice targetDevice source' target').map
        untimed := by
  have hfind : ∀ metrics : List LinkMetrics,
      (metrics.find? fun candidate => candidate.linkID = link.id.toString).map
          untimed =
        (metrics.map untimed).find? fun candidate =>
          candidate.linkID = link.id.toString := by
    intro metrics
    rw [List.find?_map]
    rfl
  unfold selectNormalizedLinkMetric
  rw [Option.map_or, Option.map_or, hfind, hfind, hfind, hfind, hsource, htarget]

/-! ### Snapshots -/

/-- The link metrics of two builds belong to the same links. -/
def SameReadings (lower : Char → Char) (i j : OverviewInputs) (link : Link) (id : UUID) : Prop :=
  (buildDeviceLinkMetrics lower (getZero (devicesByID i.devices) {} id) [link]
      (getZero i.states {} id).linkMetrics).map untimed =
    (buildDeviceLinkMetrics lower (getZero (devicesByID i.devices) {} id) [link]
      (getZero j.states {} id).linkMetrics).map untimed

/-- A client cannot tell two builds of the same rows apart when it cannot tell the device records
and the readings of the links apart. -/
theorem snapshot_untimed_congr {i j : OverviewInputs} (hdevices : j.devices = i.devices)
    (hlinks : j.links = i.links)
    (hrecords : ∀ device ∈ i.devices,
      (deviceRuntime i.states i.alerts i.promStatus device).untimed =
        (deviceRuntime j.states j.alerts j.promStatus device).untimed)
    (hreadings : ∀ link ∈ i.links, SameReadings lower i j link link.sourceDeviceID ∧
      SameReadings lower i j link link.targetDeviceID) :
    (buildPipelineSnapshot lower i).untimed = (buildPipelineSnapshot lower j).untimed := by
  have hruntimes : (buildPipelineSnapshot lower i).devices.map (fun _ dto => dto.untimed) =
      (buildPipelineSnapshot lower j).devices.map fun _ dto => dto.untimed := by
    unfold buildPipelineSnapshot
    rw [hdevices, ← ofList_map, ← ofList_map, map_map, map_map]
    congr 1
    apply map_congr_left
    intro device hdevice
    simp [hrecords device hdevice]
  -- the reasons that a link record takes from its devices are among what a client sees
  have hreasons : ∀ key : String,
      (getZero (buildPipelineSnapshot lower i).devices {} key).primaryReason =
          (getZero (buildPipelineSnapshot lower j).devices {} key).primaryReason ∧
        (getZero (buildPipelineSnapshot lower i).devices {} key).metricsReason =
          (getZero (buildPipelineSnapshot lower j).devices {} key).metricsReason := by
    intro key
    have hsame := congrArg (getZero · (DeviceRuntimeDTO.untimed {}) key) hruntimes
    simp only [getZero_map] at hsame
    have hprimary := congrArg DeviceRuntimeDTO.primaryReason hsame
    have hmetrics := congrArg DeviceRuntimeDTO.metricsReason hsame
    exact ⟨hprimary, hmetrics⟩
  have hlinkRecords : (buildPipelineSnapshot lower i).links.map (fun _ dto => dto.untimed) =
      (buildPipelineSnapshot lower j).links.map fun _ dto => dto.untimed := by
    show (ofList (i.links.map fun link => (link.id.toString,
        linkRuntime lower (devicesByID i.devices) i.states (buildPipelineSnapshot lower i).devices
          link))).map _ = (ofList (j.links.map fun link => (link.id.toString,
        linkRuntime lower (devicesByID j.devices) j.states (buildPipelineSnapshot lower j).devices
          link))).map _
    rw [hdevices, hlinks, ← ofList_map, ← ofList_map, map_map, map_map]
    congr 1
    apply map_congr_left
    intro link hlink
    obtain ⟨hsource, htarget⟩ := hreadings link hlink
    simp only [Function.comp_apply, linkRuntime, Prod.mk.injEq, true_and]
    rw [← normalizeLinkRuntimeDTO_untimed, selectNormalizedLinkMetric_untimed link _ _ hsource
      htarget, normalizeLinkRuntimeDTO_untimed]
    simp [normalizeLinkRuntimeDTO, normalizeLinkMetricsStatus, (hreasons
      link.sourceDeviceID.toString).1, (hreasons link.sourceDeviceID.toString).2, (hreasons
      link.targetDeviceID.toString).1, (hreasons link.targetDeviceID.toString).2]
  unfold SnapshotPayload.untimed
  rw [hruntimes, hlinkRecords]

end Theia
