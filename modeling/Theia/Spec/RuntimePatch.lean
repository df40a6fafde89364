import Theia.Spec.Identifiers
import Theia.Spec.RuntimeFields

/-!
# Patches and merges are inverse

The records that the normalizer makes are accepted by the client, and the patch between two of
them, merged by the client into the first, gives the second.
-/

namespace Theia

open List FMap Client

/-! ### Known values -/

/-- Every field of a device record holds a value that the client accepts. -/
structure KnownDevice (dto : DeviceRuntimeDTO) : Prop where
  deviceID : dto.deviceID ≠ ""
  operationalStatus : dto.operationalStatus ∈ operationalStatuses
  primaryHealth : dto.primaryHealth ∈ primaryHealthStates
  runtimeFlags : ∀ flag ∈ dto.runtimeFlags.getD [], flag ∈ Client.runtimeFlags
  fieldStates : KnownFieldStates dto.fieldStates
  networkReachable : dto.networkReachable ∈ reachabilityEvidenceStates
  snmpReachable : dto.snmpReachable ∈ reachabilityEvidenceStates
  reachability : dto.reachability ∈ reachabilityStatuses
  health : dto.health ∈ healthStatuses
  freshness : dto.freshness ∈ freshnessStatuses
  primaryReason : dto.primaryReason ∈ runtimeReasons
  metricsStatus : dto.metricsStatus ∈ metricsStatuses
  metricsReason : dto.metricsReason ∈ runtimeReasons
  alertStatus : dto.alertStatus ∈ alertStatuses
  firingAlertCount : 0 ≤ dto.firingAlertCount

/-- Every field of a link record holds a value that the client accepts. -/
structure KnownLink (dto : LinkRuntimeDTO) : Prop where
  linkID : dto.linkID ≠ ""
  sourceDeviceID : dto.sourceDeviceID ≠ ""
  targetDeviceID : dto.targetDeviceID ≠ ""
  metricsStatus : dto.metricsStatus ∈ linkMetricsStatuses
  metricsReason : dto.metricsReason ∈ runtimeReasons

theorem NormalizedReason.toString_mem (reason : NormalizedReason) :
    reason.toString ∈ runtimeReasons := by
  cases reason <;> decide

theorem AlertStatus.toString_mem (status : AlertStatus) : status.toString ∈ alertStatuses := by
  cases status <;> decide

theorem Freshness.toString_mem (freshness : Freshness) :
    freshness.toString ∈ freshnessStatuses := by
  cases freshness <;> decide

theorem healthForDTO_mem (health : HealthStatus) :
    (healthForDTO health).toString ∈ healthStatuses := by
  cases health <;> decide

theorem reachabilityEvidenceForDTO_mem (value : TriState) :
    (reachabilityEvidenceForDTO value).toString ∈ reachabilityEvidenceStates := by
  cases value <;> decide

section

variable (deviceState : DeviceState)

theorem primaryHealthForDTO_mem :
    (primaryHealthForDTO deviceState).toString ∈ primaryHealthStates := by
  have hset : ∀ health : PrimaryHealth, health ≠ .unset → health.toString ∈ primaryHealthStates := by
    intro health h
    cases health <;> first | decide | exact absurd rfl h
  unfold primaryHealthForDTO
  split
  · exact hset _ ‹_›
  · split
    · decide
    · split <;> decide

theorem normalizeDeviceReachability_mem :
    normalizeDeviceReachability deviceState ∈ reachabilityStatuses := by
  unfold normalizeDeviceReachability
  split <;> decide

theorem normalizeOperationalStatus_mem (freshness : Freshness) (reason : NormalizedReason) :
    normalizeOperationalStatus deviceState freshness reason ∈ operationalStatuses := by
  unfold normalizeOperationalStatus
  split
  · decide
  split
  · decide
  · decide
  · decide
  · split <;> decide
  · split <;> decide

end

theorem normalizeDeviceMetricsStatus_mem (device : Device) (deviceState : DeviceState)
    (promStatus : PrometheusStatus) (freshness : Freshness) :
    (normalizeDeviceMetricsStatus device deviceState promStatus freshness).1 ∈ metricsStatuses := by
  unfold normalizeDeviceMetricsStatus
  repeat' split
  all_goals decide

theorem runtimeFlagsForDTO_mem (flags : FMap RuntimeFlag Bool) :
    ∀ flag ∈ runtimeFlagsForDTO flags, flag ∈ Client.runtimeFlags := by
  intro flag hflag
  obtain ⟨f, -, rfl⟩ := mem_map.1 hflag
  cases f <;> decide

theorem fieldStatesForDTO_known (fields : FMap String FieldState) :
    KnownFieldStates (fieldStatesForDTO fields) := by
  have hval : ∀ s : FieldState, s.toString ∈ Client.fieldStates := by
    intro s
    cases s <;> decide
  intro key hkey
  -- a stored state wins over the default, which every key has
  unfold fieldStatesForDTO
  rw [get_overlay, get_map]
  cases hget : fields.get key with
  | some s => exact ⟨s.toString, hval s, rfl⟩
  | none =>
    refine ⟨FieldState.missing.toString, hval _, ?_⟩
    simp only [mem_cons, not_mem_nil, or_false] at hkey
    rcases hkey with rfl | rfl | rfl <;> rfl

theorem summarizeAlerts_count_nonneg (alerts : List AlertState) : 0 ≤ (summarizeAlerts alerts).2 := by
  unfold summarizeAlerts
  induction alerts using List.reverseRecOn with
  | nil => exact le_refl _
  | append_singleton alerts alert ih =>
    rw [foldl_append, foldl_cons, foldl_nil]
    generalize alerts.foldl summarizeAlert (.normal, 0) = acc at ih ⊢
    unfold summarizeAlert
    repeat' split
    all_goals first
      | exact ih
      | dsimp only
        omega

section

variable (device : Device) (deviceState : DeviceState) (alerts : List AlertState)
  (promStatus : PrometheusStatus)

theorem normalizeDeviceRuntimeDTO_known :
    KnownDevice (normalizeDeviceRuntimeDTO device deviceState alerts promStatus) := by
  unfold normalizeDeviceRuntimeDTO
  split
  · -- every field is a constant
    refine ⟨UUID.toString_ne_empty _, ?_, ?_, by simp, fieldStatesForDTO_known ∅, ?_, ?_, ?_, ?_,
      ?_, ?_, ?_, ?_, ?_, le_refl _⟩
    all_goals
      dsimp only
      decide
  · split
    all_goals refine ⟨UUID.toString_ne_empty _, normalizeOperationalStatus_mem _ _ _,
      primaryHealthForDTO_mem _, runtimeFlagsForDTO_mem _, fieldStatesForDTO_known _,
      reachabilityEvidenceForDTO_mem _, ?_, normalizeDeviceReachability_mem _, healthForDTO_mem _,
      Freshness.toString_mem _, NormalizedReason.toString_mem _, ?_, ?_,
      AlertStatus.toString_mem _, summarizeAlerts_count_nonneg _⟩
    · dsimp only [normalizeVirtualWithIPDeviceRuntimeDTO]
      decide
    · dsimp only [normalizeVirtualWithIPDeviceRuntimeDTO]
      decide
    · exact NormalizedReason.toString_mem .unmonitored
    · exact reachabilityEvidenceForDTO_mem _
    · exact normalizeDeviceMetricsStatus_mem _ _ _ _
    · exact NormalizedReason.toString_mem _

theorem normalizeDeviceRuntimeDTO_flags :
    (normalizeDeviceRuntimeDTO device deviceState alerts promStatus).deviceID = device.id.toString ∧
      (normalizeDeviceRuntimeDTO device deviceState alerts promStatus).runtimeFlags ≠ none := by
  unfold normalizeDeviceRuntimeDTO
  split
  · exact ⟨rfl, Option.some_ne_none _⟩
  · split <;> exact ⟨rfl, Option.some_ne_none _⟩

end

theorem normalizeLinkRuntimeDTO_known (link : Link) (metric : Option LinkMetrics)
    (sourceRuntime targetRuntime : DeviceRuntimeDTO) :
    KnownLink (normalizeLinkRuntimeDTO link metric sourceRuntime targetRuntime) where
  linkID := UUID.toString_ne_empty _
  sourceDeviceID := UUID.toString_ne_empty _
  targetDeviceID := UUID.toString_ne_empty _
  metricsStatus := by
    simp only [normalizeLinkRuntimeDTO, normalizeLinkMetricsStatus]
    repeat' split
    all_goals
      dsimp only
      decide
  metricsReason := NormalizedReason.toString_mem _

/-! ### What the client holds -/

/-- The record that the client keeps for a device: no flags for nil, and the three known field
states. -/
def clientDevice (dto : DeviceRuntimeDTO) : WireRecord :=
  ofList (deviceRuntimeFields
    { cloneDeviceRuntimeDTO dto with fieldStates := clientFieldStates dto.fieldStates })

/-- The record that the client keeps for a link. -/
def clientLink (dto : LinkRuntimeDTO) : WireRecord := ofList (linkRuntimeFields dto)

/-- What the client keeps of a snapshot. -/
def SnapshotPayload.client (snapshot : SnapshotPayload) : RuntimeRecords where
  devices := snapshot.devices.map fun _ dto => clientDevice dto
  links := snapshot.links.map fun _ dto => clientLink dto

/-- A snapshot with the records of a delta in place of its own. -/
def SnapshotPayload.overlay (snapshot delta : SnapshotPayload) : SnapshotPayload where
  devices := snapshot.devices.overlay delta.devices
  links := snapshot.links.overlay delta.links

theorem SnapshotPayload.client_ext {a b : SnapshotPayload}
    (hdevices : ∀ id, (a.devices.get id).map clientDevice = (b.devices.get id).map clientDevice)
    (hlinks : ∀ id, (a.links.get id).map clientLink = (b.links.get id).map clientLink) :
    a.client = b.client := by
  rw [RuntimeRecords.mk.injEq]
  exact ⟨FMap.ext hdevices, FMap.ext hlinks⟩

/-! ### Devices -/

/-- The fields of a device record after the identifier; `flags` are those of `current`. -/
def deviceRows (current previous : DeviceRuntimeDTO) (flags : List String) :
    List (String × FieldRow) :=
  let enum (key : String) (allowed : List String) (f : DeviceRuntimeDTO → String) :=
    (key, plainRow (readRequiredEnum allowed) (.str (f previous)) (.str (f current))
      (addString key (f current) (f previous)).2)
  let text (key : String) (f : DeviceRuntimeDTO → Option String) :=
    (key, plainRow readRequiredNullableString (wireStringPtr (f previous))
      (wireStringPtr (f current)) (addStringPtr key (f current) (f previous)).2)
  let number (key : String) (f : DeviceRuntimeDTO → Option ℚ) :=
    (key, plainRow readRequiredNullableNumber (wireFloatPtr (f previous))
      (wireFloatPtr (f current)) (addFloatPtr key (f current) (f previous)).2)
  [enum "operational_status" operationalStatuses (·.operationalStatus),
    enum "primary_health" primaryHealthStates (·.primaryHealth),
    ("runtime_flags",
      { read := readRuntimeFlags, readPatch := readRuntimeFlagsPatch, wire := .strs flags
        change := if stringSliceRuntimeEqual (some flags) previous.runtimeFlags then none
          else some (.strs flags)
        previous := .strs (previous.runtimeFlags.getD []), current := .strs flags }),
    ("field_states",
      { read := readFieldStates, readPatch := readFieldStates, wire := .strMap current.fieldStates
        change := if validRuntimeFieldStates current.fieldStates &&
            !stringMapRuntimeEqual current.fieldStates previous.fieldStates then
          some (.strMap current.fieldStates) else none
        previous := .strMap (clientFieldStates previous.fieldStates)
        current := .strMap (clientFieldStates current.fieldStates) }),
    enum "network_reachable" reachabilityEvidenceStates (·.networkReachable),
    enum "snmp_reachable" reachabilityEvidenceStates (·.snmpReachable),
    enum "reachability" reachabilityStatuses (·.reachability),
    enum "health" healthStatuses (·.health),
    enum "freshness" freshnessStatuses (·.freshness),
    enum "primary_reason" runtimeReasons (·.primaryReason),
    enum "metrics_status" metricsStatuses (·.metricsStatus),
    enum "metrics_reason" runtimeReasons (·.metricsReason),
    enum "alert_status" alertStatuses (·.alertStatus),
    ("firing_alert_count", plainRow readRequiredCount (.num previous.firingAlertCount)
      (.num current.firingAlertCount)
      (addInt "firing_alert_count" current.firingAlertCount previous.firingAlertCount).2),
    text "last_collected_at" (·.lastCollectedAt),
    text "last_polled_at" (·.lastPolledAt),
    number "expected_poll_interval_seconds" (·.expectedPollIntervalSeconds),
    number "cpu_percent" (·.cpuPercent),
    number "mem_percent" (·.memPercent),
    number "temp_celsius" (·.tempCelsius),
    number "uptime_secs" (·.uptimeSecs)]

theorem deviceRows_ok {current previous : DeviceRuntimeDTO} (hc : KnownDevice current)
    {flags : List String} (hflags : current.runtimeFlags.getD [] = flags) :
    ∀ x ∈ deviceRows current previous flags, x.2.OK := by
  have hmem : ∀ flag ∈ flags, flag ∈ Client.runtimeFlags := hflags ▸ hc.runtimeFlags
  simp only [deviceRows, forall_mem_cons, not_mem_nil, false_implies, implies_true, and_true]
  exact ⟨enumRow_ok _ hc.operationalStatus (by decide), enumRow_ok _ hc.primaryHealth (by decide),
    flagsRow_ok hmem, fieldStatesRow_ok hc.fieldStates,
    enumRow_ok _ hc.networkReachable (by decide), enumRow_ok _ hc.snmpReachable (by decide),
    enumRow_ok _ hc.reachability (by decide), enumRow_ok _ hc.health (by decide),
    enumRow_ok _ hc.freshness (by decide), enumRow_ok _ hc.primaryReason (by decide),
    enumRow_ok _ hc.metricsStatus (by decide), enumRow_ok _ hc.metricsReason (by decide),
    enumRow_ok _ hc.alertStatus (by decide), countRow_ok _ _ _ hc.firingAlertCount,
    stringPtrRow_ok _ _ _, stringPtrRow_ok _ _ _, floatPtrRow_ok _ _ _, floatPtrRow_ok _ _ _,
    floatPtrRow_ok _ _ _, floatPtrRow_ok _ _ _, floatPtrRow_ok _ _ _⟩

theorem deviceRows_keys (current previous : DeviceRuntimeDTO) (flags : List String) :
    ∀ x ∈ deviceRows current previous flags, x.1 ≠ "device_id" := by
  simp [deviceRows]

theorem parseDeviceRuntime_client {dto : DeviceRuntimeDTO} (h : KnownDevice dto) :
    parseDeviceRuntime (ofList (deviceRuntimeFields (cloneDeviceRuntimeDTO dto))) =
      some (clientDevice dto) := by
  have hall : ∀ x ∈ ("device_id", idRow dto.deviceID) ::
      deviceRows dto dto (dto.runtimeFlags.getD []), x.2.OK :=
    forall_mem_cons.2 ⟨idRow_ok h.deviceID, deviceRows_ok h rfl⟩
  exact readAll_rows hall

theorem buildDeviceRuntimePatch_spec {current previous : DeviceRuntimeDTO}
    (hc : KnownDevice current) (hflags : current.runtimeFlags ≠ none)
    (hid : previous.deviceID = current.deviceID) :
    RecordPatch "device_id" current.deviceID parseDeviceRuntimePatch (clientDevice previous)
      (clientDevice current) (buildDeviceRuntimePatch current previous) := by
  obtain ⟨flags, hf⟩ := Option.ne_none_iff_exists'.1 hflags
  have hrows : ∀ x ∈ deviceRows current previous flags, x.2.OK :=
    deviceRows_ok hc (by rw [hf]; rfl)
  have h := patchOf_rows hc.deviceID hrows (deviceRows_keys current previous flags)
  have hprev : clientDevice previous = column FieldRow.previous
      (("device_id", idRow current.deviceID) :: deviceRows current previous flags) := by
    rw [← hid]
    rfl
  have hcur : clientDevice current = column FieldRow.current
      (("device_id", idRow current.deviceID) :: deviceRows current previous flags) := by
    unfold clientDevice cloneDeviceRuntimeDTO
    rw [hf]
    rfl
  have hchanges : deviceRuntimeChanges current previous =
      (deviceRows current previous flags).map fun kv => (kv.1, kv.2.change) := by
    unfold deviceRuntimeChanges
    rw [hf]
    rfl
  rw [hprev, hcur, buildDeviceRuntimePatch, hchanges]
  exact h

/-! ### Links -/

/-- The fields of a link record that a patch never carries. -/
def LinkRuntimeDTO.endpoints (dto : LinkRuntimeDTO) : String × String × String × String :=
  (dto.sourceDeviceID, dto.targetDeviceID, dto.sourceIfName, dto.targetIfName)

/-- The fields of a link record after the identifier. -/
def linkRows (current previous : LinkRuntimeDTO) : List (String × FieldRow) :=
  let fixed (key : String) (allowEmpty : Bool) (value : String) :=
    (key, plainRow (readRequiredString allowEmpty) (.str value) (.str value) none)
  let enum (key : String) (allowed : List String) (f : LinkRuntimeDTO → String) :=
    (key, plainRow (readRequiredEnum allowed) (.str (f previous)) (.str (f current))
      (addString key (f current) (f previous)).2)
  let number (key : String) (f : LinkRuntimeDTO → Option ℚ) :=
    (key, plainRow readRequiredNullableNumber (wireFloatPtr (f previous))
      (wireFloatPtr (f current)) (addFloatPtr key (f current) (f previous)).2)
  [fixed "source_device_id" false current.sourceDeviceID,
    fixed "target_device_id" false current.targetDeviceID,
    fixed "source_if_name" true current.sourceIfName,
    fixed "target_if_name" true current.targetIfName,
    enum "metrics_status" linkMetricsStatuses (·.metricsStatus),
    enum "metrics_reason" runtimeReasons (·.metricsReason),
    ("last_collected_at", plainRow readRequiredNullableString
      (wireStringPtr previous.lastCollectedAt) (wireStringPtr current.lastCollectedAt)
      (addStringPtr "last_collected_at" current.lastCollectedAt previous.lastCollectedAt).2),
    number "tx_bps" (·.txBps),
    number "rx_bps" (·.rxBps),
    number "utilization" (·.utilization)]

theorem linkRows_ok {current previous : LinkRuntimeDTO} (hc : KnownLink current) :
    ∀ x ∈ linkRows current previous, x.2.OK := by
  simp only [linkRows, forall_mem_cons, not_mem_nil, false_implies, implies_true, and_true]
  exact ⟨fixedRow_ok (by simp [hc.sourceDeviceID]), fixedRow_ok (by simp [hc.targetDeviceID]),
    fixedRow_ok rfl, fixedRow_ok rfl, enumRow_ok _ hc.metricsStatus (by decide),
    enumRow_ok _ hc.metricsReason (by decide), stringPtrRow_ok _ _ _, floatPtrRow_ok _ _ _,
    floatPtrRow_ok _ _ _, floatPtrRow_ok _ _ _⟩

theorem linkRows_keys (current previous : LinkRuntimeDTO) :
    ∀ x ∈ linkRows current previous, x.1 ≠ "link_id" := by
  simp [linkRows]

theorem parseLinkRuntime_client {dto : LinkRuntimeDTO} (h : KnownLink dto) :
    parseLinkRuntime (ofList (linkRuntimeFields dto)) = some (clientLink dto) := by
  have hall : ∀ x ∈ ("link_id", idRow dto.linkID) :: linkRows dto dto, x.2.OK :=
    forall_mem_cons.2 ⟨idRow_ok h.linkID, linkRows_ok h⟩
  exact readAll_rows hall

theorem patchOf_cons_none {idKey id key : String} {changes : List (String × Option WireValue)}
    (hid : key ≠ idKey) (hkey : ∀ x ∈ changes, x.1 ≠ key) :
    patchOf idKey id ((key, none) :: changes) = patchOf idKey id changes := by
  have hmap : (ofList ((idKey, some (WireValue.str id)) :: (key, none) :: changes)).filterMap
      (fun _ value => value) =
      (ofList ((idKey, some (WireValue.str id)) :: changes)).filterMap
        fun _ value => value := by
    ext k : 1
    rw [get_filterMap, get_filterMap, get_ofList, get_ofList]
    by_cases hk : key = k
    · have hlater : changes.filter (fun kv => kv.1 = k) = [] :=
        filter_eq_nil_iff.2 fun x hx => by simpa [hk] using hkey x hx
      simp [hk, hlater, hk ▸ hid.symm]
    · simp [filter_cons, hk]
  unfold patchOf
  rw [hmap]
  rfl

theorem buildLinkRuntimePatch_spec {current previous : LinkRuntimeDTO}
    (hc : KnownLink current) (hid : previous.linkID = current.linkID)
    (hends : previous.endpoints = current.endpoints) :
    RecordPatch "link_id" current.linkID parseLinkRuntimePatch (clientLink previous)
      (clientLink current) (buildLinkRuntimePatch current previous) := by
  have hrows : ∀ x ∈ linkRows current previous, x.2.OK := linkRows_ok hc
  have h := patchOf_rows hc.linkID hrows (linkRows_keys current previous)
  simp only [LinkRuntimeDTO.endpoints, Prod.mk.injEq] at hends
  obtain ⟨hsource, htarget, hsourceIf, htargetIf⟩ := hends
  have hprev : clientLink previous = column FieldRow.previous
      (("link_id", idRow current.linkID) :: linkRows current previous) := by
    unfold clientLink linkRuntimeFields
    rw [hid, hsource, htarget, hsourceIf, htargetIf]
    rfl
  -- the endpoint fields are in the table, but never in the patch
  have hchanges : patchOf "link_id" current.linkID (linkRuntimeChanges current previous) =
      patchOf "link_id" current.linkID
        ((linkRows current previous).map fun kv => (kv.1, kv.2.change)) := by
    show _ = patchOf "link_id" current.linkID (("source_device_id", none) ::
      ("target_device_id", none) :: ("source_if_name", none) :: ("target_if_name", none) ::
      linkRuntimeChanges current previous)
    rw [patchOf_cons_none, patchOf_cons_none, patchOf_cons_none, patchOf_cons_none]
    all_goals simp [linkRuntimeChanges, addString, addStringPtr, addFloatPtr]
  rw [hprev, buildLinkRuntimePatch, hchanges]
  exact h

/-! ### Payloads -/

/-- Every record is stored under its identifier and holds known values. -/
structure KnownSnapshot (snapshot : SnapshotPayload) : Prop where
  devices : ∀ id dto, snapshot.devices.get id = some dto → dto.deviceID = id ∧ KnownDevice dto
  links : ∀ id dto, snapshot.links.get id = some dto → dto.linkID = id ∧ KnownLink dto

/-- Every entity of the delta is in the snapshot, and links keep their endpoints. -/
structure CoveredBy (delta previous : SnapshotPayload) : Prop where
  devices : ∀ id dto, delta.devices.get id = some dto → ∃ prev, previous.devices.get id = some prev
  links : ∀ id dto, delta.links.get id = some dto →
    ∃ prev, previous.links.get id = some prev ∧ prev.endpoints = dto.endpoints

theorem parse_client {snapshot : SnapshotPayload} (h : KnownSnapshot snapshot) :
    parseSnapshotPayload (cloneSnapshot (some snapshot)).toWire = some snapshot.client := by
  have hdevices : parseSection "device_id" parseDeviceRuntime
      (snapshot.devices.map fun _ dto => ofList (deviceRuntimeFields
        (cloneDeviceRuntimeDTO dto))) = some snapshot.client.devices := by
    apply parseSection_map
    intro id dto hdto
    obtain ⟨hid, hknown⟩ := h.devices id dto hdto
    refine ⟨parseDeviceRuntime_client hknown, ?_⟩
    rw [← hid]
    exact get_ofList_cons_self (by simp)
  have hlinks : parseSection "link_id" parseLinkRuntime
      (snapshot.links.map fun _ dto => ofList (linkRuntimeFields dto)) =
      some snapshot.client.links := by
    apply parseSection_map
    intro id dto hdto
    obtain ⟨hid, hknown⟩ := h.links id dto hdto
    refine ⟨parseLinkRuntime_client hknown, ?_⟩
    rw [← hid]
    exact get_ofList_cons_self (by simp)
  have hwire : (cloneSnapshot (some snapshot)).toWire.devices = snapshot.devices.map fun _ dto =>
      ofList (deviceRuntimeFields (cloneDeviceRuntimeDTO dto)) := by
    ext id : 1
    show Option.map _ (Option.map _ _) = Option.map _ _
    rw [Option.map_map]
    rfl
  rw [parseSnapshotPayload, hwire, hdevices]
  show (parseSection "link_id" parseLinkRuntime
    (snapshot.links.map fun _ dto => ofList (linkRuntimeFields dto))).bind _ = _
  rw [hlinks]
  rfl

/-- A payload patch takes the client from one state to another; without one they are the same. -/
def PayloadPatch (previous current : RuntimeRecords) : Option RuntimeDeltaPayload → Prop
  | none => current = previous
  | some patch => ∃ parsed, parseRuntimePatchPayload (cloneRuntimeDeltaPayload (some patch)) =
      some parsed ∧ mergeRuntimeDeltaPatch previous parsed = current

theorem buildRuntimeDeltaPatch_spec {delta previous : SnapshotPayload} (hd : KnownSnapshot delta)
    (hflags : ∀ id dto, delta.devices.get id = some dto → dto.runtimeFlags ≠ none)
    (hp : KnownSnapshot previous) (hcov : CoveredBy delta previous) :
    PayloadPatch previous.client (previous.overlay delta).client
      (buildRuntimeDeltaPatch (some delta) (some previous)) := by
  have hdevices : ∀ id cur, delta.devices.get id = some cur →
      ∃ prev, previous.devices.get id = some prev ∧
        RecordPatch "device_id" id parseDeviceRuntimePatch (clientDevice prev) (clientDevice cur)
          (buildDeviceRuntimePatch cur prev) := by
    intro id cur hcur
    obtain ⟨hid, hknown⟩ := hd.devices id cur hcur
    obtain ⟨prev, hprev⟩ := hcov.devices id cur hcur
    have hsame : prev.deviceID = cur.deviceID := by rw [(hp.devices id prev hprev).1, hid]
    exact ⟨prev, hprev, hid ▸ buildDeviceRuntimePatch_spec hknown (hflags id cur hcur) hsame⟩
  have hlinks : ∀ id cur, delta.links.get id = some cur →
      ∃ prev, previous.links.get id = some prev ∧
        RecordPatch "link_id" id parseLinkRuntimePatch (clientLink prev) (clientLink cur)
          (buildLinkRuntimePatch cur prev) := by
    intro id cur hcur
    obtain ⟨hid, hknown⟩ := hd.links id cur hcur
    obtain ⟨prev, hprev, hends⟩ := hcov.links id cur hcur
    have hsame : prev.linkID = cur.linkID := by rw [(hp.links id prev hprev).1, hid]
    exact ⟨prev, hprev, hid ▸ buildLinkRuntimePatch_spec hknown hsame hends⟩
  obtain ⟨devices, hdparse, hdmerge⟩ := parseSection_patch {} hdevices
  obtain ⟨links, hlparse, hlmerge⟩ := parseSection_patch {} hlinks
  have hmerge : mergeRuntimeDeltaPatch previous.client { devices, links } =
      (previous.overlay delta).client := by
    show RuntimeRecords.mk _ _ = RuntimeRecords.mk _ _
    rw [RuntimeRecords.mk.injEq]
    exact ⟨hdmerge, hlmerge⟩
  unfold buildRuntimeDeltaPatch
  dsimp
  split
  · -- both sections of the patch are empty, so the client has nothing to merge
    rename_i hempty
    rw [Bool.and_eq_true] at hempty
    rw [eq_empty_of_isEmpty hempty.1] at hdparse
    rw [eq_empty_of_isEmpty hempty.2] at hlparse
    cases hdparse.symm.trans parseSection_empty
    cases hlparse.symm.trans parseSection_empty
    rw [← hmerge]
    show _ = previous.client
    simp [mergeRuntimeDeltaPatch]
  · refine ⟨{ devices, links }, ?_, hmerge⟩
    simp only [parseRuntimePatchPayload, cloneRuntimeDeltaPayload, hdparse, hlparse]
    rfl

/-- The records are those of the normalizers, each under its identifier. -/
structure Normalized (snapshot : SnapshotPayload) : Prop where
  devices : ∀ id dto, snapshot.devices.get id = some dto →
    ∃ device deviceState alerts promStatus, id = device.id.toString ∧
      dto = normalizeDeviceRuntimeDTO device deviceState alerts promStatus
  links : ∀ id dto, snapshot.links.get id = some dto →
    ∃ link metric sourceRuntime targetRuntime, id = link.id.toString ∧
      dto = normalizeLinkRuntimeDTO link metric sourceRuntime targetRuntime

theorem Normalized.known {snapshot : SnapshotPayload} (h : Normalized snapshot) :
    KnownSnapshot snapshot where
  devices id dto hdto := by
    obtain ⟨device, deviceState, alerts, promStatus, rfl, rfl⟩ := h.devices id dto hdto
    exact ⟨(normalizeDeviceRuntimeDTO_flags _ _ _ _).1, normalizeDeviceRuntimeDTO_known _ _ _ _⟩
  links id dto hdto := by
    obtain ⟨link, metric, sourceRuntime, targetRuntime, rfl, rfl⟩ := h.links id dto hdto
    exact ⟨rfl, normalizeLinkRuntimeDTO_known _ _ _ _⟩

theorem Normalized.flags {snapshot : SnapshotPayload} (h : Normalized snapshot) {id : String}
    {dto : DeviceRuntimeDTO} (hdto : snapshot.devices.get id = some dto) :
    dto.runtimeFlags ≠ none := by
  obtain ⟨device, deviceState, alerts, promStatus, -, rfl⟩ := h.devices id dto hdto
  exact (normalizeDeviceRuntimeDTO_flags device deviceState alerts promStatus).2

theorem Normalized.overlay {snapshot delta : SnapshotPayload} (h : Normalized snapshot)
    (hd : Normalized delta) : Normalized (snapshot.overlay delta) where
  devices id dto hdto := by
    rcases get_overlay_eq_some hdto with hdto | hdto
    · exact hd.devices id dto hdto
    · exact h.devices id dto hdto
  links id dto hdto := by
    rcases get_overlay_eq_some hdto with hdto | hdto
    · exact hd.links id dto hdto
    · exact h.links id dto hdto

/-- The client holds for an entity what it would hold for the record of the delta. -/
def Agrees (delta previous : SnapshotPayload) : Prop :=
  (∀ id dto, delta.devices.get id = some dto →
      previous.client.devices.get id = some (clientDevice dto)) ∧
    ∀ id dto, delta.links.get id = some dto → previous.client.links.get id = some (clientLink dto)

/-- A device, and the snapshot that has only its record. -/
def soloDevice : Device := { id := 7#128, ip := "10.0.0.7", managed := true }

def soloSnapshot (deviceState : DeviceState) : SnapshotPayload where
  devices := ofList [(soloDevice.id.toString,
    normalizeDeviceRuntimeDTO soloDevice deviceState [] {})]

theorem soloSnapshot_normalized (deviceState : DeviceState) :
    Normalized (soloSnapshot deviceState) where
  devices id dto hdto := by
    have hmem := mem_of_get_ofList hdto
    rw [mem_singleton, Prod.mk.injEq] at hmem
    exact ⟨soloDevice, deviceState, [], {}, hmem⟩
  links id dto hdto := nomatch hdto

end Theia
