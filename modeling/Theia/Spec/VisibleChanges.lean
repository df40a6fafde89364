import Theia.Spec.ChangeChannel
import Theia.Spec.ChangeDetection
import Theia.Spec.DirtyDelta

/-!
# Visible changes are announced

The store announces a device when its state compares as changed, and the monitor announces alerts
when their messages differ. A client sees records that other code builds from the same data. The two
views agree on an operation as long as it does not end the wait for a first poll unnoticed, does not
report two readings for one link, and does not change the Prometheus status of a device that has no
metrics without it.
-/

namespace Theia

open List FMap

/-! ### Alerts -/

/-- The alerts of a device are stored under it. -/
def GroupedAlerts (alerts : FMap UUID (List Alert)) : Prop :=
  ∀ id group, alerts.get id = some group →
    id ≠ UUID.nil ∧ ∀ alert ∈ group, alert.deviceID = UUID.nil ∨ alert.deviceID = id

/-- The alerts that the messages tell about a device. -/
def messagesOf (id : UUID) (messages : List AlertDTO) : List AlertState :=
  (messages.filter fun message => message.deviceID = id.toString).map fun message =>
    ⟨message.severity, message.state⟩

theorem summarizeAlert_comm (acc : AlertStatus × Int) (a b : AlertState) :
    summarizeAlert (summarizeAlert acc a) b = summarizeAlert (summarizeAlert acc b) a := by
  unfold summarizeAlert
  split_ifs <;> simp_all

theorem summarizeAlerts_perm {a b : List AlertState} (h : a.Perm b) :
    summarizeAlerts a = summarizeAlerts b := by
  have : RightCommutative summarizeAlert := ⟨summarizeAlert_comm⟩
  exact h.foldl_eq _

/-- The severities of the alerts that fire for the server, in any spelling of their state. -/
def firingSeverities (alerts : List AlertState) : List String :=
  (alerts.filter fun alert => equalFold alert.state "firing").map (·.severity)

/-- The status that the server gives to the severities of the firing alerts. -/
def serverStatus (severities : List String) : AlertStatus :=
  if severities.any (equalFold · "critical") then .down
  else if severities = [] then .normal
  else .degraded

/-- The status that the client gives to them. -/
def clientStatus (severities : List String) : AlertStatus :=
  if severities.any (· = "critical") then .down
  else if severities.any (· = "warning") then .degraded
  else .normal

/-- The loop of `summarizeAlerts` counts the firing alerts and takes the worst severity. -/
theorem summarizeAlerts_eq (alerts : List AlertState) : summarizeAlerts alerts =
    (serverStatus (firingSeverities alerts), ((firingSeverities alerts).length : Int)) := by
  unfold firingSeverities serverStatus
  induction alerts using List.reverseRecOn with
  | nil => rfl
  | append_singleton alerts alert ih =>
    have hstep : summarizeAlerts (alerts ++ [alert]) =
        summarizeAlert (summarizeAlerts alerts) alert := foldl_append
    rw [hstep, ih, filter_append]
    unfold summarizeAlert
    cases hfiring : equalFold alert.state "firing" with
    | false => simp [hfiring]
    | true =>
      cases hcritical : equalFold alert.severity "critical" with
      | true => simp [hfiring, hcritical]
      | false =>
        simp [hfiring, hcritical]
        split <;> simp_all

/-- The client reads the alerts as the server does: a firing alert says so in the spelling of the
client, and if one fires, then one has the severity `critical` in that spelling, or one has the severity
`warning` and none is critical in another spelling. -/
structure ReadAlike (alerts : List AlertState) : Prop where
  states : ∀ alert ∈ alerts, equalFold alert.state "firing" = true → alert.state = "firing"
  severities : firingSeverities alerts = [] ∨ "critical" ∈ firingSeverities alerts ∨
    "warning" ∈ firingSeverities alerts ∧
      ∀ severity ∈ firingSeverities alerts, equalFold severity "critical" = false

/-- When the server and the client give the same status to the same severities. -/
theorem status_eq_client_iff (severities : List String) :
    serverStatus severities = clientStatus severities ↔ severities = [] ∨ "critical" ∈ severities ∨
      "warning" ∈ severities ∧ ∀ severity ∈ severities, equalFold severity "critical" = false := by
  unfold serverStatus clientStatus
  by_cases hcritical : "critical" ∈ severities
  · have hserver : severities.any (equalFold · "critical") = true :=
      any_eq_true.2 ⟨_, hcritical, by decide⟩
    simp [hserver, hcritical]
  by_cases hfolds : severities.any (equalFold · "critical") = true
  · -- a critical alert in another spelling, which the client ranks lower
    obtain ⟨severity, hmem, hfold⟩ := any_eq_true.1 hfolds
    have hnot : ¬∀ severity ∈ severities, equalFold severity "critical" = false :=
      fun h => absurd (h severity hmem) (by simp [hfold])
    have hclient : severities.any (· = "critical") = false := by
      rw [any_eq_false]
      intro severity hmem heq
      exact hcritical (of_decide_eq_true heq ▸ hmem)
    rw [if_pos hfolds, hclient]
    simp only [hcritical, ne_nil_of_mem hmem, hnot, and_false, or_false, iff_false]
    split
    · contradiction
    · split <;> simp
  · have hall : ∀ severity ∈ severities, equalFold severity "critical" = false := by
      simpa using hfolds
    by_cases hempty : severities = []
    · simp [hempty]
    · by_cases hwarning : "warning" ∈ severities
      · simp [hfolds, hempty, hcritical, hwarning]
        exact hall
      · simp [hfolds, hempty, hcritical, hwarning]

section
variable {id : UUID} {alerts : List Alert} (hid : ∀ alert ∈ alerts, alert.deviceID = id)
include hid

/-- The client takes the firing alerts that have its spelling. -/
theorem activeAlerts_eq : Client.activeAlerts id.toString (alerts.map Alert.toDTO) =
    ((alerts.filter fun alert => equalFold alert.state "firing").filter
      (·.state = "firing")).map Alert.toDTO := by
  unfold Client.activeAlerts
  rw [filter_map, filter_filter]
  congr 1
  apply filter_congr
  intro alert halert
  by_cases hstate : alert.state = "firing"
  · simp [Alert.toDTO, hid alert halert, hstate]
    decide
  · simp [Alert.toDTO, hstate]

/-- The two sides count the same alerts exactly if every firing one has the client's spelling. -/
theorem activeAlerts_length_iff :
    (firingSeverities (alerts.map (·.toAlertState))).length =
        (Client.activeAlerts id.toString (alerts.map Alert.toDTO)).length ↔
      ∀ alert ∈ alerts, equalFold alert.state "firing" = true → alert.state = "firing" := by
  rw [activeAlerts_eq hid, firingSeverities, filter_map, length_map, length_map, length_map, eq_comm]
  show (filter _ (filter (fun alert : Alert => equalFold alert.state "firing") alerts)).length =
    (filter (fun alert : Alert => equalFold alert.state "firing") alerts).length ↔ _
  rw [length_filter_eq_length_iff]
  simp

theorem summarizeAlerts_eq_client_iff : summarizeAlerts (alerts.map (·.toAlertState)) =
    (Client.alertStatusForDevice id.toString (alerts.map Alert.toDTO),
      ((Client.activeAlerts id.toString (alerts.map Alert.toDTO)).length : Int)) ↔
    ReadAlike (alerts.map (·.toAlertState)) := by
  have hcount := activeAlerts_length_iff hid
  have hstatus : (∀ alert ∈ alerts, equalFold alert.state "firing" = true → alert.state = "firing") →
      Client.alertStatusForDevice id.toString (alerts.map Alert.toDTO) =
        clientStatus (firingSeverities (alerts.map (·.toAlertState))) := by
    intro hstates
    have hsame : (alerts.filter fun alert => equalFold alert.state "firing").filter
        (·.state = "firing") = alerts.filter fun alert => equalFold alert.state "firing" := by
      rw [filter_eq_self]
      intro alert halert
      obtain ⟨hmem, hfires⟩ := mem_filter.1 halert
      simpa using hstates alert hmem hfires
    simp only [Client.alertStatusForDevice, activeAlerts_eq hid, hsame, clientStatus,
      firingSeverities, filter_map, any_map]
    rfl
  rw [summarizeAlerts_eq, Prod.mk.injEq, Nat.cast_inj, hcount]
  constructor
  · rintro ⟨hfirst, hstates⟩
    rw [hstatus hstates, status_eq_client_iff] at hfirst
    exact ⟨by simpa using hstates, hfirst⟩
  · rintro ⟨hstates, hseverities⟩
    have hstates : ∀ alert ∈ alerts, equalFold alert.state "firing" = true →
        alert.state = "firing" := by simpa using hstates
    rw [hstatus hstates, status_eq_client_iff]
    exact ⟨hseverities, hstates⟩

/-- The client derives the status and the count of the server exactly if it reads the alerts alike.
The same holds for the runtime record, except that the record of a virtual device without an address
never has alerts, so there the client has to see none. -/
theorem alert_status_agrees (device : Device) (deviceState : DeviceState)
    (promStatus : PrometheusStatus) :
    let status := Client.alertStatusForDevice id.toString (alerts.map Alert.toDTO)
    let active := Client.activeAlerts id.toString (alerts.map Alert.toDTO)
    let dto := normalizeDeviceRuntimeDTO device deviceState (alerts.map (·.toAlertState)) promStatus
    (summarizeAlerts (alerts.map (·.toAlertState)) = (status, (active.length : Int)) ↔
      ReadAlike (alerts.map (·.toAlertState))) ∧
    (dto.alertStatus = status.toString ∧ dto.firingAlertCount = active.length ↔
      if isVirtualNoIPDevice device then active = [] else ReadAlike (alerts.map (·.toAlertState))) := by
  intro status active dto
  have hclient := summarizeAlerts_eq_client_iff hid
  refine ⟨hclient, ?_⟩
  by_cases hvirtual : isVirtualNoIPDevice device = true
  · have hfields : dto.alertStatus = AlertStatus.normal.toString ∧ dto.firingAlertCount = 0 := by
      simp only [dto, normalizeDeviceRuntimeDTO, if_pos hvirtual, and_self]
    rw [hfields.1, hfields.2, if_pos hvirtual]
    constructor
    · rintro ⟨-, hcount⟩
      exact length_eq_zero_iff.1 (by omega)
    · intro hnone
      have hnormal : status = .normal := by
        show (if active.any _ then _ else if active.any _ then _ else _) = _
        rw [hnone]
        rfl
      simp [hnormal, hnone]
  · obtain ⟨hstatus, hcount⟩ := normalizeDeviceRuntimeDTO_alertFields hvirtual deviceState promStatus
      (alerts.map (·.toAlertState))
    rw [if_neg hvirtual, ← hclient, Prod.ext_iff]
    show dto.alertStatus = _ ∧ dto.firingAlertCount = _ ↔ _
    rw [hstatus, hcount, AlertStatus.toString_injective.eq_iff]

end

/-- A critical alert, and one with a severity that the client does not know. -/
def twoAlerts : List Alert :=
  [{ deviceID := 7#128, severity := "critical", state := "firing" },
    { deviceID := 7#128, severity := "info", state := "firing" }]

theorem alert_status_agrees_two :
    summarizeAlerts (twoAlerts.map (·.toAlertState)) =
        (Client.alertStatusForDevice (UUID.toString 7#128) (twoAlerts.map Alert.toDTO), 2) := by
  have hid : ∀ alert ∈ twoAlerts, alert.deviceID = 7#128 := by decide
  have halike : ReadAlike (twoAlerts.map (·.toAlertState)) := ⟨by decide, by decide⟩
  exact (alert_status_agrees hid {} {} {}).1.2 halike

/-- A firing alert with another severity is a degraded device for the server and nothing for the
client. -/
theorem alert_status_differs :
    let alert : Alert := { deviceID := 7#128, severity := "info", state := "firing" }
    summarizeAlerts [alert.toAlertState] = (.degraded, 1) ∧
      Client.alertStatusForDevice (UUID.toString 7#128) [alert.toDTO] = .normal := by
  decide +kernel

theorem flatMap_ite_of_nodup {α : Type} {order : List UUID} (h : order.Nodup) (id : UUID)
    (group : List α) :
    (order.flatMap fun key => if key = id then group else []) =
      if id ∈ order then group else [] := by
  induction order with
  | nil => rfl
  | cons key rest ih =>
    rw [nodup_cons] at h
    rw [flatMap_cons, ih h.2]
    by_cases hkey : key = id
    · subst hkey
      simp [h.1]
    · have hne : id ≠ key := fun heq => hkey heq.symm
      simp [hkey, hne]

section Messages

variable {sortAlerts : List Alert → List Alert} {alerts : FMap UUID (List Alert)}
  {order : List UUID} {id : UUID}

theorem flattenAlerts_filter (hgrouped : GroupedAlerts alerts) (horder : alerts.Enumerates order)
    (hid : id ≠ UUID.nil) :
    ((flattenAlerts order alerts).filter fun alert => alert.deviceID = id).map (·.toAlertState) =
      (getZero alerts [] id).map (·.toAlertState) := by
  have hgroup : ∀ key ∈ order,
      (((getZero alerts [] key).map fun alert =>
        if alert.deviceID = UUID.nil then { alert with deviceID := key } else alert).filter
          fun alert => alert.deviceID = id).map (·.toAlertState) =
      if key = id then (getZero alerts [] id).map (·.toAlertState) else [] := by
    intro key hkey
    obtain ⟨group, hgroup⟩ := mem_dom_iff_exists.1 ((horder.2 key).1 hkey)
    obtain ⟨-, howner⟩ := hgrouped key group hgroup
    rw [getZero, hgroup, Option.getD_some]
    -- every alert of the group belongs to its key once it is flattened
    have hflat : ∀ alert ∈ group,
        (if alert.deviceID = UUID.nil then { alert with deviceID := key } else alert).deviceID =
          key := by
      intro alert halert
      split_ifs with hne
      · rfl
      · exact (howner alert halert).resolve_left hne
    by_cases hkeyID : key = id
    · subst hkeyID
      rw [if_pos rfl, getZero, hgroup, Option.getD_some, filter_eq_self.2, map_map]
      · apply map_congr_left
        intro alert _
        simp only [Function.comp_apply]
        split <;> rfl
      · intro alert halert
        obtain ⟨stored, hstored, rfl⟩ := mem_map.1 halert
        exact decide_eq_true (hflat stored hstored)
    · rw [if_neg hkeyID, map_eq_nil_iff, filter_eq_nil_iff]
      intro alert halert
      obtain ⟨stored, hstored, rfl⟩ := mem_map.1 halert
      simp only [hflat stored hstored, decide_eq_true_eq]
      exact hkeyID
  unfold flattenAlerts
  rw [filter_flatMap, map_flatMap, flatMap_congr hgroup, flatMap_ite_of_nodup horder.1]
  split_ifs with hnot
  · rfl
  · have hnone : alerts.get id = none := get_eq_none_iff.2 fun hdom => hnot ((horder.2 id).2 hdom)
    rw [getZero, hnone]
    rfl

section

variable (hsort : ∀ alerts, (sortAlerts alerts).Perm alerts) (hgrouped : GroupedAlerts alerts)
include hsort hgrouped

theorem messagesOf_perm (horder : alerts.Enumerates order) (hid : id ≠ UUID.nil) :
    (messagesOf id (PipelineInputs.alertsToDTOs sortAlerts (flattenAlerts order alerts))).Perm
      ((getZero alerts [] id).map (·.toAlertState)) := by
  rw [← flattenAlerts_filter hgrouped horder hid]
  unfold messagesOf PipelineInputs.alertsToDTOs
  rw [filter_map, map_map, filter_filter]
  have hfilter : ∀ alert : Alert,
      (((fun message : AlertDTO => decide (message.deviceID = id.toString)) ∘ Alert.toDTO) alert &&
        decide (alert.deviceID ≠ UUID.nil)) = decide (alert.deviceID = id) := by
    intro alert
    simp only [Function.comp_apply, Alert.toDTO, UUID.toString_inj]
    by_cases heq : alert.deviceID = id
    · simp [heq, hid]
    · simp [heq]
  simp only [hfilter]
  exact ((hsort _).filter _).map _

/-- Alerts with the same messages are shown alike. -/
theorem summarizeAlerts_eq_of_messages {alerts' : FMap UUID (List Alert)} {order' : List UUID}
    (hgrouped' : GroupedAlerts alerts')
    (horder : alerts.Enumerates order) (horder' : alerts'.Enumerates order')
    (heq : PipelineInputs.alertsToDTOs sortAlerts (flattenAlerts order alerts) =
      PipelineInputs.alertsToDTOs sortAlerts (flattenAlerts order' alerts')) (id : UUID) :
    summarizeAlerts ((getZero alerts [] id).map (·.toAlertState)) =
      summarizeAlerts ((getZero alerts' [] id).map (·.toAlertState)) := by
  by_cases hid : id = UUID.nil
  · -- nothing is stored under the nil ID
    have hnone : ∀ m, GroupedAlerts m → m.get id = none := by
      intro m hm
      cases hget : m.get id with
      | none => rfl
      | some group => exact absurd hid (hm id group hget).1
    rw [getZero, getZero, hnone alerts hgrouped, hnone alerts' hgrouped']
  · have h := messagesOf_perm hsort hgrouped horder hid
    have h' := messagesOf_perm hsort hgrouped' horder' hid
    rw [heq] at h
    exact summarizeAlerts_perm (h.symm.trans h')

end

end Messages

/-! ### What an operation may do -/

namespace PipelineInputs

open ChangeChannel

/-- What a client sees of the full snapshot of these rows, apart from times. -/
def visible (lower : Char → Char) (s : PipelineInputs) (devices : List Device) (links : List Link) :
    SnapshotPayload :=
  (buildPipelineSnapshot lower (s.overviewInputs devices links)).untimed

/-- The times of an update: it has a time, and if the device still waits for its first poll, then
the update says when to expect the next one. A static update does not end the wait. -/
structure TimesKnown (prev : Option StoredState) (u : StateUpdate) : Prop where
  timestamp : u.setsPolled = true → Time.isZero u.timestamp = false
  collected : ∀ metrics, u.staticMetrics = some metrics → Time.isZero metrics.collectedAt = false
  interval : ∀ ds, prev = some ds → Time.isZero ds.lastPolledAt = true → u.setsPolled = true →
    0 < u.expectedInterval
  waiting : ∀ ds, prev = some ds → ds.awaitsPoll = true → u.staticMetrics = none

/-- At most one of the readings belongs to a link. -/
def OneReading (lower : Char → Char) (devices : List Device) (links : List Link) (u : StateUpdate) :
    Prop :=
  ∀ link ∈ links, (buildDeviceLinkMetrics lower
    (FMap.getZero (devicesByID devices) {} u.deviceID) [link] u.linkMetrics).length ≤ 1

instance (lower : Char → Char) (devices : List Device) (links : List Link) (u : StateUpdate) :
    Decidable (OneReading lower devices links u) := by
  unfold OneReading
  infer_instance

/-- The operations whose visible changes are announced. The iteration orders are those of a loop
over a map. -/
def Announceable (lower : Char → Char) (devices : List Device) (links : List Link)
    (s : PipelineInputs) : Op → Prop
  | .store (.update u) =>
    TimesKnown (s.store.devices.get u.deviceID) u ∧ OneReading lower devices links u
  | .store (.remove _) => True
  | .store (.markStale _ order) => s.store.devices.Enumerates order
  | .setAlerts next previousOrder nextOrder => GroupedAlerts next ∧
      s.alerts.Enumerates previousOrder ∧ next.Enumerates nextOrder
  | .publishStatus status => ∀ device ∈ devices,
      isPrometheusBlocked device (FMap.getZero s.store.snapshot {} device.id) status =
        isPrometheusBlocked device (FMap.getZero s.store.snapshot {} device.id) s.promStatus
  | .receiveChanges | .consumeOverflowed | .receiveAlert => True

/-- The notification that an operation leaves: the devices that it changed are carried by the
change channel, or the alert notification is pending. -/
def Announced (s : PipelineInputs) (op : Op) (s' : PipelineInputs) : Prop :=
  match op with
  | .store (.update u) => s'.store.changes.Carries u.deviceID
  | .store (.remove id) => s'.store.changes.Carries id
  | .store (.markStale now _) =>
    (∃ id ds, s.store.devices.get id = some ds ∧ StateStore.expired now ds = true) ∧
      ∀ id ds, s.store.devices.get id = some ds → StateStore.expired now ds = true →
        s'.store.changes.Carries id
  | .setAlerts _ _ _ => s'.alertNotify = true
  | .publishStatus _ | .receiveChanges | .consumeOverflowed | .receiveAlert => False

/-- Only set flags are stored, and a device that was not polled has no expected interval. -/
def Kept (ds : StoredState) : Prop :=
  OnlySet ds.runtimeFlags ∧ (Time.isZero ds.lastPolledAt = true → ds.expectedInterval = 0)

/-- What holds of the inputs after every operation. -/
structure Keeps (s : PipelineInputs) : Prop where
  stored : ∀ id ds, s.store.devices.get id = some ds → Kept ds
  alerts : GroupedAlerts s.alerts

section Step

variable {lower : Char → Char} {sortSlice : List LinkMetrics → List LinkMetrics}
  {sortAlerts : List Alert → List Alert} {devices : List Device} {links : List Link}
  {s : PipelineInputs}

theorem Keeps.getZero (h : s.Keeps) (id : UUID) : Kept (FMap.getZero s.store.devices {} id) := by
  unfold FMap.getZero
  cases hget : s.store.devices.get id with
  | none =>
    refine ⟨?_, fun _ => rfl⟩
    intro flag value hflag
    cases hflag
  | some ds => exact h.stored id ds hget

theorem Keeps.nextState (h : s.Keeps) {u : StateUpdate}
    (htimes : u.setsPolled = true → Time.isZero u.timestamp = false) (id : UUID) (existed : Bool) :
    Kept (nextState (FMap.getZero s.store.devices {} id) existed u) := by
  obtain ⟨hflags, hinterval⟩ := h.getZero id
  refine ⟨(nextState_keepsReadings _ existed u).flags hflags, ?_⟩
  intro hzero
  rcases nextState_times (FMap.getZero s.store.devices {} id) existed u with
    ⟨hsets, hpolled, -⟩ | ⟨-, hkept⟩
  · rw [hpolled, htimes hsets] at hzero
    cases hzero
  have hpolled := congrArg PollTimes.polled hkept
  have hsame := congrArg PollTimes.interval hkept
  dsimp only [StoredState.times] at hpolled hsame
  rw [hpolled] at hzero
  rw [hsame]
  exact hinterval hzero

/-- Every operation keeps the invariant. -/
theorem step_keeps (h : s.Keeps) {op : Op} (hok : s.Announceable lower devices links op) :
    (s.step sortSlice sortAlerts op).Keeps := by
  cases op with
  | store op =>
    refine ⟨fun id ds hget => ?_, h.alerts⟩
    obtain ⟨u, rfl, rfl, -, rfl⟩ | ⟨-, old, hold, rfl | rfl⟩ := StateStore.step_get hget
    · exact h.nextState hok.1.timestamp u.deviceID _
    · exact h.stored id ds hold
    · exact h.stored id old hold
  | setAlerts next previousOrder nextOrder => exact ⟨h.stored, hok.1⟩
  | publishStatus | receiveChanges | consumeOverflowed | receiveAlert => exact ⟨h.stored, h.alerts⟩

/-! ### What a client sees -/

/-- Two states of a device that a client cannot tell apart. -/
structure Alike (lower : Char → Char) (devices : List Device) (links : List Link) (id : UUID)
    (a b : DeviceState) : Prop where
  state : b = a.retime b.lastPolledAt b.metrics.collectedAt b.linkMetrics
  polled : Time.isZero b.lastPolledAt = Time.isZero a.lastPolledAt
  awaits : b.awaitsPoll = a.awaitsPoll
  readings : ∀ link ∈ links,
    (buildDeviceLinkMetrics lower (FMap.getZero (devicesByID devices) {} id) [link]
        a.linkMetrics).map LinkMetrics.untimed =
      (buildDeviceLinkMetrics lower (FMap.getZero (devicesByID devices) {} id) [link]
        b.linkMetrics).map LinkMetrics.untimed

theorem Alike.refl (id : UUID) (a : DeviceState) : Alike lower devices links id a a :=
  ⟨rfl, rfl, rfl, fun _ _ => rfl⟩

theorem getZero_snapshot (store : StateStore) (id : UUID) :
    FMap.getZero store.snapshot {} id = (FMap.getZero store.devices {} id).toDeviceState :=
  getZero_map StoredState.toDeviceState store.devices {} id

theorem visible_eq_of_alike {s' : PipelineInputs} (halerts : s'.alerts = s.alerts)
    (hstatus : s'.promStatus = s.promStatus)
    (halike : ∀ id, Alike lower devices links id (FMap.getZero s.store.snapshot {} id)
      (FMap.getZero s'.store.snapshot {} id)) :
    s'.visible lower devices links = s.visible lower devices links := by
  symm
  refine snapshot_untimed_congr (i := s.overviewInputs devices links)
    (j := s'.overviewInputs devices links) rfl rfl ?_ ?_
  · intro device _
    have hdevice := halike device.id
    show (normalizeDeviceRuntimeDTO device _ _ s.promStatus).untimed =
      (normalizeDeviceRuntimeDTO device (FMap.getZero s'.store.snapshot {} device.id) _
        s'.promStatus).untimed
    rw [hdevice.state, untimed_retime device _ _ hdevice.polled (hdevice.state ▸ hdevice.awaits),
      hstatus]
    show _ = (normalizeDeviceRuntimeDTO device _ (FMap.getZero (s'.alerts.map _) [] device.id)
      _).untimed
    rw [halerts]
    rfl
  · intro link hlink
    exact ⟨(halike link.sourceDeviceID).readings link hlink,
      (halike link.targetDeviceID).readings link hlink⟩

section

variable (hsort : ∀ metrics, (sortSlice metrics).Perm metrics) (h : s.Keeps)
include hsort h

theorem alike_nextState
    {u : StateUpdate} {prev : StoredState} (hprev : s.store.devices.get u.deviceID = some prev)
    (htimes : TimesKnown (some prev) u) (hone : OneReading lower devices links u)
    (heq : deviceStateEqual sortSlice prev (nextState prev true u) = true) :
    Alike lower devices links u.deviceID prev.toDeviceState
      (nextState prev true u).toDeviceState := by
  obtain ⟨hstate, hlinks⟩ := retime_of_deviceStateEqual heq (h.stored _ prev hprev).1
  have hinterval : (nextState prev true u).expectedInterval = prev.expectedInterval := by
    have := congrArg DeviceState.expectedInterval hstate
    exact this
  suffices hpolls : Time.isZero (nextState prev true u).lastPolledAt =
        Time.isZero prev.lastPolledAt ∧ (nextState prev true u).awaitsPoll = prev.awaitsPoll by
    refine ⟨hstate, hpolls.1, hpolls.2, fun link hlink => ?_⟩
    rcases (nextState_keepsReadings prev true u).linkMetrics with hkept | hstored
    · rw [hkept]
    · rw [hstored] at hlinks ⊢
      exact linkMetrics_untimed_eq hsort hlinks _ link (hone link hlink)
  rcases nextState_times prev true u with ⟨hsets, hpolled, hnext⟩ | ⟨-, hkept⟩
  · -- the update sets the poll time, so the device was polled before: else its interval changes
    have hbefore : Time.isZero prev.lastPolledAt = false := by
      by_contra hzero
      rw [Bool.not_eq_false] at hzero
      have hpos := htimes.interval prev rfl hzero hsets
      have hold := (h.stored _ prev hprev).2 hzero
      rw [hinterval, hold, nextInterval, if_pos hpos] at hnext
      exact absurd hnext hpos.ne
    have hafter : Time.isZero (nextState prev true u).lastPolledAt = false := by
      rw [hpolled]
      exact htimes.timestamp hsets
    refine ⟨hafter.trans hbefore.symm, ?_⟩
    unfold DeviceState.awaitsPoll
    rw [hafter, hbefore]
    rfl
  · have hpolled : (nextState prev true u).lastPolledAt = prev.lastPolledAt :=
      congrArg PollTimes.polled hkept
    have hcollected : (nextState prev true u).metrics.collectedAt =
        (u.staticMetrics.map (·.collectedAt)).getD prev.metrics.collectedAt :=
      congrArg PollTimes.collected hkept
    refine ⟨congrArg Time.isZero hpolled, ?_⟩
    unfold DeviceState.awaitsPoll
    rw [hpolled, hcollected]
    cases hstatic : u.staticMetrics with
    | none => rfl
    | some metrics =>
      -- static metrics come with a time, and not to a device that waits for a poll
      have hawaits : prev.awaitsPoll = false := by
        by_contra hwaiting
        rw [Bool.not_eq_false] at hwaiting
        rw [htimes.waiting prev rfl hwaiting] at hstatic
        cases hstatic
      have htime := htimes.collected metrics hstatic
      unfold DeviceState.awaitsPoll at hawaits
      rw [hawaits, Option.map_some, Option.getD_some, htime, Bool.and_false]

theorem update_announced {u : StateUpdate}
    (hok : s.Announceable lower devices links (.store (.update u)))
    (hvisible : (s.step sortSlice sortAlerts (.store (.update u))).visible lower devices links ≠
      s.visible lower devices links) :
    (s.step sortSlice sortAlerts (.store (.update u))).store.changes.Carries u.deviceID := by
  obtain ⟨htimes, hone⟩ := hok
  revert hvisible
  show PipelineInputs.visible lower { s with store := s.store.update sortSlice u } devices links ≠
    _ → (s.store.update sortSlice u).changes.Carries u.deviceID
  unfold StateStore.update
  split
  · exact fun hvisible => absurd rfl hvisible
  dsimp only
  split
  · intro _
    exact emitChanges_carries mem_cons_self
  rename_i hchanged
  intro hvisible
  apply absurd _ hvisible
  -- the device has a state, and it compares as unchanged
  simp only [Bool.or_eq_true, Bool.not_eq_true', not_or, Bool.not_eq_false] at hchanged
  obtain ⟨hexisted, heq⟩ := hchanged
  obtain ⟨prev, hprev⟩ := Option.isSome_iff_exists.1 hexisted
  have hzero := getZero_eq hprev {}
  rw [hzero, hexisted] at heq
  rw [hprev] at htimes
  have hnext := alike_nextState hsort h hprev htimes hone heq
  refine visible_eq_of_alike ?_ ?_ ?_
  · rfl
  · rfl
  intro id
  rw [getZero_snapshot, getZero_snapshot]
  by_cases hid : id = u.deviceID
  · subst hid
    rw [hzero, hexisted, getZero_eq (get_insert_self _ _ _)]
    exact hnext
  · rw [FMap.getZero, FMap.getZero, get_insert_ne _ _ hid]
    exact Alike.refl id _

end

theorem setAlerts_announced (hsort : ∀ alerts, (sortAlerts alerts).Perm alerts) (h : s.Keeps)
    {next : FMap UUID (List Alert)} {previousOrder nextOrder : List UUID}
    (hok : s.Announceable lower devices links (.setAlerts next previousOrder nextOrder))
    (hvisible : (s.setAlerts sortAlerts next previousOrder nextOrder).visible lower devices links ≠
      s.visible lower devices links) :
    (s.setAlerts sortAlerts next previousOrder nextOrder).alertNotify = true := by
  obtain ⟨hgrouped, hprevious, hnext⟩ := hok
  by_contra hsilent
  apply hvisible
  have heq : alertsToDTOs sortAlerts (flattenAlerts previousOrder s.alerts) =
      alertsToDTOs sortAlerts (flattenAlerts nextOrder next) := by
    by_contra hne
    apply hsilent
    show (s.alertNotify || decide _) = true
    rw [decide_eq_true hne, Bool.or_true]
  have hsame := summarizeAlerts_eq_of_messages hsort h.alerts hgrouped hprevious hnext heq
  have hgroup (alerts : FMap UUID (List Alert)) (id : UUID) :
      FMap.getZero (alerts.map fun _ group => group.map (·.toAlertState)) [] id =
        (FMap.getZero alerts [] id).map (·.toAlertState) := getZero_map _ alerts [] id
  symm
  refine snapshot_untimed_congr (i := s.overviewInputs devices links)
    (j := (s.setAlerts sortAlerts next previousOrder nextOrder).overviewInputs devices links)
    rfl rfl ?_ ?_
  · intro device _
    apply congrArg DeviceRuntimeDTO.untimed
    apply normalizeDeviceRuntimeDTO_congr
    show summarizeAlerts (FMap.getZero (s.alerts.map _) [] device.id) =
      summarizeAlerts (FMap.getZero (next.map _) [] device.id)
    rw [hgroup, hgroup]
    exact hsame device.id
  · intro link _
    exact ⟨rfl, rfl⟩

theorem normalizeDeviceRuntimeDTO_status (device : Device) (ds : DeviceState)
    (alerts : List AlertState) {status status' : PrometheusStatus}
    (h : isPrometheusBlocked device ds status = isPrometheusBlocked device ds status') :
    normalizeDeviceRuntimeDTO device ds alerts status =
      normalizeDeviceRuntimeDTO device ds alerts status' := by
  unfold normalizeDeviceRuntimeDTO normalizeDevicePrimaryReason normalizeDeviceMetricsStatus
  rw [h]

theorem publishStatus_invisible {status : PrometheusStatus}
    (hok : s.Announceable lower devices links (.publishStatus status)) :
    (s.publishStatus status).visible lower devices links = s.visible lower devices links := by
  symm
  refine snapshot_untimed_congr (i := s.overviewInputs devices links)
    (j := (s.publishStatus status).overviewInputs devices links) rfl rfl ?_ ?_
  · intro device hdevice
    exact congrArg DeviceRuntimeDTO.untimed
      (normalizeDeviceRuntimeDTO_status device _ _ (hok device hdevice).symm)
  · intro link _
    exact ⟨rfl, rfl⟩

theorem markStale_announced {now : Time} {order : List UUID}
    (hok : s.Announceable lower devices links (.store (.markStale now order)))
    (hvisible : (s.step sortSlice sortAlerts (.store (.markStale now order))).visible lower
      devices links ≠ s.visible lower devices links) :
    s.Announced (.store (.markStale now order))
      (s.step sortSlice sortAlerts (.store (.markStale now order))) := by
  constructor
  · -- without an expired device the states stay as they are
    by_contra hnone
    push Not at hnone
    apply hvisible
    have hdevices : (s.store.markStale now order).devices = s.store.devices := by
      apply FMap.ext
      intro id
      show (s.store.devices.map _).get id = _
      rw [get_map]
      cases hget : s.store.devices.get id with
      | none => rfl
      | some ds =>
        rw [Option.map_some, if_neg (hnone id ds hget)]
    refine visible_eq_of_alike ?_ ?_ ?_
    · rfl
    · rfl
    intro id
    rw [getZero_snapshot, getZero_snapshot]
    show Alike lower devices links id _
      (FMap.getZero (s.store.markStale now order).devices {} id).toDeviceState
    rw [hdevices]
    exact Alike.refl id _
  · intro id ds hget hexpired
    apply emitChanges_carries
    have hmem : id ∈ order := (hok.2 id).2 (mem_dom_of_get hget)
    refine mem_filter.2 ⟨hmem, ?_⟩
    rw [hget]
    exact hexpired

/-- An operation that changes what a client sees announces it. -/
theorem step_announced (hsortSlice : ∀ metrics, (sortSlice metrics).Perm metrics)
    (hsortAlerts : ∀ alerts, (sortAlerts alerts).Perm alerts) (h : s.Keeps) {op : Op}
    (hok : s.Announceable lower devices links op)
    (hvisible : (s.step sortSlice sortAlerts op).visible lower devices links ≠
      s.visible lower devices links) :
    s.Announced op (s.step sortSlice sortAlerts op) := by
  cases op with
  | store op =>
    cases op with
    | update u => exact update_announced hsortSlice h hok hvisible
    | remove id =>
      revert hvisible
      show PipelineInputs.visible lower { s with store := s.store.remove id } devices links ≠ _ →
        (s.store.remove id).changes.Carries id
      unfold StateStore.remove
      split
      · intro _
        exact emitChanges_carries mem_cons_self
      · exact fun hvisible => absurd rfl hvisible
    | markStale now order => exact markStale_announced hok hvisible
  | setAlerts next previousOrder nextOrder => exact setAlerts_announced hsortAlerts h hok hvisible
  | publishStatus status => exact hvisible (publishStatus_invisible hok)
  | receiveChanges | consumeOverflowed | receiveAlert => exact hvisible rfl

end Step

/-! ### Runs -/

theorem keeps_start (promStatus : PrometheusStatus) : Keeps { promStatus := promStatus } := by
  constructor
  · intro id ds hget
    cases hget
  · intro id group hget
    cases hget

/-- In every run of announceable operations, an operation that changes what a client sees of the
full snapshot, apart from times, leaves a notification for the broadcast loop. -/
theorem visible_changes_announced {lower : Char → Char}
    {sortSlice : List LinkMetrics → List LinkMetrics} {sortAlerts : List Alert → List Alert}
    {devices : List Device} {links : List Link} {promStatus : PrometheusStatus} {s : PipelineInputs}
    {ops : List Op} {op : Op}
    (hsortSlice : ∀ metrics, (sortSlice metrics).Perm metrics)
    (hsortAlerts : ∀ alerts, (sortAlerts alerts).Perm alerts)
    (hrun : Run (· = ({ promStatus := promStatus } : PipelineInputs))
      (ActStep (step sortSlice sortAlerts) (Announceable lower devices links)) s ops)
    (hok : s.Announceable lower devices links op)
    (hvisible : (s.step sortSlice sortAlerts op).visible lower devices links ≠
      s.visible lower devices links) :
    s.Announced op (s.step sortSlice sortAlerts op) := by
  have hkeeps : s.Keeps := hrun.act_invariant (keeps_start promStatus) fun s op h hok =>
    step_keeps h hok
  exact step_announced hsortSlice hsortAlerts hkeeps hok hvisible

/-- `less` of the sorts in `linkMetricsEqual`. -/
def linkMetricLess (a b : LinkMetrics) : Bool :=
  if a.ifName ≠ b.ifName then a.ifName < b.ifName else a.linkID < b.linkID

/-- `less` of the sort in `AlertsToDTOs`. -/
def alertLess (a b : Alert) : Bool :=
  if a.deviceID ≠ b.deviceID then a.deviceID.toString < b.deviceID.toString
  else if a.severity ≠ b.severity then a.severity < b.severity
  else if a.alertName ≠ b.alertName then a.alertName < b.alertName
  else a.summary < b.summary

/-- A sort with these orders. -/
def sortMetrics : List LinkMetrics → List LinkMetrics :=
  List.insertionSort fun a b => linkMetricLess b a = false

def sortMessages : List Alert → List Alert := List.insertionSort fun a b => alertLess b a = false

/-- A switch that depends on Prometheus. -/
def switch : Device :=
  { id := 7#128, ip := "10.0.0.7", managed := true, metricsSource := .prometheus
    interfaces := [⟨"eth0", "uplink", 0⟩] }

def switchUplink : Link := ⟨9#128, 7#128, "eth0", 8#128, "eth1"⟩

def pollUp (timestamp : Time) : StateUpdate :=
  { deviceID := 7#128, expectedInterval := 30 * second, timestamp := timestamp
    essential := some { networkReachable := .true } }

def pollDown (timestamp : Time) : StateUpdate :=
  { pollUp timestamp with essential := some { networkReachable := .false } }

theorem timesKnown_poll {prev : Option StoredState} {u : StateUpdate}
    (hsets : u.essential.isSome = true) (htime : Time.isZero u.timestamp = false)
    (hinterval : 0 < u.expectedInterval) : TimesKnown prev u := by
  have hstatic : u.staticMetrics = none := by
    obtain ⟨essential, hessential⟩ := Option.isSome_iff_exists.1 hsets
    simp [StateUpdate.staticMetrics, hessential]
  refine ⟨fun _ => htime, ?_, fun _ _ _ _ => hinterval, fun _ _ _ => hstatic⟩
  intro metrics hmetrics
  rw [hstatic] at hmetrics
  cases hmetrics

/-- The switch after its first poll. -/
def polledInputs : PipelineInputs :=
  ({} : PipelineInputs).step sortMetrics sortMessages (.store (.update (pollUp (100 * second))))

/-- What a client sees as the reachability of the switch. -/
def shownReachability (s : PipelineInputs) : Option String :=
  ((s.visible Char.toLower [switch] [switchUplink]).devices.get switch.id.toString).map
    (·.reachability)

theorem visible_changes_announced_down :
    polledInputs.Announced (.store (.update (pollDown (130 * second))))
      (polledInputs.step sortMetrics sortMessages (.store (.update (pollDown (130 * second))))) := by
  have hup : polledInputs.Announceable Char.toLower [switch] [switchUplink]
      (.store (.update (pollDown (130 * second)))) :=
    ⟨timesKnown_poll rfl (by decide +kernel) (by decide +kernel), by decide +kernel⟩
  have hfirst : Announceable Char.toLower [switch] [switchUplink] {}
      (.store (.update (pollUp (100 * second)))) :=
    ⟨timesKnown_poll rfl (by decide +kernel) (by decide +kernel), by decide +kernel⟩
  have hrun := Run.of_ops (show OkAlong (step sortMetrics sortMessages)
    (Announceable Char.toLower [switch] [switchUplink]) ({} : PipelineInputs)
    [.store (.update (pollUp (100 * second)))] from ⟨hfirst, True.intro⟩)
  apply visible_changes_announced (perm_insertionSort _) (perm_insertionSort _) hrun hup
  intro heq
  have hshown : shownReachability (polledInputs.step sortMetrics sortMessages
      (.store (.update (pollDown (130 * second))))) = shownReachability polledInputs :=
    congrArg (fun seen => (seen.devices.get switch.id.toString).map (·.reachability)) heq
  revert hshown
  decide +kernel

/-- After these operations the last one changes what a client sees, and nothing is pending. -/
def Silent {α : Type} (ops : List Op) (op : Op) (shown : SnapshotPayload → α) : Prop :=
  let s := ops.foldl (step sortMetrics sortMessages) {}
  let s' := s.step sortMetrics sortMessages op
  shown (s'.visible Char.toLower [switch] [switchUplink]) ≠
      shown (s.visible Char.toLower [switch] [switchUplink]) ∧
    s'.store.changes = {} ∧ s'.alertNotify = false

instance {α : Type} [DecidableEq α] (ops : List Op) (op : Op) (shown : SnapshotPayload → α) :
    Decidable (Silent ops op shown) := inferInstanceAs (Decidable (_ ∧ _))

/-- A static poll of the switch. -/
def staticPoll : StateUpdate :=
  { deviceID := 7#128, volatilityClass := .static, pollSuccess := true
    expectedInterval := 30 * second, timestamp := 200 * second
    metrics := some { collectedAt := 200 * second } }

def operationalPoll : StateUpdate :=
  { deviceID := 7#128, volatilityClass := .operational, pollSuccess := true
    expectedInterval := 30 * second, timestamp := 100 * second }

/-- A poll that reads the uplink under both of its names. -/
def uplinkPoll (timestamp : Time) (readings : List LinkMetrics) : StateUpdate :=
  { deviceID := 7#128, volatilityClass := .performance, pollSuccess := true
    expectedInterval := 30 * second, timestamp := timestamp, linkMetrics := readings }

def byName : LinkMetrics := { ifName := "eth0", txBps := some 1 }

def byDescription : LinkMetrics := { ifName := "uplink", txBps := some 2 }

/-- Three operations that nobody hears of: Prometheus becomes unavailable, a static poll ends the
wait for the first poll, and the readings of a link come in another order. -/
theorem visible_changes_unannounced :
    Silent [] (.publishStatus { enabled := true })
        (fun seen => (seen.devices.get switch.id.toString).map (·.primaryReason)) ∧
      Silent [.store (.update operationalPoll), .receiveChanges] (.store (.update staticPoll))
        (fun seen => (seen.devices.get switch.id.toString).map (·.freshness)) ∧
      Silent [.store (.update (uplinkPoll (100 * second) [byName, byDescription])), .receiveChanges]
        (.store (.update (uplinkPoll (130 * second) [byDescription, byName])))
        (fun seen => (seen.links.get switchUplink.id.toString).map (·.txBps)) := by
  refine ⟨?_, ?_, ?_⟩
  · decide +kernel
  · decide +kernel
  · decide +kernel

end PipelineInputs

end Theia
