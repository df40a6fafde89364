import Theia.Native.StateStore

/-!
# One update of the state store

What `Store.Update` does to the state of its device, said once for every path through it: the fields
that tell how the device is doing, the times of the state, its readings and flags, and its health.
The laws of the store are derived from this.

Reachability, the failure count, the primary health and staleness change as a function of what a
poll says about the device, its `Evidence`, and of nothing else: they are a small machine, and an
update is one `observe` of it.
-/

namespace Theia

open FMap

/-! ### The health machine -/

/-- The fields of a device state that tell how the device is doing. -/
structure HealthView where
  reachability : ReachabilityStatus := .unset
  consecutiveFailures : Nat := 0
  primaryHealth : PrimaryHealth := .unset
  stale : Bool := false
  deriving DecidableEq

def StoredState.view (ds : StoredState) : HealthView where
  reachability := ds.reachability
  consecutiveFailures := ds.consecutiveFailures
  primaryHealth := ds.primaryHealth
  stale := ds.stale

/-- What a poll result says about its device. -/
inductive Evidence
  /-- An essential poll, with the network reachable. -/
  | reachable (snmpFailed : Bool)
  /-- An essential poll, with the network not reachable. -/
  | unreachable
  /-- An essential poll without network evidence. -/
  | inconclusive (snmpFailed : Bool)
  | performance
  /-- An operational poll. -/
  | operational (success : Bool)
  | static
  /-- An update without volatility class. -/
  | legacy (success : Bool)
  deriving DecidableEq

/-- The evidence of an update. -/
def StateUpdate.evidence (u : StateUpdate) : Evidence :=
  match u.essential with
  | some essential =>
    match essentialNetworkReachability essential with
    | .true => .reachable (essential.snmpReachable = .false)
    | .false => .unreachable
    | .unknown | .unset => .inconclusive (essential.snmpReachable = .false)
  | none =>
    match u.volatilityClass with
    | .performance => .performance
    | .operational => .operational u.pollSuccess
    | .static => .static
    | .unset => .legacy u.pollSuccess

/-- The network result that some evidence reports. -/
def Evidence.networkResult : Evidence → Option Bool
  | .reachable _ => some true
  | .unreachable => some false
  -- only a device that the network reaches answers SNMP
  | .operational success => if success then some true else none
  | .legacy success => some success
  | .inconclusive _ | .performance | .static => none

namespace HealthView

/-- One more failure. -/
def fail (v : HealthView) : HealthView :=
  { v with
    consecutiveFailures := v.consecutiveFailures + 1
    reachability := if 3 ≤ v.consecutiveFailures + 1 then .hardDown else .softDown }

/-- A device that is not down and sent no network evidence. -/
def settle (v : HealthView) (health : PrimaryHealth) : HealthView :=
  { v with
    consecutiveFailures := 0
    reachability := if v.reachability = .up then .up else .unknown
    primaryHealth := health }

/-- What evidence does to the view. -/
def observe (v : HealthView) : Evidence → HealthView
  | .reachable snmpFailed =>
    { reachability := .up
      consecutiveFailures := 0
      primaryHealth := if snmpFailed then .snmpDegraded else .upFresh
      stale := false }
  | .unreachable => { v.fail with primaryHealth := .unreachable, stale := false }
  | .inconclusive snmpFailed =>
    if isDownReachability v.reachability then
      { v with primaryHealth := .unreachable, stale := false }
    else { v.settle (if snmpFailed then .snmpDegraded else .probing) with stale := false }
  | .performance => { v with stale := false }
  | .operational success =>
    if success then { v with reachability := .up, consecutiveFailures := 0 }
    else if isDownReachability v.reachability then { v with primaryHealth := .unreachable }
    else v.settle .snmpDegraded
  | .static => v
  | .legacy success =>
    if success then { v with reachability := .up, consecutiveFailures := 0, stale := false }
    else { v.fail with stale := false }

/-- What a staleness tick does to the view of an expired device. -/
def expire (v : HealthView) : HealthView :=
  { v with
    stale := true
    primaryHealth := if v.primaryHealth = .upFresh then .upStale else v.primaryHealth }

end HealthView

/-! ### Health, times, readings and flags -/

/-- Health with the severities behind it. -/
structure HealthRecord where
  health : HealthStatus := .unknown
  cpuSeverity : MetricSeverity := .unset
  memSeverity : MetricSeverity := .unset
  tempSeverity : MetricSeverity := .unset
  deriving DecidableEq

/-- What a device state says about health; health that was never evaluated reads as unknown. -/
def StoredState.healthRecord (ds : StoredState) : HealthRecord where
  health := if ds.health = .unset then .unknown else ds.health
  cpuSeverity := ds.cpuSeverity
  memSeverity := ds.memSeverity
  tempSeverity := ds.tempSeverity

/-- A poll whose metrics are evaluated without a look at the reachability. -/
def StateUpdate.Unguarded (u : StateUpdate) : Prop :=
  u.essential = none ∧ u.volatilityClass = .performance ∧ u.pollSuccess = true ∧
    u.metrics.isSome = true
  deriving Decidable

/-- The update sets `LastPolledAt` and the expected interval. -/
def StateUpdate.setsPolled (u : StateUpdate) : Bool :=
  u.essential.isSome || u.volatilityClass = .performance || u.volatilityClass = .unset

/-- The metrics that a static update stores. -/
def StateUpdate.staticMetrics (u : StateUpdate) : Option DeviceMetrics :=
  if u.essential = none ∧ u.volatilityClass = .static ∧ u.pollSuccess = true then u.metrics else none

/-- The parts of a state that the change detection does not look at, or looks at for their values
only. -/
structure PollTimes where
  polled : Time
  collected : Time
  interval : Duration

def StoredState.times (ds : StoredState) : PollTimes :=
  ⟨ds.lastPolledAt, ds.metrics.collectedAt, ds.expectedInterval⟩

/-- The expected interval after an update that sets it. -/
def nextInterval (prev : Duration) (u : StateUpdate) : Duration :=
  if 0 < u.expectedInterval then u.expectedInterval else prev

/-- Only flags that are set are stored. -/
def OnlySet (flags : FMap RuntimeFlag Bool) : Prop :=
  ∀ flag value, flags.get flag = some value → value = true

theorem OnlySet.setFlag {flags : FMap RuntimeFlag Bool} (h : OnlySet flags) (flag : RuntimeFlag)
    (enabled : Bool) : OnlySet (setFlag flags flag enabled) := by
  unfold Theia.setFlag
  split
  · exact forall_get_insert rfl fun other value _ hget => h other value hget
  · exact fun other value hget => h other value (get_erase_eq_some.1 hget).2

theorem onlySet_cloneRuntimeFlags (flags : FMap RuntimeFlag Bool) :
    OnlySet (cloneRuntimeFlags flags) := by
  intro flag value hget
  unfold cloneRuntimeFlags at hget
  rw [get_filterMap] at hget
  obtain ⟨stored, -, hvalue⟩ := Option.bind_eq_some_iff.1 hget
  split at hvalue
  · exact (Option.some.inj hvalue).symm
  · cases hvalue

/-- An update keeps the link metrics or stores those that it reports, and it stores only flags that
are set. -/
structure KeepsReadings (prev next : StoredState) (u : StateUpdate) : Prop where
  linkMetrics : next.linkMetrics = prev.linkMetrics ∨ next.linkMetrics = u.linkMetrics
  flags : OnlySet prev.runtimeFlags → OnlySet next.runtimeFlags

/-! ### The paths of an update -/

/-- What an update makes of `base`, which is the state before it with or without the freshness of the
update. -/
structure UpdateEffect (base next : StoredState) (u : StateUpdate) (v : HealthView) : Prop
    extends KeepsReadings base next u where
  view : next.view = v
  polled : next.lastPolledAt = base.lastPolledAt
  interval : next.expectedInterval = base.expectedInterval
  collected : u.setsPolled = false → next.metrics.collectedAt =
    (u.staticMetrics.map (·.collectedAt)).getD base.metrics.collectedAt
  -- health is evaluated when the device is up afterwards, or by an unguarded poll
  frozen : ¬u.Unguarded → isDownReachability next.reachability = true →
    next.healthRecord = base.healthRecord

theorem not_up_of_isDown {reachability : ReachabilityStatus}
    (h : isDownReachability reachability = true) : reachability ≠ .up := by
  intro hup
  rw [hup] at h
  cases h

section Paths

variable (prev : StoredState) (existed : Bool) {u : StateUpdate}

open StateUpdate

theorem applyEssentialUpdate_effect {essential : EssentialUpdate} (h : u.essential = some essential) :
    UpdateEffect (applyFreshnessMetadata prev u) (applyEssentialUpdate prev u essential) u
      (prev.view.observe u.evidence) := by
  have hset := ((onlySet_cloneRuntimeFlags prev.runtimeFlags).setFlag .deadlineMissed
    essential.deadlineMissed).setFlag .overloaded essential.overloaded
  have hsets : u.setsPolled ≠ false := by simp [setsPolled, h]
  unfold applyEssentialUpdate StateUpdate.evidence applyNetworkEvidence
  rw [h]
  dsimp only
  cases essentialNetworkReachability essential
  all_goals simp only [HealthView.observe, decide_eq_true_eq]
  -- without network evidence the result depends on the reachability before
  case' unknown | unset =>
    show UpdateEffect _ _ u (if isDownReachability prev.reachability then _ else _)
    split
  all_goals
    exact ⟨⟨.inl rfl, fun _ => hset.setFlag _ _⟩, rfl, rfl, rfl, (absurd · hsets), fun _ _ => rfl⟩

theorem applyPerformanceUpdate_effect (hnone : u.essential = none)
    (hclass : u.volatilityClass = .performance) (next : StoredState) :
    UpdateEffect next (applyPerformanceUpdate next u) u next.view := by
  have hsets : u.setsPolled ≠ false := by simp [setsPolled, hclass]
  unfold applyPerformanceUpdate
  cases hsuccess : u.pollSuccess with
  | false => exact ⟨⟨.inl rfl, id⟩, rfl, rfl, rfl, (absurd · hsets), fun _ _ => rfl⟩
  | true =>
    cases hmetrics : u.metrics with
    | none =>
      by_cases hlinks : u.linkMetrics = []
      · rw [if_pos hlinks]
        exact ⟨⟨.inl rfl, id⟩, rfl, rfl, rfl, (absurd · hsets), fun _ _ => rfl⟩
      · rw [if_neg hlinks]
        exact ⟨⟨.inr rfl, id⟩, rfl, rfl, rfl, (absurd · hsets), fun _ _ => rfl⟩
    | some metrics =>
      have hunguarded : u.Unguarded := ⟨hnone, hclass, hsuccess, by rw [hmetrics]; rfl⟩
      by_cases hlinks : u.linkMetrics = []
      · rw [if_pos hlinks]
        exact ⟨⟨.inl rfl, id⟩, rfl, rfl, rfl, (absurd · hsets), fun h _ => absurd hunguarded h⟩
      · rw [if_neg hlinks]
        exact ⟨⟨.inr rfl, id⟩, rfl, rfl, rfl, (absurd · hsets), fun h _ => absurd hunguarded h⟩

theorem UpdateEffect.guarded {base next : StoredState} {v : HealthView}
    (h : UpdateEffect base next u v) :
    UpdateEffect base (if next.reachability = .up then evaluateHealth next else next) u v := by
  split_ifs with hup
  · exact { h with frozen := fun _ hdown => absurd hup (not_up_of_isDown hdown) }
  · exact h

theorem applyOperationalUpdate_effect (hclass : u.volatilityClass = .operational) :
    UpdateEffect prev (applyOperationalUpdate prev u) u
      (prev.view.observe (.operational u.pollSuccess)) := by
  have hstatic : u.staticMetrics = none := by simp [staticMetrics, hclass]
  have hnext : UpdateEffect prev (if !u.pollSuccess then applySNMPFailureOnlyUpdate prev prev
      else applyReachabilityUpdate { prev with snmpReachable := .true } prev u.pollSuccess) u
      (prev.view.observe (.operational u.pollSuccess)) := by
    cases u.pollSuccess with
    | true => exact ⟨⟨.inl rfl, id⟩, rfl, rfl, rfl, fun _ => by rw [hstatic]; rfl, fun _ _ => rfl⟩
    | false =>
      show UpdateEffect prev (if isDownReachability prev.reachability then _ else _) u
        (if isDownReachability prev.reachability then _ else _)
      split <;> exact ⟨⟨.inl rfl, id⟩, rfl, rfl, rfl, by simp [hstatic], fun _ _ => rfl⟩
  unfold applyOperationalUpdate
  cases u.metrics.bind DeviceMetrics.uptimeSecs with
  | none => exact hnext.guarded
  | some uptime => exact UpdateEffect.guarded { hnext with }

theorem applyStaticUpdate_effect (hnone : u.essential = none) (hclass : u.volatilityClass = .static)
    (next : StoredState) : UpdateEffect next (applyStaticUpdate next u) u next.view := by
  unfold applyStaticUpdate
  cases hmetrics : u.metrics with
  | none =>
    exact ⟨⟨.inl rfl, id⟩, rfl, rfl, rfl, fun _ => by simp [staticMetrics, hmetrics],
      fun _ _ => rfl⟩
  | some metrics =>
    cases hsuccess : u.pollSuccess with
    | false =>
      exact ⟨⟨.inl rfl, id⟩, rfl, rfl, rfl, fun _ => by simp [staticMetrics, hsuccess],
        fun _ _ => rfl⟩
    | true =>
      apply UpdateEffect.guarded
      refine ⟨⟨.inl rfl, id⟩, rfl, rfl, rfl, fun _ => ?_, fun _ _ => rfl⟩
      simp [staticMetrics, hnone, hclass, hsuccess, hmetrics, markMetricFieldStates]

theorem applyLegacyUpdate_effect (hclass : u.volatilityClass = .unset) :
    UpdateEffect (applyFreshnessMetadata prev u)
      (applyLegacyUpdate (applyFreshnessMetadata prev u) prev existed u) u
      (prev.view.observe (.legacy u.pollSuccess)) := by
  have hsets : u.setsPolled ≠ false := by simp [setsPolled, hclass]
  unfold applyLegacyUpdate
  cases u.pollSuccess with
  | false => exact ⟨⟨.inl rfl, id⟩, rfl, rfl, rfl, (absurd · hsets), fun _ _ => rfl⟩
  | true =>
    -- a success makes the device up
    dsimp only
    by_cases hlinks : u.linkMetrics = []
    · rw [if_pos hlinks]
      cases u.metrics <;> cases existed <;>
        exact ⟨⟨.inl rfl, id⟩, rfl, rfl, rfl, (absurd · hsets), nofun⟩
    · rw [if_neg hlinks]
      cases u.metrics <;> cases existed <;>
        exact ⟨⟨.inr rfl, id⟩, rfl, rfl, rfl, (absurd · hsets), nofun⟩

theorem applyUpdate_effect (u : StateUpdate) :
    ∃ base, (base = applyFreshnessMetadata prev u ∧ u.setsPolled = true ∨
        base = prev ∧ u.setsPolled = false) ∧
      UpdateEffect base (applyUpdate prev existed u) u (prev.view.observe u.evidence) := by
  unfold applyUpdate
  cases hessential : u.essential with
  | some essential =>
    have hsets : u.setsPolled = true := by simp [setsPolled, hessential]
    exact ⟨_, .inl ⟨rfl, hsets⟩, applyEssentialUpdate_effect prev hessential⟩
  | none =>
    unfold StateUpdate.evidence setsPolled
    rw [hessential]
    cases hclass : u.volatilityClass with
    | performance => exact ⟨_, .inl ⟨rfl, rfl⟩, applyPerformanceUpdate_effect hessential hclass _⟩
    | unset => exact ⟨_, .inl ⟨rfl, rfl⟩, applyLegacyUpdate_effect prev existed hclass⟩
    | operational => exact ⟨_, .inr ⟨rfl, rfl⟩, applyOperationalUpdate_effect prev hclass⟩
    | static => exact ⟨_, .inr ⟨rfl, rfl⟩, applyStaticUpdate_effect hessential hclass prev⟩

theorem applyUpdate_frozen (hguarded : u.Unguarded → isDownReachability prev.reachability = false)
    (hdown : isDownReachability (applyUpdate prev existed u).reachability = true) :
    (applyUpdate prev existed u).healthRecord = prev.healthRecord := by
  obtain ⟨base, hbase, heffect⟩ := applyUpdate_effect prev existed u
  have hunguarded : ¬u.Unguarded := by
    intro hu
    -- such a poll does not make the device down, so it was before
    have hview := congrArg HealthView.reachability heffect.view
    have hevidence : u.evidence = .performance := by simp [StateUpdate.evidence, hu.1, hu.2.1]
    rw [hevidence] at hview
    rw [show (applyUpdate prev existed u).reachability = prev.reachability from hview,
      hguarded hu] at hdown
    cases hdown
  rw [heffect.frozen hunguarded hdown]
  obtain ⟨rfl, -⟩ | ⟨rfl, -⟩ := hbase <;> rfl

/-- `Store.Update` writes unknown for health that was never evaluated, and changes nothing else. -/
theorem nextState_eq (prev : StoredState) (existed : Bool) (u : StateUpdate) :
    nextState prev existed u =
      { applyUpdate prev existed u with
        health := (applyUpdate prev existed u).healthRecord.health } := by
  unfold nextState StoredState.healthRecord
  dsimp only
  split <;> rfl

theorem nextState_view (u : StateUpdate) :
    (nextState prev existed u).view = prev.view.observe u.evidence := by
  obtain ⟨base, -, heffect⟩ := applyUpdate_effect prev existed u
  rw [nextState_eq]
  exact heffect.view

/-- What an update does to the times: an update of a poll sets them, a static one may set the
collection time, and an operational one leaves them alone. -/
theorem nextState_times (u : StateUpdate) :
    (u.setsPolled = true ∧ (nextState prev existed u).lastPolledAt = u.timestamp ∧
        (nextState prev existed u).expectedInterval = nextInterval prev.expectedInterval u) ∨
      (u.setsPolled = false ∧ (nextState prev existed u).times =
        { prev.times with
          collected := (u.staticMetrics.map (·.collectedAt)).getD prev.metrics.collectedAt }) := by
  obtain ⟨base, ⟨rfl, hsets⟩ | ⟨rfl, hsets⟩, heffect⟩ := applyUpdate_effect prev existed u
  all_goals rw [nextState_eq]
  · exact .inl ⟨hsets, heffect.polled, heffect.interval⟩
  · refine .inr ⟨hsets, ?_⟩
    simp [StoredState.times, heffect.polled, heffect.interval, heffect.collected hsets]

theorem nextState_keepsReadings (u : StateUpdate) :
    KeepsReadings prev (nextState prev existed u) u := by
  obtain ⟨base, hbase, heffect⟩ := applyUpdate_effect prev existed u
  rw [nextState_eq]
  obtain ⟨rfl, -⟩ | ⟨rfl, -⟩ := hbase <;> exact ⟨heffect.linkMetrics, heffect.flags⟩

end Paths

/-! ### One operation -/

theorem StateStore.step_get {sortSlice : List LinkMetrics → List LinkMetrics} {s : StateStore}
    {op : StoreOp} {id : UUID} {ds : StoredState}
    (h : (s.step sortSlice op).devices.get id = some ds) :
    (∃ u, op = .update u ∧ u.deviceID = id ∧ id ≠ UUID.nil ∧
        ds = nextState (getZero s.devices {} id) (s.devices.get id).isSome u) ∨
      ((∀ u, op = .update u → u.deviceID ≠ id ∨ id = UUID.nil) ∧
        ∃ old, s.devices.get id = some old ∧ (ds = old ∨ ds = staleState old)) := by
  cases op with
  | update u =>
    simp only [step, update] at h
    by_cases hnil : u.deviceID = UUID.nil
    · rw [if_pos hnil] at h
      refine .inr ⟨?_, ds, h, .inl rfl⟩
      intro u' hu
      cases hu
      rw [hnil]
      exact (eq_or_ne id UUID.nil).symm.imp_left Ne.symm
    · rw [if_neg hnil] at h
      by_cases hid : id = u.deviceID
      · subst hid
        rw [get_insert_self] at h
        exact .inl ⟨u, rfl, rfl, hnil, (Option.some.inj h).symm⟩
      · rw [get_insert_ne _ _ hid] at h
        refine .inr ⟨?_, ds, h, .inl rfl⟩
        intro u' hu
        cases hu
        exact .inl (Ne.symm hid)
  | remove removed =>
    refine .inr ⟨fun _ hu => (by cases hu), ds, ?_, .inl rfl⟩
    simp only [step, remove] at h
    split at h
    · rw [get_erase] at h
      split at h
      · cases h
      · exact h
    · exact h
  | markStale now order =>
    refine .inr ⟨fun _ hu => (by cases hu), ?_⟩
    simp only [step, markStale, get_map, Option.map_eq_some_iff] at h
    obtain ⟨old, hold, rfl⟩ := h
    refine ⟨old, hold, ?_⟩
    split
    · exact .inr rfl
    · exact .inl rfl

end Theia
