import Theia.ForStd.Run
import Theia.Spec.StoreUpdate

/-!
# Reachability, failure counts and primary health

Four fields of a device state say how the device is doing: reachability, the failure count, the
primary health and staleness. The store runs the small machine of `StoreUpdate` on them, and the laws
are proved of the machine.
-/

namespace Theia

variable {w v : HealthView} {ops : List StoreOp} {u : StateUpdate} {op : StoreOp}

/-! ### Runs of the store -/

namespace StateStore

/-- The state of a device, or the zero state that `Update` starts from. -/
def viewOf (s : StateStore) (id : UUID) : HealthView := (FMap.getZero s.devices {} id).view

variable {sortSlice : List LinkMetrics → List LinkMetrics} {s : StateStore} {op : StoreOp}
  {id : UUID} {ds : StoredState}

theorem viewOf_of_get (h : s.devices.get id = some ds) : s.viewOf id = ds.view := by
  rw [viewOf, FMap.getZero, h]
  rfl

theorem viewOf_of_none (h : s.devices.get id = none) : s.viewOf id = {} := by
  rw [viewOf, FMap.getZero, h]
  rfl

/-- What one operation does to the view of a device that is in the store afterwards. -/
theorem step_view (h : (s.step sortSlice op).devices.get id = some ds) :
    (∃ u, op = .update u ∧ u.deviceID = id ∧ ds.view = (s.viewOf id).observe u.evidence) ∨
      ((∀ u, op = .update u → u.deviceID ≠ id ∨ id = UUID.nil) ∧ (s.devices.get id).isSome ∧
        (ds.view = s.viewOf id ∨ ds.view = (s.viewOf id).expire)) := by
  obtain ⟨u, hop, hid, -, rfl⟩ | ⟨hother, old, hold, hds⟩ := step_get h
  · exact .inl ⟨u, hop, hid, nextState_view _ _ u⟩
  · refine .inr ⟨hother, by rw [hold]; rfl, ?_⟩
    rw [viewOf_of_get hold]
    obtain rfl | rfl := hds
    · exact .inl rfl
    · exact .inr rfl

end StateStore

/-! ### Reachability and the failure count -/

/-- Soft-down means one or two failures, hard-down three or more, up and unknown none. -/
structure HealthView.FailureLaw (v : HealthView) : Prop where
  soft : v.reachability = .softDown ↔ v.consecutiveFailures = 1 ∨ v.consecutiveFailures = 2
  hard : v.reachability = .hardDown ↔ 3 ≤ v.consecutiveFailures
  none : v.reachability = .up ∨ v.reachability = .unknown → v.consecutiveFailures = 0

namespace HealthView

variable {v : HealthView}

theorem FailureLaw.zero : FailureLaw {} := by
  constructor <;> simp

theorem FailureLaw.of_fields (h : FailureLaw v) (hreach : w.reachability = v.reachability)
    (hcount : w.consecutiveFailures = v.consecutiveFailures) : FailureLaw w := by
  constructor
  · rw [hreach, hcount]; exact h.soft
  · rw [hreach, hcount]; exact h.hard
  · rw [hreach, hcount]; exact h.none

theorem FailureLaw.of_no_failures (hcount : v.consecutiveFailures = 0)
    (hreach : isDownReachability v.reachability = false) : FailureLaw v := by
  simp only [isDownReachability, Bool.or_eq_false_iff, decide_eq_false_iff_not] at hreach
  constructor
  · simp [hcount, hreach.1]
  · simp [hcount, hreach.2]
  · exact fun _ => hcount

section

variable (v : HealthView)

theorem fail_failureLaw : FailureLaw v.fail := by
  unfold fail
  by_cases hthree : 3 ≤ v.consecutiveFailures + 1
  · constructor <;> simp [hthree]
    omega
  · constructor <;> simp [hthree]
    omega

theorem settle_up_or_unknown (health : PrimaryHealth) :
    (v.settle health).reachability = .up ∨ (v.settle health).reachability = .unknown := by
  unfold settle
  split
  · exact .inl rfl
  · exact .inr rfl

theorem settle_not_down (health : PrimaryHealth) :
    isDownReachability (v.settle health).reachability = false := by
  obtain h | h := settle_up_or_unknown v health <;> rw [h] <;> rfl

/-- Evidence counts one more failure, or clears the count of a device that is not down, or it is no
network result and keeps the count. -/
theorem observe_failures (e : Evidence) :
    (e.networkResult = some false ∧ (v.observe e).reachability = v.fail.reachability ∧
        (v.observe e).consecutiveFailures = v.consecutiveFailures + 1) ∨
      ((v.observe e).consecutiveFailures = 0 ∧
        isDownReachability (v.observe e).reachability = false) ∨
      (e.networkResult = Option.none ∧ (v.observe e).reachability = v.reachability ∧
        (v.observe e).consecutiveFailures = v.consecutiveFailures) := by
  cases e with
  | reachable snmpFailed => exact .inr (.inl ⟨rfl, rfl⟩)
  | unreachable => exact .inl ⟨rfl, rfl, rfl⟩
  | inconclusive snmpFailed =>
    right
    simp only [observe]
    split
    · exact .inr ⟨rfl, rfl, rfl⟩
    · exact .inl ⟨rfl, settle_not_down v (if snmpFailed then .snmpDegraded else .probing)⟩
  | performance | static => exact .inr (.inr ⟨rfl, rfl, rfl⟩)
  | operational success =>
    right
    cases success with
    | true => exact .inl ⟨rfl, rfl⟩
    | false =>
      simp only [observe, Bool.false_eq_true, if_false]
      split
      · exact .inr ⟨rfl, rfl, rfl⟩
      · exact .inl ⟨rfl, settle_not_down v _⟩
  | legacy success =>
    cases success with
    | true => exact .inr (.inl ⟨rfl, rfl⟩)
    | false => exact .inl ⟨rfl, rfl, rfl⟩

end

theorem observe_failureLaw (h : FailureLaw v) (e : Evidence) : FailureLaw (v.observe e) := by
  obtain ⟨-, hreach, hcount⟩ | ⟨hcount, hreach⟩ | ⟨-, hreach, hcount⟩ := v.observe_failures e
  · exact (fail_failureLaw v).of_fields hreach hcount
  · exact .of_no_failures hcount hreach
  · exact h.of_fields hreach hcount

end HealthView

/-- The network results that an operation reports for a device; `Update` ignores the nil device. -/
def StoreOp.networkResults (id : UUID) : StoreOp → List Bool
  | .update u => if u.deviceID = id ∧ id ≠ UUID.nil then u.evidence.networkResult.toList else []
  | .remove _ | .markStale _ _ => []

/-- The network results of a device, the oldest first. -/
def networkResults (id : UUID) (ops : List StoreOp) : List Bool :=
  ops.flatMap (StoreOp.networkResults id)

/-- The failure count is the number of failing results since the last successful one, at most. -/
def CountsFailures (id : UUID) (ops : List StoreOp) (v : HealthView) : Prop :=
  List.replicate v.consecutiveFailures false <:+ networkResults id ops

theorem CountsFailures.zero {id : UUID} (h : v.consecutiveFailures = 0) :
    CountsFailures id ops v := by
  rw [CountsFailures, h]
  exact List.nil_suffix

theorem CountsFailures.observe {id : UUID} (hid : u.deviceID = id) (hnil : id ≠ UUID.nil)
    (h : CountsFailures id ops v) :
    CountsFailures id (ops ++ [.update u]) (v.observe u.evidence) := by
  have hresults : networkResults id (ops ++ [.update u]) =
      networkResults id ops ++ u.evidence.networkResult.toList := by
    simp [networkResults, StoreOp.networkResults, hid, hnil]
  unfold CountsFailures
  rw [hresults]
  obtain ⟨hfail, -, hcount⟩ | ⟨hcount, -⟩ | ⟨hnone, -, hcount⟩ := v.observe_failures u.evidence
  · rw [hfail, hcount, List.replicate_succ']
    exact List.suffix_append_self_iff.2 h
  · rw [hcount]
    exact List.nil_suffix
  · rw [hnone, hcount]
    simpa [CountsFailures] using h

theorem CountsFailures.append {id : UUID} (h : CountsFailures id ops v)
    (hop : ∀ u, op = .update u → u.deviceID ≠ id ∨ id = UUID.nil)
    (hcount : w.consecutiveFailures = v.consecutiveFailures) :
    CountsFailures id (ops ++ [op]) w := by
  have hnone : op.networkResults id = [] := by
    cases op with
    | update u =>
      obtain hid | hnil := hop u rfl
      · simp [StoreOp.networkResults, hid]
      · simp [StoreOp.networkResults, hnil]
    | remove | markStale => rfl
  unfold CountsFailures
  rw [hcount]
  simpa [CountsFailures, networkResults, hnone] using h

namespace StateStore

variable {sortSlice : List LinkMetrics → List LinkMetrics} {s : StateStore} {ops : List StoreOp}
  {id : UUID} {ds : StoredState}

theorem step_nil (h : s.devices.get UUID.nil = none) :
    (s.step sortSlice op).devices.get UUID.nil = none := by
  cases hds : (s.step sortSlice op).devices.get UUID.nil with
  | none => rfl
  | some ds =>
    obtain ⟨u, hop, hid, -⟩ | ⟨-, hsome, -⟩ := step_view hds
    · rw [hop, step, update, if_pos hid, h] at hds
      cases hds
    · simp [h] at hsome

/-- The invariant of the failure counts. -/
def FailuresOK (s : StateStore) (ops : List StoreOp) : Prop :=
  s.devices.get UUID.nil = none ∧
    ∀ id, (s.viewOf id).FailureLaw ∧ CountsFailures id ops (s.viewOf id)

theorem step_failuresOK (h : FailuresOK s ops) :
    FailuresOK (s.step sortSlice op) (ops ++ [op]) := by
  refine ⟨step_nil h.1, ?_⟩
  intro id
  cases hds : (s.step sortSlice op).devices.get id with
  | none =>
    rw [viewOf_of_none hds]
    exact ⟨.zero, .zero rfl⟩
  | some ds =>
    rw [viewOf_of_get hds]
    obtain ⟨hlaw, hcount⟩ := h.2 id
    obtain ⟨u, hop, hid, hview⟩ | ⟨hother, -, hview⟩ := step_view hds
    · have hnil : id ≠ UUID.nil := by
        intro hnil
        rw [hnil, step_nil h.1] at hds
        cases hds
      rw [hview, hop]
      exact ⟨HealthView.observe_failureLaw hlaw _, hcount.observe hid hnil⟩
    · obtain hview | hview := hview <;> rw [hview]
      · exact ⟨hlaw, hcount.append hother rfl⟩
      · exact ⟨hlaw.of_fields rfl rfl, hcount.append hother rfl⟩

theorem run_failuresOK (h : Run (· = {}) (ActStep (step sortSlice) fun _ _ => True) s ops) :
    FailuresOK s ops := by
  apply h.invariant
  · intro s hs
    subst hs
    exact ⟨rfl, fun id => ⟨.zero, .zero rfl⟩⟩
  · intro s ops es s' _ hok hstep
    obtain ⟨op, -, rfl, rfl⟩ := hstep
    exact step_failuresOK hok

/-- Reachability agrees with the failure count in every run, and a device is hard-down only after
three failing network results in a row. -/
theorem reachability_matches_failures
    (h : Run (· = {}) (ActStep (step sortSlice) fun _ _ => True) s ops) (hds : s.devices.get id = some ds) :
    (ds.reachability = .softDown ↔ ds.consecutiveFailures = 1 ∨ ds.consecutiveFailures = 2) ∧
      (ds.reachability = .hardDown ↔ 3 ≤ ds.consecutiveFailures) ∧
      (ds.reachability = .up ∨ ds.reachability = .unknown → ds.consecutiveFailures = 0) ∧
      (ds.reachability = .hardDown → [false, false, false] <:+ networkResults id ops) := by
  obtain ⟨hlaw, hcount⟩ := (run_failuresOK h).2 id
  rw [viewOf_of_get hds] at hlaw hcount
  refine ⟨hlaw.soft, hlaw.hard, hlaw.none, ?_⟩
  intro hhard
  have hthree : 3 ≤ ds.consecutiveFailures := hlaw.hard.1 hhard
  -- the last three of the counted failures
  have hsplit : List.replicate ds.consecutiveFailures false =
      List.replicate (ds.consecutiveFailures - 3) false ++ [false, false, false] := by
    show _ = _ ++ List.replicate 3 false
    rw [List.replicate_append_replicate, Nat.sub_add_cancel hthree]
  have hall : List.replicate ds.consecutiveFailures false <:+ networkResults id ops := hcount
  rw [hsplit] at hall
  exact (List.suffix_append _ _).trans hall

/-- An essential poll that finds the network down. -/
def probeDown : StoreOp :=
  .update { deviceID := 7#128, essential := some { networkReachable := .false } }

theorem reachability_matches_failures_down :
    ∃ ds, ([probeDown, probeDown, probeDown].foldl (step fun l => l) {}).devices.get 7#128 = some ds ∧
      3 ≤ ds.consecutiveFailures ∧
      [false, false, false] <:+ networkResults 7#128 [probeDown, probeDown, probeDown] := by
  obtain ⟨ds, hds, hdown⟩ := Option.map_eq_some_iff.1 (by decide +kernel :
    (([probeDown, probeDown, probeDown].foldl (step fun l => l) {}).devices.get 7#128).map
      (·.reachability) = some .hardDown)
  obtain ⟨-, hhard, -, hresults⟩ := reachability_matches_failures (.of_ops (by simp [OkAlong])) hds
  exact ⟨ds, hds, hhard.1 hdown, hresults hdown⟩

end StateStore

/-! ### Primary health -/

/-- Primary health does not contradict reachability and staleness. -/
structure HealthView.HealthLaw (v : HealthView) : Prop where
  stale_of_upStale : v.primaryHealth = .upStale → v.stale = true
  not_upFresh_of_stale : v.stale = true → v.primaryHealth ≠ .upFresh
  unreachable_of_down :
    v.reachability = .softDown ∨ v.reachability = .hardDown → v.primaryHealth = .unreachable
  not_unreachable_of_up : v.reachability = .up → v.primaryHealth ≠ .unreachable

/-- A performance poll clears staleness, and an operational success marks the device up, without a
look at the primary health. -/
def HealthView.Permits (v : HealthView) : Evidence → Prop
  | .performance => v.primaryHealth ≠ .upStale
  | .operational success => success = true → v.primaryHealth ≠ .unreachable
  | _ => True

namespace HealthView

variable {v : HealthView}

theorem HealthLaw.zero : HealthLaw {} := by
  constructor <;> simp

theorem HealthLaw.unreachable (hup : w.reachability ≠ .up)
    (hhealth : w.primaryHealth = .unreachable) : HealthLaw w := by
  constructor
  · simp [hhealth]
  · simp [hhealth]
  · exact fun _ => hhealth
  · exact fun h => absurd h hup

theorem HealthLaw.reachable (hreach : w.reachability = .up ∨ w.reachability = .unknown)
    (hunreachable : w.primaryHealth ≠ .unreachable) (hupStale : w.primaryHealth ≠ .upStale)
    (hfresh : w.stale = true → w.primaryHealth ≠ .upFresh) : HealthLaw w := by
  constructor
  · exact fun h => absurd h hupStale
  · exact hfresh
  · intro hdown
    obtain h | h := hreach <;> simp [h] at hdown
  · exact fun _ => hunreachable

theorem fail_not_up (v : HealthView) : v.fail.reachability ≠ .up := by
  unfold fail
  split <;> simp

theorem observe_healthLaw (h : HealthLaw v) {e : Evidence}
    (hclass : ∀ success, e ≠ .legacy success) (hpermits : v.Permits e) :
    HealthLaw (v.observe e) := by
  cases e with
  | reachable snmpFailed =>
    apply HealthLaw.reachable (.inl rfl) <;> cases snmpFailed <;> simp [observe]
  | unreachable => exact .unreachable (fail_not_up v) rfl
  | inconclusive snmpFailed =>
    simp only [observe]
    split
    · rename_i hdown
      exact .unreachable (not_up_of_isDown hdown) rfl
    · apply HealthLaw.reachable
      · exact settle_up_or_unknown v (if snmpFailed then .snmpDegraded else .probing)
      · cases snmpFailed <;> simp [settle]
      · cases snmpFailed <;> simp [settle]
      · cases snmpFailed <;> simp [settle]
  | performance =>
    have hstale : v.primaryHealth ≠ .upStale := hpermits
    constructor
    · exact fun hupStale => absurd hupStale hstale
    · intro hfalse
      cases hfalse
    · exact h.unreachable_of_down
    · exact h.not_unreachable_of_up
  | operational success =>
    cases success with
    | true =>
      have hup : v.primaryHealth ≠ .unreachable := hpermits rfl
      constructor
      · exact h.stale_of_upStale
      · exact h.not_upFresh_of_stale
      · intro hdown
        simp [observe] at hdown
      · exact fun _ => hup
    | false =>
      simp only [observe, Bool.false_eq_true, if_false]
      split_ifs with hdown
      · exact .unreachable (not_up_of_isDown hdown) rfl
      · apply HealthLaw.reachable (settle_up_or_unknown v _) <;> simp [settle]
  | static => exact h
  | legacy success => exact absurd rfl (hclass success)

theorem expire_healthLaw (h : HealthLaw v) : HealthLaw v.expire := by
  unfold expire
  by_cases hfresh : v.primaryHealth = .upFresh
  · constructor
    · simp
    · simp [hfresh]
    · intro hdown
      have hunreachable := h.unreachable_of_down hdown
      rw [hfresh] at hunreachable
      cases hunreachable
    · simp [hfresh]
  · constructor
    · simp
    · simp [hfresh]
    · simpa [hfresh] using h.unreachable_of_down
    · simpa [hfresh] using h.not_unreachable_of_up

end HealthView

/-- An update with a volatility class or an essential payload. -/
def StoreOp.Explicit : StoreOp → Prop
  | .update u => u.essential ≠ none ∨ u.volatilityClass ≠ .unset
  | .remove _ | .markStale _ _ => True

/-- No performance poll of a device that is `up_stale`, and no successful operational poll of one
that is `unreachable`. -/
def StoreOp.KeepsHealth (s : StateStore) : StoreOp → Prop
  | .update u => u.essential = none →
      (u.volatilityClass = .performance →
        (FMap.getZero s.devices {} u.deviceID).primaryHealth ≠ .upStale) ∧
      (u.volatilityClass = .operational → u.pollSuccess = true →
        (FMap.getZero s.devices {} u.deviceID).primaryHealth ≠ .unreachable)
  | .remove _ | .markStale _ _ => True

theorem StateUpdate.evidence_ne_legacy (h : (StoreOp.update u).Explicit) (success : Bool) :
    u.evidence ≠ .legacy success := by
  unfold StateUpdate.evidence
  cases hessential : u.essential with
  | some essential =>
    dsimp only
    cases essentialNetworkReachability essential <;> simp
  | none =>
    cases hclass : u.volatilityClass with
    | unset => simp [StoreOp.Explicit, hessential, hclass] at h
    | performance | operational | static => simp

theorem StateUpdate.permits_evidence {s : StateStore} (h : (StoreOp.update u).KeepsHealth s) :
    (s.viewOf u.deviceID).Permits u.evidence := by
  unfold StateUpdate.evidence
  cases hessential : u.essential with
  | some essential =>
    dsimp only
    cases essentialNetworkReachability essential <;> trivial
  | none =>
    have hkeeps := h hessential
    cases hclass : u.volatilityClass with
    | unset | static => trivial
    | performance => exact hkeeps.1 hclass
    | operational => exact hkeeps.2 hclass

namespace StateStore

variable {sortSlice : List LinkMetrics → List LinkMetrics} {s : StateStore} {ops : List StoreOp}
  {id : UUID} {ds : StoredState}

theorem step_healthLaw (h : ∀ id, (s.viewOf id).HealthLaw) (hop : op.Explicit)
    (hkeeps : op.KeepsHealth s) (id : UUID) : ((s.step sortSlice op).viewOf id).HealthLaw := by
  cases hds : (s.step sortSlice op).devices.get id with
  | none =>
    rw [viewOf_of_none hds]
    exact .zero
  | some ds =>
    rw [viewOf_of_get hds]
    obtain ⟨u, rfl, rfl, hview⟩ | ⟨-, -, hview | hview⟩ := step_view hds <;> rw [hview]
    · exact HealthView.observe_healthLaw (h _) (StateUpdate.evidence_ne_legacy hop)
        (StateUpdate.permits_evidence hkeeps)
    · exact h id
    · exact HealthView.expire_healthLaw (h id)

/-- Primary health agrees with the other fields in every run whose steps keep it. -/
theorem primary_health_consistent
    (h : Run (· = {}) (ActStep (step sortSlice) fun s op => op.Explicit ∧ op.KeepsHealth s) s ops)
    (hds : s.devices.get id = some ds) :
    (ds.primaryHealth = .upStale → ds.stale = true) ∧
      (ds.stale = true → ds.primaryHealth ≠ .upFresh) ∧
      (ds.reachability = .softDown ∨ ds.reachability = .hardDown →
        ds.primaryHealth = .unreachable) ∧
      (ds.reachability = .up → ds.primaryHealth ≠ .unreachable) := by
  have hlaw : ∀ id, (s.viewOf id).HealthLaw :=
    h.act_invariant (fun _ => .zero) fun s op hlaw hok => step_healthLaw hlaw hok.1 hok.2
  have hview := hlaw id
  rw [viewOf_of_get hds] at hview
  exact ⟨hview.stale_of_upStale, hview.not_upFresh_of_stale, hview.unreachable_of_down,
    hview.not_unreachable_of_up⟩

/-- An essential poll that finds the network up, at 100 s and every 30 s. -/
def probeUp : StoreOp :=
  .update { deviceID := 7#128, expectedInterval := 30 * second, timestamp := 100 * second,
            essential := some { networkReachable := .true } }

theorem primary_health_consistent_stale :
    ∃ ds, ([probeUp, .markStale (200 * second) [7#128]].foldl (step fun l => l) {}).devices.get
        7#128 = some ds ∧ ds.stale = true ∧ ds.primaryHealth ≠ .upFresh := by
  obtain ⟨ds, hds, hstale⟩ := Option.map_eq_some_iff.1
    (by decide +kernel : (([probeUp, .markStale (200 * second) [7#128]].foldl
      (step fun l => l) {}).devices.get 7#128).map (·.stale) = some true)
  have hlaw := primary_health_consistent (.of_ops (by
    simp [OkAlong, probeUp, StoreOp.Explicit, StoreOp.KeepsHealth])) hds
  exact ⟨ds, hds, hstale, hlaw.2.1 hstale⟩

/-- A performance poll of a stale device leaves it `up_stale` but not stale, and a successful
operational poll of an unreachable device leaves it up and `unreachable`. -/
theorem primary_health_contradicted :
    (∃ s ops ds, Run (· = {}) (ActStep (step fun l => l) fun _ op => op.Explicit) s ops ∧
      s.devices.get 7#128 = some ds ∧ ds.primaryHealth = .upStale ∧ ds.stale = false) ∧
    ∃ s ops ds, Run (· = {}) (ActStep (step fun l => l) fun _ op => op.Explicit) s ops ∧
      s.devices.get 7#128 = some ds ∧ ds.reachability = .up ∧ ds.primaryHealth = .unreachable := by
  constructor
  · let ops := [probeUp, .markStale (200 * second) [7#128],
      .update { deviceID := 7#128, volatilityClass := .performance, pollSuccess := true,
                timestamp := 201 * second }]
    obtain ⟨ds, hds, hview⟩ := Option.map_eq_some_iff.1
      (by decide +kernel : ((ops.foldl (step fun l => l) {}).devices.get 7#128).map
        (fun ds => (ds.primaryHealth, ds.stale)) = some (.upStale, false))
    obtain ⟨hhealth, hstale⟩ := Prod.mk.inj hview
    exact ⟨_, ops, ds, .of_ops (by
      simp [OkAlong, ops, probeUp, StoreOp.Explicit]), hds, hhealth, hstale⟩
  · let ops := [probeDown,
      .update { deviceID := 7#128, volatilityClass := .operational, pollSuccess := true }]
    obtain ⟨ds, hds, hview⟩ := Option.map_eq_some_iff.1
      (by decide +kernel : ((ops.foldl (step fun l => l) {}).devices.get 7#128).map
        (fun ds => (ds.reachability, ds.primaryHealth)) = some (.up, .unreachable))
    obtain ⟨hreach, hhealth⟩ := Prod.mk.inj hview
    exact ⟨_, ops, ds, .of_ops (by
      simp [OkAlong, ops, probeDown, StoreOp.Explicit]), hds, hreach, hhealth⟩

end StateStore

end Theia
