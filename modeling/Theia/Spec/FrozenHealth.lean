import Theia.Spec.DeviceHealth

/-!
# The last health of a device that is down

`Store.Update` re-evaluates health only for a device that is up, with one exception: a successful
performance poll evaluates the metrics it brings whatever the reachability is. Without such polls of
devices that are down, an update after which a device is down leaves its health and the severities
behind it as they were, in every run of the store.
-/

namespace Theia

variable {u : StateUpdate}

/-! ### Runs of the store -/

namespace StateStore

/-- The last health of a device; a device that was never seen has none. -/
def lastHealth (s : StateStore) (id : UUID) : HealthRecord :=
  (FMap.getZero s.devices {} id).healthRecord

theorem lastHealth_of_get {s : StateStore} {id : UUID} {ds : StoredState}
    (h : s.devices.get id = some ds) : s.lastHealth id = ds.healthRecord := by
  rw [lastHealth, FMap.getZero, h]
  rfl

/-- No unguarded poll of a device that is down. -/
def SparesDown (s : StateStore) : StoreOp → Prop
  | .update u => u.Unguarded →
      isDownReachability (FMap.getZero s.devices {} u.deviceID).reachability = false
  | .remove _ | .markStale _ _ => True

instance (s : StateStore) (op : StoreOp) : Decidable (s.SparesDown op) := by
  cases op <;> unfold SparesDown <;> infer_instance

/-- Health is never stored unset, so what the record says is what is stored. -/
def HealthSet (s : StateStore) : Prop := ∀ id ds, s.devices.get id = some ds → ds.health ≠ .unset

variable {sortSlice : List LinkMetrics → List LinkMetrics} {s : StateStore}

theorem step_healthSet (h : s.HealthSet) (op : StoreOp) : (s.step sortSlice op).HealthSet := by
  intro id ds hds
  obtain ⟨u, -, -, -, rfl⟩ | ⟨-, old, hold, rfl | rfl⟩ := step_get hds
  · rw [nextState_eq]
    show (if _ then _ else _) ≠ _
    split
    · exact nofun
    · assumption
  · exact h id ds hold
  · exact h id old hold

/-- What an update keeps of the device it is about, and of the others. -/
theorem update_frozen (hspares : s.SparesDown (.update u)) {id : UUID} {ds : StoredState}
    (hds : (s.step sortSlice (.update u)).devices.get id = some ds)
    (hdown : isDownReachability ds.reachability = true) : ds.healthRecord = s.lastHealth id := by
  obtain ⟨u, hop, rfl, -, rfl⟩ | ⟨-, old, hold, rfl | rfl⟩ := step_get hds
  · cases hop
    rw [nextState_eq] at hdown ⊢
    have hkept := applyUpdate_frozen _ _ hspares hdown
    rw [lastHealth, ← hkept]
    simp only [StoredState.healthRecord]
    split <;> simp_all
  · exact (lastHealth_of_get hold).symm
  · exact (lastHealth_of_get hold).symm

/-- In every run of the store whose updates bring no performance metrics for a device that is down,
every update after which a device is down leaves its health and severities as they were; health is
stored in every state reached. -/
theorem down_keeps_health {s₀ : StateStore} {ops : List StoreOp} (h₀ : s₀.HealthSet)
    (h : Run (· = s₀) (ActStep (step sortSlice) fun s op => s.SparesDown op) s ops) {u : StateUpdate}
    (hspares : s.SparesDown (.update u)) {id : UUID} {ds : StoredState}
    (hds : (s.step sortSlice (.update u)).devices.get id = some ds)
    (hdown : isDownReachability ds.reachability = true) :
    s.HealthSet ∧ ds.healthRecord = s.lastHealth id := by
  refine ⟨?_, update_frozen hspares hds hdown⟩
  apply h.act_invariant h₀
  intro s op hs _
  exact step_healthSet hs op

/-- A successful performance poll that finds the processor busy. -/
def pollBusy : StateUpdate where
  deviceID := 7#128
  volatilityClass := .performance
  metrics := some { cpuPercent := some 95 }
  pollSuccess := true

/-- The store after a device was polled busy and then found down by an essential poll. -/
def busyThenDown : StateStore :=
  [probeUp, .update pollBusy, probeDown].foldl (step fun l => l) {}

theorem down_keeps_health_probe : (busyThenDown.lastHealth 7#128).health = .critical ∧
    ∃ ds, (busyThenDown.step (fun l => l) probeDown).devices.get 7#128 = some ds ∧
      isDownReachability ds.reachability = true ∧ ds.healthRecord = busyThenDown.lastHealth 7#128 := by
  refine ⟨by decide +kernel, ?_⟩
  obtain ⟨ds, hds, hdown⟩ := Option.map_eq_some_iff.1
    (by decide +kernel : ((busyThenDown.step (fun l => l) probeDown).devices.get 7#128).map
      (fun ds => isDownReachability ds.reachability) = some true)
  have hrun : Run (· = {}) (ActStep (step fun l => l) fun s op => s.SparesDown op) busyThenDown
      [probeUp, .update pollBusy, probeDown] := .of_ops (by decide +kernel)
  exact ⟨ds, hds, hdown, (down_keeps_health (fun id ds h => by cases h) hrun
    (by decide +kernel) hds hdown).2⟩

/-- A performance poll of a device that an essential poll found down: the device stays down, and its
health becomes critical. -/
theorem health_changed_while_down : ∃ ds,
    (([probeUp, probeDown].foldl (step fun l => l) {}).lastHealth 7#128).health = .unknown ∧
    ([probeUp, probeDown, .update pollBusy].foldl (step fun l => l) {}).devices.get 7#128 = some ds ∧
    isDownReachability ds.reachability = true ∧ ds.health = .critical ∧
    ds.cpuSeverity = .critical := by
  obtain ⟨ds, hds, hfields⟩ := Option.map_eq_some_iff.1
    (by decide +kernel : (([probeUp, probeDown, .update pollBusy].foldl (step fun l => l) {}).devices.get
      7#128).map (fun ds => (isDownReachability ds.reachability, ds.health, ds.cpuSeverity)) =
      some (true, .critical, .critical))
  simp only [Prod.mk.injEq] at hfields
  exact ⟨ds, by decide +kernel, hds, hfields.1, hfields.2.1, hfields.2.2⟩

end StateStore

end Theia
