import Theia.Spec.StoreUpdate
import Theia.Spec.VisibleRecords

/-!
# The change detection of the state store

`Store.Update` announces a device when `deviceStateEqual` sees a difference between its states. What
the comparison leaves open are the times of a state and the order of its link metrics.
-/

namespace Theia

section Maps

variable {K V : Type} [DecidableEq K] [DecidableEq V] {a b : FMap K V}

/-- Maps of the same size are equal when one has the entries of the other. -/
theorem eq_of_mapsEqual {zero : Option V} (h : mapsEqual zero a b = true)
    (hzero : ∀ key value, a.get key = some value → zero ≠ some value) : a = b := by
  simp only [mapsEqual, Bool.and_eq_true, decide_eq_true_eq] at h
  obtain ⟨hcard, hall⟩ := h
  have hget : ∀ key ∈ a.dom, b.get key = a.get key := by
    intro key hkey
    obtain ⟨value, hvalue⟩ := FMap.mem_dom_iff_exists.1 hkey
    have heq := hall key hkey
    cases hb : b.get key with
    | some other => rwa [hb] at heq
    | none =>
      rw [hb, Option.none_or, hvalue] at heq
      exact absurd heq (hzero key value hvalue)
  have hsub : a.dom ⊆ b.dom := by
    intro key hkey
    obtain ⟨value, hvalue⟩ := FMap.mem_dom_iff_exists.1 hkey
    exact FMap.mem_dom_of_get ((hget key hkey).trans hvalue)
  have hdom : a.dom = b.dom := Finset.eq_of_subset_of_card_le hsub hcard.ge
  apply FMap.ext
  intro key
  by_cases hkey : key ∈ a.dom
  · exact (hget key hkey).symm
  · rw [FMap.get_eq_none_iff.2 hkey, FMap.get_eq_none_iff.2 (hdom ▸ hkey)]

end Maps

/-- Without a change the state differs in its times and in the order of its readings only. -/
theorem retime_of_deviceStateEqual {sortSlice : List LinkMetrics → List LinkMetrics}
    {a b : StoredState} (h : deviceStateEqual sortSlice a b = true) (hflags : OnlySet a.runtimeFlags) :
    b.toDeviceState = a.toDeviceState.retime b.lastPolledAt b.metrics.collectedAt b.linkMetrics ∧
      linkMetricsEqual sortSlice a.linkMetrics b.linkMetrics = true := by
  simp only [deviceStateEqual, Bool.and_eq_true, decide_eq_true_eq] at h
  obtain ⟨⟨⟨⟨⟨⟨⟨⟨⟨⟨⟨⟨⟨⟨⟨⟨⟨⟨hhealth, -⟩, -⟩, -⟩, hreach⟩, hprimary⟩, hnetwork⟩, hsnmp⟩, -⟩, hfields⟩,
    hflag⟩, -⟩, hstale⟩, hinterval⟩, hcpu⟩, hmem⟩, htemp⟩, huptime⟩, hlinks⟩ := h
  have hfieldStates : a.fieldStates = b.fieldStates :=
    eq_of_mapsEqual hfields fun _ _ _ => Option.some_ne_none _ |>.symm
  have hruntimeFlags : a.runtimeFlags = b.runtimeFlags := by
    apply eq_of_mapsEqual hflag
    intro flag value hvalue hfalse
    rw [hflags flag value hvalue] at hfalse
    cases hfalse
  refine ⟨?_, hlinks⟩
  unfold DeviceState.retime
  dsimp only
  rw [hhealth, hreach, hprimary, hnetwork, hsnmp, hfieldStates, hruntimeFlags, hstale, hinterval,
    hcpu, hmem, htemp, huptime]

end Theia
