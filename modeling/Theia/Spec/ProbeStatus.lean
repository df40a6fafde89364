import Theia.Native.ProbeStatus

/-!
# Probe results belong to the device they name

The query adds an optional port to every address, and the answer is cut at the first colon. Host names
and IPv4 addresses have no colon, so for them the two are inverse. The label of an IPv6 address is cut
inside of the address, so the results are right exactly if no sample of such an address is readable.
-/

namespace Theia

open List

/-- A host name or an IP address: not empty, and without brackets. -/
structure IsAddress (address : String) : Prop where
  nonempty : address ≠ ""
  bracket : address.toList.head? ≠ some '['

/-- Every result belongs to an address that was asked for and has the value of a sample of that
address, and every address with a readable sample has a result. -/
structure ResultsNamed (deviceIPs : List String) (samples : List ProbeSample)
    (results : FMap String Bool) : Prop where
  named : ∀ key up, results.get key = some up → key ∈ deviceIPs ∧ ∃ sample ∈ samples,
    matchesTarget key sample.label = true ∧
      ∃ value, sample.value = some value ∧ up = decide (value = 1)
  complete : ∀ address ∈ deviceIPs, ∀ sample ∈ samples, matchesTarget address sample.label = true →
    sample.value.isSome = true → (results.get address).isSome = true

/-- A matched label is the address, or the address and a colon with a port. -/
theorem matchesTarget_spec {address label : String} (h : matchesTarget address label = true) :
    ∃ rest, label.toList = address.toList ++ rest ∧ (rest = [] ∨ rest.head? = some ':') := by
  unfold matchesTarget at h
  rw [Bool.and_eq_true, isPrefixOf_iff_prefix] at h
  obtain ⟨⟨rest, hrest⟩, hport⟩ := h
  refine ⟨rest, hrest.symm, ?_⟩
  rw [← hrest, drop_left] at hport
  cases rest with
  | nil => exact .inl rfl
  | cons c port =>
    simp only [Bool.and_eq_true, decide_eq_true_eq] at hport
    exact .inr (by rw [hport.1.1]; rfl)

/-- A label of an address starts as the address does. -/
theorem head?_of_matches {address label : String} (ha : IsAddress address)
    (h : matchesTarget address label = true) :
    label ≠ "" ∧ label.toList.head? = address.toList.head? := by
  obtain ⟨rest, hlabel, -⟩ := matchesTarget_spec h
  have hne : address.toList ≠ [] := fun he => ha.nonempty (String.toList_eq_nil_iff.1 he)
  constructor
  · rintro rfl
    simp_all
  · rw [hlabel, List.head?_append_of_ne_nil _ hne]

/-- Cutting the label of an address without a colon gives the address back. -/
theorem probeAddress_of_matches {address label : String} (ha : IsAddress address)
    (hcolon : ':' ∉ address.toList) (h : matchesTarget address label = true) :
    probeAddress label = address := by
  obtain ⟨rest, hlabel, hrest⟩ := matchesTarget_spec h
  have hstop : rest.takeWhile (· ≠ ':') = [] := by
    cases rest with
    | nil => rfl
    | cons c port => simp_all
  rw [probeAddress, (head?_of_matches ha h).2, if_neg ha.bracket, hlabel, takeWhile_append_of_pos,
    hstop, append_nil, String.ofList_toList]
  intro c hc
  exact decide_eq_true fun heq => hcolon (heq ▸ hc)

/-- Cutting the label of an address leaves no colon. -/
theorem colon_notMem_probeAddress {address label : String} (ha : IsAddress address)
    (h : matchesTarget address label = true) : ':' ∉ (probeAddress label).toList := by
  rw [probeAddress, (head?_of_matches ha h).2, if_neg ha.bracket, String.toList_ofList]
  intro hmem
  have hne := mem_takeWhile_imp hmem
  simp at hne

/-- The pattern matches the labels of the addresses. -/
theorem matcher_spec {deviceIPs : List String} {label : String} (hlabel : label ≠ "")
    (h : buildTargetMatcher deviceIPs label = true) :
    ∃ address ∈ deviceIPs, matchesTarget address label = true := by
  unfold buildTargetMatcher at h
  split at h
  · exact absurd (of_decide_eq_true h) hlabel
  · obtain ⟨address, hmem, hmatch⟩ := any_eq_true.1 h
    have hsorted := (perm_insertionSort _ _).mem_iff.1 hmem
    exact ⟨address, (mem_filter.1 (mem_dedup.1 hsorted)).1, hmatch⟩

/-- What a sample that is not skipped says. -/
theorem probeEntry_eq_some {sample : ProbeSample} {key : String} {up : Bool} :
    probeEntry sample = some (key, up) ↔ sample.label ≠ "" ∧ probeAddress sample.label = key ∧
      ∃ value, sample.value = some value ∧ up = decide (value = 1) := by
  unfold probeEntry
  split
  · simp_all
  · rw [Option.map_eq_some_iff]
    constructor
    · rintro ⟨value, hvalue, heq⟩
      obtain ⟨hkey, hup⟩ := Prod.mk.inj heq
      exact ⟨‹_›, hkey, value, hvalue, hup.symm⟩
    · rintro ⟨-, rfl, value, hvalue, rfl⟩
      exact ⟨value, hvalue, rfl⟩

section Results

variable {deviceIPs : List String} {samples : List ProbeSample}
  (haddresses : ∀ address ∈ deviceIPs, IsAddress address)
  (hmatch : ∀ sample ∈ samples, buildTargetMatcher deviceIPs sample.label = true)
include haddresses hmatch

theorem resultsNamed_of_plain
    (hcolon : ∀ address ∈ deviceIPs, ∀ sample ∈ samples,
      matchesTarget address sample.label = true → sample.value.isSome = true →
      ':' ∉ address.toList) :
    ResultsNamed deviceIPs samples (FMap.ofList (samples.filterMap probeEntry)) := by
  constructor
  · intro key up hget
    obtain ⟨sample, hmem, hentry⟩ := mem_filterMap.1 (FMap.mem_of_get_ofList hget)
    obtain ⟨hlabel, rfl, value, hvalue, rfl⟩ := probeEntry_eq_some.1 hentry
    obtain ⟨address, haddress, hmatched⟩ := matcher_spec hlabel (hmatch sample hmem)
    rw [probeAddress_of_matches (haddresses address haddress)
      (hcolon address haddress sample hmem hmatched (by simp [hvalue])) hmatched]
    exact ⟨haddress, sample, hmem, hmatched, value, hvalue, rfl⟩
  · intro address haddress sample hmem hmatched hvalue
    have ha := haddresses address haddress
    obtain ⟨value, hsome⟩ := Option.isSome_iff_exists.1 hvalue
    have hentry : probeEntry sample = some (address, decide (value = 1)) :=
      probeEntry_eq_some.2 ⟨(head?_of_matches ha hmatched).1, probeAddress_of_matches ha
        (hcolon address haddress sample hmem hmatched hvalue) hmatched, value, hsome, rfl⟩
    rw [← FMap.mem_dom]
    exact FMap.mem_dom_ofList (mem_filterMap.2 ⟨sample, hmem, hentry⟩)

/-- For every list of addresses and every answer to the query, the results belong to the devices they
name exactly if no readable sample belongs to an address with a colon. -/
theorem probe_results_named :
    ∃ results, queryProbeStatus deviceIPs (.ok samples) = .ok results ∧
      (ResultsNamed deviceIPs samples results ↔ ∀ address ∈ deviceIPs, ∀ sample ∈ samples,
        matchesTarget address sample.label = true → sample.value.isSome = true →
          ':' ∉ address.toList) := by
  by_cases hnone : deviceIPs = []
  · exact ⟨∅, if_pos hnone, by simp [hnone], fun _ => ⟨by simp, by simp [hnone]⟩⟩
  refine ⟨_, if_neg hnone, ?_, resultsNamed_of_plain haddresses hmatch⟩
  intro h address haddress sample hmem hmatched hvalue
  -- the address has a result, so some label was cut to it
  obtain ⟨up, hget⟩ := Option.isSome_iff_exists.1
    (h.complete address haddress sample hmem hmatched hvalue)
  obtain ⟨other, hother, hentry⟩ := mem_filterMap.1 (FMap.mem_of_get_ofList hget)
  obtain ⟨hlabel, rfl, -⟩ := probeEntry_eq_some.1 hentry
  obtain ⟨asked, hasked, hlabelled⟩ := matcher_spec hlabel (hmatch other hother)
  exact colon_notMem_probeAddress (haddresses asked hasked) hlabelled

end Results

/-- A router that is probed on a port, and an IPv6 address without a sample. -/
theorem probe_results_named_port :
    ∃ results, queryProbeStatus ["fe80::1", "10.0.0.1"] (.ok [⟨"10.0.0.1:9115", some 1⟩]) =
        .ok results ∧
      ResultsNamed ["fe80::1", "10.0.0.1"] [⟨"10.0.0.1:9115", some 1⟩] results := by
  have haddresses : ∀ address ∈ ["fe80::1", "10.0.0.1"], IsAddress address :=
    forall_mem_cons.2 ⟨⟨by decide, by decide⟩, forall_mem_singleton.2 ⟨by decide, by decide⟩⟩
  have hmatch : ∀ sample ∈ [ProbeSample.mk "10.0.0.1:9115" (some 1)],
      buildTargetMatcher ["fe80::1", "10.0.0.1"] sample.label = true :=
    forall_mem_singleton.2 (by decide)
  obtain ⟨results, hresults, hiff⟩ := probe_results_named haddresses hmatch
  refine ⟨results, hresults, hiff.2 ?_⟩
  simp only [mem_singleton, forall_eq]
  decide

/-- The result of an IPv6 address is stored under its first group. -/
theorem probe_result_misnamed :
    buildTargetMatcher ["fe80::1"] "fe80::1" = true ∧
      ∃ results, queryProbeStatus ["fe80::1"] (.ok [⟨"fe80::1", some 1⟩]) = .ok results ∧
        results.get "fe80" = some true ∧ results.get "fe80::1" = none :=
  ⟨by decide, _, rfl, by decide, by decide⟩

end Theia
