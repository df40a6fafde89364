import Theia.Native.Observations
import Theia.Spec.Identifiers

/-!
# Candidate links

What `CandidateLinks` makes of a list of observations. The candidates depend on the set of the
observations only, although `sort.Slice` is not stable and sorts the list of its caller in place.
-/

namespace Theia

open List DiscoveryProtocol

variable {observations : List Observation} {link : LinkRow}

theorem DiscoveryProtocol.toString_injective : Function.Injective toString := by
  intro a b h
  cases a with
  | other v =>
    cases b with
    | other w => exact congrArg _ (Subtype.ext h)
    | lldp => exact absurd h v.2.1
    | cdp => exact absurd h v.2.2.1
    | manual => exact absurd h v.2.2.2
  | lldp =>
    cases b with
    | other w => exact absurd h.symm w.2.1
    | lldp => rfl
    | cdp | manual => exact absurd h (by decide)
  | cdp =>
    cases b with
    | other w => exact absurd h.symm w.2.2.1
    | cdp => rfl
    | lldp | manual => exact absurd h (by decide)
  | manual =>
    cases b with
    | other w => exact absurd h.symm w.2.2.2
    | manual => rfl
    | lldp | cdp => exact absurd h (by decide)

/-- The key of the order of `CandidateLinks`. -/
def observationSortKey (o : Observation) :
    String ×ₗ String ×ₗ String ×ₗ String ×ₗ String ×ₗ String ×ₗ Time :=
  toLex (o.protocol.toString, toLex (o.localDeviceID.toString, toLex (o.remoteDeviceID.toString,
    toLex (o.localPort, toLex (o.remotePort, toLex (o.remoteIdentity, o.lastObservedAt))))))

theorem observationBefore_iff (a b : Observation) :
    observationBefore a b = true ↔ observationSortKey a < observationSortKey b := by
  unfold observationBefore observationSortKey
  simp only [Prod.Lex.toLex_lt_toLex]
  by_cases hprotocol : a.protocol = b.protocol
  · by_cases hlocal : a.localDeviceID = b.localDeviceID
    · by_cases hremote : a.remoteDeviceID = b.remoteDeviceID
      · by_cases hlocalPort : a.localPort = b.localPort
        · by_cases hremotePort : a.remotePort = b.remotePort
          · by_cases hidentity : a.remoteIdentity = b.remoteIdentity
            · simp [hprotocol, hlocal, hremote, hlocalPort, hremotePort, hidentity]
            · simp [hprotocol, hlocal, hremote, hlocalPort, hremotePort, hidentity]
          · simp [hprotocol, hlocal, hremote, hlocalPort, hremotePort]
        · simp [hprotocol, hlocal, hremote, hlocalPort]
      · simp [hprotocol, hlocal, hremote, UUID.toString_injective.eq_iff]
    · simp [hprotocol, hlocal, UUID.toString_injective.eq_iff]
  · simp [hprotocol, toString_injective.eq_iff]

/-- The link of an observation, if both devices are known. -/
def Observation.candidate? (o : Observation) : Option LinkRow :=
  if o.localDeviceID = UUID.nil ∨ o.remoteDeviceID = UUID.nil then none else some o.link

open Observation

theorem candidate?_eq_of_key_eq {a b : Observation}
    (h : observationSortKey a = observationSortKey b) : a.candidate? = b.candidate? := by
  simp only [observationSortKey, toLex_inj, Prod.mk.injEq] at h
  obtain ⟨hprotocol, hlocal, hremote, hlocalPort, hremotePort, -⟩ := h
  have hprotocol' := toString_injective hprotocol
  have hlocal' := UUID.toString_injective hlocal
  have hremote' := UUID.toString_injective hremote
  unfold candidate? Observation.link
  rw [hlocal', hremote', hprotocol', hlocalPort, hremotePort]

theorem candidateLinks_eq (observations : List Observation) :
    candidateLinks observations = keepFirst candidateKey
      ((sortSliceBy observationBefore observations).filterMap candidate?) := by
  unfold candidateLinks
  dsimp only
  congr 1
  rw [← filterMap_eq_filter, map_filterMap]
  apply filterMap_congr
  intro o _
  unfold candidate?
  by_cases h : o.localDeviceID = UUID.nil ∨ o.remoteDeviceID = UUID.nil
  · rcases h with h | h <;> simp [h]
  · rw [not_or] at h
    simp [h.1, h.2]

theorem candidateLinks_pair (a b : Observation) :
    candidateLinks [a, b] = keepFirst candidateKey
      ((if observationBefore b a then [b, a] else [a, b]).filterMap candidate?) := by
  rw [candidateLinks_eq, sortSliceBy_pair]

/-- The order of the observations does not matter. -/
theorem candidateLinks_perm {observations' : List Observation}
    (h : observations.Perm observations') :
    candidateLinks observations = candidateLinks observations' := by
  rw [candidateLinks_eq, candidateLinks_eq,
    filterMap_eq_of_map_eq observationSortKey (fun a b => candidate?_eq_of_key_eq)
      (sortSliceBy_map_eq observationBefore_iff h)]

theorem mem_sorted_candidates :
    link ∈ (sortSliceBy observationBefore observations).filterMap candidate? ↔
      ∃ o ∈ observations, o.candidate? = some link := by
  rw [mem_filterMap]
  constructor
  · rintro ⟨o, ho, hlink⟩
    exact ⟨o, (sortSliceBy_perm observationBefore observations).mem_iff.1 ho, hlink⟩
  · rintro ⟨o, ho, hlink⟩
    exact ⟨o, (sortSliceBy_perm observationBefore observations).mem_iff.2 ho, hlink⟩

/-- A candidate is the link of an observation. -/
theorem mem_candidateLinks (h : link ∈ candidateLinks observations) :
    ∃ o ∈ observations, o.candidate? = some link := by
  rw [candidateLinks_eq] at h
  exact mem_sorted_candidates.1 ((keepFirst_sublist _).subset h)

theorem mem_candidateCalls {stamps : Nat → Stamp} {call : LinkRow × Stamp}
    (h : call ∈ candidateCalls observations stamps) : call.1 ∈ candidateLinks observations := by
  obtain ⟨i, hi, rfl⟩ := mem_mapIdx.1 h
  exact getElem_mem hi

theorem exists_mem_candidateCalls (stamps : Nat → Stamp) (h : link ∈ candidateLinks observations) :
    ∃ call ∈ candidateCalls observations stamps, call.1 = link := by
  obtain ⟨i, hi, rfl⟩ := getElem_of_mem h
  exact ⟨_, mem_mapIdx.2 ⟨i, hi, rfl⟩, rfl⟩

end Theia
