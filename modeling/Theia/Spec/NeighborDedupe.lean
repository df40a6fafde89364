import Theia.Native.NeighborDedupe

/-!
# Deduplicating neighbors keeps the best report

A neighbor is dropped only for one with a greater score, so the best one of an identity stays, and what
was kept from the whole list is kept from a part of it.
-/

namespace Theia

open List

namespace NeighborRules

variable {rules : NeighborRules} {neighbors : List NeighborInfo} {n candidate other : NeighborInfo}

theorem mem_dedupe : n ∈ rules.dedupe neighbors ↔
    n ∈ neighbors ∧ rules.shouldDropPreferredNeighbor n neighbors = false := by
  simp [dedupe]

theorem exists_of_drop (h : rules.shouldDropPreferredNeighbor n neighbors = true) :
    ∃ other ∈ neighbors, rules.displaces other n = true := by
  simp only [shouldDropPreferredNeighbor, Bool.and_eq_true, any_eq_true] at h
  exact h.2

theorem exists_kept (h : n ∈ neighbors) :
    ∃ kept ∈ rules.dedupe neighbors, rules.remoteIdentity kept = rules.remoteIdentity n := by
  have hne : (neighbors.toFinset.filter fun other =>
      rules.remoteIdentity other = rules.remoteIdentity n).Nonempty :=
    ⟨n, Finset.mem_filter.2 ⟨mem_toFinset.2 h, rfl⟩⟩
  obtain ⟨best, hbest, hmax⟩ := Finset.exists_max_image _ rules.neighborPreferenceScore hne
  obtain ⟨hmem, hidentity⟩ := Finset.mem_filter.1 hbest
  refine ⟨best, mem_dedupe.2 ⟨mem_toFinset.1 hmem, ?_⟩, hidentity⟩
  by_contra hdrop
  obtain ⟨other, hother, hdisplaces⟩ := exists_of_drop (Bool.not_eq_false _ ▸ hdrop)
  simp only [displaces, Bool.and_eq_true, decide_eq_true_eq] at hdisplaces
  have hle := hmax other (Finset.mem_filter.2
    ⟨mem_toFinset.2 hother, hdisplaces.1.1.trans hidentity⟩)
  omega

theorem not_drop_of_complete (neighbors : List NeighborInfo)
    (h : rules.isCompletePhysicalNeighbor n = true) :
    rules.shouldDropPreferredNeighbor n neighbors = false := by
  by_contra hdrop
  obtain ⟨other, -, hdisplaces⟩ := exists_of_drop (Bool.not_eq_false _ ▸ hdrop)
  have hremote : rules.isLikelyPhysicalInterface n.remotePortID = true :=
    (Bool.and_eq_true_iff.1 h).2
  simp [displaces, h, hremote] at hdisplaces

theorem dedupe_dedupe (rules : NeighborRules) (neighbors : List NeighborInfo) :
    rules.dedupe (rules.dedupe neighbors) = rules.dedupe neighbors := by
  refine filter_eq_self.2 fun n hn => ?_
  obtain ⟨-, hkept⟩ := mem_dedupe.1 hn
  simp only [shouldDropPreferredNeighbor, Bool.and_eq_false_iff, any_eq_false,
    Bool.not_eq_true'] at hkept ⊢
  exact hkept.imp_right fun hnone other hother => hnone other (mem_dedupe.1 hother).1

theorem dedupe_congr {isLLDP : DiscoveryProtocol → Bool}
    (h : ∀ n ∈ neighbors, isLLDP n.protocol = rules.isLLDP n.protocol) :
    dedupe { rules with isLLDP } neighbors = rules.dedupe neighbors := by
  have hscore : ∀ n ∈ neighbors, neighborPreferenceScore { rules with isLLDP } n =
      rules.neighborPreferenceScore n := by
    intro n hn
    simp only [neighborPreferenceScore, h n hn]
    rfl
  have hdisplaces : ∀ n ∈ neighbors, ∀ other ∈ neighbors,
      displaces { rules with isLLDP } other n = rules.displaces other n := by
    intro n hn other hother
    simp only [displaces, hscore n hn, hscore other hother]
    rfl
  apply filter_congr
  intro n hn
  have hany : neighbors.any (displaces { rules with isLLDP } · n) =
      neighbors.any (rules.displaces · n) := by
    rw [Bool.eq_iff_iff, any_eq_true, any_eq_true]
    refine exists_congr fun other => and_congr_right fun hother => ?_
    rw [hdisplaces n hn other hother]
  simp only [shouldDropPreferredNeighbor, hany]
  rfl

end NeighborRules

theorem serviceRules_eq (lower : Char → Char) :
    serviceRules lower = { snmpRules lower with isLLDP := fun protocol => protocol = .lldp } := by
  have hanchor : discoveredPhysicalInterfaceAnchor lower = physicalInterfaceAnchor lower := by
    funext name
    simp only [discoveredPhysicalInterfaceAnchor, physicalInterfaceAnchor, normalizeNeighborIdentity,
      extractDiscoveredPhysicalInterfaceAnchor]
    cases physicalPatterns.findSome? (patternAnchor (toLowerWith lower (trimSpace name))) <;> rfl
  simp [serviceRules, snmpRules, hanchor]

theorem discovered_eq {lower : Char → Char} {neighbors : List NeighborInfo}
    (h : ∀ n ∈ neighbors, equalFold n.protocol.toString "lldp" = true → n.protocol = .lldp) :
    dedupePreferredDiscoveredNeighbors lower neighbors = dedupePreferredNeighbors lower neighbors := by
  unfold dedupePreferredDiscoveredNeighbors
  rw [serviceRules_eq]
  apply NeighborRules.dedupe_congr
  intro n hn
  show decide (n.protocol = .lldp) = equalFold n.protocol.toString "lldp"
  by_cases hlldp : n.protocol = .lldp
  · rw [hlldp]
    rfl
  · rw [decide_eq_false hlldp, Bool.eq_false_iff.2 fun hfold => hlldp (h n hn hfold)]

/-- For every list: each identity in it keeps a neighbor, all neighbors with physical ports on both ends
are kept, the order stays, and a second pass drops nothing. The copy in the service package has the same
result if no protocol is LLDP in another spelling. -/
theorem dedupe_keeps_best (lower : Char → Char) (neighbors : List NeighborInfo) :
    (∀ n ∈ neighbors, ∃ kept ∈ dedupePreferredNeighbors lower neighbors,
      (snmpRules lower).remoteIdentity kept = (snmpRules lower).remoteIdentity n) ∧
    (dedupePreferredNeighbors lower neighbors).filter (snmpRules lower).isCompletePhysicalNeighbor =
      neighbors.filter (snmpRules lower).isCompletePhysicalNeighbor ∧
    (dedupePreferredNeighbors lower neighbors).Sublist neighbors ∧
    dedupePreferredNeighbors lower (dedupePreferredNeighbors lower neighbors) =
      dedupePreferredNeighbors lower neighbors ∧
    ((∀ n ∈ neighbors, equalFold n.protocol.toString "lldp" = true → n.protocol = .lldp) →
      dedupePreferredDiscoveredNeighbors lower neighbors =
        dedupePreferredNeighbors lower neighbors) := by
  refine ⟨fun n hn => NeighborRules.exists_kept hn, ?_, filter_sublist,
    NeighborRules.dedupe_dedupe _ _, discovered_eq⟩
  unfold dedupePreferredNeighbors NeighborRules.dedupe
  rw [filter_filter]
  apply filter_congr
  intro n _
  cases hcomplete : (snmpRules lower).isCompletePhysicalNeighbor n with
  | false => rfl
  | true =>
    rw [NeighborRules.not_drop_of_complete neighbors hcomplete]
    rfl

/-- Two reports of a switch, the first without a port. -/
def reportedTwice (protocol : DiscoveryProtocol) : List NeighborInfo :=
  [{ remoteSysName := "core", protocol },
    { remoteSysName := "Core", remotePortID := "ether1", protocol := .cdp }]

theorem dedupe_keeps_best_reportedTwice :
    dedupePreferredDiscoveredNeighbors Char.toLower (reportedTwice .lldp) =
      dedupePreferredNeighbors Char.toLower (reportedTwice .lldp) :=
  (dedupe_keeps_best Char.toLower (reportedTwice .lldp)).2.2.2.2 (by decide +kernel)

/-- With another spelling of the protocol the service package drops the first report. -/
theorem packages_differ :
    dedupePreferredDiscoveredNeighbors Char.toLower (reportedTwice (.other ⟨"LLDP", by decide⟩)) ≠
      dedupePreferredNeighbors Char.toLower (reportedTwice (.other ⟨"LLDP", by decide⟩)) := by
  decide +kernel

end Theia
