import Theia.Native.Topology

/-!
# Which ports an anchor tells apart

The patterns of `PhysicalInterfaceAnchor` are searched anywhere in the name, so the anchor of a family
and a port number begins at the first pattern that the family itself contains. A port number has no
letters, so the letters of a name are those of its family.
-/

namespace Theia

open List

/-- Digits, hyphens and slashes with a digit among them, and no hyphen or slash at the end. -/
structure PortNumber (port : String) : Prop where
  chars : ∀ c ∈ port.toList, ('0' ≤ c ∧ c ≤ '9') ∨ c = '-' ∨ c = '/'
  digit : hasDigit port
  last : ∀ c ∈ port.toList.getLast?, "- /".toList.contains c = false

/-- The name is that of a physical family followed by a port number, in any case. -/
structure PortName (lower : Char → Char) (family port name : String) : Prop where
  family_mem : family ∈ physicalPatterns
  number : PortNumber port
  trimmed : trimSpace name = name
  lowered : toLowerWith lower name = family ++ port

/-- The part of a family's name that its anchors begin with. -/
def stem (family : String) : String := (physicalPatterns.findSome? (fromIndex family)).getD ""

def letters (s : String) : List Char := s.toList.filter fun c => 'a' ≤ c && c ≤ 'z'

theorem letters_append (s t : String) : letters (s ++ t) = letters s ++ letters t := by
  simp [letters]

theorem fromIndex_eq_none {s pattern : String} :
    fromIndex s pattern = none ↔ ¬pattern.toList <:+: s.toList := by
  simp only [fromIndex, Option.map_eq_none_iff, find?_eq_none, mem_tails,
    isPrefixOf_iff_prefix, infix_iff_prefix_suffix, not_exists, not_and']

theorem find?_tails_append {sub l rest : List Char} (more : List Char)
    (h : l.tails.find? (fun tail => sub.isPrefixOf tail) = some rest) :
    (l ++ more).tails.find? (fun tail => sub.isPrefixOf tail) = some (rest ++ more) := by
  induction l with
  | nil =>
    obtain ⟨hsub, rfl⟩ : sub = [] ∧ [] = rest := by simpa using h
    cases more <;> simp [hsub]
  | cons c l ih =>
    simp only [cons_append, tails, find?_cons] at h ⊢
    cases hhere : sub.isPrefixOf (c :: l) with
    | true =>
      have hsub := isPrefixOf_iff_prefix.1 hhere
      have hmore : sub.isPrefixOf (c :: (l ++ more)) = true :=
        isPrefixOf_iff_prefix.2 (hsub.trans (prefix_append _ more))
      rw [hhere] at h
      cases h
      rw [hmore]
      rfl
    | false =>
      rw [hhere] at h
      -- the text is found later in `l`, so it is not longer than what is compared with it here
      have hprefix := isPrefixOf_iff_prefix.1 (find?_some h)
      have hsuffix := (mem_tails _ _).1 (mem_of_find?_eq_some h)
      have hlength : sub.length ≤ (c :: l).length :=
        hprefix.length_le.trans (hsuffix.length_le.trans (Nat.le_succ _))
      have hmore : sub.isPrefixOf (c :: (l ++ more)) = false := by
        rw [← hhere, Bool.eq_iff_iff, isPrefixOf_iff_prefix, isPrefixOf_iff_prefix]
        exact isPrefix_append_of_length hlength
      rw [hmore]
      exact ih h

namespace PortNumber

variable {port : String} (hport : PortNumber port)
include hport

theorem ne_nil : port.toList ≠ [] := by
  intro h
  have hdigit := hport.digit
  simp [hasDigit, h] at hdigit

theorem letters_append_eq (s : String) : letters (s ++ port) = letters s := by
  rw [letters_append, append_right_eq_self, letters, filter_eq_nil_iff]
  intro c hc
  simp only [Bool.and_eq_true, decide_eq_true_eq, not_and, Char.le_def]
  rcases hport.chars c hc with ⟨-, hle⟩ | rfl | rfl
  · intro ha
    exact absurd (ha.trans hle) (by decide)
  · decide
  · decide

theorem patternAnchor_eq {family s pattern : String} (hindex : fromIndex family pattern = some s)
    (hchars : s.toList.all anchorChar)
    (hhead : s.toList.head?.any fun c => !"- /".toList.contains c) :
    patternAnchor (family ++ port) pattern = some (s ++ port) := by
  obtain ⟨rest, hfound, rfl⟩ := Option.map_eq_some_iff.1 hindex
  simp only [String.toList_ofList] at hchars hhead
  obtain ⟨head, hrest, hcut⟩ := (Option.any_eq_true _ _).1 hhead
  have hall : ∀ c ∈ rest ++ port.toList, anchorChar c := by
    intro c hc
    rcases mem_append.1 hc with hc | hc
    · exact all_eq_true.1 hchars c hc
    · have hchar := hport.chars c hc
      simp only [anchorChar, Bool.or_eq_true, Bool.and_eq_true, decide_eq_true_eq]
      tauto
  have htrim : trimList (fun c => "- /".toList.contains c) (rest ++ port.toList) =
      rest ++ port.toList := by
    apply trimList_eq_self
    · rw [head?_append, hrest]
      rintro _ ⟨⟩
      simpa using hcut
    · rw [getLast?_append_of_ne_nil _ hport.ne_nil]
      exact hport.last
  have hdigit : hasDigit (String.ofList (rest ++ port.toList)) := by
    have hdigit := hport.digit
    simp_all [hasDigit]
  have hport : String.ofList rest ++ port = String.ofList (rest ++ port.toList) := by
    rw [String.ofList_append, String.ofList_toList]
  rw [patternAnchor, fromIndex, String.toList_append, find?_tails_append port.toList hfound, hport]
  simp only [Option.map_some, Option.bind_some, String.toList_ofList,
    takeWhile_eq_self_iff.2 hall, trimCutset, htrim, hdigit, if_true]

end PortNumber

/-! ### The families of the source -/

/-- The first patterns have letters that the family does not have, and the next one is found at the
stem of the family. -/
theorem stem_found : ∀ family ∈ physicalPatterns, ∃ i < physicalPatterns.length,
    fromIndex family (physicalPatterns.getD i "") = some (stem family) ∧
    (∀ pattern ∈ physicalPatterns.take i, ¬letters pattern <:+: letters family) ∧
    (stem family).toList.all anchorChar ∧
    (stem family).toList.head?.any fun c => !"- /".toList.contains c := by
  decide +kernel

theorem letters_hints : ∀ family ∈ physicalPatterns, ∀ hint ∈ virtualHints,
    ¬letters hint <:+: letters family := by
  decide +kernel

theorem stem_of_letters : ∀ f ∈ physicalPatterns, ∀ g ∈ physicalPatterns,
    letters (stem f) = letters (stem g) → stem f = stem g := by
  decide +kernel

section Names

variable {lower : Char → Char} {family port name : String} (h : PortName lower family port name)
include h

theorem PortName.not_infix {sub : String} (hsub : ¬letters sub <:+: letters family) :
    ¬sub.toList <:+: (family ++ port).toList := by
  intro hfound
  rw [← h.number.letters_append_eq family] at hsub
  exact hsub (hfound.filter _)

theorem physicalInterfaceAnchor_eq : physicalInterfaceAnchor lower name = stem family ++ port := by
  have hne : family ++ port ≠ "" := fun hempty => h.number.ne_nil (by simp_all)
  have hhints : virtualHints.any (containsString (family ++ port)) = false := by
    simp only [any_eq_false, containsString, decide_eq_true_eq]
    exact fun hint hhint => h.not_infix (letters_hints family h.family_mem hint hhint)
  obtain ⟨i, hi, hindex, hbefore, hchars, hhead⟩ := stem_found family h.family_mem
  have hpatterns : physicalPatterns.findSome? (patternAnchor (family ++ port)) =
      some (stem family ++ port) := by
    rw [findSome?_eq_some_iff]
    refine ⟨physicalPatterns.take i, physicalPatterns.getD i "", physicalPatterns.drop (i + 1), ?_,
      h.number.patternAnchor_eq hindex hchars hhead, fun pattern hpattern => ?_⟩
    · rw [getD_eq_getElem _ _ hi, cons_getElem_drop_succ, take_append_drop]
    · rw [patternAnchor, fromIndex_eq_none.2 (h.not_infix (hbefore pattern hpattern))]
      rfl
  simp only [physicalInterfaceAnchor, h.trimmed, h.lowered, if_neg hne, hhints, hpatterns]
  rfl

end Names

/-- Two ports have one anchor exactly if their families have one stem and their numbers are the same.
So if families with one stem are the same, equal anchors are of names that are equal but for case. -/
theorem port_anchors_tell {lower : Char → Char} {f g p q a b : String}
    (ha : PortName lower f p a) (hb : PortName lower g q b) :
    (physicalInterfaceAnchor lower a = physicalInterfaceAnchor lower b ↔ stem f = stem g ∧ p = q) ∧
    ((stem f = stem g → f = g) →
      physicalInterfaceAnchor lower a = physicalInterfaceAnchor lower b →
        toLowerWith lower a = toLowerWith lower b) := by
  have hiff : physicalInterfaceAnchor lower a = physicalInterfaceAnchor lower b ↔
      stem f = stem g ∧ p = q := by
    rw [physicalInterfaceAnchor_eq ha, physicalInterfaceAnchor_eq hb]
    refine ⟨fun h => ?_, fun ⟨hstem, hport⟩ => by rw [hstem, hport]⟩
    have hletters := congrArg letters h
    rw [ha.number.letters_append_eq, hb.number.letters_append_eq] at hletters
    have hstem := stem_of_letters f ha.family_mem g hb.family_mem hletters
    rw [hstem] at h
    exact ⟨hstem, by simpa using h⟩
  refine ⟨hiff, fun hfamily hanchor => ?_⟩
  obtain ⟨hstem, hport⟩ := hiff.1 hanchor
  rw [ha.lowered, hb.lowered, hfamily hstem, hport]

theorem port_anchors_tell_ge : PortName Char.toLower "ge-" "0/0/1" "ge-0/0/1" ∧
    PortName Char.toLower "xe-" "0/0/1" "XE-0/0/1" ∧
    (physicalInterfaceAnchor Char.toLower "ge-0/0/1" =
        physicalInterfaceAnchor Char.toLower "XE-0/0/1" →
      toLowerWith Char.toLower "ge-0/0/1" = toLowerWith Char.toLower "XE-0/0/1") := by
  have hport : PortNumber "0/0/1" := ⟨by simp, by decide +kernel, by simp⟩
  have ha : PortName Char.toLower "ge-" "0/0/1" "ge-0/0/1" :=
    ⟨by decide +kernel, hport, by decide +kernel, by decide +kernel⟩
  have hb : PortName Char.toLower "xe-" "0/0/1" "XE-0/0/1" :=
    ⟨by decide +kernel, hport, by decide +kernel, by decide +kernel⟩
  exact ⟨ha, hb, (port_anchors_tell ha hb).2 (by decide +kernel)⟩

/-- The Ethernet families have one stem, so ports of two speeds with one number have one anchor. -/
theorem port_anchors_merge : PortName Char.toLower "gigabitethernet" "0/1" "GigabitEthernet0/1" ∧
    PortName Char.toLower "fastethernet" "0/1" "FastEthernet0/1" ∧
    physicalInterfaceAnchor Char.toLower "GigabitEthernet0/1" =
      physicalInterfaceAnchor Char.toLower "FastEthernet0/1" ∧
    toLowerWith Char.toLower "GigabitEthernet0/1" ≠ toLowerWith Char.toLower "FastEthernet0/1" := by
  have hport : PortNumber "0/1" := ⟨by simp, by decide +kernel, by simp⟩
  exact ⟨⟨by decide +kernel, hport, by decide +kernel, by decide +kernel⟩,
    ⟨by decide +kernel, hport, by decide +kernel, by decide +kernel⟩,
    by decide +kernel, by decide +kernel⟩

end Theia
