import Theia.Native.VendorRegistry

/-!
# Which vendor an object ID selects

The registry compares object IDs as texts and takes the first vendor with a match. It respects the
arcs of an object ID exactly if the selected vendor has a prefix that ends at an arc and no other
vendor gets in its way: another vendor with a textual match would be selected in another order.
-/

namespace Theia

/-- The prefix is the object ID or ends at a dot in it. -/
def coversArcs (oid pre : String) : Bool := oid = pre || hasPrefix oid (pre ++ ".")

theorem hasPrefix_of_coversArcs {oid pre : String} (h : coversArcs oid pre) : hasPrefix oid pre := by
  simp only [coversArcs, hasPrefix, Bool.or_eq_true, decide_eq_true_eq, List.isPrefixOf_iff_prefix,
    String.toList_append] at h ⊢
  obtain rfl | hdot := h
  · exact List.prefix_refl _
  · exact (List.prefix_append _ _).trans hdot

namespace Registry

variable {S : Type} {r r' : Registry S} {lower : Char → Char} {sysObjectID sysDescr : String}
  {v : VendorConfig S}

/-- Two vendors have one prefix that the object ID matches. -/
def SamePrefix (r : Registry S) (sysObjectID : String) : Prop :=
  ∃ v ∈ r.vendors, ∃ w ∈ r.vendors, v ≠ w ∧ ∃ pre ∈ v.detection.sysObjectIDPrefixes,
    pre ∈ w.detection.sysObjectIDPrefixes ∧ coversArcs (trimPrefixDot sysObjectID) pre

/-- The selection respects the arcs of the object ID: the vendor has a prefix in whole arcs of it, no
other vendor has a longer one, and unless two vendors share a prefix every order of the vendors selects
this one. -/
structure RespectsArcs (r : Registry S) (lower : Char → Char) (sysObjectID sysDescr : String)
    (v : VendorConfig S) : Prop where
  longest : ∃ pre ∈ v.detection.sysObjectIDPrefixes, coversArcs (trimPrefixDot sysObjectID) pre ∧
    ∀ w ∈ r.vendors, w ≠ v → ∀ other ∈ w.detection.sysObjectIDPrefixes,
      coversArcs (trimPrefixDot sysObjectID) other → other.length ≤ pre.length
  anyOrder : ¬r.SamePrefix sysObjectID → ∀ r' : Registry S, r'.vendors.Perm r.vendors →
    r'.matchVendor lower sysObjectID sysDescr = v

/-- The vendor has a prefix in whole arcs. Where the object ID begins with a prefix of another vendor,
in whole arcs or not, two vendors share a prefix, and no prefix of the other one in whole arcs is longer
than those of the vendor. -/
structure Unrivalled (r : Registry S) (sysObjectID : String) (v : VendorConfig S) : Prop where
  arcs : ∃ pre ∈ v.detection.sysObjectIDPrefixes, coversArcs (trimPrefixDot sysObjectID) pre
  rivals : ∀ w ∈ r.vendors, w ≠ v → ∀ other ∈ w.detection.sysObjectIDPrefixes,
    hasPrefix (trimPrefixDot sysObjectID) other → r.SamePrefix sysObjectID ∧
      (coversArcs (trimPrefixDot sysObjectID) other → ∃ pre ∈ v.detection.sysObjectIDPrefixes,
        coversArcs (trimPrefixDot sysObjectID) pre ∧ other.length ≤ pre.length)

/-- A selected vendor is configured and has a prefix that the object ID begins with. -/
theorem matchOID_eq_some (h : r.matchOID sysObjectID = some v) : v ∈ r.vendors ∧
    ∃ pre ∈ v.detection.sysObjectIDPrefixes, hasPrefix (trimPrefixDot sysObjectID) pre := by
  refine ⟨List.mem_of_find?_eq_some h, ?_⟩
  have hany := List.find?_some h
  simpa using hany

/-- If no vendor is selected, the object ID begins with no prefix. -/
theorem matchOID_eq_none (h : r.matchOID sysObjectID = none) (hv : v ∈ r.vendors) :
    ∀ pre ∈ v.detection.sysObjectIDPrefixes, ¬hasPrefix (trimPrefixDot sysObjectID) pre := by
  have hany := List.find?_eq_none.1 h v hv
  simpa using hany

/-- Some order of the vendors selects any given one whose prefix the object ID begins with. -/
theorem exists_order_matchOID {pre : String} (hv : v ∈ r.vendors)
    (hpre : pre ∈ v.detection.sysObjectIDPrefixes)
    (hhas : hasPrefix (trimPrefixDot sysObjectID) pre) :
    ∃ r' : Registry S, r'.vendors.Perm r.vendors ∧ r'.matchOID sysObjectID = some v := by
  obtain ⟨before, after, hsplit⟩ := List.append_of_mem hv
  refine ⟨{ r with vendors := v :: (before ++ after) }, ?_, ?_⟩
  · rw [hsplit]
    exact List.perm_middle.symm
  · have hany : v.detection.sysObjectIDPrefixes.any (hasPrefix (trimPrefixDot sysObjectID)) = true :=
      List.any_eq_true.2 ⟨pre, hpre, hhas⟩
    simp [matchOID, hany]

/-- Without a shared prefix every order selects a vendor that has no rival. -/
theorem Unrivalled.matchOID_perm (h : r.Unrivalled sysObjectID v)
    (hmatch : r.matchOID sysObjectID = some v) (hsame : ¬r.SamePrefix sysObjectID)
    (hperm : r'.vendors.Perm r.vendors) : r'.matchOID sysObjectID = some v := by
  cases hother : r'.matchOID sysObjectID with
  | none =>
    obtain ⟨hv, pre, hpre, hhas⟩ := matchOID_eq_some hmatch
    exact absurd hhas (matchOID_eq_none hother (hperm.mem_iff.2 hv) pre hpre)
  | some w =>
    obtain ⟨hw, pre, hpre, hhas⟩ := matchOID_eq_some hother
    by_contra hne
    have hwv : w ≠ v := fun heq => hne (by rw [heq])
    exact hsame (h.rivals w (hperm.mem_iff.1 hw) hwv pre hpre hhas).1

/-- The longest prefix in whole arcs of an unrivalled vendor. -/
theorem Unrivalled.longest (h : r.Unrivalled sysObjectID v) :
    ∃ pre ∈ v.detection.sysObjectIDPrefixes, coversArcs (trimPrefixDot sysObjectID) pre ∧
      ∀ w ∈ r.vendors, w ≠ v → ∀ other ∈ w.detection.sysObjectIDPrefixes,
        coversArcs (trimPrefixDot sysObjectID) other → other.length ≤ pre.length := by
  have hmem : ∀ pre, pre ∈ (v.detection.sysObjectIDPrefixes.filter
      (coversArcs (trimPrefixDot sysObjectID))).toFinset ↔
        pre ∈ v.detection.sysObjectIDPrefixes ∧ coversArcs (trimPrefixDot sysObjectID) pre := by
    simp
  obtain ⟨first, hfirst, hcovers⟩ := h.arcs
  obtain ⟨pre, hpre, hmax⟩ := Finset.exists_max_image _ String.length
    ⟨first, (hmem first).2 ⟨hfirst, hcovers⟩⟩
  rw [hmem] at hpre
  refine ⟨pre, hpre.1, hpre.2, ?_⟩
  intro w hw hne other hother hcovers
  obtain ⟨-, hlonger⟩ := h.rivals w hw hne other hother (hasPrefix_of_coversArcs hcovers)
  obtain ⟨longer, hlonger, hlongerCovers, hle⟩ := hlonger hcovers
  exact hle.trans (hmax longer ((hmem longer).2 ⟨hlonger, hlongerCovers⟩))

end Registry

/-- A vendor of the embedded configuration. -/
def ubiquiti : VendorConfig Unit :=
  { name := "ubiquiti", detection.sysObjectIDPrefixes := ["1.3.6.1.4.1.41112"], settings := () }

def embeddedRegistry : Registry Unit where
  vendors := [
    { name := "mikrotik", detection.sysObjectIDPrefixes := ["1.3.6.1.4.1.14988"], settings := () },
    ubiquiti]
  fallback := { name := "default", settings := () }

end Theia
