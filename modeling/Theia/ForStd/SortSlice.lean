import Mathlib

/-!
# Sorting by a key

`sortSliceBy` sorts a list by a strict order that is given as a Boolean test, as library sorts are
called with a "less than" function. When the test compares keys of a linear order and no two
elements share a key, the sorted list depends on the set of elements only.

Key results:
- **`sortSliceBy_pairwise`**: the result is sorted
- **`sortSliceBy_eq`**: a sorted permutation is the result
-/

universe u v

variable {α : Type u} {κ : Type v} [LinearOrder κ]

/-- Sort a list by a strict order. -/
def sortSliceBy (before : α → α → Bool) (l : List α) : List α :=
  l.mergeSort fun a b => !before b a

omit [LinearOrder κ] in
theorem sortSliceBy_perm (before : α → α → Bool) (l : List α) : (sortSliceBy before l).Perm l :=
  List.mergeSort_perm l _

variable {before : α → α → Bool} {key : α → κ}

section

variable (h : ∀ a b, before a b = true ↔ key a < key b)
include h

/-- The result is sorted. -/
theorem sortSliceBy_pairwise (l : List α) :
    (sortSliceBy before l).Pairwise fun a b => key a ≤ key b := by
  have hle : ∀ a b, (!before b a) = true ↔ key a ≤ key b := by
    intro a b
    rw [Bool.not_eq_true', ← Bool.not_eq_true, h, not_lt]
  have hsorted : (sortSliceBy before l).Pairwise fun a b => (!before b a) = true := by
    apply List.pairwise_mergeSort
    · simpa [hle] using fun a b c => le_trans
    · intro a b
      simpa [hle] using le_total (key a) (key b)
  exact hsorted.imp fun hab => (hle _ _).1 hab

/-- A sorted permutation is the result, when the key tells the elements apart. -/
theorem sortSliceBy_eq {l l' : List α}
    (hperm : l.Perm l') (hinj : ∀ a ∈ l, ∀ b ∈ l, key a = key b → a = b)
    (hsorted : l'.Pairwise fun a b => key a ≤ key b) : sortSliceBy before l = l' := by
  have hp : (sortSliceBy before l).Perm l := sortSliceBy_perm before l
  apply (hp.trans hperm).eq_of_pairwise _ (sortSliceBy_pairwise h l) hsorted
  intro a b ha hb hab hba
  exact hinj a (hp.mem_iff.1 ha) b (hperm.mem_iff.2 hb) (le_antisymm hab hba)

/-- Two sorted lists of the same elements have the same keys, in the same order. -/
theorem sortSliceBy_map_eq {l l' : List α}
    (hperm : l.Perm l') : (sortSliceBy before l).map key = (sortSliceBy before l').map key := by
  have hkeys : ((sortSliceBy before l).map key).Perm ((sortSliceBy before l').map key) :=
    (((sortSliceBy_perm before l).trans hperm).trans (sortSliceBy_perm before l').symm).map key
  exact hkeys.eq_of_pairwise (fun a b _ _ hab hba => le_antisymm hab hba)
    (List.pairwise_map.2 (sortSliceBy_pairwise h l))
    (List.pairwise_map.2 (sortSliceBy_pairwise h l'))

end

omit [LinearOrder κ] in
/-- What depends on the keys only is the same for two lists with the same keys. -/
theorem filterMap_eq_of_map_eq {β : Type u} (key : α → κ) {f : α → Option β}
    (hf : ∀ a b, key a = key b → f a = f b) {l l' : List α} (h : l.map key = l'.map key) :
    l.filterMap f = l'.filterMap f := by
  induction l generalizing l' with
  | nil =>
    rw [List.map_nil, eq_comm, List.map_eq_nil_iff] at h
    rw [h]
  | cons a l ih =>
    cases l' with
    | nil => cases h
    | cons b l' =>
      rw [List.map_cons, List.map_cons, List.cons.injEq] at h
      rw [List.filterMap_cons, List.filterMap_cons, hf a b h.1, ih h.2]

omit [LinearOrder κ] in
theorem sortSliceBy_pair (before : α → α → Bool) (a b : α) :
    sortSliceBy before [a, b] = if before b a then [b, a] else [a, b] := by
  unfold sortSliceBy
  rw [List.mergeSort]
  simp [List.MergeSort.Internal.splitInTwo, List.merge]
  cases before b a <;> simp
