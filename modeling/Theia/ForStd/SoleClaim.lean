import Theia.ForStd.FMap

/-!
# Keys with a sole claimant

A loop over claims of keys that keeps the owner of a key only as long as nobody else claims it. A
key that two owners claim stays out, whatever the order of the claims.

Key results:
- **`SoleClaims.get_addAll`**: a key has an owner exactly if all of its claims are of that owner
-/

universe u v

variable {κ : Type u} {α : Type v} [DecidableEq κ] [DecidableEq α]

/-- The owners of the keys that one owner claims, and the keys that several do. -/
structure SoleClaims (κ : Type u) (α : Type v) where
  owners : FMap κ α := ∅
  ambiguous : List κ := []

namespace SoleClaims

/-- One claim. -/
def add (m : SoleClaims κ α) (claim : κ × α) : SoleClaims κ α :=
  match m.owners.get claim.1 with
  | some existing =>
    if existing ≠ claim.2 then
      { owners := m.owners.erase claim.1, ambiguous := claim.1 :: m.ambiguous }
    else if claim.1 ∈ m.ambiguous then m
    else { m with owners := m.owners.insert claim.1 claim.2 }
  | none =>
    if claim.1 ∈ m.ambiguous then m
    else { m with owners := m.owners.insert claim.1 claim.2 }

/-- What the loop knows after a list of claims. -/
structure Describes (m : SoleClaims κ α) (claims : List (κ × α)) : Prop where
  owner : ∀ k a, m.owners.get k = some a ↔ (k, a) ∈ claims ∧ ∀ b, (k, b) ∈ claims → b = a
  ambiguous : ∀ k, k ∈ m.ambiguous ↔ ∃ a b, (k, a) ∈ claims ∧ (k, b) ∈ claims ∧ a ≠ b

variable {m : SoleClaims κ α} {claims : List (κ × α)}

omit [DecidableEq κ] [DecidableEq α] in
theorem Describes.empty : Describes ({} : SoleClaims κ α) [] := by
  constructor
  · intro k a
    simp
  · intro k
    simp

/-- The three outcomes of a claim for its own key: a second owner, a key that was ambiguous before,
or a sole owner. -/
theorem add_self (m : SoleClaims κ α) (k : κ) (a : α) :
    ((m.add (k, a)).owners.get k = none ∧ k ∈ (m.add (k, a)).ambiguous ∧
        ∃ e, m.owners.get k = some e ∧ e ≠ a) ∨
      (k ∈ m.ambiguous ∧ (m.add (k, a)).owners.get k = m.owners.get k ∧
        k ∈ (m.add (k, a)).ambiguous) ∨
      (k ∉ m.ambiguous ∧ (m.add (k, a)).owners.get k = some a ∧ k ∉ (m.add (k, a)).ambiguous ∧
        ∀ e, m.owners.get k = some e → e = a) := by
  unfold SoleClaims.add
  cases hget : m.owners.get k with
  | none =>
    by_cases hamb : k ∈ m.ambiguous
    · simp [hamb, hget]
    · simp [hamb]
  | some e =>
    by_cases he : e = a
    · by_cases hamb : k ∈ m.ambiguous
      · simp [hamb, hget, he]
      · simp [hamb, he]
    · simp [he]

/-- A claim does not change other keys. -/
theorem add_other (m : SoleClaims κ α) {k k' : κ} (a : α) (h : k' ≠ k) :
    (m.add (k, a)).owners.get k' = m.owners.get k' ∧
      (k' ∈ (m.add (k, a)).ambiguous ↔ k' ∈ m.ambiguous) := by
  unfold SoleClaims.add
  split <;> split <;> (try split) <;> simp [h]

omit [DecidableEq κ] [DecidableEq α] in
/-- All claims of a key that is not ambiguous are of its owner. -/
theorem Describes.claims_of_sole (h : Describes m claims) {k : κ} {a b : α}
    (hamb : k ∉ m.ambiguous) (hsole : ∀ e, m.owners.get k = some e → e = a)
    (hb : (k, b) ∈ claims) : b = a := by
  apply hsole b
  rw [h.owner]
  refine ⟨hb, ?_⟩
  intro c hc
  by_contra hcb
  exact hamb ((h.ambiguous k).2 ⟨c, b, hc, hb, hcb⟩)

theorem Describes.add_owner (h : Describes m claims) (k : κ) (a b : α) :
    (m.add (k, a)).owners.get k = some b ↔
      ((k, b) ∈ claims ∨ b = a) ∧ ∀ c, (k, c) ∈ claims ∨ c = a → c = b := by
  rcases m.add_self k a with ⟨hnone, -, e, he, hne⟩ | ⟨hamb, hget, -⟩ | ⟨hamb, hget, -, hsole⟩
  · have hmem := ((h.owner k e).1 he).1
    rw [hnone]
    constructor
    · intro hsome
      cases hsome
    · rintro ⟨-, hall⟩
      exact absurd ((hall e (.inl hmem)).trans (hall a (.inr rfl)).symm) hne
  · obtain ⟨c, d, hc, hd, hcd⟩ := (h.ambiguous k).1 hamb
    rw [hget, h.owner]
    constructor
    · rintro ⟨-, hall⟩
      exact absurd ((hall c hc).trans (hall d hd).symm) hcd
    · rintro ⟨-, hall⟩
      exact absurd ((hall c (.inl hc)).trans (hall d (.inl hd)).symm) hcd
  · rw [hget]
    constructor
    · intro heq
      cases heq
      exact ⟨.inr rfl, fun c hc => hc.elim (h.claims_of_sole hamb hsole) id⟩
    · rintro ⟨-, hall⟩
      rw [hall a (.inr rfl)]

theorem Describes.add_ambiguous (h : Describes m claims) (k : κ) (a : α) :
    k ∈ (m.add (k, a)).ambiguous ↔
      ∃ b c, ((k, b) ∈ claims ∨ b = a) ∧ ((k, c) ∈ claims ∨ c = a) ∧ b ≠ c := by
  rcases m.add_self k a with ⟨-, hamb, e, he, hne⟩ | ⟨hold, -, hamb⟩ | ⟨hold, -, hamb, hsole⟩
  · exact iff_of_true hamb ⟨e, a, .inl ((h.owner k e).1 he).1, .inr rfl, hne⟩
  · obtain ⟨b, c, hb, hc, hbc⟩ := (h.ambiguous k).1 hold
    exact iff_of_true hamb ⟨b, c, .inl hb, .inl hc, hbc⟩
  · refine iff_of_false hamb ?_
    rintro ⟨b, c, hb, hc, hbc⟩
    have hb' : b = a := hb.elim (h.claims_of_sole hold hsole) id
    have hc' : c = a := hc.elim (h.claims_of_sole hold hsole) id
    exact hbc (hb'.trans hc'.symm)

theorem Describes.add (h : Describes m claims) (claim : κ × α) :
    Describes (m.add claim) (claims ++ [claim]) := by
  obtain ⟨k₀, a₀⟩ := claim
  constructor
  · intro k a
    by_cases hk : k = k₀
    · subst hk
      simpa using h.add_owner k a₀ a
    · rw [(m.add_other a₀ hk).1, h.owner k a]
      simp [hk]
  · intro k
    by_cases hk : k = k₀
    · subst hk
      simpa using h.add_ambiguous k a₀
    · rw [(m.add_other a₀ hk).2, h.ambiguous k]
      simp [hk]

/-- All claims of a list. -/
def addAll (claims : List (κ × α)) : SoleClaims κ α := claims.foldl add {}

theorem describes_addAll (claims : List (κ × α)) : Describes (addAll claims) claims := by
  induction claims using List.reverseRecOn with
  | nil => exact .empty
  | append_singleton claims claim ih =>
    rw [addAll, List.foldl_append]
    exact ih.add claim

/-- A key has an owner exactly if all of its claims are of that owner. -/
theorem get_addAll {claims : List (κ × α)} {k : κ} {a : α} :
    (addAll claims).owners.get k = some a ↔ (k, a) ∈ claims ∧ ∀ b, (k, b) ∈ claims → b = a :=
  (describes_addAll claims).owner k a

end SoleClaims
