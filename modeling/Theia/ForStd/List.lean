import Mathlib

/-!
# List lemmas for the standard library

What the formats of a program rest on: trimming, skipping elements whose key has been seen, splitting
what was joined, and loops that may fail.
-/

open List

variable {α β ε σ τ : Type}

/-! ### Trimming -/

/-- Drop the elements of `cut` from both ends of a list. -/
def trimList (cut : α → Bool) (l : List α) : List α :=
  ((l.dropWhile cut).reverse.dropWhile cut).reverse

theorem trimList_sublist (cut : α → Bool) (l : List α) : (trimList cut l).Sublist l := by
  have hback : (trimList cut l).Sublist (l.dropWhile cut) := ( rdropWhile_prefix cut _).sublist
  exact hback.trans (dropWhile_sublist cut)

/-- A trimmed list is not trimmed further. -/
theorem trimList_trimList (cut : α → Bool) (l : List α) :
    trimList cut (trimList cut l) = trimList cut l := by
  have hfront : (trimList cut l).dropWhile cut = trimList cut l := by
    -- what is left of the front of the list is not cut
    have hprefix : trimList cut l <+: l.dropWhile cut := rdropWhile_prefix cut _
    obtain ⟨rest, hrest⟩ := hprefix
    cases hl : trimList cut l with
    | nil => rfl
    | cons c t =>
      rw [hl] at hrest
      have hhead := head?_dropWhile_not cut l
      rw [← hrest] at hhead
      simp only [cons_append, head?_cons] at hhead
      rw [dropWhile_cons_of_neg]
      simpa using hhead
  have hback : rdropWhile cut (trimList cut l) = trimList cut l :=
    rdropWhile_idempotent cut (l.dropWhile cut)
  calc trimList cut (trimList cut l)
    _ = rdropWhile cut ((trimList cut l).dropWhile cut) := rfl
    _ = trimList cut l := by rw [hfront, hback]

/-- A list whose ends are not cut is trimmed. -/
theorem trimList_eq_self {cut : α → Bool} {l : List α} (hhead : ∀ c ∈ l.head?, cut c = false)
    (hlast : ∀ c ∈ l.getLast?, cut c = false) : trimList cut l = l := by
  have hdrop : ∀ l : List α, (∀ c ∈ l.head?, cut c = false) → l.dropWhile cut = l := by
    intro l h
    cases l with
    | nil => rfl
    | cons c l => simp [h c rfl]
  rw [trimList, hdrop l hhead, hdrop l.reverse (by simpa using hlast), reverse_reverse]

/-! ### The first element of each key -/

section

variable {κ : Type} [DecidableEq κ]

/-- The loop, with the keys seen so far. -/
def keepFirstFrom (key : α → κ) : List κ → List α → List α
  | _, [] => []
  | seen, a :: l =>
    if key a ∈ seen then keepFirstFrom key seen l else a :: keepFirstFrom key (key a :: seen) l

/-- The first element of each key, in order. -/
def keepFirst (key : α → κ) (l : List α) : List α := keepFirstFrom key [] l

variable {key : α → κ}

theorem keepFirstFrom_sublist (seen : List κ) (l : List α) :
    (keepFirstFrom key seen l).Sublist l := by
  induction l generalizing seen with
  | nil => exact .refl _
  | cons a l ih =>
    unfold keepFirstFrom
    split
    · exact (ih seen).cons a
    · exact (ih _).cons_cons a

theorem keepFirst_sublist (l : List α) : (keepFirst key l).Sublist l :=
  keepFirstFrom_sublist [] l

end

namespace List

/-! ### Joining and splitting -/

/-- What holds of the pieces and survives joining two of them holds of a joined list. -/
theorem intercalate_rule {R : List α → Prop} {sep : α} {ls : List (List α)}
    (happend : ∀ a b, R a → R b → R (a ++ sep :: b)) (hne : ls ≠ []) (h : ∀ l ∈ ls, R l) :
    R ([sep].intercalate ls) := by
  induction ls with
  | nil => exact absurd rfl hne
  | cons l rest ih =>
    have hl := h l mem_cons_self
    cases rest with
    | nil => simpa using hl
    | cons l' rest =>
      rw [intercalate_cons_cons, append_assoc]
      exact happend l _ hl (ih (cons_ne_nil _ _) fun l hl => h l (mem_cons_of_mem _ hl))

/-- Splitting at a class of separators undoes joining by one of them. -/
theorem splitOnP_intercalate {p : α → Bool} {sep : α} {ls : List (List α)} (hsep : p sep = true)
    (hne : ls ≠ []) (h : ∀ l ∈ ls, ∀ x ∈ l, p x = false) :
    ([sep].intercalate ls).splitOnP p = ls := by
  induction ls with
  | nil => exact absurd rfl hne
  | cons l rest ih =>
    have hl := h l mem_cons_self
    cases rest with
    | nil => simpa using splitOnP_eq_singleton hl
    | cons l' rest =>
      rw [intercalate_cons_cons, append_assoc, singleton_append,
        splitOnP_append_cons_of_forall_mem hl sep hsep,
        ih (cons_ne_nil _ _) fun l hl => h l (mem_cons_of_mem _ hl)]

/-! ### Loops -/

/-- A loop whose steps all work, on states of the form `i t`. -/
theorem foldlM_map_ok {f : σ → β → Except ε σ} {i : τ → σ} {g : α → β} {step : τ → α → τ}
    {l : List α} (h : ∀ a ∈ l, ∀ t, f (i t) (g a) = .ok (i (step t a))) (t : τ) :
    (l.map g).foldlM f (i t) = .ok (i (l.foldl step t)) := by
  induction l generalizing t with
  | nil => rfl
  | cons a rest ih =>
    rw [map_cons, foldlM_cons, h a mem_cons_self]
    exact ih (fun b hb => h b (mem_cons_of_mem _ hb)) _

/-! ### Filters -/

/-- Two sets select the same part of a list exactly if they agree on its elements. -/
theorem filter_mem_eq_iff [DecidableEq α] {l : List α} {A B : Finset α} :
    (l.filter fun x => x ∈ A) = (l.filter fun x => x ∈ B) ↔ ∀ x ∈ l, x ∈ A ↔ x ∈ B := by
  constructor
  · intro h x hx
    have hmem : x ∈ (l.filter fun x => x ∈ A) ↔ x ∈ (l.filter fun x => x ∈ B) := by rw [h]
    simpa [hx] using hmem
  · intro h
    exact filter_congr fun x hx => by simp [h x hx]

end List
