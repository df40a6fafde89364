import Mathlib

/-!
# The unique best match

A loop that scores the elements of a list and returns the best one, unless two elements share the
best score. Elements without a score do not match. The answer does not depend on the order of the
list.
-/

universe u

variable {α : Type u}

/-- What the loop carries: the best element with its score, and whether another one has the same
score. -/
structure BestSoFar (α : Type u) where
  best : Option (α × Nat) := none
  ambiguous : Bool := false

/-- One element of the loop. -/
def BestSoFar.add (score : α → Option Nat) (s : BestSoFar α) (x : α) : BestSoFar α :=
  match score x with
  | none => s
  | some n =>
    match s.best with
    | none => { best := some (x, n) }
    | some (_, m) =>
      if m < n then { best := some (x, n) }
      else if n = m then { s with ambiguous := true }
      else s

/-- The element with the best score, if it is the only one with that score. -/
def bestMatch (score : α → Option Nat) (l : List α) : Option α :=
  let s := l.foldl (BestSoFar.add score) {}
  if s.ambiguous then none else s.best.map Prod.fst

/-- What the loop knows about the elements it has seen. -/
structure BestSoFar.Describes (score : α → Option Nat) (s : BestSoFar α) (l : List α) : Prop where
  none : s.best = none → s.ambiguous = false ∧ ∀ y ∈ l, score y = none
  some : ∀ x n, s.best = some (x, n) → x ∈ l ∧ score x = some n ∧
    (∀ y ∈ l, ∀ m, score y = some m → m ≤ n) ∧
    (s.ambiguous = true → ∃ y ∈ l, y ≠ x ∧ score y = some n) ∧
    (s.ambiguous = false → ∀ y ∈ l, score y = some n → y = x)

namespace BestSoFar

open List

variable {score : α → Option Nat} {s : BestSoFar α} {l : List α}

theorem Describes.empty : Describes score ({} : BestSoFar α) [] := by
  constructor
  · simp
  · simp

/-- An element that scores less than the best one, or nothing. -/
theorem Describes.skip (h : Describes score s l) {x : α} (hnone : s.best = .none → score x = .none)
    (hless : ∀ b n, s.best = .some (b, n) → ∀ k, score x = .some k → k < n) :
    Describes score s (l ++ [x]) := by
  constructor
  · intro hbest
    refine ⟨(h.none hbest).1, ?_⟩
    simp only [mem_append, mem_singleton]
    rintro y (hy | rfl)
    · exact (h.none hbest).2 y hy
    · exact hnone hbest
  · intro b n hbest
    obtain ⟨hmem, hb, hmax, hamb, huniq⟩ := h.some b n hbest
    refine ⟨by simp [hmem], hb, ?_, ?_, ?_⟩
    · simp only [mem_append, mem_singleton]
      rintro y (hy | rfl) m hm
      · exact hmax y hy m hm
      · exact (hless b n hbest m hm).le
    · intro hambiguous
      obtain ⟨y, hy, hne, hyn⟩ := hamb hambiguous
      exact ⟨y, by simp [hy], hne, hyn⟩
    · simp only [mem_append, mem_singleton]
      rintro hunamb y (hy | rfl) hyn
      · exact huniq hunamb y hy hyn
      · exact absurd (hless b n hbest n hyn) (lt_irrefl n)

/-- An element that scores more than every one before it. -/
theorem Describes.newBest {x : α} {n : Nat} (hscore : score x = .some n)
    (hless : ∀ y ∈ l, ∀ k, score y = .some k → k < n) :
    Describes score { best := .some (x, n) } (l ++ [x]) := by
  constructor
  · simp
  intro b k heq
  obtain ⟨rfl, rfl⟩ := heq
  refine ⟨by simp, hscore, ?_, by simp, ?_⟩
  · simp only [mem_append, mem_singleton]
    rintro y (hy | rfl) m hm
    · exact (hless y hy m hm).le
    · rw [hscore] at hm
      exact (Option.some.inj hm).ge
  · simp only [mem_append, mem_singleton]
    rintro - y (hy | rfl) hyn
    · exact absurd (hless y hy n hyn) (lt_irrefl n)
    · rfl

theorem Describes.add (h : Describes score s l) {x : α} (hnew : x ∉ l) :
    Describes score (s.add score x) (l ++ [x]) := by
  unfold BestSoFar.add
  cases hscore : score x with
  | none => exact h.skip (fun _ => hscore) (by simp [hscore])
  | some n =>
    cases hbest : s.best with
    | none =>
      have hnone := (h.none hbest).2
      exact .newBest hscore fun y hy k hk => by simp [hnone y hy] at hk
    | some pair =>
      obtain ⟨b, m⟩ := pair
      obtain ⟨hmem, hb, hmax, -⟩ := h.some b m hbest
      dsimp only
      split
      · rename_i hlt
        exact .newBest hscore fun y hy k hk => (hmax y hy k hk).trans_lt hlt
      split
      · -- a second element with the best score
        rename_i heq
        subst heq
        constructor
        · simp
        intro c k hck
        obtain ⟨rfl, rfl⟩ := hck
        refine ⟨by simp [hmem], hb, ?_, fun _ => ⟨x, by simp, ?_, hscore⟩, by simp⟩
        · simp only [mem_append, mem_singleton]
          rintro y (hy | rfl) k hk
          · exact hmax y hy k hk
          · rw [hscore] at hk
            exact (Option.some.inj hk).ge
        · rintro rfl
          exact hnew hmem
      · apply h.skip
        · simp [hbest]
        intro c k hck j hj
        rw [hbest] at hck
        cases hck
        rw [hscore] at hj
        cases hj
        omega

theorem describes_foldl (score : α → Option Nat) (l : List α) (h : l.Nodup) :
    Describes score (l.foldl (BestSoFar.add score) {}) l := by
  induction l using List.reverseRecOn with
  | nil => exact .empty
  | append_singleton l x ih =>
    rw [nodup_append] at h
    rw [foldl_append]
    apply (ih h.1).add
    intro hmem
    exact h.2.2 x hmem x (by simp) rfl

end BestSoFar

/-- The answer is the element that beats every other one. -/
theorem bestMatch_eq_some_iff {score : α → Option Nat} {l : List α} (h : l.Nodup) {x : α} :
    bestMatch score l = some x ↔
      ∃ n, x ∈ l ∧ score x = some n ∧ ∀ y ∈ l, y ≠ x → ∀ m, score y = some m → m < n := by
  have hdesc := BestSoFar.describes_foldl score l h
  unfold bestMatch
  dsimp only
  cases hbest : (l.foldl (BestSoFar.add score) {}).best with
  | none =>
    obtain ⟨hamb, hnone⟩ := hdesc.none hbest
    constructor
    · simp
    · rintro ⟨n, hmem, hx, -⟩
      simp [hnone x hmem] at hx
  | some pair =>
    obtain ⟨b, k⟩ := pair
    obtain ⟨hmem, hb, hmax, hamb, huniq⟩ := hdesc.some b k hbest
    cases hambiguous : (l.foldl (BestSoFar.add score) {}).ambiguous with
    | true =>
      obtain ⟨y, hy, hne, hyk⟩ := hamb hambiguous
      constructor
      · simp
      rintro ⟨n, hx, hxn, hbeats⟩
      -- one of the two elements with the best score is not `x`
      by_cases hxb : b = x
      · subst hxb
        have hlt := hbeats y hy hne k hyk
        rw [hb] at hxn
        exact absurd (Option.some.inj hxn) (by omega)
      · have hlt := hbeats b hmem hxb k hb
        exact absurd (hmax x hx n hxn) (by omega)
    | false =>
      simp only [Bool.false_eq_true, if_false, Option.map_some, Option.some.injEq]
      constructor
      · rintro rfl
        refine ⟨k, hmem, hb, ?_⟩
        intro y hy hne m hm
        refine lt_of_le_of_ne (hmax y hy m hm) ?_
        rintro rfl
        exact hne (huniq hambiguous y hy hm)
      · rintro ⟨n, hx, hxn, hbeats⟩
        by_contra hne
        have hlt := hbeats b hmem hne k hb
        exact absurd (hmax x hx n hxn) (by omega)

/-- An answer that is replaced by an element with no lower score is the answer again. -/
theorem bestMatch_of_replaced {score : α → Option Nat} {l l' : List α} (hl : l.Nodup)
    (hl' : l'.Nodup) {x x' : α} (h : bestMatch score l = some x) (hmem : x' ∈ l')
    (hscore : ∀ n, score x = some n → ∃ n', score x' = some n' ∧ n ≤ n')
    (hothers : ∀ y ∈ l', y ≠ x' → y ∈ l ∧ y ≠ x) : bestMatch score l' = some x' := by
  obtain ⟨n, -, hx, hbeats⟩ := (bestMatch_eq_some_iff hl).1 h
  obtain ⟨n', hx', hle⟩ := hscore n hx
  refine (bestMatch_eq_some_iff hl').2 ⟨n', hmem, hx', ?_⟩
  intro y hy hne m hm
  obtain ⟨hold, hneOld⟩ := hothers y hy hne
  exact (hbeats y hold hneOld m hm).trans_le hle
