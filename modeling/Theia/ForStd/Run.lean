import Mathlib

/-!
# Runs of a transition system

A system is a set of initial states and a step relation that emits a list of events. A run
carries the events emitted so far, so safety properties over states and over histories are
proved by the same rule.

Key results:
- **`Run.invariant`**: what holds initially and is preserved by every step holds in every run
- **`Run.mono`**: restricting the steps restricts the runs
- **`Run.of_ops`**: a list of allowed operations is a run, which can be checked by evaluation
-/

universe u v

/-- The runs of a system: a state reached and the events emitted on the way. -/
inductive Run {σ : Type u} {ε : Type v} (init : σ → Prop) (step : σ → List ε → σ → Prop) :
    σ → List ε → Prop
  | init {s : σ} : init s → Run init step s []
  | step {s s' : σ} {tr es : List ε} : Run init step s tr → step s es s' →
      Run init step s' (tr ++ es)

namespace Run

variable {σ : Type u} {ε : Type v} {init : σ → Prop} {step step' : σ → List ε → σ → Prop}
  {s : σ} {tr : List ε}

/-- What holds initially and is preserved by every step holds in every run. -/
theorem invariant {P : σ → List ε → Prop} (h : Run init step s tr)
    (hinit : ∀ s, init s → P s [])
    (hstep : ∀ s tr es s', Run init step s tr → P s tr → step s es s' → P s' (tr ++ es)) :
    P s tr := by
  induction h with
  | init h0 => exact hinit _ h0
  | step hrun hs ih => exact hstep _ _ _ _ hrun ih hs

/-- A run whose steps all satisfy a stronger relation is a run of the weaker one. -/
theorem mono (h : Run init step' s tr) (hsub : ∀ s es s', step' s es s' → step s es s') :
    Run init step s tr := by
  induction h with
  | init h0 => exact .init h0
  | step _ hs ih => exact .step ih (hsub _ _ _ hs)

/-- A run from one of the initial states. -/
theorem of_init {s₀ : σ} (h0 : init s₀) (h : Run (· = s₀) step s tr) : Run init step s tr := by
  induction h with
  | init hs => exact .init (hs ▸ h0)
  | step _ hs ih => exact .step ih hs

end Run

/-! ### Systems with operations -/

section Operations

variable {σ : Type u} {α : Type v}

/-- A step of a deterministic system by an operation that is allowed in its state. -/
def ActStep (f : σ → α → σ) (ok : σ → α → Prop) (s : σ) (ops : List α) (s' : σ) : Prop :=
  ∃ op, ok s op ∧ ops = [op] ∧ s' = f s op

/-- Every operation of a list is allowed in the state that the earlier ones lead to. -/
def OkAlong (f : σ → α → σ) (ok : σ → α → Prop) : σ → List α → Prop
  | _, [] => True
  | s, op :: ops => ok s op ∧ OkAlong f ok (f s op) ops

instance OkAlong.decidable (f : σ → α → σ) (ok : σ → α → Prop) [∀ s op, Decidable (ok s op)] :
    ∀ (s : σ) (ops : List α), Decidable (OkAlong f ok s ops)
  | _, [] => .isTrue trivial
  | s, op :: ops =>
    have := OkAlong.decidable f ok (f s op) ops
    inferInstanceAs (Decidable (ok s op ∧ OkAlong f ok (f s op) ops))

variable {f : σ → α → σ} {ok : σ → α → Prop} {s₀ s : σ} {ops : List α}

/-- What holds initially and is preserved by every allowed operation holds in every run. -/
theorem Run.act_invariant {P : σ → Prop} (h : Run (· = s₀) (ActStep f ok) s ops) (hinit : P s₀)
    (hstep : ∀ s op, P s → ok s op → P (f s op)) : P s := by
  refine h.invariant (P := fun s _ => P s) ?_ ?_
  · intro s hs
    exact hs ▸ hinit
  · intro s _ es s' _ hs hact
    obtain ⟨op, hok, -, rfl⟩ := hact
    exact hstep s op hs hok

/-- A list of allowed operations is a run. -/
theorem Run.of_ops (h : OkAlong f ok s₀ ops) :
    Run (· = s₀) (ActStep f ok) (ops.foldl f s₀) ops := by
  have hfrom : ∀ (ops tr : List α) (s : σ), Run (· = s₀) (ActStep f ok) s tr →
      OkAlong f ok s ops → Run (· = s₀) (ActStep f ok) (ops.foldl f s) (tr ++ ops) := by
    intro ops
    induction ops with
    | nil =>
      intro tr s hrun _
      rw [List.append_nil]
      exact hrun
    | cons op ops ih =>
      intro tr s hrun hok
      rw [List.append_cons]
      exact ih _ _ (hrun.step ⟨op, hok.1, rfl, rfl⟩) hok.2
  exact hfrom ops [] s₀ (.init rfl) h

/-- Allowed operations that are steps of a system with events lead to one of its states. -/
theorem Run.of_allowed {ε : Type v} {step : σ → List ε → σ → Prop}
    (hstep : ∀ s op, ok s op → ∃ es, step s es (f s op)) (h : OkAlong f ok s₀ ops) :
    ∃ tr, Run (· = s₀) step (ops.foldl f s₀) tr := by
  have hfrom : ∀ (ops : List α) (s : σ) (tr : List ε), Run (· = s₀) step s tr →
      OkAlong f ok s ops → ∃ tr, Run (· = s₀) step (ops.foldl f s) tr := by
    intro ops
    induction ops with
    | nil =>
      intro s tr hrun _
      exact ⟨tr, hrun⟩
    | cons op ops ih =>
      intro s tr hrun hok
      obtain ⟨es, hes⟩ := hstep s op hok.1
      exact ih _ _ (hrun.step hes) hok.2
  exact hfrom ops s₀ [] (.init rfl) h

end Operations
