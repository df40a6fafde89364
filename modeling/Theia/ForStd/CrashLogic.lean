import Mathlib

/-!
# Programs that fail and stop

A program is a sequence of primitive steps on a state. The environment decides for every step
whether it works, fails or takes the process down, and a step that does not work may leave a part
of its effect behind. A program ends by returning, by failing or by being stopped, and the state
that it leaves is known in all three cases.

A triple speaks about all the endings, and says that a program which does not return has met with
trouble. If trouble is excluded it is a statement of total correctness; if it is not, the triple says
what the program keeps however it ends.

Key results:
- **`Triple.bind`**, **`Triple.handle`**: the rules of sequence and of error handlers
- **`Triple.perform_of`**: the rule of a primitive step, with what it may leave behind
- **`Triple.state`**, **`Triple.returned`**: the two uses of a triple
-/

universe u v w x

/-- What the environment does with a primitive step. The residue of a step that does not work
selects the part of its effect that it leaves behind; without one it leaves nothing. -/
inductive Fate (ε : Type u)
  | ok
  | fails (error : ε) (residue : Option Nat)
  | stops (residue : Option Nat)

/-- A step that does not work leaves nothing behind. -/
def Fate.Clean {ε : Type u} : Fate ε → Prop
  | ok => True
  | fails _ residue => residue = none
  | stops residue => residue = none

/-- How a program ends. -/
inductive Ending (ε : Type u) (σ : Type v) (α : Type w)
  | returned (value : α) (state : σ)
  | failed (error : ε) (state : σ)
  | stopped (state : σ)

namespace Ending

variable {ε : Type u} {σ : Type v} {α : Type w}

/-- The state that a program leaves. -/
def state : Ending ε σ α → σ
  | returned _ s => s
  | failed _ s => s
  | stopped s => s

/-- What holds at the end: one condition if the program returned, and one if it did not. -/
def Satisfies (Q : α → σ → Prop) (I : σ → Prop) : Ending ε σ α → Prop
  | returned a s => Q a s
  | failed _ s => I s
  | stopped s => I s

theorem Satisfies.mono {Q Q' : α → σ → Prop} {I I' : σ → Prop} {r : Ending ε σ α}
    (h : r.Satisfies Q I) (hQ : ∀ a s, Q a s → Q' a s) (hI : ∀ s, I s → I' s) :
    r.Satisfies Q' I' := by
  cases r with
  | returned a s => exact hQ a s h
  | failed e s | stopped s => exact hI s h

end Ending

/-- A program with primitive steps from `ι`. -/
def Proc (ι : Type x) (ε : Type u) (σ : Type v) (α : Type w) :=
  (ι → Fate ε) → σ → Ending ε σ α

namespace Proc

variable {ι : Type x} {ε : Type u} {σ : Type v} {α β : Type w}

instance : Monad (Proc ι ε σ) where
  pure a := fun _ s => .returned a s
  bind p f := fun fate s =>
    match p fate s with
    | .returned a s' => f a fate s'
    | .failed e s' => .failed e s'
    | .stopped s' => .stopped s'

/-- Report an error. -/
def fail (e : ε) : Proc ι ε σ α := fun _ s => .failed e s

/-- Read the state. -/
def look (f : σ → α) : Proc ι ε σ α := fun _ s => .returned (f s) s

/-- Report an error unless a condition holds. -/
def require (condition : Prop) [Decidable condition] (e : ε) : Proc ι ε σ PUnit :=
  if condition then pure ⟨⟩ else fail e

/-- Run a program only if a condition holds. -/
def onlyIf (condition : Prop) [Decidable condition] (p : Proc ι ε σ PUnit) : Proc ι ε σ PUnit :=
  if condition then p else pure ⟨⟩

/-- Run a handler if a program reports an error. A stopped process runs none. -/
def handle (p : Proc ι ε σ α) (handler : ε → Proc ι ε σ α) : Proc ι ε σ α := fun fate s =>
  match p fate s with
  | .returned a s' => .returned a s'
  | .failed e s' => handler e fate s'
  | .stopped s' => .stopped s'

/-- What a step that does not work leaves behind. -/
def leave (part : Nat → σ → σ) : Option Nat → σ → σ
  | none, s => s
  | some n, s => part n s

/-- A primitive step: its effect, and the parts of it that it may leave behind. -/
def perform (step : ι) (full : σ → σ) (part : Nat → σ → σ) : Proc ι ε σ PUnit := fun fate s =>
  match fate step with
  | .ok => .returned ⟨⟩ (full s)
  | .fails e residue => .failed e (leave part residue s)
  | .stops residue => .stopped (leave part residue s)

/-- A primitive step without an effect. -/
def check (step : ι) : Proc ι ε σ PUnit := perform step id fun _ => id

/-- Run a program and go on whether it works or reports an error. -/
def ignore (p : Proc ι ε σ α) : Proc ι ε σ PUnit :=
  (p >>= fun _ => pure ⟨⟩).handle fun _ => pure ⟨⟩

/-! ### Triples -/

/-- From a state in `P` the program returns in `Q`, or there is trouble `T` and it ends in `I`. -/
def Triple (fate : ι → Fate ε) (T : Prop) (P : σ → Prop) (p : Proc ι ε σ α) (Q : α → σ → Prop)
    (I : σ → Prop) : Prop :=
  ∀ s, P s → (p fate s).Satisfies Q fun s' => T ∧ I s'

/-- A step that does not work means trouble. -/
def Sound (fate : ι → Fate ε) (T : Prop) : Prop := ∀ step, fate step = .ok ∨ T

theorem Sound.true (fate : ι → Fate ε) : Sound fate True := fun _ => .inr trivial

namespace Triple

variable {fate : ι → Fate ε} {T : Prop} {P P' I I' : σ → Prop} {Q Q' : α → σ → Prop}
  {p : Proc ι ε σ α}

section

variable (h : Triple fate T P p Q I)
include h

theorem conseq (hP : ∀ s, P' s → P s) (hQ : ∀ a s, Q a s → Q' a s)
    (hI : ∀ s, I s → I' s) : Triple fate T P' p Q' I' :=
  fun s hs => (h s (hP s hs)).mono hQ fun s' hs' => ⟨hs'.1, hI s' hs'.2⟩

theorem pre (hP : ∀ s, P' s → P s) : Triple fate T P' p Q I :=
  fun s hs => h s (hP s hs)

theorem endings (hI : ∀ s, I s → I' s) : Triple fate T P p Q I' :=
  h.conseq (fun _ => id) (fun _ _ => id) hI

omit h in
/-- What holds at every ending holds in the state that the program leaves. -/
theorem state (h : Triple fate T P p (fun _ => I) I) {s : σ} (hs : P s) : I (p fate s).state := by
  have hend := h s hs
  cases hr : p fate s with
  | returned a s' =>
    rw [hr] at hend
    exact hend
  | failed | stopped =>
    rw [hr] at hend
    exact hend.2

/-- Without trouble the program returns. -/
theorem returned (hT : ¬T) {s : σ} (hs : P s) : ∃ a s', p fate s = .returned a s' ∧ Q a s' := by
  have hend := h s hs
  cases hr : p fate s with
  | returned a s' =>
    rw [hr] at hend
    exact ⟨a, s', rfl, hend⟩
  | failed | stopped =>
    rw [hr] at hend
    exact absurd hend.1 hT

end

/-- A condition on the state that does not depend on it is known while the program runs. -/
theorem lift {φ : Prop} (h : φ → Triple fate T P p Q I) : Triple fate T (fun s => φ ∧ P s) p Q I :=
  fun s hs => h hs.1 s hs.2

theorem pure {a : α} (h : ∀ s, P s → Q a s) : Triple fate T P (pure a : Proc ι ε σ α) Q I := h

theorem fail {e : ε} (hT : T) (h : ∀ s, P s → I s) :
    Triple fate T P (Proc.fail e : Proc ι ε σ α) Q I :=
  fun s hs => ⟨hT, h s hs⟩

theorem look {f : σ → α} (h : ∀ s, P s → Q (f s) s) :
    Triple fate T P (Proc.look f : Proc ι ε σ α) Q I := h

theorem require {condition : Prop} [Decidable condition] {e : ε}
    (hT : ∀ s, P s → condition ∨ T) (h : ∀ s, P s → I s) :
    Triple fate T P (Proc.require condition e) (fun _ => P) I := by
  unfold Proc.require
  split_ifs with hnot
  · exact Triple.pure fun _ => id
  · exact fun s hs => ⟨(hT s hs).resolve_left hnot, h s hs⟩

theorem onlyIf {Q : PUnit → σ → Prop} {condition : Prop} [Decidable condition]
    {p : Proc ι ε σ PUnit} (hp : condition → Triple fate T P p Q I)
    (hskip : ¬condition → ∀ s, P s → Q ⟨⟩ s) : Triple fate T P (Proc.onlyIf condition p) Q I := by
  unfold Proc.onlyIf
  split_ifs with h
  · exact hp h
  · exact Triple.pure (hskip h)

theorem bind {R : β → σ → Prop} {f : α → Proc ι ε σ β} (hp : Triple fate T P p Q I)
    (hf : ∀ a, Triple fate T (Q a) (f a) R I) : Triple fate T P (p >>= f) R I := by
  intro s hs
  have h := hp s hs
  show (match p fate s with
    | .returned a s' => f a fate s'
    | .failed e s' => .failed e s'
    | .stopped s' => .stopped s').Satisfies R _
  cases hr : p fate s with
  | returned a s' =>
    rw [hr] at h
    exact hf a s' h
  | failed | stopped =>
    rw [hr] at h
    exact h

/-- What a step returns is not used. -/
theorem seq {R : β → σ → Prop} {J : σ → Prop} {q : Proc ι ε σ β}
    (hp : Triple fate T P p (fun _ => J) I) (hq : Triple fate T J q R I) :
    Triple fate T P (p >>= fun _ => q) R I := hp.bind fun _ => hq

/-- A handler runs in trouble only, and not if the process has been stopped. -/
theorem handle {F : σ → Prop} {handler : ε → Proc ι ε σ α} (hp : Triple fate T P p Q F)
    (hstop : ∀ s, F s → I s) (hh : T → ∀ e, Triple fate T F (handler e) Q I) :
    Triple fate T P (p.handle handler) Q I := by
  intro s hs
  have h := hp s hs
  unfold Proc.handle
  cases hr : p fate s with
  | returned a s' =>
    rw [hr] at h
    exact h
  | failed e s' =>
    rw [hr] at h
    exact hh h.1 e s' h.2
  | stopped s' =>
    rw [hr] at h
    exact ⟨h.1, hstop s' h.2⟩

theorem ignore {R : PUnit → σ → Prop} (hp : Triple fate T P p (fun _ => R ⟨⟩) (R ⟨⟩))
    (hstop : ∀ s, R ⟨⟩ s → I s) : Triple fate T P p.ignore R I :=
  (hp.bind fun _ => Triple.pure fun _ => id).handle hstop fun _ _ => Triple.pure fun _ => id

variable {Q : PUnit → σ → Prop} {step : ι} {full : σ → σ} {part : Nat → σ → σ}

/-- The rule of a primitive step, for the fate that the environment has for it. -/
theorem perform (hok : ∀ s, P s → Q ⟨⟩ (full s))
    (hfails : ∀ e residue, fate step = .fails e residue → ∀ s, P s → T ∧ I (leave part residue s))
    (hstops : ∀ residue, fate step = .stops residue → ∀ s, P s → T ∧ I (leave part residue s)) :
    Triple fate T P (Proc.perform step full part) Q I := by
  intro s hs
  unfold Proc.perform
  cases hfate : fate step with
  | ok => exact hok s hs
  | fails e residue => exact hfails e residue hfate s hs
  | stops residue => exact hstops residue hfate s hs

/-- A step in a sound environment, with what it may leave behind. -/
theorem perform_of (hT : Sound fate T) (hfull : ∀ s, P s → Q ⟨⟩ (full s)) (hnone : ∀ s, P s → I s)
    (hpart : ∀ n s, P s → I (part n s)) : Triple fate T P (Proc.perform step full part) Q I := by
  have hleave : ∀ residue s, P s → I (leave part residue s) := by
    intro residue s hs
    cases residue with
    | none => exact hnone s hs
    | some n => exact hpart n s hs
  apply perform hfull
  · intro e residue hfate s hs
    exact ⟨(hT step).resolve_left (by rw [hfate]; nofun), hleave residue s hs⟩
  · intro residue hfate s hs
    exact ⟨(hT step).resolve_left (by rw [hfate]; nofun), hleave residue s hs⟩

/-- A step, if nothing is asked of the endings in which it does not work. -/
theorem perform_true (hfull : ∀ s, P s → Q ⟨⟩ (full s)) :
    Triple fate True P (Proc.perform step full part) Q fun _ => True :=
  perform_of (Sound.true fate) hfull (fun _ _ => trivial) fun _ _ _ => trivial

theorem check (hT : Sound fate T) (h : ∀ s, P s → I s) :
    Triple fate T P (Proc.check step) (fun _ => P) I :=
  perform_of hT (fun _ => id) h fun _ => h

end Triple

end Proc
