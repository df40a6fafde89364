import Theia.Native.PollingBudget

/-!
# Every polling class keeps a worker

The budgets after `Resolve` and `Clamp`: `Clamp` keeps a worker for every class that has a budget and
hands out the whole limit, and `Resolve` gives every class a budget exactly when the stored pool size
is not one of the two smallest, or the settings of the classes make up for it.
-/

namespace Theia.PollingBudget

open List Option Function

variable {budgets : VolatilityClass → Int} {v : VolatilityClass}

/-! ### Clamp -/

/-- The workers of all classes. -/
def total (budgets : VolatilityClass → Int) : Int :=
  budgets .performance + budgets .operational + budgets .static

/-- Every class has a worker and no more than its budget, and the workers of all classes use the
limit as far as the budgets allow. -/
structure Served (budgets : VolatilityClass → Int) (limit : Int) (clamped : VolatilityClass → Int) :
    Prop where
  pos : ∀ v ∈ orderedVolatilityClasses, 1 ≤ clamped v
  le : ∀ v ∈ orderedVolatilityClasses, clamped v ≤ budgets v
  total_eq : total clamped = min limit (total budgets)

theorem budgetSum_of_pos (hpos : ∀ v ∈ orderedVolatilityClasses, 1 ≤ budgets v) :
    budgetSum budgets = total budgets := by
  simp only [orderedVolatilityClasses, forall_mem_cons] at hpos
  obtain ⟨hp, ho, hs, -⟩ := hpos
  simp only [budgetSum, total, foldl_cons, foldl_nil]
  split_ifs <;> omega

theorem total_update (clamped : VolatilityClass → Int) (hv : v ∈ orderedVolatilityClasses)
    (count : Int) :
    total (update clamped v count) = total clamped - clamped v + count := by
  simp only [orderedVolatilityClasses, mem_cons, not_mem_nil, or_false] at hv
  obtain rfl | rfl | rfl := hv
  all_goals
    simp only [total, update_self, ne_eq, reduceCtorEq, not_false_eq_true, update_of_ne]
    omega

theorem total_congr {f g : VolatilityClass → Int}
    (h : ∀ v ∈ orderedVolatilityClasses, f v = g v) : total f = total g := by
  simp only [orderedVolatilityClasses, forall_mem_cons] at h
  simp [total, h.1, h.2.1, h.2.2.1]

theorem grow_spec (budget : Int) (remaining : Nat) (count : Int) (h : count ≤ budget) :
    count ≤ (grow budget remaining count).1 ∧ (grow budget remaining count).1 ≤ budget ∧
      (grow budget remaining count).1 + (grow budget remaining count).2 = count + remaining ∧
      ((grow budget remaining count).2 = 0 ∨ (grow budget remaining count).1 = budget) := by
  induction remaining generalizing count with
  | zero => simp [grow, h]
  | succ remaining ih =>
    simp only [grow]
    split
    · next hlt =>
      obtain ⟨h1, h2, h3, h4⟩ := ih (count + 1) (by omega)
      refine ⟨by omega, h2, ?_, h4⟩
      rw [h3]
      push_cast
      omega
    · exact ⟨le_refl _, h, rfl, .inr (by omega)⟩

/-- What the last loop of `Clamp` keeps: each class is between one worker and its budget, and what is
handed out and what remains is the limit. -/
structure Handing (budgets : VolatilityClass → Int) (limit : Int)
    (state : (VolatilityClass → Int) × Nat) : Prop where
  pos : ∀ v ∈ orderedVolatilityClasses, 1 ≤ state.1 v
  le : ∀ v ∈ orderedVolatilityClasses, state.1 v ≤ budgets v
  total_eq : total state.1 + state.2 = limit

/-- A class can get no more. -/
def Full (budgets : VolatilityClass → Int) (state : (VolatilityClass → Int) × Nat)
    (v : VolatilityClass) : Prop :=
  state.2 = 0 ∨ state.1 v = budgets v

section Loop

variable {budgets : VolatilityClass → Int} {limit : Int} {state : (VolatilityClass → Int) × Nat}

theorem growClass_handing (h : Handing budgets limit state) (hv : v ∈ orderedVolatilityClasses) :
    Handing budgets limit (growClass budgets state v) ∧ Full budgets (growClass budgets state v) v ∧
      ∀ u, Full budgets state u → Full budgets (growClass budgets state v) u := by
  obtain ⟨hge, hle, hsum, hfull⟩ := grow_spec (budgets v) state.2 (state.1 v) (h.le v hv)
  have hpos := h.pos v hv
  have htotal := h.total_eq
  simp only [growClass, Full]
  generalize grow (budgets v) state.2 (state.1 v) = result at hge hle hsum hfull ⊢
  obtain ⟨count, remaining⟩ := result
  dsimp only at hge hle hsum hfull ⊢
  refine ⟨⟨?_, ?_, ?_⟩, ?_, ?_⟩
  · intro u hu
    show 1 ≤ update state.1 v count u
    by_cases huv : u = v
    · subst huv
      rw [update_self]
      omega
    · rw [update_of_ne huv]
      exact h.pos u hu
  · intro u hu
    show update state.1 v count u ≤ budgets u
    by_cases huv : u = v
    · subst huv
      rw [update_self]
      exact hle
    · rw [update_of_ne huv]
      exact h.le u hu
  · show total (update state.1 v count) + (remaining : Int) = limit
    rw [total_update _ hv]
    omega
  · rw [update_self]
    exact hfull
  intro u hu
  obtain hnone | heq := hu
  · -- nothing was left before the pass
    left
    omega
  · by_cases huv : u = v
    · subst huv
      rw [update_self]
      exact hfull
    · rw [update_of_ne huv]
      exact .inr heq

theorem foldl_growClass_handing (classes : List VolatilityClass)
    (hclasses : ∀ v ∈ classes, v ∈ orderedVolatilityClasses) (h : Handing budgets limit state) :
    Handing budgets limit (classes.foldl (growClass budgets) state) ∧
      (∀ v ∈ classes, Full budgets (classes.foldl (growClass budgets) state) v) ∧
      ∀ u, Full budgets state u → Full budgets (classes.foldl (growClass budgets) state) u := by
  induction classes generalizing state with
  | nil => exact ⟨h, by simp, fun _ hu => hu⟩
  | cons a classes ih =>
    obtain ⟨hstep, hfull, hkeep⟩ := growClass_handing h (hclasses a mem_cons_self)
    obtain ⟨hrun, hrest, hstay⟩ := ih (fun v hv => hclasses v (mem_cons_of_mem a hv)) hstep
    refine ⟨hrun, ?_, fun u hu => hstay u (hkeep u hu)⟩
    intro v hv
    obtain rfl | hv := mem_cons.1 hv
    · exact hstay v hfull
    · exact hrest v hv

end Loop

theorem giveFirst_handing (clamped : VolatilityClass → Int)
    (hpos : ∀ v ∈ orderedVolatilityClasses, 1 ≤ budgets v) {limit : Int} (hlimit : 3 ≤ limit) :
    Handing budgets limit (orderedVolatilityClasses.foldl giveFirst (clamped, limit.toNat)) := by
  obtain ⟨m, hm⟩ : ∃ m : Nat, limit.toNat = m + 3 := ⟨limit.toNat - 3, by omega⟩
  have hone : ∀ v ∈ orderedVolatilityClasses,
      (orderedVolatilityClasses.foldl giveFirst (clamped, m + 3)).1 v = 1 := by
    simp [orderedVolatilityClasses, giveFirst, update]
  have hrest : (orderedVolatilityClasses.foldl giveFirst (clamped, m + 3)).2 = m := rfl
  rw [hm]
  refine ⟨fun v hv => ?_, fun v hv => ?_, ?_⟩
  · rw [hone v hv]
  · rw [hone v hv]
    exact hpos v hv
  · rw [total_congr (g := fun _ => 1) hone, hrest]
    simp only [total]
    omega

/-- `Clamp` of positive budgets leaves every class a worker. -/
theorem clamp_served (hpos : ∀ v ∈ orderedVolatilityClasses, 1 ≤ budgets v) {limit : Int}
    (hlimit : 3 ≤ limit) : Served budgets limit (clamp budgets limit) := by
  unfold clamp
  generalize hdef : (fun v => if v ∈ orderedVolatilityClasses then budgets v else 0) = copy
  have hcopy : ∀ v ∈ orderedVolatilityClasses, copy v = budgets v := by
    intro v hv
    rw [← hdef]
    exact if_pos hv
  have hpositive : ∀ v ∈ orderedVolatilityClasses, 1 ≤ copy v := fun v hv => by
    rw [hcopy v hv]
    exact hpos v hv
  have hsum : budgetSum copy = total budgets := by
    rw [budgetSum_of_pos hpositive, total_congr hcopy]
  simp only [if_neg (by omega : ¬ limit ≤ 0), hsum]
  split
  · next hfits =>
    refine ⟨hpositive, fun v hv => (hcopy v hv).le, ?_⟩
    rw [min_eq_right hfits, total_congr hcopy]
  · next hover =>
    -- every class is active
    have hactive : orderedVolatilityClasses.filter (fun v => decide (0 < copy v)) =
        orderedVolatilityClasses := by
      apply filter_eq_self.2
      intro v hv
      have := hpositive v hv
      exact decide_eq_true (by omega)
    rw [hactive]
    obtain ⟨hrun, hfull, -⟩ := foldl_growClass_handing orderedVolatilityClasses (fun _ hv => hv)
      (giveFirst_handing (fun v => if v ∈ orderedVolatilityClasses then 0 else copy v) hpos hlimit)
    generalize orderedVolatilityClasses.foldl (growClass budgets) _ = state at hrun hfull ⊢
    refine ⟨hrun.pos, hrun.le, ?_⟩
    rw [min_eq_left (by omega)]
    have htotal := hrun.total_eq
    by_cases hnone : state.2 = 0
    · omega
    · -- with workers left all classes would have their budgets, which are over the limit
      have heq := total_congr fun v hv => (hfull v hv).resolve_left hnone
      omega

/-! ### Resolve -/

/-- The number that a setting holds, if it holds one. -/
def storedInt (repo : Option Getter) (key : PoolSetting) : Option Int :=
  repo.bind fun get => (get key).bind fun value => atoi (trimSpace value)

/-- A setting holds a positive number. -/
def StoresPositive (repo : Option Getter) (key : PoolSetting) : Prop :=
  ∃ n, storedInt repo key = some n ∧ 0 < n

/-- A number brought into the range of the pool settings. -/
def inRange (n : Int) : Int := if n < 1 then 1 else if 128 < n then 128 else n

theorem settingConstraints_eq (key : PoolSetting) : settingConstraints key = ⟨1, 128⟩ := by
  cases key <;> rfl

section

variable (repo : Option Getter)

/-- `legacyTotal` reads the stored number. -/
theorem legacyTotal_eq : legacyTotal repo = match storedInt repo .size with
      | some n => if n ≤ 0 then defaultWorkerPoolSize else inRange n
      | none => defaultWorkerPoolSize := by
  cases repo with
  | none => rfl
  | some get =>
    simp only [legacyTotal, storedInt, bind_some]
    cases get .size with
    | none => rfl
    | some value =>
      simp only [bind_some, coerceConstrainedInt, settingConstraints_eq]
      cases atoi (trimSpace value) with
      | none | some => rfl

theorem readPositive_eq (get : Getter) (key : PoolSetting) :
    readPositive get key = (storedInt (some get) key).bind fun n =>
      if n ≤ 0 then none else some (inRange n) := by
  simp only [readPositive, storedInt, bind_some]
  cases get key with
  | none => rfl
  | some value =>
    simp only [bind_some, coerceConstrainedInt, settingConstraints_eq]
    cases atoi (trimSpace value) with
    | none | some => rfl

/-- The setting of a class. -/
def classSetting : VolatilityClass → PoolSetting
  | .performance => .performance
  | .operational => .operational
  | .static => .static
  | .unset => .size

/-- `Resolve` takes the number stored for a class, or else the share of the class. -/
theorem resolve_eq (hv : v ∈ orderedVolatilityClasses) :
    resolve repo v = (repo.bind fun get => readPositive get (classSetting v)).getD
      (defaultSplit (legacyTotal repo) v) := by
  cases repo with
  | none => rfl
  | some get =>
    simp only [orderedVolatilityClasses, mem_cons, not_mem_nil, or_false] at hv
    simp only [resolve, override, bind_some]
    obtain rfl | rfl | rfl := hv
    all_goals
      simp only [classSetting]
      cases readPositive get .performance <;> cases readPositive get .operational <;>
        cases readPositive get .static <;> simp [update]

theorem inRange_pos (n : Int) : 1 ≤ inRange n := by
  unfold inRange
  split_ifs <;> omega

theorem resolve_pos_iff_share (hv : v ∈ orderedVolatilityClasses) : 1 ≤ resolve repo v ↔
      StoresPositive repo (classSetting v) ∨ 1 ≤ defaultSplit (legacyTotal repo) v := by
  rw [resolve_eq repo hv]
  cases repo with
  | none => simp [StoresPositive, storedInt]
  | some get =>
    rw [bind_some, readPositive_eq, StoresPositive]
    cases storedInt (some get) (classSetting v) with
    | none => simp
    | some n =>
      simp only [bind_some, Option.some.injEq, exists_eq_left']
      split
      · next hneg => simp [not_lt.2 hneg]
      · next hpos => simp [inRange_pos, not_le.1 hpos]

/-- The stored pool size is not so small that a class gets no share, or the class has a positive
number of its own. -/
def SizesSuffice (repo : Option Getter) : Prop :=
  (storedInt repo .size = some 1 → StoresPositive repo .operational) ∧
    (storedInt repo .size = some 1 ∨ storedInt repo .size = some 2 → StoresPositive repo .static)

theorem legacyTotal_small : 1 ≤ legacyTotal repo ∧
    (legacyTotal repo = 1 ↔ storedInt repo .size = some 1) ∧
    (legacyTotal repo = 2 ↔ storedInt repo .size = some 2) := by
  rw [legacyTotal_eq]
  cases storedInt repo .size with
  | none => simp [defaultWorkerPoolSize]
  | some n =>
    simp only [Option.some.injEq, defaultWorkerPoolSize, inRange]
    split_ifs <;> omega

theorem defaultSplit_pos_iff {size : Int} (h : 1 ≤ size) : 1 ≤ defaultSplit size .performance ∧
    (1 ≤ defaultSplit size .operational ↔ size ≠ 1) ∧
    (1 ≤ defaultSplit size .static ↔ size ≠ 1 ∧ size ≠ 2) := by
  simp only [defaultSplit]
  split_ifs <;> omega

/-- When `Resolve` leaves no class without a worker. -/
theorem resolve_pos_iff :
    (∀ v ∈ orderedVolatilityClasses, 1 ≤ resolve repo v) ↔ SizesSuffice repo := by
  obtain ⟨hpos, hone, htwo⟩ := legacyTotal_small repo
  obtain ⟨hperformance, hoperational, hstatic⟩ := defaultSplit_pos_iff hpos
  have hclass : ∀ v ∈ orderedVolatilityClasses, (1 ≤ resolve repo v ↔
      StoresPositive repo (classSetting v) ∨ 1 ≤ defaultSplit (legacyTotal repo) v) :=
    fun v hv => resolve_pos_iff_share repo hv
  simp only [orderedVolatilityClasses, forall_mem_cons, not_mem_nil, false_implies,
    implies_true, and_true] at hclass ⊢
  rw [hclass.1, hclass.2.1, hclass.2.2, hoperational, hstatic, ne_eq, ne_eq, hone, htwo]
  simp only [hperformance, or_true, true_and, classSetting, SizesSuffice, ← not_or]
  rw [imp_iff_or_not, imp_iff_or_not]

end

/-! ### The budgets of the scheduler -/

/-- For every content of the settings store and every limit of at least three: every class has a
worker, none has more than its resolved budget and the limit is used as far as the budgets allow,
exactly when the pool size is not stored as one or two, or the classes that this leaves without a
share have a positive number of their own. -/
theorem every_class_keeps_worker_iff (repo : Option Getter) {limit : Int} (hlimit : 3 ≤ limit) :
    Served (resolve repo) limit (clamp (resolve repo) limit) ↔ SizesSuffice repo := by
  rw [← resolve_pos_iff]
  constructor
  · intro h v hv
    exact (h.pos v hv).trans (h.le v hv)
  · intro h
    exact clamp_served h hlimit

theorem every_class_keeps_worker_iff_unset :
    Served (resolve none) 3 (clamp (resolve none) 3) ∧ clamp (resolve none) 3 .static = 1 := by
  refine ⟨(every_class_keeps_worker_iff none (by decide)).2 ⟨?_, ?_⟩, by decide⟩
  · intro h
    cases h
  · intro h
    obtain h | h := h <;> cases h

theorem blocked_without_budget (s : Scheduler) (task : PollTask) {limits : DispatchLimits}
    (hkind : (normalizeTask task).kind ≠ .essential)
    (hbudget : limits.budgets (normalizeTask task).volatilityClass ≤
      s.inFlightByClass (normalizeTask task).volatilityClass) :
    s.dispatchBlockWithLimits task limits = some .classLimit := by
  simp [Scheduler.dispatchBlockWithLimits, if_neg hkind, if_pos hbudget]

/-- A settings store with a pool of two workers. -/
def twoWorkers : Getter
  | .size => some "2"
  | _ => none

/-- With the smallest pool sizes, which the settings accept, the static class has no worker: its
tasks, and the bootstrap tasks, are never dispatched. -/
theorem static_without_worker : classBudgets (some twoWorkers) 128 .static = 0 ∧
    ∀ (s : Scheduler) (task : PollTask) (limits : DispatchLimits),
      limits.budgets = classBudgets (some twoWorkers) 128 → 0 ≤ s.inFlightByClass .static →
      (normalizeTask task).kind ≠ .essential → (normalizeTask task).volatilityClass = .static →
      s.dispatchBlockWithLimits task limits = some .classLimit := by
  have hnone : classBudgets (some twoWorkers) 128 .static = 0 := by decide +kernel
  refine ⟨hnone, ?_⟩
  intro s task limits hlimits hcount hkind hclass
  apply blocked_without_budget s task hkind
  rw [hlimits, hclass, hnone]
  exact hcount

end Theia.PollingBudget
