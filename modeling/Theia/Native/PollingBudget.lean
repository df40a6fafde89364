import Theia.Native.SchedulerChannels

/-!
# Worker budgets of the polling classes

`internal/pollingbudget`: the budgets that `classBudgets` of the scheduler reads from the settings
store, with the coercion of `settings_constraints.go` for the four settings of the worker pools.

`Sum` is `budgetSum` of `Theia.Native.SchedulerChannels`. A setting that cannot be read is `none`.
-/

namespace Theia

/-- `strconv.Atoi`: an optional sign and decimal digits, in the range of a 64-bit `int`. -/
def atoi (s : String) : Option Int :=
  let (negative, digits) := match s.toList with
    | '-' :: digits => (true, digits)
    | '+' :: digits => (false, digits)
    | digits => (false, digits)
  if digits = [] ∨ ¬ digits.all Char.isDigit then none
  else
    let n : Int := digits.foldl (fun n c => 10 * n + (c.toNat - '0'.toNat : Nat)) 0
    let value := if negative then -n else n
    if -2 ^ 63 ≤ value ∧ value < 2 ^ 63 then some value else none

namespace PollingBudget

/-- The settings of the worker pools: `SettingSNMPWorkerPoolSize` and one for each class. -/
inductive PoolSetting
  | size | performance | operational | static
  deriving DecidableEq, Repr

/-- `Getter`: what `Get` returns, `none` for an error. -/
abbrev Getter := PoolSetting → Option String

/-- `SettingConstraint` of an integer setting. -/
structure SettingConstraint where
  minInt : Int
  maxInt : Int
  deriving DecidableEq, Repr

/-- `SettingConstraints`, for the settings of the worker pools. -/
def settingConstraints : PoolSetting → SettingConstraint
  | .size => ⟨1, 128⟩
  | .performance => ⟨1, 128⟩
  | .operational => ⟨1, 128⟩
  | .static => ⟨1, 128⟩

def coerceConstrainedInt (key : PoolSetting) (value : String) (fallback : Int) : Int :=
  match atoi (trimSpace value) with
  | none => fallback
  | some parsed =>
    let constraint := settingConstraints key
    if parsed < constraint.minInt then constraint.minInt
    else if constraint.maxInt < parsed then constraint.maxInt
    else parsed

def orderedVolatilityClasses : List VolatilityClass := [.performance, .operational, .static]

def legacyTotal (repo : Option Getter) : Int :=
  match repo with
  | none => defaultWorkerPoolSize
  | some get => match get .size with
    | none => defaultWorkerPoolSize
    | some value => match atoi (trimSpace value) with
      | none => defaultWorkerPoolSize
      | some parsed =>
        if parsed ≤ 0 then defaultWorkerPoolSize
        else coerceConstrainedInt .size value defaultWorkerPoolSize

def readPositive (get : Getter) (key : PoolSetting) : Option Int :=
  match get key with
  | none => none
  | some value => match atoi (trimSpace value) with
    | none => none
    | some parsed => if parsed ≤ 0 then none else some (coerceConstrainedInt key value 0)

def defaultSplit (total : Int) : VolatilityClass → Int
  | .performance =>
    if total ≤ 0 then defaultWorkerPoolSize
    else if total = 1 then 1
    else if total = 2 then 1
    else total - 2
  | .operational => if total ≤ 0 then 0 else if total = 1 then 0 else 1
  | .static => if total ≤ 0 then 0 else if total = 1 then 0 else if total = 2 then 0 else 1
  | .unset => 0

/-- One override of `Resolve`. -/
def override (get : Getter) (key : PoolSetting) (volatility : VolatilityClass)
    (budgets : VolatilityClass → Int) : VolatilityClass → Int :=
  match readPositive get key with
  | some value => Function.update budgets volatility value
  | none => budgets

def resolve (repo : Option Getter) : VolatilityClass → Int :=
  let budgets := defaultSplit (legacyTotal repo)
  match repo with
  | none => budgets
  | some get =>
    let budgets := override get .performance .performance budgets
    let budgets := override get .operational .operational budgets
    override get .static .static budgets

/-- A pass of the loop of `Clamp` that gives every active class its first worker. -/
def giveFirst (state : (VolatilityClass → Int) × Nat) (volatility : VolatilityClass) :
    (VolatilityClass → Int) × Nat :=
  match state.2 with
  | 0 => state
  | remaining + 1 => (Function.update state.1 volatility 1, remaining)

/-- The inner loop of `Clamp` that gives one class more workers, up to its budget. -/
def grow (budget : Int) : Nat → Int → Int × Nat
  | 0, count => (count, 0)
  | remaining + 1, count =>
    if count < budget then grow budget remaining (count + 1) else (count, remaining + 1)

/-- A pass of the last loop of `Clamp`. -/
def growClass (budgets : VolatilityClass → Int) (state : (VolatilityClass → Int) × Nat)
    (volatility : VolatilityClass) : (VolatilityClass → Int) × Nat :=
  let (count, remaining) := grow (budgets volatility) state.2 (state.1 volatility)
  (Function.update state.1 volatility count, remaining)

def clamp (budgets : VolatilityClass → Int) (limit : Int) : VolatilityClass → Int :=
  let clamped := fun volatility =>
    if volatility ∈ orderedVolatilityClasses then budgets volatility else 0
  if limit ≤ 0 then fun _ => 0
  else if budgetSum clamped ≤ limit then clamped
  else
    let active := orderedVolatilityClasses.filter fun volatility => 0 < clamped volatility
    let clamped := fun volatility => if volatility ∈ active then 0 else clamped volatility
    let state := active.foldl giveFirst (clamped, limit.toNat)
    (orderedVolatilityClasses.foldl (growClass budgets) state).1

def classBudgets (repo : Option Getter) (limit : Int) : VolatilityClass → Int :=
  let budgets := resolve repo
  if 0 < limit then clamp budgets limit else budgets

end PollingBudget

end Theia
