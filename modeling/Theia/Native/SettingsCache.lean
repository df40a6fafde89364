import Theia.ForStd.FMap
import Theia.Native.Basic

/-!
# The settings cache

`internal/settingscache/cache.go` over the statements of `SettingsRepo`. An atomic step of a
goroutine is a section under `mu` without a statement, a statement, or taking a lock that is held
over one. A failed statement has no effect. `Get` and `GetAll` differ in what they take from the
map they read, and errors carry no text.
-/

namespace Theia

abbrev SettingsMap := FMap String String

/-- A statement that writes a setting: what replaces the current value, unless it is refused. -/
structure SettingsWrite where
  key : String
  next : Option String → Option String

/-- `SettingsRepo.Set` -/
def SettingsWrite.set (key value : String) : SettingsWrite := ⟨key, fun _ => some value⟩

/-- `SettingsRepo.Update`: the setting has to exist. -/
def SettingsWrite.update (key : String) (update : String → Option String) : SettingsWrite :=
  ⟨key, fun current => current.bind update⟩

/-- Where a goroutine is in its call. -/
inductive SettingsCall
  | idle
  /-- In `ensureFresh`, before `mu.RLock`. -/
  | check
  /-- In `ensureFresh`, before `mu.Lock`. -/
  | refresh
  /-- Before `repo.GetAll`, under `mu`. -/
  | load (now : Time)
  /-- Before the map is stored, under `mu`. -/
  | store (now : Time) (values : SettingsMap)
  /-- In `Get` or `GetAll`, before `mu.RLock`. -/
  | read
  /-- In `Set` or `Update`, before `updateMu.Lock`. -/
  | write (w : SettingsWrite)
  /-- Before the statement, under `updateMu`. -/
  | execute (w : SettingsWrite)
  /-- Before `mu.Lock`, under `updateMu`. -/
  | publish (key value : String)

/-- `Cache` with the table of its repository and the goroutines that call it. A lock names its
holder. -/
structure SettingsCache (G : Type) where
  repo : SettingsMap
  ttl : Duration
  values : Option SettingsMap := none
  loadedAt : Time := 0
  mu : Option G := none
  updateMu : Option G := none
  calls : G → SettingsCall := fun _ => .idle

/-- What the history of the cache keeps. -/
inductive SettingsEvent
  /-- `Get` or `GetAll` reads the cached map. -/
  | read (values : SettingsMap)
  /-- The repository takes a write. -/
  | wrote (key value : String)
  /-- The call of a write is done. -/
  | finished
  | other

inductive SettingsOp (G : Type)
  /-- A call of `Set` or `Update`; without a write, of `Get` or `GetAll`. -/
  | call (g : G) (w : Option SettingsWrite)
  /-- The next step of a goroutine, with its reading of the clock and the success of a statement. -/
  | advance (g : G) (now : Time) (ok : Bool)

namespace SettingsCache

variable {G : Type} [DecidableEq G]

/-- `New` -/
def new (repo : SettingsMap) (ttl : Duration) : SettingsCache G :=
  { repo, ttl := if ttl ≤ 0 then 5 * second else ttl }

def fresh (c : SettingsCache G) (now : Time) : Bool :=
  c.values.isSome && decide (now - c.loadedAt < c.ttl)

def goto (c : SettingsCache G) (g : G) (call : SettingsCall) : SettingsCache G :=
  { c with calls := Function.update c.calls g call }

/-- The next step of a goroutine; one that waits for a lock does nothing. -/
def advance (c : SettingsCache G) (g : G) (now : Time) (ok : Bool) :
    SettingsCache G × SettingsEvent :=
  match c.calls g with
  | .idle => (c, .other)
  | .check =>
    if c.mu ≠ none then (c, .other)
    else if c.fresh now then (c.goto g .read, .other)
    else (c.goto g .refresh, .other)
  | .refresh =>
    if c.mu ≠ none then (c, .other)
    else if c.fresh now then (c.goto g .read, .other)
    else ({ c with mu := some g }.goto g (.load now), .other)
  | .load now =>
    if ok then (c.goto g (.store now c.repo), .other)
    else ({ c with mu := none }.goto g .idle, .other)
  | .store now values =>
    ({ c with values := some values, loadedAt := now, mu := none }.goto g .read, .other)
  | .read => if c.mu ≠ none then (c, .other) else (c.goto g .idle, .read (c.values.getD ∅))
  | .write w =>
    if c.updateMu ≠ none then (c, .other)
    else ({ c with updateMu := some g }.goto g (.execute w), .other)
  | .execute w =>
    match if ok then w.next (c.repo.get w.key) else none with
    | some value =>
      ({ c with repo := c.repo.insert w.key value }.goto g (.publish w.key value),
        .wrote w.key value)
    | none => ({ c with updateMu := none }.goto g .idle, .other)
  | .publish key value =>
    if c.mu ≠ none then (c, .other)
    else
      ({ c with values := c.values.map (FMap.insert · key value), updateMu := none }.goto g .idle,
        .finished)

def step (c : SettingsCache G) : SettingsOp G → SettingsCache G × SettingsEvent
  | .call g w => match c.calls g with
    | .idle => (c.goto g (w.elim .check .write), .other)
    | _ => (c, .other)
  | .advance g now ok => c.advance g now ok

/-- A step, added to the history. -/
def record (run : SettingsCache G × List SettingsEvent) (op : SettingsOp G) :
    SettingsCache G × List SettingsEvent :=
  ((run.1.step op).1, run.2 ++ [(run.1.step op).2])

end SettingsCache

end Theia
