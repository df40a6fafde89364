import Theia.Native.SettingsCache

/-!
# Settings reads see earlier writes

The cached map is the repository's table after some of its writes, in the order in which the
repository took them. Only the write that is under way can be missing, because `updateMu` is held
until it is in the cached map, and a refresh that missed it is stored before `mu` lets it in.
-/

namespace Theia.SettingsCache

open List Function

/-- The writes of a history, in the order in which the repository took them. -/
def writes (es : List SettingsEvent) : List (String × String) := es.filterMap fun
  | .wrote key value => some (key, value)
  | _ => none

/-- The number of writes whose calls are done. -/
def finished (es : List SettingsEvent) : Nat := es.countP fun
  | .finished => true
  | _ => false

/-- The table after some writes. -/
def after (repo : SettingsMap) (ws : List (String × String)) : SettingsMap :=
  ws.foldl (fun m w => m.insert w.1 w.2) repo

variable {G : Type} {repo : SettingsMap} {ws : List (String × String)}
  {done n : Nat} {c : SettingsCache G}

theorem after_append (key value : String) :
    after repo (ws ++ [(key, value)]) = (after repo ws).insert key value := foldl_append

/-- The write under way is put in a map that has it or lacks just this one. -/
theorem after_insert {key value : String} (hlast : ws.getLast? = some (key, value))
    (hdone : done + 1 = ws.length) (hlow : done ≤ n) :
    (after repo (ws.take n)).insert key value = after repo ws := by
  obtain ⟨earlier, rfl⟩ := getLast?_eq_some_iff.1 hlast
  rw [length_append, length_singleton] at hdone
  by_cases hn : n = earlier.length
  · rw [hn, take_left, after_append]
  · rw [take_of_length_le (by simp; omega), after_append]
    exact FMap.insert_eq_self (FMap.get_insert_self _ _ _)

/-- What holds of a goroutine in its call. -/
def CallOK (repo : SettingsMap) (ws : List (String × String)) (done n : Nat)
    (c : SettingsCache G) (g : G) : SettingsCall → Prop
  | .load _ => c.mu = some g
  | .store _ m => c.mu = some g ∧ ∃ p, n ≤ p ∧ p ≤ ws.length ∧ m = after repo (ws.take p)
  | .read => c.values ≠ none
  | .execute _ => c.updateMu = some g ∧ done = ws.length
  | .publish key value =>
    c.updateMu = some g ∧ done + 1 = ws.length ∧ ws.getLast? = some (key, value)
  | _ => True

/-- After the writes `ws`, of which `done` are finished, reads see the first `n`. -/
structure Inv (repo : SettingsMap) (ws : List (String × String)) (done n : Nat)
    (c : SettingsCache G) : Prop where
  table : c.repo = after repo ws
  low : done ≤ n
  high : n ≤ ws.length
  free : c.updateMu = none → done = ws.length
  values : ∀ m, c.values = some m → m = after repo (ws.take n)
  unset : c.values = none → n = done
  calls : ∀ g, CallOK repo ws done n c g (c.calls g)

/-- A goroutine does not notice what is done under a lock that it does not hold. -/
theorem CallOK.others {c' : SettingsCache G} {g : G} {ws' : List (String × String)} {done' n' : Nat}
    {call : SettingsCall} (h : CallOK repo ws done n c g call)
    (hvalues : c.values ≠ none → c'.values ≠ none)
    (hmu : c.mu ≠ some g ∨ c'.mu = c.mu ∧ n' = n ∧ ∃ more, ws' = ws ++ more)
    (hupdate : c.updateMu ≠ some g ∨ c'.updateMu = c.updateMu ∧ ws' = ws ∧ done' = done) :
    CallOK repo ws' done' n' c' g call := by
  cases call with
  | idle | check | refresh | write => trivial
  | read => exact hvalues h
  | store now m =>
    obtain hmu | ⟨hmu, rfl, more, rfl⟩ := hmu
    · exact absurd h.1 hmu
    obtain ⟨hc, p, hp, hhigh, rfl⟩ := h
    refine ⟨hmu.trans hc, p, hp, ?_, ?_⟩
    · rw [length_append]
      omega
    · rw [take_append_of_le_length hhigh]
  | load | execute | publish => grind [CallOK]

/-- A step after which reads see the first `x` writes, which they may do already during it. -/
def Follows (repo : SettingsMap) (ws : List (String × String)) (done n : Nat)
    (r : SettingsCache G × SettingsEvent) : Prop :=
  ∃ x, n ≤ x ∧ x ≤ ws.length ∧ (∀ m, r.2 = .read m → m = after repo (ws.take x)) ∧
    Inv repo (ws ++ writes [r.2]) (done + finished [r.2]) x r.1

theorem Inv.other {x : Nat} (h : Inv repo ws done x c) (hle : n ≤ x) :
    Follows repo ws done n (c, .other) := by
  refine ⟨x, hle, h.high, nofun, ?_⟩
  show Inv repo (ws ++ []) done x c
  rw [append_nil]
  exact h

theorem ne_holder {lock : Option G} {g g' : G} (h : lock = none ∨ lock = some g) (hne : g' ≠ g) :
    lock ≠ some g' := by
  grind

variable [DecidableEq G]

section Steps

variable {g : G} {call : SettingsCall} (h : Inv repo ws done n c)
include h

theorem Inv.goto (g : G) (call : SettingsCall) (hcall : CallOK repo ws done n c g call) :
    Inv repo ws done n (c.goto g call) :=
  { h with calls := (forall_update_iff _ _).2 ⟨hcall, fun g' _ => h.calls g'⟩ }

/-- Taking or releasing `mu`. -/
theorem Inv.goto_mu {mu : Option G} (hmu : c.mu = none ∨ c.mu = some g)
    (hcall : CallOK repo ws done n { c with mu } g call) :
    Follows repo ws done n ({ c with mu }.goto g call, .other) :=
  Inv.other { h with
    calls := (forall_update_iff _ _).2 ⟨hcall, fun g' hne =>
      (h.calls g').others id (.inl (ne_holder hmu hne)) (.inr ⟨rfl, rfl, rfl⟩)⟩ } le_rfl

/-- Taking or releasing `updateMu`, while no write is under way. -/
theorem Inv.goto_updateMu {updateMu : Option G}
    (hupdate : c.updateMu = none ∨ c.updateMu = some g) (hdone : done = ws.length)
    (hcall : CallOK repo ws done n { c with updateMu } g call) :
    Follows repo ws done n ({ c with updateMu }.goto g call, .other) :=
  Inv.other { h with
    free := fun _ => hdone
    calls := (forall_update_iff _ _).2 ⟨hcall, fun g' hne =>
      (h.calls g').others id (.inr ⟨rfl, rfl, [], (append_nil _).symm⟩)
        (.inl (ne_holder hupdate hne))⟩ } le_rfl

/-- A refresh ends: the loaded map has all that reads have seen so far. -/
theorem Inv.store {now : Time} {m : SettingsMap}
    (hg : CallOK repo ws done n c g (.store now m)) : Follows repo ws done n
      ({ c with values := some m, loadedAt := now, mu := none }.goto g .read, .other) := by
  obtain ⟨hmu, p, hp, hhigh, hm⟩ := hg
  exact Inv.other { h with
    low := h.low.trans hp
    high := hhigh
    values := fun _ hsome => Option.some.inj hsome ▸ hm
    unset := nofun
    calls := (forall_update_iff _ _).2 ⟨nofun, fun g' hne =>
      (h.calls g').others (fun _ => Option.some_ne_none m) (.inl (ne_holder (.inr hmu) hne))
        (.inr ⟨rfl, rfl, rfl⟩)⟩ } hp

/-- The repository takes a write, which no map that was loaded has. -/
theorem Inv.execute {w : SettingsWrite} (hg : CallOK repo ws done n c g (.execute w))
    (value : String) : Follows repo ws done n
      ({ c with repo := c.repo.insert w.key value }.goto g (.publish w.key value),
        .wrote w.key value) := by
  refine ⟨n, le_rfl, h.high, nofun, ?_⟩
  show Inv repo (ws ++ [(w.key, value)]) done n _
  exact {
    table := by rw [after_append, ← h.table]; rfl
    low := h.low
    high := by rw [length_append]; exact Nat.le_add_right_of_le h.high
    free := fun hnone => absurd (hg.1.symm.trans hnone) nofun
    values := fun m hm => by rw [take_append_of_le_length h.high]; exact h.values m hm
    unset := h.unset
    calls := (forall_update_iff _ _).2 ⟨⟨hg.1, by simp [hg.2], by simp⟩, fun g' hne =>
      (h.calls g').others id (.inr ⟨rfl, rfl, _, rfl⟩) (.inl (ne_holder (.inr hg.1) hne))⟩ }

/-- The write under way is put in the cached map, and its call is done. -/
theorem Inv.publish {key value : String} (hmu : c.mu = none)
    (hg : CallOK repo ws done n c g (.publish key value)) : Follows repo ws done n
      ({ c with values := c.values.map (FMap.insert · key value), updateMu := none }.goto g .idle,
        .finished) := by
  obtain ⟨hupdate, hdone, hlast⟩ := hg
  refine ⟨ws.length, h.high, le_rfl, nofun, ?_⟩
  show Inv repo (ws ++ []) (done + 1) ws.length _
  rw [append_nil]
  exact { h with
    low := hdone.le
    high := le_rfl
    free := fun _ => hdone
    values := fun m hm => by
      obtain ⟨m', hm', rfl⟩ := Option.map_eq_some_iff.1 hm
      rw [h.values m' hm', after_insert hlast hdone h.low, take_length]
    unset := fun _ => hdone.symm
    calls := (forall_update_iff _ _).2 ⟨trivial, fun g' hne =>
      (h.calls g').others (fun hset hnone => hset (Option.map_eq_none_iff.1 hnone))
        (.inl (ne_holder (.inl hmu) hne)) (.inl (ne_holder (.inr hupdate) hne))⟩ }

/-- The next step of a goroutine. -/
theorem Inv.advance (g : G) (now : Time) (ok : Bool) :
    Follows repo ws done n (c.advance g now ok) := by
  have hg := h.calls g
  have hstay : Follows repo ws done n (c, .other) := h.other le_rfl
  have hset : c.fresh now = true → c.values ≠ none := by
    intro hfresh
    rw [fresh, Bool.and_eq_true] at hfresh
    exact Option.isSome_iff_ne_none.1 hfresh.1
  unfold SettingsCache.advance
  cases hcall : c.calls g with
  | idle => exact hstay
  | check =>
    dsimp only
    split_ifs with hmu hfresh
    · exact hstay
    · exact (h.goto g .read (hset hfresh)).other le_rfl
    · exact (h.goto g .refresh trivial).other le_rfl
  | refresh =>
    dsimp only
    split_ifs with hmu hfresh
    · exact hstay
    · exact (h.goto g .read (hset hfresh)).other le_rfl
    · exact h.goto_mu (.inl (not_not.1 hmu)) rfl
  | load now =>
    rw [hcall] at hg
    dsimp only
    split_ifs with hok
    · refine (h.goto g (.store now c.repo) ⟨hg, ws.length, h.high, le_rfl, ?_⟩).other le_rfl
      rw [take_length]
      exact h.table
    · exact h.goto_mu (.inr hg) trivial
  | store now m => exact h.store (hcall ▸ hg)
  | read =>
    rw [hcall] at hg
    dsimp only
    split_ifs with hmu
    · exact hstay
    obtain ⟨m, hm⟩ := Option.ne_none_iff_exists'.1 hg
    refine ⟨n, le_rfl, h.high, ?_, ?_⟩
    · intro m' hm'
      cases hm'
      rw [hm]
      exact h.values m hm
    · show Inv repo (ws ++ []) done n _
      rw [append_nil]
      exact h.goto g .idle trivial
  | write w =>
    dsimp only
    split_ifs with hupdate
    · exact hstay
    · have hfree := not_not.1 hupdate
      exact h.goto_updateMu (.inl hfree) (h.free hfree) ⟨rfl, h.free hfree⟩
  | execute w =>
    rw [hcall] at hg
    dsimp only
    split
    · exact h.execute hg _
    · exact h.goto_updateMu (.inr hg.1) hg.2 trivial
  | publish key value =>
    dsimp only
    split_ifs with hmu
    · exact hstay
    · exact h.publish (not_not.1 hmu) (hcall ▸ hg)

theorem Inv.step (op : SettingsOp G) : Follows repo ws done n (c.step op) := by
  cases op with
  | call g w =>
    simp only [SettingsCache.step]
    split
    · exact (h.goto g _ (by cases w <;> trivial)).other le_rfl
    · exact h.other le_rfl
  | advance g now ok => exact h.advance g now ok

end Steps

/-- A place for the read at each step `i`, after the first `n i` writes that the repository took.
All writes whose calls were done before the step are among them, and none that comes later. A later
read never has an earlier place. -/
def Linearizes (repo : SettingsMap) (es : List SettingsEvent) (n : Nat → Nat) : Prop :=
  Monotone n ∧ ∀ i, finished (es.take i) ≤ n i ∧ n i ≤ (writes (es.take i)).length ∧
    ∀ m, es[i]? = some (.read m) → m = after repo ((writes es).take (n i))

theorem exists_linearizes (repo : SettingsMap) (ttl : Duration) (ops : List (SettingsOp G)) :
    let run := ops.foldl record (new repo ttl, [])
    ∃ n, Linearizes repo run.2 n ∧
      Inv repo (writes run.2) (finished run.2) (n run.2.length) run.1 := by
  induction ops using reverseRecOn with
  | nil =>
    refine ⟨fun _ => 0, ⟨monotone_const, fun i => by simp [finished]⟩, ?_⟩
    exact ⟨rfl, le_rfl, le_rfl, fun _ => rfl, nofun, fun _ => rfl, fun _ => trivial⟩
  | append_singleton ops op ih =>
    rw [foldl_append]
    generalize ops.foldl record (new repo ttl, []) = run at ih ⊢
    obtain ⟨c, es⟩ := run
    obtain ⟨n, ⟨hmono, hcuts⟩, hinv⟩ := ih
    obtain ⟨x, hx, hhigh, hread, hnext⟩ := hinv.step op
    dsimp only [foldl_cons, foldl_nil, record] at *
    have hws : writes (es ++ [(c.step op).2]) = writes es ++ writes [(c.step op).2] :=
      filterMap_append
    have hdone : finished (es ++ [(c.step op).2]) = finished es + finished [(c.step op).2] :=
      countP_append
    rw [← hws, ← hdone] at hnext
    -- the steps so far keep their numbers
    refine ⟨fun i => if i < es.length then n i else x, ⟨?_, fun i => ?_⟩, by simpa using hnext⟩
    · intro i j hij
      have hi : i < es.length → n i ≤ n es.length := fun hi => hmono hi.le
      have hj := hmono hij
      dsimp only
      split_ifs <;> omega
    · dsimp only
      obtain hlt | rfl | hgt := Nat.lt_trichotomy i es.length
      · have hle : n i ≤ (writes es).length := (hmono hlt.le).trans hinv.high
        rw [if_pos hlt, take_append_of_le_length hlt.le, getElem?_append_left hlt, hws,
          take_append_of_le_length hle]
        exact hcuts i
      · rw [if_neg (lt_irrefl _), take_left, hws, take_append_of_le_length hhigh]
        refine ⟨hinv.low.trans hx, hhigh, fun m hm => hread m ?_⟩
        simpa using hm
      · rw [if_neg hgt.le.not_gt, take_of_length_le (by simp; omega)]
        refine ⟨hnext.low, hnext.high, fun m hm => ?_⟩
        rw [getElem?_eq_none (by simp; omega)] at hm
        cases hm

/-- For every number of goroutines, every interleaving of their steps and every failure of a
statement, the reads have a place among the writes. -/
theorem settings_reads_linearize (repo : SettingsMap) (ttl : Duration) (ops : List (SettingsOp G)) :
    ∃ n, Linearizes repo (ops.foldl record (new repo ttl, [])).2 n := by
  obtain ⟨n, hn, -⟩ := exists_linearizes repo ttl ops
  exact ⟨n, hn⟩

/-! ### The reads of one key -/

/-- The values of the key: the first one, then those written to it in the order in which the
repository took them. -/
def versions (repo : SettingsMap) (key : String) (ws : List (String × String)) :
    List (Option String) :=
  repo.get key :: (ws.filter fun w => w.1 = key).map fun w => some w.2

/-- The version of the key after the writes. -/
def version (key : String) (ws : List (String × String)) : Nat := ws.countP fun w => w.1 = key

theorem version_mono {ws' : List (String × String)} (key : String) (h : ws <+: ws') :
    version key ws ≤ version key ws' := h.sublist.countP_le

theorem versions_getElem? (repo : SettingsMap) (key : String) (ws : List (String × String)) :
    (versions repo key ws)[version key ws]? = some ((after repo ws).get key) := by
  induction ws using reverseRecOn with
  | nil => rfl
  | append_singleton ws w ih =>
    obtain ⟨k, value⟩ := w
    rw [after_append]
    by_cases hkey : k = key
    · subst hkey
      rw [FMap.get_insert_self]
      simp [versions, version, countP_eq_length_filter]
    · rw [FMap.get_insert_ne _ _ (Ne.symm hkey), ← ih]
      simp [versions, version, hkey]

/-- The versions that some writes have made stay when more follow. -/
theorem versions_getElem?_mono {ws' : List (String × String)} (key : String) (h : ws <+: ws') :
    (versions repo key ws')[version key ws]? = some ((after repo ws).get key) := by
  obtain ⟨more, rfl⟩ := h
  have hold := versions_getElem? repo key ws
  obtain ⟨hlt, -⟩ := List.getElem?_eq_some_iff.1 hold
  rw [← hold]
  have happend : versions repo key (ws ++ more) =
      versions repo key ws ++ (more.filter fun w => w.1 = key).map fun w => some w.2 := by
    simp [versions]
  rw [happend, getElem?_append_left hlt]

theorem writes_mono {es es' : List SettingsEvent} (h : es <+: es') : writes es <+: writes es' := by
  obtain ⟨more, rfl⟩ := h
  exact ⟨writes more, filterMap_append.symm⟩

theorem history_extends (run : SettingsCache G × List SettingsEvent) (ops : List (SettingsOp G)) :
    run.2 <+: (ops.foldl record run).2 := by
  induction ops generalizing run with
  | nil => exact prefix_rfl
  | cons op ops ih => exact (prefix_append _ _).trans (ih (record run op))

/-- Each step adds one event. -/
theorem history_take (run : SettingsCache G × List SettingsEvent) (ops : List (SettingsOp G))
    (f : Nat) :
    ((ops.take f).foldl record run).2 = (ops.foldl record run).2.take (run.2.length + f) := by
  induction ops generalizing run f with
  | nil =>
    rw [take_nil, foldl_nil, take_of_length_le (by omega)]
  | cons op ops ih =>
    cases f with
    | zero => exact prefix_iff_eq_take.1 (history_extends run (op :: ops))
    | succ f =>
      have hlength : (record run op).2.length = run.2.length + 1 := length_append
      rw [take_succ_cons, foldl_cons, foldl_cons, ih, hlength, Nat.add_right_comm, Nat.add_assoc]

/-- A call that has written the value to the key returns in step `f`. -/
def ReturnsAt (repo : SettingsMap) (ttl : Duration) (ops : List (SettingsOp G)) (f : Nat)
    (key value : String) : Prop :=
  (ops.foldl record (new repo ttl, [])).2[f]? = some .finished ∧ ∃ g now ok,
    ops[f]? = some (.advance g now ok) ∧
      ((ops.take f).foldl record (new repo ttl, [])).1.calls g = .publish key value

example : ReturnsAt ∅ second
    [.call (0 : Fin 2) (some (.set "theme" "dark")), .advance 0 5 true, .call 1 none,
      .advance 0 5 true, .advance 0 6 true] 4 "theme" "dark" :=
  ⟨rfl, 0, 6, true, rfl, rfl⟩

/-- Every read of the key gives one of its versions, and of two reads the later one does not give an
earlier version. When a call that wrote the key returns, its value is the newest version, and a read
after that gives this version or a later one. -/
theorem settings_reads_see_writes (repo : SettingsMap) (ttl : Duration) (ops : List (SettingsOp G))
    (key : String) :
    let es := (ops.foldl record (new repo ttl, [])).2
    ∃ seen : Nat → Nat, Monotone seen ∧
      (∀ i m, es[i]? = some (.read m) →
        (versions repo key (writes (es.take i)))[seen i]? = some (m.get key)) ∧
      ∀ f value, ReturnsAt repo ttl ops f key value →
        let v := version key (writes (es.take f))
        (versions repo key (writes (es.take f)))[v]? = some (some value) ∧ ∀ i, f < i → v ≤ seen i := by
  intro es
  obtain ⟨n, ⟨hmono, hplace⟩, -⟩ := exists_linearizes repo ttl ops
  refine ⟨fun i => version key ((writes es).take (n i)), ?_, ?_, ?_⟩
  · intro i j hij
    exact version_mono key ( take_prefix_take_left (hmono hij))
  · intro i m hread
    obtain ⟨-, hhigh, hsees⟩ := hplace i
    rw [hsees m hread]
    apply versions_getElem?_mono
    exact prefix_of_prefix_length_le ( take_prefix _ _) (writes_mono ( take_prefix i es))
      ((length_take_le _ _).trans hhigh)
  · rintro f value ⟨hfinished, g, now, ok, -, hcall⟩
    obtain ⟨_, -, hinv⟩ := exists_linearizes repo ttl (ops.take f)
    have hhistory : ((ops.take f).foldl record (new repo ttl, [])).2 = es.take f := by
      rw [history_take]
      simp [es]
    rw [hhistory] at hinv
    -- the goroutine holds `updateMu`, so its write is the last one
    have hpublish := hinv.calls g
    rw [hcall] at hpublish
    obtain ⟨-, hdone, hlast⟩ := hpublish
    intro v
    constructor
    · obtain ⟨earlier, hwrites⟩ := getLast?_eq_some_iff.1 hlast
      rw [versions_getElem?, hwrites, after_append, FMap.get_insert_self]
    · intro i hi
      -- from the return on, all writes up to this one are done
      have hcount : finished (es.take (f + 1)) = (writes (es.take f)).length := by
        rw [take_add_one, hfinished, finished, countP_append, ← hdone]
        rfl
      have hle : (writes (es.take f)).length ≤ n i := by
        rw [← hcount]
        exact (hplace (f + 1)).1.trans (hmono hi)
      apply version_mono
      rw [prefix_iff_eq_take.1 (writes_mono ( take_prefix f es))]
      exact take_prefix_take_left hle

end Theia.SettingsCache
