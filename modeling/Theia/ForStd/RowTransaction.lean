import Theia.ForStd.FMap

/-!
# Transactions that copy and erase rows

A database is a family of tables, each a finite map from keys to rows. A transaction under read
committed isolation sees the committed tables with its own writes over them, and its writes become
visible to others when it commits.

Key results:
- **`RowAction.view_record`**: a recorded action changes what the transaction sees as the action
  itself would
- **`Tracks.transfer`**: commits of others that leave alone the cells a transaction touches do not
  change what its recorded writes stand for
- **`FMap.get_moveAll`**: rows that are moved to free keys are found under a permutation of the keys
-/

namespace FMap

open List

variable {K : Type} {V : Type} [DecidableEq K] {m : FMap K V} {pairs : List (K × K)} {p q : K × K}

/-- `m` with writes over it; a write of `none` removes the entry. -/
def amend (m : FMap K V) (p : FMap K (Option V)) : FMap K V where
  get k := (p.get k).getD (m.get k)
  dom := (m.dom ∪ p.dom).filter fun k => ((p.get k).getD (m.get k)).isSome
  mem_dom k := by
    simp only [Finset.mem_filter, Finset.mem_union, m.mem_dom, p.mem_dom]
    cases p.get k <;> simp

@[simp] theorem get_amend (m : FMap K V) (p : FMap K (Option V)) (k : K) :
    (m.amend p).get k = (p.get k).getD (m.get k) := rfl

@[simp] theorem amend_empty (m : FMap K V) : m.amend ∅ = m := by
  ext k : 1
  simp

/-- The entry of `src`, changed by `f`, is stored under `dst` too. -/
def copy (m : FMap K V) (f : V → V) (src dst : K) : FMap K V :=
  match m.get src with
  | some v => m.insert dst (f v)
  | none => m

theorem get_copy_ne (m : FMap K V) (f : V → V) (src : K) {dst k : K} (h : k ≠ dst) :
    (m.copy f src dst).get k = m.get k := by
  unfold copy
  split
  · rw [get_insert_ne _ _ h]
  · rfl

/-- A copy to a free key. -/
theorem get_copy_free (f : V → V) (src : K) {dst : K} (h : m.get dst = none) :
    (m.copy f src dst).get dst = (m.get src).map f := by
  unfold copy
  split
  · rename_i v hv
    rw [get_insert_self, hv]
    rfl
  · rename_i hv
    rw [h, hv]
    rfl

/-- A row that is copied to a free key and then erased was moved. -/
theorem get_copy_erase {dst : K} (h : m.get dst = none) (src k : K) :
    ((m.copy id src dst).erase src).get k = m.get (Equiv.swap src dst k) := by
  rw [get_erase]
  split_ifs with hk
  · rw [hk, Equiv.swap_apply_left, h]
  · by_cases hd : k = dst
    · rw [hd, get_copy_free id src h, Equiv.swap_apply_right, Option.map_id_fun, id]
    · rw [get_copy_ne m id src hd, Equiv.swap_apply_of_ne_of_ne hk hd]

/-! ### Many rows -/

/-- The permutation that swaps each key with the one that takes its place. -/
def exchange (pairs : List (K × K)) : Equiv.Perm K :=
  (pairs.map fun pair => Equiv.swap pair.1 pair.2).prod

@[simp] theorem exchange_nil : exchange ([] : List (K × K)) = 1 := rfl

theorem exchange_cons (pair : K × K) (pairs : List (K × K)) :
    exchange (pair :: pairs) = Equiv.swap pair.1 pair.2 * exchange pairs :=
  prod_cons

/-- The new keys are distinct, and none of them is an old key. -/
structure FreshKeys (pairs : List (K × K)) : Prop where
  olds : (pairs.map Prod.fst).Nodup
  news : (pairs.map Prod.snd).Nodup
  apart : ∀ p ∈ pairs, ∀ q ∈ pairs, p.1 ≠ q.2

omit [DecidableEq K] in
theorem FreshKeys.tail (h : FreshKeys (p :: pairs)) : FreshKeys pairs where
  olds := (nodup_cons.1 h.olds).2
  news := (nodup_cons.1 h.news).2
  apart := fun q hq r hr => h.apart q (mem_cons_of_mem _ hq) r (mem_cons_of_mem _ hr)

omit [DecidableEq K] in
theorem FreshKeys.fst_ne (h : FreshKeys (p :: pairs)) (hq : q ∈ pairs) : q.1 ≠ p.1 := fun he =>
  (nodup_cons.1 h.olds).1 (he ▸ mem_map_of_mem hq)

omit [DecidableEq K] in
theorem FreshKeys.snd_ne (h : FreshKeys (p :: pairs)) (hq : q ∈ pairs) : q.2 ≠ p.2 := fun he =>
  (nodup_cons.1 h.news).1 (he ▸ mem_map_of_mem hq)

/-- Other keys keep their place. -/
theorem exchange_of_not_mem {k : K} (hold : k ∉ pairs.map Prod.fst)
    (hnew : k ∉ pairs.map Prod.snd) : exchange pairs k = k := by
  induction pairs with
  | nil => rfl
  | cons p pairs ih =>
    simp only [map_cons, mem_cons, not_or] at hold hnew
    rw [exchange_cons, Equiv.Perm.mul_apply, ih hold.2 hnew.2,
      Equiv.swap_apply_of_ne_of_ne hold.1 hnew.1]

/-- A new key stands for the old one. -/
theorem exchange_snd (h : FreshKeys pairs) (hp : p ∈ pairs) : exchange pairs p.2 = p.1 := by
  induction pairs with
  | nil => cases hp
  | cons q pairs ih =>
    rw [exchange_cons, Equiv.Perm.mul_apply]
    rcases mem_cons.1 hp with rfl | htail
    · -- the later swaps do not meet this key
      have hold : p.2 ∉ pairs.map Prod.fst := by
        intro hmem
        obtain ⟨r, hr, heq⟩ := mem_map.1 hmem
        exact h.apart r (mem_cons_of_mem _ hr) p mem_cons_self heq
      rw [exchange_of_not_mem hold (nodup_cons.1 h.news).1, Equiv.swap_apply_right]
    · rw [ih h.tail htail, Equiv.swap_apply_of_ne_of_ne (h.fst_ne htail)]
      exact h.apart p (mem_cons_of_mem _ htail) q mem_cons_self

/-- An old key stands for the new one. -/
theorem exchange_fst (h : FreshKeys pairs) (hp : p ∈ pairs) : exchange pairs p.1 = p.2 := by
  induction pairs with
  | nil => cases hp
  | cons q pairs ih =>
    rw [exchange_cons, Equiv.Perm.mul_apply]
    rcases mem_cons.1 hp with rfl | htail
    · have hnew : p.1 ∉ pairs.map Prod.snd := by
        intro hmem
        obtain ⟨r, hr, heq⟩ := mem_map.1 hmem
        exact h.apart p mem_cons_self r (mem_cons_of_mem _ hr) heq.symm
      rw [exchange_of_not_mem (nodup_cons.1 h.olds).1 hnew, Equiv.swap_apply_left]
    · rw [ih h.tail htail, Equiv.swap_apply_of_ne_of_ne _ (h.snd_ne htail)]
      exact (h.apart q mem_cons_self p (mem_cons_of_mem _ htail)).symm

/-- Keys with a fixed first component: the exchange of the second ones. -/
theorem exchange_fiber {A : Type} [DecidableEq A] (a : A) (pairs : List (K × K)) (k : K) :
    exchange (pairs.map fun pair => ((a, pair.1), (a, pair.2))) (a, k) = (a, exchange pairs k) := by
  induction pairs with
  | nil => rfl
  | cons p pairs ih =>
    rw [map_cons, exchange_cons, exchange_cons, Equiv.Perm.mul_apply, Equiv.Perm.mul_apply, ih]
    simp only [Equiv.swap_apply_def, Prod.mk.injEq, true_and]
    split
    · rfl
    · split <;> rfl

omit [DecidableEq K] in
theorem FreshKeys.fiber {A : Type} (h : FreshKeys pairs) (a : A) :
    FreshKeys (pairs.map fun pair => ((a, pair.1), (a, pair.2))) where
  olds := by
    rw [map_map]
    exact map_map (f := Prod.fst) (g := fun k => (a, k)) ▸
      h.olds.map fun _ _ he => (Prod.mk.inj he).2
  news := by
    rw [map_map]
    exact map_map (f := Prod.snd) (g := fun k => (a, k)) ▸
      h.news.map fun _ _ he => (Prod.mk.inj he).2
  apart := by
    intro p hp q hq
    obtain ⟨p', hp', rfl⟩ := mem_map.1 hp
    obtain ⟨q', hq', rfl⟩ := mem_map.1 hq
    exact fun he => h.apart p' hp' q' hq' (Prod.mk.inj he).2

/-- The rows are moved to their new keys, one after the other. -/
def moveAll (m : FMap K V) (pairs : List (K × K)) : FMap K V :=
  pairs.foldl (fun m pair => (m.copy id pair.1 pair.2).erase pair.1) m

/-- Rows moved to free keys: the lookups are the old ones under the old keys. -/
theorem get_moveAll (h : FreshKeys pairs) (hfree : ∀ p ∈ pairs, m.get p.2 = none) (k : K) :
    (m.moveAll pairs).get k = m.get (exchange pairs k) := by
  induction pairs generalizing m with
  | nil => rfl
  | cons p pairs ih =>
    have hstep := fun k => get_copy_erase (hfree p mem_cons_self) p.1 k
    show (((m.copy id p.1 p.2).erase p.1).moveAll pairs).get k = _
    rw [ih h.tail, hstep, exchange_cons, Equiv.Perm.mul_apply]
    intro q hq
    rw [hstep, Equiv.swap_apply_of_ne_of_ne _ (h.snd_ne hq)]
    · exact hfree q (mem_cons_of_mem _ hq)
    · exact (h.apart p mem_cons_self q (mem_cons_of_mem _ hq)).symm

/-- The rows are copied to their new keys, one after the other. -/
def copyAll {ι : Type} (m : FMap K V) (f : ι → V → V) (src dst : ι → K) (l : List ι) : FMap K V :=
  l.foldl (fun m i => m.copy (f i) (src i) (dst i)) m

theorem get_copyAll_of_not_mem {ι : Type} (m : FMap K V) (f : ι → V → V) (src dst : ι → K)
    {l : List ι} {k : K} (h : k ∉ l.map dst) : (m.copyAll f src dst l).get k = m.get k := by
  induction l generalizing m with
  | nil => rfl
  | cons i l ih =>
    simp only [map_cons, mem_cons, not_or] at h
    show ((m.copy (f i) (src i) (dst i)).copyAll f src dst l).get k = _
    rw [ih _ h.2, get_copy_ne _ _ _ h.1]

/-- A row copied to a free key. -/
theorem get_copyAll_of_mem {ι : Type} {f : ι → V → V} {src dst : ι → K}
    {l : List ι} (h : FreshKeys (l.map fun i => (src i, dst i)))
    (hfree : ∀ i ∈ l, m.get (dst i) = none) {i : ι} (hi : i ∈ l) :
    (m.copyAll f src dst l).get (dst i) = (m.get (src i)).map (f i) := by
  induction l generalizing m with
  | nil => cases hi
  | cons j l ih =>
    have hmem : ∀ {r : ι}, r ∈ l → (src r, dst r) ∈ l.map fun i => (src i, dst i) :=
      fun hr => mem_map_of_mem hr
    show ((m.copy (f j) (src j) (dst j)).copyAll f src dst l).get (dst i) = _
    rcases mem_cons.1 hi with rfl | htail
    · have hnot : dst i ∉ l.map dst := by
        intro hin
        obtain ⟨r, hr, heq⟩ := mem_map.1 hin
        exact h.snd_ne (hmem hr) heq
      rw [get_copyAll_of_not_mem _ _ _ _ hnot, get_copy_free _ _ (hfree i mem_cons_self)]
    · rw [ih h.tail _ htail, get_copy_ne]
      · exact h.apart _ (mem_cons_of_mem _ (hmem htail)) _ mem_cons_self
      · intro r hr
        rw [get_copy_ne _ _ _ (h.snd_ne (hmem hr))]
        exact hfree r (mem_cons_of_mem _ hr)

/-- The keys of rows copied to free keys. -/
theorem mem_dom_copyAll {ι : Type} {f : ι → V → V} {src dst : ι → K}
    {l : List ι} (h : FreshKeys (l.map fun i => (src i, dst i)))
    (hfree : ∀ i ∈ l, dst i ∉ m.dom) (hpresent : ∀ i ∈ l, src i ∈ m.dom) {k : K} :
    k ∈ (m.copyAll f src dst l).dom ↔ k ∈ m.dom ∨ k ∈ l.map dst := by
  by_cases hnew : k ∈ l.map dst
  · obtain ⟨i, hi, rfl⟩ := mem_map.1 hnew
    refine iff_of_true ?_ (.inr hnew)
    rw [mem_dom, get_copyAll_of_mem h (fun j hj => get_eq_none_iff.2 (hfree j hj)) hi,
      Option.isSome_map, ← mem_dom]
    exact hpresent i hi
  · rw [mem_dom_congr (get_copyAll_of_not_mem m f src dst hnew)]
    exact ⟨.inl, fun hk => hk.resolve_right hnew⟩

end FMap

section

open List

variable {T : Type} {K V : T → Type}

/-- Tables by name. -/
abbrev Tables (K V : T → Type) := (t : T) → FMap (K t) (V t)

/-- The writes of a transaction, by table and key. -/
abbrev Writes (K V : T → Type) := (t : T) → FMap (K t) (Option (V t))

/-- A table and one of its keys. -/
abbrev Cell (K : T → Type) := (t : T) × K t

/-- The row of a cell. -/
def Tables.row (db : Tables K V) (c : Cell K) : Option (V c.1) := (db c.1).get c.2

/-- What a statement does to one row. -/
inductive RowAction (K V : T → Type)
  | copy (t : T) (f : V t → V t) (src dst : K t)
  | erase (t : T) (k : K t)

namespace RowAction

variable [DecidableEq T] [∀ t, DecidableEq (K t)] {db db' : Tables K V} {a : RowAction K V}
  {as : List (RowAction K V)} {c : Cell K} {S : Set (Cell K)}

/-- The action on the tables themselves. -/
def apply (db : Tables K V) : RowAction K V → Tables K V
  | .copy t f src dst => Function.update db t ((db t).copy f src dst)
  | .erase t k => Function.update db t ((db t).erase k)

/-- What a transaction with these writes sees. -/
def view (db : Tables K V) (w : Writes K V) : Tables K V := fun t => (db t).amend (w t)

/-- The action as a write of a transaction, computed from what it sees. -/
def record (db : Tables K V) (w : Writes K V) : RowAction K V → Writes K V
  | .copy t f src dst =>
    match (view db w t).get src with
    | some row => Function.update w t ((w t).insert dst (some (f row)))
    | none => w
  | .erase t k => Function.update w t ((w t).insert k none)

/-- The cells that an action reads or writes. -/
def cells : RowAction K V → List (Cell K)
  | .copy t _ src dst => [⟨t, src⟩, ⟨t, dst⟩]
  | .erase t k => [⟨t, k⟩]

/-- The cell that an action writes. -/
def target : RowAction K V → Cell K
  | .copy t _ _ dst => ⟨t, dst⟩
  | .erase t k => ⟨t, k⟩

omit [DecidableEq T] [∀ t, DecidableEq (K t)] in
theorem target_mem_cells (a : RowAction K V) : a.target ∈ a.cells := by
  cases a <;> simp [target, cells]

omit [DecidableEq T] in
theorem view_empty (db : Tables K V) : view db (fun _ => ∅) = db := by
  funext t
  exact FMap.amend_empty (db t)

/-- One write of a table shows in that table only. -/
theorem view_update (db : Tables K V) (w : Writes K V) (t : T) (k : K t) (v : Option (V t)) :
    view db (Function.update w t ((w t).insert k v)) =
      Function.update (view db w) t ((db t).amend ((w t).insert k v)) := by
  funext t'
  by_cases h : t' = t
  · subst h
    simp [view]
  · simp [view, h]

theorem view_record (db : Tables K V) (w : Writes K V) (a : RowAction K V) :
    view db (a.record db w) = a.apply (view db w) := by
  cases a with
  | copy t f src dst =>
    cases hrow : (view db w t).get src with
    | none => simp [record, apply, FMap.copy, hrow]
    | some row =>
      simp only [record, apply, FMap.copy, hrow]
      rw [view_update]
      congr 1
      ext k : 1
      by_cases hk : k = dst <;> simp [view, hk]
  | erase t k =>
    simp only [record, apply]
    rw [view_update]
    congr 1
    ext k' : 1
    by_cases hk : k' = k <;> simp [view, hk]

omit [∀ t, DecidableEq (K t)] in
/-- A table that differs in one row only leaves the other cells alone. -/
theorem row_update_ne {t : T} {k : K t} {m : FMap (K t) (V t)}
    (hm : ∀ k', k' ≠ k → m.get k' = (db t).get k') (h : c ≠ ⟨t, k⟩) :
    Tables.row (Function.update db t m) c = Tables.row db c := by
  obtain ⟨t', k'⟩ := c
  unfold Tables.row
  by_cases ht : t' = t
  · subst ht
    rw [Function.update_self, hm k' fun hk => h (by rw [hk])]
  · rw [Function.update_of_ne ht]

/-- An action leaves the other cells alone. -/
theorem apply_row_ne (db : Tables K V) (h : c ≠ a.target) :
    Tables.row (a.apply db) c = Tables.row db c := by
  cases a with
  | copy t f src dst => exact row_update_ne (fun k' hk => FMap.get_copy_ne _ _ _ hk) h
  | erase t k => exact row_update_ne (fun k' hk => if_neg hk) h

/-- An action is recorded at its target. -/
theorem record_row_ne (db : Tables K V) (w : Writes K V)
    (h : c ≠ a.target) : Tables.row (a.record db w) c = Tables.row w c := by
  cases a with
  | copy t f src dst =>
    dsimp [record]
    split
    · exact row_update_ne (fun k' hk => FMap.get_insert_ne _ _ hk) h
    · rfl
  | erase t k => exact row_update_ne (fun k' hk => FMap.get_insert_ne _ _ hk) h

/-- Actions in a row leave the cells alone that none of them writes. -/
theorem foldl_row_ne (h : ∀ a ∈ as, c ≠ a.target)
    (db : Tables K V) : Tables.row (as.foldl apply db) c = Tables.row db c := by
  induction as generalizing db with
  | nil => rfl
  | cons a as ih =>
    rw [foldl_cons, ih fun b hb => h b (mem_cons_of_mem _ hb), apply_row_ne db (h a mem_cons_self)]

/-- On tables that agree on the cells it touches, an action does the same. -/
theorem apply_agree (hS : ∀ c ∈ S, Tables.row db c = Tables.row db' c) (ha : ∀ c ∈ a.cells, c ∈ S) :
    ∀ c ∈ S, Tables.row (a.apply db) c = Tables.row (a.apply db') c := by
  intro c hc
  by_cases h : c = a.target
  · subst h
    cases a with
    | copy t f src dst =>
      have hsrc := hS ⟨t, src⟩ (ha _ (by simp [cells]))
      have hdst := hS ⟨t, dst⟩ (ha _ (by simp [cells]))
      simp only [Tables.row] at hsrc hdst
      simp only [Tables.row, apply, target, Function.update_self, FMap.copy, hsrc]
      split
      · simp
      · exact hdst
    | erase t k => simp [Tables.row, apply, target]
  · rw [apply_row_ne db h, apply_row_ne db' h]
    exact hS c hc

theorem foldl_agree (hS : ∀ c ∈ S, Tables.row db c = Tables.row db' c)
    (has : ∀ a ∈ as, ∀ c ∈ a.cells, c ∈ S) :
    ∀ c ∈ S, Tables.row (as.foldl apply db) c = Tables.row (as.foldl apply db') c := by
  induction as generalizing db db' with
  | nil => exact hS
  | cons a as ih =>
    exact ih (apply_agree hS (has a mem_cons_self))
      fun b hb => has b (mem_cons_of_mem _ hb)

end RowAction

open RowAction

variable [DecidableEq T] [∀ t, DecidableEq (K t)] {db db' : Tables K V} {w : Writes K V}
  {done : List (RowAction K V)}

/-- The writes of a transaction stand for the actions it has done. -/
structure Tracks (db : Tables K V) (w : Writes K V) (done : List (RowAction K V)) : Prop where
  view : view db w = done.foldl apply db
  only : ∀ c : Cell K, (w c.1).get c.2 ≠ none → ∃ a ∈ done, a.target = c

theorem Tracks.empty (db : Tables K V) : Tracks db (fun _ => ∅) [] where
  view := view_empty db
  only := fun _ h => absurd rfl h

/-- A further action. -/
theorem Tracks.record (h : Tracks db w done) (a : RowAction K V) :
    Tracks db (a.record db w) (done ++ [a]) where
  view := by rw [view_record, h.view, foldl_append, foldl_cons, foldl_nil]
  only := by
    intro c hc
    by_cases htarget : c = a.target
    · exact ⟨a, mem_append_right _ mem_cons_self, htarget.symm⟩
    · obtain ⟨b, hb, rfl⟩ := h.only c fun hw => hc ((record_row_ne db w htarget).trans hw)
      exact ⟨b, mem_append_left _ hb, rfl⟩

/-- A whole statement. -/
theorem Tracks.statement (h : Tracks db w done) (as : List (RowAction K V)) :
    Tracks db (as.foldl (fun w a => a.record db w) w) (done ++ as) := by
  induction as generalizing w done with
  | nil => simpa using h
  | cons a as ih =>
    rw [foldl_cons, append_cons]
    exact ih (h.record a)

/-- What others commit does not matter if it leaves the touched cells alone. -/
theorem Tracks.transfer (h : Tracks db w done)
    (hcells : ∀ a ∈ done, ∀ c ∈ a.cells, Tables.row db c = Tables.row db' c) :
    Tracks db' w done where
  view := by
    have hS : ∀ c ∈ {c : Cell K | ∃ a ∈ done, c ∈ a.cells}, Tables.row db c = Tables.row db' c := by
      intro c hc
      obtain ⟨a, ha, hca⟩ := hc
      exact hcells a ha c hca
    have hrun := foldl_agree hS fun a ha c hc => ⟨a, ha, hc⟩
    funext t
    ext k : 1
    by_cases hc : ∃ a ∈ done, (⟨t, k⟩ : Cell K) ∈ a.cells
    · have hrow : (db t).get k = (db' t).get k := hS ⟨t, k⟩ hc
      calc ((db' t).amend (w t)).get k
          = ((db t).amend (w t)).get k := by rw [FMap.get_amend, FMap.get_amend, hrow]
        _ = (RowAction.view db w t).get k := rfl
        _ = (done.foldl apply db t).get k := by rw [h.view]
        _ = (done.foldl apply db' t).get k := hrun ⟨t, k⟩ hc
    · -- an untouched cell has no write
      have hw : (w t).get k = none := by
        by_contra hne
        obtain ⟨a, ha, htarget⟩ := h.only ⟨t, k⟩ hne
        exact hc ⟨a, ha, htarget ▸ a.target_mem_cells⟩
      have hframe : (done.foldl apply db' t).get k = (db' t).get k := by
        refine foldl_row_ne (c := ⟨t, k⟩) (fun a ha hne => hc ⟨a, ha, ?_⟩) db'
        rw [hne]
        exact a.target_mem_cells
      rw [hframe]
      simp [RowAction.view, hw]
  only := h.only

end
