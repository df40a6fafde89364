import Mathlib

/-!
# Finite partial maps

A finite map is a partial function together with the finite set of keys on which it is
defined. Two maps with the same lookups are equal, so a map built by a loop over distinct
keys can be described by what it answers at each key.

Key results:
- **`FMap.ext`**: maps with the same lookups are equal
- **`FMap.overlay_assoc`**, **`FMap.mergeWith_assoc`**: writing one map over another is
  associative, so a sequence of sparse updates may be compacted into one
- **`FMap.patchWith_patchWith`**: the same for updates that skip unknown keys
- **`FMap.traverse_eq_some_iff`**: a checked copy of a map succeeds when every entry does
-/

universe u v w

/-- A finite partial map from `K` to `V`: the lookup function and its domain. -/
structure FMap (K : Type u) (V : Type v) where
  /-- The value stored under a key, if there is one. -/
  get : K → Option V
  /-- The keys that are present. -/
  dom : Finset K
  /-- The domain is the set of keys with a value. -/
  mem_dom : ∀ k, k ∈ dom ↔ (get k).isSome

namespace FMap

open List

variable {K : Type u} {V : Type v} {W : Type w} {m : FMap K V} {k : K} {v : V} {l : List (K × V)}

/-- Maps with the same lookups are equal: the domain is determined by them. -/
@[ext] theorem ext {m m' : FMap K V} (h : ∀ k, m.get k = m'.get k) : m = m' := by
  obtain ⟨g, d, hd⟩ := m
  obtain ⟨g', d', hd'⟩ := m'
  have hg : g = g' := funext h
  subst hg
  have hdd : d = d' := Finset.ext fun k => by rw [hd k, hd' k]
  subst hdd
  rfl

theorem mem_dom_iff_exists : k ∈ m.dom ↔ ∃ v, m.get k = some v := by
  rw [m.mem_dom, Option.isSome_iff_exists]

theorem mem_dom_of_get (h : m.get k = some v) : k ∈ m.dom :=
  mem_dom_iff_exists.2 ⟨v, h⟩

theorem mem_dom_congr {L : Type*} {m' : FMap L V} {l : L}
    (h : m.get k = m'.get l) : k ∈ m.dom ↔ l ∈ m'.dom := by
  rw [m.mem_dom, h, ← m'.mem_dom]

theorem get_eq_none_iff : m.get k = none ↔ k ∉ m.dom := by
  rw [m.mem_dom, Option.not_isSome_iff_eq_none]

/-- An order in which a loop over the map may visit its keys. -/
def Enumerates (m : FMap K V) (order : List K) : Prop :=
  order.Nodup ∧ ∀ k, k ∈ order ↔ k ∈ m.dom

/-- The value under a key, or `zero` where there is none. -/
def getZero (m : FMap K V) (zero : V) (k : K) : V := (m.get k).getD zero

theorem getZero_eq (h : m.get k = some v) (zero : V) : m.getZero zero k = v := by
  simp [getZero, h]

/-- The map without entries. -/
def empty : FMap K V where
  get _ := none
  dom := ∅
  mem_dom k := by simp

@[simp] theorem get_empty (k : K) : (empty : FMap K V).get k = none := rfl

@[simp] theorem dom_empty : (empty : FMap K V).dom = ∅ := rfl

instance : EmptyCollection (FMap K V) := ⟨empty⟩

instance : Inhabited (FMap K V) := ⟨empty⟩

@[simp] theorem get_emptyCollection (k : K) : (∅ : FMap K V).get k = none := rfl

/-- `m` has no entries. -/
def isEmpty (m : FMap K V) : Bool := decide (m.dom.card = 0)

@[simp] theorem isEmpty_iff : m.isEmpty = true ↔ ∀ k, m.get k = none := by
  simp only [isEmpty, Finset.card_eq_zero, decide_eq_true_eq, Finset.eq_empty_iff_forall_notMem,
    get_eq_none_iff]

theorem isEmpty_eq_false_iff : m.isEmpty = false ↔ ∃ k v, m.get k = some v := by
  rw [← Bool.not_eq_true, isEmpty_iff]
  simp [not_forall, Option.ne_none_iff_exists']

theorem eq_empty_of_isEmpty (h : m.isEmpty = true) : m = ∅ :=
  ext fun k => isEmpty_iff.1 h k

/-- Some entry satisfies the predicate. -/
def any (m : FMap K V) (p : K → V → Bool) : Bool :=
  decide (∃ k ∈ m.dom, (m.get k).any (p k) = true)

theorem any_eq_true_iff {p : K → V → Bool} :
    m.any p = true ↔ ∃ k v, m.get k = some v ∧ p k v = true := by
  simp only [any, decide_eq_true_eq, Option.any_eq_true]
  constructor
  · intro h
    obtain ⟨k, -, v, hget, hp⟩ := h
    exact ⟨k, v, hget, hp⟩
  · intro h
    obtain ⟨k, v, hget, hp⟩ := h
    exact ⟨k, mem_dom_of_get hget, v, hget, hp⟩

theorem any_eq_false_iff {p : K → V → Bool} :
    m.any p = false ↔ ∀ k v, m.get k = some v → p k v = false := by
  rw [← Bool.not_eq_true, any_eq_true_iff]
  simp

/-- The entries of `m` whose value `f` keeps, with the value `f` gives them. -/
def filterMap (f : K → V → Option W) (m : FMap K V) : FMap K W where
  get k := (m.get k).bind (f k)
  dom := m.dom.filter fun k => ((m.get k).bind (f k)).isSome
  mem_dom k := by
    simp only [Finset.mem_filter, m.mem_dom]
    cases m.get k <;> simp

@[simp] theorem get_filterMap (f : K → V → Option W) (m : FMap K V) (k : K) :
    (m.filterMap f).get k = (m.get k).bind (f k) := rfl

/-- `m` with every value replaced. -/
def map (f : K → V → W) (m : FMap K V) : FMap K W where
  get k := (m.get k).map (f k)
  dom := m.dom
  mem_dom k := by rw [m.mem_dom]; simp

@[simp] theorem get_map (f : K → V → W) (m : FMap K V) (k : K) :
    (m.map f).get k = (m.get k).map (f k) := rfl

theorem getZero_map (f : V → W) (m : FMap K V) (zero : V) (k : K) :
    (m.map fun _ v => f v).getZero (f zero) k = f (m.getZero zero k) :=
  Option.getD_map f zero (m.get k)

@[simp] theorem dom_map (f : K → V → W) (m : FMap K V) : (m.map f).dom = m.dom := rfl

/-- A checked copy of `m`: every entry must pass, or the whole copy fails. -/
def traverse (f : K → V → Option W) (m : FMap K V) : Option (FMap K W) :=
  if ∀ k ∈ m.dom, ((m.get k).bind (f k)).isSome then some (m.filterMap f) else none

/-- A checked copy succeeds exactly when every entry passes, and then holds the checked values. -/
theorem traverse_eq_some_iff {f : K → V → Option W} {m' : FMap K W} :
    m.traverse f = some m' ↔ ∀ k, (m.get k).map (f k) = (m'.get k).map some := by
  unfold traverse
  split_ifs with h
  · have hcopy : ∀ k, (m.get k).map (f k) = ((m.filterMap f).get k).map some := by
      intro k
      cases hk : m.get k with
      | none => simp [hk]
      | some v =>
        have hv := h k (mem_dom_of_get hk)
        rw [hk] at hv
        obtain ⟨w, hw⟩ := Option.isSome_iff_exists.1 hv
        have hw : f k v = some w := hw
        simp [hk, hw]
    rw [Option.some.injEq]
    constructor
    · rintro rfl
      exact hcopy
    · intro hm
      ext k : 1
      exact Option.map_injective (Option.some_injective W) ((hcopy k).symm.trans (hm k))
  · refine iff_of_false nofun fun hm => h fun k hk => ?_
    obtain ⟨v, hv⟩ := mem_dom_iff_exists.1 hk
    have hpass := hm k
    rw [hv] at hpass
    obtain ⟨w, -, hw⟩ := Option.map_eq_some_iff.1 hpass.symm
    rw [hv, Option.bind_some, ← hw]
    rfl

/-- `m` with the values that `p` has an update for replaced; other keys of `p` are skipped. -/
def patchWith (f : V → W → V) (m : FMap K V) (p : FMap K W) : FMap K V :=
  m.map fun k v => match p.get k with
    | none => v
    | some w => f v w

section

variable (f : V → W → V) (m : FMap K V) (p : FMap K W)

theorem get_patchWith (k : K) : (m.patchWith f p).get k = (m.get k).map fun v => match p.get k with
      | none => v
      | some w => f v w := rfl

@[simp] theorem dom_patchWith : (m.patchWith f p).dom = m.dom := rfl

@[simp] theorem patchWith_empty : m.patchWith f ∅ = m := by
  ext k : 1
  simp [get_patchWith]

end

section DecidableEq

variable [DecidableEq K]

/-- `m` with `v` stored under `k`. -/
def insert (m : FMap K V) (k : K) (v : V) : FMap K V where
  get k' := if k' = k then some v else m.get k'
  dom := Insert.insert k m.dom
  mem_dom k' := by
    by_cases h : k' = k
    · simp [h]
    · simp [h, m.mem_dom]

@[simp] theorem get_insert (m : FMap K V) (k : K) (v : V) (k' : K) :
    (m.insert k v).get k' = if k' = k then some v else m.get k' := rfl

theorem get_insert_self (m : FMap K V) (k : K) (v : V) : (m.insert k v).get k = some v := by simp

theorem get_insert_ne (m : FMap K V) {k k' : K} (v : V) (h : k' ≠ k) :
    (m.insert k v).get k' = m.get k' := by simp [h]

/-- What holds of the new entry and of the other entries holds of every entry. -/
theorem forall_get_insert {P : K → V → Prop} (hk : P k v)
    (h : ∀ k' v', k' ≠ k → m.get k' = some v' → P k' v') :
    ∀ k' v', (m.insert k v).get k' = some v' → P k' v' := by
  intro k' v' hget
  by_cases hne : k' = k
  · rw [hne, get_insert_self] at hget
    rw [hne, ← Option.some.inj hget]
    exact hk
  · rw [get_insert_ne _ _ hne] at hget
    exact h k' v' hne hget

theorem insert_eq_self (h : m.get k = some v) : m.insert k v = m := by
  ext k' : 1
  rw [get_insert]
  split_ifs with hk
  · rw [hk, h]
  · rfl

/-- The map with the keys of a set. -/
def ofFinset (keys : Finset K) (f : K → V) : FMap K V where
  get k := if k ∈ keys then some (f k) else none
  dom := keys
  mem_dom k := by split <;> simp [*]

/-- `m` without the entry under `k`. -/
def erase (m : FMap K V) (k : K) : FMap K V where
  get k' := if k' = k then none else m.get k'
  dom := m.dom.erase k
  mem_dom k' := by
    by_cases h : k' = k
    · simp [h]
    · simp [h, m.mem_dom]

@[simp] theorem get_erase (m : FMap K V) (k k' : K) :
    (m.erase k).get k' = if k' = k then none else m.get k' := rfl

theorem get_erase_eq_some {k k' : K} :
    (m.erase k).get k' = some v ↔ k' ≠ k ∧ m.get k' = some v := by
  rw [get_erase]
  split <;> simp [*]

/-- The entries of a list, later ones replacing earlier ones. -/
def ofList (l : List (K × V)) : FMap K V :=
  l.foldl (fun m kv => m.insert kv.1 kv.2) empty

@[simp] theorem ofList_nil : ofList ([] : List (K × V)) = ∅ := rfl

theorem ofList_concat (l : List (K × V)) (kv : K × V) :
    ofList (l ++ [kv]) = (ofList l).insert kv.1 kv.2 := by
  simp [ofList]

/-- The map has the last entry of each key. -/
theorem get_ofList (l : List (K × V)) (k : K) :
    (ofList l).get k = (l.filter fun kv => kv.1 = k).getLast?.map Prod.snd := by
  induction l using List.reverseRecOn with
  | nil => rfl
  | append_singleton l kv ih =>
    rw [ofList_concat, get_insert, filter_append, ih]
    by_cases hk : k = kv.1
    · simp [hk]
    · simp [hk, Ne.symm hk]

/-- An entry of the map comes from the list. -/
theorem mem_of_get_ofList (h : (ofList l).get k = some v) : (k, v) ∈ l := by
  rw [get_ofList, Option.map_eq_some_iff] at h
  obtain ⟨kv, hlast, rfl⟩ := h
  obtain ⟨hmem, hk⟩ := mem_filter.1 (mem_of_getLast? hlast)
  exact of_decide_eq_true hk ▸ hmem

theorem get_ofList_eq_none (h : ∀ x ∈ l, x.1 ≠ k) : (ofList l).get k = none :=
  Option.eq_none_iff_forall_ne_some.2 fun _ hget => h _ (mem_of_get_ofList hget) rfl

theorem mem_dom_ofList {x : K × V} (h : x ∈ l) : x.1 ∈ (ofList l).dom := by
  have hne : l.filter (fun kv => kv.1 = x.1) ≠ [] :=
    ne_nil_of_mem (mem_filter.2 ⟨h, decide_eq_true rfl⟩)
  rw [mem_dom, get_ofList, Option.isSome_map, getLast?_isSome]
  exact hne

/-- The first entry of a list is found when no later one has its key. -/
theorem get_ofList_cons_self (h : ∀ x ∈ l, x.1 ≠ k) : (ofList ((k, v) :: l)).get k = some v := by
  have hlater : l.filter (fun kv => kv.1 = k) = [] :=
    filter_eq_nil_iff.2 fun x hx => by simpa using h x hx
  simp [get_ofList, hlater]

/-- Replacing the values of the list replaces the values of the map. -/
theorem ofList_map (f : V → W) (l : List (K × V)) :
    ofList (l.map fun kv => (kv.1, f kv.2)) = (ofList l).map fun _ => f := by
  ext k : 1
  simp [get_ofList, filter_map, Function.comp_def]

/-- Renaming the keys of a list by an injection and reading the values through a function. -/
theorem get_ofList_rename {α L : Type} [DecidableEq L] {g : K → L} (hg : Function.Injective g)
    (key : α → K) (f : α → V) (l : List α) (k : K) :
    (ofList (l.map fun x => (g (key x), f x))).get (g k) =
      ((ofList (l.map fun x => (key x, x))).get k).map f := by
  simp [get_ofList, filter_map, Function.comp_def, hg.eq_iff]

/-- The entries of some of the keys. -/
theorem get_ofList_filter (p : K → Bool) (l : List (K × V)) (k : K) :
    (ofList (l.filter fun kv => p kv.1)).get k = if p k then (ofList l).get k else none := by
  rw [get_ofList, get_ofList, filter_filter]
  split_ifs with hk
  · congr 2
    exact filter_congr fun kv _ => by by_cases h : kv.1 = k <;> simp [h, hk]
  · rw [filter_eq_nil_iff.2]
    · rfl
    · intro kv _
      by_cases h : kv.1 = k <;> simp [h, hk]

/-- With distinct keys a list and its map have the same entries. -/
theorem get_ofList_iff_mem (h : (l.map Prod.fst).Nodup) :
    (ofList l).get k = some v ↔ (k, v) ∈ l := by
  refine ⟨mem_of_get_ofList, fun hmem => ?_⟩
  obtain ⟨w, hw⟩ := mem_dom_iff_exists.1 (mem_dom_ofList hmem)
  rw [hw, (Prod.mk.inj (inj_on_of_nodup_map h (mem_of_get_ofList hw) hmem rfl)).2]

/-- `m` overwritten by the entries of `p`: where both have a value, `p` wins. -/
def overlay (m p : FMap K V) : FMap K V where
  get k := (p.get k).orElse fun _ => m.get k
  dom := m.dom ∪ p.dom
  mem_dom k := by
    simp only [Finset.mem_union, mem_dom]
    cases p.get k <;> simp

@[simp] theorem get_overlay (m p : FMap K V) (k : K) :
    (m.overlay p).get k = (p.get k).orElse fun _ => m.get k := rfl

theorem overlay_map {W : Type} (f : V → W) (m p : FMap K V) :
    (m.map fun _ v => f v).overlay (p.map fun _ v => f v) = (m.overlay p).map fun _ v => f v := by
  ext k : 1
  simp only [get_overlay, get_map]
  cases p.get k <;> rfl

theorem get_overlay_eq_some {m p : FMap K V}
    (h : (m.overlay p).get k = some v) : p.get k = some v ∨ m.get k = some v := by
  rw [get_overlay] at h
  cases hp : p.get k with
  | some w =>
    rw [hp] at h
    exact .inl h
  | none =>
    rw [hp] at h
    exact .inr h

@[simp] theorem overlay_empty (m : FMap K V) : m.overlay ∅ = m := by
  ext k : 1; simp

/-- Overwriting in two steps is overwriting once with the compacted update. -/
theorem overlay_assoc (m p q : FMap K V) : (m.overlay p).overlay q = m.overlay (p.overlay q) := by
  ext k : 1
  cases h : q.get k <;> simp [h]

/-- Writing the same update twice changes nothing the second time. -/
theorem overlay_self (p : FMap K V) : p.overlay p = p := by
  ext k : 1; cases h : p.get k <;> simp [h]

/-- The union of two maps; where both have a value, `f` combines them. -/
def mergeWith (f : V → V → V) (m p : FMap K V) : FMap K V where
  get k := match m.get k, p.get k with
    | none, y => y
    | some x, none => some x
    | some x, some y => some (f x y)
  dom := m.dom ∪ p.dom
  mem_dom k := by
    simp only [Finset.mem_union, mem_dom]
    cases m.get k <;> cases p.get k <;> simp

theorem get_mergeWith (f : V → V → V) (m p : FMap K V) (k : K) :
    (m.mergeWith f p).get k = match m.get k, p.get k with
      | none, y => y
      | some x, none => some x
      | some x, some y => some (f x y) := rfl

@[simp] theorem mergeWith_empty (f : V → V → V) (m : FMap K V) : m.mergeWith f ∅ = m := by
  ext k : 1
  cases h : m.get k <;> simp [get_mergeWith, h]

theorem mergeWith_assoc {f : V → V → V} (hf : ∀ x y z, f (f x y) z = f x (f y z))
    (m p q : FMap K V) : (m.mergeWith f p).mergeWith f q = m.mergeWith f (p.mergeWith f q) := by
  ext k : 1
  cases hm : m.get k <;> cases hp : p.get k <;> cases hq : q.get k <;>
    simp [get_mergeWith, hm, hp, hq, hf]

theorem mergeWith_self {f : V → V → V} (hf : ∀ x, f x x = x) (m : FMap K V) :
    m.mergeWith f m = m := by
  ext k : 1
  cases h : m.get k <;> simp [get_mergeWith, h, hf]

/-- Two updates that skip unknown keys are one update with the merged values. -/
theorem patchWith_patchWith {f : V → W → V} {g : W → W → W}
    (hf : ∀ v x y, f (f v x) y = f v (g x y)) (m : FMap K V) (p q : FMap K W) :
    (m.patchWith f p).patchWith f q = m.patchWith f (p.mergeWith g q) := by
  ext k : 1
  cases hm : m.get k <;> cases hp : p.get k <;> cases hq : q.get k <;>
    simp [get_patchWith, get_mergeWith, hm, hp, hq, hf]

instance [DecidableEq V] : DecidableEq (FMap K V) := fun m m' =>
  decidable_of_iff (m.dom = m'.dom ∧ ∀ k ∈ m.dom, m.get k = m'.get k) (by
    constructor
    · rintro ⟨hd, hg⟩
      ext k : 1
      by_cases hk : k ∈ m.dom
      · exact hg k hk
      · rw [get_eq_none_iff.2 hk, get_eq_none_iff.2 (hd ▸ hk)]
    · rintro rfl
      exact ⟨rfl, fun _ _ => rfl⟩)

end DecidableEq

end FMap
