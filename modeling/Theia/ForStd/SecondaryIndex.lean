import Theia.ForStd.FMap

/-!
# Secondary indexes

A map of rows and an index from a key of the rows to a row's identifier. Several rows may have one
key; the index then points at one of them. `putKey` and `dropKey` are the updates of an index that
trusts each key to belong to one row; `Indexes.upsert` and `Indexes.delete` say when that is right.

Key results:
- **`Indexes.load`**: an index built by a loop over the rows
- **`Indexes.upsert`**, **`Indexes.delete`**: a row is written or deleted
-/

universe u v w

variable {I : Type u} {K : Type v} {V : Type w} [DecidableEq K]

/-- Remove the entry of a key, if there is one. -/
def dropKey (index : FMap K I) : Option K → FMap K I
  | some k => index.erase k
  | none => index

/-- Point a key at an identifier, if there is one. -/
def putKey (index : FMap K I) (id : I) : Option K → FMap K I
  | some k => index.insert k id
  | none => index

theorem get_dropKey (index : FMap K I) (key : Option K) (k : K) :
    (dropKey index key).get k = if key = some k then none else index.get k := by
  cases key with
  | none => simp [dropKey]
  | some k' => simp [dropKey, eq_comm]

theorem get_putKey (index : FMap K I) (id : I) (key : Option K) (k : K) :
    (putKey index id key).get k = if key = some k then some id else index.get k := by
  cases key with
  | none => simp [putKey]
  | some k' => simp [putKey, eq_comm]

/-- The index has an entry exactly for the keys of the rows, and each points at a row with its
key. -/
structure Indexes (key : V → Option K) (rows : FMap I V) (index : FMap K I) : Prop where
  sound : ∀ k id, index.get k = some id → ∃ row, rows.get id = some row ∧ key row = some k
  complete : ∀ id row k, rows.get id = some row → key row = some k → index.get k ≠ none

/-- No row but `id` has the key `k`. -/
def SoleOwner (key : V → Option K) (rows : FMap I V) (id : I) (k : K) : Prop :=
  ∀ id' row, rows.get id' = some row → key row = some k → id' = id

/-- A row whose key is not among those of the other rows is the only one with it. -/
theorem soleOwner_of_notMem [DecidableEq I] {key : V → Option K} {rows : FMap I V} {id : I} {k : K}
    (h : (rows.get id).bind key ∉ (rows.dom.erase id).image fun other => (rows.get other).bind key)
    (hk : (rows.get id).bind key = some k) : SoleOwner key rows id k := by
  intro other row hget hkey
  by_contra hne
  refine h (Finset.mem_image.2 ⟨other, Finset.mem_erase.2 ⟨hne, FMap.mem_dom_of_get hget⟩, ?_⟩)
  rw [hget, hk]
  exact hkey

namespace Indexes

open FMap

variable {key : V → Option K} {rows : FMap I V} {index : FMap K I}

omit [DecidableEq K] in
theorem empty : Indexes key (∅ : FMap I V) (∅ : FMap K I) := by
  constructor
  · intro k id h
    simp at h
  · intro id row k h
    simp at h

variable [DecidableEq I]

/-- The row `id` is written, its old key is dropped and its new key is pointed at it. -/
theorem upsert (h : Indexes key rows index) {id : I} {row : V}
    (hsole : ∀ k, (rows.get id).bind key = some k → key row ≠ some k → SoleOwner key rows id k) :
    Indexes key (rows.insert id row)
      (putKey (dropKey index ((rows.get id).bind key)) id (key row)) := by
  constructor
  · intro k id' hget
    rw [get_putKey] at hget
    split_ifs at hget with hk
    · cases hget
      exact ⟨row, get_insert_self _ _ _, hk⟩
    · rw [get_dropKey] at hget
      split at hget
      · cases hget
      rename_i hold
      obtain ⟨row', hrow, hkey⟩ := h.sound k id' hget
      have hne : id' ≠ id := by
        rintro rfl
        rw [hrow] at hold
        exact hold hkey
      exact ⟨row', by rw [get_insert_ne _ _ hne, hrow], hkey⟩
  · intro id' row' k hrow hkey
    rw [get_putKey]
    split
    · simp
    rename_i hk
    have hid : id' ≠ id := by
      rintro rfl
      rw [get_insert_self] at hrow
      cases hrow
      exact hk hkey
    rw [get_insert_ne _ _ hid] at hrow
    rw [get_dropKey]
    split_ifs with hold
    · exact absurd (hsole k hold hk id' row' hrow hkey) hid
    · exact h.complete id' row' k hrow hkey

/-- A new row is written and its key is pointed at it. -/
theorem insert_new (h : Indexes key rows index) {id : I} (row : V) (hnew : rows.get id = none) :
    Indexes key (rows.insert id row) (putKey index id (key row)) := by
  have hupsert : Indexes key (rows.insert id row)
      (putKey (dropKey index ((rows.get id).bind key)) id (key row)) := h.upsert (by simp [hnew])
  rwa [hnew] at hupsert

/-- The loop that fills a map and its index from a list of rows with distinct identifiers. -/
theorem load (rows : List (I × V)) (h : (rows.map Prod.fst).Nodup) :
    Indexes key (FMap.ofList rows)
      (rows.foldl (fun index row => putKey index row.1 (key row.2)) ∅) := by
  induction rows using List.reverseRecOn with
  | nil => exact empty
  | append_singleton rows row ih =>
    rw [List.map_append, List.nodup_append] at h
    rw [List.foldl_append, ofList_concat]
    apply (ih h.1).insert_new
    exact get_ofList_eq_none fun x hx => h.2.2 _ (List.mem_map_of_mem hx) _ (by simp)

/-- The row `id` is deleted and its key is dropped. -/
theorem delete (h : Indexes key rows index) {id : I}
    (hsole : ∀ k, (rows.get id).bind key = some k → SoleOwner key rows id k) :
    Indexes key (rows.erase id) (dropKey index ((rows.get id).bind key)) := by
  constructor
  · intro k id' hget
    rw [get_dropKey] at hget
    split at hget
    · cases hget
    rename_i hold
    obtain ⟨row', hrow, hkey⟩ := h.sound k id' hget
    have hne : id' ≠ id := by
      rintro rfl
      rw [hrow] at hold
      exact hold hkey
    exact ⟨row', by rw [get_erase, if_neg hne, hrow], hkey⟩
  · intro id' row' k hrow hkey
    rw [get_erase] at hrow
    split at hrow
    · cases hrow
    rename_i hid
    rw [get_dropKey]
    split_ifs with hold
    · exact absurd (hsole k hold id' row' hrow hkey) hid
    · exact h.complete id' row' k hrow hkey

end Indexes
