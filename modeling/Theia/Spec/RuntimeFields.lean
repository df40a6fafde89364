import Theia.Native.ClientMetrics

/-!
# One field of a runtime record from server to client

A record travels as a table of fields. For each field there is the JSON value of the full
record, the value that a patch carries if it changed, and the readers of the client. What has to
hold for a field (`FieldRow.OK`) is proved once for each kind of field; a table of such rows then
parses, and merging its patch gives the new record.
-/

namespace Theia.Client

open FMap Option

/-! ### mergeRecord -/

theorem runtimePatchValueEqual_iff (a b : Option WireValue) :
    runtimePatchValueEqual a b = true ↔ a = b := by
  unfold runtimePatchValueEqual
  split
  · simp
  · rename_i left right
    simp only [decide_eq_true_eq, Option.some.injEq, WireValue.strs.injEq]
    constructor
    · rintro ⟨hlen, hall⟩
      apply List.ext_getElem?
      intro i
      by_cases hi : i < left.length
      · exact hall i hi
      · rw [List.getElem?_eq_none (by omega), List.getElem?_eq_none (by omega)]
    · rintro rfl
      exact ⟨rfl, fun _ _ => rfl⟩
  · rename_i left right
    simp only [decide_eq_true_eq, Option.some.injEq, WireValue.strMap.injEq]
    constructor
    · rintro ⟨hcard, hall⟩
      -- the keys of `left` are keys of `right`, and there are equally many
      have hsub : left.dom ⊆ right.dom := by
        intro key hkey
        obtain ⟨value, hvalue⟩ := mem_dom_iff_exists.1 hkey
        rw [hall key hkey] at hvalue
        exact mem_dom_of_get hvalue
      have hdom := Finset.eq_of_subset_of_card_le hsub hcard.ge
      ext key : 1
      by_cases hkey : key ∈ left.dom
      · exact hall key hkey
      · rw [get_eq_none_iff.2 hkey, get_eq_none_iff.2 (hdom ▸ hkey)]
    · rintro rfl
      exact ⟨rfl, fun _ _ => rfl⟩
  · simp

section

variable (idKey : String) (current patch : WireRecord) (key : String)

theorem spreadRecord_get : (spreadRecord idKey current patch).get key =
      if key = idKey then current.get idKey else (patch.get key).orElse fun _ => current.get key := by
  unfold spreadRecord
  split
  · rename_i id hid
    rw [get_insert, get_overlay, hid]
  · rename_i hid
    rw [get_erase, get_overlay, hid]

/-- `mergeRecord` overwrites the fields of the patch and keeps the identifier. -/
theorem mergeRecord_get : (mergeRecord idKey current patch).get key =
      if key = idKey then current.get idKey else (patch.get key).orElse fun _ => current.get key := by
  unfold mergeRecord
  dsimp only
  split
  · exact spreadRecord_get idKey current patch key
  rename_i hsame
  simp only [not_exists, not_and, not_not, runtimePatchValueEqual_iff] at hsame
  split
  · rename_i hk
    rw [hk]
  rename_i hk
  cases hp : patch.get key with
  | none => rfl
  | some value =>
    have h := hsame key (mem_dom_of_get hp)
    rw [spreadRecord_get, if_neg hk, hp] at h
    exact h

end

/-! ### Rows -/

/-- One field of a record that changes from `previous` to `current`. -/
structure FieldRow where
  /-- The reader of full records. -/
  read : Reader
  /-- The reader of patches. -/
  readPatch : Reader
  /-- The JSON value of the current record. -/
  wire : WireValue
  /-- The value in the patch, if the field changed. -/
  change : Option WireValue
  /-- What the client holds for the previous and the current record. -/
  previous : WireValue
  current : WireValue

/-- The client reads the current value from a full record and from a patch, and a field that is
not in the patch did not change. -/
structure FieldRow.OK (row : FieldRow) : Prop where
  full : row.read row.wire = some row.current
  patch : ∀ value, row.change = some value →
    row.readPatch (cloneRuntimePatchValue value) = some row.current
  same : row.change = none → row.current = row.previous

/-- A field with one reader for both uses that never holds a list. -/
def plainRow (read : Reader) (previous current : WireValue) (change : Option WireValue) :
    FieldRow :=
  { read, readPatch := read, wire := current, change, previous, current }

/-- A field that is sent if it has changed. -/
theorem plainRow_ok {read : Reader} {previous current : WireValue} {changed : Prop}
    [Decidable changed] (hread : read current = some current) (hlist : current ≠ .strs [])
    (hsame : ¬changed → current = previous) :
    (plainRow read previous current (if changed then some current else none)).OK where
  full := hread
  patch value hv := by
    have hclone : cloneRuntimePatchValue current = current := by
      unfold cloneRuntimePatchValue
      split
      · exact absurd rfl hlist
      · rfl
    rw [← Option.some.inj (Option.ite_none_right_eq_some.1 hv).2, hclone]
    exact hread
  same hnone := hsame fun hchanged => by simp [plainRow, hchanged] at hnone

theorem idRow_ok {id : String} (h : id ≠ "") :
    (plainRow (readRequiredString false) (.str id) (.str id) (some (.str id))).OK := by
  show (plainRow _ _ _ (if True then some _ else none)).OK
  exact plainRow_ok (by simp [readRequiredString, h]) (by simp) fun _ => rfl

theorem enumRow_ok {allowed : List String} {previous current : String} (key : String)
    (h : current ∈ allowed) (hempty : "" ∉ allowed) :
    (plainRow (readRequiredEnum allowed) (.str previous) (.str current)
      (addString key current previous).2).OK := by
  have hne : current ≠ "" := fun he => hempty (he ▸ h)
  refine plainRow_ok (by simp [readRequiredEnum, h]) (by simp) fun hsame => ?_
  rw [not_and, not_not] at hsame
  rw [hsame hne]

theorem fixedRow_ok {allowEmpty : Bool} {value : String} (h : allowEmpty || value ≠ "") :
    (plainRow (readRequiredString allowEmpty) (.str value) (.str value) none).OK := by
  show (plainRow _ _ _ (if False then some (.str value) else none)).OK
  exact plainRow_ok (if_pos h) (by simp) fun _ => rfl

theorem stringPtrRow_ok (key : String) (previous current : Option String) :
    (plainRow readRequiredNullableString (wireStringPtr previous) (wireStringPtr current)
      (addStringPtr key current previous).2).OK := by
  refine plainRow_ok ?_ ?_ fun hsame => by rw [not_not.1 hsame]
  · cases current <;> rfl
  · cases current <;> simp [wireStringPtr]

theorem floatPtrRow_ok (key : String) (previous current : Option ℚ) :
    (plainRow readRequiredNullableNumber (wireFloatPtr previous) (wireFloatPtr current)
      (addFloatPtr key current previous).2).OK := by
  refine plainRow_ok ?_ ?_ fun hsame => by rw [not_not.1 hsame]
  · cases current <;> rfl
  · cases current <;> simp [wireFloatPtr]

theorem countRow_ok (key : String) (previous current : Int) (h : 0 ≤ current) :
    (plainRow readRequiredCount (.num previous) (.num current) (addInt key current previous).2).OK := by
  refine plainRow_ok ?_ (by simp) fun hsame => by rw [not_not.1 hsame]
  have h' : (0 : ℚ) ≤ current := by exact_mod_cast h
  simp [readRequiredCount, trunc, h']

theorem flagsRow_ok {flags : List String} {previous : Option (List String)}
    (h : ∀ flag ∈ flags, flag ∈ runtimeFlags) :
    FieldRow.OK {
      read := readRuntimeFlags
      readPatch := readRuntimeFlagsPatch
      wire := .strs flags
      change := if stringSliceRuntimeEqual (some flags) previous then none else some (.strs flags)
      previous := .strs (previous.getD [])
      current := .strs flags } where
  full := by simp only [readRuntimeFlags]; rw [if_pos h]
  patch value hv := by
    split at hv
    · cases hv
    rw [← Option.some.inj hv]
    cases flags with
    | nil => rfl
    | cons flag flags =>
      simp only [cloneRuntimePatchValue, readRuntimeFlagsPatch, readRuntimeFlags]
      rw [if_pos h]
  same hnone := by
    split at hnone
    · rename_i heq
      simp only [stringSliceRuntimeEqual, getD_some, decide_eq_true_eq] at heq
      rw [heq]
    · cases hnone

/-- The field states that the client keeps. -/
def clientFieldStates (fields : FMap String String) : FMap String String :=
  FMap.ofList [("uptime", fields.getZero "" "uptime"), ("cpu", fields.getZero "" "cpu"),
    ("memory", fields.getZero "" "memory")]

/-- All three field states are there with a value that the client knows. -/
def KnownFieldStates (fields : FMap String String) : Prop :=
  ∀ key ∈ ["uptime", "cpu", "memory"], ∃ value ∈ fieldStates, fields.get key = some value

theorem KnownFieldStates.readFieldState {fields : FMap String String} (h : KnownFieldStates fields)
    {key : String} (hk : key ∈ ["uptime", "cpu", "memory"]) :
    readFieldState fields key = some (fields.getZero "" key) := by
  obtain ⟨value, hmem, hget⟩ := h key hk
  simp [Client.readFieldState, FMap.getZero, hget, hmem]

theorem KnownFieldStates.valid {fields : FMap String String} (h : KnownFieldStates fields) :
    validRuntimeFieldStates fields = true := by
  have hne : ∀ value ∈ fieldStates, value ≠ "" := by decide
  simp only [validRuntimeFieldStates, Bool.and_eq_true, Bool.not_eq_true', List.all_eq_true,
    decide_eq_true_eq]
  constructor
  · obtain ⟨value, -, hget⟩ := h "uptime" (by simp)
    exact isEmpty_eq_false_iff.2 ⟨_, _, hget⟩
  · intro key hk
    obtain ⟨value, hmem, hget⟩ := h key hk
    simpa [FMap.getZero, hget] using hne value hmem

theorem fieldStatesRow_ok {previous current : FMap String String}
    (hc : KnownFieldStates current) :
    FieldRow.OK {
      read := readFieldStates
      readPatch := readFieldStates
      wire := .strMap current
      change := if validRuntimeFieldStates current && !stringMapRuntimeEqual current previous then
          some (.strMap current) else none
      previous := .strMap (clientFieldStates previous)
      current := .strMap (clientFieldStates current) } := by
  have hread : readFieldStates (.strMap current) = some (.strMap (clientFieldStates current)) := by
    have huptime := hc.readFieldState (show "uptime" ∈ _ by simp)
    have hcpu := hc.readFieldState (show "cpu" ∈ _ by simp)
    have hmemory := hc.readFieldState (show "memory" ∈ _ by simp)
    simp only [readFieldStates, huptime, hcpu, hmemory]
    rfl
  constructor
  · exact hread
  · intro value hv
    split at hv
    · rw [← Option.some.inj hv]
      exact hread
    · cases hv
  · intro hnone
    -- equal sizes and the entries of one in the other: the three kept entries agree
    simp only [hc.valid, Bool.true_and, Bool.not_eq_true', ite_eq_right_iff, reduceCtorEq,
      imp_false, Bool.not_eq_false, stringMapRuntimeEqual, decide_eq_true_eq] at hnone
    have hkey : ∀ key ∈ ["uptime", "cpu", "memory"],
        current.getZero "" key = previous.getZero "" key := by
      intro key hk
      obtain ⟨value, -, hget⟩ := hc key hk
      exact (hnone.2 key (mem_dom_of_get hget)).symm
    simp [clientFieldStates, hkey "uptime" (by simp), hkey "cpu" (by simp), hkey "memory" (by simp)]

/-! ### Tables of rows -/

section Tables

variable {rows : List (String × FieldRow)}

/-- The column of a table. -/
abbrev column {α : Type} (f : FieldRow → α) (rows : List (String × FieldRow)) : FMap String α :=
  FMap.ofList (rows.map fun kv => (kv.1, f kv.2))

theorem get_column {α : Type} (f : FieldRow → α) (key : String) :
    (column f rows).get key = ((FMap.ofList rows).get key).map f := by
  rw [column, ofList_map]
  rfl

section

variable (h : ∀ x ∈ rows, x.2.OK)
include h

theorem row_ok {key : String} {row : FieldRow}
    (hget : (FMap.ofList rows).get key = some row) : row.OK :=
  h (key, row) (mem_of_get_ofList hget)

theorem readAll_rows : readAll (column FieldRow.read rows) (column FieldRow.wire rows) =
      some (column FieldRow.current rows) := by
  rw [readAll, traverse_eq_some_iff]
  intro key
  simp only [get_column]
  cases hrow : (FMap.ofList rows).get key with
  | none => rfl
  | some row => exact congrArg some (row_ok h hrow).full

/-- The fields of a table that changed, as the client reads them. -/
def parsedPatch (rows : List (String × FieldRow)) : WireRecord :=
  (FMap.ofList rows).filterMap fun _ row => row.change.map fun _ => row.current

theorem readPresent_rows : readPresent (column FieldRow.readPatch rows)
      (cloneRuntimePatchMap ((column FieldRow.change rows).filterMap fun _ value => value)) =
      some (parsedPatch rows) := by
  rw [readPresent, traverse_eq_some_iff]
  intro key
  simp only [get_filterMap, cloneRuntimePatchMap, FMap.get_map, get_column, parsedPatch]
  cases hrow : (FMap.ofList rows).get key with
  | none => rfl
  | some row =>
    cases hchange : row.change with
    | none => simp [hchange]
    | some value => simp [hchange, (row_ok h hrow).patch value hchange]

theorem mergeRecord_rows {idKey : String} {id : FieldRow}
    (hid : (FMap.ofList rows).get idKey = some id) (hsame : id.current = id.previous) :
    mergeRecord idKey (column FieldRow.previous rows) (parsedPatch rows) =
      column FieldRow.current rows := by
  ext key : 1
  rw [mergeRecord_get]
  split
  · rename_i hk
    rw [hk, get_column, get_column, hid, map_some, map_some, hsame]
  simp only [parsedPatch, get_filterMap, get_column]
  cases hrow : (FMap.ofList rows).get key with
  | none => rfl
  | some row =>
    cases hchange : row.change with
    | none => simp [hchange, (row_ok h hrow).same hchange]
    | some value => simp [hchange]

theorem column_same (hnone : ∀ x ∈ rows, x.2.change = none ∨ x.2.current = x.2.previous) :
    column FieldRow.current rows = column FieldRow.previous rows := by
  ext key : 1
  simp only [get_column]
  cases hrow : (FMap.ofList rows).get key with
  | none => rfl
  | some row =>
    rcases hnone (key, row) (mem_of_get_ofList hrow) with hc | hc
    · rw [map_some, map_some, (row_ok h hrow).same hc]
    · rw [map_some, map_some, hc]

end

/-- The row of an identifier. -/
abbrev idRow (id : String) : FieldRow :=
  plainRow (readRequiredString false) (.str id) (.str id) (some (.str id))

/-- A record patch takes the client from one record to another; without one they are the same. -/
def RecordPatch (idKey id : String) (parse : WireRecord → Option WireRecord)
    (previous current : WireRecord) : Option WireRecord → Prop
  | none => current = previous
  | some patch => patch.get idKey = some (.str id) ∧
      ∃ parsed, parse (cloneRuntimePatchMap patch) = some parsed ∧
        parsed.get idKey = some (.str id) ∧ mergeRecord idKey previous parsed = current

/-- A table headed by an identifier: without a patch nothing changed, and a patch parses and
merges to the current record. -/
theorem patchOf_rows {idKey id : String} (hid : id ≠ "") (h : ∀ x ∈ rows, x.2.OK)
    (hkey : ∀ x ∈ rows, x.1 ≠ idKey) :
    RecordPatch idKey id
      (parsePatch idKey (((idKey, idRow id) :: rows).map fun kv => (kv.1, kv.2.readPatch)))
      (column FieldRow.previous ((idKey, idRow id) :: rows))
      (column FieldRow.current ((idKey, idRow id) :: rows))
      (patchOf idKey id (rows.map fun kv => (kv.1, kv.2.change))) := by
  have hall : ∀ x ∈ (idKey, idRow id) :: rows, x.2.OK := by
    intro x hx
    rcases List.mem_cons.1 hx with rfl | hx
    · exact idRow_ok hid
    · exact h x hx
  have hget : (FMap.ofList ((idKey, idRow id) :: rows)).get idKey = some (idRow id) :=
    get_ofList_cons_self hkey
  unfold patchOf
  split_ifs with hempty
  · apply column_same hall
    intro x hx
    rcases List.mem_cons.1 hx with rfl | hx
    · exact .inr rfl
    · simp only [List.all_map, List.all_eq_true, Function.comp_apply, isNone_iff_eq_none] at hempty
      exact .inl (hempty x hx)
  · -- the patch is the column of changes
    show RecordPatch idKey id _ _ _ (some ((column FieldRow.change
      ((idKey, idRow id) :: rows)).filterMap fun _ value => value))
    have hpid : ((column FieldRow.change ((idKey, idRow id) :: rows)).filterMap
        fun _ value => value).get idKey = some (.str id) := by
      rw [get_filterMap, get_column, hget]
      rfl
    refine ⟨hpid, parsedPatch ((idKey, idRow id) :: rows), ?_, ?_, ?_⟩
    · rw [parsePatch, if_neg]
      · exact readPresent_rows hall
      · rw [cloneRuntimePatchMap, FMap.get_map, hpid]
        exact Bool.false_ne_true
    · rw [parsedPatch, get_filterMap, hget]
      rfl
    · exact mergeRecord_rows hall hget rfl

end Tables

/-! ### Sections of a payload -/

section Sections

variable {DTO : Type} {idKey : String} {parse : WireRecord → Option WireRecord}
  {client : DTO → WireRecord}

theorem parseSection_empty :
    parseSection idKey parse ((∅ : FMap String WireRecord).map fun _ patch =>
      cloneRuntimePatchMap patch) = some ∅ := by
  rw [parseSection, traverse_eq_some_iff]
  intro id
  rfl

theorem parseSection_map {wire : DTO → WireRecord} {entries : FMap String DTO}
    (h : ∀ id dto, entries.get id = some dto →
      parse (wire dto) = some (client dto) ∧ (client dto).get idKey = some (.str id)) :
    parseSection idKey parse (entries.map fun _ dto => wire dto) =
      some (entries.map fun _ dto => client dto) := by
  rw [parseSection, traverse_eq_some_iff]
  intro id
  simp only [FMap.get_map]
  cases hdto : entries.get id with
  | none => rfl
  | some dto =>
    obtain ⟨hparse, hid⟩ := h id dto hdto
    simp [hparse, hid]

/-- One section of a sparse patch: it parses, and merging it puts the records of the delta in
place of the old ones. -/
theorem parseSection_patch {build : DTO → DTO → Option WireRecord} (zero : DTO)
    {previous delta : FMap String DTO}
    (h : ∀ id cur, delta.get id = some cur → ∃ prev, previous.get id = some prev ∧
      RecordPatch idKey id parse (client prev) (client cur) (build cur prev)) :
    ∃ parsed, parseSection idKey parse ((delta.filterMap fun id cur =>
          (build cur (previous.getZero zero id)).map fun patch => patch.insert idKey (.str id)).map
          fun _ patch => cloneRuntimePatchMap patch) = some parsed ∧
      (previous.map fun _ dto => client dto).patchWith (mergeRecord idKey) parsed =
        (previous.overlay delta).map fun _ dto => client dto := by
  -- what the client reads for one entity of the delta
  have hentry : ∀ id cur, delta.get id = some cur → ∃ prev, previous.get id = some prev ∧
      ((build cur prev = none ∧ client cur = client prev) ∨
        ∃ patch parsed, build cur prev = some patch ∧ patch.insert idKey (.str id) = patch ∧
          parse (cloneRuntimePatchMap patch) = some parsed ∧ parsed.get idKey = some (.str id) ∧
          mergeRecord idKey (client prev) parsed = client cur) := by
    intro id cur hcur
    obtain ⟨prev, hprev, hpatch⟩ := h id cur hcur
    refine ⟨prev, hprev, ?_⟩
    cases hbuild : build cur prev with
    | none =>
      rw [hbuild] at hpatch
      exact .inl ⟨rfl, hpatch⟩
    | some patch =>
      rw [hbuild] at hpatch
      obtain ⟨hid, parsed, hparse, hpid, hmerge⟩ := hpatch
      exact .inr ⟨patch, parsed, rfl, insert_eq_self hid, hparse, hpid, hmerge⟩
  refine ⟨delta.filterMap fun id cur =>
    (build cur (previous.getZero zero id)).bind fun patch => parse (cloneRuntimePatchMap patch),
    ?_, ?_⟩
  · rw [parseSection, traverse_eq_some_iff]
    intro id
    simp only [FMap.get_map, get_filterMap]
    cases hcur : delta.get id with
    | none => rfl
    | some cur =>
      obtain ⟨prev, hprev, hcase⟩ := hentry id cur hcur
      rcases hcase with ⟨hbuild, -⟩ | ⟨patch, parsed, hbuild, hins, hparse, hpid, -⟩
      · simp [FMap.getZero, hprev, hbuild]
      · simp [FMap.getZero, hprev, hbuild, hins, hparse, hpid]
  · ext id : 1
    simp only [get_patchWith, FMap.get_map, get_filterMap, get_overlay]
    cases hcur : delta.get id with
    | none => cases previous.get id <;> rfl
    | some cur =>
      obtain ⟨prev, hprev, hcase⟩ := hentry id cur hcur
      rcases hcase with ⟨hbuild, hsame⟩ | ⟨patch, parsed, hbuild, -, hparse, -, hmerge⟩
      · simp [FMap.getZero, hprev, hbuild, hsame]
      · simp [FMap.getZero, hprev, hbuild, hparse, hmerge]

end Sections

end Theia.Client
