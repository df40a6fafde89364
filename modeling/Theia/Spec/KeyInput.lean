import Theia.Native.KeyInput

/-!
# Submitted keys are read as they were written

An input is written line by line: a line names the default key, which changes nothing when there is
one, lists keys, is a secret of the default key, or is the documented line
`THEIA_ENCRYPTION_KEY=secret` of a single key. Lines are read as they were written unless one has
another meaning for the parser. A secret with an equals sign has one, and so has the line of a single
key: it is read as a key of that name.
-/

namespace Theia

open List

/-! ### Texts -/

/-- A text that trimming leaves as it is. -/
structure Tight (l : List Char) : Prop where
  nonempty : l ≠ []
  front : l.dropWhile isSpace = l
  back : l.reverse.dropWhile isSpace = l.reverse

/-- A text that is read as one line, and not as a comment. -/
structure LineText (l : List Char) : Prop extends Tight l where
  breaks : ∀ c ∈ l, (c = '\n' || c = '\r') = false
  comment : l.head? ≠ some '#'

/-- An identifier or a secret. -/
structure Word (l : List Char) : Prop extends LineText l where
  comma : ',' ∉ l

variable {a b : List Char} {d : String}

theorem Tight.trimmed (h : Tight a) : trimList isSpace a = a := by
  rw [trimList, h.front, h.back, reverse_reverse]

theorem Tight.append {sep : Char} (ha : Tight a) (hb : Tight b) : Tight (a ++ sep :: b) where
  nonempty := by simp
  front := by simp [dropWhile_append, ha.front, ha.nonempty]
  back := by simp [dropWhile_append, hb.back, hb.nonempty]

theorem LineText.append {sep : Char} (hsep : (sep = '\n' || sep = '\r') = false) (ha : LineText a)
    (hb : LineText b) : LineText (a ++ sep :: b) where
  toTight := ha.toTight.append hb.toTight
  breaks := by
    rw [forall_mem_append, forall_mem_cons]
    exact ⟨ha.breaks, hsep, hb.breaks⟩
  comment := by
    rw [head?_append_of_ne_nil _ ha.nonempty]
    exact ha.comment

/-! ### Inputs -/

def entryText (entry : String × String) : List Char := entry.1.toList ++ '=' :: entry.2.toList

/-- A line of an input. -/
inductive KeyLine
  | keyID (id : String)
  | keys (named : Bool) (entries : List (String × String))
  | raw (secret : String)
  | single (secret : String)

def KeyLine.text : KeyLine → List Char
  | keyID id => entryText ("THEIA_ENCRYPTION_KEY_ID", id)
  | keys named entries =>
    let list := [','].intercalate (entries.map entryText)
    if named then "THEIA_ENCRYPTION_KEYS".toList ++ '=' :: list else list
  | raw secret => secret.toList
  | single secret => entryText ("THEIA_ENCRYPTION_KEY", secret)

open KeyLine

def keyInput (lines : List KeyLine) : String :=
  String.ofList (['\n'].intercalate (lines.map text))

/-- The keys of a line, with the identifier of the default key. -/
def KeyLine.entries (d : String) : KeyLine → List (String × String)
  | keyID _ => []
  | keys _ entries => entries
  | raw secret => [(d, secret)]
  | single secret => [(d, secret)]

/-- An identifier and a secret as they may be written. -/
structure IsEntry (entry : String × String) : Prop where
  id : Word entry.1.toList
  secret : Word entry.2.toList
  equals : '=' ∉ entry.1.toList

/-- The names of the three variables. -/
def keyVariables : List String :=
  ["THEIA_ENCRYPTION_KEY_ID", "THEIA_ENCRYPTION_KEYS", "THEIA_ENCRYPTION_KEY"]

/-- The line is written as documented. A line that begins with the name of a variable is the line of
that variable, not a list. -/
def KeyLine.Written : KeyLine → Prop
  | keyID id => Word id.toList
  | keys named entries => entries ≠ [] ∧ (∀ entry ∈ entries, IsEntry entry) ∧
    (named = false → ∀ first ∈ entries.head?, first.1 ∉ keyVariables)
  | raw secret => Word secret.toList
  | single secret => Word secret.toList

/-- The parser has no other meaning for the line: a secret must not look like an entry, and the line
of a single key is read under the name of its variable. -/
def KeyLine.Plain (d : String) : KeyLine → Prop
  | keyID _ => True
  | keys _ _ => True
  | raw secret => '=' ∉ secret.toList
  | single _ => d = "THEIA_ENCRYPTION_KEY"

theorem span_equals (ha : '=' ∉ a) (b : List Char) :
    (a ++ '=' :: b).takeWhile (· != '=') = a ∧ (a ++ '=' :: b).dropWhile (· != '=') = '=' :: b := by
  have hall : ∀ c ∈ a, (c != '=') = true := fun c hc => bne_iff_ne.2 fun he => ha (he ▸ hc)
  rw [takeWhile_append_of_pos hall, dropWhile_append_of_pos hall]
  simp

theorem cutVariable_other (name id : String) (hname : '=' ∉ name.toList) (hid : '=' ∉ id.toList)
    (hne : id ≠ name) (b : List Char) : cutVariable (id.toList ++ '=' :: b) name = none := by
  apply if_neg
  rintro ⟨rest, hrest⟩
  rw [append_assoc] at hrest
  have hcut := congrArg (takeWhile (· != '=')) hrest
  rw [(span_equals hid b).1] at hcut
  exact hne (String.toList_inj.1 (hcut.symm.trans (span_equals hname rest).1))

theorem cutVariable_raw (name : String) (h : '=' ∉ a) : cutVariable a name = none :=
  if_neg fun hstart => h (hstart.subset (by simp))

theorem cutVariable_append (name : String) (b : List Char) :
    cutVariable (name.toList ++ '=' :: b) name = some b := by
  simp [cutVariable, ← drop_drop]

theorem IsEntry.lineText {entry : String × String} (h : IsEntry entry) :
    LineText (entryText entry) :=
  h.id.toLineText.append rfl h.secret.toLineText

/-! ### Reading the parts of a line -/

/-- The map with all keys of a list. -/
def addKeys (m : FMap String String) (entries : List (String × String)) : FMap String String :=
  entries.foldl (fun m e => m.insert e.1 e.2) m



/-- An entry adds its secret. -/
theorem parsePart_entry {entry : String × String} (h : IsEntry entry) (m : FMap String String) :
    parsePart d m (entryText entry) = .ok (m.insert entry.1 entry.2) := by
  have htext := h.lineText.toTight
  simp only [parsePart, htext.trimmed, if_neg htext.nonempty]
  simp [entryText, span_equals h.equals, h.id.trimmed, h.secret.trimmed, h.id.nonempty,
    h.secret.nonempty]

/-- A secret that does not look like an entry belongs to the default key. -/
theorem parsePart_secret {secret : String} (h : Word secret.toList) (hequals : '=' ∉ secret.toList)
    (hd : d ≠ "") (m : FMap String String) :
    parsePart d m secret.toList = .ok (m.insert d secret) := by
  simp [parsePart, h.trimmed, h.nonempty, hequals, hd]

section List

variable {entries : List (String × String)} (hne : entries ≠ [])
  (h : ∀ entry ∈ entries, IsEntry entry)
include h

/-- Entries add their secrets. -/
theorem parsePart_entries (m : FMap String String) :
    (entries.map entryText).foldlM (parsePart d) m =
      .ok (addKeys m entries) :=
  foldlM_map_ok (i := id) (fun entry hentry m => parsePart_entry (h entry hentry) m) m

theorem comma_notMem : ∀ l ∈ entries.map entryText, ',' ∉ l := by
  intro l hl hmem
  obtain ⟨entry, hentry, rfl⟩ := mem_map.1 hl
  have hentry := h entry hentry
  simp [entryText, hentry.id.comma, hentry.secret.comma] at hmem

include hne

theorem lineText_list : LineText ([','].intercalate (entries.map entryText)) := by
  apply intercalate_rule (fun a b => LineText.append rfl)
  · simpa using hne
  · intro l hl
    obtain ⟨entry, hentry, rfl⟩ := mem_map.1 hl
    exact (h entry hentry).lineText

theorem parsePart_list (m : FMap String String) :
    (([','].intercalate (entries.map entryText)).splitOn ',').foldlM (parsePart d) m =
      .ok (addKeys m entries) := by
  rw [splitOn_intercalate _ (comma_notMem h) (by simpa using hne)]
  exact parsePart_entries h m

end List

/-! ### Reading a line -/

/-- The parts of a line that are read one by one. -/
def lineParts (l : List Char) : List (List Char) :=
  match cutVariable l "THEIA_ENCRYPTION_KEY_ID" with
  | some _ => []
  | none => (((cutVariable l "THEIA_ENCRYPTION_KEYS").map (trimList isSpace)).getD l).splitOn ','

theorem parseLine_eq (h : LineText a) (hd : d ≠ "") (m : FMap String String) :
    parseLine (d, m) a = ((lineParts a).foldlM (parsePart d) m).map (d, ·) := by
  simp only [parseLine, lineParts, h.trimmed, if_neg (not_or.2 ⟨h.nonempty, h.comment⟩)]
  cases cutVariable a "THEIA_ENCRYPTION_KEY_ID" with
  | some after => simp [hd, Except.map, pure, Except.pure]
  | none => cases cutVariable a "THEIA_ENCRYPTION_KEYS" <;> rfl

/-- A line that begins with a name that is not one of the two variables. -/
theorem lineParts_other {name : String} (hname : '=' ∉ name.toList)
    (hid : name ≠ "THEIA_ENCRYPTION_KEY_ID") (hkeys : name ≠ "THEIA_ENCRYPTION_KEYS") :
    lineParts (name.toList ++ '=' :: b) = (name.toList ++ '=' :: b).splitOn ',' := by
  simp [lineParts, cutVariable_other _ _ (by decide) hname hid,
    cutVariable_other _ _ (by decide) hname hkeys]

theorem lineParts_keyID : lineParts ("THEIA_ENCRYPTION_KEY_ID".toList ++ '=' :: b) = [] := by
  rw [lineParts, cutVariable_append]

theorem lineParts_keys (hb : Tight b) :
    lineParts ("THEIA_ENCRYPTION_KEYS".toList ++ '=' :: b) = b.splitOn ',' := by
  rw [lineParts, cutVariable_other _ _ (by decide) (by decide) (by decide), cutVariable_append]
  exact congrArg (splitOn ',') hb.trimmed

/-- A line without a comma has at most one part, the line or a shorter one. -/
theorem lineParts_secret (hcomma : ',' ∉ a) (hne : a ≠ []) :
    lineParts a = [] ∨ ∃ part, lineParts a = [part] ∧ (part = a ∨ part.length < a.length) := by
  have hsplit : ∀ {l : List Char}, ',' ∉ l → l.splitOn ',' = [l] := fun hcomma =>
    splitOnP_eq_singleton fun c hc => beq_false_of_ne fun he => hcomma (he ▸ hc)
  unfold lineParts
  split
  · exact .inl rfl
  · right
    cases hkeys : cutVariable a "THEIA_ENCRYPTION_KEYS" with
    | none => exact ⟨a, hsplit hcomma, .inl rfl⟩
    | some after =>
      obtain rfl : a.drop _ = after := by
        simp only [cutVariable] at hkeys
        split at hkeys
        · exact Option.some.inj hkeys
        · cases hkeys
      have hsub := trimList_sublist isSpace (a.drop ("THEIA_ENCRYPTION_KEYS".toList.length + 1))
      refine ⟨_, hsplit fun hmem => hcomma ((hsub.trans (drop_sublist _ _)).subset hmem), .inr ?_⟩
      have hlength := hsub.length_le
      have hpos := length_pos_iff.2 hne
      rw [length_drop] at hlength
      simp only [Option.map_some, Option.getD_some]
      omega

/-- A line begins with the name of a variable, or with an entry. -/
theorem text_keys (first : String × String) (rest : List (String × String)) :
    text (.keys false (first :: rest)) =
      first.1.toList ++ '=' :: [','].intercalate (first.2.toList :: rest.map entryText) := by
  cases rest with
  | nil => simp [text, entryText]
  | cons => simp [text, entryText, intercalate_cons_cons]

/-- The name of a variable is a word. -/
theorem variableWord {name : String} (h : name ∈ keyVariables) :
    Word name.toList ∧ '=' ∉ name.toList := by
  simp only [keyVariables, mem_cons, not_mem_nil, or_false] at h
  rcases h with rfl | rfl | rfl
  all_goals exact ⟨⟨⟨⟨by decide, by decide, by decide⟩, by simp, by decide⟩, by decide⟩, by decide⟩

theorem KeyLine.Written.lineText {line : KeyLine} (h : line.Written) : LineText line.text := by
  have happend : ∀ {name : String} {l : List Char}, name ∈ keyVariables → LineText l →
      LineText (name.toList ++ '=' :: l) :=
    fun hname hl => (variableWord hname).1.toLineText.append rfl hl
  cases line with
  | keyID id => exact happend (by simp [keyVariables]) (Word.toLineText h)
  | keys named entries =>
    cases named with
    | false => exact lineText_list h.1 h.2.1
    | true => exact happend (by decide) (lineText_list h.1 h.2.1)
  | raw secret => exact Word.toLineText h
  | single secret => exact happend (by simp [keyVariables]) (Word.toLineText h)

/-- What a part adds to an empty map is no longer than the part, and shorter if the part is cut. -/
theorem length_of_parsePart {part : List Char} {m : FMap String String} {id secret : String}
    (h : parsePart d ∅ part = .ok m) (hget : m.get id = some secret) :
    secret.toList.length ≤ part.length ∧ ('=' ∈ part → secret.toList.length < part.length) := by
  have hsub := trimList_sublist isSpace part
  have hlength := hsub.length_le
  have hadded : ∀ {key : String} {l : List Char},
      FMap.insert (∅ : FMap String String) key (.ofList l) = m → secret.toList = l := by
    rintro key l rfl
    rw [FMap.get_insert] at hget
    split at hget
    · rw [← Option.some.inj hget, String.toList_ofList]
    · cases hget
  unfold parsePart at h
  dsimp only at h
  split_ifs at h with hblank hequals hempty hd
  · cases h
    cases hget
  · -- the secret is what follows the first equals sign
    have hcut := length_dropWhile_le (· != '=') (trimList isSpace part)
    have hpos := length_pos_of_mem hequals
    have htrim := (trimList_sublist isSpace
      ((trimList isSpace part).dropWhile (· != '=')).tail).length_le
    rw [length_tail] at htrim
    rw [hadded (Except.ok.inj h)]
    exact ⟨by omega, fun _ => by omega⟩
  · rw [hadded (Except.ok.inj h)]
    refine ⟨hlength, fun hmem => lt_of_le_of_ne hlength fun heq => hequals ?_⟩
    -- nothing was trimmed, so the equals sign is still there
    rw [hsub.eq_of_length heq]
    exact hmem

/-! ### Reading a line as it was written -/

/-- A list that does not begin with the name of one of the two variables adds its keys. -/
theorem foldlM_list {first : String × String} {rest : List (String × String)}
    (h : ∀ entry ∈ first :: rest, IsEntry entry) (m : FMap String String)
    (hid : first.1 ≠ "THEIA_ENCRYPTION_KEY_ID") (hkeys : first.1 ≠ "THEIA_ENCRYPTION_KEYS") :
    (lineParts (text (.keys false (first :: rest)))).foldlM (parsePart d) m =
      .ok (addKeys m (first :: rest)) := by
  have hparts : lineParts (text (.keys false (first :: rest))) =
      (text (.keys false (first :: rest))).splitOn ',' := by
    rw [text_keys, lineParts_other (h first mem_cons_self).equals hid hkeys]
  rw [hparts]
  exact parsePart_list (cons_ne_nil _ _) h m

/-- A secret that looks like an entry is cut. -/
theorem raw_cut {secret : String} (h : Word secret.toList) (hequals : '=' ∈ secret.toList)
    {m : FMap String String} (hm : (lineParts secret.toList).foldlM (parsePart d) ∅ = .ok m) :
    m.get d ≠ some secret := by
  intro hget
  rcases lineParts_secret h.comma h.nonempty with hparts | ⟨part, hparts, hpart⟩
  · rw [hparts] at hm
    cases hm
    cases hget
  · rw [hparts, foldlM_cons] at hm
    obtain ⟨mid, hmid, hm⟩ := Except.bind_eq_ok_iff.1 hm
    cases hm
    obtain ⟨hle, hless⟩ := length_of_parsePart hmid hget
    rcases hpart with rfl | hshorter
    · exact absurd (hless hequals) (lt_irrefl _)
    · omega

/-- The line of a single key is read as a list of one key with the name of the variable. -/
theorem single_list {secret : String} (h : Word secret.toList) (m : FMap String String) :
    (lineParts (text (.single secret))).foldlM (parsePart d) m =
      .ok (m.insert "THEIA_ENCRYPTION_KEY" secret) := by
  have hname := variableWord (show "THEIA_ENCRYPTION_KEY" ∈ keyVariables by decide)
  have hentry : ∀ entry ∈ [("THEIA_ENCRYPTION_KEY", secret)], IsEntry entry :=
    forall_mem_singleton.2 ⟨hname.1, h, hname.2⟩
  have hline : text (.single secret) = text (.keys false [("THEIA_ENCRYPTION_KEY", secret)]) := by
    simp [text]
  rw [hline]
  exact foldlM_list hentry m (by simp) (by simp)

/-- A plain line is read as it was written. -/
theorem KeyLine.Written.reads {line : KeyLine} (h : line.Written) (hplain : line.Plain d)
    (hd : d ≠ "") (m : FMap String String) :
    (lineParts line.text).foldlM (parsePart d) m = .ok (addKeys m (line.entries d)) := by
  cases line with
  | keyID id =>
    rw [text, entryText, lineParts_keyID]
    rfl
  | keys named entries =>
    obtain ⟨hne, hentries, hfirst⟩ := h
    cases named with
    | true =>
      rw [text, if_pos rfl, lineParts_keys (lineText_list hne hentries).toTight]
      exact parsePart_list hne hentries m
    | false =>
      obtain ⟨first, rest, rfl⟩ := exists_cons_of_ne_nil hne
      have hother := hfirst rfl first rfl
      simp only [keyVariables, mem_cons, not_or] at hother
      exact foldlM_list hentries m hother.1 hother.2.1
  | raw secret =>
    have hparts : lineParts secret.toList = [secret.toList] := by
      rw [lineParts, cutVariable_raw _ hplain, cutVariable_raw _ hplain]
      exact splitOnP_eq_singleton fun c hc => beq_false_of_ne fun he => Word.comma h (he ▸ hc)
    rw [text, hparts, foldlM_cons, parsePart_secret h hplain hd]
    rfl
  | single secret =>
    rw [single_list h]
    exact congrArg (fun id => Except.ok (m.insert id secret)) hplain.symm

/-- Only a plain line is. -/
theorem KeyLine.Written.plain {line : KeyLine} (h : line.Written) {m : FMap String String}
    (hm : (lineParts line.text).foldlM (parsePart d) ∅ = .ok m)
    (hkeys : m = FMap.ofList (line.entries d)) : line.Plain d := by
  have hget : ∀ {secret : String}, line.entries d = [(d, secret)] → m.get d = some secret := by
    intro secret hentries
    rw [hkeys, hentries]
    exact FMap.get_insert_self _ _ _
  cases line with
  | keyID | keys => trivial
  | raw secret => exact fun hequals => raw_cut h hequals hm (hget rfl)
  | single secret =>
    rw [single_list h] at hm
    cases hm
    have hsame := hget rfl
    rw [FMap.get_insert] at hsame
    split_ifs at hsame with hname
    · exact hname
    · cases hsame

/-! ### Inputs -/

section Input

variable {lines : List KeyLine} (hlines : ∀ line ∈ lines, line.Written)
include hlines

/-- The parser reads a written input line by line. -/
theorem parse_keyInput (hd : Clean d) (hne : lines ≠ []) :
    parseFlexibleEncryptionKeys (keyInput lines) d =
      (lines.map text).foldlM parseLine (d, ∅) >>= fun state =>
        if state.2.isEmpty then .error .noKeys else .ok state.2 := by
  have hmap : lines.map text ≠ [] := by simpa using hne
  have htexts : ∀ l ∈ lines.map text, LineText l := by
    intro l hl
    obtain ⟨line, hline, rfl⟩ := mem_map.1 hl
    exact (hlines line hline).lineText
  have htight : Tight (['\n'].intercalate (lines.map text)) :=
    intercalate_rule (fun a b => Tight.append) hmap fun l hl => (htexts l hl).toTight
  have hfilter : (lines.map text).filter (· ≠ []) = lines.map text :=
    filter_eq_self.2 fun l hl => decide_eq_true (htexts l hl).nonempty
  simp only [parseFlexibleEncryptionKeys, keyInput, String.toList_ofList, htight.trimmed,
    if_neg htight.nonempty, hd.trimmed]
  rw [splitOnP_intercalate rfl hmap fun l hl => (htexts l hl).breaks, hfilter]

theorem parse_plain (hd : Clean d) (hkeys : lines.flatMap (KeyLine.entries d) ≠ [])
    (hplain : ∀ line ∈ lines, line.Plain d) : parseFlexibleEncryptionKeys (keyInput lines) d =
      .ok (FMap.ofList (lines.flatMap (KeyLine.entries d))) := by
  have hne : lines ≠ [] := by
    rintro rfl
    exact hkeys rfl
  have hfull : (FMap.ofList (lines.flatMap (KeyLine.entries d))).isEmpty = false := by
    obtain ⟨entry, hentry⟩ := exists_mem_of_ne_nil _ hkeys
    exact decide_eq_false (Finset.card_ne_zero_of_mem (FMap.mem_dom_ofList hentry))
  have hread : ∀ line ∈ lines, ∀ m, parseLine (d, m) line.text =
      .ok (d, addKeys m (line.entries d)) := by
    intro line hline m
    have hwritten := hlines line hline
    rw [parseLine_eq hwritten.lineText hd.nonempty,
      hwritten.reads (hplain line hline) hd.nonempty]
    rfl
  rw [parse_keyInput hlines hd hne, foldlM_map_ok (i := (d, ·)) hread]
  unfold addKeys
  rw [← foldl_flatMap]
  exact if_neg (Bool.eq_false_iff.1 hfull)

/-- An input whose lines are plain is read as the keys of its lines, later ones replacing earlier
ones of the same identifier. A line by itself is read as its keys exactly if it is plain. -/
theorem submitted_keys_read (hd : Clean d) :
    (lines.flatMap (KeyLine.entries d) ≠ [] → (∀ line ∈ lines, line.Plain d) →
      parseFlexibleEncryptionKeys (keyInput lines) d =
        .ok (FMap.ofList (lines.flatMap (KeyLine.entries d)))) ∧
    ∀ line ∈ lines, line.entries d ≠ [] →
      (parseFlexibleEncryptionKeys (keyInput [line]) d = .ok (FMap.ofList (line.entries d)) ↔
        line.Plain d) := by
  refine ⟨parse_plain hlines hd, fun line hline hkeys => ⟨fun hok => ?_, fun hplain => ?_⟩⟩
  · have hwritten := hlines line hline
    rw [parse_keyInput (forall_mem_singleton.2 hwritten) hd (cons_ne_nil _ _)] at hok
    obtain ⟨state, hstate, hsecrets⟩ := Except.bind_eq_ok_iff.1 hok
    rw [map_singleton, foldlM_cons, parseLine_eq hwritten.lineText hd.nonempty] at hstate
    obtain ⟨mid, hmid, hstate⟩ := Except.bind_eq_ok_iff.1 hstate
    cases hstate
    obtain ⟨m, hm, rfl⟩ := Except.map_eq_ok_iff.1 hmid
    dsimp only at hsecrets
    split at hsecrets
    · cases hsecrets
    · exact hwritten.plain hm (Except.ok.inj hsecrets)
  · have hread := parse_plain (forall_mem_singleton.2 (hlines line hline)) hd
      (by simpa using hkeys) (forall_mem_singleton.2 hplain)
    simpa using hread

end Input

/-- A padded secret behind the name of the list and of the default key, and a list in which the name
of a variable is not the first identifier. -/
theorem submitted_keys_read_padded :
    parseFlexibleEncryptionKeys (keyInput [.keyID "k1", .keys true [("k1", "c2U=")],
        .keys false [("a", "b"), ("THEIA_ENCRYPTION_KEYS", "c")]]) "old" =
      .ok (FMap.ofList [("k1", "c2U="), ("a", "b"), ("THEIA_ENCRYPTION_KEYS", "c")]) := by
  have hword : ∀ text ∈ ["k1", "c2U=", "a", "b", "THEIA_ENCRYPTION_KEYS", "c"], Word text.toList := by
    simp only [forall_mem_cons, not_mem_nil, false_implies, implies_true, and_true]
    refine ⟨?_, ?_, ?_, ?_, ?_, ?_⟩
    all_goals exact ⟨⟨⟨by decide, by decide, by decide⟩, by simp, by decide⟩, by decide⟩
  have hwritten : ∀ line ∈ [KeyLine.keyID "k1", .keys true [("k1", "c2U=")],
      .keys false [("a", "b"), ("THEIA_ENCRYPTION_KEYS", "c")]], line.Written := by
    simp only [forall_mem_cons, not_mem_nil, false_implies, implies_true, and_true]
    refine ⟨hword _ (by simp), ⟨by simp, ?_, by simp⟩, by simp, ?_, by simp [keyVariables]⟩
    · exact forall_mem_singleton.2 ⟨hword _ (by simp), hword _ (by simp), by decide⟩
    · exact forall_mem_cons.2 ⟨⟨hword _ (by simp), hword _ (by simp), by decide⟩,
        forall_mem_singleton.2 ⟨hword _ (by simp), hword _ (by simp), by decide⟩⟩
  refine (submitted_keys_read hwritten ⟨by decide, by decide⟩).1 (by decide) ?_
  simp [KeyLine.Plain]

/-- The line of a single key is read as a key with the name of its variable. -/
theorem single_key_misnamed :
    ∃ keys, parseFlexibleEncryptionKeys "THEIA_ENCRYPTION_KEY=s" "d" = .ok keys ∧
      keys.get "d" = none ∧ keys.get "THEIA_ENCRYPTION_KEY" = some "s" :=
  ⟨_, rfl, by decide, by decide⟩

end Theia
