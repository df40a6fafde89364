import Theia.Native.Keyring

/-!
# Encrypted values stay readable

A value is sealed with the active secret of a keyring in use. It stays readable as long as the keyring
that the next start loads has that secret under that identifier. The file only gains keys, except that
`SaveAdditionalEncryptionKeys` replaces the secret of an identifier that it is passed again.
-/

namespace Theia

open List FMap Option Except

variable {secret : String} {entry : String × String} {state : PersistedKeyringState}
  {file : Option PersistedKeyringState}

/-! ### Tables -/

namespace KeyTable

open KeyringSystem

variable {t t' : KeyTable} {u : String → Option String} {extra : List (String × String)}

/-- The table agrees with `u` and has no more keys. -/
def Within (t : KeyTable) (u : String → Option String) : Prop :=
  ∀ id secret, t.get id = some secret → u id = some secret

/-- The entries that are kept agree with `u`. -/
def EntriesWithin (extra : List (String × String)) (u : String → Option String) : Prop :=
  ∀ id secret, (id, secret) ∈ keptEntries extra → u id = some secret

theorem within_refl (t : KeyTable) : t.Within t.get := fun _ _ h => h

theorem isSome_overlay {m p : FMap String String} {id : String}
    (h : (m.get id).isSome ∨ (p.get id).isSome) : ((m.overlay p).get id).isSome := by
  rw [get_overlay]
  cases hget : p.get id with
  | some secret => rfl
  | none =>
    rw [hget] at h
    exact h.resolve_right (by simp)

theorem within_overlay (t t' : KeyTable) : t'.Within (t.overlay t').get := by
  intro id secret hget
  show ((t'.get id).orElse fun _ => t.get id) = some secret
  rw [hget]
  rfl

theorem Within.trans (h : t.Within t'.get) (h' : t'.Within u) : t.Within u :=
  fun id secret hget => h' id secret (h id secret hget)

/-- A table whose keys are all in another one that agrees with the same `u` is part of it. -/
theorem Within.of_dom (h : t.Within u) (h' : t'.Within u)
    (hdom : ∀ id, (t.get id).isSome → (t'.get id).isSome) : t.Within t'.get := by
  intro id secret hget
  obtain ⟨secret', hget'⟩ := isSome_iff_exists.1 (hdom id (by rw [hget]; rfl))
  rw [hget', ← h' id secret' hget', h id secret hget]

/-! ### Entries -/

theorem foldl_insertTrimmed (t : KeyTable) (extra : List (String × String)) :
    (extra.foldl KeyTable.insertTrimmed t).keys =
      t.keys.overlay (FMap.ofList (keptEntries extra)) := by
  induction extra using List.reverseRecOn with
  | nil => exact (overlay_empty _).symm
  | append_singleton extra entry ih =>
    rw [foldl_append, keptEntries, map_append, filter_append,
      ← keptEntries, foldl_cons, foldl_nil, insertTrimmed]
    split_ifs with h
    · rw [map_singleton, filter_cons_of_pos (by simpa using h), filter_nil, ofList_concat]
      ext id : 1
      show ((List.foldl insertTrimmed t extra).keys.insert _ _).get id = _
      rw [ih]
      simp only [get_insert, get_overlay]
      split <;> rfl
    · rw [map_singleton, filter_cons_of_neg (by simpa using h), filter_nil, append_nil, ih]

theorem EntriesWithin.perm {again : List (String × String)} (h : EntriesWithin extra u)
    (hperm : again.Perm extra) : EntriesWithin again u :=
  fun id secret hmem => h id secret (((hperm.map _).filter _).mem_iff.1 hmem)

theorem Within.foldl (h : t.Within u) (hextra : EntriesWithin extra u) :
    (extra.foldl KeyTable.insertTrimmed t).Within u := by
  intro id secret hget
  rw [get, foldl_insertTrimmed] at hget
  obtain hnew | hold := get_overlay_eq_some hget
  · exact hextra id secret (mem_of_get_ofList hnew)
  · exact h id secret hold

theorem isSome_foldl {id : String} (h : (t.get id).isSome) :
    ((extra.foldl KeyTable.insertTrimmed t).get id).isSome := by
  rw [get, foldl_insertTrimmed]
  exact isSome_overlay (.inl h)

theorem entriesWithin_foldl {again : List (String × String)} (h : t.Within u)
    (hextra : EntriesWithin extra u) (hperm : again.Perm extra) :
    EntriesWithin extra (again.foldl KeyTable.insertTrimmed t).get := by
  intro id secret hmem
  have hkept : (id, secret) ∈ keptEntries again :=
    ((hperm.map _).filter _).mem_iff.2 hmem
  have hdom : ((again.foldl KeyTable.insertTrimmed t).get id).isSome := by
    rw [get, foldl_insertTrimmed]
    exact isSome_overlay (.inr ((mem_dom _ _).1 (mem_dom_ofList hkept)))
  obtain ⟨stored, hget⟩ := isSome_iff_exists.1 hdom
  rw [hget, ← h.foldl (hextra.perm hperm) _ _ hget, hextra id secret hmem]

/-! ### The loop of `NewKeyring` -/

/-- The loop of `NewKeyring` accepts no blank entry, and stores the others. -/
theorem collectKeys_ok (h : collectKeys extra t = .ok t') :
    (∀ entry ∈ extra, trimSpace entry.1 ≠ "" ∧ trimSpace entry.2 ≠ "") ∧
      t' = extra.foldl KeyTable.insertTrimmed t := by
  induction extra generalizing t with
  | nil =>
    cases h
    exact ⟨nofun, rfl⟩
  | cons entry rest ih =>
    unfold collectKeys at h
    split at h
    · cases h
    rename_i hid
    split at h
    · cases h
    · rename_i hsecret
      obtain ⟨hrest, rfl⟩ := ih h
      refine ⟨forall_mem_cons.2 ⟨⟨hid, hsecret⟩, hrest⟩, ?_⟩
      rw [foldl_cons, insertTrimmed, dif_pos ⟨hid, hsecret⟩]

theorem overlay_grows {base keys keys' : KeyTable} (h : (base.overlay keys).Within u)
    (h' : keys'.Within u) (hdom : ∀ id, (keys.get id).isSome → (keys'.get id).isSome) :
    (base.overlay keys).Within (base.overlay keys').get := by
  apply h.of_dom
  · intro id secret hget
    obtain hget' | hbase := get_overlay_eq_some hget
    · exact h' id secret hget'
    -- a key of the base that is not covered now was not covered before
    cases hkeys : keys.get id with
    | none =>
      apply h id secret
      show ((keys.get id).orElse fun _ => base.get id) = some secret
      rw [hkeys]
      exact hbase
    | some old =>
      obtain ⟨new, hnew⟩ := isSome_iff_exists.1 (hdom id (by rw [hkeys]; rfl))
      have hsame := within_overlay base keys' id new hnew
      rw [hget] at hsame
      cases hsame
      exact h' id secret hnew
  · intro id hsome
    obtain ⟨secret, hget⟩ := isSome_iff_exists.1 hsome
    obtain hkeys | hbase := get_overlay_eq_some hget
    · exact isSome_overlay (.inr (hdom id (isSome_iff_exists.2 ⟨secret, hkeys⟩)))
    · exact isSome_overlay (.inl (isSome_iff_exists.2 ⟨secret, hbase⟩))

/-- Entries that do not contradict a table or each other. -/
def Agrees (t : KeyTable) (extra : List (String × String)) : Bool :=
  (keptEntries extra).all fun entry => (t.get entry.1).all (· = entry.2)

/-- Entries of the same identifier have the same secret. -/
def consistent (extra : List (String × String)) : Bool :=
  (keptEntries extra).all fun a =>
    (keptEntries extra).all fun b => a.1 ≠ b.1 || a.2 = b.2

/-- The keys of a table, and the entries for the identifiers it does not have. -/
def withEntries (t : KeyTable) (extra : List (String × String)) (id : String) : Option String :=
  match t.get id with
  | some secret => some secret
  | none => ((keptEntries extra).find? fun entry => entry.1 = id).map Prod.snd

theorem within_withEntries (t : KeyTable) (extra : List (String × String)) :
    t.Within (t.withEntries extra) := by
  intro id secret hget
  simp [withEntries, hget]

theorem entriesWithin_withEntries (hagrees : t.Agrees extra = true)
    (hconsistent : consistent extra = true) : EntriesWithin extra (t.withEntries extra) := by
  intro id secret hmem
  simp only [Agrees, List.all_eq_true] at hagrees
  simp only [consistent, List.all_eq_true, Bool.or_eq_true, decide_eq_true_eq] at hconsistent
  cases hget : t.get id with
  | some old =>
    have hold := hagrees _ hmem
    simp only [hget, all_some, decide_eq_true_eq] at hold
    simp [withEntries, hget, hold]
  | none =>
    -- the first entry of the identifier has the same secret
    obtain ⟨first, hfirst⟩ : ∃ first, (keptEntries extra).find?
        (fun entry => entry.1 = id) = some first := by
      rw [← isSome_iff_exists, List.find?_isSome]
      exact ⟨_, hmem, by simp⟩
    have hid : first.1 = id := by simpa using List.find?_some hfirst
    have hsecret := (hconsistent _ (mem_of_find?_eq_some hfirst) _ hmem).resolve_left
      (not_not.2 hid)
    simp [withEntries, hget, hfirst, hsecret]

end KeyTable

/-! ### Keyrings -/

namespace Keyring

variable {activeID : String} {t : KeyTable} {k k' : Keyring} {u : String → Option String}
  {extra : List (String × String)}

theorem ofTable_ok (h : ofTable activeID t = .ok k) : k.activeID = trimSpace activeID ∧ k.table = t := by
  unfold ofTable at h
  split at h
  · cases h
  split at h
  · cases h
  · split at h
    · cases h
      exact ⟨rfl, rfl⟩
    · cases h

theorem activeID_clean (k : Keyring) : Clean k.activeID := by
  obtain ⟨secret, hsecret⟩ := isSome_iff_exists.1 k.active
  exact (k.table.clean _ _ hsecret).1

theorem ofTable_of_active (h : (t.get (trimSpace activeID)).isSome) :
    ∃ k, ofTable activeID t = .ok k := by
  obtain ⟨secret, hsecret⟩ := isSome_iff_exists.1 h
  have hempty : t.keys.isEmpty = false := by
    rw [FMap.isEmpty_eq_false_iff]
    exact ⟨_, secret, hsecret⟩
  have hne : trimSpace activeID ≠ "" := (t.clean _ _ hsecret).1.nonempty
  rw [ofTable, if_neg hne, hempty, if_neg Bool.false_ne_true, dif_pos h]
  exact ⟨_, rfl⟩

theorem isSome_of_ofTable (h : ofTable activeID t = .ok k) :
    (t.get (trimSpace activeID)).isSome := by
  obtain ⟨hid, htable⟩ := ofTable_ok h
  rw [← hid, ← htable]
  exact k.active

theorem ofTable_self (k : Keyring) : ofTable k.activeID k.table = .ok k := by
  obtain ⟨k', hk'⟩ : ∃ k', ofTable k.activeID k.table = .ok k' := by
    apply ofTable_of_active
    rw [k.activeID_clean.trimmed]
    exact k.active
  obtain ⟨hid, htable⟩ := ofTable_ok hk'
  rw [k.activeID_clean.trimmed] at hid
  rw [hk']
  cases k'
  cases hid
  cases htable
  rfl

theorem withTable_ok (k : Keyring) (extra : KeyTable) :
    ∃ k', k.withTable extra = .ok k' ∧ k'.table = k.table.overlay extra := by
  obtain ⟨k', hk'⟩ : ∃ k', ofTable k.activeID (k.table.overlay extra) = .ok k' := by
    apply ofTable_of_active
    rw [k.activeID_clean.trimmed]
    exact KeyTable.isSome_overlay (.inl k.active)
  exact ⟨k', hk', (ofTable_ok hk').2⟩

theorem withAdditionalKeys_ok (h : k.withAdditionalKeys extra = .ok k') :
    k'.table = extra.foldl KeyTable.insertTrimmed k.table :=
  (ofTable_ok h).2

theorem newKeyring_ok (h : newKeyring activeID extra = .ok k) :
    collectKeys extra .empty = .ok k.table := by
  unfold newKeyring at h
  split at h
  · cases h
  · split at h
    · cases h
    · obtain ⟨table, htable, h⟩ := bind_eq_ok_iff.1 h
      rw [(ofTable_ok h).2, htable]

/-- A keyring with a secret reads what is sealed with it. -/
theorem decryptString_sealEnvelope {C : Cipher} {keyID plaintext : String} {salt nonce : List UInt8}
    (h : k.table.get keyID = some secret) (hsalt : salt.length = 16) (hnonce : nonce.length = 12) :
    k.decryptString (sealEnvelope C keyID secret plaintext salt nonce) = .ok plaintext := by
  have hid := (k.table.clean _ _ h).1.nonempty
  have hsalt' : salt ≠ [] := by
    rintro rfl
    cases hsalt
  have hnonce' : nonce ≠ [] := by
    rintro rfl
    cases hnonce
  have hmeta : validateEnvelopeMetadata (sealEnvelope C keyID secret plaintext salt nonce) = .ok () := by
    simp [validateEnvelopeMetadata, sealEnvelope, hid, hsalt', hnonce']
  have hkey : (sealEnvelope C keyID secret plaintext salt nonce).keyID = keyID := rfl
  simp only [decryptString, hmeta, bind, Except.bind, hkey, h]
  simp [sealEnvelope, hnonce, C.open_seal]

end Keyring

/-! ### Where the keys come from -/

/-- The keys of a keyring, if there is one. -/
def keysOf (loaded : Option Keyring) : KeyTable :=
  loaded.elim .empty Keyring.table

/-- With a data directory, a start finds no usable environment, or it loads the keys of the
environment, if any, with those of the file over them. -/
inductive KeySource (env : KeyringEnv) : Prop
  | broken (h : ∀ file r, loadKeyring env file ≠ .ok r)
  | working (base : Option Keyring) (of_none : loadKeyring env none = .ok base)
      (of_state : ∀ state k, Keyring.ofTable state.activeKeyID state.keys = .ok k →
        ∃ k', loadKeyring env (some state) = .ok (some k') ∧
          k'.table.get = ((keysOf base).overlay state.keys).get)

theorem readPersistedKeyringState_some {k : Keyring}
    (h : Keyring.ofTable state.activeKeyID state.keys = .ok k) :
    readPersistedKeyringState (some state) = .ok (some state) := by
  simp [readPersistedKeyringState, h]

theorem keySource {env : KeyringEnv} (hdir : trimSpace env.dataDir ≠ "") : KeySource env := by
  cases henv : env.hasEncryptionKeyEnv with
  | error e =>
    apply KeySource.broken
    intro file r h
    simp only [loadKeyring, henv, bind, Except.bind] at h
    cases h
  | ok hasEnv =>
    cases hasEnv with
    | true =>
      cases hkeys : loadKeyringFromEnv env with
      | error e =>
        apply KeySource.broken
        intro file r h
        simp only [loadKeyring, henv, hkeys, bind, Except.bind, if_true] at h
        cases h
      | ok base =>
        refine .working (some base) ?_ ?_
        · simp only [loadKeyring, henv, hkeys, bind, Except.bind, if_neg hdir,
            readPersistedKeyringState]
          rfl
        · intro state k hk
          obtain ⟨k', hk', htable⟩ := base.withTable_ok state.keys
          refine ⟨k', ?_, congrArg KeyTable.get htable⟩
          simp [loadKeyring, henv, hkeys, bind, Except.bind, if_neg hdir,
            readPersistedKeyringState_some hk, hk', Except.map]
    | false =>
      refine .working none ?_ ?_
      · simp only [loadKeyring, henv, bind, Except.bind, if_neg hdir,
          readPersistedKeyringState]
        rfl
      · intro state k hk
        refine ⟨k, ?_, ?_⟩
        · simp [loadKeyring, henv, bind, Except.bind, if_neg hdir,
            readPersistedKeyringState_some hk, hk, Except.map]
        · rw [(Keyring.ofTable_ok hk).2]
          funext id
          show _ = (state.keys.get id).orElse fun _ => none
          cases state.keys.get id <;> rfl

/-! ### Saving keys -/

section Save

variable {env : KeyringEnv} {current : Option Keyring} {file file' : Option PersistedKeyringState}
  {firstID : String} {extra again : List (String × String)} {fresh : FreshKey} {writes : Bool}
  {k k' : Keyring} {u : String → Option String}

theorem writePersistedKeyringState_ok {written : PersistedKeyringState}
    (h : writePersistedKeyringState state writes = .ok written) : written = state := by
  unfold writePersistedKeyringState at h
  split at h
  · cases h
    rfl
  · cases h

theorem saveAdditionalEncryptionKeys_ok (hne : extra ≠ []) (hdir : trimSpace env.dataDir ≠ "")
    (h : saveAdditionalEncryptionKeys env current file firstID extra again fresh writes =
      .ok (k', file')) :
    ∃ state, updatedKeyring current firstID extra = .ok k' ∧
      readPersistedKeyringState file = .ok state ∧ file' = some (mergedState k' again state) := by
  unfold saveAdditionalEncryptionKeys at h
  rw [if_neg hne] at h
  obtain ⟨updated, hupdated, h⟩ := bind_eq_ok_iff.1 h
  rw [if_neg hdir] at h
  obtain ⟨state, hstate, h⟩ := bind_eq_ok_iff.1 h
  obtain ⟨written, hwritten, h⟩ := bind_eq_ok_iff.1 h
  cases h
  exact ⟨state, hupdated, hstate, congrArg some (writePersistedKeyringState_ok hwritten)⟩

theorem updatedKeyring_table (h : updatedKeyring current firstID extra = .ok k') :
    k'.table = extra.foldl KeyTable.insertTrimmed (keysOf current) := by
  cases current with
  | none => exact (KeyTable.collectKeys_ok (Keyring.newKeyring_ok h)).2
  | some k => exact Keyring.withAdditionalKeys_ok h

theorem readPersistedKeyringState_ok {state : Option PersistedKeyringState}
    (h : readPersistedKeyringState file = .ok state) : state = file := by
  unfold readPersistedKeyringState at h
  split at h
  · cases h
    rfl
  · split at h
    · cases h
      rfl
    · cases h

theorem exists_ofTable (h : readPersistedKeyringState file = .ok (some state)) :
    ∃ k, Keyring.ofTable state.activeKeyID state.keys = .ok k := by
  obtain rfl := readPersistedKeyringState_ok h
  cases hvalid : Keyring.ofTable state.activeKeyID state.keys with
  | ok k => exact ⟨k, rfl⟩
  | error e =>
    simp only [readPersistedKeyringState, hvalid] at h
    cases h

theorem mergedState_valid {state : Option PersistedKeyringState} (updated : Keyring)
    (again : List (String × String)) (hstate : readPersistedKeyringState file = .ok state) :
    ∃ k, Keyring.ofTable (mergedState updated again state).activeKeyID
      (mergedState updated again state).keys = .ok k := by
  cases state with
  | none => exact ⟨updated, updated.ofTable_self⟩
  | some state =>
    obtain ⟨k, hk⟩ := exists_ofTable hstate
    have hactive := Keyring.isSome_of_ofTable hk
    have hne : state.activeKeyID ≠ "" := by
      intro hempty
      have hclean := k.activeID_clean
      rw [(Keyring.ofTable_ok hk).1, hempty] at hclean
      exact hclean.nonempty rfl
    apply Keyring.ofTable_of_active
    simp only [mergedState, if_neg hne]
    exact KeyTable.isSome_foldl hactive

/-- Keys that do not contradict what a start would load: the next start loads all of it, with the keys
and with those of the keyring that is returned. -/
theorem save_grows (hdir : trimSpace env.dataDir ≠ "")
    (hload : ∀ loaded, loadKeyring env file = .ok loaded →
      (keysOf current).Within (keysOf loaded).get ∧ (keysOf loaded).Agrees extra = true)
    (hne : extra ≠ []) (hperm : again.Perm extra) (hconsistent : KeyTable.consistent extra = true)
    (h : saveAdditionalEncryptionKeys env current file firstID extra again fresh writes =
      .ok (k', file')) :
    (∀ file r, loadKeyring env file ≠ .ok r) ∨
      ∃ loaded next, loadKeyring env file = .ok loaded ∧ loadKeyring env file' = .ok (some next) ∧
        (keysOf loaded).Within next.table.get ∧ k'.table.Within next.table.get ∧
        KeyTable.EntriesWithin extra next.table.get := by
  obtain ⟨state, hupdated, hstate, rfl⟩ := saveAdditionalEncryptionKeys_ok hne hdir h
  obtain hbroken | ⟨base, of_none, of_state⟩ := keySource hdir
  · exact .inl hbroken
  right
  obtain ⟨valid, hvalid⟩ := mergedState_valid k' again hstate
  obtain ⟨next, hnext, hnextTable⟩ := of_state _ _ hvalid
  -- the keys of the file before
  obtain ⟨loaded, keys, hloaded, hkeys, hfile⟩ : ∃ (loaded : Option Keyring) (keys : KeyTable),
      loadKeyring env file = .ok loaded ∧ (keysOf loaded).get = ((keysOf base).overlay keys).get ∧
      keys = state.elim .empty PersistedKeyringState.keys := by
    obtain rfl := readPersistedKeyringState_ok hstate
    cases state with
    | none => exact ⟨base, .empty, of_none, rfl, rfl⟩
    | some state =>
      obtain ⟨v, hv⟩ := exists_ofTable hstate
      obtain ⟨k, hk, htable⟩ := of_state state v hv
      exact ⟨some k, state.keys, hk, htable, rfl⟩
  obtain ⟨hcurrent, hagrees⟩ := hload loaded hloaded
  -- what is known of the keys: those of the file, those of the keyring and the new ones fit together
  obtain ⟨u, hu, hextra⟩ : ∃ u, (keysOf loaded).Within u ∧ KeyTable.EntriesWithin extra u :=
    ⟨_, (keysOf loaded).within_withEntries extra,
      KeyTable.entriesWithin_withEntries hagrees hconsistent⟩
  have htable := updatedKeyring_table hupdated
  -- and those that are written over them
  obtain ⟨hdom, hwithin, hentries⟩ :
      (∀ id, (keys.get id).isSome → ((mergedState k' again state).keys.get id).isSome) ∧
      (mergedState k' again state).keys.Within u ∧
      KeyTable.EntriesWithin extra (mergedState k' again state).keys.get := by
    subst hfile
    cases state with
    | none =>
      have hcurrent' := hcurrent.trans hu
      simp only [mergedState, htable]
      exact ⟨by nofun, hcurrent'.foldl hextra,
        KeyTable.entriesWithin_foldl hcurrent' hextra (.refl _)⟩
    | some state =>
      have hkeys' : state.keys.Within u := by
        intro id secret hget
        apply hu id secret
        rw [hkeys]
        exact KeyTable.within_overlay _ state.keys id secret hget
      exact ⟨fun id => KeyTable.isSome_foldl, hkeys'.foldl (hextra.perm hperm),
        KeyTable.entriesWithin_foldl hkeys' hextra hperm⟩
  have hgrows : (keysOf loaded).Within next.table.get := by
    have hold : ((keysOf base).overlay keys).Within u := by
      intro id secret hget
      rw [← hkeys] at hget
      exact hu id secret hget
    intro id secret hget
    rw [hkeys] at hget
    rw [hnextTable]
    exact KeyTable.overlay_grows hold hwithin hdom id secret hget
  have hall : KeyTable.EntriesWithin extra next.table.get := by
    intro id secret hmem
    rw [hnextTable]
    exact KeyTable.within_overlay _ _ id secret (hentries id secret hmem)
  have hk' : k'.table.Within next.table.get := by
    rw [htable]
    exact (hcurrent.trans hgrows).foldl hall
  exact ⟨loaded, next, hloaded, hnext, hgrows, hk', hall⟩

end Save

/-! ### Runs -/

section Load

variable {env : KeyringEnv} {file file' : Option PersistedKeyringState} {fresh : FreshKey}
  {writes : Bool} {k : Keyring}

theorem loadKeyring_none (h : loadKeyring env file = .ok none) :
    env.hasEncryptionKeyEnv = .ok false ∧ trimSpace env.dataDir ≠ "" ∧ file = none := by
  obtain ⟨hasEnv, henv, h⟩ := bind_eq_ok_iff.1 h
  cases hasEnv with
  | true =>
    obtain ⟨base, hbase, h⟩ := bind_eq_ok_iff.1 h
    split at h
    · cases h
    · split at h
      · obtain ⟨_, _, hsome⟩ := map_eq_ok_iff.1 h
        cases hsome
      · cases h
  | false =>
    rw [if_neg Bool.false_ne_true] at h
    split at h
    · obtain ⟨_, _, hsome⟩ := map_eq_ok_iff.1 h
      cases hsome
    obtain ⟨state, hstate, h⟩ := bind_eq_ok_iff.1 h
    cases state with
    | none => exact ⟨henv, by assumption, (readPersistedKeyringState_ok hstate).symm⟩
    | some state =>
      obtain ⟨_, _, hsome⟩ := map_eq_ok_iff.1 h
      cases hsome

theorem loadOrGenerateKeyring_ok (h : loadOrGenerateKeyring env file fresh writes = .ok (k, file')) :
    loadKeyring env file' = .ok (some k) ∧ (file' = file ∨ loadKeyring env file = .ok none) := by
  obtain ⟨loaded, hload, h⟩ := bind_eq_ok_iff.1 h
  cases loaded with
  | some loaded =>
    cases h
    exact ⟨hload, .inl rfl⟩
  | none =>
    obtain ⟨state, hstate, h⟩ := bind_eq_ok_iff.1 h
    obtain ⟨generated, hgenerated, h⟩ := bind_eq_ok_iff.1 h
    cases h
    obtain ⟨henv, hdir, rfl⟩ := loadKeyring_none hload
    refine ⟨?_, .inr hload⟩
    simp [loadKeyring, henv, bind, Except.bind, if_neg hdir,
      readPersistedKeyringState_some hgenerated, hgenerated, Except.map]

end Load

namespace KeyringSystem

open Keyring

variable {C : Cipher} {env : KeyringEnv} {s : KeyringSystem C} {k : Keyring} {t t' : KeyTable}

/-- What a table has to have: every key that is in use, that a value was encrypted with or that was
saved. -/
structure Holds (s : KeyringSystem C) (t : KeyTable) : Prop where
  inUse : ∀ user used, s.keyring user = some used → used.table.Within t.get
  values : ∀ e plaintext, (e, plaintext) ∈ s.values → ∃ secret salt nonce,
    t.get e.keyID = some secret ∧ salt.length = 16 ∧ nonce.length = 12 ∧
      e = sealEnvelope C e.keyID secret plaintext salt nonce
  saved : ∀ id secret, (id, secret) ∈ s.saved → t.get id = some secret

theorem Holds.mono (h : s.Holds t) (ht : t.Within t'.get) : s.Holds t' where
  inUse := fun user used hused => (h.inUse user used hused).trans ht
  values := by
    intro e plaintext hmem
    obtain ⟨secret, salt, nonce, hget, hrest⟩ := h.values e plaintext hmem
    exact ⟨secret, salt, nonce, ht _ _ hget, hrest⟩
  saved := fun id secret hmem => ht _ _ (h.saved id secret hmem)

/-- What the next start would load holds everything; where it would generate a key, there is nothing
to hold. After a start there is always something to load. -/
structure Readable (env : KeyringEnv) (s : KeyringSystem C) : Prop where
  loads : ∀ loaded, loadKeyring env s.file = .ok loaded → s.Holds (keysOf loaded)
  of_started : s.started = true → ∃ k, loadKeyring env s.file = .ok (some k)

/-- The entries agree with each other and with the keys that a start would load, and there is a file
to save them to. -/
def Op.agrees (env : KeyringEnv) (s : KeyringSystem C) : Op → Bool
  | .save _ _ extra _ _ _ =>
    extra = [] || (trimSpace env.dataDir ≠ "" && KeyTable.consistent extra &&
      match loadKeyring env s.file with
      | .ok (some k) => k.table.Agrees extra
      | _ => true)
  | _ => true

/-- A start, which loads `k` or generates it. -/
theorem Readable.loadOrGenerate {fresh : FreshKey} {writes : Bool} (h : s.Readable env)
    (hload : loadOrGenerateKeyring env s.file fresh writes = .ok (k, file)) :
    loadKeyring env file = .ok (some k) ∧ s.Holds k.table := by
  obtain ⟨hload, rfl | hnone⟩ := loadOrGenerateKeyring_ok hload
  · exact ⟨hload, h.loads _ hload⟩
  · exact ⟨hload, (h.loads _ hnone).mono (by nofun)⟩

theorem Readable.of_load (hload : loadKeyring env s.file = .ok (some k)) (h : s.Holds k.table) :
    s.Readable env where
  loads := by
    intro loaded hloaded
    rw [hload] at hloaded
    cases hloaded
    exact h
  of_started := fun _ => ⟨k, hload⟩

theorem readable_load (h : s.Readable env) (fresh : FreshKey) (writes : Bool) :
    (s.step env (.load fresh writes)).Readable env := by
  simp only [step]
  cases hload : loadOrGenerateKeyring env s.file fresh writes with
  | error e =>
    -- no process runs
    refine ⟨?_, h.of_started⟩
    intro loaded hloaded
    have hholds := h.loads loaded hloaded
    refine ⟨?_, hholds.values, hholds.saved⟩
    intro user used hused
    cases user <;> cases hused
  | ok r =>
    obtain ⟨k, file⟩ := r
    obtain ⟨hfile, hholds⟩ := h.loadOrGenerate hload
    refine Readable.of_load (k := k) hfile ⟨?_, hholds.values, hholds.saved⟩
    intro user used hused
    obtain rfl : k = used := by
      cases user <;> exact Option.some.inj hused
    exact KeyTable.within_refl k.table

theorem readable_encrypt (h : s.Readable env) (user : KeyringUser) (plaintext : String)
    (salt nonce : List UInt8) (hsalt : salt.length = 16) (hnonce : nonce.length = 12) :
    (s.step env (.encrypt user plaintext salt nonce)).Readable env := by
  simp only [step]
  cases hused : s.keyring user with
  | none => exact h
  | some used =>
    refine ⟨?_, h.of_started⟩
    intro loaded hloaded
    have hholds := h.loads loaded hloaded
    refine ⟨hholds.inUse, ?_, hholds.saved⟩
    intro e p hmem
    obtain hmem | hmem := mem_append.1 hmem
    · exact hholds.values e p hmem
    · -- the active key of the keyring in use is one of those to be loaded
      cases mem_singleton.1 hmem
      have hactive := hholds.inUse user used hused _ _ (some_get used.active).symm
      exact ⟨_, salt, nonce, hactive, hsalt, hnonce, rfl⟩

theorem loadKeyring_acknowledged (env : KeyringEnv) (state : PersistedKeyringState) :
    loadKeyring env (some { state with acknowledged := true }) = loadKeyring env (some state) := by
  cases hvalid : ofTable state.activeKeyID state.keys with
  | ok k =>
    simp only [loadKeyring, readPersistedKeyringState, hvalid]
    rfl
  | error e => simp [loadKeyring, readPersistedKeyringState, hvalid]

theorem loadKeyring_acknowledge {file' : Option PersistedKeyringState} {writes : Bool}
    (h : acknowledgeEncryptionKey env file writes = .ok file') :
    loadKeyring env file' = loadKeyring env file := by
  unfold acknowledgeEncryptionKey at h
  split at h
  · cases h
    rfl
  obtain ⟨state, hstate, h⟩ := bind_eq_ok_iff.1 h
  obtain rfl := readPersistedKeyringState_ok hstate
  cases state with
  | none =>
    cases h
    rfl
  | some state =>
    simp only at h
    split at h
    · cases h
      rfl
    · obtain ⟨written, hwritten, rfl⟩ := map_eq_ok_iff.1 h
      rw [writePersistedKeyringState_ok hwritten]
      exact loadKeyring_acknowledged env state

theorem readable_acknowledge (h : s.Readable env) (writes : Bool) :
    (s.step env (.acknowledge writes)).Readable env := by
  simp only [step]
  cases hack : acknowledgeEncryptionKey env s.file writes with
  | error e => exact h
  | ok file =>
    have hload := loadKeyring_acknowledge hack
    refine ⟨?_, ?_⟩
    · intro loaded hloaded
      rw [hload] at hloaded
      have hholds := h.loads loaded hloaded
      exact { hholds with }
    · intro hstarted
      rw [hload]
      exact h.of_started hstarted

theorem Holds.save {used : Keyring} {extra : List (String × String)} (h : s.Holds t)
    (hused : used.table.Within t.get) (hextra : KeyTable.EntriesWithin extra t.get) :
    Holds { s with file, backups := some used, saved := s.saved ++ keptEntries extra } t where
  inUse := by
    intro user u hu
    cases user with
    | services => exact h.inUse .services u hu
    | backups =>
      cases hu
      exact hused
  values := h.values
  saved := by
    intro id secret hmem
    obtain hmem | hmem := mem_append.1 hmem
    · exact h.saved id secret hmem
    · exact hextra id secret hmem

section SaveStep

variable {current : Option Keyring} {file : Option PersistedKeyringState} {firstID : String}
  {extra again : List (String × String)} {fresh : FreshKey} {writes : Bool}

section

variable (h : s.Readable env) (hcurrent : ∀ c, current = some c → s.backups = some c)
include h hcurrent

theorem readable_save_nil
    (hsave : saveAdditionalEncryptionKeys env current s.file firstID [] again fresh writes =
      .ok (k, file)) :
    Readable env { s with file, backups := some k, saved := s.saved ++ keptEntries [] } := by
  have hextra : ∀ u, KeyTable.EntriesWithin [] u := by nofun
  cases current with
  | some c =>
    cases hsave
    have hsame : { s with backups := some k, saved := s.saved ++ keptEntries [] } = s := by
      rw [← hcurrent k rfl, show keptEntries [] = [] from rfl, append_nil]
    rw [hsame]
    exact h
  | none =>
    obtain ⟨hfile, hholds⟩ := h.loadOrGenerate hsave
    exact .of_load (k := k) hfile (hholds.save (KeyTable.within_refl _) (hextra _))

theorem readable_save_cons (hne : extra ≠ [])
    (hperm : again.Perm extra) (hdir : trimSpace env.dataDir ≠ "")
    (hconsistent : KeyTable.consistent extra = true)
    (hagrees : ∀ loaded, loadKeyring env s.file = .ok loaded → (keysOf loaded).Agrees extra = true)
    (hsave : saveAdditionalEncryptionKeys env current s.file firstID extra again fresh writes =
      .ok (k, file)) :
    Readable env { s with file, backups := some k, saved := s.saved ++ keptEntries extra } := by
  have hload : ∀ loaded, loadKeyring env s.file = .ok loaded →
      (keysOf current).Within (keysOf loaded).get ∧ (keysOf loaded).Agrees extra = true := by
    intro loaded hloaded
    refine ⟨?_, hagrees loaded hloaded⟩
    cases current with
    | none => nofun
    | some c => exact (h.loads loaded hloaded).inUse .backups c (hcurrent c rfl)
  obtain hbroken | ⟨loaded, next, hloaded, hnext, hgrows, hk, hentries⟩ :=
    save_grows hdir hload hne hperm hconsistent hsave
  · -- the environment is such that no process starts
    refine ⟨fun _ hloaded => absurd hloaded (hbroken _ _), ?_⟩
    intro hstarted
    obtain ⟨k, hk⟩ := h.of_started hstarted
    exact absurd hk (hbroken _ _)
  · exact .of_load (k := next) hnext (((h.loads loaded hloaded).mono hgrows).save hk hentries)

end

end SaveStep

theorem Readable.step {op : Op} (h : s.Readable env) (hvalid : op.valid = true)
    (hagrees : op.agrees env s = true) : (s.step env op).Readable env := by
  cases op with
  | load fresh writes => exact readable_load h fresh writes
  | encrypt user plaintext salt nonce =>
    simp only [Op.valid, Bool.and_eq_true, decide_eq_true_eq] at hvalid
    exact readable_encrypt h user plaintext salt nonce hvalid.1 hvalid.2
  | acknowledge writes => exact readable_acknowledge h writes
  | save withCurrent firstID extra again fresh writes =>
    have hcurrent : ∀ c, (if withCurrent then s.backups else none) = some c →
        s.backups = some c := by
      intro c hc
      split at hc
      · exact hc
      · cases hc
    simp only [KeyringSystem.step]
    cases hsave : saveAdditionalEncryptionKeys env (if withCurrent then s.backups else none) s.file
        firstID extra again fresh writes with
    | error e => exact h
    | ok r =>
      simp only [Op.valid, Bool.and_eq_true, isPerm_iff] at hvalid
      simp only [Op.agrees, Bool.or_eq_true, Bool.and_eq_true, decide_eq_true_eq] at hagrees
      by_cases hne : extra = []
      · subst hne
        exact readable_save_nil h hcurrent hsave
      obtain ⟨⟨hdir, hconsistent⟩, hload⟩ := hagrees.resolve_left hne
      apply readable_save_cons h hcurrent hne hvalid.1.2 hdir hconsistent ?_ hsave
      intro loaded hloaded
      rw [hloaded] at hload
      cases loaded with
      | none => exact List.all_eq_true.2 fun _ _ => rfl
      | some k => exact hload

/-- The runs in which keys are saved only when they agree with those that a start would load. -/
abbrev AgreeingRun (env : KeyringEnv) (s₀ s : KeyringSystem C) (ops : List Op) : Prop :=
  Run (· = s₀) (ActStep (step env) fun s op => op.valid = true ∧ op.agrees env s = true) s ops

/-- Whatever the environment and the keyring file at first: the keyring of a start decrypts every
value that was encrypted before it, and every value of a backup whose key was saved. Once a process
has started, every later one does. -/
theorem values_stay_readable {file : Option PersistedKeyringState} {ops : List Op}
    (hrun : AgreeingRun env { file := file } s ops) :
    (∀ fresh writes k file', loadOrGenerateKeyring env s.file fresh writes = .ok (k, file') →
      (∀ e plaintext, (e, plaintext) ∈ s.values → k.decryptString e = .ok plaintext) ∧
      ∀ id secret, (id, secret) ∈ s.saved → ∀ plaintext salt nonce,
        salt.length = 16 → nonce.length = 12 →
          k.decryptString (sealEnvelope C id secret plaintext salt nonce) = .ok plaintext) ∧
    (s.started = true → ∃ k, ∀ fresh writes,
      loadOrGenerateKeyring env s.file fresh writes = .ok (k, s.file)) := by
  have hreadable : s.Readable env := by
    apply hrun.act_invariant
    · refine ⟨?_, by nofun⟩
      intro loaded _
      refine ⟨?_, by nofun, by nofun⟩
      intro user used hused
      cases user <;> cases hused
    · intro s op h hop
      exact h.step hop.1 hop.2
  refine ⟨?_, ?_⟩
  · intro fresh writes k file' hload
    have hholds := (hreadable.loadOrGenerate hload).2
    refine ⟨?_, ?_⟩
    · intro e plaintext hmem
      obtain ⟨secret, salt, nonce, hget, hsalt, hnonce, he⟩ := hholds.values e plaintext hmem
      rw [he]
      exact decryptString_sealEnvelope hget hsalt hnonce
    · intro id secret hmem plaintext salt nonce hsalt hnonce
      exact decryptString_sealEnvelope (hholds.saved id secret hmem) hsalt hnonce
  · intro hstarted
    obtain ⟨k, hk⟩ := hreadable.of_started hstarted
    refine ⟨k, ?_⟩
    intro fresh writes
    simp only [loadOrGenerateKeyring, hk]
    rfl

/-- The ideal cipher: a text opens only under the key, nonce and fields it was sealed with. -/
def idealCipher : Cipher where
  Key := String × List UInt8 × KDFParams
  Text := (String × List UInt8 × KDFParams) × List UInt8 × String × EnvelopeAAD
  deriveKey secret salt kdf := (secret, salt, kdf)
  sealText key nonce plaintext aad := (key, nonce, plaintext, aad)
  openText key nonce text aad :=
    if text.1 = key ∧ text.2.1 = nonce ∧ text.2.2.2 = aad then some text.2.2.1 else none
  open_seal := by
    intro key nonce plaintext aad
    simp

/-- No variables are set. -/
def unsetEnv : KeyringEnv where
  read _ := some ""
  dataDir := "/data"

/-- A generated key. -/
def firstKey : FreshKey where
  keyID := "key-1"
  secret := "secret-1"
  keyID_clean := ⟨by decide +kernel, by decide⟩
  secret_clean := ⟨by decide +kernel, by decide⟩

/-- A process starts, generates its key and encrypts a password, and a backup that needs a key is
staged. -/
def stagedWith (id secret : String) : List Op :=
  [.load firstKey true, .encrypt .services "password" (List.replicate 16 0) (List.replicate 12 0),
    .save true id [(id, secret)] [(id, secret)] firstKey true]

/-- The state after it. -/
def afterStaging (id secret : String) : KeyringSystem idealCipher :=
  (stagedWith id secret).foldl (step unsetEnv) {}

/-- The value that was encrypted. -/
def storedPassword : Envelope idealCipher :=
  sealEnvelope idealCipher "key-1" "secret-1" "password" (List.replicate 16 0)
    (List.replicate 12 0)

theorem values_stay_readable_otherKey :
    ∃ k file, loadOrGenerateKeyring unsetEnv (afterStaging "key-2" "secret-2").file firstKey true =
      .ok (k, file) ∧ k.decryptString storedPassword = .ok "password" :=
  have hrun : AgreeingRun unsetEnv {} (afterStaging "key-2" "secret-2") _ :=
    .of_ops (by decide +kernel)
  have hreadable := values_stay_readable hrun
  have hstarted : (afterStaging "key-2" "secret-2").started = true := by decide +kernel
  have hmem : (storedPassword, "password") ∈ (afterStaging "key-2" "secret-2").values :=
    mem_singleton.2 rfl
  match hreadable.2 hstarted with
  | ⟨k, hload⟩ =>
    ⟨k, _, hload firstKey true, (hreadable.1 firstKey true k _ (hload firstKey true)).1 _ _ hmem⟩

/-- The backup has another key under the identifier of the generated one: the next start loads that
one, and cannot decrypt the password. -/
theorem value_lost :
    ∃ (s : KeyringSystem idealCipher) (ops : List Op),
      Run (· = {}) (ActStep (step unsetEnv) fun _ op => op.valid = true) s ops ∧
        (storedPassword, "password") ∈ s.values ∧
        ∃ k, loadOrGenerateKeyring unsetEnv s.file firstKey true = .ok (k, s.file) ∧
          k.decryptString storedPassword = .error (.openFailed "key-1") := by
  have hrun : Run (· = {}) (ActStep (step unsetEnv) fun _ op => op.valid = true)
      (afterStaging "key-1" "other") (stagedWith "key-1" "other") := .of_ops (by decide +kernel)
  exact ⟨_, _, hrun, mem_singleton.2 rfl, _, rfl, by decide +kernel⟩

end KeyringSystem

end Theia
