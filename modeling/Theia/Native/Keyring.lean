import Theia.ForStd.Except
import Theia.ForStd.FMap
import Theia.ForStd.Run
import Theia.Native.Basic

/-!
# The encryption keyring

`internal/crypto/keyring.go` and `keyring_store.go`: keys by identifier, from the environment or from
a file in the data directory, and the envelopes they seal.

A keyring and the keyring file have trimmed identifiers and secrets that are not empty (`KeyTable`).
For such a map the order of Go's iteration does not matter; a map that a caller passes is the list of
its entries in the order of an iteration. AES-GCM and Argon2id are a `Cipher` that opens what it has
sealed. An envelope is kept as a record, not as its JSON text, and the ciphertext of GCM is never
empty.
-/

namespace Theia

/-! ### Trimmed texts -/

theorem trimSpace_trimSpace (s : String) : trimSpace (trimSpace s) = trimSpace s := by
  rw [trimSpace, trimSpace, String.toList_ofList, trimList_trimList]

/-- A text that is not empty and that trimming leaves as it is. -/
structure Clean (s : String) : Prop where
  trimmed : trimSpace s = s
  nonempty : s ≠ ""

theorem Clean.of_trimSpace {s : String} (h : trimSpace s ≠ "") : Clean (trimSpace s) :=
  ⟨trimSpace_trimSpace s, h⟩

/-! ### Keyrings -/

inductive KeyringError
  | activeIDRequired | noKeys | emptyKeyID
  | emptySecret (id : String)
  | activeNotConfigured (id : String)
  | keyIDVariableRequired | keysVariableRequired | malformedEntry
  | duplicateKeyID (id : String)
  | variablesRequired | unreadableVariable | invalidFile | write
  | metadata (reason : String)
  | keyNotConfigured (id : String)
  | nonceSize
  | openFailed (id : String)
  deriving DecidableEq, Repr

/-- Secrets by identifier, as a keyring or the keyring file has them. -/
structure KeyTable where
  keys : FMap String String := ∅
  clean : ∀ id secret, keys.get id = some secret → Clean id ∧ Clean secret

namespace KeyTable

def get (table : KeyTable) (id : String) : Option String := table.keys.get id

def empty : KeyTable where
  clean := by
    intro id secret h
    cases h

/-- Sets the secret of an identifier. -/
def insert (table : KeyTable) (id secret : String) (hid : Clean id) (hsecret : Clean secret) :
    KeyTable where
  keys := table.keys.insert id secret
  clean := FMap.forall_get_insert ⟨hid, hsecret⟩ fun id' secret' _ => table.clean id' secret'

/-- Sets an entry that a caller passes, unless one of its texts is blank. -/
def insertTrimmed (table : KeyTable) (entry : String × String) : KeyTable :=
  if h : trimSpace entry.1 ≠ "" ∧ trimSpace entry.2 ≠ "" then
    table.insert (trimSpace entry.1) (trimSpace entry.2) (.of_trimSpace h.1) (.of_trimSpace h.2)
  else table

/-- Sets all entries of another table. -/
def overlay (table extra : KeyTable) : KeyTable where
  keys := table.keys.overlay extra.keys
  clean := by
    intro id secret h
    obtain h | h := FMap.get_overlay_eq_some h
    · exact extra.clean id secret h
    · exact table.clean id secret h

end KeyTable

/-- `Keyring`: the active key is one of the keys. -/
structure Keyring where
  activeID : String
  table : KeyTable
  active : (table.get activeID).isSome = true

/-- The loop of `NewKeyring`. -/
def collectKeys : List (String × String) → KeyTable → Except KeyringError KeyTable
  | [], table => .ok table
  | (id, secret) :: rest, table =>
    if hid : trimSpace id = "" then .error .emptyKeyID
    else if hsecret : trimSpace secret = "" then .error (.emptySecret (trimSpace id))
    else
      collectKeys rest (table.insert (trimSpace id) (trimSpace secret) (.of_trimSpace hid)
        (.of_trimSpace hsecret))

/-- `NewKeyring` of a map whose entries are trimmed. -/
def Keyring.ofTable (activeID : String) (table : KeyTable) : Except KeyringError Keyring :=
  if trimSpace activeID = "" then .error .activeIDRequired
  else if table.keys.isEmpty then .error .noKeys
  else if h : (table.get (trimSpace activeID)).isSome then .ok ⟨trimSpace activeID, table, h⟩
  else .error (.activeNotConfigured (trimSpace activeID))

def newKeyring (activeID : String) (secrets : List (String × String)) :
    Except KeyringError Keyring :=
  if trimSpace activeID = "" then .error .activeIDRequired
  else if secrets = [] then .error .noKeys
  else do
    let table ← collectKeys secrets .empty
    Keyring.ofTable activeID table

namespace Keyring

def withAdditionalKeys (k : Keyring) (extra : List (String × String)) :
    Except KeyringError Keyring :=
  ofTable k.activeID (extra.foldl KeyTable.insertTrimmed k.table)

/-- `WithAdditionalKeys` of a map whose entries are trimmed. -/
def withTable (k : Keyring) (extra : KeyTable) : Except KeyringError Keyring :=
  ofTable k.activeID (k.table.overlay extra)

end Keyring

/-! ### Envelopes -/

structure KDFParams where
  name : String := "argon2id"
  time : Nat := 1
  memoryKiB : Nat := 64 * 1024
  parallelism : Nat := 4
  keyLength : Nat := 32
  deriving DecidableEq, Repr

/-- `envelopeAAD`: the fields of an envelope that the ciphertext is bound to. -/
structure EnvelopeAAD where
  version : Nat
  keyID : String
  algorithm : String
  kdf : KDFParams
  salt : List UInt8
  nonce : List UInt8
  deriving DecidableEq, Repr

/-- Argon2id and AES-256-GCM: what is sealed under a key opens under it. -/
structure Cipher where
  Key : Type
  Text : Type
  deriveKey : String → List UInt8 → KDFParams → Key
  sealText : Key → List UInt8 → String → EnvelopeAAD → Text
  openText : Key → List UInt8 → Text → EnvelopeAAD → Option String
  open_seal : ∀ key nonce plaintext aad,
    openText key nonce (sealText key nonce plaintext aad) aad = some plaintext

structure Envelope (C : Cipher) extends EnvelopeAAD where
  ciphertext : C.Text

namespace Keyring

variable (C : Cipher)

/-- The envelope of `EncryptString` for a key, with the random salt and nonce. -/
def sealEnvelope (keyID secret plaintext : String) (salt nonce : List UInt8) : Envelope C :=
  let aad : EnvelopeAAD := { version := 1, keyID, algorithm := "AES-256-GCM", kdf := {}, salt, nonce }
  { aad with ciphertext := C.sealText (C.deriveKey secret salt {}) nonce plaintext aad }

def encryptString (k : Keyring) (plaintext : String) (salt nonce : List UInt8) : Envelope C :=
  sealEnvelope C k.activeID ((k.table.get k.activeID).get k.active) plaintext salt nonce

variable {C}

def validateEnvelopeMetadata (e : Envelope C) : Except KeyringError Unit :=
  if e.version ≠ 1 then .error (.metadata "unsupported encryption envelope version")
  else if e.keyID = "" then .error (.metadata "encryption envelope key_id is required")
  else if e.algorithm ≠ "AES-256-GCM" then .error (.metadata "unsupported encryption algorithm")
  else if e.kdf.name ≠ "argon2id" then .error (.metadata "unsupported encryption kdf")
  else if e.kdf.time = 0 ∨ e.kdf.memoryKiB = 0 ∨ e.kdf.parallelism = 0 ∨ e.kdf.keyLength ≠ 32 then
    .error (.metadata "invalid encryption kdf parameters")
  else if e.salt = [] ∨ e.nonce = [] then
    .error (.metadata "encryption envelope is missing salt, nonce, or ciphertext")
  else .ok ()

/-- `DecryptString` of a decoded envelope. -/
def decryptString (k : Keyring) (e : Envelope C) : Except KeyringError String := do
  validateEnvelopeMetadata e
  match k.table.get e.keyID with
  | none => .error (.keyNotConfigured e.keyID)
  | some secret =>
    if e.nonce.length ≠ 12 then .error .nonceSize
    else
      match C.openText (C.deriveKey secret e.salt e.kdf) e.nonce e.ciphertext e.toEnvelopeAAD with
      | none => .error (.openFailed e.keyID)
      | some plaintext => .ok plaintext

end Keyring

/-! ### The environment -/

/-- `THEIA_ENCRYPTION_KEY_ID`, `THEIA_ENCRYPTION_KEYS` and `THEIA_ENCRYPTION_KEY`. -/
inductive EncryptionVariable
  | keyID | keys | key
  deriving DecidableEq, Repr

/-- What `secretinput.Read` returns for the variables, and the data directory. -/
structure KeyringEnv where
  read : EncryptionVariable → Option String
  dataDir : String

namespace KeyringEnv

/-- A variable, or the error of reading it. -/
def value (env : KeyringEnv) (v : EncryptionVariable) : Except KeyringError String :=
  match env.read v with
  | some value => .ok value
  | none => .error .unreadableVariable

/-- The loop of `HasEncryptionKeyEnv`. -/
def anySet (env : KeyringEnv) : List EncryptionVariable → Except KeyringError Bool
  | [] => .ok false
  | v :: rest => do
    let value ← env.value v
    if trimSpace value ≠ "" then .ok true else env.anySet rest

def hasEncryptionKeyEnv (env : KeyringEnv) : Except KeyringError Bool :=
  env.anySet [.keyID, .keys, .key]

end KeyringEnv

/-- `strings.Split(s, ",")` -/
def splitCommas (s : String) : List String := (s.toList.splitOn ',').map String.ofList

/-- `strings.Cut(s, "=")` -/
def cutEquals (s : String) : Option (String × String) :=
  match s.toList.dropWhile (· ≠ '=') with
  | [] => none
  | _ :: rest => some (String.ofList (s.toList.takeWhile (· ≠ '=')), String.ofList rest)

/-- The loop of `ParseKeyring`. -/
def parsePairs : List String → List (String × String) → Except KeyringError (List (String × String))
  | [], secrets => .ok secrets
  | rawPair :: rest, secrets =>
    match cutEquals (trimSpace rawPair) with
    | none => .error .malformedEntry
    | some (id, secret) =>
      if trimSpace id = "" then .error .emptyKeyID
      else if trimSpace secret = "" then .error (.emptySecret (trimSpace id))
      else if secrets.any fun entry => entry.1 = trimSpace id then
        .error (.duplicateKeyID (trimSpace id))
      else parsePairs rest (secrets ++ [(trimSpace id, trimSpace secret)])

def parseKeyring (activeID keyList : String) : Except KeyringError Keyring :=
  if trimSpace activeID = "" then .error .keyIDVariableRequired
  else if trimSpace keyList = "" then .error .keysVariableRequired
  else do
    let secrets ← parsePairs (splitCommas (trimSpace keyList)) []
    newKeyring (trimSpace activeID) secrets

def legacyKeyID : String := "legacy"

def loadKeyringFromEnv (env : KeyringEnv) : Except KeyringError Keyring := do
  let activeID ← env.value .keyID
  let keyList ← env.value .keys
  let legacy ← env.value .key
  if trimSpace activeID ≠ "" ∨ trimSpace keyList ≠ "" then parseKeyring activeID keyList
  else if trimSpace legacy = "" then .error .variablesRequired
  else newKeyring legacyKeyID [(legacyKeyID, trimSpace legacy)]

/-! ### The keyring file -/

structure PersistedKeyringState where
  activeKeyID : String
  keys : KeyTable
  acknowledged : Bool := false

/-- `readPersistedKeyringState`; `file` is the state in the file, if there is one. -/
def readPersistedKeyringState (file : Option PersistedKeyringState) :
    Except KeyringError (Option PersistedKeyringState) :=
  match file with
  | none => .ok none
  | some state =>
    match Keyring.ofTable state.activeKeyID state.keys with
    | .ok _ => .ok (some state)
    | .error _ => .error .invalidFile

/-- What `generateKeyID` and `generateSecret` return. -/
structure FreshKey where
  keyID : String
  secret : String
  keyID_clean : Clean keyID
  secret_clean : Clean secret

/-- The keyring file with a generated key. -/
def FreshKey.state (fresh : FreshKey) : PersistedKeyringState where
  activeKeyID := fresh.keyID
  keys := KeyTable.empty.insert fresh.keyID fresh.secret fresh.keyID_clean fresh.secret_clean

/-- `LoadOrGenerateKeyring` up to the generation of a key: `none` when one has to be generated. With
keys in the environment, those of a readable file replace the ones of the same identifier. -/
def loadKeyring (env : KeyringEnv) (file : Option PersistedKeyringState) :
    Except KeyringError (Option Keyring) := do
  let hasEnv ← env.hasEncryptionKeyEnv
  if hasEnv then do
    let k ← loadKeyringFromEnv env
    if trimSpace env.dataDir = "" then return some k
    else
      match readPersistedKeyringState file with
      | .ok (some state) => (k.withTable state.keys).map some
      | _ => return some k
  else if trimSpace env.dataDir = "" then (loadKeyringFromEnv env).map some
  else do
    let state ← readPersistedKeyringState file
    match state with
    | some state => (Keyring.ofTable state.activeKeyID state.keys).map some
    | none => return none

/-- `writePersistedKeyringState`, which succeeds or leaves the file as it was. -/
def writePersistedKeyringState (state : PersistedKeyringState) (writes : Bool) :
    Except KeyringError PersistedKeyringState :=
  if writes then .ok state else .error .write

/-- `LoadOrGenerateKeyring`, with the file it leaves. -/
def loadOrGenerateKeyring (env : KeyringEnv) (file : Option PersistedKeyringState)
    (fresh : FreshKey) (writes : Bool) :
    Except KeyringError (Keyring × Option PersistedKeyringState) := do
  match ← loadKeyring env file with
  | some k => return (k, file)
  | none => do
    let state ← writePersistedKeyringState fresh.state writes
    let k ← Keyring.ofTable state.activeKeyID state.keys
    return (k, some state)

/-- `AcknowledgeEncryptionKey`, with the file it leaves. -/
def acknowledgeEncryptionKey (env : KeyringEnv) (file : Option PersistedKeyringState)
    (writes : Bool) : Except KeyringError (Option PersistedKeyringState) :=
  if trimSpace env.dataDir = "" then .ok file
  else do
    match ← readPersistedKeyringState file with
    | none => return file
    | some state =>
      if state.acknowledged then return file
      else (writePersistedKeyringState { state with acknowledged := true } writes).map some

/-- What `SaveAdditionalEncryptionKeys` writes: its own keyring when there is no file, or else the
file with the entries, each of which replaces one of the same identifier. -/
def mergedState (updated : Keyring) (extra : List (String × String)) :
    Option PersistedKeyringState → PersistedKeyringState
  | none => { activeKeyID := updated.activeID, keys := updated.table, acknowledged := true }
  | some state =>
    { state with
      keys := extra.foldl KeyTable.insertTrimmed state.keys
      activeKeyID := if state.activeKeyID = "" then updated.activeID else state.activeKeyID }

/-- The keyring of `SaveAdditionalEncryptionKeys`. -/
def updatedKeyring (current : Option Keyring) (firstID : String) (extra : List (String × String)) :
    Except KeyringError Keyring :=
  match current with
  | some k => k.withAdditionalKeys extra
  | none => newKeyring firstID extra

/-- `SaveAdditionalEncryptionKeys`, with the file it leaves. `firstID` is the first identifier of one
iteration over the map, `extra` and `again` are its entries in the order of two others. -/
def saveAdditionalEncryptionKeys (env : KeyringEnv) (current : Option Keyring)
    (file : Option PersistedKeyringState) (firstID : String) (extra again : List (String × String))
    (fresh : FreshKey) (writes : Bool) :
    Except KeyringError (Keyring × Option PersistedKeyringState) :=
  if extra = [] then
    match current with
    | some k => .ok (k, file)
    | none => loadOrGenerateKeyring env file fresh writes
  else do
    let updated ← updatedKeyring current firstID extra
    if trimSpace env.dataDir = "" then return (updated, file)
    else do
      let state ← readPersistedKeyringState file
      let written ← writePersistedKeyringState (mergedState updated again state) writes
      return (updated, some written)

/-! ### Processes -/

/-- Who encrypts: the services with the keyring of the start, or the backup service with the one that
a staged restore has put in its place. -/
inductive KeyringUser
  | services | backups
  deriving DecidableEq, Repr

/-- The file, the keyrings of the running process, and the history: whether a keyring was ever loaded,
the values with their plaintexts, and the keys that were saved. -/
structure KeyringSystem (C : Cipher) where
  file : Option PersistedKeyringState := none
  loaded : Option Keyring := none
  backups : Option Keyring := none
  started : Bool := false
  values : List (Envelope C × String) := []
  saved : List (String × String) := []

namespace KeyringSystem

/-- `load` is the start of a process, which ends the one before. A call of
`SaveAdditionalEncryptionKeys` passes the keyring of the backup service or none. -/
inductive Op
  | load (fresh : FreshKey) (writes : Bool)
  | encrypt (user : KeyringUser) (plaintext : String) (salt nonce : List UInt8)
  | acknowledge (writes : Bool)
  | save (withCurrent : Bool) (firstID : String) (extra again : List (String × String))
      (fresh : FreshKey) (writes : Bool)

variable {C : Cipher}

def keyring (s : KeyringSystem C) : KeyringUser → Option Keyring
  | .services => s.loaded
  | .backups => s.backups

/-- The entries of a map that are kept. -/
def keptEntries (extra : List (String × String)) : List (String × String) :=
  (extra.map fun entry => (trimSpace entry.1, trimSpace entry.2)).filter fun entry =>
    entry.1 ≠ "" && entry.2 ≠ ""

def step (env : KeyringEnv) (s : KeyringSystem C) : Op → KeyringSystem C
  | .load fresh writes =>
    match loadOrGenerateKeyring env s.file fresh writes with
    | .ok (k, file) => { s with file, loaded := some k, backups := some k, started := true }
    | .error _ => { s with loaded := none, backups := none }
  | .encrypt user plaintext salt nonce =>
    match s.keyring user with
    | some k => { s with values := s.values ++ [(k.encryptString C plaintext salt nonce, plaintext)] }
    | none => s
  | .acknowledge writes =>
    match acknowledgeEncryptionKey env s.file writes with
    | .ok file => { s with file }
    | .error _ => s
  | .save withCurrent firstID extra again fresh writes =>
    match saveAdditionalEncryptionKeys env (if withCurrent then s.backups else none) s.file firstID
      extra again fresh writes with
    | .ok (k, file) =>
      { s with file, backups := some k, saved := s.saved ++ keptEntries extra }
    | .error _ => s

/-- The lengths of salts and nonces, and what an iteration over a map returns. -/
def Op.valid : Op → Bool
  | .encrypt _ _ salt nonce => salt.length = 16 && nonce.length = 12
  | .save _ firstID extra again _ _ =>
    decide (extra.map Prod.fst).Nodup && again.isPerm extra &&
      (extra = [] || extra.any fun entry => entry.1 = firstID)
  | _ => true

end KeyringSystem

end Theia
