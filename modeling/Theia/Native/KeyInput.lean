import Theia.Native.Keyring

/-!
# Keys that an administrator submits

`ParseFlexibleEncryptionKeys` of `internal/crypto/keyring_store.go`. Lines and their parts are lists
of characters.
-/

namespace Theia

inductive KeyInputError
  | empty | malformed | noKeys
  deriving DecidableEq, Repr

/-- `strings.CutPrefix` with the name of a variable and an equals sign. -/
def cutVariable (line : List Char) (name : String) : Option (List Char) :=
  if name.toList ++ ['='] <+: line then some (line.drop (name.toList.length + 1)) else none

/-- The loop over the parts of a line. -/
def parsePart (defaultKeyID : String) (secrets : FMap String String) (part : List Char) :
    Except KeyInputError (FMap String String) :=
  let part := trimList isSpace part
  if part = [] then .ok secrets
  else if '=' ∈ part then
    let id := trimList isSpace (part.takeWhile (· != '='))
    let secret := trimList isSpace (part.dropWhile (· != '=')).tail
    if id = [] ∨ secret = [] then .error .malformed
    else .ok (secrets.insert (.ofList id) (.ofList secret))
  else if defaultKeyID ≠ "" then .ok (secrets.insert defaultKeyID (.ofList part))
  else .error .malformed

/-- The loop over the lines, on the default identifier and the secrets. -/
def parseLine (state : String × FMap String String) (line : List Char) :
    Except KeyInputError (String × FMap String String) :=
  let line := trimList isSpace line
  if line = [] ∨ line.head? = some '#' then .ok state
  else match cutVariable line "THEIA_ENCRYPTION_KEY_ID" with
    | some after =>
      let id := String.ofList (trimList isSpace after)
      .ok (if id ≠ "" ∧ state.1 = "" then id else state.1, state.2)
    | none =>
      let list := match cutVariable line "THEIA_ENCRYPTION_KEYS" with
        | some after => trimList isSpace after
        | none => line
      ((list.splitOn ',').foldlM (parsePart state.1) state.2).map (state.1, ·)

def parseFlexibleEncryptionKeys (input defaultKeyID : String) :
    Except KeyInputError (FMap String String) :=
  let input := trimList isSpace input.toList
  if input = [] then .error .empty
  else do
    let lines := (input.splitOnP fun c => c = '\n' || c = '\r').filter (· ≠ [])
    let (_, secrets) ← lines.foldlM parseLine (trimSpace defaultKeyID, ∅)
    if secrets.isEmpty then .error .noKeys else .ok secrets

end Theia
