import Theia.ForStd.List

/-!
# Values shared by the packages of theia

Identifiers, times and the functions of Go's `strings` and `time` packages that the modelled
code calls.

- `UUID` is `uuid.UUID`, 128 bits; `UUID.toString` is its canonical `String()`.
- `Time` is nanoseconds since Go's zero time (January 1 of year 1, UTC), so `IsZero` is `= 0`;
  `Duration` is nanoseconds.
- Floating-point fields hold finite values and are modelled by exact rationals.
-/

namespace Theia

/-! ### Identifiers -/

/-- `uuid.UUID` -/
abbrev UUID := BitVec 128

-- one name for the proof, which each membership test would otherwise abstract anew
instance : LawfulBEq UUID := inferInstance

/-- `uuid.Nil` -/
def UUID.nil : UUID := 0

/-- The lower-case hexadecimal digit of `n % 16`. -/
def hexDigit (n : Nat) : Char :=
  if n % 16 < 10 then Char.ofNat (48 + n % 16) else Char.ofNat (87 + n % 16)

/-- The `i`-th hexadecimal digit of an identifier, the most significant first. -/
def UUID.digit (id : UUID) (i : Nat) : Char := hexDigit (id.toNat / 16 ^ (31 - i))

/-- `uuid.UUID.String`: 8-4-4-4-12 lower-case hexadecimal digits. -/
def UUID.toString (id : UUID) : String :=
  String.ofList <|
    (List.range 8).map id.digit ++ '-' :: (List.range' 8 4).map id.digit ++
    '-' :: (List.range' 12 4).map id.digit ++ '-' :: (List.range' 16 4).map id.digit ++
    '-' :: (List.range' 20 12).map id.digit

/-- The value of a hexadecimal digit. -/
def hexVal (c : Char) : Option Nat :=
  if '0' ≤ c ∧ c ≤ '9' then some (c.toNat - 48)
  else if 'a' ≤ c ∧ c ≤ 'f' then some (c.toNat - 87)
  else if 'A' ≤ c ∧ c ≤ 'F' then some (c.toNat - 55)
  else none

/-- `uuid.Parse` of the 36-character form, the one that `String` writes. -/
def UUID.parse (s : String) : Option UUID :=
  let l := s.toList
  if l.length = 36 ∧ l[8]? = some '-' ∧ l[13]? = some '-' ∧ l[18]? = some '-' ∧
      l[23]? = some '-' then
    let digits := l.take 8 ++ (l.drop 9).take 4 ++ (l.drop 14).take 4 ++ (l.drop 19).take 4 ++
      l.drop 24
    (digits.mapM hexVal).map fun ds => BitVec.ofNat 128 (ds.foldl (fun n d => 16 * n + d) 0)
  else none

/-- The 16 bytes of an identifier, as `id[:]`. -/
def UUID.bytes (id : UUID) : List Nat :=
  (List.range 16).map fun i => id.toNat / 256 ^ (15 - i) % 256

/-! ### Time -/

/-- `time.Time`, in nanoseconds since the zero time. -/
abbrev Time := Int

/-- `time.Duration`, in nanoseconds. -/
abbrev Duration := Int

/-- `time.Second` -/
def second : Duration := 1000000000

/-- `Time.IsZero` -/
def Time.isZero (t : Time) : Bool := decide (t = 0)

/-! ### Strings -/

/-- `unicode.IsSpace` -/
def isSpace (c : Char) : Bool :=
  let n := c.toNat
  (9 ≤ n && n ≤ 13) || n == 0x20 || n == 0x85 || n == 0xA0 || n == 0x1680 ||
    (0x2000 ≤ n && n ≤ 0x200A) || n == 0x2028 || n == 0x2029 || n == 0x202F || n == 0x205F ||
    n == 0x3000

/-- `strings.TrimSpace` -/
def trimSpace (s : String) : String := String.ofList (trimList isSpace s.toList)

/-- `strings.Trim(s, cutset)` -/
def trimCutset (s cutset : String) : String :=
  String.ofList (trimList (fun c => cutset.toList.contains c) s.toList)

/-- Simple case folding of the letters that can fold to an ASCII letter. -/
def foldChar (c : Char) : Char :=
  if 65 ≤ c.toNat && c.toNat ≤ 90 then Char.ofNat (c.toNat + 32)
  else if c.toNat == 0x17F then 's'
  else if c.toNat == 0x212A then 'k'
  else c

/-- `strings.EqualFold`, which the code calls with an ASCII constant on one side. -/
def equalFold (s t : String) : Bool := s.toList.map foldChar == t.toList.map foldChar

/-- `strings.ToLower`; `lower` stands for its table. -/
def toLowerWith (lower : Char → Char) (s : String) : String := String.ofList (s.toList.map lower)

/-- FNV-1a over 64 bits, `hash/fnv.New64a`. -/
def fnv64a (bytes : List Nat) : Nat :=
  bytes.foldl (fun h b => (h ^^^ b) * 1099511628211 % 2 ^ 64) 14695981039346656037

/-- The bytes of a string, `[]byte(s)`. -/
def stringBytes (s : String) : List Nat := s.toUTF8.toList.map UInt8.toNat

end Theia
