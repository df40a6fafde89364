import Theia.Native.Basic

/-!
# Addresses of the `net` and `net/netip` packages

`net.SplitHostPort`, `netip.ParseAddr`, `Prefix.Masked` and the textual form of a prefix, as
the scheduler calls them to group devices by subnet.
-/

namespace Theia

/-- `netip.Addr`; a zone is dropped by `netip.PrefixFrom` and is not kept. -/
inductive Addr
  /-- The four octets of an IPv4 address. -/
  | v4 (octets : List Nat)
  /-- The eight 16-bit groups of an IPv6 address. -/
  | v6 (groups : List Nat)
  deriving DecidableEq, Repr

/-- The value of a decimal digit. -/
def decDigit? (c : Char) : Option Nat :=
  if '0' ≤ c && c ≤ '9' then some (c.toNat - 48) else none

/-- The value of a hexadecimal digit of either case. -/
def hexDigit? (c : Char) : Option Nat :=
  if '0' ≤ c && c ≤ '9' then some (c.toNat - 48)
  else if 'a' ≤ c && c ≤ 'f' then some (c.toNat - 87)
  else if 'A' ≤ c && c ≤ 'F' then some (c.toNat - 55)
  else none

/-- One IPv4 field: at least one digit, no leading zero, at most 255. -/
def parseIPv4Field (field : List Char) : Option Nat := do
  let digits ← field.mapM decDigit?
  guard (digits ≠ [])
  guard (digits.length = 1 ∨ digits.head? ≠ some 0)
  let value := digits.foldl (fun v d => v * 10 + d) 0
  guard (value ≤ 255)
  return value

/-- `parseIPv4Fields`: exactly four fields separated by dots. -/
def parseIPv4Fields (s : List Char) : Option (List Nat) := do
  let fields := s.splitOn '.'
  guard (fields.length = 4)
  fields.mapM parseIPv4Field

/-- The loop of `parseIPv6` over the groups: `groups` read so far, `ellipsis` the number of
groups before `::`. Every pass reads one group, so eight passes are enough. -/
def parseIPv6Loop : Nat → List Char → List Nat → Option Nat → Option (List Nat × Option Nat)
  | 0, s, groups, ellipsis => if s = [] then some (groups, ellipsis) else none
  | fuel + 1, s, groups, ellipsis => do
    let digits := s.takeWhile fun c => (hexDigit? c).isSome
    let rest := s.dropWhile fun c => (hexDigit? c).isSome
    -- more than four digits, or none at all
    guard (digits ≠ [] ∧ digits.length ≤ 4)
    let acc := (digits.filterMap hexDigit?).foldl (fun v d => v * 16 + d) 0
    match rest with
    | [] => return (groups ++ [acc], ellipsis)
    | '.' :: _ =>
      -- an embedded IPv4 address takes the place of the last two groups
      guard (ellipsis.isSome ∨ groups.length = 6)
      guard (groups.length ≤ 6)
      match ← parseIPv4Fields s with
      | [a, b, c, d] => return (groups ++ [a * 256 + b, c * 256 + d], ellipsis)
      | _ => none
    | ':' :: [] => none
    | ':' :: ':' :: more =>
      guard (ellipsis = none)
      let groups := groups ++ [acc]
      if more = [] then return (groups, some groups.length)
      parseIPv6Loop fuel more groups (some groups.length)
    | ':' :: more => parseIPv6Loop fuel more (groups ++ [acc]) ellipsis
    | _ => none

/-- Expand `::` to the zero groups it stands for, at least one. -/
def expandEllipsis (groups : List Nat) (ellipsis : Option Nat) : Option (List Nat) :=
  match ellipsis with
  | none => if groups.length = 8 then some groups else none
  | some e =>
    if groups.length < 8 then
      some (groups.take e ++ List.replicate (8 - groups.length) 0 ++ groups.drop e)
    else none

def parseIPv6 (s : List Char) : Option (List Nat) := do
  let addr := s.takeWhile (· ≠ '%')
  let zone := s.dropWhile (· ≠ '%')
  -- a zone must not be empty
  guard (zone ≠ ['%'])
  match addr with
  | ':' :: ':' :: [] => return List.replicate 8 0
  | ':' :: ':' :: more =>
    let (groups, ellipsis) ← parseIPv6Loop 8 more [] (some 0)
    expandEllipsis groups ellipsis
  | _ =>
    let (groups, ellipsis) ← parseIPv6Loop 8 addr [] none
    expandEllipsis groups ellipsis

/-- `netip.ParseAddr`: the first of `.`, `:` and `%` decides the family. -/
def parseAddr (s : String) : Option Addr :=
  match s.toList.find? fun c => c == '.' || c == ':' || c == '%' with
  | some '.' => (parseIPv4Fields s.toList).map .v4
  | some ':' => (parseIPv6 s.toList).map .v6
  | _ => none

/-- `net.SplitHostPort`, the host only; `none` is an error. -/
def splitHostPort (hostport : String) : Option String := do
  let l := hostport.toList
  -- the port starts after the last colon
  guard (l.contains ':')
  let port := (l.reverse.takeWhile (· ≠ ':')).reverse
  let i := l.length - port.length - 1
  match l with
  | '[' :: _ =>
    guard (l.contains ']')
    let stop := (l.takeWhile (· ≠ ']')).length
    guard (stop + 1 = i)
    guard (!((l.drop 1).contains '[') && !((l.drop (stop + 1)).contains ']'))
    return String.ofList ((l.take stop).drop 1)
  | _ =>
    let host := l.take i
    guard (!host.contains ':')
    guard (!l.contains '[' && !l.contains ']')
    return String.ofList host

/-- A group in hexadecimal without leading zeros. -/
def groupString (group : Nat) : List Char := (Nat.toDigits 16 group)

/-- The first longest run of at least two zero groups, as `(start, stop)`. -/
def zeroRun (groups : List Nat) : Option (Nat × Nat) :=
  (List.range groups.length).foldl (fun best i =>
    let len := ((groups.drop i).takeWhile (· = 0)).length
    let bestLen := match best with
      | none => 0
      | some (start, stop) => stop - start
    if 2 ≤ len ∧ bestLen < len then some (i, i + len) else best) none

/-- `Addr.String` -/
def Addr.toString : Addr → String
  | .v4 octets => ".".intercalate (octets.map Nat.repr)
  | .v6 groups =>
    let join (gs : List Nat) := (gs.map fun g => String.ofList (groupString g))
    match zeroRun groups with
    | none => ":".intercalate (join groups)
    | some (start, stop) =>
      ":".intercalate (join (groups.take start)) ++ "::" ++
        ":".intercalate (join (groups.drop stop))

/-- `netip.PrefixFrom(addr, bits).Masked().String()` for the two prefix lengths in use: the
first three octets of an IPv4 address or the first four groups of an IPv6 address. -/
def maskedPrefixString : Addr → String
  | .v4 octets => (Addr.v4 (octets.take 3 ++ [0])).toString ++ "/24"
  | .v6 groups => (Addr.v6 (groups.take 4 ++ [0, 0, 0, 0])).toString ++ "/64"

end Theia
