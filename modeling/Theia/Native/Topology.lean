import Theia.Native.Domain

/-!
# Device rows, link rows and the names that match them

`internal/domain/link.go` and the rows of the device and link tables. `lower` stands for
`unicode.ToLower`, the table behind `strings.ToLower`.
-/

namespace Theia

/-- A protocol name that the source has no constant for. -/
abbrev OtherProtocol := { value : String // value ≠ "lldp" ∧ value ≠ "cdp" ∧ value ≠ "manual" }

inductive DiscoveryProtocol
  | lldp | cdp | manual
  | other (value : OtherProtocol)
  deriving DecidableEq, Repr

def DiscoveryProtocol.toString : DiscoveryProtocol → String
  | .lldp => "lldp"
  | .cdp => "cdp"
  | .manual => "manual"
  | .other value => value.val

/-- The zero value of `domain.DiscoveryProtocol`. -/
def DiscoveryProtocol.unset : DiscoveryProtocol := .other ⟨"", by decide⟩

/-- A row of the device table, the fields that matching and caching read. -/
structure DeviceRow extends Device where
  sysName : String := ""
  deriving DecidableEq, Repr

/-- A row of the link table. -/
structure LinkRow extends Link where
  discoveryProtocol : DiscoveryProtocol := .unset
  createdAt : Time := 0
  updatedAt : Time := 0
  deriving DecidableEq, Repr

/-! ### Names -/

section Names

variable (lower : Char → Char)

/-- `strings.TrimSuffix(s, ".")` -/
def trimSuffixDot (s : String) : String :=
  if s.toList.getLast? = some '.' then String.ofList s.toList.dropLast else s

/-- The part of a name before its first dot, the whole name if it has none. -/
def beforeDot (s : String) : String := String.ofList (s.toList.takeWhile (· ≠ '.'))

def normalizeSysNameLookup (sysName : String) : String :=
  beforeDot (trimSuffixDot (toLowerWith lower (trimSpace sysName)))

/-- `normalizeInterfaceName`, of the cache and of the link repository. -/
def Topology.normalizeInterfaceName (name : String) : String := toLowerWith lower (trimSpace name)

/-- `strings.Contains` -/
def containsString (s sub : String) : Bool := decide (sub.toList <:+: s.toList)

/-- `s[strings.Index(s, sub):]`, if `sub` is found. -/
def fromIndex (s sub : String) : Option String :=
  (s.toList.tails.find? fun tail => sub.toList.isPrefixOf tail).map String.ofList

def hasDigit (value : String) : Bool := value.toList.any fun c => '0' ≤ c && c ≤ '9'

/-- The hints of `PhysicalInterfaceAnchor` that an interface is not physical. -/
def virtualHints : List String :=
  ["vlan", "vrf", "vpn", "bridge", "br-", "bond", "loopback", "lo",
    "gre", "eoip", "wg", "wireguard", "pppoe", "ppp", "sstp", "ovpn",
    "l2tp", "vxlan", "veth", "tap", "tun"]

def physicalPatterns : List String :=
  ["ether", "eth", "sfp-sfpplus", "sfp", "qsfp", "ens", "eno", "enp",
    "gigabitethernet", "tengigabitethernet", "fastethernet", "ge-", "xe-", "et-"]

def shortPrefixes : List String := ["gi", "te", "fo", "port"]

/-- A character that an anchor may contain. -/
def anchorChar (c : Char) : Bool :=
  ('a' ≤ c && c ≤ 'z') || ('0' ≤ c && c ≤ '9') || c = '-' || c = '/'

/-- The anchor that one pattern finds in a normalized name. -/
def patternAnchor (normalized pattern : String) : Option String :=
  (fromIndex normalized pattern).bind fun found =>
    let anchor := trimCutset (String.ofList (found.toList.takeWhile anchorChar)) "- /"
    if hasDigit anchor then some anchor else none

def physicalInterfaceAnchor (name : String) : String :=
  let normalized := toLowerWith lower (trimSpace name)
  if normalized = "" then ""
  else if virtualHints.any (containsString normalized) then ""
  else match physicalPatterns.findSome? (patternAnchor normalized) with
    | some anchor => anchor
    | none =>
      if shortPrefixes.any (fun pre => pre.toList.isPrefixOf normalized.toList) &&
          hasDigit normalized then normalized
      else ""

end Names

end Theia
