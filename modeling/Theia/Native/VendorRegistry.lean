import Theia.Native.Topology

/-!
# The vendor registry

Port of `Match` of `internal/vendor/registry.go`. What a vendor configures beyond its name and its
detection is `settings`, which matching hands on.
-/

namespace Theia

structure Detection where
  sysObjectIDPrefixes : List String := []
  sysDescrPatterns : List String := []
  deriving DecidableEq, Repr

structure VendorConfig (S : Type) where
  name : String
  detection : Detection := {}
  settings : S
  deriving DecidableEq, Repr

structure Registry (S : Type) where
  vendors : List (VendorConfig S) := []
  fallback : VendorConfig S

/-- `strings.HasPrefix` -/
def hasPrefix (s pre : String) : Bool := pre.toList.isPrefixOf s.toList

/-- `strings.TrimPrefix(s, ".")` -/
def trimPrefixDot (s : String) : String :=
  if hasPrefix s "." then String.ofList s.toList.tail else s

namespace Registry

variable {S : Type} (r : Registry S)

/-- The first phase of `Match`, by the prefixes of the object ID. -/
def matchOID (sysObjectID : String) : Option (VendorConfig S) :=
  let oid := trimPrefixDot sysObjectID
  r.vendors.find? fun v => v.detection.sysObjectIDPrefixes.any (hasPrefix oid)

/-- The second phase of `Match`, by the texts in the description. -/
def matchDescr (lower : Char → Char) (sysDescr : String) : Option (VendorConfig S) :=
  let descrLower := toLowerWith lower sysDescr
  r.vendors.find? fun v => v.detection.sysDescrPatterns.any fun pattern =>
    containsString descrLower (toLowerWith lower pattern)

/-- `Match` -/
def matchVendor (lower : Char → Char) (sysObjectID sysDescr : String) : VendorConfig S :=
  ((r.matchOID sysObjectID).or (r.matchDescr lower sysDescr)).getD r.fallback

end Registry

end Theia
