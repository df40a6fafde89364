import Theia.Native.StaticPersistence

/-!
# Neighbors that are reported more than once

`dedupePreferredNeighbors` of `internal/snmp/discovery.go` and its copy in
`internal/service/device_discovery_support.go`. The copies have the same loops and scores, and each has
its own test for LLDP and its own search for a physical port (`NeighborRules`).
-/

namespace Theia

/-- `normalizeNeighborIdentity`, in both packages. -/
def normalizeNeighborIdentity (lower : Char → Char) (value : String) : String :=
  toLowerWith lower (trimSpace value)

/-- What the two packages have code of their own for. -/
structure NeighborRules where
  lower : Char → Char
  isLLDP : DiscoveryProtocol → Bool
  physicalInterfaceAnchor : String → String

namespace NeighborRules

variable (rules : NeighborRules)

def isLikelyPhysicalInterface (name : String) : Bool := rules.physicalInterfaceAnchor name ≠ ""

def isCompletePhysicalNeighbor (neighbor : NeighborInfo) : Bool :=
  rules.physicalInterfaceAnchor neighbor.localIfName ≠ "" &&
    rules.physicalInterfaceAnchor neighbor.remotePortID ≠ ""

def neighborPreferenceScore (neighbor : NeighborInfo) : Nat :=
  (if rules.isLLDP neighbor.protocol then 100 else 0) +
  (if rules.isLikelyPhysicalInterface neighbor.localIfName then 50 else 0) +
  (if rules.isLikelyPhysicalInterface neighbor.remotePortID then 40 else 0) +
  (if neighbor.localIfName ≠ "" then 20 else 0) +
  (if neighbor.remotePortID ≠ "" then 20 else 0) +
  (if neighbor.remoteSysName ≠ "" then 10 else 0) +
  (if neighbor.remoteChassisID ≠ "" then 5 else 0)

/-- `candidateRemote` and `otherRemote`: the name of the remote device, or else its chassis. -/
def remoteIdentity (neighbor : NeighborInfo) : String :=
  let sysName := normalizeNeighborIdentity rules.lower neighbor.remoteSysName
  if sysName = "" then normalizeNeighborIdentity rules.lower neighbor.remoteChassisID else sysName

/-- One pass of the loop of `shouldDropPreferredNeighbor`. -/
def displaces (other candidate : NeighborInfo) : Bool :=
  rules.remoteIdentity other = rules.remoteIdentity candidate &&
  rules.neighborPreferenceScore candidate < rules.neighborPreferenceScore other &&
  if rules.isCompletePhysicalNeighbor other then !rules.isCompletePhysicalNeighbor candidate
  else !rules.isLikelyPhysicalInterface candidate.remotePortID &&
    rules.isLikelyPhysicalInterface other.remotePortID

def shouldDropPreferredNeighbor (candidate : NeighborInfo) (neighbors : List NeighborInfo) : Bool :=
  rules.remoteIdentity candidate ≠ "" && neighbors.any (rules.displaces · candidate)

def dedupe (neighbors : List NeighborInfo) : List NeighborInfo :=
  neighbors.filter fun candidate => !rules.shouldDropPreferredNeighbor candidate neighbors

end NeighborRules

section Packages

variable (lower : Char → Char)

/-- The rules of `internal/snmp`. -/
def snmpRules : NeighborRules where
  lower
  isLLDP protocol := equalFold protocol.toString "lldp"
  physicalInterfaceAnchor := physicalInterfaceAnchor lower

def dedupePreferredNeighbors : List NeighborInfo → List NeighborInfo := (snmpRules lower).dedupe

/-- `extractDiscoveredPhysicalInterfaceAnchor`, which has the tables of `PhysicalInterfaceAnchor`. -/
def extractDiscoveredPhysicalInterfaceAnchor (normalized : String) : String :=
  if virtualHints.any (containsString normalized) then ""
  else match physicalPatterns.findSome? (patternAnchor normalized) with
    | some anchor => anchor
    | none =>
      if shortPrefixes.any (fun pre => pre.toList.isPrefixOf normalized.toList) &&
          hasDigit normalized then normalized
      else ""

def discoveredPhysicalInterfaceAnchor (name : String) : String :=
  let normalized := normalizeNeighborIdentity lower name
  if normalized = "" then "" else extractDiscoveredPhysicalInterfaceAnchor normalized

/-- The rules of `internal/service`. -/
def serviceRules : NeighborRules where
  lower
  isLLDP protocol := protocol = .lldp
  physicalInterfaceAnchor := discoveredPhysicalInterfaceAnchor lower

def dedupePreferredDiscoveredNeighbors : List NeighborInfo → List NeighborInfo :=
  (serviceRules lower).dedupe

end Packages

end Theia
