import Theia.ForStd.FMap
import Theia.Native.Basic

/-!
# Runtime records on the wire

The values that the runtime overview puts into JSON (`internal/ws/messages.go`), and the sparse
payload of a runtime delta. A Go map is an `FMap`; a nil map and an empty one read the same. A
nil slice is written as JSON `null`, so it is `WireValue.null` here.
-/

namespace Theia

/-- A JSON value that occurs in a runtime record. -/
inductive WireValue
  | null
  | str (s : String)
  | num (x : ℚ)
  | strs (l : List String)
  | strMap (m : FMap String String)
  deriving DecidableEq

/-- The fields of one device or link: `map[string]any`, or the JSON object of a record. -/
abbrev WireRecord := FMap String WireValue

/-- Records of devices and links by entity identifier. -/
structure RuntimeRecords where
  devices : FMap String WireRecord := ∅
  links : FMap String WireRecord := ∅
  deriving DecidableEq

/-- `ws.RuntimeDeltaPayload`: for each entity the fields that changed. -/
abbrev RuntimeDeltaPayload := RuntimeRecords

def emptyRuntimeDeltaPayload : RuntimeDeltaPayload := {}

/-- A value in `cloneRuntimePatchMap`: appending an empty list to a nil slice gives nil. -/
def cloneRuntimePatchValue : WireValue → WireValue
  | .strs [] => .null
  | value => value

def cloneRuntimePatchMap (patch : WireRecord) : WireRecord :=
  patch.map fun _ value => cloneRuntimePatchValue value

def cloneRuntimeDeltaPayload : Option RuntimeDeltaPayload → RuntimeDeltaPayload
  | none => emptyRuntimeDeltaPayload
  | some delta =>
    { devices := delta.devices.map fun _ patch => cloneRuntimePatchMap patch
      links := delta.links.map fun _ patch => cloneRuntimePatchMap patch }

end Theia
