import Theia.ForStd.FMap
import Theia.Native.Basic

/-!
# Probe results

`QueryProbeStatus` of `internal/metrics/prometheus.go`: which samples of `probe_success` the query
asks for, and how the answer is keyed by device address again.
-/

namespace Theia

/-- A sample: its `instance` label, empty if it has none, and what `SampleValue` reads. -/
structure ProbeSample where
  label : String
  value : Option ℚ

def uniqueSorted (values : List String) : List String :=
  (values.filter (· ≠ "")).dedup.insertionSort (· ≤ ·)

/-- `regexpQuote(address) + "(?::[0-9]+)?"` matches the label. -/
def matchesTarget (address label : String) : Bool :=
  address.toList.isPrefixOf label.toList &&
    match label.toList.drop address.toList.length with
    | [] => true
    | c :: port => c = ':' && port ≠ [] && port.all Char.isDigit

/-- The pattern of `buildTargetMatcher` matches the label. -/
def buildTargetMatcher (deviceIPs : List String) (label : String) : Bool :=
  match uniqueSorted deviceIPs with
  | [] => label = ""
  | parts => parts.any (matchesTarget · label)

/-- The address that a label is read as: a port is cut off at the first colon. -/
def probeAddress (label : String) : String :=
  if label.toList.head? = some '[' then label
  else String.ofList (label.toList.takeWhile (· ≠ ':'))

/-- What a sample says, unless it has no label or no readable value. -/
def probeEntry (sample : ProbeSample) : Option (String × Bool) :=
  if sample.label = "" then none
  else sample.value.map fun value => (probeAddress sample.label, decide (value = 1))

/-- `QueryProbeStatus`, given what `queryVector` answers. -/
def queryProbeStatus (deviceIPs : List String) (answer : Except String (List ProbeSample)) :
    Except String (FMap String Bool) :=
  if deviceIPs = [] then .ok ∅
  else answer.map fun samples => FMap.ofList (samples.filterMap probeEntry)

end Theia
