import Theia.Native.RuntimeWire

/-!
# The overview journal

`internal/worker/overview_journal.go`: a bounded log of the runtime deltas that lead from one
overview version to the next, and the compaction of a range of them into one delta.

`marshal` stands for `json.Marshal` of a delta: the length of its text, or `none` for an error.
The clones that the journal keeps are equal to the values they copy.
-/

namespace Theia

def overviewJournalCapacity : Int := 512

def overviewJournalMaxBytes : Int := 16 * 2 ^ 20

structure OverviewJournalEntry where
  baseVersion : Nat
  version : Nat
  delta : RuntimeDeltaPayload
  sizeBytes : Nat
  deriving DecidableEq

structure OverviewJournal where
  capacity : Int
  maxBytes : Int
  sizeBytes : Int := 0
  entries : List OverviewJournalEntry := []
  deriving DecidableEq

def newOverviewJournal (capacity maxBytes : Int) : OverviewJournal := { capacity, maxBytes }

/-- `mergeOverviewJournalPatches`: field by field, the source wins. -/
def mergeOverviewJournalPatches (destination source : FMap String WireRecord) :
    FMap String WireRecord :=
  destination.mergeWith FMap.overlay source

/-- Merge a delta into another, as `Replay` does for its devices and its links. -/
def RuntimeRecords.merge (compacted delta : RuntimeDeltaPayload) : RuntimeDeltaPayload where
  devices := mergeOverviewJournalPatches compacted.devices delta.devices
  links := mergeOverviewJournalPatches compacted.links delta.links

namespace OverviewJournal

def reset (j : OverviewJournal) : OverviewJournal := { j with entries := [], sizeBytes := 0 }

/-- The second check of `Append`: entries that do not end at the base version are dropped. -/
def resetOnGap (j : OverviewJournal) (baseVersion : Nat) : OverviewJournal :=
  match j.entries.getLast? with
  | some last => if last.version ≠ baseVersion then j.reset else j
  | none => j

/-- The last loop of `Append`: drop the oldest entries until both limits hold. -/
def evict (capacity maxBytes : Int) : Int → List OverviewJournalEntry →
    Int × List OverviewJournalEntry
  | size, [] => (size, [])
  | size, entry :: rest =>
    if capacity < (entry :: rest).length ∨ maxBytes < size then
      evict capacity maxBytes (size - entry.sizeBytes) rest
    else (size, entry :: rest)

section

variable (marshal : RuntimeDeltaPayload → Option Nat)

def cloneOverviewJournalDelta (delta : Option RuntimeDeltaPayload) :
    Option (RuntimeDeltaPayload × Nat) :=
  let cloned := delta.getD emptyRuntimeDeltaPayload
  (marshal cloned).map fun size => (cloned, size)

def append (j : OverviewJournal) (baseVersion version : Nat) (delta : Option RuntimeDeltaPayload) :
    OverviewJournal :=
  if version ≤ baseVersion ∨ version - baseVersion ≠ 1 then j.reset
  else
    let j := j.resetOnGap baseVersion
    match cloneOverviewJournalDelta marshal delta with
    | none => j.reset
    | some (cloned, sizeBytes) =>
      if j.maxBytes < (sizeBytes : Int) ∨ j.capacity ≤ (0 : Int) then j.reset
      else
        let entry : OverviewJournalEntry := { baseVersion, version, delta := cloned, sizeBytes }
        let (size, entries) :=
          evict j.capacity j.maxBytes (j.sizeBytes + sizeBytes) (j.entries ++ [entry])
        { j with sizeBytes := size, entries := entries }

/-- The loop of `Replay`. -/
def replayLoop (fromVersion targetVersion : Nat) :
    RuntimeDeltaPayload → Nat → List OverviewJournalEntry → Option RuntimeDeltaPayload
  | _, _, [] => none
  | compacted, expectedBaseVersion, entry :: rest =>
    if entry.version ≤ fromVersion then
      replayLoop fromVersion targetVersion compacted expectedBaseVersion rest
    else if entry.baseVersion ≠ expectedBaseVersion ∨ targetVersion < entry.version then none
    else
      let compacted := compacted.merge entry.delta
      if entry.version = targetVersion then
        (cloneOverviewJournalDelta marshal (some compacted)).map Prod.fst
      else replayLoop fromVersion targetVersion compacted entry.version rest

def replay (j : OverviewJournal) (fromVersion targetVersion : Nat) : Option RuntimeDeltaPayload :=
  if targetVersion ≤ fromVersion then none
  else replayLoop marshal fromVersion targetVersion emptyRuntimeDeltaPayload fromVersion j.entries

/-- A call that changes the journal. -/
inductive Op
  | append (baseVersion version : Nat) (delta : Option RuntimeDeltaPayload)
  | reset

/-- The effect of one call. -/
def step (j : OverviewJournal) : Op → OverviewJournal
  | .append baseVersion version delta => j.append marshal baseVersion version delta
  | .reset => j.reset

/-- A sequence of calls on a new journal. -/
def run (capacity maxBytes : Int) (ops : List Op) : OverviewJournal :=
  ops.foldl (step marshal) (newOverviewJournal capacity maxBytes)

end

end OverviewJournal

end Theia
