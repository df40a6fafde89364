import Theia.Native.Basic

/-!
# The change channel of the state store

`emitChanges` of `internal/state/store.go`: a bounded channel of batches of device identifiers,
and the sticky flag that stands for the batches that did not fit.
-/

namespace Theia

/-- The capacity of `Store.changes`. -/
def changesCapacity : Nat := 32

/-- `Store.changes`, the oldest batch first, and `Store.overflowed`. -/
structure ChangeChannel where
  queue : List (List UUID) := []
  overflowed : Bool := false
  deriving DecidableEq

/-- What `coalesceQueuedChanges` has merged so far. The set `seen` is the set of merged ids. -/
structure Coalesced where
  merged : List UUID := []
  dropped : Nat := 0
  deriving DecidableEq

namespace Coalesced

/-- One id of the loop of `add`. -/
def addID (c : Coalesced) (id : UUID) : Coalesced :=
  if id ∈ c.merged then c
  else if changesCapacity ≤ c.merged.length then { c with dropped := c.dropped + 1 }
  else { c with merged := c.merged ++ [id] }

/-- The closure `add` of `coalesceQueuedChanges`. -/
def add (c : Coalesced) (batch : List UUID) : Coalesced := batch.foldl addID c

end Coalesced

namespace ChangeChannel

/-- A non-blocking send; `none` when the channel is full. -/
def send (c : ChangeChannel) (batch : List UUID) : Option ChangeChannel :=
  if c.queue.length < changesCapacity then some { c with queue := c.queue ++ [batch] } else none

/-- `coalesceQueuedChanges`, when no other goroutine uses the channel meanwhile. -/
def coalesceQueuedChanges (c : ChangeChannel) (ids : List UUID) : ChangeChannel × Coalesced :=
  ({ c with queue := c.queue.drop changesCapacity },
    ((c.queue.take changesCapacity).foldl Coalesced.add {}).add ids)

def markChangesOverflowed (c : ChangeChannel) : ChangeChannel := { c with overflowed := true }

/-- `emitChanges`, when no other goroutine uses the channel meanwhile. -/
def emitChanges (c : ChangeChannel) (ids : List UUID) : ChangeChannel :=
  if ids = [] then c
  else match c.send ids with
    | some sent => sent
    | none =>
      let (drained, coalesced) := c.coalesceQueuedChanges ids
      let (resent, dropped) :=
        if coalesced.merged = [] then (drained, coalesced.dropped)
        else match drained.send coalesced.merged with
          | some sent => (sent, coalesced.dropped)
          | none => (drained, coalesced.dropped + coalesced.merged.length)
      if 0 < dropped then resent.markChangesOverflowed else resent

def consumeOverflowed (c : ChangeChannel) : ChangeChannel × Bool :=
  ({ c with overflowed := false }, c.overflowed)

end ChangeChannel

/-! ### Concurrent emitters -/

/-- Where a goroutine is in `emitChanges`. `taken` lists the ids of the call and of the batches that
it has received from the channel. -/
inductive Emitter
  | idle
  /-- Before the first `select`. -/
  | sending (ids : List UUID)
  /-- In the loop of `coalesceQueuedChanges`. -/
  | draining (ids : List UUID) (coalesced : Coalesced) (drainedBatches : Nat) (taken : List UUID)
  /-- Before the second `select`. -/
  | resending (coalesced : Coalesced) (taken : List UUID)
  /-- Before `markChangesOverflowed`. -/
  | marking (taken : List UUID)

namespace Emitter

/-- `emitChanges` is called. -/
def call (ids : List UUID) : Emitter := if ids = [] then .idle else .sending ids

/-- The end of `emitChanges`, where something was dropped or not. -/
def finish (dropped : Nat) (taken : List UUID) : Emitter :=
  if 0 < dropped then .marking taken else .idle

/-- The next atomic step of an emitter. -/
def step (c : ChangeChannel) : Emitter → ChangeChannel × Emitter
  | .idle => (c, .idle)
  | .sending ids =>
    match c.send ids with
    | some sent => (sent, .idle)
    | none => (c, .draining ids {} 0 ids)
  | .draining ids coalesced drainedBatches taken =>
    if drainedBatches < changesCapacity then
      match c.queue with
      | queued :: rest =>
        ({ c with queue := rest },
          .draining ids (coalesced.add queued) (drainedBatches + 1) (taken ++ queued))
      | [] => (c, .resending (coalesced.add ids) taken)
    else (c, .resending (coalesced.add ids) taken)
  | .resending coalesced taken =>
    if coalesced.merged = [] then (c, finish coalesced.dropped taken)
    else match c.send coalesced.merged with
      | some sent => (sent, finish coalesced.dropped taken)
      | none => (c, finish (coalesced.dropped + coalesced.merged.length) taken)
  | .marking _ => (c.markChangesOverflowed, .idle)

end Emitter

/-- The channel and its emitters, one for each goroutine. -/
structure ChangeSystem (ι : Type) where
  channel : ChangeChannel := {}
  emitters : ι → Emitter := fun _ => .idle

/-- What the history of the channel keeps. -/
inductive ChangeEvent
  /-- A call of `emitChanges` begins. -/
  | called (ids : List UUID)
  /-- The consumer receives a batch. -/
  | received (batch : List UUID)
  /-- `ConsumeOverflowed` returns. -/
  | consumed (overflowed : Bool)

/-- An atomic step of one goroutine or of the consumer. -/
inductive ChangeSystem.Step {ι : Type} [DecidableEq ι] :
    ChangeSystem ι → List ChangeEvent → ChangeSystem ι → Prop
  | call {s : ChangeSystem ι} (i : ι) (ids : List UUID) (h : s.emitters i = .idle) :
      Step s [.called ids]
        { s with emitters := Function.update s.emitters i (.call ids) }
  | emit {s : ChangeSystem ι} (i : ι) :
      Step s []
        { channel := (Emitter.step s.channel (s.emitters i)).1
          emitters := Function.update s.emitters i (Emitter.step s.channel (s.emitters i)).2 }
  | receive {s : ChangeSystem ι} {batch : List UUID} {rest : List (List UUID)}
      (h : s.channel.queue = batch :: rest) :
      Step s [.received batch] { s with channel := { s.channel with queue := rest } }
  | consume {s : ChangeSystem ι} :
      Step s [.consumed s.channel.consumeOverflowed.2]
        { s with channel := s.channel.consumeOverflowed.1 }

end Theia
