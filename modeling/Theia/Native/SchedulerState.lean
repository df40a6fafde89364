import Theia.ForStd.ContainerHeap
import Theia.ForStd.FMap
import Theia.Native.Domain

/-!
# Scheduler state: items, the due heap and the ready queues

The data of `internal/scheduler` and the operations that move one item: `heap.go`,
`enqueueReady`, `pushReadyFront` and `removeReadyItem`.

The source shares `*heapItem` pointers between the item map, the heap and the ready queues.
Here a pointer is an `ItemRef` into `store`, so that a stale pointer in a queue is a different
thing from the current item of the same key. Metrics are not modelled.
-/

namespace Theia

structure TaskKey where
  deviceID : UUID
  kind : TaskKind
  volatilityClass : VolatilityClass := .unset
  deriving DecidableEq, Repr

structure PollTask where
  key : TaskKey
  runID : Nat := 0
  kind : TaskKind
  lane : Lane
  device : Device
  pollClass : PollClass
  volatilityClass : VolatilityClass
  expectedInterval : Duration
  dueAt : Time
  deadlineAt : Time
  queueLag : Duration := 0
  deadlineMissed : Bool := false
  skippedWindows : Nat := 0
  deriving DecidableEq, Repr

structure Completion where
  runID : Nat
  key : TaskKey
  finishedAt : Time
  deriving DecidableEq, Repr

structure HeapItem where
  task : PollTask
  dueAt : Time
  dispatchedAt : Time := 0
  runID : Nat := 0
  interval : Duration
  queued : Bool := false
  inFlight : Bool := false
  pending : Bool := false
  immediateRerun : Bool := false
  disabled : Bool := false
  skippedWindows : Nat := 0
  index : Int := -1
  deriving DecidableEq, Repr

/-- A pointer to a `heapItem`. -/
abbrev ItemRef := Nat

/-- The in-flight counts of one family of isolation maps, by device, site, subnet and SNMP
profile: `inFlightBy…` or `essentialBy…`. -/
structure IsolationCounts where
  device : FMap String Int := ∅
  site : FMap String Int := ∅
  subnet : FMap String Int := ∅
  profile : FMap String Int := ∅

/-- An item that no pointer of the scheduler reaches. -/
def HeapItem.unallocated : HeapItem where
  task :=
    { key := { deviceID := UUID.nil, kind := .unset }
      kind := .unset, lane := .unset, device := {}, pollClass := .other ""
      volatilityClass := .unset, expectedInterval := 0, dueAt := 0, deadlineAt := 0 }
  dueAt := 0
  interval := 0

/-- `Scheduler`: the fields guarded by `s.mu`. `started` is `s.cancel != nil`. -/
structure Scheduler where
  items : FMap TaskKey ItemRef := ∅
  store : ItemRef → HeapItem := fun _ => HeapItem.unallocated
  nextRef : ItemRef := 0
  heap : List ItemRef := []
  ready : Fin 3 → List ItemRef := fun _ => []
  started : Bool := false
  inFlight : Int := 0
  inFlightByClass : VolatilityClass → Int := fun _ => 0
  inFlightEssential : Int := 0
  inFlightBy : IsolationCounts := {}
  essentialBy : IsolationCounts := {}
  runID : Nat := 0
  deadlineMissTotal : Nat := 0

/-! ### Task shape -/

def normalizeTask (task : PollTask) : PollTask :=
  let task := if task.kind = .unset then { task with kind := task.key.kind } else task
  let task := if task.kind = .unset then { task with kind := .background } else task
  let task :=
    if task.lane = .unset then
      { task with
        lane := match task.kind with
          | .essential => .essential
          | .bootstrap => .bootstrap
          | _ => .background }
    else task
  if task.kind = .background ∧ task.volatilityClass = .unset then
    { task with volatilityClass := task.key.volatilityClass }
  else task

def volatilityPriority : VolatilityClass → Int
  | .performance => 0
  | .operational => 1
  | .static => 2
  | .unset => 99

def readyPriority (task : PollTask) : Int :=
  let task := normalizeTask task
  if task.kind = .essential then 0 else volatilityPriority task.volatilityClass

def heapPriority (task : PollTask) : Int :=
  let task := normalizeTask task
  if task.kind = .essential then -1 else volatilityPriority task.volatilityClass

namespace Scheduler

/-- Write through a pointer. -/
def modify (s : Scheduler) (r : ItemRef) (f : HeapItem → HeapItem) : Scheduler :=
  { s with store := Function.update s.store r (f (s.store r)) }

/-- `&heapItem{…}`: a pointer that was not in use before. -/
def alloc (s : Scheduler) (item : HeapItem) : Scheduler × ItemRef :=
  ({ s with store := Function.update s.store s.nextRef item, nextRef := s.nextRef + 1 }, s.nextRef)

/-! ### The due heap -/

/-- The item at a heap position. -/
def heapItemAt (s : Scheduler) (i : Nat) : HeapItem := s.store (s.heap.getD i 0)

/-- `taskHeap.Less` -/
def heapLess (s : Scheduler) (i j : Nat) : Bool :=
  let a := s.heapItemAt i
  let b := s.heapItemAt j
  if a.dueAt ≠ b.dueAt then decide (a.dueAt < b.dueAt)
  else if heapPriority a.task ≠ heapPriority b.task then
    decide (heapPriority a.task < heapPriority b.task)
  else decide (a.task.key.deviceID.toString < b.task.key.deviceID.toString)

/-- `taskHeap.Swap` -/
def heapSwap (s : Scheduler) (i j : Nat) : Scheduler :=
  match s.heap[i]?, s.heap[j]? with
  | some a, some b =>
    let s := { s with heap := (s.heap.set i b).set j a }
    (s.modify b fun item => { item with index := i }).modify a fun item => { item with index := j }
  | _, _ => s

/-- The scheduler as a `heap.Interface`. -/
def heapOps : HeapInterface Scheduler where
  len s := s.heap.length
  less := heapLess
  swap := heapSwap

/-- `taskHeap.Push` -/
def heapAppend (s : Scheduler) (r : ItemRef) : Scheduler :=
  let s := s.modify r fun item => { item with index := s.heap.length }
  { s with heap := s.heap ++ [r] }

/-- `taskHeap.Pop`: the last entry leaves the heap and forgets its position. -/
def heapDropLast (s : Scheduler) : Scheduler :=
  match s.heap.getLast? with
  | some r =>
    let s := s.modify r fun item => { item with index := -1 }
    { s with heap := s.heap.dropLast }
  | none => s

/-- `heap.Push(&s.heap, item)` -/
def heapPush (s : Scheduler) (r : ItemRef) : Scheduler :=
  heapOps.up (s.heapAppend r) s.heap.length

/-- `heap.Pop(&s.heap)`; the popped item is the one at position 0. -/
def heapPop (s : Scheduler) : Scheduler := (heapOps.popSift s).heapDropLast

/-- `heap.Remove(&s.heap, i)` -/
def heapRemove (s : Scheduler) (i : Nat) : Scheduler := (heapOps.removeSift s i).heapDropLast

/-- `heap.Fix(&s.heap, i)` -/
def heapFix (s : Scheduler) (i : Nat) : Scheduler := heapOps.fix s i

/-! ### The ready queues -/

-- one name for the proof, which each numeral of `Fin 3` would otherwise abstract anew
instance : NeZero 3 := inferInstance

/-- The queue of a task: an unknown priority falls in the last one. -/
def readySlot (task : PollTask) : Fin 3 :=
  if readyPriority task = 0 then 0 else if readyPriority task = 1 then 1 else 2

/-- Put an item in a ready queue at the end (`enqueueReady`) or the front (`pushReadyFront`). -/
def enqueueWith (place : List ItemRef → ItemRef → List ItemRef) (s : Scheduler) (r : ItemRef) :
    Scheduler :=
  if (s.store r).queued then s
  else
    let s := s.modify r fun item =>
      { item with
        task := { normalizeTask item.task with dueAt := item.dueAt }
        queued := true }
    let p := readySlot (s.store r).task
    { s with ready := Function.update s.ready p (place (s.ready p) r) }

def enqueueReady (s : Scheduler) (r : ItemRef) : Scheduler :=
  s.enqueueWith (fun queue r => queue ++ [r]) r

def pushReadyFront (s : Scheduler) (r : ItemRef) : Scheduler :=
  s.enqueueWith (fun queue r => r :: queue) r

/-- `removeReadyItem`: the first slot that holds the item is removed. -/
def removeReadyItem (s : Scheduler) (r : ItemRef) : Scheduler :=
  match [(0 : Fin 3), 1, 2].find? fun p => r ∈ s.ready p with
  | some p =>
    let s := s.modify r fun item => { item with queued := false }
    { s with ready := Function.update s.ready p ((s.ready p).erase r) }
  | none => s

def readyQueuesEmpty (s : Scheduler) : Bool := s.ready 0 = [] ∧ s.ready 1 = [] ∧ s.ready 2 = []

/-- The entries of all ready queues. -/
def readyEntries (s : Scheduler) : List ItemRef := s.ready 0 ++ s.ready 1 ++ s.ready 2

end Scheduler

end Theia
