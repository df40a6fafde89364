import Theia.Native.SchedulerState

/-!
# Dispatching ready tasks

`dispatchReady` and what it calls: the limits and isolation checks, the scan over the ready
queues with its memory of exhausted classes, and the in-flight and isolation counters.

The worker limits are read from the settings before each dispatch cycle and are an input here.
A blocked task only carries its reason: scope names feed metrics alone.
-/

namespace Theia

/-- `polling.Policy`, the isolation limits. -/
structure Policy where
  maxWorkersPerDevice : Int
  maxWorkersPerSite : Int
  maxWorkersPerSubnet : Int
  maxInflightPerProfile : Int
  deriving DecidableEq, Repr

structure DispatchLimits where
  budgets : VolatilityClass → Int
  policy : Policy
  essentialLimit : Int
  globalLimit : Int

/-- The reasons of an `isolationBlock`. -/
inductive BlockReason
  | essentialLimit | classLimit | deviceLimit | siteLimit | subnetLimit | profileLimit
  deriving DecidableEq, Repr

/-- `dispatchScanState`: what one dispatch cycle already knows to be exhausted. -/
structure DispatchScanState where
  classLimited : Fin 3 → Bool := fun _ => false
  essentialLimited : Bool := false

/-! ### Isolation keys and counters -/

def taskSiteKey (areaID : UUID) : String :=
  if areaID = UUID.nil then "" else areaID.toString

def taskSubnetKey (task : PollTask) : String :=
  let rawIP := trimSpace task.device.ip
  if rawIP = "" then ""
  else
    let rawIP := (splitHostPort rawIP).getD rawIP
    let rawIP := trimCutset rawIP "[]"
    match parseAddr rawIP with
    | none => ""
    | some addr => maskedPrefixString addr

def taskProfileKey (task : PollTask) : String :=
  let creds := task.device.snmpCredentials
  match creds.version with
  | .v2c => match creds.v2c with
    | none => ""
    | some community => "2c|" ++ community
  | .v3 => match creds.v3 with
    | none => ""
    | some v3 => "|".intercalate ["3", v3.username, v3.securityLevel, v3.authProtocol,
        v3.privProtocol]
  | .other _ => ""

/-- `counts[key]` on a Go map: an absent key reads as 0. -/
def countOf (counts : FMap String Int) (key : String) : Int := (counts.get key).getD 0

def incrementCount (counts : FMap String Int) (key : String) : FMap String Int :=
  if key = "" then counts else counts.insert key (countOf counts key + 1)

def decrementCount (counts : FMap String Int) (key : String) : FMap String Int :=
  if key = "" then counts
  else if countOf counts key ≤ 1 then counts.erase key
  else counts.insert key (countOf counts key - 1)

/-- Apply a counter update to the keys of one task, every area separately. -/
def IsolationCounts.update (f : FMap String Int → String → FMap String Int)
    (counts : IsolationCounts) (task : PollTask) : IsolationCounts where
  device := f counts.device task.device.id.toString
  site := task.device.areaIDs.foldl (fun m areaID => f m (taskSiteKey areaID)) counts.site
  subnet := f counts.subnet (taskSubnetKey task)
  profile := f counts.profile (taskProfileKey task)

namespace Scheduler

/-- The two counter families of `incrementIsolationCounts` and `decrementIsolationCounts`. -/
def updateIsolationCounts (f : FMap String Int → String → FMap String Int) (s : Scheduler)
    (task : PollTask) : Scheduler :=
  let task := normalizeTask task
  let s := { s with inFlightBy := s.inFlightBy.update f task }
  if task.kind ≠ .essential then s else { s with essentialBy := s.essentialBy.update f task }

def incrementIsolationCounts (s : Scheduler) (task : PollTask) : Scheduler :=
  s.updateIsolationCounts incrementCount task

def decrementIsolationCounts (s : Scheduler) (task : PollTask) : Scheduler :=
  s.updateIsolationCounts decrementCount task

def incrementInFlight (s : Scheduler) (task : PollTask) : Scheduler :=
  let s :=
    if task.kind = .essential then { s with inFlightEssential := s.inFlightEssential + 1 }
    else
      { s with
        inFlightByClass := Function.update s.inFlightByClass task.volatilityClass
          (s.inFlightByClass task.volatilityClass + 1) }
  s.incrementIsolationCounts task

def decrementInFlight (s : Scheduler) (task : PollTask) : Scheduler :=
  let s :=
    if task.kind = .essential then
      if 0 < s.inFlightEssential then { s with inFlightEssential := s.inFlightEssential - 1 }
      else s
    else if 0 < s.inFlightByClass task.volatilityClass then
      { s with
        inFlightByClass := Function.update s.inFlightByClass task.volatilityClass
          (s.inFlightByClass task.volatilityClass - 1) }
    else s
  s.decrementIsolationCounts task

/-! ### Limits -/

def isolationBlock (s : Scheduler) (task : PollTask) (policy : Policy) : Option BlockReason :=
  let task := normalizeTask task
  let counts := if task.kind = .essential then s.essentialBy else s.inFlightBy
  let deviceKey := task.device.id.toString
  let siteFull := task.device.areaIDs.any fun areaID =>
    taskSiteKey areaID ≠ "" ∧ policy.maxWorkersPerSite ≤ countOf counts.site (taskSiteKey areaID)
  let subnetKey := taskSubnetKey task
  let profileKey := taskProfileKey task
  if 0 < policy.maxWorkersPerDevice ∧ deviceKey ≠ "" ∧
      policy.maxWorkersPerDevice ≤ countOf counts.device deviceKey then some .deviceLimit
  else if 0 < policy.maxWorkersPerSite ∧ siteFull then some .siteLimit
  else if 0 < policy.maxWorkersPerSubnet ∧ subnetKey ≠ "" ∧
      policy.maxWorkersPerSubnet ≤ countOf counts.subnet subnetKey then some .subnetLimit
  else if 0 < policy.maxInflightPerProfile ∧ profileKey ≠ "" ∧
      policy.maxInflightPerProfile ≤ countOf counts.profile profileKey then some .profileLimit
  else none

def dispatchBlockWithLimits (s : Scheduler) (task : PollTask) (limits : DispatchLimits) :
    Option BlockReason :=
  let task := normalizeTask task
  if task.kind = .essential then
    if limits.essentialLimit ≤ s.inFlightEssential then some .essentialLimit
    else s.isolationBlock task limits.policy
  else if limits.budgets task.volatilityClass ≤ s.inFlightByClass task.volatilityClass then
    some .classLimit
  else s.isolationBlock task limits.policy

end Scheduler

/-- The slot of a volatility class in `classLimited`; a class without one is never recorded. -/
def classSlot : VolatilityClass → Option (Fin 3)
  | .performance => some 0
  | .operational => some 1
  | .static => some 2
  | .unset => none

def DispatchScanState.isKnownBlocked (state : DispatchScanState) (task : PollTask) : Bool :=
  let task := normalizeTask task
  if task.kind = .essential then state.essentialLimited
  else match classSlot task.volatilityClass with
    | some p => state.classLimited p
    | none => false

def DispatchScanState.recordBlocked (state : DispatchScanState) (task : PollTask)
    (reason : BlockReason) : DispatchScanState :=
  let task := normalizeTask task
  if task.kind = .essential then
    if reason = .essentialLimit then { state with essentialLimited := true } else state
  else if reason ≠ .classLimit then state
  else match classSlot task.volatilityClass with
    | some p => { state with classLimited := Function.update state.classLimited p true }
    | none => state

namespace Scheduler

/-! ### Scanning the ready queues -/

/-- Whether a scan for `kind` passes over a task; `unset` selects recurring background work. -/
def skipsKind (kind : TaskKind) (task : PollTask) : Bool :=
  if kind = .unset then task.kind = .essential ∨ task.kind = .bootstrap else task.kind ≠ kind

/-- The inner loop of `popReadyEligibleKind` over one queue from `index` on. -/
def scanQueue (limits : DispatchLimits) (kind : TaskKind) (s : Scheduler)
    (scan : DispatchScanState) (index : Nat) :
    List ItemRef → Scheduler × DispatchScanState × Option (Nat × ItemRef)
  | [] => (s, scan, none)
  | r :: rest =>
    let s := s.modify r fun item => { item with task := normalizeTask item.task }
    let task := (s.store r).task
    if skipsKind kind task then scanQueue limits kind s scan (index + 1) rest
    else if scan.isKnownBlocked task then scanQueue limits kind s scan (index + 1) rest
    else match s.dispatchBlockWithLimits task limits with
      | some reason => scanQueue limits kind s (scan.recordBlocked task reason) (index + 1) rest
      | none => (s, scan, some (index, r))

/-- The outer loop of `popReadyEligibleKind` over the queues that are left. -/
def popFromQueues (limits : DispatchLimits) (kind : TaskKind) (s : Scheduler)
    (scan : DispatchScanState) : List (Fin 3) → Scheduler × DispatchScanState × Option ItemRef
  | [] => (s, scan, none)
  | p :: ps =>
    match scanQueue limits kind s scan 0 (s.ready p) with
    | (s, scan, some (index, r)) =>
      let s := { s with ready := Function.update s.ready p ((s.ready p).eraseIdx index) }
      (s.modify r fun item => { item with queued := false }, scan, some r)
    | (s, scan, none) => popFromQueues limits kind s scan ps

def popReadyEligibleKind (limits : DispatchLimits) (kind : TaskKind) (s : Scheduler)
    (scan : DispatchScanState) : Scheduler × DispatchScanState × Option ItemRef :=
  popFromQueues limits kind s scan [0, 1, 2]

/-- The loop of `popReadyEligible` over the kinds that are left. -/
def popReadyKinds (limits : DispatchLimits) (s : Scheduler) (scan : DispatchScanState) :
    List TaskKind → Scheduler × DispatchScanState × Option ItemRef
  | [] => (s, scan, none)
  | kind :: kinds =>
    match popReadyEligibleKind limits kind s scan with
    | (s, scan, some r) => (s, scan, some r)
    | (s, scan, none) => popReadyKinds limits s scan kinds

/-- `popReadyEligible`: essential work first, then bootstrap, then recurring background. -/
def popReadyEligible (limits : DispatchLimits) (s : Scheduler) (scan : DispatchScanState) :
    Scheduler × DispatchScanState × Option ItemRef :=
  popReadyKinds limits s scan [.essential, .bootstrap, .unset]

/-! ### The dispatch loop -/

/-- The task that `dispatchReady` sends for an item. -/
def dispatchTask (s : Scheduler) (now : Time) (item : HeapItem) : PollTask :=
  { normalizeTask item.task with
    runID := s.runID
    dueAt := item.dueAt
    queueLag := max (now - item.dueAt) 0
    deadlineAt := item.dueAt + item.interval
    deadlineMissed :=
      !Time.isZero (item.dueAt + item.interval) && decide (item.dueAt + item.interval < now)
    skippedWindows := item.skippedWindows }

/-- The bookkeeping of `dispatchReady` once the task is in the channel. -/
def markDispatched (s : Scheduler) (r : ItemRef) (task : PollTask) (now : Time) : Scheduler :=
  let s := s.modify r fun item =>
    { item with inFlight := true, dispatchedAt := now, runID := s.runID, task := task }
  let s := { s with inFlight := s.inFlight + 1 }
  let s := s.incrementInFlight task
  if task.kind = .essential ∧ task.deadlineMissed then
    { s with deadlineMissTotal := s.deadlineMissTotal + 1 }
  else s

/-- The loop of `dispatchReady`. `cancelAfter` is the number of tasks sent before the
`ctx.Done()` case of the select is taken, `none` if it never is. Every pass takes an entry out
of the ready queues, so `fuel` above their total length is never used up. -/
def dispatchLoop (limits : DispatchLimits) (now : Time) :
    Nat → Option Nat → Scheduler → DispatchScanState → Scheduler × List PollTask
  | 0, _, s, _ => (s, [])
  | fuel + 1, cancelAfter, s, scan =>
    if limits.globalLimit ≤ s.inFlight then (s, [])
    else match popReadyEligible limits s scan with
      | (s, _, none) => (s, [])
      | (s, scan, some r) =>
        let item := s.store r
        if item.disabled then
          dispatchLoop limits now fuel cancelAfter
            { s with items := s.items.erase item.task.key } scan
        else match cancelAfter with
          | some 0 => (s.pushReadyFront r, [])
          | _ =>
            let task := s.dispatchTask now item
            let (s, sent) := dispatchLoop limits now fuel (cancelAfter.map (· - 1))
              (s.markDispatched r task now) scan
            (s, task :: sent)

/-- `dispatchReady`, with the tasks it sends in order. -/
def dispatchReady (s : Scheduler) (limits : DispatchLimits) (now : Time)
    (cancelAfter : Option Nat) : Scheduler × List PollTask :=
  if s.readyQueuesEmpty then (s, [])
  else dispatchLoop limits now (s.readyEntries.length + 1) cancelAfter s {}

end Scheduler

end Theia
