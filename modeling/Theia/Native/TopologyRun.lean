import Theia.ForStd.FMap
import Theia.ForStd.Run
import Theia.Native.Basic

/-!
# Topology import runs

An import that bootstraps topology owns a run with one item per imported device:
`device_import_topology_run_repo.go`, and the coordinator in
`device_import_topology_coordinator.go` that moves a run from discovery to reconciliation to layout.

A repository function is one statement or one transaction and is taken as one step; an error leaves
the store as it was. Most transactions first lock the run's row. `MarkItemRunning` locks the row of
the item only, and `AddItem` is a single statement that reads the run's state. A worker is at the
repository call it makes next (`Phase`). The clock is part of the store. Timestamps that nothing reads, the failure texts of a run and the
bootstrap columns of the device row are left out.
-/

namespace Theia

/-! ### Rows -/

/-- `DeviceImportTopologyRunState` -/
inductive TopologyRunState
  | importing | discovering | reconciling | followup | readyForLayout | failed | completed
  | superseded
  deriving DecidableEq, Repr

def TopologyRunState.active : TopologyRunState → Bool
  | .importing | .discovering | .reconciling | .followup | .readyForLayout | .failed => true
  | _ => false

/-- `DeviceImportTopologyItemState` -/
inductive TopologyItemState
  | queued | running | succeeded | warning | failed
  deriving DecidableEq, Repr

def TopologyItemState.terminal : TopologyItemState → Bool
  | .succeeded | .warning | .failed => true
  | _ => false

/-- `DeviceImportTopologyResultCode` -/
inductive TopologyResultCode
  | none | discovered | noNeighbors | partialProtocol | unresolvedNeighbors | incompletePorts
  | snmpUnreachable | authentication | persistence | internal
  deriving DecidableEq, Repr

/-- `DeviceImportTopologyRun` -/
structure TopologyRun where
  mapID : UUID
  actorUserID : UUID
  state : TopologyRunState := .importing
  autoLayoutAllowed : Bool := true
  backgrounded : Bool := false
  layoutApplicationDigest : String := ""
  reconcileAttempts : Nat := 0
  updatedAt : Time
  deriving DecidableEq, Repr

/-- `DeviceImportTopologyRunItem` -/
structure TopologyRunItem where
  state : TopologyItemState := .queued
  attempt : Nat := 0
  resultCode : TopologyResultCode := .none
  message : String := ""
  reference : String := ""
  neighborCount : Int := 0
  linksCreated : Int := 0
  unresolvedNeighbors : Int := 0
  deriving DecidableEq, Repr

/-- `DeviceImportTopologyItemCompletion` -/
structure TopologyItemCompletion where
  state : TopologyItemState
  resultCode : TopologyResultCode
  message : String
  reference : String := ""
  neighborCount : Int
  linksCreated : Int
  unresolvedNeighbors : Int
  deriving DecidableEq, Repr

/-- `DeviceImportTopologyItemReconciliation` -/
structure TopologyItemReconciliation where
  deviceID : UUID
  linksCreated : Int := 0
  unresolvedNeighbors : Int := 0
  deriving DecidableEq, Repr

inductive TopologyRunError
  | invalid | notFound | conflict | layoutStale | database
  deriving DecidableEq, Repr

/-- The tables of the runs and of their items, by run and device. -/
structure TopologyRunStore where
  runs : FMap UUID TopologyRun := ∅
  items : FMap (UUID × UUID) TopologyRunItem := ∅
  now : Time := 0
  deriving DecidableEq

def deviceImportTopologyRunStaleAfter : Duration := 24 * 3600 * second

def deviceImportTopologyMaxReconciliationAttempts : Nat := 2

/-- `normalizedDeviceImportTopologyUUIDs`, as a set: its order is that of the updates of one
transaction. -/
def normalizedDeviceImportTopologyUUIDs (values : List UUID) : Finset UUID :=
  (values.filter (· ≠ UUID.nil)).toFinset

def validDeviceImportTopologyRunTransition (current next : TopologyRunState) : Bool :=
  if current = next then true
  else if next = .superseded then current.active
  else
    match current with
    | .discovering | .followup => next = .reconciling
    | .reconciling => next = .followup ∨ next = .readyForLayout
    | .readyForLayout => next = .completed
    | _ => false

/-! ### The repository -/

namespace TopologyRunStore

/-- Writes a run and its update stamp. -/
def putRun (s : TopologyRunStore) (runID : UUID) (run : TopologyRun) : TopologyRunStore :=
  { s with runs := s.runs.insert runID { run with updatedAt := s.now } }

/-- `COUNT(*) > 0` over the items of a run. -/
def hasItem (s : TopologyRunStore) (runID : UUID) : Bool :=
  s.items.any fun key _ => decide (key.1 = runID)

/-- The run has an item that is queued or running. -/
def hasOpenItem (s : TopologyRunStore) (runID : UUID) : Bool :=
  s.items.any fun key item =>
    decide (key.1 = runID ∧ (item.state = .queued ∨ item.state = .running))

/-- The update of `Create` that supersedes abandoned runs of the map. -/
def supersedeStale (s : TopologyRunStore) (mapID : UUID) : FMap UUID TopologyRun :=
  s.runs.map fun _ run =>
    if run.mapID = mapID ∧ run.state.active ∧ run.updatedAt < s.now - deviceImportTopologyRunStaleAfter
    then { run with state := .superseded, updatedAt := s.now }
    else run

/-- `Create`: the unique index allows one active run per map. -/
def create (s : TopologyRunStore) (runID mapID actorUserID : UUID) :
    Except TopologyRunError TopologyRunStore :=
  if runID = UUID.nil ∨ mapID = UUID.nil ∨ actorUserID = UUID.nil then .error .invalid
  else
    let runs := s.supersedeStale mapID
    if runID ∈ runs.dom then .error .database
    else if runs.any fun _ run => decide (run.mapID = mapID ∧ run.state.active) then .error .conflict
    else .ok { s with runs := runs.insert runID { mapID, actorUserID, updatedAt := s.now } }

/-- `AddItem`, and the same insert in the transaction that creates an imported device; the device
has to be a member of the run's map. -/
def addItem (s : TopologyRunStore) (runID deviceID : UUID) (isMember : Bool) :
    Except TopologyRunError TopologyRunStore :=
  if runID = UUID.nil ∨ deviceID = UUID.nil then .error .invalid
  else
    match s.runs.get runID with
    | none => .error .conflict
    | some run =>
      if run.state = .importing ∧ isMember = true ∧ s.items.get (runID, deviceID) = none then
        .ok { s with items := s.items.insert (runID, deviceID) {} }
      else .error .conflict

def finalizeImport (s : TopologyRunStore) (runID : UUID) : Except TopologyRunError TopologyRunStore :=
  match s.runs.get runID with
  | none => .error .notFound
  | some run =>
    if run.state = .discovering ∨ run.state = .completed then .ok s
    else if run.state ≠ .importing then .error .conflict
    else .ok (s.putRun runID
      { run with state := if s.hasItem runID then .discovering else .completed })

def failImport (s : TopologyRunStore) (runID : UUID) : Except TopologyRunError TopologyRunStore :=
  match s.runs.get runID with
  | none => .error .conflict
  | some run =>
    if run.state = .importing then .ok (s.putRun runID { run with state := .failed })
    else .error .conflict

/-- The run is in discovery, where items are claimed and completed. -/
def discovers (run : TopologyRun) : Bool :=
  decide (run.state = .discovering ∨ run.state = .followup)

/-- The row of `runID` is one that the select of `MarkItemRunning` can return. -/
def claimable (s : TopologyRunStore) (deviceID runID : UUID) : Bool :=
  (s.runs.get runID).any discovers &&
    (s.items.get (runID, deviceID)).any fun item => decide (item.state = .queued)

/-- `MarkItemRunning`, for the run whose row the select returned: the newest one that no other
transaction has locked. -/
def markItemRunning (s : TopologyRunStore) (deviceID runID : UUID) :
    Except TopologyRunError TopologyRunStore :=
  match s.items.get (runID, deviceID) with
  | none => .error .notFound
  | some item =>
    if s.claimable deviceID runID then
      .ok { s with
        items := s.items.insert (runID, deviceID)
          { item with
            state := .running, attempt := item.attempt + 1, resultCode := .none, message := "",
            reference := "" } }
    else .error .notFound

/-- The row that `CompleteItem` writes. -/
def completedItem (item : TopologyRunItem) (completion : TopologyItemCompletion) :
    TopologyRunItem :=
  { item with
    state := completion.state
    resultCode := completion.resultCode
    message := completion.message
    reference := completion.reference
    neighborCount := max completion.neighborCount 0
    linksCreated := max completion.linksCreated 0
    unresolvedNeighbors := max completion.unresolvedNeighbors 0 }

/-- `CompleteItem`; it reports whether no item of the run is left. -/
def completeItem (s : TopologyRunStore) (runID deviceID : UUID)
    (completion : TopologyItemCompletion) : Except TopologyRunError (Bool × TopologyRunStore) :=
  if runID = UUID.nil ∨ deviceID = UUID.nil ∨ completion.state.terminal = false then
    .error .invalid
  else
    match s.runs.get runID, s.items.get (runID, deviceID) with
    | none, _ => .error .notFound
    | some run, some item =>
      if discovers run ∧ item.state = .running then
        let s' := { s.putRun runID run with
          items := s.items.insert (runID, deviceID) (completedItem item completion) }
        .ok (!s'.hasOpenItem runID, s')
      else .error .conflict
    | some _, none => .error .conflict

/-- What a reconciliation makes of an item. -/
def reconciledItem (item : TopologyRunItem) (result : TopologyItemReconciliation) :
    TopologyRunItem :=
  let counted : TopologyRunItem :=
    { item with
      linksCreated := result.linksCreated, unresolvedNeighbors := result.unresolvedNeighbors }
  if item.state = .failed then counted
  else if result.unresolvedNeighbors > 0 then
    { counted with
      state := .warning, resultCode := .unresolvedNeighbors,
      message := "Some discovered neighbors could not be linked automatically." }
  else if item.resultCode = .unresolvedNeighbors then
    { counted with
      state := .succeeded, resultCode := .discovered, message := "Topology discovery completed." }
  else counted

/-- `ApplyReconciliationResults`; the results have to be those of the items of the run. -/
def applyReconciliationResults (s : TopologyRunStore) (runID : UUID)
    (results : List TopologyItemReconciliation) : Except TopologyRunError TopologyRunStore :=
  if runID = UUID.nil ∨
      (results.any fun result => decide (result.deviceID = UUID.nil ∨ result.linksCreated < 0 ∨
        result.unresolvedNeighbors < 0)) ∨
      ¬(results.map (·.deviceID)).Nodup then
    .error .invalid
  else
    match s.runs.get runID with
    | none => .error .notFound
    | some run =>
      if run.state = .reconciling ∧
          (s.items.dom.filter fun key => key.1 = runID).image Prod.snd =
            (results.map (·.deviceID)).toFinset then
        .ok { s.putRun runID run with
          items := s.items.map fun key item =>
            if key.1 = runID then
              (results.find? fun result => result.deviceID = key.2).elim item (reconciledItem item)
            else item }
      else .error .conflict

def recoverInterrupted (s : TopologyRunStore) : TopologyRunStore :=
  { s with
    items := s.items.map fun key item =>
      if item.state = .running ∧ (s.runs.get key.1).any fun run =>
          discovers run || decide (run.state = .reconciling)
      then { item with state := .queued }
      else item
    runs := s.runs.map fun runID run =>
      if run.state = .importing then
        { run with
          state := if s.hasItem runID then .discovering else .completed, updatedAt := s.now }
      else run }

/-- `RecoverReconciling`, with the runs whose reconciliation is to be resumed. -/
def recoverReconciling (s : TopologyRunStore) : Finset UUID × TopologyRunStore :=
  let runs := s.runs.map fun runID run =>
    if discovers run ∧ s.hasItem runID = true ∧ s.hasOpenItem runID = false then
      { run with state := .reconciling, updatedAt := s.now }
    else run
  (runs.dom.filter fun runID => (runs.get runID).any fun run => decide (run.state = .reconciling),
    { s with runs })

def transitionRun (s : TopologyRunStore) (runID : UUID) (next : TopologyRunState) :
    Except TopologyRunError TopologyRunStore :=
  match s.runs.get runID with
  | none => .error .notFound
  | some run =>
    if validDeviceImportTopologyRunTransition run.state next then
      .ok (s.putRun runID
        { run with
          state := if next = .readyForLayout ∧ run.autoLayoutAllowed = false then .completed else next
          reconcileAttempts := 0 })
    else .error .conflict

/-- `RecordReconciliationFailure`; it reports whether to try again. -/
def recordReconciliationFailure (s : TopologyRunStore) (runID : UUID) :
    Except TopologyRunError (Bool × TopologyRunStore) :=
  match s.runs.get runID with
  | none => .error .notFound
  | some run =>
    if run.state = .reconciling then
      let attempts := run.reconcileAttempts + 1
      let retry := decide (attempts < deviceImportTopologyMaxReconciliationAttempts)
      .ok (retry, s.putRun runID
        { run with
          state := if retry then .reconciling else .failed, reconcileAttempts := attempts })
    else .error .conflict

def setBackgrounded (s : TopologyRunStore) (runID actorUserID : UUID) :
    Except TopologyRunError TopologyRunStore :=
  match s.runs.get runID with
  | none => .error .notFound
  | some run =>
    if run.actorUserID = actorUserID ∧ run.state.active then
      .ok (s.putRun runID
        (if run.state = .failed then
          { run with backgrounded := true, autoLayoutAllowed := false, state := .completed }
        else { run with backgrounded := true }))
    else .error .notFound

def disableAutoLayout (s : TopologyRunStore) (runID actorUserID : UUID) :
    Except TopologyRunError TopologyRunStore :=
  match s.runs.get runID with
  | none => .error .notFound
  | some run =>
    if run.actorUserID = actorUserID ∧ run.state.active then
      .ok (s.putRun runID { run with autoLayoutAllowed := false, state := .completed })
    else .error .notFound

/-- The row that a requeue writes. -/
def requeuedItem (item : TopologyRunItem) : TopologyRunItem :=
  { state := .queued, attempt := item.attempt }

/-- The items of a run that an update with this condition matches. -/
def matching (s : TopologyRunStore) (runID : UUID) (cond : UUID → TopologyRunItem → Bool) :
    Finset UUID :=
  (s.items.dom.filter fun key => key.1 = runID ∧ (s.items.get key).any (cond key.2)).image Prod.snd

/-- The update that queues the matching items of a run. -/
def requeue (s : TopologyRunStore) (runID : UUID) (cond : UUID → TopologyRunItem → Bool) :
    FMap (UUID × UUID) TopologyRunItem :=
  s.items.map fun key item =>
    if key.1 = runID ∧ cond key.2 item = true then requeuedItem item else item

/-- `RequeueFollowupItems`, with the devices it queued. -/
def requeueFollowupItems (s : TopologyRunStore) (runID : UUID) (candidates : List UUID) :
    Except TopologyRunError (Finset UUID × TopologyRunStore) :=
  let deviceIDs := normalizedDeviceImportTopologyUUIDs candidates
  if deviceIDs = ∅ then .ok (∅, s)
  else
    match s.runs.get runID with
    | none => .error .notFound
    | some run =>
      if run.state = .reconciling then
        let cond (deviceID : UUID) (item : TopologyRunItem) : Bool :=
          decide (deviceID ∈ deviceIDs) && decide (item.attempt < 2) && item.state.terminal
        if s.matching runID cond = ∅ then .ok (∅, s)
        else .ok (s.matching runID cond,
          { s.putRun runID { run with state := .followup } with items := s.requeue runID cond })
      else .error .conflict

/-- `RequeueItems`, with the devices it queued: those asked for, or all if none is. -/
def requeueItems (s : TopologyRunStore) (runID actorUserID : UUID) (requested : List UUID) :
    Except TopologyRunError (Finset UUID × TopologyRunStore) :=
  match s.runs.get runID with
  | none => .error .notFound
  | some run =>
    if run.actorUserID ≠ actorUserID then .error .notFound
    else if run.state.active = false ∨ run.state = .importing then .error .conflict
    else
      let deviceIDs := normalizedDeviceImportTopologyUUIDs requested
      let cond (deviceID : UUID) (item : TopologyRunItem) : Bool :=
        decide (deviceIDs = ∅ ∨ deviceID ∈ deviceIDs) &&
          decide (item.state = .warning ∨ item.state = .failed)
      if s.matching runID cond = ∅ then .error .conflict
      else .ok (s.matching runID cond,
        { s.putRun runID { run with state := .discovering } with items := s.requeue runID cond })

end TopologyRunStore

/-- What `ApplyLayout` finds when it compares the token and checks the positions. -/
inductive LayoutVerdict
  | accepted | stale | rejected
  deriving DecidableEq, Repr

namespace TopologyRunStore

/-- `ApplyLayout`; the positions it writes are left out. -/
def applyLayout (s : TopologyRunStore) (runID actorUserID : UUID) (digest : String)
    (verdict : LayoutVerdict) : Except TopologyRunError TopologyRunStore :=
  match s.runs.get runID with
  | none => .error .notFound
  | some run =>
    if run.actorUserID ≠ actorUserID then .error .notFound
    else if run.state = .completed then
      if run.layoutApplicationDigest = digest then .ok s else .error .conflict
    else if run.state ≠ .readyForLayout ∨ run.autoLayoutAllowed = false then .error .conflict
    else
      match verdict with
      | .stale => .error .layoutStale
      | .rejected => .error .conflict
      | .accepted =>
        .ok (s.putRun runID { run with state := .completed, layoutApplicationDigest := digest })

end TopologyRunStore

/-! ### The coordinator -/

/-- `DeviceImportTopologyBootstrapOutcome` -/
structure TopologyBootstrapOutcome where
  discoveryErr : Bool := false
  persistenceErr : Bool := false
  neighborCount : Int := 0
  protocolIssues : Int := 0
  linksCreated : Int := 0
  unresolvedNeighbors : Int := 0
  /-- The reference that is drawn for an error. -/
  reference : String := ""
  deriving DecidableEq, Repr

def classifyDeviceImportTopologyOutcome (outcome : TopologyBootstrapOutcome) :
    TopologyItemCompletion :=
  let completion : TopologyItemCompletion :=
    { state := .succeeded, resultCode := .discovered, message := "Topology discovery completed.",
      neighborCount := max outcome.neighborCount 0
      linksCreated := max outcome.linksCreated 0
      unresolvedNeighbors := max outcome.unresolvedNeighbors 0 }
  if outcome.persistenceErr then
    { completion with
      state := .failed, resultCode := .persistence,
      message := "Discovery data could not be saved.", reference := outcome.reference }
  else if outcome.discoveryErr then
    { completion with
      state := .failed, resultCode := .snmpUnreachable,
      message := "SNMP topology discovery did not complete.", reference := outcome.reference }
  else if outcome.unresolvedNeighbors > 0 then
    { completion with
      state := .warning, resultCode := .unresolvedNeighbors,
      message := "Some discovered neighbors could not be linked automatically." }
  else if outcome.protocolIssues > 0 then
    { completion with
      state := .warning, resultCode := .partialProtocol,
      message := "Topology discovery completed with partial protocol support." }
  else if outcome.neighborCount = 0 then
    { completion with
      state := .warning, resultCode := .noNeighbors,
      message := "No LLDP or CDP neighbors were discovered." }
  else completion

/-- `DeviceImportTopologyReconciliation` -/
structure TopologyReconciliation where
  items : List TopologyItemReconciliation := []
  followupDeviceIDs : List UUID := []
  deriving DecidableEq, Repr

/-- What the configured reconciliation gives; without one there is nothing to apply. -/
inductive ReconcileResult
  | unset
  | error
  | ok (reconciliation : TopologyReconciliation)
  deriving DecidableEq, Repr

namespace TopologyWorker

/-- The call that a worker makes next. -/
inductive Phase
  /-- `CompleteItem`, for the item that `BootstrapStarted` claimed. -/
  | complete (runID deviceID : UUID)
  /-- `TransitionRun` to reconciling, after the last item. -/
  | transition (runID : UUID)
  /-- The loop of `finishReconciliation`. -/
  | reconcile (runID : UUID)
  | apply (runID : UUID) (reconciliation : TopologyReconciliation)
  | followup (runID : UUID) (deviceIDs : List UUID)
  | recordFailure (runID : UUID)
  | ready (runID : UUID)
  | returned
  deriving DecidableEq, Repr

/-- What a call meets: a database error, the outcome of the discovery, and the result of the
reconciliation. -/
structure Input where
  ok : Bool := true
  outcome : TopologyBootstrapOutcome := {}
  reconciled : ReconcileResult := .ok {}
  deriving DecidableEq, Repr

/-- A call fails without effect if the database does. -/
def attempt {α : Type} (input : Input) (result : Except TopologyRunError α) :
    Except TopologyRunError α :=
  if input.ok then result else .error .database

/-- `BootstrapCompleted` and `finishReconciliation`, one repository call at a time. -/
def advance (s : TopologyRunStore) (input : Input) : Phase → TopologyRunStore × Phase
  | .complete runID deviceID =>
    match attempt input (s.completeItem runID deviceID
        (classifyDeviceImportTopologyOutcome input.outcome)) with
    | .ok (allTerminal, s') => (s', if allTerminal then .transition runID else .returned)
    | .error _ => (s, .returned)
  | .transition runID =>
    match attempt input (s.transitionRun runID .reconciling) with
    | .ok s' => (s', .reconcile runID)
    | .error _ => (s, .returned)
  | .reconcile runID =>
    match input.reconciled with
    | .unset => (s, .ready runID)
    | .error => (s, .recordFailure runID)
    | .ok reconciliation => (s, .apply runID reconciliation)
  | .apply runID reconciliation =>
    match attempt input (s.applyReconciliationResults runID reconciliation.items) with
    | .ok s' =>
      (s', if reconciliation.followupDeviceIDs = [] then .ready runID
        else .followup runID reconciliation.followupDeviceIDs)
    | .error _ => (s, .recordFailure runID)
  | .followup runID deviceIDs =>
    match attempt input (s.requeueFollowupItems runID deviceIDs) with
    | .ok (requeued, s') => (s', if requeued = ∅ then .ready runID else .returned)
    | .error _ => (s, .recordFailure runID)
  | .recordFailure runID =>
    match attempt input (s.recordReconciliationFailure runID) with
    | .ok (retry, s') => (s', if retry then .reconcile runID else .returned)
    | .error _ => (s, .returned)
  | .ready runID =>
    match attempt input (s.transitionRun runID .readyForLayout) with
    | .ok s' => (s', .returned)
    | .error _ => (s, .returned)
  | .returned => (s, .returned)

end TopologyWorker

/-! ### The system -/

/-- The store, the workers of the running process, and the runs that its recovery found to be
resumed. -/
structure TopologyRunSystem where
  store : TopologyRunStore := {}
  workers : FMap Nat TopologyWorker.Phase := ∅
  reconcilingRunIDs : Finset UUID := ∅

namespace TopologyRunSystem

open TopologyWorker

inductive Op
  | tick (elapsed : Nat)
  | create (runID mapID actorUserID : UUID)
  | addItem (runID deviceID : UUID) (isMember : Bool)
  | finalizeImport (runID : UUID)
  | failImport (runID : UUID)
  /-- `BootstrapStarted` of a new worker. -/
  | claim (w : Nat) (deviceID runID : UUID)
  | advance (w : Nat) (input : Input)
  | retry (runID actorUserID : UUID) (deviceIDs : List UUID)
  /-- `Continue` -/
  | setBackgrounded (runID actorUserID : UUID)
  | manualEdit (runID actorUserID : UUID)
  | applyLayout (runID actorUserID : UUID) (digest : String) (verdict : LayoutVerdict)
  /-- The process ends, and its workers with it. -/
  | restart
  /-- `PrepareRecovery`, before the pipeline is started. -/
  | recoverInterrupted
  | recoverReconciling
  /-- `ResumeRecovery` of one run. -/
  | resume (w : Nat) (runID : UUID)
  deriving DecidableEq, Repr

/-- The store after a request; an error leaves it as it was. -/
def commit (sys : TopologyRunSystem) (result : Except TopologyRunError TopologyRunStore) :
    TopologyRunSystem :=
  match result with
  | .ok store => { sys with store }
  | .error _ => sys

def step (sys : TopologyRunSystem) : Op → TopologyRunSystem
  | .tick elapsed => { sys with store := { sys.store with now := sys.store.now + elapsed } }
  | .create runID mapID actorUserID => sys.commit (sys.store.create runID mapID actorUserID)
  | .addItem runID deviceID isMember => sys.commit (sys.store.addItem runID deviceID isMember)
  | .finalizeImport runID => sys.commit (sys.store.finalizeImport runID)
  | .failImport runID => sys.commit (sys.store.failImport runID)
  | .claim w deviceID runID =>
    match sys.store.markItemRunning deviceID runID with
    | .ok store =>
      { sys with store, workers := sys.workers.insert w (.complete runID deviceID) }
    | .error _ => sys
  | .advance w input =>
    match sys.workers.get w with
    | none => sys
    | some phase =>
      let (store, phase') := TopologyWorker.advance sys.store input phase
      { sys with store, workers := sys.workers.insert w phase' }
  | .retry runID actorUserID deviceIDs =>
    sys.commit ((sys.store.requeueItems runID actorUserID deviceIDs).map (·.2))
  | .setBackgrounded runID actorUserID => sys.commit (sys.store.setBackgrounded runID actorUserID)
  | .manualEdit runID actorUserID => sys.commit (sys.store.disableAutoLayout runID actorUserID)
  | .applyLayout runID actorUserID digest verdict =>
    sys.commit (sys.store.applyLayout runID actorUserID digest verdict)
  | .restart => { sys with workers := ∅, reconcilingRunIDs := ∅ }
  | .recoverInterrupted => { sys with store := sys.store.recoverInterrupted }
  | .recoverReconciling =>
    { sys with
      store := sys.store.recoverReconciling.2, reconcilingRunIDs := sys.store.recoverReconciling.1 }
  | .resume w runID => { sys with workers := sys.workers.insert w (.reconcile runID) }

/-- A worker is started under a new number, and recovery runs before the workers do. -/
def Op.Valid (sys : TopologyRunSystem) : Op → Prop
  | .claim w _ _ => sys.workers.get w = none
  | .recoverInterrupted | .recoverReconciling => sys.workers = ∅
  | .resume w runID => sys.workers.get w = none ∧ runID ∈ sys.reconcilingRunIDs
  | _ => True

instance (sys : TopologyRunSystem) (op : Op) : Decidable (op.Valid sys) := by
  unfold Op.Valid
  split <;> infer_instance

end TopologyRunSystem

end Theia
