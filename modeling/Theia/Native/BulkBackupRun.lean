import Theia.ForStd.FMap
import Theia.ForStd.Run
import Theia.Native.Basic

/-!
# Bulk backup runs

A bulk run is one row with its items, worked on by a processor that holds a lease on the row:
`bulk_backup_run.go` and the repository under it. Requests to pause, resume and cancel write the
status of the row; a resume or cancel of a paused run starts a new processor.

The repository is modelled statement by statement: every statement of a processor runs in a
transaction that first locks the row and checks the lease, so it is atomic and fails for anyone
but the owner. A processor is at the statement it executes next (`Phase`); what it does between
two statements is part of the step before. `GetRun` is two statements where both are used.

Times are not modelled: a lease is expired or not. Device names, file totals and metrics are
left out.
-/

namespace Theia

/-! ### Rows -/

/-- `domain.BulkBackupRunStatus`; `partialResult` is `"partial"`. -/
inductive BulkBackupRunStatus
  | running | pausing | paused | cancelling | success | partialResult | failed | cancelled
  deriving DecidableEq, Repr

/-- `domain.BulkBackupRunItemStatus` -/
inductive BulkBackupRunItemStatus
  | checking | skipped | active | queued | running | success | failed | cancelled
  deriving DecidableEq, Repr

/-- `domain.BackupStatus`, the status of a backup job. -/
inductive BackupStatus
  | pending | running | success | failed
  deriving DecidableEq, Repr

/-- `domain.BulkBackupRunItem` -/
structure BulkBackupRunItem where
  id : UUID
  status : BulkBackupRunItemStatus
  reason : String := ""
  backupJobID : Option UUID := none
  deriving DecidableEq, Repr

/-- The counters of a run. -/
structure BulkRunCounts where
  total : Nat := 0
  queued : Nat := 0
  success : Nat := 0
  failed : Nat := 0
  skipped : Nat := 0
  cancelled : Nat := 0
  deriving DecidableEq, Repr

/-- `domain.BulkBackupRun` without its items. -/
structure BulkBackupRun where
  status : BulkBackupRunStatus
  batchSize : Int
  counts : BulkRunCounts
  cancelRequested : Bool := false
  deriving DecidableEq, Repr

/-- `domain.BackupJob` -/
structure BackupJob where
  status : BackupStatus
  errorMessage : String := ""
  deriving DecidableEq, Repr

def bulkRunTerminal : BulkBackupRunStatus → Bool
  | .success | .partialResult | .failed | .cancelled => true
  | _ => false

def bulkRunItemTerminal : BulkBackupRunItemStatus → Bool
  | .skipped | .success | .failed | .cancelled => true
  | _ => false

def defaultBulkBackupRunBatchSize : Nat := 10

def nextBulkRunBatch (items : List BulkBackupRunItem) (batchSize : Int) : List BulkBackupRunItem :=
  let batchSize := if batchSize ≤ 0 then defaultBulkBackupRunBatchSize else batchSize.toNat
  (items.filter fun item => !bulkRunItemTerminal item.status).take batchSize

def runningBulkRunItems (items : List BulkBackupRunItem) : List BulkBackupRunItem :=
  items.filter fun item => item.status = .active ∨ item.status = .running

/-- The select of `bulkCountersSQL`. -/
def countItems (items : List BulkBackupRunItem) : BulkRunCounts where
  total := items.length
  queued := items.countP fun item =>
    item.status = .active ∨ item.status = .queued ∨ item.status = .running
  success := items.countP fun item => item.status = .success
  failed := items.countP fun item => item.status = .failed
  skipped := items.countP fun item => item.status = .skipped
  cancelled := items.countP fun item => item.status = .cancelled

/-! ### The repository -/

/-- The tables as far as one bulk run is concerned. -/
structure BulkRunStore where
  run : BulkBackupRun
  /-- `processing_owner`; `none` is the empty string. -/
  processingOwner : Option Nat := none
  /-- `processing_lease_expires_at` is in the past. -/
  leaseExpired : Bool := false
  items : List BulkBackupRunItem
  jobs : FMap UUID BackupJob := ∅

namespace BulkRunStore

/-- Rewrite the item with an ID. -/
def withItem (s : BulkRunStore) (id : UUID) (f : BulkBackupRunItem → BulkBackupRunItem) :
    BulkRunStore :=
  { s with items := s.items.map fun item => if item.id = id then f item else item }

/-- `lockProcessor`: the owner holds the lease. -/
def lockProcessor (s : BulkRunStore) (owner : Nat) : Bool :=
  s.processingOwner = some owner && !s.leaseExpired

/-- `UpdateRun`: a terminal status is not overwritten, a cancel request is not cleared. -/
def updateRun (s : BulkRunStore) (owner : Nat) (run : BulkBackupRun) : Option BulkRunStore :=
  if s.lockProcessor owner then
    if !bulkRunTerminal s.run.status || s.run.status = run.status then
      some { s with run :=
        { run with cancelRequested := s.run.cancelRequested || run.cancelRequested } }
    else some s
  else none

def requestBulkRunPause (s : BulkRunStore) : BulkRunStore :=
  if s.run.status = .running ∧ s.run.cancelRequested = false then
    { s with run := { s.run with status := .pausing } }
  else s

/-- The first statement of `RequestBulkRunResume` and whether it changed the row. -/
def resumePaused (s : BulkRunStore) : BulkRunStore × Bool :=
  if s.run.status = .paused ∧ s.run.cancelRequested = false then
    ({ s with run := { s.run with status := .running } }, true)
  else (s, false)

/-- The second statement of `RequestBulkRunResume`. -/
def resumePausing (s : BulkRunStore) : BulkRunStore :=
  if s.run.status = .pausing ∧ s.run.cancelRequested = false then
    { s with run := { s.run with status := .running } }
  else s

/-- The first statement of `RequestBulkRunCancel` and whether it changed the row. -/
def cancelPaused (s : BulkRunStore) : BulkRunStore × Bool :=
  if s.run.status = .paused then
    ({ s with run := { s.run with status := .cancelling, cancelRequested := true } }, true)
  else (s, false)

/-- The second statement of `RequestBulkRunCancel`. -/
def cancelRunning (s : BulkRunStore) : BulkRunStore :=
  if s.run.status = .running ∨ s.run.status = .pausing ∨ s.run.status = .cancelling then
    { s with run := { s.run with status := .cancelling, cancelRequested := true } }
  else s

/-- The statuses of a run that a processor works on. -/
def processable : BulkBackupRunStatus → Bool
  | .running | .pausing | .cancelling => true
  | _ => false

def tryAcquireBulkRunProcessor (s : BulkRunStore) (owner : Nat) : BulkRunStore × Bool :=
  if processable s.run.status && (s.processingOwner = none || s.leaseExpired) then
    ({ s with processingOwner := some owner, leaseExpired := false }, true)
  else (s, false)

/-- `RefreshBulkRunProcessor`: whether the lease could be renewed. -/
def refreshBulkRunProcessor (s : BulkRunStore) (owner : Nat) : Bool := s.lockProcessor owner

def releaseBulkRunProcessor (s : BulkRunStore) (owner : Nat) : BulkRunStore :=
  if s.processingOwner = some owner then
    { s with processingOwner := none, leaseExpired := false }
  else s

/-- The row that `ClaimBulkRunItem` leaves. -/
def claimedItem (item : BulkBackupRunItem) : BulkBackupRunItem :=
  if item.status = .checking then
    { item with status := .active, reason := "", backupJobID := none }
  else item

/-- The update of `ClaimBulkRunItem` and whether it changed the row. -/
def claimBulkRunItem (s : BulkRunStore) (owner : Nat) (id : UUID) : Option (BulkRunStore × Bool) :=
  if s.lockProcessor owner then
    if s.items.any fun item => item.id = id && item.status = .checking then
      some (s.withItem id claimedItem, true)
    else some (s, false)
  else none

/-- `UpdateRunItem`, with the fields it writes. -/
def updateRunItem (s : BulkRunStore) (owner : Nat) (item : BulkBackupRunItem) :
    Option BulkRunStore :=
  if s.lockProcessor owner && (s.items.any fun row => row.id = item.id) then
    some (s.withItem item.id fun _ => item)
  else none

/-- The update of `RecalculateRunCounters`. -/
def recalculateRunCounters (s : BulkRunStore) (owner : Nat) : Option BulkRunStore :=
  if s.lockProcessor owner then
    some { s with run := { s.run with counts := countItems s.items } }
  else none

def finishBulkRun (s : BulkRunStore) (owner : Nat) (status : BulkBackupRunStatus) :
    Option BulkRunStore :=
  if s.lockProcessor owner then
    if bulkRunTerminal s.run.status then some s
    else some { s with run := { s.run with status := status } }
  else none

/-- `CreateBulkRunJob`: the job and its place in an active item, or neither. -/
def createBulkRunJob (s : BulkRunStore) (owner : Nat) (id jobID : UUID) : Option BulkRunStore :=
  if s.lockProcessor owner && (s.jobs.get jobID).isNone &&
      (s.items.any fun item => item.id = id && item.status = .active && item.backupJobID.isNone) then
    some { s.withItem id fun item => { item with backupJobID := some jobID } with
      jobs := s.jobs.insert jobID { status := .pending } }
  else none

/-- The status and the reason that `ReconcileBulkRunBatchContext` finds for an item: the state of
its job, or that there is none. A pending job says nothing. -/
def jobOutcome (s : BulkRunStore) (item : BulkBackupRunItem) :
    Option (BulkBackupRunItemStatus × String) :=
  match item.backupJobID.bind s.jobs.get with
  | none => some (.failed, "backup job disappeared")
  | some job =>
    match job.status with
    | .pending => none
    | .running => some (.running, "")
    | .success => some (.success, "")
    | .failed => some (.failed, job.errorMessage)

/-- The statuses of an item that has or had a job. -/
def hasJob : BulkBackupRunItemStatus → Bool
  | .active | .queued | .running => true
  | _ => false

/-- The update of `ReconcileBulkRunBatchContext` for one item. -/
def reconcileItem (s : BulkRunStore) (ids : List UUID) (item : BulkBackupRunItem) :
    BulkBackupRunItem :=
  if item.id ∈ ids ∧ hasJob item.status then
    match s.jobOutcome item with
    | none => item
    | some (status, reason) =>
      if item.status = status then item else { item with status := status, reason := reason }
  else item

/-- `ReconcileBulkRunBatchContext`: whether every item of the batch is terminal. -/
def reconcileBulkRunBatch (s : BulkRunStore) (owner : Nat) (ids : List UUID) :
    Option (BulkRunStore × Bool) :=
  if ids = [] then some (s, true)
  else if s.lockProcessor owner then
    let items := s.items.map (s.reconcileItem ids)
    let s' := { s with items := items }
    let s' :=
      if items ≠ s.items then { s' with run := { s'.run with counts := countItems items } } else s'
    let batch := items.filter fun item => item.id ∈ ids
    if batch.length = ids.length then
      some (s', batch.all fun item => bulkRunItemTerminal item.status)
    else none
  else none

/-- The reset of `RecoverBulkRun` for one item. -/
def recoverItem (item : BulkBackupRunItem) : BulkBackupRunItem :=
  if bulkRunItemTerminal item.status then item
  else { item with status := .checking, reason := "", backupJobID := none }

/-- `RecoverBulkRun`: interrupted jobs fail, open items start over, a pausing run is paused. -/
def recoverBulkRun (s : BulkRunStore) (owner : Nat) : Option BulkRunStore :=
  if s.lockProcessor owner then
    let interrupted (jobID : UUID) : Bool := s.items.any fun item =>
      !bulkRunItemTerminal item.status && item.backupJobID = some jobID
    let run :=
      if s.run.status = .pausing then { s.run with status := .paused, cancelRequested := false }
      else s.run
    some { s with
      run := run
      items := s.items.map recoverItem
      jobs := s.jobs.filterMap fun jobID job => some <|
        if interrupted jobID && (job.status = .pending || job.status = .running) then
          { status := .failed, errorMessage := "interrupted by server restart" }
        else job }
  else none

end BulkRunStore

/-! ### A processor -/

namespace BulkRunProcessor

/-- The statement a processor executes next, with its local variables. -/
inductive Phase
  /-- `TryAcquireBulkRunProcessor`, after the go statement. -/
  | acquire (recoverInterrupted : Bool)
  | recover
  /-- `RefreshBulkRunProcessor` at the top of the loop. -/
  | refresh
  /-- The row of the first `GetRun`, then its items. -/
  | readRun
  | readItems (run : BulkBackupRun)
  /-- The second `GetRun` of a pausing run. -/
  | rereadPausing
  /-- `UpdateRun` of the row that was read, as paused. -/
  | pause (latest : BulkBackupRun)
  /-- `UpdateRunItem` in `completeBulkRunItem`. -/
  | complete (item : BulkBackupRunItem) (next : Phase)
  /-- `RecalculateRunCounters` in `recalculateBulkRunCounters`. -/
  | count (next : Phase)
  /-- The `GetRun` after the pending items were cancelled. -/
  | rereadCancelling
  /-- `ClaimBulkRunItem` for the items of the batch that are left. -/
  | claim (batch todo claimed : List UUID)
  /-- The select of `ClaimBulkRunItem`. -/
  | claimRead (batch : List UUID) (id : UUID) (todo claimed : List UUID)
  /-- The lookups for the claimed items that are left. -/
  | check (batch todo candidates : List UUID)
  /-- `CreateBulkRunJob` for the candidates that are left. -/
  | attach (batch todo : List UUID) (created : Bool)
  /-- `waitForBulkRunBatch` -/
  | wait (ids : List UUID)
  /-- The update of `RecalculateRunCounters` in `finishBulkBackupRun`, then its `GetRun`. -/
  | countFinished
  | readFinished
  /-- `FinishBulkRun` -/
  | finish (status : BulkBackupRunStatus)
  /-- The deferred `ReleaseBulkRunProcessor`. -/
  | release
  | returned
  deriving DecidableEq, Repr

/-- What `prepareBulkRunBatch` finds when it looks up a claimed item's device. -/
inductive Verdict
  | candidate
  | deviceError (message : String)
  | offline
  | noProfile
  | unsupported
  deriving DecidableEq, Repr

/-- What a step of a processor depends on apart from the tables. -/
structure Input where
  /-- The statement does not fail. -/
  ok : Bool := true
  verdict : Verdict := .candidate
  reachable : Bool := true
  /-- The ID of a new job. -/
  jobID : UUID := 0
  /-- The text of an error that becomes part of a reason. -/
  message : String := ""
  /-- The deadline of the batch has passed. -/
  timeout : Bool := false
  /-- It is time to renew the lease while waiting. -/
  renew : Bool := false
  deriving DecidableEq, Repr

/-- The item that `completeBulkRunItem` writes. -/
def completedItem (id : UUID) (status : BulkBackupRunItemStatus) (reason : String) :
    BulkBackupRunItem :=
  { id := id, status := status, reason := reason }

/-- `cancelPendingBulkRunItems` and what follows it. -/
def cancelPendingBulkRunItems : List BulkBackupRunItem → Phase
  | [] => .count .rereadCancelling
  | item :: items =>
    if bulkRunItemTerminal item.status ∨ item.status = .active ∨ item.status = .running then
      cancelPendingBulkRunItems items
    else
      .complete (completedItem item.id .cancelled "bulk backup cancelled")
        (cancelPendingBulkRunItems items)

/-- The loop body of `processAcquiredBulkRun` once the run is read. -/
def processRun (run : BulkBackupRun) (items : List BulkBackupRunItem) : Phase :=
  if bulkRunTerminal run.status then .release
  else if run.status = .paused then .release
  else if run.status = .pausing then .rereadPausing
  else if run.cancelRequested then cancelPendingBulkRunItems items
  else
    match nextBulkRunBatch items run.batchSize with
    | [] => .countFinished
    | batch => .claim (batch.map (·.id)) (batch.map (·.id)) []

/-- The status and the reason with which `prepareBulkRunBatch` completes an item at once. -/
def Verdict.outcome : Verdict → Option (BulkBackupRunItemStatus × String)
  | .candidate => none
  | .deviceError message => some (.failed, "getting device: " ++ message)
  | .offline => some (.skipped, "device offline")
  | .noProfile => some (.skipped, "no credential profile assigned")
  | .unsupported => some (.skipped, "backup not supported for vendor")

/-- The status that `finishBulkBackupRun` gives a run. -/
def finishStatus (run : BulkBackupRun) : BulkBackupRunStatus :=
  if run.cancelRequested ∨ 0 < run.counts.cancelled then
    if 0 < run.counts.success ∨ 0 < run.counts.failed ∨ 0 < run.counts.skipped then .partialResult
    else .cancelled
  else if 0 < run.counts.total ∧ run.counts.success = run.counts.total then .success
  else if 0 < run.counts.success ∨ 0 < run.counts.skipped then .partialResult
  else .failed

/-- The result of a statement, or `none` if it fails. -/
def attempt {α : Type} (input : Input) (result : Option α) : Option α :=
  if input.ok then result else none

/-- One statement of a processor: `processBulkBackupRun` and the functions it calls. -/
def advance (s : BulkRunStore) (p : Nat) (input : Input) : Phase → BulkRunStore × Phase
  | .acquire recoverInterrupted =>
    if input.ok then
      match s.tryAcquireBulkRunProcessor p with
      | (s, true) => (s, if recoverInterrupted then .recover else .refresh)
      | (s, false) => (s, .returned)
    else (s, .returned)
  | .recover =>
    match attempt input (s.recoverBulkRun p) with
    | some s => (s, .refresh)
    | none => (s, .release)
  | .refresh => (s, if input.ok && s.refreshBulkRunProcessor p then .readRun else .release)
  | .readRun => (s, if input.ok then .readItems s.run else .release)
  | .readItems run => (s, if input.ok then processRun run s.items else .release)
  | .rereadPausing =>
    (s, if !input.ok then .release
      else if s.run.status = .pausing then .pause s.run else .refresh)
  | .pause latest =>
    ((attempt input (s.updateRun p { latest with status := .paused })).getD s, .release)
  | .complete item next =>
    match attempt input (s.updateRunItem p item) with
    | some s => (s, .count next)
    | none => (s, next)
  | .count next => ((attempt input (s.recalculateRunCounters p)).getD s, next)
  | .rereadCancelling =>
    (s, if !input.ok then .release
      else if runningBulkRunItems s.items = [] then .countFinished
      else .wait ((runningBulkRunItems s.items).map (·.id)))
  | .claim batch [] claimed =>
    (s, if claimed = [] then .check batch [] [] else .count (.check batch claimed []))
  | .claim batch (id :: todo) claimed =>
    match attempt input (s.claimBulkRunItem p id) with
    | some (s, true) => (s, .claimRead batch id todo claimed)
    | some (s, false) => (s, .claim batch todo claimed)
    | none => (s, .claim batch todo claimed)
  | .claimRead batch id todo claimed =>
    (s, .claim batch todo (if input.ok then claimed ++ [id] else claimed))
  | .check batch [] candidates => (s, .attach batch candidates false)
  | .check batch (id :: todo) candidates =>
    match input.verdict.outcome with
    | some (status, reason) =>
      (s, .complete (completedItem id status reason) (.check batch todo candidates))
    | none => (s, .check batch todo (candidates ++ [id]))
  | .attach batch [] created => (s, if created then .count (.wait batch) else .wait batch)
  | .attach batch (id :: todo) created =>
    if !input.reachable then
      (s, .complete (completedItem id .skipped "device unreachable") (.attach batch todo created))
    else
      match attempt input (s.createBulkRunJob p id input.jobID) with
      | some s => (s, .attach batch todo true)
      | none =>
        (s, .complete (completedItem id .failed ("failed to create or attach job: " ++ input.message))
          (.attach batch todo created))
  | .wait ids =>
    if input.timeout then (s, .release)
    else if input.renew then
      (s, if input.ok && s.refreshBulkRunProcessor p then .wait ids else .release)
    else
      match attempt input (s.reconcileBulkRunBatch p ids) with
      | some (s, true) => (s, .refresh)
      | some (s, false) => (s, .wait ids)
      | none => (s, .release)
  | .countFinished =>
    match attempt input (s.recalculateRunCounters p) with
    | some s => (s, .readFinished)
    | none => (s, .release)
  | .readFinished => (s, if input.ok then .finish (finishStatus s.run) else .release)
  | .finish status => ((attempt input (s.finishBulkRun p status)).getD s, .release)
  | .release => (if input.ok then s.releaseBulkRunProcessor p else s, .returned)
  | .returned => (s, .returned)

end BulkRunProcessor

/-! ### Processors and requests together -/

open BulkRunProcessor

/-- A bulk run with the processors started for it and the requests between their two
statements. -/
structure BulkRunSystem where
  store : BulkRunStore
  processors : FMap Nat Phase := ∅
  resuming : Nat := 0
  cancelling : Nat := 0

namespace BulkRunSystem

/-- A statement of a processor or of a request, or something that happens to the tables. -/
inductive Op
  | advance (p : Nat) (input : Input)
  /-- `PauseBulkBackupRun` -/
  | pause
  /-- `ResumeBulkBackupRun` up to its first statement, with the processor it may start. -/
  | resume (p : Nat)
  | resumeAgain
  /-- `CancelBulkBackupRun` up to its first statement, with the processor it may start. -/
  | cancel (p : Nat)
  | cancelAgain
  /-- `ResumeBulkBackupRuns` after a restart of the server. -/
  | restart (p : Nat)
  /-- The lease runs out. -/
  | expire
  /-- A backup worker reports on a job. -/
  | reportJob (jobID : UUID) (job : BackupJob)
  /-- A job is deleted, and with it the references to it. -/
  | deleteJob (jobID : UUID)
  deriving DecidableEq

/-- The effect of one step. -/
def step (sys : BulkRunSystem) : Op → BulkRunSystem
  | .advance p input =>
    match sys.processors.get p with
    | none => sys
    | some phase =>
      let (store, phase) := BulkRunProcessor.advance sys.store p input phase
      { sys with store := store, processors := sys.processors.insert p phase }
  | .pause => { sys with store := sys.store.requestBulkRunPause }
  | .resume p =>
    match sys.store.resumePaused with
    | (store, true) =>
      { sys with store := store, processors := sys.processors.insert p (.acquire false) }
    | (store, false) => { sys with store := store, resuming := sys.resuming + 1 }
  | .resumeAgain =>
    { sys with store := sys.store.resumePausing, resuming := sys.resuming - 1 }
  | .cancel p =>
    match sys.store.cancelPaused with
    | (store, true) =>
      { sys with store := store, processors := sys.processors.insert p (.acquire false) }
    | (store, false) => { sys with store := store, cancelling := sys.cancelling + 1 }
  | .cancelAgain =>
    { sys with store := sys.store.cancelRunning, cancelling := sys.cancelling - 1 }
  | .restart p =>
    if BulkRunStore.processable sys.store.run.status then
      { sys with processors := sys.processors.insert p (.acquire true) }
    else sys
  | .expire => { sys with store := { sys.store with leaseExpired := true } }
  | .reportJob jobID job =>
    { sys with store := { sys.store with jobs := sys.store.jobs.insert jobID job } }
  | .deleteJob jobID =>
    { sys with store :=
      { sys.store with
        jobs := sys.store.jobs.erase jobID
        items := sys.store.items.map fun item =>
          if item.backupJobID = some jobID then { item with backupJobID := none } else item } }

/-- The steps that can be taken: a started processor is a new one, and a request executes its
second statement after its first. -/
def Op.Valid (sys : BulkRunSystem) : Op → Prop
  | .resume p | .cancel p | .restart p => sys.processors.get p = none
  | .resumeAgain => 0 < sys.resuming
  | .cancelAgain => 0 < sys.cancelling
  | .expire => sys.store.processingOwner ≠ none
  | .advance _ _ | .pause | .reportJob _ _ | .deleteJob _ => True

instance (sys : BulkRunSystem) (op : Op) : Decidable (op.Valid sys) := by
  unfold Op.Valid
  split <;> infer_instance

/-- The state after `StartBulkBackupRun`: some devices are offline, the rest is to be checked,
and the first processor is started. -/
def IsStarted (sys : BulkRunSystem) : Prop :=
  ∃ (items : List BulkBackupRunItem) (jobs : FMap UUID BackupJob),
    (items.map (·.id)).Nodup ∧
    (∀ item ∈ items, item.status = .checking ∨ item.status = .skipped) ∧
    sys =
      { store :=
          { run :=
              { status := .running, batchSize := defaultBulkBackupRunBatchSize,
                counts := countItems items }
            items := items
            jobs := jobs }
        processors := FMap.insert ∅ 0 (.acquire false) }

end BulkRunSystem

end Theia
