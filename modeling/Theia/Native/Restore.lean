import Theia.ForStd.CrashLogic
import Theia.Native.Basic

/-!
# Staging and applying a restore

The last part of `ValidateAndStageRestoreWithKeysContext` of
`internal/service/instance_backup_service.go`, which stages a validated archive, and
`ApplyPendingRestore` of `internal/service/restore_coordinator.go` with `restore_marker.go`,
`restore_staging_validation.go`, `restore_optional_artifacts.go` and
`postgres_cli_invocation.go`. The completion verifier is the one of `cmd/theia/main.go`.

Every call to the operating system, to a PostgreSQL tool or to the database is a primitive step,
which works, fails or takes the process down (`Proc`). What a step can leave behind if it does not
work is stated with the step: `pg_dump` and file copies write in place, the JSON files are
published by a rename, a transaction may have been committed.

The files are known by their role and not by their path, so the paths of the live targets do not
overlap with the state directory's own files. Times, the texts that the status shows to the
operator and the test hook are left out.
-/

namespace Theia.Restore

/-! ### Paths -/

/-- One element of a path in `filepath.Clean`; `out` is the path so far, last element first. -/
def cleanElement (rooted : Bool) (out : List (List Char)) (element : List Char) :
    List (List Char) :=
  if element = [] || element = ['.'] then out
  else if element = ['.', '.'] then
    match out with
    | [] => if rooted then [] else [element]
    | last :: rest => if last = ['.', '.'] then element :: out else rest
  else element :: out

/-- `filepath.Clean` -/
def clean (path : String) : String :=
  let rooted := path.toList.head? = some '/'
  let elements := ((path.toList.splitOn '/').foldl (cleanElement rooted) []).reverse
  let joined := List.intercalate ['/'] elements
  if rooted then String.ofList ('/' :: joined)
  else if joined = [] then "." else String.ofList joined

/-- `filepath.Join` -/
def join (elements : List String) : String :=
  match elements.dropWhile (· = "") with
  | [] => ""
  | elements => clean (String.ofList (List.intercalate ['/'] (elements.map String.toList)))

/-! ### Files -/

/-- What a file or a directory holds: everything that was written to it, or something else, which
may have been cut off. -/
inductive Stored (α : Type)
  | whole (content : α)
  | part (bytes : Nat)
  deriving DecidableEq

/-- An entry of the file system: of the expected kind, or a symlink or an entry of another kind. -/
inductive Node (α : Type)
  | regular (content : α)
  | irregular
  deriving DecidableEq

/-- The optional artifacts: the device backup directory and the known-hosts file. -/
inductive Artifact
  | backups | knownHosts
  deriving DecidableEq

/-- The directory `.restore-staging`. -/
structure Staging (DB Content : Type) where
  /-- `database.dump` -/
  db : Option (Node (Stored DB)) := none
  artifacts : Artifact → Option (Node (Stored Content)) := fun _ => none

/-- A live target with its `.restore-tmp` and `.restore-old`. -/
structure Target (Content : Type) where
  current : Option (Node (Stored Content)) := none
  tmp : Option (Node (Stored Content)) := none
  old : Option (Node (Stored Content)) := none

/-! ### Marker and status -/

/-- `restoreOperationPhase` -/
inductive RestorePhase
  | validationPassed | stagedRestartPending | startupRestoreDetected | applyingPostgres
  | postgresApplied | verifyingKeyring | runningCredentialRewrap | completed | failedRetryable
  | failedOperatorActionRequired
  deriving DecidableEq

/-- `restoreMarker`; a phase that is not set is `none`. -/
structure RestoreMarker where
  stagedDB : String
  stagedBackups : String
  stagedKnownHosts : String
  stateDir : String
  deviceBackupDir : String
  knownHostsPath : String
  operationID : String := ""
  phase : Option RestorePhase := none
  attemptCount : Nat := 0
  deriving DecidableEq

/-- The staged path of an artifact. -/
def RestoreMarker.staged (marker : RestoreMarker) : Artifact → String
  | .backups => marker.stagedBackups
  | .knownHosts => marker.stagedKnownHosts

/-- The live path of an artifact. -/
def RestoreMarker.target (marker : RestoreMarker) : Artifact → String
  | .backups => marker.deviceBackupDir
  | .knownHosts => marker.knownHostsPath

structure RestoreOperationStatus where
  operationID : String
  phase : Option RestorePhase
  attemptCount : Nat
  deriving DecidableEq

def restoreOperationStatusFromMarker (marker : RestoreMarker) : RestoreOperationStatus where
  operationID := marker.operationID
  phase := marker.phase
  attemptCount := marker.attemptCount

/-- `updateRestoreOperationFields`; `newID` is what `uuid.NewString` makes. -/
def updateRestoreOperationFields (newID : String) (marker : RestoreMarker) (phase : RestorePhase) :
    RestoreMarker :=
  { marker with
    operationID := if marker.operationID = "" then newID else marker.operationID
    phase := some phase }

/-! ### The world of a restore -/

/-- The moment at which an attempt begins to overwrite the database: the operation, and the
database and the file `postgres.pre-restore.dump` as they are then. -/
structure Overwrite (DB : Type) where
  operationID : String
  live : DB
  dump : Option (Stored DB)
  deriving DecidableEq

/-- The database and the files that a restore reads and writes. -/
structure World (DB Content : Type) where
  live : DB
  /-- `postgres.pre-restore.dump` -/
  preRestoreDump : Option (Stored DB) := none
  staging : Option (Node (Staging DB Content)) := none
  /-- `.theia-restore-pending` -/
  marker : Option RestoreMarker := none
  /-- `.theia-restore-status.json` -/
  status : Option RestoreOperationStatus := none
  targets : Artifact → Target Content := fun _ => {}
  /-- The history of the attempts that began to overwrite the database. -/
  overwrites : List (Overwrite DB) := []

/-- What PostgreSQL and the verifier do to the contents of the database. -/
structure Postgres (DB : Type) where
  /-- The database after its public schema has been dropped and created. -/
  emptySchema : DB
  /-- `postgres.RunMigrations`, with the credential rewrap. -/
  runMigrations : DB → DB
  /-- What migrations leave that did not get to their end. -/
  interruptedMigrations : Nat → DB → DB
  revokeAllSessions : DB → DB

structure RestoreCoordinator where
  stateDir : String
  dbDSN : String
  deviceBackupDir : String
  knownHostsPath : String
  /-- A completion verifier is set. -/
  verifier : Bool

/-- `NewRestoreCoordinatorWithDSN`, and `SetCompletionVerifier` if there is a verifier. -/
def newRestoreCoordinatorWithDSN (stateDir dbDSN deviceBackupDir knownHostsPath : String)
    (verifier : Bool) : RestoreCoordinator :=
  { stateDir, dbDSN := trimSpace dbDSN, deviceBackupDir, knownHostsPath, verifier }

/-- The calls that look for the PostgreSQL tools. -/
inductive ToolCall
  | preflight | preRestoreDump | restore | retryDump
  deriving DecidableEq

/-- The places that look at an entry of the staging directory. -/
inductive Site
  | layout | restore | activation | replacement | retry
  deriving DecidableEq

/-- The primitive steps. A step happens at most once in an attempt. -/
inductive Step
  | readMarker
  | lstatStagingDir (site : Site)
  | lstatStagedDB (site : Site)
  | lstatStaged (site : Site) (artifact : Artifact)
  | writeMarker (phase : RestorePhase)
  | writeStatus (phase : RestorePhase)
  | lookForTools (call : ToolCall)
  | connInfo (call : ToolCall)
  | statPreRestoreDump
  | pgDump (call : ToolCall)
  | terminateConnections
  | dropSchema
  | pgRestore
  | loadKeyring
  | openRestoredDatabase
  | runMigrations
  | revokeAllSessions
  | lstatActivation (artifact : Artifact)
  | lstatLive (artifact : Artifact)
  | removeTmp (artifact : Artifact)
  | removeOld (artifact : Artifact)
  | copyStaged (artifact : Artifact)
  | statLive (artifact : Artifact)
  | moveLiveAside (artifact : Artifact)
  | activate (artifact : Artifact)
  | putBack (artifact : Artifact)
  | discardTmp (artifact : Artifact)
  | discardOld (artifact : Artifact)
  | removeMarker
  | removeStaging
  | createStaging
  | stageDB
  | stageArtifact (artifact : Artifact)
  | stageContext
  | cleanupStaging
  | cleanupMarker
  deriving DecidableEq

/-- A program of the restore code; an error is its text. -/
abbrev Prog (DB Content : Type) := Proc Step String (World DB Content)

section Programs

variable {DB Content : Type} {α : Type}

/-- `fmt.Errorf` with a text before the wrapped error. -/
def wrap (text : String) (p : Prog DB Content α) : Prog DB Content α :=
  p.handle fun err => Proc.fail (text ++ err)

/-- What the operating system says about an entry that does not exist. -/
def notExist : String := "no such file or directory"

/-! ### Marker and status files -/

/-- `writeRestoreJSONFileAtomic` of the marker, which is published by a rename; what comes after
the rename can still fail. -/
def publishMarker (marker : RestoreMarker) (phase : RestorePhase) : Prog DB Content PUnit :=
  Proc.perform (.writeMarker phase) (fun w => { w with marker := some marker })
    fun _ w => { w with marker := some marker }

def writeRestoreMarker (newID : String) (marker : RestoreMarker) : Prog DB Content PUnit :=
  let phase := marker.phase.getD .validationPassed
  publishMarker (updateRestoreOperationFields newID marker phase) phase

def writeRestoreOperationStatus (status : RestoreOperationStatus) : Prog DB Content PUnit :=
  if status.operationID = "" then Proc.fail "restore operation status missing operation_id"
  else
    match status.phase with
    | none => Proc.fail "restore operation status missing phase"
    | some phase =>
      Proc.perform (.writeStatus phase) (fun w => { w with status := some status })
        fun _ w => { w with status := some status }

/-- `persistRestoreStatus`, with the marker as it is afterwards. -/
def persistRestoreStatus (newID : String) (marker : RestoreMarker) (phase : RestorePhase) :
    Prog DB Content RestoreMarker := do
  let marker := updateRestoreOperationFields newID marker phase
  Proc.onlyIf (phase ≠ .completed) (writeRestoreMarker newID marker)
  writeRestoreOperationStatus (restoreOperationStatusFromMarker marker)
  return marker

def readRestoreMarker : Prog DB Content (Option RestoreMarker) := do
  wrap "read restore marker: " (Proc.check .readMarker)
  match ← Proc.look World.marker with
  | none => return none
  | some marker =>
    if marker.stagedDB = "" then Proc.fail "restore marker missing staged_db"
    else return some marker

def removeRestoreMarker : Prog DB Content PUnit :=
  wrap "remove restore marker: "
    (Proc.perform .removeMarker (fun w => { w with marker := none }) fun _ w => w)

/-! ### Validation -/

/-- `Lstat` of an entry: an error, or whether it exists; `kind` is the error for an entry of
another kind. -/
def lstat {β : Type} (step : Step) (text kind : String) (entry : World DB Content → Option (Node β)) :
    Prog DB Content Bool := do
  wrap text (Proc.check step)
  match ← Proc.look entry with
  | none => return false
  | some .irregular => Proc.fail kind
  | some (.regular _) => return true

def validateRestoreStagingDir (site : Site) : Prog DB Content PUnit := do
  let found ← lstat (.lstatStagingDir site) "stat restore staging dir: "
    "restore staging dir must be a directory" World.staging
  Proc.require found ("stat restore staging dir: " ++ notExist)

/-- The staging directory, if it is one. -/
def stagingDir (w : World DB Content) : Staging DB Content :=
  match w.staging with
  | some (.regular staging) => staging
  | _ => {}

def validateStagedDBFile (site : Site) : Prog DB Content PUnit := do
  let found ← lstat (.lstatStagedDB site) "stat staged db: " "staged db must be a regular file"
    fun w => (stagingDir w).db
  Proc.require found ("stat staged db: " ++ notExist)

/-- `validateOptionalStagedBackupDir` and `validateOptionalStagedKnownHosts`: whether the entry is
there. -/
def validateOptionalStaged (site : Site) : Artifact → Prog DB Content Bool
  | .backups =>
    lstat (.lstatStaged site .backups) "stat staged backup dir: "
      "staged backup dir must be a directory" fun w => (stagingDir w).artifacts .backups
  | .knownHosts =>
    lstat (.lstatStaged site .knownHosts) "stat staged known_hosts: "
      "staged known_hosts must be a regular file" fun w => (stagingDir w).artifacts .knownHosts

/-- `validateLiveRestoreBackupDir` and `validateLiveRestoreKnownHosts` -/
def validateLiveRestore : Artifact → Prog DB Content Bool
  | .backups =>
    lstat (.lstatLive .backups) "stat live backup dir: " "live backup dir must be a directory"
      fun w => (w.targets .backups).current
  | .knownHosts =>
    lstat (.lstatLive .knownHosts) "stat live known_hosts: " "live known_hosts must be a regular file"
      fun w => (w.targets .knownHosts).current

/-- `filepath.Join(stateDir, ".restore-staging")` -/
def stagingPath (stateDir : String) : String := join [stateDir, ".restore-staging"]

/-- The name of an entry of the staging directory. -/
def stagedName : Artifact → String
  | .backups => "backups"
  | .knownHosts => "known_hosts"

def validateRestoreMarkerRuntimeTargets (c : RestoreCoordinator) (marker : RestoreMarker) :
    Prog DB Content PUnit :=
  Proc.require (clean marker.stateDir = clean c.stateDir ∧
      clean marker.deviceBackupDir = clean c.deviceBackupDir ∧
      clean marker.knownHostsPath = clean c.knownHostsPath)
    "restore marker targets do not match runtime paths"

/-- The check of one artifact in `validateRestoreStagingLayout`. -/
def validateStagedPath (c : RestoreCoordinator) (marker : RestoreMarker) (artifact : Artifact) :
    Prog DB Content PUnit :=
  Proc.onlyIf (marker.staged artifact ≠ "") do
    Proc.require (marker.staged artifact = join [stagingPath c.stateDir, stagedName artifact])
      ("restore marker staged " ++ stagedName artifact ++
        " path does not match runtime staging path")
    let _ ← validateOptionalStaged .layout artifact

def validateRestoreStagingLayout (c : RestoreCoordinator) (marker : RestoreMarker) :
    Prog DB Content PUnit := do
  validateRestoreStagingDir .layout
  Proc.require (marker.stagedDB = join [stagingPath c.stateDir, "database.dump"])
    "restore marker staged db path does not match runtime staging path"
  validateStagedDBFile .layout
  validateStagedPath c marker .backups
  validateStagedPath c marker .knownHosts

def validatePendingRestoreMarker (c : RestoreCoordinator) (marker : RestoreMarker) :
    Prog DB Content PUnit := do
  validateRestoreMarkerRuntimeTargets c marker
  validateRestoreStagingLayout c marker

/-! ### PostgreSQL -/

/-- What `runPostgresDump` and `runPostgresRestore` check before they run a tool. -/
def prepareTool (c : RestoreCoordinator) (call : ToolCall) (missing : String) :
    Prog DB Content PUnit := do
  Proc.require (trimSpace c.dbDSN ≠ "") missing
  Proc.check (.lookForTools call)
  wrap "build postgres conninfo: " (Proc.check (.connInfo call))

/-- `runPostgresDump` onto the file that `put` writes. The tool writes in place. -/
def runPostgresDump (c : RestoreCoordinator) (call : ToolCall)
    (put : Stored DB → World DB Content → World DB Content) : Prog DB Content PUnit := do
  prepareTool c call "postgres backup requires db_dsn"
  wrap "pg_dump failed: "
    (Proc.perform (.pgDump call) (fun w => put (.whole w.live) w) fun n w => put (.part n) w)

def backupLiveDB (c : RestoreCoordinator) : Prog DB Content PUnit := do
  wrap "stat existing db backup: " (Proc.check .statPreRestoreDump)
  match ← Proc.look World.preRestoreDump with
  | some _ => return ⟨⟩
  | none =>
    wrap "backup current db: "
      (runPostgresDump c .preRestoreDump fun dump w => { w with preRestoreDump := some dump })

/-- Drop and create the public schema, in one transaction. -/
def dropSchema (pg : Postgres DB) (operationID : String) : Prog DB Content PUnit := do
  -- the attempt begins to overwrite the database here
  Proc.perform .dropSchema
    (fun w => { w with
      live := pg.emptySchema
      overwrites := w.overwrites ++ [⟨operationID, w.live, w.preRestoreDump⟩] })
    (fun _ w => { w with
      live := pg.emptySchema
      overwrites := w.overwrites ++ [⟨operationID, w.live, w.preRestoreDump⟩] })

/-- `pg_restore` of the staged dump, in one transaction. A dump that was cut off is rejected. -/
def pgRestore : Prog DB Content PUnit := do
  match ← Proc.look fun w => (stagingDir w).db with
  | some (.regular (.whole db)) =>
    Proc.perform .pgRestore (fun w => { w with live := db }) fun _ w => { w with live := db }
  | _ => Proc.fail "input file does not appear to be a valid archive"

def runPostgresRestore (c : RestoreCoordinator) (pg : Postgres DB) (operationID : String) :
    Prog DB Content PUnit := do
  prepareTool c .restore "postgres restore requires db_dsn"
  wrap "terminate postgres sessions: " (Proc.check .terminateConnections)
  validateStagedDBFile .restore
  wrap "clean postgres schema before restore: " (dropSchema pg operationID)
  wrap "restore postgres database: " pgRestore

/-! ### Verification -/

/-- The completion verifier, with the marker as its phase reports leave it. -/
def verifyRestore (pg : Postgres DB) (newID : String) (marker : RestoreMarker) :
    Prog DB Content RestoreMarker := do
  let marker ← persistRestoreStatus newID marker .verifyingKeyring
  wrap "load restore credential keyring: " (Proc.check .loadKeyring)
  wrap "open restored database for credential lifecycle verification: "
    (Proc.check .openRestoredDatabase)
  let marker ← persistRestoreStatus newID marker .runningCredentialRewrap
  wrap "run credential lifecycle migrations after restore: "
    (Proc.perform .runMigrations (fun w => { w with live := pg.runMigrations w.live })
      fun n w => { w with live := pg.interruptedMigrations n w.live })
  wrap "revoke restored login sessions: "
    (Proc.perform .revokeAllSessions (fun w => { w with live := pg.revokeAllSessions w.live })
      fun _ w => { w with live := pg.revokeAllSessions w.live })
  return marker

/-- `sub` occurs in `text`. -/
def contains (text sub : List Char) : Bool := text.tails.any fun rest => sub.isPrefixOf rest

/-- A match of `key id "([^"]+)".*not configured` at the start of a text. -/
def missingKeyAt (text : List Char) : Option String :=
  if "key id \"".toList.isPrefixOf text then
    let rest := text.drop 8
    let name := rest.takeWhile (· ≠ '"')
    match rest.dropWhile (· ≠ '"') with
    | [] => none
    | _ :: tail =>
      if name ≠ [] && contains (tail.takeWhile (· ≠ '\n')) "not configured".toList then
        some (String.ofList name)
      else none
  else none

def restoreMissingKeyIDFromError (message : String) : String :=
  match message.toList.tails.findSome? missingKeyAt with
  | some keyID => keyID
  | none =>
    if contains message.toList "legacy ciphertext cannot be decrypted".toList ||
        contains message.toList "encrypted-looking value cannot be decrypted".toList then "legacy"
    else ""

/-- Persist a failed attempt as well as possible, and report its error. -/
def failAttempt (newID : String) (marker : RestoreMarker) (phase : RestorePhase) (err : String) :
    Prog DB Content α := do
  (persistRestoreStatus newID marker phase).ignore
  Proc.fail err

/-- What `ApplyPendingRestore` does with an error of the verifier. The advice that
`restoreMissingKeyOperatorError` adds to the error is left out. -/
def verificationFailed (newID : String) (marker : RestoreMarker) (err : String) :
    Prog DB Content α :=
  if restoreMissingKeyIDFromError err ≠ "" then
    failAttempt newID marker .failedOperatorActionRequired err
  else failAttempt newID marker .failedRetryable err

/-- Run the completion verifier, if one is set. -/
def runVerifier (c : RestoreCoordinator) (pg : Postgres DB) (newID : String)
    (marker : RestoreMarker) : Prog DB Content RestoreMarker :=
  if c.verifier then (verifyRestore pg newID marker).handle (verificationFailed newID marker)
  else pure marker

/-! ### Optional artifacts -/

/-- Change a live target. -/
def World.setTarget (w : World DB Content) (artifact : Artifact)
    (f : Target Content → Target Content) : World DB Content :=
  { w with targets := Function.update w.targets artifact (f (w.targets artifact)) }

/-- What a removal that did not get to its end leaves: a directory may have lost entries, a file is
there or not. -/
def partlyRemoved (artifact : Artifact) (n : Nat) (entry : Option (Node (Stored Content))) :
    Option (Node (Stored Content)) :=
  match artifact with
  | .backups => entry.map fun _ => .regular (.part n)
  | .knownHosts => entry

/-- Remove the `.restore-tmp` of a target. -/
def removeTmp (step : Step) (artifact : Artifact) : Prog DB Content PUnit :=
  Proc.perform step (fun w => w.setTarget artifact fun t => { t with tmp := none })
    fun n w => w.setTarget artifact fun t => { t with tmp := partlyRemoved artifact n t.tmp }

/-- Remove the `.restore-old` of a target. -/
def removeOld (step : Step) (artifact : Artifact) : Prog DB Content PUnit :=
  Proc.perform step (fun w => w.setTarget artifact fun t => { t with old := none })
    fun n w => w.setTarget artifact fun t => { t with old := partlyRemoved artifact n t.old }

/-- `copyFileForRestore` and `copyDirForRestore` from the staging directory to `.restore-tmp`. -/
def copyStaged (artifact : Artifact) : Prog DB Content PUnit := do
  match ← Proc.look fun w : World DB Content => (stagingDir w).artifacts artifact with
  | some (.regular content) =>
    Proc.perform (.copyStaged artifact)
      (fun w => w.setTarget artifact fun t => { t with tmp := some (.regular content) })
      fun n w => w.setTarget artifact fun t => { t with tmp := some (.regular (.part n)) }
  | some .irregular => Proc.fail "restore directory entry must be a regular file or directory"
  | none => Proc.fail notExist

/-- What the errors call an artifact that is replaced. -/
def replacedName : Artifact → String
  | .backups => "dir"
  | .knownHosts => "file"

/-- Rename `.restore-tmp` to the live target; if that fails, rename the previous one back. -/
def activate (artifact : Artifact) (movedExisting : Bool) : Prog DB Content PUnit :=
  (Proc.perform (.activate artifact)
      (fun w => w.setTarget artifact fun t => { t with current := t.tmp, tmp := none })
      fun _ w => w).handle fun err => do
    Proc.onlyIf movedExisting
      ((Proc.perform (.putBack artifact)
          (fun w => w.setTarget artifact fun t => { t with current := t.old, old := none })
          fun _ w => w).handle fun restoreErr =>
        Proc.fail ("activate staged restore " ++ replacedName artifact ++ ": " ++ err ++
          " (restore previous " ++ replacedName artifact ++ ": " ++ restoreErr ++ ")"))
    (removeTmp (.discardTmp artifact) artifact).ignore
    Proc.fail err

/-- `replaceFileForRestore` and `replaceDirForRestore` -/
def replaceForRestore (artifact : Artifact) : Prog DB Content PUnit := do
  let _ ← validateOptionalStaged .replacement artifact
  removeTmp (.removeTmp artifact) artifact
  removeOld (.removeOld artifact) artifact
  copyStaged artifact
  let discard : String → Prog DB Content PUnit := fun err => do
    (removeTmp (.discardTmp artifact) artifact).ignore
    Proc.fail err
  (Proc.check (.statLive artifact)).handle discard
  match ← Proc.look fun w : World DB Content => (w.targets artifact).current with
  | some _ =>
    (Proc.perform (.moveLiveAside artifact)
      (fun w => w.setTarget artifact fun t => { t with current := none, old := t.current })
      fun _ w => w).handle discard
    activate artifact true
    (removeOld (.discardOld artifact) artifact).ignore
  | none => activate artifact false

def replaceDirForRestore : Prog DB Content PUnit := replaceForRestore .backups

def replaceFileForRestore : Prog DB Content PUnit := replaceForRestore .knownHosts

/-- The common part of `activateOptionalStagedBackupDir` and `activateOptionalStagedKnownHosts`;
`name` is the artifact in their errors. -/
def activateOptionalStaged (marker : RestoreMarker) (artifact : Artifact) (name : String)
    (replace : Prog DB Content PUnit) : Prog DB Content PUnit :=
  Proc.onlyIf (marker.staged artifact ≠ "" ∧ marker.target artifact ≠ "") do
    wrap ("stat staged " ++ name ++ ": ") (Proc.check (.lstatActivation artifact))
    match ← Proc.look fun w : World DB Content => (stagingDir w).artifacts artifact with
    | none => return ⟨⟩
    | some _ =>
      let _ ← wrap ("validate staged " ++ name ++ ": ") (validateOptionalStaged .activation artifact)
      let _ ← wrap ("validate live " ++ name ++ ": ") (validateLiveRestore artifact)
      wrap ("activate staged " ++ name ++ ": ") replace

def activateOptionalStagedBackupDir (marker : RestoreMarker) : Prog DB Content PUnit :=
  activateOptionalStaged marker .backups "backup dir" replaceDirForRestore

def activateOptionalStagedKnownHosts (marker : RestoreMarker) : Prog DB Content PUnit :=
  activateOptionalStaged marker .knownHosts "known_hosts" replaceFileForRestore

def activateOptionalRestoreArtifacts (marker : RestoreMarker) : Prog DB Content PUnit :=
  Proc.onlyIf (marker.stagedBackups ≠ "" ∨ marker.stagedKnownHosts ≠ "") do
    wrap "validate restore staging dir: " (validateRestoreStagingDir .activation)
    activateOptionalStagedBackupDir marker
    activateOptionalStagedKnownHosts marker

/-- Change the dump in the staging directory. -/
def World.setStagedDB (dump : Stored DB) (w : World DB Content) : World DB Content :=
  { w with staging := some (.regular { stagingDir w with db := some (.regular dump) }) }

def validateRetryStagedDBDestination (c : RestoreCoordinator) (stagedDB : String) :
    Prog DB Content PUnit := do
  validateRestoreStagingDir .retry
  Proc.require (stagedDB = join [stagingPath c.stateDir, "database.dump"])
    "restore marker staged db path does not match runtime staging path"
  let _ ← lstat (.lstatStagedDB .retry) "stat staged db retry destination: "
    "staged db retry destination must be a regular file" fun w => (stagingDir w).db

/-- The error with which `restoreRetryableError` skips the dump, if it does. -/
def skipRetryDump (c : RestoreCoordinator) (stagedDB activationErr : String) :
    Prog DB Content (Option String) :=
  (do
    validateRetryStagedDBDestination c stagedDB
    return none).handle fun err =>
      return some (activationErr ++ " (skip restore staged db for retry: " ++ err ++ ")")

/-- `restoreRetryableError`: the error that the attempt reports. -/
def restoreRetryableError (c : RestoreCoordinator) (stagedDB activationErr : String) :
    Prog DB Content String := do
  match ← skipRetryDump c stagedDB activationErr with
  | some err => return err
  | none =>
    (do
      runPostgresDump c .retryDump World.setStagedDB
      return activationErr).handle fun err =>
        return activationErr ++ " (restore staged db for retry: " ++ err ++ ")"

/-! ### The attempt -/

/-- What a removal of the staging directory leaves that did not get to its end. -/
def partlyRemovedStaging (n : Nat) (w : World DB Content) : Option (Node (Staging DB Content)) :=
  w.staging.map fun _ => .regular
    { db := if n.testBit 0 then none else (stagingDir w).db
      artifacts := fun artifact =>
        if n.testBit 1 then none
        else partlyRemoved artifact n ((stagingDir w).artifacts artifact) }

/-- Remove the staging directory. -/
def removeStaging (step : Step) : Prog DB Content PUnit :=
  Proc.perform step (fun w => { w with staging := none })
    fun n w => { w with staging := partlyRemovedStaging n w }

/-- `ApplyPendingRestore` on the marker that it has read. -/
def applyMarker (c : RestoreCoordinator) (pg : Postgres DB) (newID : String)
    (marker : RestoreMarker) : Prog DB Content Bool := do
  validatePendingRestoreMarker c marker
  let marker ← persistRestoreStatus newID marker .startupRestoreDetected
  (Proc.check (.lookForTools .preflight)).handle (failAttempt newID marker .failedRetryable)
  (backupLiveDB c).handle (failAttempt newID marker .failedRetryable)
  let marker ← persistRestoreStatus newID { marker with attemptCount := marker.attemptCount + 1 }
    .applyingPostgres
  (runPostgresRestore c pg marker.operationID).handle (failAttempt newID marker .failedRetryable)
  let marker ← persistRestoreStatus newID marker .postgresApplied
  let marker ← runVerifier c pg newID marker
  (activateOptionalRestoreArtifacts marker).handle fun err => do
    let retryErr ← restoreRetryableError c marker.stagedDB err
    failAttempt newID marker .failedRetryable retryErr
  removeRestoreMarker
  wrap "remove staging dir: " (removeStaging .removeStaging)
  let _ ← persistRestoreStatus newID marker .completed
  return true

def applyPendingRestore (c : RestoreCoordinator) (pg : Postgres DB) (newID : String) :
    Prog DB Content Bool := do
  match ← readRestoreMarker with
  | none => return false
  | some marker => applyMarker c pg newID marker

/-! ### Staging -/

/-- What a validated archive holds. -/
structure Archive (DB Content : Type) where
  db : DB
  artifacts : Artifact → Option Content

/-- The marker of `ValidateAndStageRestoreWithKeysContext`. -/
def newRestoreMarker (c : RestoreCoordinator) : RestoreMarker where
  stagedDB := join [stagingPath c.stateDir, "database.dump"]
  stagedBackups := join [stagingPath c.stateDir, stagedName .backups]
  stagedKnownHosts := join [stagingPath c.stateDir, stagedName .knownHosts]
  stateDir := c.stateDir
  deviceBackupDir := c.deviceBackupDir
  knownHostsPath := c.knownHostsPath

/-- Change an entry of the staging directory. -/
def World.setStaged (w : World DB Content) (artifact : Artifact) (content : Stored Content) :
    World DB Content :=
  { w with staging := some (.regular { stagingDir w with
      artifacts := Function.update (stagingDir w).artifacts artifact (some (.regular content)) }) }

/-- `moveOrCopyFileForRestoreStagingContext` and `moveOrCopyDirForRestoreStagingContext` of an
artifact that the archive has. -/
def stageArtifact (archive : Archive DB Content) (artifact : Artifact) : Prog DB Content PUnit :=
  match archive.artifacts artifact with
  | none => return ⟨⟩
  | some content =>
    Proc.perform (.stageArtifact artifact) (fun w => w.setStaged artifact (.whole content))
      fun n w => w.setStaged artifact (.part n)

/-- The files and the marker of `ValidateAndStageRestoreWithKeysContext`. -/
def stageFiles (c : RestoreCoordinator) (archive : Archive DB Content) (newID : String) :
    Prog DB Content PUnit := do
  wrap "staging database: "
    (Proc.perform .stageDB (World.setStagedDB (.whole archive.db)) fun n => World.setStagedDB (.part n))
  wrap "staging backup files: " (stageArtifact archive .backups)
  wrap "staging known_hosts: " (stageArtifact archive .knownHosts)
  Proc.check .stageContext
  let marker := updateRestoreOperationFields newID (newRestoreMarker c) .stagedRestartPending
  writeRestoreMarker newID marker
  writeRestoreOperationStatus (restoreOperationStatusFromMarker marker)

/-- The staging of `ValidateAndStageRestoreWithKeysContext`, for the files that the coordinator
will look for. -/
def stageRestore (c : RestoreCoordinator) (archive : Archive DB Content) (newID : String) :
    Prog DB Content PUnit := do
  wrap "removing existing staging dir: " (removeStaging .removeStaging)
  wrap "creating staging dir: "
    (Proc.perform .createStaging (fun w => { w with staging := some (.regular {}) }) fun _ w => w)
  (stageFiles c archive newID).handle fun err => do
    (removeStaging .cleanupStaging).ignore
    (Proc.perform .cleanupMarker (fun w => { w with marker := none }) fun _ w => w).ignore
    Proc.fail err

/-! ### Operations -/

/-- What can happen to the database and the files. -/
inductive Op (DB Content : Type)
  /-- An archive is staged. -/
  | stage (archive : Archive DB Content) (newID : String) (fate : Step → Fate String)
  /-- The process starts and applies a pending restore. -/
  | attempt (newID : String) (fate : Step → Fate String)
  /-- The application writes to the database. -/
  | write (live : DB)

def step (c : RestoreCoordinator) (pg : Postgres DB) (w : World DB Content) :
    Op DB Content → World DB Content
  | .stage archive newID fate => (stageRestore c archive newID fate w).state
  | .attempt newID fate => (applyPendingRestore c pg newID fate w).state
  | .write live => { w with live }

end Programs

end Theia.Restore
