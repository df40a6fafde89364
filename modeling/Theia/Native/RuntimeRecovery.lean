import Theia.Native.Basic

/-!
# Runtime cursors and recovery decisions in the browser

The pure functions of `frontend/src/hooks/websocket/runtimeState.ts` and `runtimeRecovery.ts`:
whether a delta or a replay applies to the local runtime state, and the phases of a recovery.

A JavaScript number is a rational, an infinity or `NaN`; sums and differences are exact here. The
only ones taken are of clock readings in milliseconds and of the generation counter. A property
that is `undefined` or `null` is `none`.
-/

namespace Theia.Client

/-! ### Numbers and strings -/

/-- A JavaScript number. -/
inductive Number
  | finite (value : ℚ)
  | infinity
  | negInfinity
  | nan
  deriving DecidableEq

namespace Number

/-- `a < b` -/
def lt : Number → Number → Bool
  | finite a, finite b => a < b
  | finite _, infinity => true
  | negInfinity, finite _ => true
  | negInfinity, infinity => true
  | _, _ => false

/-- `a === b` -/
def strictEq : Number → Number → Bool
  | nan, _ => false
  | a, b => a = b

/-- `a <= b` -/
def le (a b : Number) : Bool := a.lt b || a.strictEq b

/-- `a - b` -/
def sub : Number → Number → Number
  | finite a, finite b => finite (a - b)
  | finite _, infinity => negInfinity
  | finite _, negInfinity => infinity
  | infinity, finite _ => infinity
  | infinity, negInfinity => infinity
  | negInfinity, finite _ => negInfinity
  | negInfinity, infinity => negInfinity
  | _, _ => nan

/-- `Math.max(a, b)` -/
def max : Number → Number → Number
  | nan, _ => nan
  | _, nan => nan
  | a, b => if a.lt b then b else a

/-- `Number.isFinite` -/
def isFinite : Number → Bool
  | finite _ => true
  | _ => false

/-- `Number.isSafeInteger` -/
def isSafeInteger : Number → Bool
  | finite value => value.isInt && decide (|value| ≤ 2 ^ 53 - 1)
  | _ => false

/-- What `JSON.parse` reads for a natural number in decimal: the nearest double, ties to even. -/
def ofDecimal (n : Nat) : Number :=
  let unit := 2 ^ (n.log2 - 52)
  let quotient := n / unit
  let rest := n % unit
  let roundsUp := decide (unit < 2 * rest) || (decide (unit = 2 * rest) && quotient % 2 = 1)
  finite ((if roundsUp then quotient + 1 else quotient) * unit : Nat)

end Number

/-- The characters that `String.prototype.trim` removes. -/
def isWhiteSpace (c : Char) : Bool :=
  let n := c.toNat
  (9 ≤ n && n ≤ 13) || n == 0x20 || n == 0xA0 || n == 0x1680 || (0x2000 ≤ n && n ≤ 0x200A) ||
    n == 0x2028 || n == 0x2029 || n == 0x202F || n == 0x205F || n == 0x3000 || n == 0xFEFF

/-- `value.trim()` -/
def trim (value : String) : String := String.ofList (trimList isWhiteSpace value.toList)

def isRuntimeVersion (value : Number) : Bool := value.isSafeInteger && Number.le (.finite 0) value

/-! ### Deltas: runtimeState.ts -/

inductive RuntimeDeltaMessageType
  | snapshotDelta | runtimeDelta
  deriving DecidableEq

structure RuntimeDeltaEnvelope where
  baseVersion : Option Number := none
  version : Option Number := none
  runtimeStreamId : Option String := none
  runtimeIdentity : Option String := none
  deriving DecidableEq

structure RuntimeDeltaClientState where
  currentVersion : Option Number
  currentStreamId : Option String
  hasRuntimeSnapshot : Bool
  deriving DecidableEq

/-- `ResyncRequiredPayload['reason']` -/
inductive ResyncReason
  | clientResyncScheduled | clientMissingRuntimeSnapshot | stateChangesDropped | hubBufferFull
  deriving DecidableEq

def ResyncReason.toString : ResyncReason → String
  | clientResyncScheduled => "client_resync_scheduled"
  | clientMissingRuntimeSnapshot => "client_missing_runtime_snapshot"
  | stateChangesDropped => "state_changes_dropped"
  | hubBufferFull => "hub_buffer_full"

inductive RuntimeDeltaResyncDiagnosticReason
  | baseVersionMismatch | invalidDeltaVersion | missingBaseSnapshot | runtimeStreamMismatch
  deriving DecidableEq

def RuntimeDeltaResyncDiagnosticReason.toString : RuntimeDeltaResyncDiagnosticReason → String
  | baseVersionMismatch => "base_version_mismatch"
  | invalidDeltaVersion => "invalid_delta_version"
  | missingBaseSnapshot => "missing_base_snapshot"
  | runtimeStreamMismatch => "runtime_stream_mismatch"

inductive RuntimeDeltaDecision
  | applyUnversioned
  | applyVersioned (nextVersion : Number) (runtimeIdentity : Option String)
  | ignoreStale (messageType : RuntimeDeltaMessageType) (baseVersion version currentVersion : Number)
  | rejectMissingUnversionedBase
  | requestResync (payloadReason : ResyncReason)
      (diagnosticReason : RuntimeDeltaResyncDiagnosticReason)
  deriving DecidableEq

def shouldIgnoreStaleRuntimeSnapshot (incomingVersion currentVersion : Option Number)
    (hasRuntimeSnapshot : Bool) : Bool :=
  match incomingVersion, currentVersion with
  | some incoming, some current => hasRuntimeSnapshot && incoming.lt current
  | _, _ => false

/-- A stream ID that is there and is not blank. -/
def hasStream (streamId : Option String) : Bool := streamId.any fun value => trim value ≠ ""

/-- The part of `classifyRuntimeDelta` that compares versions, for a delta of the client's own
stream. -/
def classifyDeltaVersions (messageType : RuntimeDeltaMessageType) (payload : RuntimeDeltaEnvelope)
    (state : RuntimeDeltaClientState) : RuntimeDeltaDecision :=
  match payload.version, payload.baseVersion with
  | some version, some baseVersion =>
    if !isRuntimeVersion version || !isRuntimeVersion baseVersion || version.le baseVersion then
      .requestResync .clientResyncScheduled .invalidDeltaVersion
    else
      match state.currentVersion, state.hasRuntimeSnapshot with
      | some currentVersion, true =>
        if baseVersion.lt currentVersion then
          .ignoreStale messageType baseVersion version currentVersion
        else if currentVersion.lt baseVersion then
          .requestResync .clientResyncScheduled .baseVersionMismatch
        else .applyVersioned version payload.runtimeIdentity
      | _, _ => .requestResync .clientMissingRuntimeSnapshot .missingBaseSnapshot
  | _, _ => .requestResync .clientResyncScheduled .invalidDeltaVersion

def classifyRuntimeDelta (messageType : RuntimeDeltaMessageType) (payload : RuntimeDeltaEnvelope)
    (state : RuntimeDeltaClientState) : RuntimeDeltaDecision :=
  let hasVersionEnvelope := payload.version.isSome || payload.baseVersion.isSome
  let hasEstablishedStream := hasStream state.currentStreamId
  let hasIncomingStream := hasStream payload.runtimeStreamId
  if (state.currentStreamId.isSome && !hasEstablishedStream) ||
      (payload.runtimeStreamId.isSome && !hasIncomingStream) then
    .requestResync .clientResyncScheduled .runtimeStreamMismatch
  else if !hasVersionEnvelope && !hasEstablishedStream && !hasIncomingStream then
    -- older backend streams sent deltas without versions
    if state.hasRuntimeSnapshot then .applyUnversioned else .rejectMissingUnversionedBase
  else if (hasEstablishedStream && payload.runtimeStreamId ≠ state.currentStreamId) ||
      (!hasEstablishedStream && hasIncomingStream) then
    .requestResync .clientResyncScheduled .runtimeStreamMismatch
  else classifyDeltaVersions messageType payload state

/-! ### Recovery: runtimeRecovery.ts -/

/-- `RUNTIME_RECOVERY_DEADLINE_MS` -/
def runtimeRecoveryDeadlineMs : ℚ := 5000

structure RuntimeCursor where
  streamId : String
  version : Number
  deriving DecidableEq

inductive RuntimeRecoveryState
  | idle (generation : Nat)
  | stream (generation : Nat) (startedAt : Number) (reason : String) (targetVersion : Option Number)
  | httpFallback (generation : Nat) (startedAt : Number) (reason : String)
  | failed (generation : Nat) (reason : String)
  deriving DecidableEq

def RuntimeRecoveryState.generation : RuntimeRecoveryState → Nat
  | idle generation => generation
  | stream generation _ _ _ => generation
  | httpFallback generation _ _ => generation
  | failed generation _ => generation

/-- `phase === 'idle'` -/
def RuntimeRecoveryState.isIdle : RuntimeRecoveryState → Bool
  | idle _ => true
  | _ => false

/-- The phases stream and http-fallback. -/
def RuntimeRecoveryState.isRecovering : RuntimeRecoveryState → Bool
  | stream .. => true
  | httpFallback .. => true
  | _ => false

structure RuntimeReplayRange where
  runtimeStreamId : String
  fromVersion : Number
  version : Number
  deriving DecidableEq

inductive RuntimeReplayRejection
  | invalidCursor | invalidStream | wrongStream | rangeGap | staleRange | invalidRange
  deriving DecidableEq

def RuntimeReplayRejection.toString : RuntimeReplayRejection → String
  | invalidCursor => "invalid_cursor"
  | invalidStream => "invalid_stream"
  | wrongStream => "wrong_stream"
  | rangeGap => "range_gap"
  | staleRange => "stale_range"
  | invalidRange => "invalid_range"

inductive RuntimeReplayDecision
  | apply (cursor : RuntimeCursor)
  | reject (reason : RuntimeReplayRejection)
  deriving DecidableEq

inductive RuntimeReadyRejection
  | missingCursor | invalidCursor | invalidReady | recoveryFailed | wrongStream | versionMismatch
  deriving DecidableEq

def RuntimeReadyRejection.toString : RuntimeReadyRejection → String
  | missingCursor => "missing_cursor"
  | invalidCursor => "invalid_cursor"
  | invalidReady => "invalid_ready"
  | recoveryFailed => "recovery_failed"
  | wrongStream => "wrong_stream"
  | versionMismatch => "version_mismatch"

/-- `RuntimeReadyDecision`; a rejection hands the state and the cursor back as they were. -/
inductive RuntimeReadyDecision
  | complete (state : RuntimeRecoveryState) (cursor : RuntimeCursor)
  | reject (reason : RuntimeReadyRejection)
  deriving DecidableEq

def createRuntimeRecoveryState : RuntimeRecoveryState := .idle 0

def isRuntimeCursor (cursor : RuntimeCursor) : Bool :=
  decide (trim cursor.streamId ≠ "") && isRuntimeVersion cursor.version

def isRuntimeRecoveryTime (value : Number) : Bool := value.isFinite && Number.le (.finite 0) value

/-- The target of the active recovery after a request with another one. -/
def raiseTarget : Option Number → Option Number → Option Number
  | target, none => target
  | none, some requested => some requested
  | some target, some requested => some (target.max requested)

def beginRuntimeRecovery (state : RuntimeRecoveryState) (now : Number) (reason : String)
    (targetVersion : Option Number) : RuntimeRecoveryState :=
  let normalizedTargetVersion := targetVersion.filter isRuntimeVersion
  match state with
  | .failed .. => state
  | .httpFallback .. => state
  | .stream generation startedAt activeReason activeTarget =>
    if !isRuntimeRecoveryTime now || !isRuntimeRecoveryTime startedAt || now.lt startedAt then state
    else
      .stream generation startedAt activeReason (raiseTarget activeTarget normalizedTargetVersion)
  | .idle generation =>
    if !isRuntimeRecoveryTime now then state
    else .stream (generation + 1) now reason normalizedTargetVersion

def advanceRuntimeRecoveryDeadline (state : RuntimeRecoveryState) (now : Number) :
    RuntimeRecoveryState :=
  match state with
  | .stream generation startedAt reason _ =>
    if !isRuntimeRecoveryTime startedAt || !isRuntimeRecoveryTime now || now.lt startedAt ||
        (now.sub startedAt).lt (.finite runtimeRecoveryDeadlineMs) then state
    else .httpFallback generation startedAt reason
  | _ => state

def classifyRuntimeReplay (cursor : RuntimeCursor) (replay : RuntimeReplayRange) :
    RuntimeReplayDecision :=
  if !isRuntimeCursor cursor then .reject .invalidCursor
  else if !isRuntimeVersion replay.fromVersion || !isRuntimeVersion replay.version ||
      replay.version.lt replay.fromVersion then .reject .invalidRange
  else if trim replay.runtimeStreamId = "" then .reject .invalidStream
  else if replay.runtimeStreamId ≠ cursor.streamId then .reject .wrongStream
  else if replay.version.le cursor.version then .reject .staleRange
  else if cursor.version.lt replay.fromVersion then .reject .rangeGap
  else .apply { streamId := cursor.streamId, version := replay.version }

def applyRuntimeRecoveryReady (state : RuntimeRecoveryState) (cursor ready : Option RuntimeCursor) :
    RuntimeReadyDecision :=
  match state, cursor, ready with
  | .failed .., _, _ => .reject .recoveryFailed
  | state, some cursor, some ready =>
    if !isRuntimeCursor cursor then .reject .invalidCursor
    else if !isRuntimeCursor ready then .reject .invalidReady
    else if ready.streamId ≠ cursor.streamId then .reject .wrongStream
    else if !ready.version.strictEq cursor.version then .reject .versionMismatch
    else .complete (if state.isRecovering then .idle state.generation else state) cursor
  | _, _, _ => .reject .missingCursor

def failRuntimeRecovery (state : RuntimeRecoveryState) (reason : String) : RuntimeRecoveryState :=
  if state.isRecovering then .failed state.generation reason else state

end Theia.Client
