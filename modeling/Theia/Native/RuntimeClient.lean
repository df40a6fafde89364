import Theia.Native.ClientMetrics
import Theia.Native.RuntimeRecovery

/-!
# The runtime client of one socket

`frontend/src/hooks/useWebSocket.ts` and `websocket/runtimeAck.ts`: what the browser does with the
runtime messages of one open socket, with its two recovery timers and with the answer of the HTTP
fallback. The references of the hook are the fields of `RuntimeClient`, and what it sends or
dispatches is appended to `sent`. `Date.now()` is an input of the events that read it.

A timer is the fact that it is armed; its delay only decides when its callback runs, and the
callback compares the clock again. A fallback request is known by its generation, because a
generation starts one. Diagnostics, alerts, the runtime identity, the recovery mode and the
rendering of the snapshot are left out, and so are opening and closing the socket and the canvas
bootstrap, which put the recovery state back to idle from outside.
-/

namespace Theia.Client

def mergeSnapshotDelta (existing delta : RuntimeRecords) : RuntimeRecords where
  devices := existing.devices.overlay delta.devices
  links := existing.links.overlay delta.links

/-! ### Acknowledgements: runtimeAck.ts -/

/-- The state of `createRuntimeAckScheduler`. Sending does not call the scheduler again. -/
structure RuntimeAckScheduler where
  streamId : Option String := none
  lastSentVersion : Number := .finite (-1)
  pendingCursor : Option RuntimeCursor := none
  /-- The coalescing timer is armed. -/
  timer : Bool := false
  deriving DecidableEq

namespace RuntimeAckScheduler

def schedule (scheduler : RuntimeAckScheduler) (cursor : Option RuntimeCursor) :
    RuntimeAckScheduler :=
  match cursor with
  | none => scheduler
  | some cursor =>
    if !isRuntimeCursor cursor then scheduler
    else
      let scheduler := { scheduler with streamId := scheduler.streamId.or (some cursor.streamId) }
      if scheduler.streamId ≠ some cursor.streamId then scheduler
      else
        match scheduler.pendingCursor with
        | some pending =>
          if cursor.version.lt pending.version then scheduler
          else if pending.version.lt cursor.version then
            { scheduler with pendingCursor := some cursor, timer := true }
          else { scheduler with timer := true }
        | none =>
          if cursor.version.le scheduler.lastSentVersion then scheduler
          else { scheduler with pendingCursor := some cursor, timer := true }

/-- `emitPending`, with the cursor that is sent. -/
def emitPending (scheduler : RuntimeAckScheduler) : RuntimeAckScheduler × Option RuntimeCursor :=
  match scheduler.pendingCursor with
  | none => (scheduler, none)
  | some cursor =>
    ({ scheduler with
        pendingCursor := none
        lastSentVersion :=
          if scheduler.streamId = some cursor.streamId then
            scheduler.lastSentVersion.max cursor.version
          else scheduler.lastSentVersion }, some cursor)

def cancel (scheduler : RuntimeAckScheduler) : RuntimeAckScheduler :=
  { scheduler with pendingCursor := none, timer := false }

def reset (scheduler : RuntimeAckScheduler) : RuntimeAckScheduler :=
  { scheduler.cancel with streamId := none, lastSentVersion := .finite (-1) }

end RuntimeAckScheduler

/-! ### The state of the hook -/

inductive RuntimeFallbackPhase
  | request | readyBarrier
  deriving DecidableEq

/-- `activeRuntimeFallback`, whose deadline timer is armed as long as it is active. -/
structure RuntimeFallback where
  generation : Nat
  phase : RuntimeFallbackPhase
  deriving DecidableEq

/-- What the hook sends or dispatches. -/
inductive ClientControl
  | runtimeAck (cursor : RuntimeCursor)
  | resumeRuntime (cursor : RuntimeCursor)
  /-- `dispatchBackendResyncRequired` -/
  | backendResyncRequired (reason : ResyncReason)
  /-- `ws.close()` -/
  | close
  deriving DecidableEq

/-- The references of the hook for one open socket. -/
structure RuntimeClient where
  requireRuntimeBootstrap : Bool := false
  /-- `runtimeRecoveryStateRef` -/
  recovery : RuntimeRecoveryState := createRuntimeRecoveryState
  /-- `hasRuntimeSnapshotRef` -/
  hasRuntimeSnapshot : Bool := false
  /-- `runtimeStreamIdRef` -/
  runtimeStreamId : Option String := none
  /-- `snapshotVersionRef` -/
  snapshotVersion : Option Number := none
  /-- `snapshotStateRef` -/
  snapshotState : Option RuntimeRecords := none
  /-- `awaitingLegacyRuntimeBootstrapRef` -/
  awaitingLegacyRuntimeBootstrap : Bool := false
  /-- `runtimeRecoveryDeadlineTimer`: the generation that the armed timer was made for. -/
  runtimeRecoveryDeadlineTimer : Option Nat := none
  activeRuntimeFallback : Option RuntimeFallback := none
  ack : RuntimeAckScheduler := {}
  sent : List ClientControl := []

namespace RuntimeClient

def getAppliedRuntimeCursor (c : RuntimeClient) : Option RuntimeCursor :=
  match c.hasRuntimeSnapshot, c.runtimeStreamId, c.snapshotVersion with
  | true, some streamId, some version =>
    if trim streamId = "" || !isRuntimeVersion version then none else some { streamId, version }
  | _, _, _ => none

def send (c : RuntimeClient) (control : ClientControl) : RuntimeClient :=
  { c with sent := c.sent ++ [control] }

/-- `runtimeAckScheduler.schedule` -/
def scheduleAck (c : RuntimeClient) (cursor : Option RuntimeCursor) : RuntimeClient :=
  { c with ack := c.ack.schedule cursor }

/-- `runtimeAckScheduler.flush`; also the callback of the coalescing timer. -/
def flushAck (c : RuntimeClient) : RuntimeClient :=
  let emitted := { c.ack with timer := false }.emitPending
  { c with
    ack := emitted.1
    sent := c.sent ++ emitted.2.toList.map ClientControl.runtimeAck }

/-- `runtimeAckScheduler.reset` when the stream ID changes to another one. -/
def resetAckFor (c : RuntimeClient) (streamId : Option String) : RuntimeClient :=
  if c.runtimeStreamId ≠ streamId then { c with ack := c.ack.reset } else c

/-! ### Recovery -/

/-- `scheduleRuntimeRecoveryDeadline`, for the current state. -/
def scheduleRuntimeRecoveryDeadline (c : RuntimeClient) : RuntimeClient :=
  match c.recovery with
  | .stream generation .. =>
    if c.runtimeRecoveryDeadlineTimer.isSome then c
    else { c with runtimeRecoveryDeadlineTimer := some generation }
  | _ => c

def requestRuntimeRecovery (c : RuntimeClient) (now : Number) (reason : String)
    (targetVersion : Option Number) (sendResume : Bool) : RuntimeClient :=
  let nextState := beginRuntimeRecovery c.recovery now reason targetVersion
  match c.recovery, nextState with
  | .idle _, .stream .. =>
    -- `abortRuntimeFallback(ws)`: a new generation has no fallback yet
    let begun := scheduleRuntimeRecoveryDeadline
      { c with activeRuntimeFallback := none, recovery := nextState }
    match sendResume, begun.getAppliedRuntimeCursor with
    | true, some cursor => begun.send (.resumeRuntime cursor)
    | _, _ => begun
  | _, _ => scheduleRuntimeRecoveryDeadline { c with recovery := nextState }

def requestLegacyResync (c : RuntimeClient) (payloadReason : ResyncReason) : RuntimeClient :=
  if c.awaitingLegacyRuntimeBootstrap then c
  else
    let dispatched := { c with awaitingLegacyRuntimeBootstrap := true }.send
      (.backendResyncRequired payloadReason)
    if !c.requireRuntimeBootstrap then dispatched.send .close else dispatched

def failRuntimeFallbackGeneration (c : RuntimeClient) (generation : Nat) (error : String) :
    RuntimeClient :=
  if c.recovery.isRecovering && c.recovery.generation = generation then
    { c with
      recovery := failRuntimeRecovery c.recovery error
      ack := c.ack.cancel }.send .close
  else c

/-- The beginning of `runRuntimeFallback`, up to its request. -/
def runRuntimeFallback (c : RuntimeClient) (generation : Nat) : RuntimeClient :=
  match c.activeRuntimeFallback with
  | some token =>
    if token.generation = generation then c
    else { c with activeRuntimeFallback := some { generation, phase := .request } }
  | none => { c with activeRuntimeFallback := some { generation, phase := .request } }

/-- The callback of `runtimeRecoveryDeadlineTimer`. -/
def onRecoveryDeadline (c : RuntimeClient) (now : Number) : RuntimeClient :=
  match c.runtimeRecoveryDeadlineTimer with
  | none => c
  | some generation =>
    let c := { c with runtimeRecoveryDeadlineTimer := none }
    match c.recovery with
    | .stream current .. =>
      if current ≠ generation then c
      else
        match advanceRuntimeRecoveryDeadline c.recovery now with
        | .httpFallback g startedAt reason =>
          runRuntimeFallback { c with recovery := .httpFallback g startedAt reason } generation
        | _ => c.scheduleRuntimeRecoveryDeadline
    | _ => c

/-- What `fetchRuntimeOverview` answers. -/
structure RuntimeOverview where
  runtimeStreamId : String
  runtimeVersion : Number
  runtimeSnapshot : RuntimeRecords

/-- The cursor of the answer lies behind the applied one on the same stream. -/
def fallbackRegressed (c : RuntimeClient) (response : RuntimeOverview) : Bool :=
  c.getAppliedRuntimeCursor.any fun cursor =>
    cursor.streamId = response.runtimeStreamId && response.runtimeVersion.lt cursor.version

/-- `armRuntimeFallbackDeadline` for the ready barrier of a generation. -/
def armReadyBarrier (c : RuntimeClient) (generation : Nat) : RuntimeClient :=
  { c with
    activeRuntimeFallback := c.activeRuntimeFallback.map fun token =>
      if token.generation = generation then { token with phase := .readyBarrier } else token }

/-- The continuation of `runRuntimeFallback` after an answer. -/
def applyFallback (c : RuntimeClient) (generation : Nat) (response : RuntimeOverview) :
    RuntimeClient :=
  match c.recovery with
  | .httpFallback current .. =>
    if current ≠ generation then c
    else if c.fallbackRegressed response then
      c.failRuntimeFallbackGeneration generation "runtime fallback cursor regressed"
    else
      let applied :=
        { c.resetAckFor (some response.runtimeStreamId) with
          hasRuntimeSnapshot := true
          runtimeStreamId := some response.runtimeStreamId
          snapshotVersion := some response.runtimeVersion }
      match applied.getAppliedRuntimeCursor with
      | none => applied.failRuntimeFallbackGeneration generation "invalid runtime fallback cursor"
      | some cursor =>
        let acked :=
          ({ applied with snapshotState := some response.runtimeSnapshot }.scheduleAck
            (some cursor)).flushAck
        ({ acked with ack := acked.ack.reset }.armReadyBarrier generation).send
          (.resumeRuntime cursor)
  | _ => c

/-- The `finally` block of `runRuntimeFallback`. -/
def settleFallback (c : RuntimeClient) (generation : Nat) : RuntimeClient :=
  match c.activeRuntimeFallback with
  | none => c
  | some token =>
    if token.generation ≠ generation then c
    else
      match c.recovery, token.phase with
      | .httpFallback current .., .readyBarrier =>
        if current = generation then c else { c with activeRuntimeFallback := none }
      | _, _ => { c with activeRuntimeFallback := none }

/-- The rest of `runRuntimeFallback` once the request of `generation` is answered or has failed. -/
def onFallbackResponse (c : RuntimeClient) (generation : Nat)
    (response : Except String RuntimeOverview) : RuntimeClient :=
  let handled := match response with
    | .ok response => c.applyFallback generation response
    | .error message => c.failRuntimeFallbackGeneration generation message
  handled.settleFallback generation

/-- The callback of the deadline timer of the active fallback. -/
def onFallbackDeadline (c : RuntimeClient) : RuntimeClient :=
  match c.activeRuntimeFallback with
  | none => c
  | some token =>
    { c with activeRuntimeFallback := none }.failRuntimeFallbackGeneration token.generation
      (match token.phase with
        | .request => "runtime fallback request deadline exceeded"
        | .readyBarrier => "runtime fallback ready barrier deadline exceeded")

/-! ### Messages -/

/-- The protocol-v2 part of a `ready` message. -/
def onStreamReady (c : RuntimeClient) (now : Number) (runtimeStreamId : Option String)
    (runtimeVersion : Option Number) : RuntimeClient :=
  let readyCursor := match runtimeStreamId, runtimeVersion with
    | some streamId, some version => some { streamId, version : RuntimeCursor }
    | _, _ => none
  match applyRuntimeRecoveryReady c.recovery c.getAppliedRuntimeCursor readyCursor with
  | .reject reason =>
    if c.recovery.isIdle then c.requestRuntimeRecovery now reason.toString runtimeVersion true else c
  | .complete state cursor =>
    ({ c with
        recovery := state
        activeRuntimeFallback :=
          if c.recovery.isRecovering && state.isIdle then none else c.activeRuntimeFallback
        awaitingLegacyRuntimeBootstrap := false
        runtimeRecoveryDeadlineTimer := none }.scheduleAck (some cursor)).flushAck

/-- The legacy part of a `ready` message. -/
def onLegacyReady (c : RuntimeClient) (downgradeCandidate : Bool) (runtimeVersion : Option Number) :
    RuntimeClient :=
  let hasExactLegacyReady := match runtimeVersion, c.snapshotVersion with
    | some ready, some current => isRuntimeVersion ready && ready.strictEq current
    | _, _ => false
  if !hasExactLegacyReady then c.requestLegacyResync .clientResyncScheduled
  else if downgradeCandidate then
    { c with
      ack := c.ack.reset
      runtimeStreamId := none
      awaitingLegacyRuntimeBootstrap := false }
  else { c with awaitingLegacyRuntimeBootstrap := false }

/-- A `ready` message. -/
def onReady (c : RuntimeClient) (now : Number) (runtimeStreamId : Option String)
    (runtimeVersion : Option Number) : RuntimeClient :=
  if !c.hasRuntimeSnapshot then
    if runtimeStreamId.isSome then
      c.requestRuntimeRecovery now "missing_base_snapshot" runtimeVersion true
    else c.requestLegacyResync .clientMissingRuntimeSnapshot
  else
    let downgradeCandidate :=
      c.recovery.isIdle && c.runtimeStreamId.isSome && runtimeStreamId.isNone
    if !downgradeCandidate && (c.runtimeStreamId.isSome || runtimeStreamId.isSome) then
      c.onStreamReady now runtimeStreamId runtimeVersion
    else c.onLegacyReady downgradeCandidate runtimeVersion

/-- A `snapshot` message. -/
def onSnapshot (c : RuntimeClient) (now : Number) (version : Option Number)
    (runtimeStreamId : Option String) (snapshot : RuntimeRecords) : RuntimeClient :=
  let incomingStreamId := runtimeStreamId.map trim
  let hasIncomingRuntimeStream := incomingStreamId.any (· ≠ "")
  let hasSafeIncomingVersion := version.any isRuntimeVersion
  let isActiveRuntimeRecovery := c.recovery.isRecovering
  if isActiveRuntimeRecovery && !(hasIncomingRuntimeStream && hasSafeIncomingVersion) then c
  else if runtimeStreamId.isSome && !hasIncomingRuntimeStream then
    c.requestRuntimeRecovery now "invalid_snapshot_cursor" version true
  else if hasIncomingRuntimeStream && !hasSafeIncomingVersion then
    c.requestRuntimeRecovery now "invalid_snapshot_cursor" none true
  else
    let isLegacyDowngrade :=
      !isActiveRuntimeRecovery && c.runtimeStreamId.isSome && !hasIncomingRuntimeStream
    let hasDifferentRuntimeLineage :=
      (hasIncomingRuntimeStream && decide (incomingStreamId ≠ c.runtimeStreamId)) ||
        isLegacyDowngrade
    if !hasDifferentRuntimeLineage &&
        shouldIgnoreStaleRuntimeSnapshot version c.snapshotVersion c.hasRuntimeSnapshot then c
    else
      let lineage :=
        if hasIncomingRuntimeStream then
          { c.resetAckFor incomingStreamId with runtimeStreamId := incomingStreamId }
        else if isLegacyDowngrade then { c with ack := c.ack.reset, runtimeStreamId := none }
        else c
      let applied :=
        { lineage with
          hasRuntimeSnapshot := true
          awaitingLegacyRuntimeBootstrap := false
          snapshotVersion := version
          snapshotState := some snapshot }
      applied.scheduleAck applied.getAppliedRuntimeCursor

/-- A `runtime_replay` message. -/
def onReplay (c : RuntimeClient) (now : Number) (replay : RuntimeReplayRange)
    (delta : RuntimeDeltaPayload) : RuntimeClient :=
  match c.getAppliedRuntimeCursor, c.snapshotState with
  | some cursor, some currentSnapshot =>
    match classifyRuntimeReplay cursor replay with
    | .reject reason => c.requestRuntimeRecovery now reason.toString (some replay.version) true
    | .apply next =>
      { c with
        snapshotVersion := some next.version
        snapshotState := some (mergeRuntimeDeltaPatch currentSnapshot delta) }.scheduleAck (some next)
  | _, _ => c.requestRuntimeRecovery now "missing_base_snapshot" (some replay.version) true

/-- A `snapshot_delta` or `runtime_delta` message; `merge` adds its delta to a snapshot. -/
def onDelta (c : RuntimeClient) (now : Number) (messageType : RuntimeDeltaMessageType)
    (payload : RuntimeDeltaEnvelope) (merge : RuntimeRecords → RuntimeRecords) : RuntimeClient :=
  if c.awaitingLegacyRuntimeBootstrap then c
  else
    match c.recovery with
    | .idle _ =>
      match classifyRuntimeDelta messageType payload
          { currentVersion := c.snapshotVersion
            currentStreamId := c.runtimeStreamId
            hasRuntimeSnapshot := c.hasRuntimeSnapshot } with
      | .requestResync payloadReason diagnosticReason =>
        if c.runtimeStreamId.isSome ||
            (messageType = .runtimeDelta && payload.runtimeStreamId.isSome) then
          c.requestRuntimeRecovery now diagnosticReason.toString payload.version true
        else c.requestLegacyResync payloadReason
      | .ignoreStale .. => c
      | .rejectMissingUnversionedBase => c
      | .applyVersioned nextVersion _ =>
        let advanced := { c with snapshotVersion := some nextVersion }
        match c.snapshotState with
        | none => advanced
        | some currentSnapshot =>
          { advanced with snapshotState := some (merge currentSnapshot) }.scheduleAck
            advanced.getAppliedRuntimeCursor
      | .applyUnversioned => { c with snapshotState := c.snapshotState.map merge }
    | .stream _ _ reason _ => c.requestRuntimeRecovery now reason payload.version true
    | _ => c.requestRuntimeRecovery now "runtime_recovery_in_progress" payload.version true

/-- A `resync_required` message; `stream` is its strategy. -/
def onResyncRequired (c : RuntimeClient) (now : Number) (reason : ResyncReason) (stream : Bool)
    (targetVersion : Option Number) : RuntimeClient :=
  if stream then c.requestRuntimeRecovery now reason.toString targetVersion false
  else { c with awaitingLegacyRuntimeBootstrap := true }.send (.backendResyncRequired reason)

/-- The messages that the parser rejects and the hook still reacts to. -/
inductive MalformedType
  | runtimeDelta | runtimeReplay | snapshotDelta
  deriving DecidableEq

/-- The `catch` block of `onmessage`. -/
def onMalformed (c : RuntimeClient) (now : Number) (messageType : MalformedType)
    (rawRuntimeStreamId : Option String) (rawVersion : Option Number) : RuntimeClient :=
  let hasProtocolV2Lineage := c.getAppliedRuntimeCursor.isSome || hasStream rawRuntimeStreamId
  if hasProtocolV2Lineage && decide (messageType ≠ .snapshotDelta) then
    c.requestRuntimeRecovery now "invalid_runtime_delta_payload" rawVersion true
  else if messageType = .runtimeReplay then c
  else c.requestLegacyResync .clientResyncScheduled

/-- A runtime message as `parseWSMessage` returns it. -/
inductive RuntimeMessage
  | ready (runtimeStreamId : Option String) (runtimeVersion : Option Number)
  | snapshot (version : Option Number) (runtimeStreamId : Option String) (snapshot : RuntimeRecords)
  | runtimeReplay (replay : RuntimeReplayRange) (delta : RuntimeDeltaPayload)
  | runtimeDelta (payload : RuntimeDeltaEnvelope) (delta : RuntimeDeltaPayload)
  | snapshotDelta (payload : RuntimeDeltaEnvelope) (delta : RuntimeRecords)
  | resyncRequired (reason : ResyncReason) (stream : Bool) (targetVersion : Option Number)
  | malformed (messageType : MalformedType) (rawRuntimeStreamId : Option String)
      (rawVersion : Option Number)

/-- `ws.onmessage` -/
def onMessage (c : RuntimeClient) (now : Number) : RuntimeMessage → RuntimeClient
  | .ready runtimeStreamId runtimeVersion => c.onReady now runtimeStreamId runtimeVersion
  | .snapshot version runtimeStreamId snapshot => c.onSnapshot now version runtimeStreamId snapshot
  | .runtimeReplay replay delta => c.onReplay now replay delta
  | .runtimeDelta payload delta =>
    c.onDelta now .runtimeDelta payload fun snapshot => mergeRuntimeDeltaPatch snapshot delta
  | .snapshotDelta payload delta =>
    c.onDelta now .snapshotDelta payload fun snapshot => mergeSnapshotDelta snapshot delta
  | .resyncRequired reason stream targetVersion =>
    c.onResyncRequired now reason stream targetVersion
  | .malformed messageType rawRuntimeStreamId rawVersion =>
    c.onMalformed now messageType rawRuntimeStreamId rawVersion

/-- What can happen to the client of an open socket. -/
inductive Event
  | message (now : Number) (message : RuntimeMessage)
  /-- The timer of the stream recovery fires. -/
  | recoveryDeadline (now : Number)
  /-- The fallback request of a generation is answered or fails. -/
  | fallbackResponse (generation : Nat) (response : Except String RuntimeOverview)
  /-- The timer of the active fallback fires. -/
  | fallbackDeadline
  /-- The coalescing timer of the acknowledgements fires. -/
  | ackTimer

def step (c : RuntimeClient) : Event → RuntimeClient
  | .message now message => c.onMessage now message
  | .recoveryDeadline now => c.onRecoveryDeadline now
  | .fallbackResponse generation response => c.onFallbackResponse generation response
  | .fallbackDeadline => c.onFallbackDeadline
  | .ackTimer => if c.ack.timer then c.flushAck else c

end RuntimeClient

end Theia.Client
