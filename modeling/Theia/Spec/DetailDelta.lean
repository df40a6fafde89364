import Theia.Native.DetailDelta
import Theia.Spec.RuntimePatch

/-!
# Detail deltas at the client

A detail delta is built from normalized records, so the browser can read it. Its envelope has the
overview version of the server as base and as version and names no stream, so the classifier that
decides about overview deltas never accepts it.
-/

namespace Theia

open Client Number

variable {lower : Char → Char} {runtime : PipelineRuntimeState} {device : Device}
  {deviceState : DeviceState} {states : FMap UUID DeviceState}
  {deviceTopology : Option (FMap UUID Device × List Link)} {promStatus : PrometheusStatus}
  {dto : LinkRuntimeDTO}

theorem detailLinkRuntimes_normalized
    (h : dto ∈ detailLinkRuntimes lower runtime device deviceState states deviceTopology) :
    ∃ (link : Link) (metric : Option LinkMetrics) (sourceRuntime targetRuntime : DeviceRuntimeDTO),
      dto = normalizeLinkRuntimeDTO link metric sourceRuntime targetRuntime := by
  cases deviceTopology with
  | none => cases h
  | some topology =>
    obtain ⟨link, -, rfl⟩ := List.mem_map.1 h
    exact ⟨link, _, _, _, rfl⟩

theorem buildDeviceDetailDeltaWithLinks_normalized {linkRuntimes : List LinkRuntimeDTO}
    {alerts : List AlertState}
    (hlinks : ∀ dto ∈ linkRuntimes, ∃ (link : Link) (metric : Option LinkMetrics)
      (sourceRuntime targetRuntime : DeviceRuntimeDTO),
      dto = normalizeLinkRuntimeDTO link metric sourceRuntime targetRuntime) :
    Normalized (buildDeviceDetailDeltaWithLinks device deviceState linkRuntimes alerts
      promStatus) where
  devices id dto hdto := by
    have hmem := FMap.mem_of_get_ofList hdto
    rw [List.mem_singleton, Prod.mk.injEq] at hmem
    exact ⟨device, deviceState, alerts, promStatus, hmem⟩
  links id dto hdto := by
    obtain ⟨found, hfound, heq⟩ := List.mem_map.1 (FMap.mem_of_get_ofList hdto)
    obtain ⟨rfl, rfl⟩ := Prod.mk.inj heq
    obtain ⟨link, metric, sourceRuntime, targetRuntime, rfl⟩ := hlinks found hfound
    exact ⟨link, metric, sourceRuntime, targetRuntime, rfl, rfl⟩

section Published

variable {Subscriber : Type} {detailSubscribers : Option (UUID → List Subscriber)}
  {stateStore : Option (FMap UUID DeviceState)} {subscriber : Subscriber}
  {message : SnapshotDeltaMessagePayload}

section

variable
  (h : (subscriber, message) ∈ publishSubscribedDetailDelta lower runtime detailSubscribers
    stateStore deviceTopology device)
include h

theorem published_spec :
    message.baseVersion = runtime.overviewVersion ∧ message.version = runtime.overviewVersion ∧
      ∃ delta, Normalized delta ∧ message.delta = cloneSnapshot (some delta) := by
  unfold publishSubscribedDetailDelta at h
  cases detailSubscribers with
  | none => cases h
  | some subscribers =>
    cases stateStore with
    | none => cases h
    | some states =>
      dsimp only at h
      cases hstate : states.get device.id with
      | none =>
        rw [hstate] at h
        cases h
      | some deviceState =>
        rw [hstate] at h
        obtain ⟨found, -, heq⟩ := List.mem_map.1 h
        obtain ⟨-, rfl⟩ := Prod.mk.inj heq
        refine ⟨rfl, rfl, _, ?_, rfl⟩
        apply buildDeviceDetailDeltaWithLinks_normalized
        intro dto hdto
        exact detailLinkRuntimes_normalized hdto

/-- A subscriber can read every detail delta, and the two versions in it are the same number. -/
theorem parseSnapshotDelta_published : ∃ delta, parseSnapshotDelta message =
      some ({ baseVersion := some (.ofDecimal runtime.overviewVersion)
              version := some (.ofDecimal runtime.overviewVersion) }, delta) := by
  obtain ⟨hbase, hversion, delta, hnormalized, hdelta⟩ := published_spec h
  refine ⟨delta.client, ?_⟩
  rw [parseSnapshotDelta, hdelta, parse_client hnormalized.known, hbase, hversion]
  rfl

end

end Published

/-- Every number that `JSON.parse` reads equals itself. -/
theorem Client.Number.le_ofDecimal_self (n : Nat) :
    (ofDecimal n).le (ofDecimal n) = true := by
  simp [Number.le, ofDecimal, strictEq]

theorem classifyRuntimeDelta_detail (messageType : RuntimeDeltaMessageType) (n : Nat)
    (state : RuntimeDeltaClientState) :
    classifyRuntimeDelta messageType
        { baseVersion := some (.ofDecimal n), version := some (.ofDecimal n) } state =
      .requestResync .clientResyncScheduled
        (if state.currentStreamId.isSome then .runtimeStreamMismatch else .invalidDeltaVersion) := by
  obtain ⟨currentVersion, currentStreamId, hasRuntimeSnapshot⟩ := state
  cases currentStreamId with
  | none =>
    -- no stream on either side: the versions decide, and they are equal
    simp [classifyRuntimeDelta, classifyDeltaVersions, hasStream, le_ofDecimal_self]
  | some streamId =>
    by_cases hblank : trim streamId = "" <;> simp [classifyRuntimeDelta, hasStream, hblank]

/-- A client answers every detail delta that it is sent with a resync and never applies or ignores
it, whatever its cursor and the overview version of the server are. -/
theorem detail_delta_requests_resync {Subscriber : Type} (lower : Char → Char)
    (runtime : PipelineRuntimeState) (detailSubscribers : Option (UUID → List Subscriber))
    (stateStore : Option (FMap UUID DeviceState))
    (deviceTopology : Option (FMap UUID Device × List Link)) (device : Device)
    (subscriber : Subscriber) (message : SnapshotDeltaMessagePayload)
    (hsent : (subscriber, message) ∈ publishSubscribedDetailDelta lower runtime detailSubscribers
      stateStore deviceTopology device) :
    ∃ envelope delta, parseSnapshotDelta message = some (envelope, delta) ∧
      ∀ state : RuntimeDeltaClientState,
        classifyRuntimeDelta .snapshotDelta envelope state =
          .requestResync .clientResyncScheduled
            (if state.currentStreamId.isSome then .runtimeStreamMismatch
              else .invalidDeltaVersion) := by
  obtain ⟨delta, hparsed⟩ := parseSnapshotDelta_published hsent
  exact ⟨_, delta, hparsed, classifyRuntimeDelta_detail .snapshotDelta runtime.overviewVersion⟩

/-- The detail delta of the only device, sent to one subscriber at overview version 5. -/
def soloDetail : List (Nat × SnapshotDeltaMessagePayload) :=
  publishSubscribedDetailDelta Char.toLower { overviewVersion := 5 } (some fun _ => [1])
    (some (FMap.ofList [(soloDevice.id, {})])) none soloDevice

theorem soloDetail_eq : ∃ message, soloDetail = [(1, message)] := by
  rw [soloDetail, publishSubscribedDetailDelta]
  exact ⟨_, rfl⟩

/-- The client at version 4 of its stream and the one at version 5 both ask for a resync. -/
theorem detail_delta_requests_resync_solo :
    ∃ message envelope delta, (1, message) ∈ soloDetail ∧
      parseSnapshotDelta message = some (envelope, delta) ∧
      ∀ version ∈ [4, 5], classifyRuntimeDelta .snapshotDelta envelope
          { currentVersion := some (.finite version), currentStreamId := some "s",
            hasRuntimeSnapshot := true } =
        .requestResync .clientResyncScheduled .runtimeStreamMismatch := by
  obtain ⟨message, hmessage⟩ := soloDetail_eq
  have hmem : (1, message) ∈ soloDetail := by simp [hmessage]
  obtain ⟨envelope, delta, hparsed, hclassify⟩ :=
    detail_delta_requests_resync _ _ _ _ _ _ 1 message hmem
  exact ⟨message, envelope, delta, hmem, hparsed, fun version _ => hclassify _⟩

/-- A client with an established stream, at the overview version of the server, that is sent a
detail delta and asks for a resync. -/
theorem detail_delta_resyncs_current_client :
    ∃ message envelope delta, (1, message) ∈ soloDetail ∧
      parseSnapshotDelta message = some (envelope, delta) ∧
      hasStream (some "s") = true ∧
      classifyRuntimeDelta .snapshotDelta envelope
          { currentVersion := some (.finite 5), currentStreamId := some "s",
            hasRuntimeSnapshot := true } =
        .requestResync .clientResyncScheduled .runtimeStreamMismatch := by
  obtain ⟨message, hmessage⟩ := soloDetail_eq
  have hmem : (1, message) ∈ soloDetail := by simp [hmessage]
  obtain ⟨delta, hparsed⟩ := parseSnapshotDelta_published hmem
  exact ⟨message, _, delta, hmem, hparsed, by decide,
    classifyRuntimeDelta_detail .snapshotDelta _ _⟩

end Theia
