import Theia.ForStd.Run
import Theia.Native.Broadcaster
import Theia.Spec.DirtyDelta

/-!
# Versions of the overview

What one step of the broadcaster does to the overview that clients see: it stays, it moves to the
next version by a patch, or a new stream starts (`Moves`). This needs that a step which continues
the current stream reads the devices and links of the last overview (`KeepsTopology`); without it
the overview changes under a version that clients already have.
-/

namespace Theia

open FMap Option Client

variable {lower : Char → Char} {dirtyDevices : Finset UUID} {alertsDirty : Bool}
  {delta last : SnapshotPayload} {runtime next : PipelineRuntimeState} {calls : List HubCall}
  {result : PipelineRuntimeState × List HubCall}

/-! ### Hashes cover what the client keeps -/

/-- Records with the same hashed parts are the same for a client. -/
theorem clientDevice_of_hashParts {a b : DeviceRuntimeDTO}
    (h : deviceHashParts a = deviceHashParts b) : clientDevice a = clientDevice b := by
  simp only [deviceHashParts, fieldStateHashPart, List.cons.injEq, WireValue.strs.injEq,
    and_true] at h
  unfold clientDevice cloneDeviceRuntimeDTO deviceRuntimeFields wireStrings clientFieldStates
  simp [h]

theorem clientLink_of_hashParts {a b : LinkRuntimeDTO} (h : linkHashParts a = linkHashParts b) :
    clientLink a = clientLink b := by
  simp only [linkHashParts, List.cons.injEq, and_true] at h
  unfold clientLink linkRuntimeFields
  simp [h]

theorem clientDevice_forSnapshot (dto : DeviceRuntimeDTO) :
    clientDevice (cloneDeviceRuntimeForSnapshot dto) = clientDevice dto := by
  unfold clientDevice
  rw [cloneDeviceRuntimeDTO_forSnapshot]
  rfl

/-- A client does not see that a snapshot was cloned. -/
theorem cloneSnapshot_client (snapshot : SnapshotPayload) :
    (cloneSnapshot (some snapshot)).client = snapshot.client := by
  refine SnapshotPayload.client_ext (fun key => ?_) fun _ => rfl
  rw [cloneSnapshot_device, map_map]
  rfl

/-! ### Snapshots of the builder -/

/-- All records of a built snapshot are normalized ones. -/
theorem buildPipelineSnapshot_normalized (lower : Char → Char) (inputs : OverviewInputs) :
    Normalized (buildPipelineSnapshot lower inputs) where
  devices id dto hdto := by
    obtain ⟨device, -, he⟩ := List.mem_map.1 (mem_of_get_ofList hdto)
    rw [Prod.mk.injEq] at he
    exact ⟨device, _, _, _, he.1.symm, he.2.symm⟩
  links id dto hdto := by
    obtain ⟨link, -, he⟩ := List.mem_map.1 (mem_of_get_ofList hdto)
    rw [Prod.mk.injEq] at he
    exact ⟨link, _, _, _, he.1.symm, he.2.symm⟩

theorem emptySnapshot_known : KnownSnapshot emptySnapshot where
  devices id dto hdto := by simp [emptySnapshot] at hdto
  links id dto hdto := by simp [emptySnapshot] at hdto

/-- The two snapshots have the same devices and the same links with the same endpoints. -/
structure SameEntities (current previous : SnapshotPayload) : Prop where
  devices : ∀ key, (∃ dto, current.devices.get key = some dto) ↔
    ∃ dto, previous.devices.get key = some dto
  links : ∀ key, (∃ dto, current.links.get key = some dto) ↔
    ∃ dto, previous.links.get key = some dto
  endpoints : ∀ key a b, current.links.get key = some a → previous.links.get key = some b →
    b.endpoints = a.endpoints

/-- No two different records of one link, one in each snapshot, have the same hash. -/
def NoLinkCollision (hash : List WireValue → Nat) (previous current : SnapshotPayload) : Prop :=
  ∀ key a b, previous.links.get key = some a → current.links.get key = some b →
    computeLinkRuntimeHash hash a = computeLinkRuntimeHash hash b →
    linkHashParts a = linkHashParts b

theorem KnownSnapshot.clone {snapshot : SnapshotPayload} (h : KnownSnapshot snapshot) :
    KnownSnapshot (cloneSnapshot (some snapshot)) where
  devices id dto hdto := by
    obtain ⟨value, hvalue, rfl⟩ := map_eq_some_iff.1 hdto
    obtain ⟨hid, hknown⟩ := h.devices id value hvalue
    exact ⟨hid, { hknown with }⟩
  links := h.links

/-- An entry is changed unless its hash is the previous one. -/
theorem changedEntries_get {V : Type} (current : FMap String V) (hash : V → Nat)
    (previousHashes : FMap String Nat) (key : String) :
    (changedEntries current (current.map fun _ value => hash value) previousHashes).get key =
      (current.get key).bind fun value =>
        if previousHashes.get key = some (hash value) then none else some value := by
  unfold changedEntries
  rw [get_filterMap, FMap.get_map]
  cases current.get key <;> rfl

theorem changedEntries_value {V : Type} {current : FMap String V} {hash : V → Nat}
    {previousHashes : FMap String Nat} {key : String} {value : V}
    (h : (changedEntries current (current.map fun _ value => hash value) previousHashes).get key =
      some value) : current.get key = some value := by
  rw [changedEntries_get] at h
  obtain ⟨other, hother, h⟩ := bind_eq_some_iff.1 h
  split at h
  · cases h
  · rw [hother, h]

/-- The changed entries over the last ones are the current ones, up to what is kept of them. -/
theorem overlay_changedEntries {V W : Type} {current last : FMap String V} {hash : V → Nat}
    {keep : V → W} (hsame : ∀ key, (∃ value, current.get key = some value) ↔
      ∃ value, last.get key = some value)
    (hkeep : ∀ key a b, last.get key = some a → current.get key = some b → hash a = hash b →
      keep a = keep b) (key : String) :
    ((last.overlay (changedEntries current (current.map fun _ value => hash value)
      (last.map fun _ value => hash value))).get key).map keep = (current.get key).map keep := by
  rw [get_overlay, changedEntries_get, FMap.get_map]
  cases hcur : current.get key with
  | none =>
    cases hlast : last.get key with
    | none => rfl
    | some value =>
      obtain ⟨value', hvalue'⟩ := (hsame key).2 ⟨value, hlast⟩
      rw [hcur] at hvalue'
      cases hvalue'
  | some value =>
    obtain ⟨prev, hprev⟩ := (hsame key).1 ⟨value, hcur⟩
    rw [hprev, bind_some, map_some]
    split_ifs with heq
    · show some (keep prev) = some (keep value)
      rw [hkeep key prev value hprev hcur (Option.some.inj heq)]
    · rfl

/-! ### The patch of a rebuild -/

section Rebuild

variable {hash : List WireValue → Nat} {last current : SnapshotPayload}

variable (hash last current) in
/-- The records that `buildDelta` finds changed. -/
def changedRecords : SnapshotPayload where
  devices := changedEntries current.devices (computeSnapshotHashes hash current).devices
    (computeSnapshotHashes hash last).devices
  links := changedEntries current.links (computeSnapshotHashes hash current).links
    (computeSnapshotHashes hash last).links

theorem overlay_changedRecords_client (hsame : SameEntities current last)
    (hdevices : NoCollision hash last current) (hlinks : NoLinkCollision hash last current) :
    (last.overlay (changedRecords hash last current)).client = current.client := by
  apply SnapshotPayload.client_ext
  · apply overlay_changedEntries hsame.devices
    intro key a b ha hb heq
    exact clientDevice_of_hashParts (hdevices key a b ha hb heq)
  · apply overlay_changedEntries hsame.links
    intro key a b ha hb heq
    exact clientLink_of_hashParts (hlinks key a b ha hb heq)

/-- The patch that `broadcastOnce` makes takes the client from the last snapshot to the new
one. -/
theorem patch_of_rebuild (hlast : KnownSnapshot last) (hcurrent : Normalized current)
    (hsame : SameEntities current last) (hdevices : NoCollision hash last current)
    (hlinks : NoLinkCollision hash last current) :
    PayloadPatch last.client current.client
      (buildRuntimeDeltaPatch (buildDelta current (computeSnapshotHashes hash current)
        (computeSnapshotHashes hash last)) (some (cloneSnapshot (some last)))) := by
  have hoverlay := overlay_changedRecords_client hsame hdevices hlinks
  unfold buildDelta
  dsimp only
  split
  · -- nothing changed
    rename_i hempty
    have hnone : changedRecords hash last current = emptySnapshot := eq_emptySnapshot hempty
    show current.client = last.client
    rw [← hoverlay, hnone]
    simp [SnapshotPayload.overlay, emptySnapshot]
  · show PayloadPatch last.client current.client
      (buildRuntimeDeltaPatch (some (changedRecords hash last current)) _)
    have hknown : KnownSnapshot (changedRecords hash last current) :=
      ⟨fun id dto h => hcurrent.known.devices id dto (changedEntries_value h),
        fun id dto h => hcurrent.known.links id dto (changedEntries_value h)⟩
    have hcovered : CoveredBy (changedRecords hash last current) (cloneSnapshot (some last)) := by
      constructor
      · intro id dto h
        obtain ⟨prev, hprev⟩ := (hsame.devices id).1 ⟨dto, changedEntries_value h⟩
        exact ⟨_, by rw [cloneSnapshot_device, hprev]; rfl⟩
      · intro id dto h
        obtain ⟨prev, hprev⟩ := (hsame.links id).1 ⟨dto, changedEntries_value h⟩
        exact ⟨prev, hprev, hsame.endpoints id dto prev (changedEntries_value h) hprev⟩
    have hspec := buildRuntimeDeltaPatch_spec hknown
      (fun id dto h => hcurrent.flags (changedEntries_value h)) hlast.clone hcovered
    have hclone : ((cloneSnapshot (some last)).overlay (changedRecords hash last current)).client =
        (last.overlay (changedRecords hash last current)).client := by
      refine SnapshotPayload.client_ext (fun key => ?_) fun _ => rfl
      show Option.map _ (Option.orElse _ _) = Option.map _ (Option.orElse _ _)
      cases (changedRecords hash last current).devices.get key with
      | some dto => rfl
      | none =>
        show Option.map _ (Option.map _ _) = Option.map _ _
        rw [map_map]
        rfl
    rw [cloneSnapshot_client, hclone, hoverlay] at hspec
    exact hspec

end Rebuild

/-! ### The patch of a dirty delta -/

section Patch

variable {hash : List WireValue → Nat} {inputs : OverviewInputs}
  {previousAlertDeviceIDs : Finset UUID} {previousHashes : Option SectionHashes}
  {previousAlertRuntime : FMap UUID DeviceRuntimeDTO}
  (h : collectDirtyDelta lower hash inputs dirtyDevices alertsDirty previousAlertDeviceIDs
    previousHashes previousAlertRuntime = some delta)
include h

/-- All records of a delta are normalized ones. -/
theorem collectDirtyDelta_normalized : Normalized delta := by
  obtain ⟨contextIDs, hdevices, hlinks⟩ := collectDirtyDelta_entries h
  have hnorm := buildPipelineSnapshot_normalized lower
    (partialInputs inputs dirtyDevices contextIDs)
  exact ⟨fun id dto hdto => hnorm.devices id dto (hdevices id dto hdto),
    fun id dto hdto => hnorm.links id dto (hlinks id dto hdto)⟩

/-- A delta has no records but those of the last overview. -/
theorem collectDirtyDelta_covered (hnodup : (inputs.links.map (·.id)).Nodup)
    (hsame : SameEntities (buildPipelineSnapshot lower inputs) last) : CoveredBy delta last := by
  obtain ⟨contextIDs, hdevices, hlinks⟩ := collectDirtyDelta_entries h
  refine ⟨?_, ?_⟩
  · intro key dto hdto
    have hpartial := hdevices key dto hdto
    obtain ⟨id, rfl⟩ := buildPipelineSnapshot_deviceKey hpartial
    apply (hsame.devices _).1
    change (buildPipelineSnapshot lower (partialInputs inputs dirtyDevices contextIDs)).devices.get
      _ = some dto at hpartial
    rw [buildPipelineSnapshot_device, devicesByID_filter] at hpartial
    split at hpartial
    · obtain ⟨device, hdevice, -⟩ := map_eq_some_iff.1 hpartial
      exact ⟨_, by rw [buildPipelineSnapshot_device, hdevice]; rfl⟩
    · cases hpartial
  · intro key dto hdto
    have hpartial := hlinks key dto hdto
    have hnodup' : ((filterLinksByDeviceID inputs.links dirtyDevices).map (·.id)).Nodup :=
      hnodup.sublist (List.filter_sublist.map _)
    change (buildPipelineSnapshot lower (partialInputs inputs dirtyDevices contextIDs)).links.get
      _ = some dto at hpartial
    rw [buildPipelineSnapshot_link hnodup'] at hpartial
    obtain ⟨link, hlink, hkey, rfl⟩ := hpartial
    have hfull : (buildPipelineSnapshot lower inputs).links.get key =
        some (linkRecord lower inputs link) :=
      (buildPipelineSnapshot_link hnodup).2
        ⟨link, (mem_filterLinksByDeviceID.1 hlink).1, hkey, rfl⟩
    obtain ⟨prev, hprev⟩ := (hsame.links key).1 ⟨_, hfull⟩
    -- the endpoints of a record are those of its link
    exact ⟨prev, hprev, (hsame.endpoints key _ prev hfull hprev).trans rfl⟩

end Patch

theorem KnownDevice.forSnapshot {dto : DeviceRuntimeDTO} (h : KnownDevice dto) :
    KnownDevice (cloneDeviceRuntimeForSnapshot dto) := by
  have hflags : ∀ flag ∈ (cloneDeviceRuntimeForSnapshot dto).runtimeFlags.getD [],
      flag ∈ Client.runtimeFlags := by
    have hgetD : (cloneDeviceRuntimeForSnapshot dto).runtimeFlags.getD [] =
        dto.runtimeFlags.getD [] := by
      unfold cloneDeviceRuntimeForSnapshot
      rcases dto.runtimeFlags with _ | _ | _ <;> rfl
    rw [hgetD]
    exact h.runtimeFlags
  exact { h with runtimeFlags := hflags }

section Apply

variable {hash : List WireValue → Nat} {last delta : SnapshotPayload}

variable (hash) in
/-- A client sees the delta over the last overview. -/
theorem applySnapshotDelta_client (hashes : Option SectionHashes) :
    (applySnapshotDeltaToRuntime hash (some last) hashes (some delta)).1.client =
      (last.overlay delta).client := by
  refine SnapshotPayload.client_ext (fun key => ?_) fun _ => rfl
  show Option.map _ (Option.orElse (Option.map _ _) _) = Option.map _ (Option.orElse _ _)
  cases delta.devices.get key with
  | none => rfl
  | some dto =>
    show some (clientDevice (cloneDeviceRuntimeForSnapshot dto)) = some (clientDevice dto)
    rw [clientDevice_forSnapshot]

/-- The stored overview is known again. -/
theorem applySnapshotDelta_known (hashes : Option SectionHashes) (hlast : KnownSnapshot last)
    (hdelta : KnownSnapshot delta) :
    KnownSnapshot (applySnapshotDeltaToRuntime hash (some last) hashes (some delta)).1 where
  devices id dto hdto := by
    rcases get_overlay_eq_some hdto with hdto | hdto
    · obtain ⟨value, hvalue, rfl⟩ := map_eq_some_iff.1 hdto
      obtain ⟨hid, hknown⟩ := hdelta.devices id value hvalue
      exact ⟨hid, hknown.forSnapshot⟩
    · exact hlast.devices id dto hdto
  links id dto hdto := by
    rcases get_overlay_eq_some hdto with hdto | hdto
    · exact hdelta.links id dto hdto
    · exact hlast.links id dto hdto

/-- The stored hashes are those of the stored overview. -/
theorem applySnapshotDelta_hashes :
    (applySnapshotDeltaToRuntime hash (some last) (some (computeSnapshotHashes hash last))
      (some delta)).2 =
      computeSnapshotHashes hash
        (applySnapshotDeltaToRuntime hash (some last) (some (computeSnapshotHashes hash last))
          (some delta)).1 := by
  show SectionHashes.mk _ _ = SectionHashes.mk _ _
  rw [SectionHashes.mk.injEq]
  exact ⟨overlay_map _ _ _, overlay_map _ _ _⟩

end Apply

namespace PipelineRuntimeState

variable {hash : List WireValue → Nat} {marshal : RuntimeDeltaPayload → Option Nat}

/-! ### One step -/

/-- What clients see of the overview. -/
def view (runtime : PipelineRuntimeState) : RuntimeRecords :=
  (runtime.lastSnapshot.getD emptySnapshot).client

/-- The cursor of the overview. -/
def cursor (runtime : PipelineRuntimeState) : String × Nat :=
  (runtime.overviewStreamID, runtime.overviewVersion)

/-- The runtime state holds a known snapshot, and its hashes if it has some. -/
structure Holds (hash : List WireValue → Nat) (runtime : PipelineRuntimeState)
    (last : SnapshotPayload) : Prop where
  lastSnapshot : runtime.lastSnapshot = some last
  known : KnownSnapshot last
  hashes : ∀ hashes, runtime.prevHashes = some hashes → hashes = computeSnapshotHashes hash last

theorem Holds.view (h : runtime.Holds hash last) : runtime.view = last.client := by
  rw [PipelineRuntimeState.view, h.lastSnapshot]
  rfl

/-- The calls that concern the overview stream. -/
def overviewCalls (calls : List HubCall) : List HubCall :=
  calls.filter fun call => match call with
    | .topologyChanged _ => false
    | _ => true

@[simp] theorem overviewCalls_topologyChanged (calls : List HubCall) (version : Nat) :
    overviewCalls (calls ++ [.topologyChanged version]) = overviewCalls calls := by
  simp [overviewCalls]

/-- What a step does to the overview that clients see, where `streamID` is the identifier of a
new stream. -/
inductive Moves (marshal : RuntimeDeltaPayload → Option Nat) (streamID : String)
    (runtime next : PipelineRuntimeState) (calls : List HubCall) : Prop
  /-- The overview stays. -/
  | stays (hcursor : next.cursor = runtime.cursor) (hview : next.view = runtime.view)
      (hjournal : next.overviewJournal = runtime.overviewJournal) (hcalls : overviewCalls calls = [])
  /-- A patch is journalled and broadcast, and takes clients to the next version. -/
  | patches (patch : RuntimeDeltaPayload)
      (hcursor : next.cursor = (runtime.overviewStreamID, runtime.overviewVersion + 1))
      (hpatch : PayloadPatch runtime.view next.view (some patch))
      (hjournal : next.overviewJournal = runtime.overviewJournal.append marshal
        runtime.overviewVersion (runtime.overviewVersion + 1) (some patch))
      (hcalls : overviewCalls calls = [.broadcastOverviewStreamDelta patch runtime.overviewVersion
        (runtime.overviewVersion + 1) runtime.overviewStreamID])
  /-- A new stream starts with a snapshot for every client; without clients it is not sent. -/
  | restarts (state : RuntimeOverviewState)
      (hcursor : next.cursor = (streamID, runtime.overviewVersion + 1))
      (hstate : (state.streamID, state.version) = next.cursor)
      (hsnapshot : KnownSnapshot state.snapshot) (hview : state.snapshot.client = next.view)
      (hjournal : next.overviewJournal = runtime.overviewJournal.reset)
      (hcalls : overviewCalls calls = [.replaceOverviewClients state] ∨ overviewCalls calls = [])

/-- The stream that a step may start. -/
def Op.streamID : Op → String
  | .broadcastOnce _ streamID _ => streamID
  | .broadcastDirty _ _ _ _ _ _ _ streamID => streamID
  | .getOrBuildOverviewState _ streamID _ => streamID
  | .setAlerts _ _ => ""
  | .setPrometheusStatus _ => ""

/-- A build that continues the current stream reads the devices and links of the last overview,
with the endpoints and interfaces that the links had, and no compared records collide. -/
def Op.KeepsTopology (lower : Char → Char) (hash : List WireValue → Nat)
    (runtime : PipelineRuntimeState) : Op → Prop
  | .broadcastOnce reads _ _ =>
    ∀ devices last, runtime.prevHashes ≠ none → reads.devices = some devices →
      runtime.lastSnapshot = some last →
      let current := buildPipelineSnapshot lower
        (runtime.inputs devices (reads.links.getD []) reads.states)
      SameEntities current last ∧ NoCollision hash last current ∧ NoLinkCollision hash last current
  | .broadcastDirty _ _ topologyDirty forceFull overflowed _ reads _ =>
    ∀ inputs last, overflowed = false → topologyDirty = false → forceFull = false →
      runtime.prevHashes ≠ none → runtime.readInputs reads = some inputs →
      runtime.lastSnapshot = some last →
      (inputs.links.map (·.id)).Nodup ∧ SameEntities (buildPipelineSnapshot lower inputs) last
  | _ => True

/-- The invalidation of the topology does not concern the overview stream. -/
theorem moves_topologyInvalidation {streamID : String}
    (h : Moves marshal streamID runtime next calls) :
    Moves marshal streamID runtime next.broadcastTopologyInvalidation.1
      (calls ++ next.broadcastTopologyInvalidation.2) := by
  have hcalls : overviewCalls (calls ++ next.broadcastTopologyInvalidation.2) =
      overviewCalls calls := overviewCalls_topologyChanged calls _
  cases h with
  | stays hcursor hview hjournal hnone => exact .stays hcursor hview hjournal (hcalls.trans hnone)
  | patches patch hcursor hpatch hjournal hsent =>
    exact .patches patch hcursor hpatch hjournal (hcalls.trans hsent)
  | restarts state hcursor hstate hsnapshot hview hjournal hsent =>
    exact .restarts state hcursor hstate hsnapshot hview hjournal (hcalls ▸ hsent)

theorem Holds.stale (h : runtime.Holds hash last) :
    runtime.markOverviewRuntimeBaseStale.Holds hash last :=
  ⟨h.lastSnapshot, h.known, nofun⟩

theorem Holds.topologyInvalidation (h : runtime.Holds hash last) :
    runtime.broadcastTopologyInvalidation.1.Holds hash last :=
  ⟨h.lastSnapshot, h.known, nofun⟩

/-- A step moves the overview, and the runtime state holds a known snapshot again. -/
def Good (hash : List WireValue → Nat) (marshal : RuntimeDeltaPayload → Option Nat)
    (streamID : String) (runtime : PipelineRuntimeState)
    (result : PipelineRuntimeState × List HubCall) : Prop :=
  Moves marshal streamID runtime result.1 result.2 ∧ ∃ last, result.1.Holds hash last

section Steps

variable {streamID : String} {runtime : PipelineRuntimeState} {last : SnapshotPayload}
  {reads : OverviewReads}

theorem Good.topologyInvalidation (h : Good hash marshal streamID runtime result) :
    Good hash marshal streamID runtime (result.1.broadcastTopologyInvalidation.1,
      result.2 ++ result.1.broadcastTopologyInvalidation.2) := by
  obtain ⟨hmoves, last, hlast⟩ := h
  exact ⟨moves_topologyInvalidation hmoves, last, hlast.topologyInvalidation⟩

section

variable (h : runtime.Holds hash last)
include h

theorem Holds.idle : Good hash marshal streamID runtime (runtime, []) :=
  ⟨.stays rfl rfl rfl rfl, last, h⟩

/-- Skipped work makes the base stale. -/
theorem Holds.skip (topologyDirty : Bool) :
    Good hash marshal streamID runtime (runtime.skipOverviewWork topologyDirty) := by
  have hstale : Good hash marshal streamID runtime (runtime.markOverviewRuntimeBaseStale, []) :=
    ⟨.stays rfl rfl rfl rfl, last, h.stale⟩
  cases topologyDirty with
  | true => exact hstale.topologyInvalidation
  | false => exact hstale

omit h in
/-- A new stream holds the snapshot that it starts with. -/
theorem startStream_holds (lower : Char → Char) (hash : List WireValue → Nat)
    (runtime : PipelineRuntimeState) (inputs : OverviewInputs) (streamID : String) :
    (runtime.startStream hash (buildPipelineSnapshot lower inputs) streamID).Holds hash
      (buildPipelineSnapshot lower inputs) := by
  refine ⟨rfl, (buildPipelineSnapshot_normalized lower inputs).known, ?_⟩
  intro hashes h
  exact (Option.some.inj h).symm

omit h in
/-- A full snapshot starts a new stream. -/
theorem broadcastFullSnapshot_good {topologyChanged : Bool}
    (h : runtime.broadcastFullSnapshot lower hash reads streamID topologyChanged = some result) :
    Good hash marshal streamID runtime result := by
  unfold broadcastFullSnapshot at h
  split at h
  · cases h
  rename_i snapshot hsnapshot
  obtain ⟨inputs, -, rfl⟩ := map_eq_some_iff.1 hsnapshot
  have hholds := startStream_holds lower hash runtime inputs streamID
  have hgood : Good hash marshal streamID runtime
      ({ runtime.startStream hash (buildPipelineSnapshot lower inputs) streamID with
          previousAlertRuntime := alertRuntimeSummaryFromSnapshot
            (buildPipelineSnapshot lower inputs) },
        [.replaceOverviewClients
          { snapshot := buildPipelineSnapshot lower inputs
            version := runtime.overviewVersion + 1
            streamID }]) :=
    ⟨.restarts _ rfl rfl hholds.known rfl rfl (.inl rfl), _, { hholds with }⟩
  split at h <;> rw [← Option.some.inj h]
  · exact hgood.topologyInvalidation
  · exact hgood

/-- `getOrBuildOverviewStateLocked` keeps the overview or starts a new stream. -/
theorem getOrBuildOverviewState_good (hasOverviewClients : Bool) :
    Good hash marshal streamID runtime
      ((runtime.getOrBuildOverviewState lower hash reads streamID hasOverviewClients).1,
        (runtime.getOrBuildOverviewState lower hash reads streamID hasOverviewClients).2.2) := by
  unfold getOrBuildOverviewState
  split
  · exact h.idle
  split
  · exact h.idle
  rename_i snapshot hsnapshot
  obtain ⟨inputs, -, rfl⟩ := map_eq_some_iff.1 hsnapshot
  have hholds := startStream_holds lower hash runtime inputs streamID
  have hview : (runtime.startStream hash (buildPipelineSnapshot lower inputs)
      streamID).currentState.snapshot.client =
      (runtime.startStream hash (buildPipelineSnapshot lower inputs) streamID).view :=
    cloneSnapshot_client _
  refine ⟨.restarts (runtime.startStream hash (buildPipelineSnapshot lower inputs)
    streamID).currentState rfl rfl hholds.known.clone hview rfl ?_, _, hholds⟩
  cases hasOverviewClients with
  | true => exact .inl rfl
  | false => exact .inr rfl

omit h in
/-- A patch between the overviews moves clients from one to the other. -/
theorem publishPatch_good {next : SnapshotPayload} {stored : PipelineRuntimeState}
    {patch : RuntimeDeltaPayload} (hstored : stored.Holds hash next)
    (hcursor : stored.cursor = runtime.cursor)
    (hjournal : stored.overviewJournal = runtime.overviewJournal)
    (hpatch : PayloadPatch runtime.view next.client (some patch)) :
    Good hash marshal streamID runtime (stored.publishPatch marshal patch) := by
  have hversion : stored.overviewVersion = runtime.overviewVersion := congrArg Prod.snd hcursor
  have hstream : stored.overviewStreamID = runtime.overviewStreamID := congrArg Prod.fst hcursor
  have hview : (stored.publishPatch marshal patch).1.view = next.client := hstored.view
  refine ⟨.patches patch ?_ (hview ▸ hpatch) ?_ ?_, next, { hstored with }⟩
  · simp [cursor, publishPatch, hversion, hstream]
  · simp [publishPatch, hversion, hjournal]
  · simp only [publishPatch, hversion, hstream]
    rfl

/-- What `broadcastOnce` stores before it publishes anything. -/
abbrev stored (lower : Char → Char) (hash : List WireValue → Nat) (runtime : PipelineRuntimeState)
    (inputs : OverviewInputs) : PipelineRuntimeState :=
  { runtime with
    lastSnapshot := some (buildPipelineSnapshot lower inputs)
    prevHashes := some (computeSnapshotHashes hash (buildPipelineSnapshot lower inputs))
    previousAlertRuntime := alertRuntimeSummaryFromSnapshot (buildPipelineSnapshot lower inputs) }

omit h in
/-- With hashes to compare with, `publishOnce` keeps the stream. -/
theorem publishOnce_continues {previous : PipelineRuntimeState} {snapshot : SnapshotPayload}
    (hprev : previous.prevHashes ≠ none) :
    (publishOnce hash marshal previous runtime snapshot streamID).1.lastSnapshot =
        runtime.lastSnapshot ∧
      (publishOnce hash marshal previous runtime snapshot streamID).1.overviewStreamID =
        runtime.overviewStreamID := by
  unfold publishOnce
  split
  · exact absurd ‹_› hprev
  · dsimp only
    split
    · exact ⟨rfl, rfl⟩
    · exact ⟨rfl, rfl⟩

/-- `broadcastOnce` -/
theorem broadcastOnce_good (drainedTopology : Bool)
    (htopology :
      (Op.broadcastOnce reads streamID drainedTopology).KeepsTopology lower hash runtime) :
    Good hash marshal streamID runtime
      (runtime.broadcastOnce lower hash marshal reads streamID drainedTopology) := by
  unfold broadcastOnce
  split
  · exact h.idle
  rename_i devices hdevices
  generalize hinputs : runtime.inputs devices (reads.links.getD []) reads.states = inputs
  have hstored : (runtime.stored lower hash inputs).Holds hash
      (buildPipelineSnapshot lower inputs) :=
    { startStream_holds lower hash runtime inputs streamID with }
  have hpublish : Good hash marshal streamID runtime
      (publishOnce hash marshal runtime (runtime.stored lower hash inputs)
        (buildPipelineSnapshot lower inputs) streamID) := by
    unfold publishOnce
    split
    · exact ⟨.restarts _ rfl rfl hstored.known rfl rfl (.inl rfl), _,
        startStream_holds lower hash _ inputs _⟩
    rename_i hashes hprev
    obtain ⟨hsame, hcollision, hlinkCollision⟩ := htopology devices last
      (by rw [hprev]; exact some_ne_none _) hdevices h.lastSnapshot
    rw [hinputs] at hsame hcollision hlinkCollision
    have hpatch := patch_of_rebuild h.known (buildPipelineSnapshot_normalized lower inputs) hsame
      hcollision hlinkCollision
    rw [← h.hashes hashes hprev, ← h.lastSnapshot, ← h.view] at hpatch
    dsimp only
    split
    · rename_i hnone
      rw [hnone] at hpatch
      exact ⟨.stays rfl hpatch rfl rfl, _, hstored⟩
    · rename_i patch hsome
      rw [hsome] at hpatch
      exact publishPatch_good hstored rfl rfl hpatch
  split
  · exact hpublish.topologyInvalidation
  · exact hpublish

/-- The end of `broadcastDirty` -/
theorem publishDelta_good (hprev : runtime.prevHashes ≠ none)
    (hdelta : Normalized delta) (hcovered : CoveredBy delta last) (alertsDirty : Bool) :
    Good hash marshal streamID runtime (runtime.publishDelta hash marshal delta alertsDirty) := by
  obtain ⟨hashes, hhashes⟩ := ne_none_iff_exists'.1 hprev
  have hpatch := buildRuntimeDeltaPatch_spec hdelta.known (fun _ _ => hdelta.flags) h.known hcovered
  unfold publishDelta
  rw [h.lastSnapshot, hhashes, h.hashes hashes hhashes]
  dsimp only
  split
  · exact h.idle
  rename_i patch hsome
  rw [hsome, ← applySnapshotDelta_client hash (some (computeSnapshotHashes hash last)),
    ← h.view] at hpatch
  refine publishPatch_good ?_ ?_ ?_ hpatch
  on_goal 2 => rfl
  on_goal 2 => rfl
  refine ⟨rfl, applySnapshotDelta_known _ h.known hdelta.known, ?_⟩
  intro hashes heq
  rw [← Option.some.inj heq]
  exact applySnapshotDelta_hashes

omit h in
/-- A delta was collected on the inputs that were read. -/
theorem buildDirtyOverviewDelta_eq {requireFull : Bool}
    (h : buildDirtyOverviewDelta lower hash runtime reads dirtyDevices alertsDirty =
      some (some delta, requireFull)) :
    ∃ inputs previousAlertDeviceIDs previousHashes, runtime.readInputs reads = some inputs ∧
      collectDirtyDelta lower hash inputs dirtyDevices alertsDirty previousAlertDeviceIDs
        previousHashes runtime.previousAlertRuntime = some delta := by
  unfold buildDirtyOverviewDelta at h
  split at h
  · cases h
  split at h
  · rename_i devices links hdevices hlinks
    split at h
    · cases h
    · rename_i previousAlertDeviceIDs previousHashes hbase
      refine ⟨runtime.inputs devices links reads.states, previousAlertDeviceIDs, previousHashes,
        ?_, ?_⟩
      · simp [readInputs, hdevices, hlinks]
      · exact congrArg Prod.fst (Option.some.inj h)
  · cases h

/-- `broadcastDirty` -/
theorem broadcastDirty_good {topologyDirty forceFull overflowed hasOverviewClients : Bool}
    (htopology : (Op.broadcastDirty dirtyDevices alertsDirty topologyDirty forceFull overflowed
      hasOverviewClients reads streamID).KeepsTopology lower hash runtime)
    (hresult : runtime.broadcastDirty lower hash marshal dirtyDevices alertsDirty topologyDirty
      forceFull overflowed hasOverviewClients reads streamID = some result) :
    Good hash marshal streamID runtime result := by
  unfold broadcastDirty at hresult
  split at hresult
  · split at hresult
    · exact broadcastFullSnapshot_good hresult
    · cases hresult
      exact h.skip topologyDirty
  · rename_i hoverflowed
    split at hresult
    · cases hresult
      exact h.idle.topologyInvalidation
    rename_i htopologyDirty
    split at hresult
    · split at hresult
      · exact broadcastFullSnapshot_good hresult
      · cases hresult
        exact h.skip false
    · rename_i hforce
      split at hresult
      · cases hresult
        exact h.idle
      split at hresult
      · cases hresult
        exact h.skip false
      split at hresult
      · exact broadcastFullSnapshot_good hresult
      rename_i hbase
      rw [Bool.or_eq_true, not_or, isNone_iff_eq_none] at hbase
      split at hresult
      · cases hresult
      · exact broadcastFullSnapshot_good hresult
      · cases hresult
        exact h.idle
      -- the delta continues the stream
      rename_i delta hdelta
      cases hresult
      obtain ⟨inputs, ids, hashes, hinputs, hcollect⟩ := buildDirtyOverviewDelta_eq hdelta
      obtain ⟨hnodup, hsame⟩ := htopology inputs last (by simpa using hoverflowed)
        (by simpa using htopologyDirty) (by simpa using hforce) hbase.1 hinputs
        h.lastSnapshot
      exact publishDelta_good h hbase.1 (collectDirtyDelta_normalized hcollect)
        (collectDirtyDelta_covered hcollect hnodup hsame) alertsDirty

variable (marshal) in
/-- Every step moves the overview. -/
theorem step_moves (op : Op) (htopology : op.KeepsTopology lower hash runtime) :
    Good hash marshal op.streamID runtime (runtime.step lower hash marshal op) := by
  cases op with
  | broadcastOnce reads streamID drainedTopology => exact broadcastOnce_good h _ htopology
  | broadcastDirty dirtyDevices alertsDirty topologyDirty forceFull overflowed hasOverviewClients
      reads streamID =>
    show Good hash marshal streamID runtime (Option.getD _ _)
    cases hresult : runtime.broadcastDirty lower hash marshal dirtyDevices alertsDirty topologyDirty
        forceFull overflowed hasOverviewClients reads streamID with
    | none => exact h.idle
    | some result => exact broadcastDirty_good h htopology hresult
  | getOrBuildOverviewState reads streamID hasOverviewClients =>
    exact getOrBuildOverviewState_good h hasOverviewClients
  | setAlerts | setPrometheusStatus =>
    exact ⟨.stays rfl rfl rfl rfl, last, { h with }⟩

end

end Steps

/-! ### Runs -/

/-- `uuid.NewString` does not return the identifier of the current stream. -/
def Op.Fresh (runtime : PipelineRuntimeState) : Op → Prop
  | .broadcastOnce _ streamID _ => streamID ≠ runtime.overviewStreamID
  | .broadcastDirty _ _ _ _ _ _ _ streamID => streamID ≠ runtime.overviewStreamID
  | .getOrBuildOverviewState _ streamID _ => streamID ≠ runtime.overviewStreamID
  | .setAlerts _ _ => True
  | .setPrometheusStatus _ => True

/-- The steps of a run in which every step meets the condition. -/
def Step (lower : Char → Char) (hash : List WireValue → Nat)
    (marshal : RuntimeDeltaPayload → Option Nat) (runtime : PipelineRuntimeState)
    (calls : List HubCall) (next : PipelineRuntimeState) : Prop :=
  ∃ op : Op, op.Fresh runtime ∧ op.KeepsTopology lower hash runtime ∧
    runtime.step lower hash marshal op = (next, calls)

/-- The runtime state at the start. -/
def Initial (runtime : PipelineRuntimeState) : Prop :=
  ∃ promStatus streamID, runtime = newPipelineRuntimeState promStatus streamID

theorem Initial.holds (h : Initial runtime) : runtime.Holds hash emptySnapshot := by
  obtain ⟨promStatus, streamID, rfl⟩ := h
  constructor
  · rfl
  · exact emptySnapshot_known
  · intro hashes h
    simp [newPipelineRuntimeState] at h

theorem Step.good (hlast : runtime.Holds hash last)
    (h : Step lower hash marshal runtime calls next) :
    ∃ streamID, Good hash marshal streamID runtime (next, calls) := by
  obtain ⟨op, -, htopology, hstep⟩ := h
  exact ⟨op.streamID, hstep ▸ step_moves marshal hlast op htopology⟩

/-- In every run the runtime state holds a known snapshot. -/
theorem run_holds {init : PipelineRuntimeState → Prop}
    (hinit : ∀ s, init s → ∃ last, s.Holds hash last)
    (h : Run init (Step lower hash marshal) runtime calls) : ∃ last, runtime.Holds hash last := by
  apply Run.invariant (P := fun runtime _ => ∃ last, runtime.Holds hash last) h
  · exact hinit
  · intro runtime _ calls next _ ⟨last, hlast⟩ hstep
    obtain ⟨streamID, -, hnext⟩ := hstep.good hlast
    exact hnext

/-- The overview stays, or it gets the next version. -/
theorem Moves.version {streamID : String} (h : Moves marshal streamID runtime next calls) :
    (next.overviewVersion = runtime.overviewVersion ∧ next.view = runtime.view) ∨
      next.overviewVersion = runtime.overviewVersion + 1 := by
  cases h with
  | stays hcursor hview => exact .inl ⟨congrArg Prod.snd hcursor, hview⟩
  | patches _ hcursor | restarts _ hcursor => exact .inr (congrArg Prod.snd hcursor)

/-- The version never falls, and the overview changes only with it. -/
theorem run_view (hlast : runtime.Holds hash last)
    (h : Run (· = runtime) (Step lower hash marshal) next calls) :
    runtime.overviewVersion ≤ next.overviewVersion ∧
      (next.overviewVersion = runtime.overviewVersion → next.view = runtime.view) := by
  apply Run.invariant (P := fun next _ => runtime.overviewVersion ≤ next.overviewVersion ∧
    (next.overviewVersion = runtime.overviewVersion → next.view = runtime.view)) h
  · intro s hs
    rw [hs]
    exact ⟨le_refl _, fun _ => rfl⟩
  · intro s _ calls next hrun ⟨hle, hview⟩ hstep
    obtain ⟨last', hlast'⟩ := run_holds (fun s hs => ⟨last, hs ▸ hlast⟩) hrun
    obtain ⟨streamID, hmoves, -⟩ := hstep.good hlast'
    rcases hmoves.version with ⟨hsame, hstays⟩ | hup
    · rw [hsame, hstays]
      exact ⟨hle, hview⟩
    · change next.overviewVersion = _ at hup
      exact ⟨by omega, fun hversion => by omega⟩

/-- Published state is a function of the cursor, in every run whose builds on the current stream
read the devices and links of the last overview. At two moments with the same cursor clients see
the same overview; and when the version goes up by one on the same stream, the overview is the
previous one with the patch merged that was journalled and broadcast for it. -/
theorem published_state_of_cursor (lower : Char → Char) (hash : List WireValue → Nat)
    (marshal : RuntimeDeltaPayload → Option Nat) (runtime : PipelineRuntimeState)
    (history : List HubCall) (hrun : Run Initial (Step lower hash marshal) runtime history) :
    (∀ next later, Run (· = runtime) (Step lower hash marshal) next later →
        next.cursor = runtime.cursor → next.view = runtime.view) ∧
      ∀ next calls, Step lower hash marshal runtime calls next →
        next.cursor = (runtime.overviewStreamID, runtime.overviewVersion + 1) →
        ∃ patch parsed,
          overviewCalls calls = [.broadcastOverviewStreamDelta patch runtime.overviewVersion
            (runtime.overviewVersion + 1) runtime.overviewStreamID] ∧
          next.overviewJournal = runtime.overviewJournal.append marshal runtime.overviewVersion
            (runtime.overviewVersion + 1) (some patch) ∧
          parseRuntimePatchPayload (cloneRuntimeDeltaPayload (some patch)) = some parsed ∧
          mergeRuntimeDeltaPatch runtime.view parsed = next.view := by
  obtain ⟨last, hlast⟩ := run_holds (fun s hs => ⟨emptySnapshot, Initial.holds hs⟩) hrun
  constructor
  · intro next later hlater hcursor
    exact (run_view hlast hlater).2 (congrArg Prod.snd hcursor)
  intro next calls ⟨op, hfresh, htopology, hstep⟩ hcursor
  have hgood := step_moves marshal hlast op htopology
  rw [hstep] at hgood
  cases hgood.1 with
  | stays hsame =>
    have h := congrArg Prod.snd (hsame.symm.trans hcursor)
    exact absurd h (by simp [cursor])
  | patches patch _ hpatch hjournal hcalls =>
    obtain ⟨parsed, hparsed, hmerge⟩ := hpatch
    exact ⟨patch, parsed, hcalls, hjournal, hparsed, hmerge⟩
  | restarts _ hnew =>
    -- a new stream has another identifier
    have hstream : op.streamID = runtime.overviewStreamID :=
      congrArg Prod.fst (hnew.symm.trans hcursor)
    cases op with
    | broadcastOnce | broadcastDirty | getOrBuildOverviewState => exact absurd hstream hfresh
    | setAlerts alerts changed =>
      have hnext : runtime.setAlerts alerts changed = next := congrArg Prod.fst hstep
      rw [← hnext] at hcursor
      exact absurd (congrArg Prod.snd hcursor) (by simp [cursor, setAlerts])
    | setPrometheusStatus status =>
      have hnext : runtime.setPrometheusStatus status = next := congrArg Prod.fst hstep
      rw [← hnext] at hcursor
      exact absurd (congrArg Prod.snd hcursor) (by simp [cursor, setPrometheusStatus])

/-- The overview of one device. -/
def soloReads : OverviewReads := { devices := some [soloDevice], links := some [], states := ∅ }

def soloInputs : OverviewInputs where
  devices := [soloDevice]
  links := []
  states := ∅
  alerts := ∅
  promStatus := {}

/-- A journal size for every patch. -/
def unitSize : RuntimeDeltaPayload → Option Nat := fun _ => some 1

/-- The runtime state after a client asked for that overview. -/
def soloRuntime : PipelineRuntimeState :=
  ((newPipelineRuntimeState {} "first").step Char.toLower lengthHash unitSize
    (.getOrBuildOverviewState soloReads "second" false)).1

/-- The device is down, and the cache can be read or not. -/
def downReads (devices : Option (List Device)) : OverviewReads :=
  { soloReads with
    devices
    states := FMap.ofList [(soloDevice.id, { reachability := .hardDown })] }

def downInputs : OverviewInputs := { soloInputs with states := (downReads none).states }

/-- The loop builds its first overview on the stream that the client has started. -/
def downOp : Op := .broadcastOnce (downReads (some [soloDevice])) "third" false

theorem downOp_keepsTopology : downOp.KeepsTopology Char.toLower lengthHash soloRuntime := by
  intro devices last _ hdevices hlast
  cases hdevices
  cases hlast
  -- both overviews have the device and no links
  have hkey : ∀ inputs : OverviewInputs, inputs.devices = [soloDevice] → ∀ key,
      (∃ dto, (buildPipelineSnapshot Char.toLower inputs).devices.get key = some dto) ↔
        key = soloDevice.id.toString := by
    intro inputs hdevices key
    constructor
    · rintro ⟨dto, hdto⟩
      have hmem := mem_of_get_ofList hdto
      rw [hdevices] at hmem
      exact congrArg Prod.fst (List.mem_singleton.1 hmem)
    · rintro rfl
      rw [buildPipelineSnapshot_device, hdevices]
      exact ⟨_, rfl⟩
  refine ⟨⟨fun key => ?_, fun key => Iff.rfl, fun key a b ha => ?_⟩, ?_, fun key a b ha => ?_⟩
  · rw [hkey _ rfl]
    exact (hkey soloInputs rfl key).symm
  · cases ha
  · show NoCollision lengthHash (buildPipelineSnapshot Char.toLower soloInputs)
      (buildPipelineSnapshot Char.toLower downInputs)
    decide +kernel
  · cases ha

/-- The loop continues the stream of the client with a patch: the device is down. -/
theorem published_state_of_cursor_down :
    let next := soloRuntime.step Char.toLower lengthHash unitSize downOp
    next.1.cursor = ("second", 2) ∧ ∃ patch parsed,
      overviewCalls next.2 = [.broadcastOverviewStreamDelta patch 1 2 "second"] ∧
      next.1.overviewJournal = soloRuntime.overviewJournal.append unitSize 1 2 (some patch) ∧
      parseRuntimePatchPayload (cloneRuntimeDeltaPayload (some patch)) = some parsed ∧
      mergeRuntimeDeltaPatch soloRuntime.view parsed = next.1.view := by
  intro next
  have hrun : Run Initial (Step Char.toLower lengthHash unitSize) soloRuntime _ :=
    .step (.init ⟨{}, "first", rfl⟩) ⟨.getOrBuildOverviewState soloReads "second" false,
      (by decide : ("second" : String) ≠ "first"), trivial, rfl⟩
  have hstep : Step Char.toLower lengthHash unitSize soloRuntime next.2 next.1 :=
    ⟨downOp, (by decide : ("third" : String) ≠ "second"), downOp_keepsTopology, rfl⟩
  have hnext : next = publishOnce lengthHash unitSize soloRuntime
      (soloRuntime.stored Char.toLower lengthHash downInputs)
      (buildPipelineSnapshot Char.toLower downInputs) "third" := rfl
  obtain ⟨hsnapshot, hstream⟩ : next.1.lastSnapshot =
      some (buildPipelineSnapshot Char.toLower downInputs) ∧
      next.1.overviewStreamID = "second" := by
    rw [hnext]
    exact publishOnce_continues (Option.some_ne_none _)
  -- the client has a record of the device as it was
  have hview : next.1.view ≠ soloRuntime.view := by
    intro heq
    rw [view, hsnapshot] at heq
    have hget := congrArg (fun view => (view.devices.get soloDevice.id.toString).bind
      (·.get "reachability")) heq
    revert hget
    decide +kernel
  have hcursor : next.1.cursor = ("second", 2) := by
    obtain ⟨last, hlast⟩ := run_holds (fun s hs => ⟨emptySnapshot, Initial.holds hs⟩) hrun
    obtain ⟨streamID, hmoves, -⟩ := hstep.good hlast
    rcases hmoves.version with ⟨-, hsame⟩ | hversion
    · exact absurd hsame hview
    · exact Prod.ext hstream hversion
  exact ⟨hcursor, (published_state_of_cursor Char.toLower lengthHash unitSize soloRuntime _ hrun).2
    next.1 next.2 hstep hcursor⟩

/-- Without the condition it fails: the device is deleted before the loop builds its first
overview, which is stored under the cursor that the client has. -/
theorem removed_device_same_cursor :
    let next := (soloRuntime.step Char.toLower lengthHash unitSize
      (.broadcastOnce { devices := some [], links := some [], states := ∅ } "third" false)).1
    next.cursor = soloRuntime.cursor ∧ next.view ≠ soloRuntime.view := by
  -- the snapshot without devices has no changed records, so nothing is published
  have hdelta : ∀ hashes, buildDelta emptySnapshot (computeSnapshotHashes lengthHash emptySnapshot)
      hashes = none := by
    intro hashes
    rw [buildDelta, if_pos]
    simp [snapshotPayloadEmpty, changedEntries, emptySnapshot]
  have hstep : (soloRuntime.step Char.toLower lengthHash unitSize
      (.broadcastOnce { devices := some [], links := some [], states := ∅ } "third" false)).1 =
      { soloRuntime with
        lastSnapshot := some emptySnapshot
        prevHashes := some (computeSnapshotHashes lengthHash emptySnapshot)
        previousAlertRuntime := alertRuntimeSummaryFromSnapshot emptySnapshot } := by
    have hempty : buildPipelineSnapshot Char.toLower (soloRuntime.inputs [] [] ∅) =
        emptySnapshot := rfl
    have hhashes : soloRuntime.prevHashes =
        some (computeSnapshotHashes lengthHash
          (buildPipelineSnapshot Char.toLower soloInputs)) := rfl
    simp [step, broadcastOnce, hempty, publishOnce, hhashes, hdelta, buildRuntimeDeltaPatch]
  rw [hstep]
  refine ⟨rfl, fun hview => ?_⟩
  -- the client has a record for the device
  have hget := congrArg (fun view => view.devices.get soloDevice.id.toString) hview
  cases hget

end PipelineRuntimeState

end Theia
