import Theia.Native.BroadcastLoop
import Theia.Spec.OverviewVersions

/-!
# One flush of the broadcast loop

What a flush leaves in the overview: nothing new, a full build, the delta of its marks applied to
the last snapshot, or a snapshot without hashes, after which the next build is a full one.
-/

namespace Theia

open Option Client

variable {lower : Char → Char} {key : String} {more : List OverviewInputs} {dto : DeviceRuntimeDTO}
  {inputs : OverviewInputs} {dirtyDevices : Finset UUID} {alertsDirty : Bool}

/-! ### An empty patch -/

/-- The fields of a link record that a patch can carry. -/
def LinkRuntimeDTO.runtimeFields (dto : LinkRuntimeDTO) :
    String × String × Option String × Option ℚ × Option ℚ × Option ℚ :=
  (dto.metricsStatus, dto.metricsReason, dto.lastCollectedAt, dto.txBps, dto.rxBps, dto.utilization)

theorem patchOf_eq_none {idKey id : String} {changes : List (String × Option WireValue)}
    (h : patchOf idKey id changes = none) : ∀ change ∈ changes, change.2 = none := by
  unfold patchOf at h
  split at h
  · rename_i hall
    simpa using hall
  · cases h

theorem addString_eq_none {current previous : String} (hne : current ≠ "")
    (h : (addString key current previous).2 = none) : previous = current := by
  simp only [addString, ne_eq, ite_eq_right_iff, reduceCtorEq, imp_false, not_and, not_not] at h
  exact (h hne).symm

theorem addStringPtr_eq_none {current previous : Option String}
    (h : (addStringPtr key current previous).2 = none) : previous = current := by
  simp only [addStringPtr, ne_eq, ite_eq_right_iff, reduceCtorEq, imp_false, not_not] at h
  exact h.symm

theorem addFloatPtr_eq_none {current previous : Option ℚ}
    (h : (addFloatPtr key current previous).2 = none) : previous = current := by
  simp only [addFloatPtr, ne_eq, ite_eq_right_iff, reduceCtorEq, imp_false, not_not] at h
  exact h.symm

section EmptyPatch

variable {delta last : SnapshotPayload}

theorem buildRuntimeDeltaPatch_eq_none
    (h : buildRuntimeDeltaPatch (some delta) (some last) = none) :
    (∀ id cur, delta.devices.get id = some cur →
        buildDeviceRuntimePatch cur (FMap.getZero last.devices {} id) = none) ∧
      ∀ id cur, delta.links.get id = some cur →
        buildLinkRuntimePatch cur (FMap.getZero last.links {} id) = none := by
  unfold buildRuntimeDeltaPatch at h
  dsimp only [getD_some] at h
  split at h
  · rename_i hempty
    rw [Bool.and_eq_true, FMap.isEmpty_iff, FMap.isEmpty_iff] at hempty
    constructor
    · intro id cur hcur
      have hnone := hempty.1 id
      rw [FMap.get_filterMap, hcur, bind_some, map_eq_none_iff] at hnone
      exact hnone
    · intro id cur hcur
      have hnone := hempty.2 id
      rw [FMap.get_filterMap, hcur, bind_some, map_eq_none_iff] at hnone
      exact hnone
  · cases h

theorem device_of_no_patch (hlast : KnownSnapshot last) {id : String} {cur : DeviceRuntimeDTO}
    (hid : cur.deviceID = id) (hknown : KnownDevice cur) (hflags : cur.runtimeFlags ≠ none)
    (h : buildDeviceRuntimePatch cur (FMap.getZero last.devices {} id) = none) :
    ∃ prev, last.devices.get id = some prev ∧ clientDevice prev = clientDevice cur := by
  cases hprev : last.devices.get id with
  | none =>
    -- a status is never empty, so there would be a patch
    rw [FMap.getZero, hprev] at h
    have hstatus := patchOf_eq_none h _ List.mem_cons_self
    have hne : cur.operationalStatus ≠ "" := by
      intro he
      exact absurd (he ▸ hknown.operationalStatus) (by decide)
    exact absurd (addString_eq_none hne hstatus).symm hne
  | some prev =>
    rw [FMap.getZero, hprev, getD_some] at h
    have hsame : prev.deviceID = cur.deviceID := by rw [(hlast.devices id prev hprev).1, hid]
    have hspec := buildDeviceRuntimePatch_spec hknown hflags hsame
    rw [h] at hspec
    exact ⟨prev, rfl, hspec.symm⟩

theorem link_of_no_patch {id : String} {cur : LinkRuntimeDTO} (hknown : KnownLink cur)
    (h : buildLinkRuntimePatch cur (FMap.getZero last.links {} id) = none) :
    ∃ prev, last.links.get id = some prev ∧ prev.runtimeFields = cur.runtimeFields := by
  have hstatusNe : cur.metricsStatus ≠ "" := by
    intro he
    exact absurd (he ▸ hknown.metricsStatus) (by decide)
  have hreasonNe : cur.metricsReason ≠ "" := by
    intro he
    exact absurd (he ▸ hknown.metricsReason) (by decide)
  have hall := patchOf_eq_none h
  simp only [linkRuntimeChanges, List.forall_mem_cons, List.not_mem_nil, false_implies,
    implies_true, and_true] at hall
  obtain ⟨hstatus, hreason, hcollected, htx, hrx, hutil⟩ := hall
  have hsame := addString_eq_none hstatusNe hstatus
  cases hprev : last.links.get id with
  | none =>
    rw [FMap.getZero, hprev] at hsame
    exact absurd hsame.symm hstatusNe
  | some prev =>
    have hzero : FMap.getZero last.links {} id = prev := by
      rw [FMap.getZero, hprev]
      rfl
    rw [hzero] at hsame hreason hcollected htx hrx hutil
    refine ⟨prev, rfl, ?_⟩
    simp only [LinkRuntimeDTO.runtimeFields, Prod.mk.injEq]
    exact ⟨hsame, addString_eq_none hreasonNe hreason, addStringPtr_eq_none hcollected,
      addFloatPtr_eq_none htx, addFloatPtr_eq_none hrx, addFloatPtr_eq_none hutil⟩

end EmptyPatch

/-- The next snapshot has the records of the delta, as far as a client sees them, and else those
of the last one. -/
structure DeltaApplied (delta last next : SnapshotPayload) : Prop where
  device : ∀ key dto, delta.devices.get key = some dto →
    ∃ prev, next.devices.get key = some prev ∧ clientDevice prev = clientDevice dto
  link : ∀ key dto, delta.links.get key = some dto →
    ∃ prev, next.links.get key = some prev ∧ prev.runtimeFields = dto.runtimeFields
  otherDevice : ∀ key, delta.devices.get key = none → next.devices.get key = last.devices.get key
  otherLink : ∀ key, delta.links.get key = none → next.links.get key = last.links.get key

namespace PipelineRuntimeState

variable {hash : List WireValue → Nat} {marshal : RuntimeDeltaPayload → Option Nat}
  {runtime : PipelineRuntimeState} {last : SnapshotPayload} {reads : OverviewReads}
  {streamID : String}

variable (marshal) in
/-- The end of `broadcastDirty`, whether there is a patch or not. -/
theorem publishDelta_applied (h : runtime.Holds hash last) (hprev : runtime.prevHashes ≠ none)
    {delta : SnapshotPayload} (hdelta : Normalized delta) (alertsDirty : Bool) :
    ∃ next, (runtime.publishDelta hash marshal delta alertsDirty).1.Holds hash next ∧
      DeltaApplied delta last next := by
  obtain ⟨hashes, hhashes⟩ := ne_none_iff_exists'.1 hprev
  unfold publishDelta
  rw [h.lastSnapshot, hhashes, h.hashes hashes hhashes]
  dsimp only
  split
  · rename_i hnone
    obtain ⟨hdevices, hlinks⟩ := buildRuntimeDeltaPatch_eq_none hnone
    refine ⟨last, h, ?_, ?_, fun _ _ => rfl, fun _ _ => rfl⟩
    · intro key dto hdto
      obtain ⟨hid, hknown⟩ := hdelta.known.devices key dto hdto
      exact device_of_no_patch h.known hid hknown (hdelta.flags hdto) (hdevices key dto hdto)
    · intro key dto hdto
      exact link_of_no_patch (hdelta.known.links key dto hdto).2 (hlinks key dto hdto)
  · refine ⟨(applySnapshotDeltaToRuntime hash (some last)
      (some (computeSnapshotHashes hash last)) (some delta)).1, ⟨rfl, ?_, ?_⟩, ?_, ?_, ?_, ?_⟩
    · exact applySnapshotDelta_known _ h.known hdelta.known
    · intro hashes heq
      rw [← Option.some.inj heq]
      exact applySnapshotDelta_hashes
    · intro key dto hdto
      refine ⟨cloneDeviceRuntimeForSnapshot dto, ?_, clientDevice_forSnapshot dto⟩
      rw [applySnapshotDelta_device, getD_some, hdto]
      rfl
    · intro key dto hdto
      refine ⟨dto, ?_, rfl⟩
      rw [applySnapshotDelta_link, getD_some, hdto]
      rfl
    · intro key hnone
      rw [applySnapshotDelta_device, getD_some, hnone]
      rfl
    · intro key hnone
      rw [applySnapshotDelta_link, getD_some, hnone]
      rfl

end PipelineRuntimeState

/-! ### Records that are not older than a change -/

section Fresh

-- the inputs of the builds that were made since the change was received
variable (lower : Char → Char) (built : List OverviewInputs) (snapshot : SnapshotPayload)

/-- The snapshot has the record of the device that one of these builds gives, if the build had a
row for it. -/
def DeviceFresh (id : UUID) : Prop :=
  ∃ inputs ∈ built, ∀ device, (devicesByID inputs.devices).get id = some device →
    ∃ dto, snapshot.devices.get id.toString = some dto ∧
      clientDevice dto =
        clientDevice (deviceRuntime inputs.states inputs.alerts inputs.promStatus device)

/-- The same for a link at the device. -/
def LinkFresh (id : UUID) (key : String) : Prop :=
  ∃ inputs ∈ built, ∀ link ∈ inputs.links, link.id.toString = key → Touches link {id} →
    (∃ device, (devicesByID inputs.devices).get id = some device) →
    ∃ dto, snapshot.links.get key = some dto ∧
      dto.runtimeFields = (linkRecord lower inputs link).runtimeFields

/-- The snapshot shows the alerts of the device as one of these builds does. -/
def AlertFresh (id : UUID) : Prop :=
  ∃ inputs ∈ built, ∀ device dto, (devicesByID inputs.devices).get id = some device →
    snapshot.devices.get id.toString = some dto →
    dto.alertStatus =
        (deviceRuntime inputs.states inputs.alerts inputs.promStatus device).alertStatus ∧
      dto.firingAlertCount =
        (deviceRuntime inputs.states inputs.alerts inputs.promStatus device).firingAlertCount

end Fresh

theorem clientDevice_alertFields {a b : DeviceRuntimeDTO} (h : clientDevice a = clientDevice b) :
    a.SameAlerts b := by
  have hstatus : some (WireValue.str a.alertStatus) = some (.str b.alertStatus) :=
    congrArg (fun record => record.get "alert_status") h
  have hcount : some (WireValue.num a.firingAlertCount) = some (.num b.firingAlertCount) :=
    congrArg (fun record => record.get "firing_alert_count") h
  rw [Option.some.injEq, WireValue.str.injEq] at hstatus
  rw [Option.some.injEq, WireValue.num.injEq] at hcount
  exact ⟨hstatus, by exact_mod_cast hcount⟩

section Builds

variable {hash : List WireValue → Nat} {built : List OverviewInputs} {inputs : OverviewInputs}
  {snapshot last : SnapshotPayload} {id : UUID} {key : String}

/-- A full build shows everything. -/
theorem fresh_of_full (lower : Char → Char) (hvalid : ValidRows inputs) (hbuilt : inputs ∈ built) (id : UUID) :
    DeviceFresh built (buildPipelineSnapshot lower inputs) id ∧
      (∀ key, LinkFresh lower built (buildPipelineSnapshot lower inputs) id key) ∧
      AlertFresh built (buildPipelineSnapshot lower inputs) id := by
  have hrecord : ∀ device, (devicesByID inputs.devices).get id = some device →
      (buildPipelineSnapshot lower inputs).devices.get id.toString =
        some (deviceRuntime inputs.states inputs.alerts inputs.promStatus device) := by
    intro device hdevice
    rw [buildPipelineSnapshot_device, hdevice]
    rfl
  refine ⟨⟨inputs, hbuilt, ?_⟩, ?_, ⟨inputs, hbuilt, ?_⟩⟩
  · intro device hdevice
    exact ⟨_, hrecord device hdevice, rfl⟩
  · intro key
    refine ⟨inputs, hbuilt, ?_⟩
    intro link hlink hkey _ _
    exact ⟨_, (buildPipelineSnapshot_link hvalid.linkIDs).2 ⟨link, hlink, hkey, rfl⟩, rfl⟩
  · intro device dto hdevice hdto
    rw [hrecord device hdevice] at hdto
    rw [← Option.some.inj hdto]
    exact ⟨rfl, rfl⟩

end Builds

section Delta

variable {hash : List WireValue → Nat} {built : List OverviewInputs} {inputs : OverviewInputs}
  {last next : SnapshotPayload} {dirtyDevices : Finset UUID} {alertsDirty : Bool}
  {previousAlertRuntime : FMap UUID DeviceRuntimeDTO} {id : UUID}

variable {delta : SnapshotPayload}
  (hdelta : delta = (deltaAgainst lower hash inputs dirtyDevices alertsDirty last
    previousAlertRuntime).getD emptySnapshot) (hvalid : ValidRows inputs)
include hdelta hvalid

theorem deltaAgainst_record (h : delta.devices.get id.toString = some dto) :
    ∃ device, (devicesByID inputs.devices).get id = some device ∧
      dto = deviceRuntime inputs.states inputs.alerts inputs.promStatus device := by
  rw [hdelta, collectDirtyDelta_device rfl hvalid] at h
  obtain ⟨record, hrecord, hdto⟩ := bind_eq_some_iff.1 h
  rw [buildPipelineSnapshot_device] at hrecord
  obtain ⟨device, hdevice, rfl⟩ := map_eq_some_iff.1 hrecord
  split at hdto
  · exact ⟨device, hdevice, (Option.some.inj hdto).symm⟩
  · cases hdto

variable (happlied : DeltaApplied delta last next) (hbuilt : inputs ∈ built)
include happlied hbuilt

theorem DeltaApplied.device_of_delta (hdto : delta.devices.get id.toString = some dto) :
    DeviceFresh built next id ∧ AlertFresh built next id := by
  obtain ⟨shown, hshown, hclient⟩ := happlied.device _ dto hdto
  obtain ⟨device, hdevice, rfl⟩ := deltaAgainst_record hdelta hvalid hdto
  refine ⟨⟨inputs, hbuilt, ?_⟩, ⟨inputs, hbuilt, ?_⟩⟩
  · intro other hother
    rw [hdevice] at hother
    rw [← Option.some.inj hother]
    exact ⟨shown, hshown, hclient⟩
  · intro other record hother hrecord
    rw [hdevice] at hother
    rw [hshown] at hrecord
    rw [← Option.some.inj hother, ← Option.some.inj hrecord]
    exact clientDevice_alertFields hclient

theorem DeltaApplied.link_of_delta {dto : LinkRuntimeDTO}
    (hdto : delta.links.get key = some dto) : LinkFresh lower built next id key := by
  obtain ⟨shown, hshown, hfields⟩ := happlied.link key dto hdto
  rw [hdelta] at hdto
  obtain ⟨-, link, hlink, -, hkey, rfl⟩ := (collectDirtyDelta_link rfl hvalid).1 hdto
  refine ⟨inputs, hbuilt, ?_⟩
  intro other hother hotherKey _ _
  have heq : other = link := hvalid.link_eq hother hlink (hotherKey.trans hkey.symm)
  rw [heq]
  exact ⟨shown, hshown, hfields⟩

theorem DeltaApplied.keeps_device (id : UUID) :
    (DeviceFresh built last id → DeviceFresh built next id) ∧
      (AlertFresh built last id → AlertFresh built next id) := by
  cases hdto : delta.devices.get id.toString with
  | some dto =>
    obtain ⟨hdevice, halerts⟩ := happlied.device_of_delta hdelta hvalid hbuilt hdto
    exact ⟨fun _ => hdevice, fun _ => halerts⟩
  | none =>
    unfold DeviceFresh AlertFresh
    rw [happlied.otherDevice _ hdto]
    exact ⟨fun h => h, fun h => h⟩

theorem DeltaApplied.keeps_link (h : LinkFresh lower built last id key) :
    LinkFresh lower built next id key := by
  cases hdto : delta.links.get key with
  | some dto => exact happlied.link_of_delta hdelta hvalid hbuilt hdto
  | none =>
    unfold LinkFresh at h ⊢
    rw [happlied.otherLink _ hdto]
    exact h

/-- The delta has the records of a dirty device that has a row. -/
theorem DeltaApplied.dirty_device (hdirty : id ∈ dirtyDevices) :
    DeviceFresh built next id ∧ ∀ key, LinkFresh lower built next id key := by
  constructor
  · refine ⟨inputs, hbuilt, ?_⟩
    intro device hdevice
    apply happlied.device
    rw [hdelta, collectDirtyDelta_device rfl hvalid, buildPipelineSnapshot_device, hdevice,
      map_some, bind_some, if_pos (.inl hdirty)]
  · intro key
    refine ⟨inputs, hbuilt, ?_⟩
    intro link hlink hkey htouches hrow
    have htouchesDirty : Touches link dirtyDevices := by
      rcases htouches with hsource | htarget
      · exact .inl (Finset.mem_singleton.1 hsource ▸ hdirty)
      · exact .inr (Finset.mem_singleton.1 htarget ▸ hdirty)
    apply happlied.link
    rw [hdelta]
    exact (collectDirtyDelta_link rfl hvalid).2
      ⟨⟨id, hdirty, hrow⟩, link, hlink, htouchesDirty, hkey, rfl⟩

/-- After a delta for alerts every device is shown with its alerts: a device that the delta leaves
out has no alerts, or its hash says that its record is the same. -/
theorem DeltaApplied.dirty_alerts (halerts : alertsDirty = true) (hknown : KnownSnapshot last)
    (hhash : NoCollision hash last (buildPipelineSnapshot lower inputs)) :
    AlertFresh built next id := by
  cases hdto : delta.devices.get id.toString with
  | some dto => exact (happlied.device_of_delta hdelta hvalid hbuilt hdto).2
  | none =>
    refine ⟨inputs, hbuilt, ?_⟩
    intro device dto hdevice hlast
    rw [happlied.otherDevice _ hdto] at hlast
    have hdto' := (hknown.devices _ dto hlast).2
    rw [hdelta, collectDirtyDelta_device rfl hvalid, buildPipelineSnapshot_device, hdevice,
      map_some, bind_some, ite_eq_right_iff] at hdto
    subst halerts
    exact alertFields_of_skipped hvalid hhash hdevice hlast hdto'.alertStatus
      hdto'.firingAlertCount fun hskipped => nomatch hdto (.inr hskipped)

end Delta

/-! ### One flush -/

namespace PipelineRuntimeState

section Flush

variable {hash : List WireValue → Nat} {marshal : RuntimeDeltaPayload → Option Nat}
  {runtime : PipelineRuntimeState} {last : SnapshotPayload} {reads : OverviewReads}
  {streamID : String}

/-- A flush has to build something for these marks. -/
def needsBuild (dirtyDevices : Finset UUID) (alertsDirty topologyDirty overflowed : Bool) : Bool :=
  overflowed || !topologyDirty && (alertsDirty || decide (dirtyDevices ≠ ∅))

/-- What `broadcastDirty` reads from the cache for a build. -/
def flushRead (runtime : PipelineRuntimeState) (dirtyDevices : Finset UUID)
    (alertsDirty topologyDirty forceFull overflowed hasOverviewClients : Bool)
    (reads : OverviewReads) : Option OverviewInputs :=
  if hasOverviewClients && (needsBuild dirtyDevices alertsDirty topologyDirty overflowed ||
      !topologyDirty && forceFull) then
    runtime.readInputs reads
  else none

variable (lower hash) in
/-- What a flush with these marks does to the overview, when `read` is what it reads from the
cache. -/
inductive FlushOutcome (runtime : PipelineRuntimeState) (last : SnapshotPayload)
    (dirtyDevices : Finset UUID) (alertsDirty topologyDirty overflowed : Bool)
    (read : Option OverviewInputs) (next : PipelineRuntimeState) : Prop
  /-- The next build is a full one. -/
  | stale (hholds : ∃ last', next.Holds hash last') (hprev : next.prevHashes = none)
  /-- The flush has made a full build. -/
  | full (inputs : OverviewInputs) (hread : read = some inputs)
      (hholds : next.Holds hash (buildPipelineSnapshot lower inputs))
  /-- The flush has applied the delta of its marks. -/
  | delta (inputs : OverviewInputs) (snapshot : SnapshotPayload) (hread : read = some inputs)
      (hprev : runtime.prevHashes ≠ none) (hmarks : topologyDirty = false ∧ overflowed = false)
      (hholds : next.Holds hash snapshot)
      (happlied : DeltaApplied ((deltaAgainst lower hash inputs dirtyDevices alertsDirty last
        runtime.previousAlertRuntime).getD emptySnapshot) last snapshot)
  /-- There was nothing to build. -/
  | idle (hmarks : dirtyDevices = ∅ ∧ alertsDirty = false ∧ topologyDirty = false ∧
      overflowed = false) (hnext : next = runtime)

theorem broadcastFullSnapshot_outcome (h : runtime.Holds hash last)
    {topologyDirty overflowed : Bool} (topologyChanged : Bool)
    (hdue : overflowed = false → topologyDirty = false) (hread : runtime.prevHashes ≠ none →
      needsBuild dirtyDevices alertsDirty topologyDirty overflowed = true →
      (runtime.readInputs reads).isSome = true) :
    FlushOutcome lower hash runtime last dirtyDevices alertsDirty topologyDirty overflowed
      (runtime.readInputs reads)
      ((runtime.broadcastFullSnapshot lower hash reads streamID topologyChanged).getD
        (runtime, [])).1 := by
  unfold broadcastFullSnapshot buildFullOverviewSnapshot
  cases hinputs : runtime.readInputs reads with
  | none =>
    by_cases hprev : runtime.prevHashes = none
    · exact .stale ⟨last, h⟩ hprev
    -- a failed read where there are hashes: there was nothing to build
    rw [hinputs] at hread
    have hidle : needsBuild dirtyDevices alertsDirty topologyDirty overflowed = false :=
      Bool.eq_false_iff.2 fun hneeds => nomatch hread hprev hneeds
    unfold needsBuild at hidle
    rw [Bool.or_eq_false_iff] at hidle
    have htopology := hdue hidle.1
    rw [htopology, Bool.not_false, Bool.true_and, Bool.or_eq_false_iff, decide_eq_false_iff_not,
      not_not] at hidle
    exact .idle ⟨hidle.2.2, hidle.2.1, htopology, hidle.1⟩ rfl
  | some inputs =>
    have hholds := startStream_holds lower hash runtime inputs streamID
    cases topologyChanged with
    | true => exact .stale ⟨_, hholds.lastSnapshot, hholds.known, nofun⟩ rfl
    | false => exact .full inputs rfl { hholds with }

theorem readInputs_eq_some (h : runtime.readInputs reads = some inputs) :
    ∃ devices links, reads.devices = some devices ∧ reads.links = some links ∧
      runtime.inputs devices links reads.states = inputs := by
  unfold readInputs at h
  split at h
  · exact ⟨_, _, ‹_›, ‹_›, Option.some.inj h⟩
  · cases h

theorem buildDirtyOverviewDelta_of_read (h : runtime.Holds hash last)
    (hprev : runtime.prevHashes ≠ none) (hinputs : runtime.readInputs reads = some inputs)
    (hmarks : ¬(dirtyDevices = ∅ ∧ alertsDirty = false)) :
    buildDirtyOverviewDelta lower hash runtime reads dirtyDevices alertsDirty =
      some (deltaAgainst lower hash inputs dirtyDevices alertsDirty last
        runtime.previousAlertRuntime, false) := by
  obtain ⟨hashes, hhashes⟩ := ne_none_iff_exists'.1 hprev
  unfold buildDirtyOverviewDelta
  rw [if_neg hmarks]
  obtain ⟨devices, links, hdevices, hlinks, rfl⟩ := readInputs_eq_some hinputs
  rw [hdevices, hlinks]
  unfold previousAlertBase
  rw [h.lastSnapshot, hhashes, h.hashes hashes hhashes]
  cases alertsDirty with
  | true => rfl
  | false =>
    have heq := collectDirtyDelta_no_alerts lower hash (runtime.inputs devices links reads.states)
      dirtyDevices ∅ (addPreviousAlertRuntimeDeviceIDs last)
      (some (computeSnapshotHashes hash last)) (some (computeSnapshotHashes hash last))
      runtime.previousAlertRuntime
    exact congrArg (fun delta => some (delta, false)) heq

theorem DeltaApplied.empty (last : SnapshotPayload) : DeltaApplied emptySnapshot last last := by
  refine ⟨?_, ?_, fun _ _ => rfl, fun _ _ => rfl⟩
  · intro key dto hdto
    cases hdto
  · intro key dto hdto
    cases hdto

variable (lower marshal streamID) in
/-- A flush does nothing, makes a full build, applies a delta or leaves the overview stale. -/
theorem flush_spec (h : runtime.Holds hash last) (dirtyDevices : Finset UUID)
    (alertsDirty topologyDirty forceFull overflowed hasOverviewClients : Bool)
    (hread : runtime.prevHashes ≠ none → hasOverviewClients = true →
      needsBuild dirtyDevices alertsDirty topologyDirty overflowed = true →
      (runtime.readInputs reads).isSome = true) :
    FlushOutcome lower hash runtime last dirtyDevices alertsDirty topologyDirty overflowed
      (runtime.flushRead dirtyDevices alertsDirty topologyDirty forceFull overflowed
        hasOverviewClients reads)
      ((runtime.broadcastDirty lower hash marshal dirtyDevices alertsDirty topologyDirty forceFull
        overflowed hasOverviewClients reads streamID).getD (runtime, [])).1 := by
  have hskip : ∀ topologyDirty' read, FlushOutcome lower hash runtime last dirtyDevices alertsDirty
      topologyDirty overflowed read (runtime.skipOverviewWork topologyDirty').1 := by
    intro topologyDirty' read
    cases topologyDirty' with
    | true => exact .stale ⟨last, h.stale.topologyInvalidation⟩ rfl
    | false => exact .stale ⟨last, h.stale⟩ rfl
  unfold broadcastDirty
  cases overflowed with
  | true =>
    cases hasOverviewClients with
    | true => exact broadcastFullSnapshot_outcome h topologyDirty nofun (fun hp => hread hp rfl)
    | false => exact hskip topologyDirty _
  | false =>
    cases topologyDirty with
    | true => exact .stale ⟨last, h.topologyInvalidation⟩ rfl
    | false =>
      cases forceFull with
      | true =>
        cases hasOverviewClients with
        | true =>
          unfold flushRead
          rw [if_pos (by simp)]
          exact broadcastFullSnapshot_outcome h false (fun _ => rfl) (fun hp => hread hp rfl)
        | false => exact hskip false _
      | false =>
        simp only [Bool.false_eq_true, if_false]
        by_cases hmarks : dirtyDevices = ∅ ∧ alertsDirty = false
        · rw [if_pos hmarks]
          exact .idle ⟨hmarks.1, hmarks.2, rfl, rfl⟩ rfl
        rw [if_neg hmarks]
        cases hasOverviewClients with
        | false => exact hskip false _
        | true =>
          have hneeds : needsBuild dirtyDevices alertsDirty false false = true := by
            by_contra hnot
            simp only [needsBuild, Bool.false_or, Bool.not_false, Bool.true_and, Bool.or_eq_true,
              decide_eq_true_eq, not_or, not_not] at hnot
            exact hmarks ⟨hnot.2, Bool.eq_false_iff.2 hnot.1⟩
          unfold flushRead
          rw [hneeds]
          simp only [Bool.true_eq_false, if_false, Bool.true_and, Bool.true_or, if_true]
          split
          · exact broadcastFullSnapshot_outcome h false (fun _ => rfl) (fun hp => hread hp rfl)
          rename_i hbase
          rw [Bool.or_eq_true, not_or, isNone_iff_eq_none] at hbase
          -- there are hashes, so the cache has been read and there is a delta
          obtain ⟨inputs, hinputs⟩ := isSome_iff_exists.1 (hread hbase.1 rfl hneeds)
          rw [buildDirtyOverviewDelta_of_read h hbase.1 hinputs hmarks]
          cases hdelta : deltaAgainst lower hash inputs dirtyDevices alertsDirty last
              runtime.previousAlertRuntime with
          | none =>
            refine .delta inputs last hinputs hbase.1 ⟨rfl, rfl⟩ h ?_
            rw [hdelta]
            exact DeltaApplied.empty last
          | some delta =>
            obtain ⟨next, hnext, happlied⟩ := publishDelta_applied marshal h hbase.1
              (collectDirtyDelta_normalized hdelta) alertsDirty
            refine .delta inputs next hinputs hbase.1 ⟨rfl, rfl⟩ hnext ?_
            rw [hdelta]
            exact happlied

end Flush

/-- `broadcastOnce` leaves a known snapshot with its hashes. -/
theorem broadcastOnce_holds {hash : List WireValue → Nat} {runtime : PipelineRuntimeState}
    (h : ∃ last, runtime.Holds hash last) (marshal : RuntimeDeltaPayload → Option Nat)
    (reads : OverviewReads) (streamID : String) (drainedTopology : Bool) :
    ∃ last, (runtime.broadcastOnce lower hash marshal reads streamID drainedTopology).1.Holds hash
      last := by
  unfold broadcastOnce
  split
  · exact h
  rename_i devices _
  generalize runtime.inputs devices (reads.links.getD []) reads.states = inputs
  have hpublished : ∀ stored : PipelineRuntimeState,
      stored.Holds hash (buildPipelineSnapshot lower inputs) →
      (publishOnce hash marshal runtime stored (buildPipelineSnapshot lower inputs)
        streamID).1.Holds hash (buildPipelineSnapshot lower inputs) := by
    intro stored hholds
    unfold publishOnce
    split
    · exact startStream_holds lower hash stored inputs streamID
    · dsimp only
      split
      · exact hholds
      · exact { hholds with }
  have hnext := hpublished (runtime.stored lower hash inputs)
    { startStream_holds lower hash runtime inputs streamID with }
  split
  · exact ⟨_, hnext.topologyInvalidation⟩
  · exact ⟨_, hnext⟩

end PipelineRuntimeState

end Theia
