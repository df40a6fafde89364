import Theia.Spec.BroadcastLoop

/-!
# Marks of the broadcast loop

A change that the loop has received stays marked until a flush has built it into the overview, or
the overview is due for a full build. This holds as long as no flush fails to read the cache while
it has marks to build for and hashes to continue from; a failed read there loses the marks.
-/

namespace Theia

open List

variable {lower : Char → Char} {inputs : OverviewInputs} {last : SnapshotPayload}

/-! ### Marks -/

namespace BroadcastLoop

open PipelineRuntimeState

/-- What a change marks in the loop. -/
inductive Mark
  | device (id : UUID)
  | alerts
  | topology
  | overflow

/-- The mark is set and a flush will see it. `storeOverflow` starts no timer: its flag waits for
the flush of another change. -/
def Pending (s : BroadcastLoop) : Mark → Prop
  | .device id => id ∈ s.dirtyDevices ∧ s.flushScheduled = true
  | .alerts => s.alertsDirty = true ∧ s.flushScheduled = true
  | .topology => s.topologyDirty = true ∧ s.flushScheduled = true
  | .overflow => s.overflowed = true

/-- The snapshot shows what one of these builds shows of the records that the mark is about. The
batch that an overflow drops can be about any device. -/
def Reflected (lower : Char → Char) (built : List OverviewInputs) (snapshot : SnapshotPayload) :
    Mark → Prop
  | .device id => DeviceFresh built snapshot id ∧ ∀ key, LinkFresh lower built snapshot id key
  | .alerts => ∀ id, AlertFresh built snapshot id
  | .topology | .overflow =>
    ∀ id, DeviceFresh built snapshot id ∧ ∀ key, LinkFresh lower built snapshot id key

/-- The mark is pending, the next build is a full one, or the overview reflects a build that was
made since. -/
def Owed (lower : Char → Char) (s : BroadcastLoop) (built : List OverviewInputs) (mark : Mark) :
    Prop :=
  s.Pending mark ∨ s.runtime.prevHashes = none ∨
    ∃ last, s.runtime.lastSnapshot = some last ∧ Reflected lower built last mark

/-- The changes that the loop receives. -/
def Marks : Event → Mark → Prop
  | .stateChanges ids, .device id => id ∈ ids ∧ id ≠ UUID.nil
  | .deviceChange .updated deviceID, .device id => deviceID = id ∧ id ≠ UUID.nil
  | .deviceChange .created _, .topology => True
  | .deviceChange .deleted _, .topology => True
  | .linkChange, .topology => True
  | .topologyNotify, .topology => True
  | .alertNotify, .alerts => True
  | .storeOverflow, .overflow => True
  | _, _ => False

theorem mem_addDirtyDeviceIDs {ids : List UUID} {target : Finset UUID} {id : UUID} :
    id ∈ addDirtyDeviceIDs target ids ↔ id ∈ target ∨ (id ∈ ids ∧ id ≠ UUID.nil) := by
  unfold addDirtyDeviceIDs
  induction ids generalizing target with
  | nil => simp
  | cons head ids ih =>
    rw [foldl_cons, ih, mem_cons]
    split_ifs with hnil
    · grind
    · grind

section Loop

variable {hash : List WireValue → Nat} {marshal : RuntimeDeltaPayload → Option Nat}
  {s s' : BroadcastLoop} {event : Event} {mark : Mark} {built : List OverviewInputs}
  {hasOverviewClients : Bool} {reads : OverviewReads} {streamID : String}

theorem Marks.ne_flush (h : Marks event mark) (hasOverviewClients : Bool) (reads : OverviewReads)
    (streamID : String) : event ≠ .flush hasOverviewClients reads streamID := by
  rintro rfl
  cases mark <;> exact h

/-- An event other than a flush keeps what is marked, and sets the mark of its change. -/
theorem pending_step (h : s.Pending mark ∨ Marks event mark)
    (hflush : ∀ hasOverviewClients reads streamID,
      event ≠ .flush hasOverviewClients reads streamID) :
    (s.step lower hash marshal event).Pending mark := by
  cases event with
  | flush hasOverviewClients reads streamID => exact absurd rfl (hflush _ _ _)
  | stateChanges ids =>
    cases mark with
    | device id => exact ⟨mem_addDirtyDeviceIDs.2 (h.imp_left And.left), rfl⟩
    | alerts | topology => exact ⟨(h.resolve_right id).1, rfl⟩
    | overflow => exact h.resolve_right id
  | deviceChange kind deviceID =>
    cases kind with
    | created | deleted =>
      cases mark with
      | device _ | alerts => exact ⟨(h.resolve_right id).1, rfl⟩
      | topology => exact ⟨rfl, rfl⟩
      | overflow => exact h.resolve_right id
    | updated =>
      cases mark with
      | device id =>
        refine ⟨?_, rfl⟩
        show id ∈ if deviceID ≠ UUID.nil then insert deviceID s.dirtyDevices else s.dirtyDevices
        rcases h with h | ⟨rfl, hnil⟩
        · split
          · exact Finset.mem_insert_of_mem h.1
          · exact h.1
        · rw [if_pos hnil]
          exact Finset.mem_insert_self _ _
      | alerts | topology => exact ⟨(h.resolve_right id).1, rfl⟩
      | overflow => exact h.resolve_right id
  | linkChange | topologyNotify =>
    cases mark with
    | device _ | alerts => exact ⟨(h.resolve_right id).1, rfl⟩
    | topology => exact ⟨rfl, rfl⟩
    | overflow => exact h.resolve_right id
  | alertNotify =>
    cases mark with
    | device _ | topology => exact ⟨(h.resolve_right id).1, rfl⟩
    | alerts => exact ⟨rfl, rfl⟩
    | overflow => exact h.resolve_right id
  | fullResync =>
    cases mark with
    | device _ | alerts | topology => exact ⟨(h.resolve_right id).1, rfl⟩
    | overflow => exact h.resolve_right id
  | storeOverflow =>
    cases mark with
    | device _ | alerts | topology => exact h.resolve_right id
    | overflow => rfl
  | setAlerts _ _ | setPrometheusStatus _ | getOrBuildOverviewState _ _ _ =>
    cases mark <;> exact h.resolve_right id

/-! ### What reflects a mark -/

theorem Reflected.mono {snapshot : SnapshotPayload} (h : Reflected lower built snapshot mark)
    (more : List OverviewInputs) : Reflected lower (built ++ more) snapshot mark := by
  -- each part says that there is such a build
  have hmore : ∀ P : OverviewInputs → Prop, (∃ inputs ∈ built, P inputs) →
      ∃ inputs ∈ built ++ more, P inputs :=
    fun P hexists => hexists.imp fun _ => And.imp_left (mem_append_left _)
  cases mark with
  | device id => exact ⟨hmore _ h.1, fun key => hmore _ (h.2 key)⟩
  | alerts => exact fun id => hmore _ (h id)
  | topology | overflow => exact fun id => ⟨hmore _ (h id).1, fun key => hmore _ ((h id).2 key)⟩

variable (mark) in
theorem reflected_of_full (hvalid : ValidRows inputs) (hbuilt : inputs ∈ built) :
    Reflected lower built (buildPipelineSnapshot lower inputs) mark := by
  have hfresh := fresh_of_full lower hvalid hbuilt
  cases mark with
  | device id => exact ⟨(hfresh id).1, (hfresh id).2.1⟩
  | alerts => exact fun id => (hfresh id).2.2
  | topology | overflow => exact fun id => ⟨(hfresh id).1, (hfresh id).2.1⟩

section Delta

variable {inputs : OverviewInputs} {last next delta : SnapshotPayload} {dirtyDevices : Finset UUID}
  {alertsDirty : Bool} {previousAlertRuntime : FMap UUID DeviceRuntimeDTO}
  (hdelta : delta = (deltaAgainst lower hash inputs dirtyDevices alertsDirty last
    previousAlertRuntime).getD emptySnapshot)
  (happlied : DeltaApplied delta last next) (hvalid : ValidRows inputs) (hbuilt : inputs ∈ built)
include hdelta happlied hvalid hbuilt

theorem Reflected.of_delta (h : Reflected lower built last mark) :
    Reflected lower built next mark := by
  have hkeeps := happlied.keeps_device hdelta hvalid hbuilt
  cases mark with
  | device id =>
    exact ⟨(hkeeps id).1 h.1, fun key => happlied.keeps_link hdelta hvalid hbuilt (h.2 key)⟩
  | alerts => exact fun id => (hkeeps id).2 (h id)
  | topology | overflow =>
    intro id
    exact ⟨(hkeeps id).1 (h id).1,
      fun key => happlied.keeps_link hdelta hvalid hbuilt ((h id).2 key)⟩

end Delta

/-! ### One event -/

/-- The inputs of the build that an event makes. -/
def inputsRead (s : BroadcastLoop) : Event → Option OverviewInputs
  | .flush hasOverviewClients reads _ =>
    if s.flushScheduled then
      s.runtime.flushRead s.dirtyDevices s.alertsDirty s.topologyDirty s.forceFull s.overflowed
        hasOverviewClients reads
    else none
  | .getOrBuildOverviewState reads _ _ =>
    if s.runtime.prevHashes.isNone then s.runtime.readInputs reads else none
  | _ => none

/-- A flush that has to build something for its marks, and has hashes to continue from, can read
the cache. -/
def ReadsCache (s : BroadcastLoop) : Event → Prop
  | .flush hasOverviewClients reads _ =>
    s.flushScheduled = true → s.runtime.prevHashes ≠ none → hasOverviewClients = true →
      needsBuild s.dirtyDevices s.alertsDirty s.topologyDirty
        s.overflowed = true →
      (s.runtime.readInputs reads).isSome = true
  | _ => True

/-- What is read are rows of the database, and the hashes tell the records of the devices
apart. -/
def GoodRead (lower : Char → Char) (hash : List WireValue → Nat) (s : BroadcastLoop)
    (event : Event) : Prop :=
  ∀ inputs, s.inputsRead event = some inputs → ValidRows inputs ∧
    ∀ last, s.runtime.lastSnapshot = some last →
      NoCollision hash last (buildPipelineSnapshot lower inputs)

/-- The steps of a run in which every flush can read the cache; a step emits the inputs of its
build. -/
def LoopStep (lower : Char → Char) (hash : List WireValue → Nat)
    (marshal : RuntimeDeltaPayload → Option Nat) (s : BroadcastLoop) (read : List OverviewInputs)
    (s' : BroadcastLoop) : Prop :=
  ∃ event, s.ReadsCache event ∧ s.GoodRead lower hash event ∧ read = (s.inputsRead event).toList ∧
    s' = s.step lower hash marshal event

theorem reflected_of_pending {next delta : SnapshotPayload}
    {previousAlertRuntime : FMap UUID DeviceRuntimeDTO}
    (hdelta : delta = (deltaAgainst lower hash inputs s.dirtyDevices s.alertsDirty last
      previousAlertRuntime).getD emptySnapshot)
    (happlied : DeltaApplied delta last next) (hvalid : ValidRows inputs)
    (hbuilt : inputs ∈ built) (hknown : KnownSnapshot last)
    (hhash : NoCollision hash last (buildPipelineSnapshot lower inputs))
    (hmarks : s.topologyDirty = false ∧ s.overflowed = false) (h : s.Pending mark) :
    Reflected lower built next mark := by
  cases mark with
  | device id => exact happlied.dirty_device hdelta hvalid hbuilt h.1
  | alerts => exact fun id => happlied.dirty_alerts hdelta hvalid hbuilt h.1 hknown hhash
  | topology =>
    have hclear := hmarks.1
    rw [h.1] at hclear
    cases hclear
  | overflow =>
    have hclear := hmarks.2
    rw [show s.overflowed = true from h] at hclear
    cases hclear

theorem not_pending (h : s.dirtyDevices = ∅ ∧ s.alertsDirty = false ∧ s.topologyDirty = false ∧
    s.overflowed = false) : ¬s.Pending mark := by
  obtain ⟨hdevices, halerts, htopology, hoverflow⟩ := h
  cases mark with
  | device id => simp [Pending, hdevices]
  | alerts => simp [Pending, halerts]
  | topology => simp [Pending, htopology]
  | overflow => simp [Pending, hoverflow]

variable (lower hash mark) in
/-- A step that has read these inputs leaves a known overview, and an owed mark owed. -/
def Keeps (s s' : BroadcastLoop) (read : Option OverviewInputs) : Prop :=
  (∃ last, s'.runtime.Holds hash last) ∧
    ∀ built, s.Owed lower built mark → s'.Owed lower (built ++ read.toList) mark

section

variable (hholds : s.runtime.Holds hash last)
include hholds

theorem Keeps.of_same (hprev : s'.runtime.prevHashes = s.runtime.prevHashes)
    (hlast : s'.runtime.lastSnapshot = s.runtime.lastSnapshot)
    (hpending : s.Pending mark → s'.Pending mark) (read : Option OverviewInputs) :
    Keeps lower hash mark s s' read := by
  constructor
  · refine ⟨last, hlast.trans hholds.lastSnapshot, hholds.known, ?_⟩
    rw [hprev]
    exact hholds.hashes
  · intro built howed
    rcases howed with hmark | hstale | ⟨shown, hshown, hreflected⟩
    · exact .inl (hpending hmark)
    · exact .inr (.inl (hprev.trans hstale))
    · exact .inr (.inr ⟨shown, hlast.trans hshown, hreflected.mono _⟩)

theorem Keeps.of_runtime (hruntime : s'.runtime = s.runtime)
    (hpending : s.Pending mark → s'.Pending mark) (read : Option OverviewInputs) :
    Keeps lower hash mark s s' read :=
  .of_same hholds (by rw [hruntime]) (by rw [hruntime]) hpending read

omit hholds in
theorem Keeps.of_full {read : Option OverviewInputs}
    (hread : read = some inputs) (hvalid : ValidRows inputs)
    (hholds : s'.runtime.Holds hash (buildPipelineSnapshot lower inputs)) :
    Keeps lower hash mark s s' read := by
  refine ⟨⟨_, hholds⟩, ?_⟩
  intro built _
  have hmem : inputs ∈ built ++ read.toList := by
    rw [hread]
    exact mem_append_right built mem_cons_self
  exact .inr (.inr ⟨_, hholds.lastSnapshot, reflected_of_full mark hvalid hmem⟩)

/-- The flush timer fires. -/
theorem flush_step (hscheduled : s.flushScheduled = true)
    (hcache : s.ReadsCache (.flush hasOverviewClients reads streamID))
    (hgood : s.GoodRead lower hash (.flush hasOverviewClients reads streamID)) :
    Keeps lower hash mark s (s.flush lower hash marshal hasOverviewClients reads streamID)
      (s.inputsRead (.flush hasOverviewClients reads streamID)) := by
  have hread : s.inputsRead (.flush hasOverviewClients reads streamID) =
      s.runtime.flushRead s.dirtyDevices s.alertsDirty s.topologyDirty s.forceFull s.overflowed
        hasOverviewClients reads := if_pos hscheduled
  have houtcome := flush_spec lower marshal streamID hholds s.dirtyDevices
    s.alertsDirty s.topologyDirty s.forceFull s.overflowed hasOverviewClients (hcache hscheduled)
  rw [← hread] at houtcome
  cases houtcome with
  | stale hnext hprev => exact ⟨hnext, fun _ _ => .inr (.inl hprev)⟩
  | full inputs hinputs hnext => exact .of_full hinputs (hgood inputs hinputs).1 hnext
  | delta inputs snapshot hinputs hprev hmarks hnext happlied =>
    obtain ⟨hvalid, hhash⟩ := hgood inputs hinputs
    refine ⟨⟨_, hnext⟩, ?_⟩
    intro built howed
    have hmem : inputs ∈ built ++
        (s.inputsRead (.flush hasOverviewClients reads streamID)).toList := by
      rw [hinputs]
      exact mem_append_right built mem_cons_self
    refine .inr (.inr ⟨_, hnext.lastSnapshot, ?_⟩)
    rcases howed with hpending | hstale | ⟨shown, hshown, hreflected⟩
    · exact reflected_of_pending rfl happlied hvalid hmem hholds.known
        (hhash last hholds.lastSnapshot) hmarks hpending
    · exact absurd hstale hprev
    · rw [hholds.lastSnapshot] at hshown
      rw [← Option.some.inj hshown] at hreflected
      exact (hreflected.mono _).of_delta rfl happlied hvalid hmem
  | idle hmarks hnext =>
    exact .of_runtime hholds hnext (fun hpending => absurd hpending (not_pending hmarks)) _

/-- A viewer asks for the overview. -/
theorem getOrBuild_step
    (hevent : event = .getOrBuildOverviewState reads streamID hasOverviewClients)
    (hgood : s.GoodRead lower hash event) :
    Keeps lower hash mark s (s.step lower hash marshal event) (s.inputsRead event) := by
  have hpending : s.Pending mark → (s.step lower hash marshal event).Pending mark :=
    fun h => pending_step (.inl h) (by simp [hevent])
  cases hprev : s.runtime.prevHashes with
  | some hashes =>
    refine .of_runtime hholds ?_ hpending _
    simp [hevent, step, PipelineRuntimeState.getOrBuildOverviewState, hprev]
  | none =>
    cases hinputs : s.runtime.readInputs reads with
    | none =>
      refine .of_runtime hholds ?_ hpending _
      simp [hevent, step, PipelineRuntimeState.getOrBuildOverviewState, hprev,
        buildFullOverviewSnapshot, hinputs]
    | some inputs =>
      have hread : s.inputsRead event = some inputs := by simp [hevent, inputsRead, hprev, hinputs]
      have hstep : (s.step lower hash marshal event).runtime =
          s.runtime.startStream hash (buildPipelineSnapshot lower inputs) streamID := by
        simp [hevent, step, PipelineRuntimeState.getOrBuildOverviewState, hprev,
          buildFullOverviewSnapshot, hinputs]
      apply Keeps.of_full hread (hgood inputs hread).1
      rw [hstep]
      exact startStream_holds lower hash s.runtime inputs streamID

variable (mark) in
/-- Every event of the loop keeps an owed mark owed. -/
theorem loop_step (event : Event) (hcache : s.ReadsCache event)
    (hgood : s.GoodRead lower hash event) :
    Keeps lower hash mark s (s.step lower hash marshal event) (s.inputsRead event) := by
  have hquiet : (∀ hasOverviewClients reads streamID,
        event ≠ .flush hasOverviewClients reads streamID) →
      (s.step lower hash marshal event).runtime.prevHashes = s.runtime.prevHashes →
      (s.step lower hash marshal event).runtime.lastSnapshot = s.runtime.lastSnapshot →
      Keeps lower hash mark s (s.step lower hash marshal event) (s.inputsRead event) :=
    fun hflush hprev hlast => .of_same hholds hprev hlast (fun h => pending_step (.inl h) hflush) _
  cases event with
  | flush hasOverviewClients reads streamID =>
    rw [step]
    split_ifs with hscheduled
    · exact flush_step hholds hscheduled hcache hgood
    · exact .of_same hholds rfl rfl id _
  | getOrBuildOverviewState reads streamID hasOverviewClients =>
    exact getOrBuild_step hholds rfl hgood
  | deviceChange kind deviceID => cases kind <;> exact hquiet nofun rfl rfl
  | stateChanges _ | linkChange | topologyNotify | alertNotify | fullResync | storeOverflow
  | setAlerts _ _ | setPrometheusStatus _ => exact hquiet nofun rfl rfl

end

theorem readsCache_of_marks (h : Marks event mark) : s.ReadsCache event := by
  cases event with
  | flush _ _ _ => exact absurd rfl (h.ne_flush _ _ _)
  | _ => trivial

theorem goodRead_of_marks (h : Marks event mark) : s.GoodRead lower hash event := by
  intro inputs hread
  cases event with
  | flush _ _ _ | getOrBuildOverviewState _ _ _ => cases mark <;> exact h.elim
  | _ => cases hread

end Loop

/-! ### Whole runs -/

section Runs

variable (lower : Char → Char) (hash : List WireValue → Nat)
  (marshal : RuntimeDeltaPayload → Option Nat)

theorem run_known {init : BroadcastLoop → Prop}
    (hinit : ∀ s, init s → ∃ last, s.runtime.Holds hash last) {s : BroadcastLoop}
    {read : List OverviewInputs}
    (h : Run init (LoopStep lower hash marshal) s read) : ∃ last, s.runtime.Holds hash last := by
  apply Run.invariant (P := fun s _ => ∃ last, s.runtime.Holds hash last) h
  · exact hinit
  · intro s _ _ _ _ ⟨last, hlast⟩ hstep
    obtain ⟨event, hcache, hgood, -, rfl⟩ := hstep
    -- any mark will do
    exact (loop_step .alerts hlast event hcache hgood).1

/-- Every change that the loop receives: after any further events, in particular after each
flush, its mark is pending, the overview is due for a full build, or it reflects a build that was
made after the change. -/
theorem flush_keeps_work {runtime : PipelineRuntimeState}
    (hruntime : ∃ last, runtime.Holds hash last) {reads : OverviewReads} {streamID : String}
    {drainedTopology : Bool} {s : BroadcastLoop} {earlier : List OverviewInputs}
    (hbefore : Run (· = start lower hash marshal runtime reads streamID drainedTopology)
      (LoopStep lower hash marshal) s earlier)
    {event : Event} {mark : Mark} (hmarks : Marks event mark) {s' : BroadcastLoop}
    {built : List OverviewInputs}
    (hafter : Run (· = s.step lower hash marshal event) (LoopStep lower hash marshal) s' built) :
    s'.Owed lower built mark := by
  have hknown : ∃ last, s.runtime.Holds hash last := by
    apply run_known lower hash marshal _ hbefore
    intro s₀ hs₀
    rw [hs₀]
    exact broadcastOnce_holds hruntime marshal reads streamID drainedTopology
  have hstart : ∃ last, (s.step lower hash marshal event).runtime.Holds hash last := by
    obtain ⟨last, hlast⟩ := hknown
    exact (loop_step mark hlast event (readsCache_of_marks hmarks) (goodRead_of_marks hmarks)).1
  refine (Run.invariant
    (P := fun s built => (∃ last, s.runtime.Holds hash last) ∧ s.Owed lower built mark)
    hafter ?_ ?_).2
  · intro s₁ hs₁
    rw [hs₁]
    exact ⟨hstart, .inl (pending_step (.inr hmarks) hmarks.ne_flush)⟩
  · intro s₁ built _ _ _ ⟨⟨last, hlast⟩, howed⟩ hstep
    obtain ⟨next, hcache, hgood, rfl, rfl⟩ := hstep
    obtain ⟨hholds, hkeeps⟩ := @loop_step _ _ _ marshal _ mark hlast next hcache hgood
    exact ⟨hholds, hkeeps built howed⟩

end Runs

/-! ### A flush that fails -/

/-- The loop after its first overview, with one device. -/
def soloLoop : BroadcastLoop :=
  start Char.toLower lengthHash unitSize (newPipelineRuntimeState {} "first") soloReads
    "second" false

/-- The loop has received a change of the device. -/
def soloMarked : BroadcastLoop :=
  soloLoop.step Char.toLower lengthHash unitSize (.stateChanges [soloDevice.id])

/-- The loop flushes after the change. -/
def flushDown (devices : Option (List Device)) : BroadcastLoop :=
  soloMarked.step Char.toLower lengthHash unitSize (.flush true (downReads devices) "third")

/-- The same after the store has dropped a batch. -/
def flushOverflow (devices : Option (List Device)) : BroadcastLoop :=
  ((soloLoop.step Char.toLower lengthHash unitSize .storeOverflow).step Char.toLower lengthHash
    unitSize (.stateChanges [soloDevice.id])).step Char.toLower lengthHash unitSize
      (.flush true (downReads devices) "third")

/-- A flush that can read the cache builds the change. -/
theorem flush_keeps_work_down :
    Marks (.stateChanges [soloDevice.id]) (.device soloDevice.id) ∧
      (flushDown (some [soloDevice])).Owed Char.toLower [downInputs] (.device soloDevice.id) := by
  have hnew : Initial (newPipelineRuntimeState {} "first") := ⟨_, _, rfl⟩
  have hmark : Marks (.stateChanges [soloDevice.id]) (.device soloDevice.id) :=
    ⟨mem_cons_self, by decide⟩
  have hgood : soloMarked.GoodRead Char.toLower lengthHash
      (.flush true (downReads (some [soloDevice])) "third") := by
    intro inputs hread
    have hinputs : some downInputs = some inputs := hread
    rw [← Option.some.inj hinputs]
    refine ⟨⟨by decide, by decide, by decide⟩, ?_⟩
    intro last hlast
    have heq : some (buildPipelineSnapshot Char.toLower soloInputs) = some last := hlast
    rw [← Option.some.inj heq]
    decide +kernel
  have hstep : LoopStep Char.toLower lengthHash unitSize soloMarked [downInputs]
      (flushDown (some [soloDevice])) :=
    ⟨.flush true (downReads (some [soloDevice])) "third", fun _ _ _ _ => rfl, hgood, rfl, rfl⟩
  have hbefore : Run (· = soloLoop) (LoopStep Char.toLower lengthHash unitSize) soloLoop [] :=
    .init rfl
  have hmarked : Run (· = soloMarked) (LoopStep Char.toLower lengthHash unitSize) soloMarked [] :=
    .init rfl
  have hafter := hmarked.step hstep
  exact ⟨hmark,
    flush_keeps_work Char.toLower lengthHash unitSize ⟨_, hnew.holds⟩ hbefore hmark hafter⟩

/-- A flush that cannot read the cache clears the mark, or the overflow flag, and keeps the hashes:
the overview goes on showing the device as it was. -/
theorem flush_loses_work :
    (Marks (.stateChanges [soloDevice.id]) (.device soloDevice.id) ∧
      ¬(flushDown none).Owed Char.toLower [] (.device soloDevice.id) ∧
      (flushDown none).runtime.lastSnapshot =
        some (buildPipelineSnapshot Char.toLower soloInputs)) ∧
    (Marks .storeOverflow .overflow ∧ ¬(flushOverflow none).Owed Char.toLower [] .overflow ∧
      (flushOverflow none).runtime.lastSnapshot =
        some (buildPipelineSnapshot Char.toLower soloInputs)) ∧
    clientDevice (deviceRuntime soloInputs.states ∅ {} soloDevice) ≠
      clientDevice (deviceRuntime downInputs.states ∅ {} soloDevice) := by
  refine ⟨⟨⟨mem_cons_self, by decide⟩, ?_, rfl⟩, ⟨trivial, ?_, rfl⟩, ?_⟩
  · rintro (hpending | hstale | ⟨last, -, ⟨inputs, hmem, -⟩, -⟩)
    · exact absurd hpending.1 (Finset.notMem_empty _)
    · cases hstale
    · cases hmem
  · rintro (hpending | hstale | ⟨last, -, hreflected⟩)
    · cases hpending
    · cases hstale
    · obtain ⟨⟨inputs, hmem, -⟩, -⟩ := hreflected soloDevice.id
      cases hmem
  · intro h
    have hfield := congrArg (fun record => record.get "reachability") h
    revert hfield
    decide +kernel

end BroadcastLoop

end Theia
