import Theia.ForStd.Run
import Theia.Spec.RestoreSteps

/-!
# Finishing a pending restore

A restore that has been staged is applied by one or more attempts. The staged files have to survive
every attempt that fails or stops, because the next one starts from them.
-/

namespace Theia.Restore

open Proc Triple

variable {DB Content : Type} {fate : Step → Fate String}

/-! ### Paths -/

theorem clean_ne_empty (path : String) : clean path ≠ "" := by
  unfold clean
  lift_lets
  intro rooted elements joined
  have hofList : ∀ l : List Char, l ≠ [] → String.ofList l ≠ "" := by
    intro l hl h
    exact hl (String.ofList_eq_empty_iff.1 h)
  split
  · exact hofList _ (List.cons_ne_nil _ _)
  · split_ifs with hjoined
    · decide
    · exact hofList _ hjoined

theorem join_ne_empty {first : String} (hfirst : first ≠ "") (second : String) :
    join [first, second] ≠ "" := by
  unfold join
  rw [List.dropWhile_cons_of_neg (by simpa using hfirst)]
  exact clean_ne_empty _

theorem stagingPath_ne_empty (stateDir : String) : stagingPath stateDir ≠ "" := by
  by_cases h : stateDir = ""
  · rw [h]
    decide
  · exact join_ne_empty h _

/-! ### Pending restores -/

/-- The staged database after it has been refreshed a number of times. -/
def stagedDatabase (c : RestoreCoordinator) (pg : Postgres DB) (archive : Archive DB Content)
    (refreshes : Nat) : DB :=
  (verified c pg)^[refreshes] archive.db

/-- The staging directory with a complete dump and complete artifacts. -/
def stagedFiles (archive : Archive DB Content) (db : DB) : Staging DB Content where
  db := some (.regular (.whole db))
  artifacts := fun artifact => (archive.artifacts artifact).map fun content =>
    .regular (.whole content)

theorem tracked_planOf (c : RestoreCoordinator) : Tracked (RestoreMarker.PlanOf c) where
  operationID := fun _ h => h.operationID
  update := by
    intro newID marker phase h
    refine { h with
      staged := ?_
      operationID := (operationID_update h.operationID newID rfl phase).trans_ne h.operationID }
    intro artifact
    rw [← h.staged artifact]
    cases artifact <;> rfl
  countAttempt := by
    intro marker h
    refine { h with staged := ?_ }
    intro artifact
    rw [← h.staged artifact]
    cases artifact <;> rfl

/-- The restore of an archive is pending: the marker names the staged files, and they are
complete. -/
structure Pending (c : RestoreCoordinator) (pg : Postgres DB) (archive : Archive DB Content)
    (refreshes : Nat) (w : World DB Content) : Prop where
  marker : ∃ marker, w.marker = some marker ∧ marker.PlanOf c
  staging : w.staging = some (.regular (stagedFiles archive (stagedDatabase c pg archive refreshes)))

/-- The restore is still pending, after any number of refreshes. -/
def StillPending (c : RestoreCoordinator) (pg : Postgres DB) (archive : Archive DB Content)
    (w : World DB Content) : Prop :=
  ∃ refreshes, Pending c pg archive refreshes w

/-- The restore is still pending or the marker is gone. -/
def Kept (c : RestoreCoordinator) (pg : Postgres DB) (archive : Archive DB Content)
    (w : World DB Content) : Prop :=
  w.marker = none ∨ StillPending c pg archive w

/-- The live targets are absent or of the expected kind. -/
def Regular (w : World DB Content) : Prop :=
  ∀ artifact, (w.targets artifact).current ≠ some .irregular

/-- The staged artifact is the live one, if it is staged and there is a live path for it. -/
def Activated (c : RestoreCoordinator) (archive : Archive DB Content) (artifact : Artifact)
    (w : World DB Content) : Prop :=
  ∀ content, archive.artifacts artifact = some content → (newRestoreMarker c).target artifact ≠ "" →
    (w.targets artifact).current = some (.regular (.whole content))

/-- The restore is finished: the live database and targets are the staged ones, and the marker is
gone. -/
structure Finished (c : RestoreCoordinator) (pg : Postgres DB) (archive : Archive DB Content)
    (refreshes : Nat) (w : World DB Content) : Prop where
  marker : w.marker = none
  live : w.live = verified c pg (stagedDatabase c pg archive refreshes)
  artifacts : ∀ artifact, Activated c archive artifact w

section Pending

variable {c : RestoreCoordinator} {pg : Postgres DB} {archive : Archive DB Content} {n : Nat}
  {w : World DB Content} {marker : RestoreMarker}

theorem RestoreMarker.PlanOf.staged_ne_empty (h : marker.PlanOf c) (artifact : Artifact) :
    marker.staged artifact ≠ "" := by
  rw [h.staged]
  exact join_ne_empty (stagingPath_ne_empty _) _

theorem RestoreMarker.PlanOf.stagedDB_ne_empty (h : marker.PlanOf c) : marker.stagedDB ≠ "" := by
  rw [h.stagedDB]
  exact join_ne_empty (stagingPath_ne_empty _) _

theorem RestoreMarker.PlanOf.target (h : marker.PlanOf c) (artifact : Artifact) :
    marker.target artifact = (newRestoreMarker c).target artifact := by
  cases artifact with
  | backups => exact h.deviceBackupDir
  | knownHosts => exact h.knownHostsPath

namespace Pending

section

variable (h : Pending c pg archive n w)
include h

theorem still : StillPending c pg archive w := ⟨n, h⟩

theorem planOf (hm : w.marker = some marker) : marker.PlanOf c := by
  obtain ⟨marker', hmarker, hplan⟩ := h.marker
  obtain rfl : marker = marker' := Option.some.inj (hm.symm.trans hmarker)
  exact hplan

theorem stagingDir_eq : stagingDir w = stagedFiles archive (stagedDatabase c pg archive n) := by
  unfold stagingDir
  rw [h.staging]

theorem fit : Fit w := by
  refine ⟨⟨_, h.staging⟩, ?_, ?_⟩
  · rw [h.stagingDir_eq]
    exact ⟨_, rfl⟩
  · intro artifact hirregular
    rw [h.stagingDir_eq] at hirregular
    obtain ⟨content, -, hcontent⟩ := Option.map_eq_some_iff.1 hirregular
    exact nomatch hcontent

omit h in
theorem reports : Reports (RestoreMarker.PlanOf c) (Pending c pg archive n) where
  marker := fun _ marker hplan h => ⟨⟨marker, rfl, hplan⟩, h.staging⟩
  status := fun _ _ h => ⟨h.marker, h.staging⟩

theorem refresh (hlive : w.live = verified c pg (stagedDatabase c pg archive n)) :
    Pending c pg archive (n + 1) (w.setStagedDB (.whole w.live)) := by
  refine ⟨h.marker, ?_⟩
  show some (Node.regular { stagingDir w with db := some (.regular (.whole w.live)) }) = _
  rw [h.stagingDir_eq, hlive]
  unfold stagedDatabase
  rw [Function.iterate_succ_apply']
  rfl

theorem finished (hplan : marker.PlanOf c)
    (hlive : w.live = verified c pg (stagedDatabase c pg archive n))
    (hreplaced : ∀ artifact, marker.staged artifact ≠ "" → marker.target artifact ≠ "" →
      Replaced artifact w) : Finished c pg archive n { w with marker := none } := by
  refine ⟨rfl, hlive, ?_⟩
  intro artifact content hcontent htarget
  apply hreplaced artifact (hplan.staged_ne_empty artifact) ((hplan.target artifact).trans_ne htarget)
  rw [h.stagingDir_eq]
  show (archive.artifacts artifact).map _ = _
  rw [hcontent]
  rfl

end

end Pending

/-! ### Attempts -/

/-- An attempt of a pending restore finishes it, or there is trouble and it is still pending. A live
target of another kind is trouble. -/
theorem applyPendingRestore_pending {T : Prop} (hT : Sound fate T)
    (hdsn : trimSpace c.dbDSN ≠ "" ∨ T) (hclean : (fate (.pgDump .retryDump)).Clean)
    (newID : String) :
    Triple fate T (fun w => Pending c pg archive n w ∧ (Regular w ∨ T))
      (applyPendingRestore c pg newID)
      (fun result w => result = true ∧ Finished c pg archive n w) (Kept c pg archive) := by
  have hreports : ∀ {P : World DB Content → Prop},
      (∀ w marker, P w → P { w with marker := some marker }) →
      (∀ w status, P w → P { w with status := some status }) →
      Reports (RestoreMarker.PlanOf c) fun w => Pending c pg archive n w ∧ P w :=
    fun hmarker hstatus =>
      ⟨fun w m hm hw => ⟨Pending.reports.marker w m hm hw.1, hmarker w m hw.2⟩,
        fun w status hw => ⟨Pending.reports.status w status hw.1, hstatus w status hw.2⟩⟩
  have hready := hreports (P := fun w => Regular w ∨ T) (fun _ _ => id) fun _ _ => id
  have hstill : Reports (RestoreMarker.PlanOf c) (StillPending c pg archive) := by
    refine ⟨?_, ?_⟩
    · rintro w m hm ⟨k, hw⟩
      exact ⟨k, Pending.reports.marker w m hm hw⟩
    · rintro w status ⟨k, hw⟩
      exact ⟨k, Pending.reports.status w status hw⟩
  have hbackup : Triple fate T (fun w => Pending c pg archive n w ∧ (Regular w ∨ T))
      (backupLiveDB c) (fun _ w => Pending c pg archive n w ∧ (Regular w ∨ T))
      (StillPending c pg archive) := by
    apply (triple_wrap (.check hT fun _ hw => hw.1.still)).seq
    apply (look (Q := fun _ w => Pending c pg archive n w ∧ (Regular w ∨ T))
      fun _ => id).bind
    intro dump
    split
    · exact pure fun _ => id
    · apply triple_wrap
      apply (prepareTool_triple hT (fun _ hw => hw.1.still) hdsn _ _).seq
      exact triple_wrap (.perform_of hT (fun _ hw => ⟨⟨hw.1.marker, hw.1.staging⟩, hw.2⟩)
        (fun _ hw => hw.1.still) fun _ _ hw => ⟨n, hw.1.marker, hw.1.staging⟩)
  apply applyPendingRestore_triple hT
  · rintro w ⟨hnone, hw, -⟩
    obtain ⟨marker, hmarker, -⟩ := hw.marker
    exact nomatch hnone.symm.trans hmarker
  · exact fun w hw => .inr hw.1.still
  · exact fun marker w hm hw => .inl (hw.1.planOf hm).stagedDB_ne_empty
  rintro marker w ⟨hm, hw⟩
  have hplan := hw.1.planOf hm
  refine applyMarker_triple hT (tracked_planOf c)
    (D := fun y w => Pending c pg archive n w ∧ (Regular w ∨ T) ∧ w.live = y)
    (J := fun w => Pending c pg archive n w ∧
      w.live = verified c pg (stagedDatabase c pg archive n))
    (x := stagedDatabase c pg archive n) newID hplan (.inl hplan) (fun _ hw => .inl hw.1.fit) hready
    (fun _ hw => hw.1.still) hbackup hready (fun _ hw => hw.1.still) ?_ hstill
    (fun _ => hreports (fun _ _ => id) fun _ _ => id) ?_ ?_ ?_ ?_
    (fun _ hw => .inl hw.1.fit) (fun _ hw => hw.1.still) (fun _ hw => (hw.1.refresh hw.2).still)
    (.inl hclean) (fun m _ hm hw hreplaced => hw.1.finished hm hw.2 hreplaced) ?_ ?_
    (fun _ => .inr) (fun _ hw => .inl hw.marker) w hw
  · -- the dump that is restored is the staged database
    intro m _
    apply runPostgresRestore_triple hT (R := fun w => Pending c pg archive n w ∧ (Regular w ∨ T))
      hdsn _ (fun _ hw => .inl hw.1.fit) (fun _ hw => hw.1.still)
      (fun _ hw => ⟨⟨hw.1.marker, hw.1.staging⟩, hw.2⟩) (fun _ hw => .inl hw.1.fit)
      (fun _ hw => hw.1.still) _ fun _ hw => hw.1.still
    intro w db hw hdb
    refine ⟨⟨hw.1.marker, hw.1.staging⟩, hw.2, ?_⟩
    rw [hw.1.stagingDir_eq] at hdb
    cases hdb
    rfl
  · exact fun f y w hw => ⟨⟨hw.1.marker, hw.1.staging⟩, hw.2.1, congrArg f hw.2.2⟩
  · exact fun _ w _ hw => ⟨n, hw.1.marker, hw.1.staging⟩
  · rintro w ⟨hw, hregular, hlive⟩
    exact ⟨⟨hw, hlive⟩, fun artifact h => hregular.resolve_left fun hr => hr artifact h⟩
  · exact fun w _ _ hw => ⟨⟨hw.1.marker, hw.1.staging⟩, hw.2⟩
  · exact fun _ _ hw => { hw with }
  · exact fun _ _ hw => { hw with }

theorem applyPendingRestore_kept (hclean : (fate (.pgDump .retryDump)).Clean) (newID : String)
    (h : Kept c pg archive w) : Kept c pg archive (applyPendingRestore c pg newID fate w).state := by
  have hT := Sound.true fate
  rcases h with hnone | ⟨n, hw⟩
  · have hnothing : Triple fate True (fun w : World DB Content => w.marker = none)
        (applyPendingRestore c pg newID) (fun _ w => w.marker = none) fun w => w.marker = none := by
      apply applyPendingRestore_triple hT (fun _ hw => hw.1) (fun _ => id)
        fun _ _ _ _ => .inr trivial
      rintro marker w ⟨hm, hnone⟩
      exact nomatch hnone.symm.trans hm
    exact .inl (hnothing.state hnone)
  · have hattempt : Triple fate True (fun w => Pending c pg archive n w ∧ (Regular w ∨ True))
        (applyPendingRestore c pg newID) _ _ :=
      applyPendingRestore_pending hT (.inr trivial) hclean newID
    exact (hattempt.conseq (fun _ => id) (fun _ _ hs => .inl hs.2.marker)
      fun _ => id).state ⟨hw, .inr trivial⟩

end Pending

/-! ### Staging -/

section Staging

variable {archive : Archive DB Content}

/-- The staging directory holds the dump and those of the artifacts that are done. -/
def Holds (archive : Archive DB Content) (done : Artifact → Bool) (w : World DB Content) : Prop :=
  w.staging = some (.regular
    { db := some (.regular (.whole archive.db))
      artifacts := fun artifact =>
        if done artifact then (stagedFiles archive archive.db).artifacts artifact else none })

theorem Holds.stagingDir_artifacts {done : Artifact → Bool} {w : World DB Content}
    (h : Holds archive done w) : stagingDir w =
      { db := some (.regular (.whole archive.db))
        artifacts := fun artifact =>
          if done artifact then (stagedFiles archive archive.db).artifacts artifact else none } := by
  unfold stagingDir
  rw [h]

theorem stageArtifact_holds (done : Artifact → Bool) (artifact : Artifact) :
    Triple fate True (Holds archive done) (stageArtifact archive artifact)
      (fun _ => Holds archive (Function.update done artifact true)) fun _ => True := by
  unfold stageArtifact
  split
  · -- the archive does not have the artifact, and neither has the staging directory
    rename_i hnone
    intro w hw
    refine hw.trans (congrArg (fun f => some (Node.regular (Staging.mk _ f))) ?_)
    funext a
    by_cases ha : a = artifact
    · subst ha
      simp [stagedFiles, hnone]
    · rw [Function.update_of_ne ha]
  · rename_i content hsome
    apply perform_true
    intro w hw
    unfold Holds World.setStaged
    rw [hw.stagingDir_artifacts]
    refine congrArg (fun f => some (Node.regular (Staging.mk _ f))) ?_
    funext a
    by_cases ha : a = artifact
    · subst ha
      simp [stagedFiles, hsome]
    · rw [Function.update_of_ne ha, Function.update_of_ne ha]

theorem planOf_newRestoreMarker (c : RestoreCoordinator) {newID : String} (hid : newID ≠ "")
    (phase : RestorePhase) :
    (updateRestoreOperationFields newID (newRestoreMarker c) phase).PlanOf c := by
  refine ⟨rfl, ?_, rfl, rfl, rfl, hid⟩
  intro artifact
  cases artifact <;> rfl

/-- A staged archive is pending. -/
theorem stageRestore_pending (fate : Step → Fate String) (c : RestoreCoordinator) (pg : Postgres DB)
    (archive : Archive DB Content) {newID : String} (hid : newID ≠ "") :
    Triple fate True (fun _ => True) (stageRestore c archive newID)
      (fun _ => Pending c pg archive 0) fun _ => True := by
  have hdone : ∀ w : World DB Content,
      Holds archive (Function.update (Function.update (fun _ => false) .backups true)
        .knownHosts true) w →
      w.staging = some (.regular (stagedFiles archive (stagedDatabase c pg archive 0))) := by
    intro w hw
    refine hw.trans (congrArg (fun f => some (Node.regular (Staging.mk _ f))) ?_)
    funext artifact
    cases artifact <;> rfl
  apply bind (Q := fun _ _ => True)
  · exact triple_wrap (perform_true fun _ _ => trivial)
  intro _
  apply bind (Q := fun _ w => w.staging = some (.regular {}))
  · exact triple_wrap (perform_true fun _ _ => rfl)
  intro _
  apply handle (F := fun _ => True) _ fun _ => id
  · -- a staging that failed does not return
    intro _ err
    apply bind (Q := fun _ _ => True)
    · exact ignore (perform_true fun _ _ => trivial) fun _ _ => trivial
    intro _
    apply bind (Q := fun _ _ => True)
    · exact ignore (perform_true fun _ _ => trivial) fun _ _ => trivial
    intro _
    exact .fail trivial fun _ _ => trivial
  · apply seq (J := Holds archive fun _ => false)
    · apply triple_wrap
      apply perform_true
      intro w hw
      unfold Holds World.setStagedDB stagingDir
      rw [hw]
      rfl
    apply (triple_wrap (stageArtifact_holds _ .backups)).seq
    apply (triple_wrap (stageArtifact_holds _ .knownHosts)).seq
    apply (check (Sound.true fate) fun _ _ => trivial).seq
    apply seq (J := Pending c pg archive 0)
    · apply perform_true
      intro w hw
      exact ⟨⟨_, rfl, (tracked_planOf c).update newID _ _ (planOf_newRestoreMarker c hid _)⟩,
        hdone w hw⟩
    exact writeRestoreOperationStatus_triple (Sound.true fate) (fun _ _ => trivial)
      (planOf_newRestoreMarker c hid .stagedRestartPending).operationID nofun
      Pending.reports.status

end Staging

/-! ### Runs -/

/-- An archive has been staged. -/
def Staged (c : RestoreCoordinator) (archive : Archive DB Content) (w : World DB Content) : Prop :=
  ∃ newID fate w₀, newID ≠ "" ∧ stageRestore c archive newID fate w₀ = .returned ⟨⟩ w

/-- Attempts, and writes of the application between them. -/
def AttemptOrWrite (_ : World DB Content) : Op DB Content → Prop
  | .stage _ _ _ => False
  | .attempt _ _ => True
  | .write _ => True

/-- Attempts whose refresh of the staged database leaves no partial dump if it does not work, and
writes between them. -/
def RefreshLeavesNoPart (_ : World DB Content) : Op DB Content → Prop
  | .stage _ _ _ => False
  | .attempt _ fate => (fate (.pgDump .retryDump)).Clean
  | .write _ => True

variable {c : RestoreCoordinator} {pg : Postgres DB} {archive : Archive DB Content}
  {w : World DB Content}

theorem Staged.kept (h : Staged c archive w) : Kept c pg archive w := by
  obtain ⟨newID, fate, w₀, hid, hstaged⟩ := h
  have hpending := stageRestore_pending fate c pg archive hid w₀ trivial
  rw [hstaged] at hpending
  exact .inr hpending.still

/-- Every operation that leaves no partial dump keeps a restore pending until the marker is
removed. -/
theorem step_kept {op : Op DB Content} (h : Kept c pg archive w) (hop : RefreshLeavesNoPart w op) :
    Kept c pg archive (step c pg w op) := by
  cases op with
  | stage archive newID fate => exact hop.elim
  | attempt newID fate => exact applyPendingRestore_kept hop newID h
  | write live =>
    rcases h with h | ⟨n, h⟩
    · exact .inl h
    · exact .inr ⟨n, h.marker, h.staging⟩

theorem run_kept {tr : List (Op DB Content)}
    (hrun : Run (Staged c archive) (ActStep (step c pg) RefreshLeavesNoPart) w tr) :
    Kept c pg archive w := by
  refine hrun.invariant (P := fun w _ => Kept c pg archive w) ?_ ?_
  · intro w hw
    exact hw.kept
  · rintro w _ _ _ _ hw ⟨op, hop, -, rfl⟩
    exact step_kept hw hop

/-- As long as the marker exists, the staged dump that it names is complete and holds the staged
database, restored and dumped again some number of times, the staged artifacts are complete, and an
attempt whose steps all work finishes the restore. -/
theorem pending_restore_completes (c : RestoreCoordinator) (pg : Postgres DB)
    (archive : Archive DB Content) {w : World DB Content} {tr : List (Op DB Content)}
    (hrun : Run (Staged c archive) (ActStep (step c pg) RefreshLeavesNoPart) w tr)
    {marker : RestoreMarker} (hmarker : w.marker = some marker) :
    ∃ refreshes, marker.stagedDB = join [stagingPath c.stateDir, "database.dump"] ∧
      w.staging = some (.regular (stagedFiles archive (stagedDatabase c pg archive refreshes))) ∧
      ∀ newID, trimSpace c.dbDSN ≠ "" → Regular w →
        ∃ w', applyPendingRestore c pg newID (fun _ => .ok) w = .returned true w' ∧
          Finished c pg archive refreshes w' := by
  rcases run_kept hrun with hnone | ⟨n, hw⟩
  · exact nomatch hnone.symm.trans hmarker
  refine ⟨n, (hw.planOf hmarker).stagedDB, hw.staging, ?_⟩
  intro newID hdsn hregular
  obtain ⟨result, w', hattempt, rfl, hfinished⟩ :=
    (applyPendingRestore_pending (fun _ => .inl rfl) (.inl hdsn) trivial newID).returned id
      ⟨hw, .inl hregular⟩
  exact ⟨w', hattempt, hfinished⟩

theorem staged_databaseArchive (db : Nat) :
    Staged plainCoordinator (databaseArchive db)
      (stageRestore plainCoordinator (databaseArchive db) "op" (fun _ => .ok) { live := 1 }).state :=
  ⟨"op", fun _ => .ok, { live := 1 }, by decide, rfl⟩

/-- Both artifacts have a live path, and a verifier is set. -/
def fullCoordinator : RestoreCoordinator :=
  newRestoreCoordinatorWithDSN "/state" "postgres://theia" "/backups" "/known_hosts" true

/-- Migrations count up the database, so a refresh shows. -/
def migratingPostgres : Postgres Nat := { countingPostgres with runMigrations := (· + 1) }

def fullArchive : Archive Nat Nat := ⟨7, fun artifact => some (if artifact = .backups then 8 else 9)⟩

/-- The activation of the artifacts fails after the database has been migrated, and the staged dump
is refreshed; after that the restore can be finished. -/
theorem pending_restore_completes_after_refresh :
    ∃ (w : World Nat Nat) (tr : List (Op Nat Nat)) (marker : RestoreMarker),
      Run (Staged fullCoordinator fullArchive)
        (ActStep (step fullCoordinator migratingPostgres) RefreshLeavesNoPart) w tr ∧
      w.marker = some marker ∧ (stagingDir w).db = some (.regular (.whole 8)) ∧
      ∃ refreshes, marker.stagedDB = join [stagingPath "/state", "database.dump"] ∧
        w.staging = some (.regular (stagedFiles fullArchive
          (stagedDatabase fullCoordinator migratingPostgres fullArchive refreshes))) ∧
        ∃ w', applyPendingRestore fullCoordinator migratingPostgres "" (fun _ => .ok) w =
            .returned true w' ∧
          Finished fullCoordinator migratingPostgres fullArchive refreshes w' := by
  have hstaged : Staged fullCoordinator fullArchive
      (stageRestore fullCoordinator fullArchive "op" (fun _ => .ok) { live := 1 }).state :=
    ⟨"op", fun _ => .ok, { live := 1 }, by decide, rfl⟩
  have hok : OkAlong (step fullCoordinator migratingPostgres) RefreshLeavesNoPart
      (stageRestore fullCoordinator fullArchive "op" (fun _ => .ok) { live := 1 }).state
      [.attempt "" (failsAt (.lstatStagingDir .activation))] := ⟨trivial, trivial⟩
  have hrun := (Run.of_ops hok).of_init hstaged
  obtain ⟨refreshes, hdump, hstaging, hfinish⟩ := pending_restore_completes fullCoordinator
    migratingPostgres fullArchive hrun rfl
  refine ⟨_, _, _, hrun, rfl, rfl, refreshes, hdump, hstaging, hfinish "" ?_ ?_⟩
  · decide
  · intro artifact
    cases artifact with
    | backups | knownHosts =>
      intro hcurrent
      cases hcurrent

/-- The activation fails, and then `pg_dump` runs out of space over the staged dump. -/
def refreshCutOff (s : Step) : Fate String :=
  if s = .lstatStagingDir .activation then .fails "input/output error" none
  else if s = .pgDump .retryDump then .fails "no space left on device" (some 3)
  else .ok

/-- The staged dump is overwritten in place: after a refresh that was cut off the marker is still
there, the staged dump is not complete, and an attempt whose steps all work fails with an empty
database. -/
theorem pending_restore_loses_staged_dump :
    ∃ (w : World Nat Nat) (tr : List (Op Nat Nat)),
      Run (Staged plainCoordinator (databaseArchive 7))
        (ActStep (step plainCoordinator countingPostgres) AttemptOrWrite) w tr ∧
      w.marker.isSome ∧ (stagingDir w).db = some (.regular (.part 3)) ∧
      ∃ err w', applyPendingRestore plainCoordinator countingPostgres "" (fun _ => .ok) w =
        .failed err w' ∧ w'.marker.isSome ∧ w'.live = countingPostgres.emptySchema := by
  have hok : OkAlong (step plainCoordinator countingPostgres) AttemptOrWrite
      (stageRestore plainCoordinator (databaseArchive 7) "op" (fun _ => .ok) { live := 1 }).state
      [.attempt "" refreshCutOff] := ⟨trivial, trivial⟩
  have hrun := (Run.of_ops hok).of_init (staged_databaseArchive 7)
  exact ⟨_, _, hrun, rfl, rfl, _, _, rfl, rfl, rfl⟩

end Theia.Restore
