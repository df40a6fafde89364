import Theia.Native.Restore

/-!
# The parts of a restore attempt

One triple for each function of the restore code. A function may end early in trouble only, and what
trouble is, is left open: with every failure as trouble the triples say what an attempt keeps however
it ends, and without trouble they say that it succeeds.
-/

namespace Theia.Restore

open Proc

variable {marker : RestoreMarker}

variable {DB Content α : Type} {fate : Step → Fate String} {T : Prop}
  {P I : World DB Content → Prop} {Q : α → World DB Content → Prop}

theorem triple_wrap {text : String} {p : Prog DB Content α} (h : Triple fate T P p Q I) :
    Triple fate T P (wrap text p) Q I :=
  h.handle (fun _ => id) fun hT _ => .fail hT fun _ => id

/-! ### Validations -/

section Validations

variable (hT : Sound fate T) (hI : ∀ w, P w → I w)
include hT hI

theorem lstat_triple {β : Type} (step : Step) (text kind : String)
    {entry : World DB Content → Option (Node β)}
    (hkind : ∀ w, P w → entry w = some .irregular → T) :
    Triple fate T P (lstat step text kind entry)
      (fun found w => found = (entry w).isSome ∧ P w) I := by
  apply (triple_wrap (.check hT hI)).seq
  apply (Triple.look (Q := fun found w => entry w = found ∧ P w) fun _ hw => ⟨rfl, hw⟩).bind
  intro found
  split
  · rintro w ⟨hfound, hw⟩
    exact ⟨by rw [hfound]; rfl, hw⟩
  · rintro w ⟨hfound, hw⟩
    exact ⟨hkind w hw hfound, hI w hw⟩
  · rintro w ⟨hfound, hw⟩
    exact ⟨by rw [hfound]; rfl, hw⟩

theorem lstat_require_triple {β : Type} (step : Step) (text kind missing : String)
    {entry : World DB Content → Option (Node β)}
    (hentry : ∀ w, P w → (∃ content, entry w = some (.regular content)) ∨ T) :
    Triple fate T P
      (lstat step text kind entry >>= fun found => Proc.require (found = true) missing)
      (fun _ => P) I := by
  have hkind : ∀ w, P w → entry w = some .irregular → T := by
    intro w hw hirregular
    refine (hentry w hw).resolve_left ?_
    rintro ⟨content, hcontent⟩
    exact nomatch hcontent.symm.trans hirregular
  apply (lstat_triple hT hI step text kind hkind).bind
  intro found
  apply (Triple.require _ fun w hw => hI w hw.2).conseq (fun _ => id) (fun _ _ hw => hw.2)
    fun _ => id
  rintro w ⟨rfl, hw⟩
  refine (hentry w hw).imp_left ?_
  rintro ⟨content, hcontent⟩
  rw [hcontent]
  rfl

theorem validateOptionalStaged_triple (site : Site) (artifact : Artifact)
    (hkind : ∀ w, P w → (stagingDir w).artifacts artifact = some .irregular → T) :
    Triple fate T P (validateOptionalStaged site artifact) (fun _ => P) I := by
  cases artifact with
  | backups | knownHosts =>
    exact (lstat_triple hT hI _ _ _ hkind).conseq (fun _ => id) (fun _ _ hw => hw.2)
      fun _ => id

theorem validateLiveRestore_triple (artifact : Artifact)
    (hkind : ∀ w, P w → (w.targets artifact).current = some .irregular → T) :
    Triple fate T P (validateLiveRestore artifact) (fun _ => P) I := by
  cases artifact with
  | backups | knownHosts =>
    exact (lstat_triple hT hI _ _ _ hkind).conseq (fun _ => id) (fun _ _ hw => hw.2)
      fun _ => id

/-- The staging directory and the dump are there, and the artifacts are of the expected kind. -/
structure Fit (w : World DB Content) : Prop where
  staging : ∃ staging, w.staging = some (.regular staging)
  db : ∃ db, (stagingDir w).db = some (.regular (.whole db))
  artifacts : ∀ artifact, (stagingDir w).artifacts artifact ≠ some .irregular

omit hT hI in
theorem trouble_of_irregular (hfit : ∀ w, P w → Fit w ∨ T) (artifact : Artifact) :
    ∀ w, P w → (stagingDir w).artifacts artifact = some .irregular → T := by
  intro w hw hirregular
  exact (hfit w hw).resolve_left fun h => h.artifacts artifact hirregular

theorem validateRestoreStagingDir_triple (site : Site) (hfit : ∀ w, P w → Fit w ∨ T) :
    Triple fate T P (validateRestoreStagingDir site) (fun _ => P) I :=
  lstat_require_triple hT hI _ _ _ _ fun w hw => (hfit w hw).imp_left Fit.staging

theorem validateStagedDBFile_triple (site : Site) (hfit : ∀ w, P w → Fit w ∨ T) :
    Triple fate T P (validateStagedDBFile site) (fun _ => P) I := by
  apply lstat_require_triple hT hI
  intro w hw
  refine (hfit w hw).imp_left ?_
  rintro ⟨-, ⟨db, hdb⟩, -⟩
  exact ⟨_, hdb⟩

/-- A marker with the paths of the coordinator. -/
structure RestoreMarker.PlanOf (c : RestoreCoordinator) (marker : RestoreMarker) : Prop where
  stagedDB : marker.stagedDB = join [stagingPath c.stateDir, "database.dump"]
  staged : ∀ artifact, marker.staged artifact = join [stagingPath c.stateDir, stagedName artifact]
  stateDir : marker.stateDir = c.stateDir
  deviceBackupDir : marker.deviceBackupDir = c.deviceBackupDir
  knownHostsPath : marker.knownHostsPath = c.knownHostsPath
  operationID : marker.operationID ≠ ""

theorem validatePendingRestoreMarker_triple {c : RestoreCoordinator} (hplan : marker.PlanOf c ∨ T)
    (hfit : ∀ w, P w → Fit w ∨ T) :
    Triple fate T P (validatePendingRestoreMarker c marker) (fun _ => P) I := by
  have hstaged : ∀ artifact, Triple fate T P (validateStagedPath c marker artifact) (fun _ => P)
      I := by
    intro artifact
    apply Triple.onlyIf
    · intro _
      apply (Triple.require (fun _ _ => hplan.imp_left fun h => h.staged artifact) hI).seq
      apply (validateOptionalStaged_triple hT hI _ _ (trouble_of_irregular hfit artifact)).seq
      exact Triple.pure fun _ => id
    · intro _ _ hw
      exact hw
  have htargets : marker.PlanOf c → clean marker.stateDir = clean c.stateDir ∧
      clean marker.deviceBackupDir = clean c.deviceBackupDir ∧
      clean marker.knownHostsPath = clean c.knownHostsPath := by
    intro h
    rw [h.stateDir, h.deviceBackupDir, h.knownHostsPath]
    exact ⟨rfl, rfl, rfl⟩
  apply (Triple.require (fun _ _ => hplan.imp_left htargets) hI).seq
  apply (validateRestoreStagingDir_triple hT hI _ hfit).seq
  apply (Triple.require (fun _ _ => hplan.imp_left fun h => h.stagedDB) hI).seq
  apply (validateStagedDBFile_triple hT hI _ hfit).seq
  apply (hstaged _).seq
  exact hstaged _

theorem prepareTool_triple {c : RestoreCoordinator} (hdsn : trimSpace c.dbDSN ≠ "" ∨ T)
    (call : ToolCall) (missing : String) :
    Triple fate T P (prepareTool c call missing) (fun _ => P) I := by
  apply (Triple.require (fun _ _ => hdsn) hI).seq
  apply (Triple.check hT hI).seq
  exact triple_wrap (.check hT hI)

end Validations

/-! ### Marker and status -/

section Reports

/-- A set of markers that the phase reports do not leave. -/
structure Tracked (M : RestoreMarker → Prop) : Prop where
  operationID : ∀ marker, M marker → marker.operationID ≠ ""
  update : ∀ newID marker phase, M marker → M (updateRestoreOperationFields newID marker phase)
  countAttempt : ∀ marker : RestoreMarker, M marker →
    M { marker with attemptCount := marker.attemptCount + 1 }

/-- A condition that does not tell the markers of a set apart, nor the status. -/
structure Reports (M : RestoreMarker → Prop) (P : World DB Content → Prop) : Prop where
  marker : ∀ w marker, M marker → P w → P { w with marker := some marker }
  status : ∀ w status, P w → P { w with status := some status }

theorem updateRestoreOperationFields_idem (newID : String) (marker : RestoreMarker)
    (phase : RestorePhase) :
    updateRestoreOperationFields newID (updateRestoreOperationFields newID marker phase) phase =
      updateRestoreOperationFields newID marker phase := by
  by_cases h : marker.operationID = ""
  · simp [updateRestoreOperationFields, h]
  · simp [updateRestoreOperationFields, h]

theorem operationID_update {operationID : String} (hid : operationID ≠ "") (newID : String)
    (hm : marker.operationID = operationID) (phase : RestorePhase) :
    (updateRestoreOperationFields newID marker phase).operationID = operationID := by
  show (if marker.operationID = "" then newID else marker.operationID) = operationID
  rw [hm, if_neg hid]

variable (hT : Sound fate T) (hI : ∀ w, P w → I w)
include hT hI

theorem writeRestoreOperationStatus_triple {status : RestoreOperationStatus}
    (hid : status.operationID ≠ "") (hphase : status.phase ≠ none)
    (hstatus : ∀ w status, P w → P { w with status := some status }) :
    Triple fate T P (writeRestoreOperationStatus status) (fun _ => P) I := by
  unfold writeRestoreOperationStatus
  rw [if_neg hid]
  split
  · rename_i hnone
    exact absurd hnone hphase
  · exact .perform_of hT (fun w => hstatus w _) hI fun _ w hw => hI _ (hstatus w _ hw)

theorem persistRestoreStatus_triple (newID : String) (hid : marker.operationID ≠ "")
    (phase : RestorePhase) (hmarker : phase ≠ .completed → ∀ w, P w →
      P { w with marker := some (updateRestoreOperationFields newID marker phase) })
    (hstatus : ∀ w status, P w → P { w with status := some status }) :
    Triple fate T P (persistRestoreStatus newID marker phase)
      (fun marker' w => marker' = updateRestoreOperationFields newID marker phase ∧ P w) I := by
  have hwrite : Triple fate T P (Proc.onlyIf (phase ≠ .completed)
      (writeRestoreMarker newID (updateRestoreOperationFields newID marker phase)))
      (fun _ => P) I := by
    apply Triple.onlyIf
    · intro hphase
      have hfull := hmarker hphase
      rw [← updateRestoreOperationFields_idem] at hfull
      exact .perform_of hT hfull hI fun _ w hw => hI _ (hfull w hw)
    · intro _ _ hw
      exact hw
  have hid' : (restoreOperationStatusFromMarker
      (updateRestoreOperationFields newID marker phase)).operationID ≠ "" :=
    (operationID_update hid newID rfl phase).trans_ne hid
  apply hwrite.seq
  apply (writeRestoreOperationStatus_triple hT hI hid' nofun hstatus).seq
  exact Triple.pure fun _ hw => ⟨rfl, hw⟩

variable {M : RestoreMarker → Prop} (hM : Tracked M)
include hM

theorem persistRestoreStatus_reports (newID : String) (hm : M marker) (phase : RestorePhase)
    (hP : Reports M P) : Triple fate T P (persistRestoreStatus newID marker phase)
      (fun marker' w => M marker' ∧ P w) I := by
  apply (persistRestoreStatus_triple hT hI newID (hM.operationID _ hm) phase
    (fun _ w => hP.marker w _ (hM.update newID marker phase hm)) hP.status).conseq
    (fun _ => id) _ fun _ => id
  rintro _ w ⟨rfl, hw⟩
  exact ⟨hM.update newID marker phase hm, hw⟩

omit hI in
theorem failAttempt_triple (htrouble : T) (newID : String) (hm : M marker) (phase : RestorePhase)
    (err : String) (hP : Reports M P) :
    Triple fate T P (failAttempt newID marker phase err) Q P := by
  have hpersist := persistRestoreStatus_reports (I := P) hT (fun _ => id) hM newID hm phase hP
  apply Triple.seq (J := P)
  · apply Triple.ignore _ fun _ => id
    exact hpersist.conseq (fun _ => id) (fun _ _ hw => hw.2) fun _ => id
  · exact .fail htrouble fun _ => id

omit hI in
theorem handle_failAttempt_triple {p : Prog DB Content α} (newID : String) (hm : M marker)
    (phase : RestorePhase) (hR : Reports M I) (hp : Triple fate T P p Q I) :
    Triple fate T P (p.handle (failAttempt newID marker phase)) Q I :=
  hp.handle (fun _ => id) fun htrouble err =>
    failAttempt_triple hT hM htrouble newID hm phase err hR

end Reports

/-! ### The database -/

section Database

/-- The world when the schema has been dropped. -/
def overwrite (pg : Postgres DB) (operationID : String) (w : World DB Content) : World DB Content :=
  { w with
    live := pg.emptySchema
    overwrites := w.overwrites ++ [⟨operationID, w.live, w.preRestoreDump⟩] }

/-- What the verifier makes of a database that has been restored. -/
def verified (c : RestoreCoordinator) (pg : Postgres DB) (db : DB) : DB :=
  if c.verifier then pg.revokeAllSessions (pg.runMigrations db) else db

variable (hT : Sound fate T) {c : RestoreCoordinator} {pg : Postgres DB}
  {D : DB → World DB Content → Prop}
include hT

theorem runPostgresRestore_triple {R S : World DB Content → Prop}
    (hdsn : trimSpace c.dbDSN ≠ "" ∨ T) (operationID : String) (hP : ∀ w, P w → Fit w ∨ T)
    (hPI : ∀ w, P w → I w) (hdrop : ∀ w, P w → R (overwrite pg operationID w))
    (hR : ∀ w, R w → Fit w ∨ T) (hRI : ∀ w, R w → I w)
    (hlive : ∀ w db, R w → (stagingDir w).db = some (.regular (.whole db)) →
      S { w with live := db })
    (hSI : ∀ w, S w → I w) :
    Triple fate T P (runPostgresRestore c pg operationID) (fun _ => S) I := by
  apply (prepareTool_triple hT hPI hdsn _ _).seq
  apply (triple_wrap (.check hT hPI)).seq
  apply (validateStagedDBFile_triple hT hPI _ hP).seq
  apply Triple.seq (J := R)
  · apply triple_wrap
    exact .perform_of hT hdrop hPI fun _ w hw => hRI _ (hdrop w hw)
  apply triple_wrap
  apply (Triple.look (Q := fun entry w => (stagingDir w).db = entry ∧ R w)
    fun _ hw => ⟨rfl, hw⟩).bind
  intro entry
  split
  · apply Triple.perform_of hT
    · rintro w ⟨hdb, hw⟩
      exact hlive w _ hw hdb
    · rintro w ⟨-, hw⟩
      exact hRI w hw
    · rintro _ w ⟨hdb, hw⟩
      exact hSI _ (hlive w _ hw hdb)
  · -- only a complete dump can be restored
    rename_i hnot
    rintro w ⟨hdb, hw⟩
    refine ⟨(hR w hw).resolve_left ?_, hRI w hw⟩
    rintro ⟨-, ⟨db, hdb'⟩, -⟩
    exact hnot db (hdb.symm.trans hdb')

variable {M : RestoreMarker → Prop} (hM : Tracked M)
include hM

/-- The verifier changes the live database and reports two phases. -/
theorem runVerifier_triple (newID : String) (hm : M marker) (x : DB) (hD : ∀ y, Reports M (D y))
    (hI : Reports M I) (hlive : ∀ (f : DB → DB) y w, D y w → D (f y) { w with live := f w.live })
    (hDI : ∀ y w live, D y w → I { w with live }) :
    Triple fate T (D x) (runVerifier c pg newID marker)
      (fun marker' w => M marker' ∧ D (verified c pg x) w) I := by
  have hDI' : ∀ y w, D y w → I w := fun y w hw => hDI y w w.live hw
  unfold runVerifier
  split_ifs with hverifier
  · apply Triple.handle (F := I) _ fun _ => id
    · intro htrouble err
      unfold verificationFailed
      split
      · exact failAttempt_triple hT hM htrouble newID hm _ _ hI
      · exact failAttempt_triple hT hM htrouble newID hm _ _ hI
    apply (persistRestoreStatus_reports hT (hDI' x) hM newID hm _ (hD x)).bind
    intro marker₁
    apply Triple.lift
    intro hm₁
    apply (triple_wrap (.check hT (hDI' x))).seq
    apply (triple_wrap (.check hT (hDI' x))).seq
    apply (persistRestoreStatus_reports hT (hDI' x) hM newID hm₁ _ (hD x)).bind
    intro marker₂
    apply Triple.lift
    intro hm₂
    apply Triple.seq (J := D (pg.runMigrations x))
    · exact triple_wrap (.perform_of hT (hlive pg.runMigrations x) (hDI' x)
        fun _ w => hDI x w _)
    apply Triple.seq (J := D (verified c pg x))
    · unfold verified
      rw [if_pos hverifier]
      exact triple_wrap (.perform_of hT (hlive pg.revokeAllSessions _) (hDI' _)
        fun _ w => hDI _ w _)
    exact Triple.pure fun _ hw => ⟨hm₂, hw⟩
  · unfold verified
    rw [if_neg hverifier]
    exact Triple.pure fun _ hw => ⟨hm, hw⟩

end Database

/-! ### Optional artifacts -/

section Targets

theorem setTarget_targets (w : World DB Content) (artifact : Artifact)
    (f : Target Content → Target Content) :
    (w.setTarget artifact f).targets artifact = f (w.targets artifact) :=
  Function.update_self _ _ _

/-- The live target is the staged artifact. -/
def Replaced (artifact : Artifact) (w : World DB Content) : Prop :=
  ∀ content, (stagingDir w).artifacts artifact = some (.regular content) →
    (w.targets artifact).current = some (.regular content)

/-- The temporary copy of a target is the staged artifact. -/
def Copied (artifact : Artifact) (w : World DB Content) : Prop :=
  ∀ content, (stagingDir w).artifacts artifact = some (.regular content) →
    (w.targets artifact).tmp = some (.regular content)

variable (hT : Sound fate T) {J : World DB Content → Prop} {artifact : Artifact}
  (hJ : ∀ w f, J w → J (w.setTarget artifact f))
include hT hJ

theorem setTarget_triple (step : Step) {f : Target Content → Target Content}
    {g : Nat → Target Content → Target Content} :
    Triple fate T J (Proc.perform step (fun w => w.setTarget artifact f)
      fun n w => w.setTarget artifact (g n)) (fun _ => J) J :=
  .perform_of hT (fun w => hJ w _) (fun _ => id) fun _ w => hJ w _

omit hJ in
theorem rename_triple {Q : PUnit → World DB Content → Prop} (step : Step)
    {f : Target Content → Target Content} (hJP : ∀ w, P w → J w)
    (hQ : ∀ w, P w → Q ⟨⟩ (w.setTarget artifact f)) :
    Triple fate T P (Proc.perform step (fun w => w.setTarget artifact f) fun _ w => w) Q J :=
  .perform_of hT hQ hJP fun _ => hJP

theorem activate_triple (movedExisting : Bool) :
    Triple fate T (fun w => J w ∧ Copied artifact w) (activate artifact movedExisting)
      (fun _ w => J w ∧ Replaced artifact w) J := by
  apply Triple.handle (F := J) _ fun _ => id
  · intro htrouble err
    apply Triple.seq (J := J)
    · apply Triple.onlyIf
      · intro _
        apply Triple.handle (F := J) _ fun _ => id
        · intro _ _
          exact .fail htrouble fun _ => id
        · exact rename_triple hT _ (fun _ => id) fun w => hJ w _
      · intro _ _ hw
        exact hw
    · apply (Triple.ignore (R := fun _ => J) (setTarget_triple hT hJ _) fun _ => id).seq
      exact .fail htrouble fun _ => id
  · apply rename_triple hT _ fun _ hw => hw.1
    rintro w ⟨hw, hcopied⟩
    refine ⟨hJ w _ hw, ?_⟩
    intro content hcontent
    rw [setTarget_targets]
    exact hcopied content hcontent

/-- A live target is replaced by the staged artifact. -/
theorem replaceForRestore_triple
    (hstaged : ∀ w, J w → (∃ content, (stagingDir w).artifacts artifact = some (.regular content))
      ∨ T) :
    Triple fate T J (replaceForRestore artifact) (fun _ w => J w ∧ Replaced artifact w) J := by
  have hkind : ∀ w, J w → (stagingDir w).artifacts artifact = some .irregular → T := by
    intro w hw hirregular
    refine (hstaged w hw).resolve_left ?_
    rintro ⟨content, hcontent⟩
    exact nomatch hcontent.symm.trans hirregular
  have hdiscard : ∀ err : String, T → Triple fate T J
      ((removeTmp (.discardTmp artifact) artifact).ignore >>= fun _ =>
        (Proc.fail err : Prog DB Content PUnit))
      (fun _ w => J w ∧ Copied artifact w) J := by
    intro err htrouble
    apply (Triple.ignore (R := fun _ => J) (setTarget_triple hT hJ _) fun _ => id).seq
    exact .fail htrouble fun _ => id
  apply (validateOptionalStaged_triple hT (fun _ => id) _ _ hkind).seq
  apply (setTarget_triple hT hJ _).seq
  apply (setTarget_triple hT hJ _).seq
  have hcopy : Triple fate T J (copyStaged artifact) (fun _ w => J w ∧ Copied artifact w) J := by
    apply (Triple.look (Q := fun entry w => (stagingDir w).artifacts artifact = entry ∧ J w)
      fun _ hw => ⟨rfl, hw⟩).bind
    intro entry
    have htrouble : ∀ w, (stagingDir w).artifacts artifact = entry ∧ J w →
        (∀ content, entry ≠ some (.regular content)) → T ∧ J w := by
      rintro w ⟨hentry, hw⟩ hnot
      refine ⟨(hstaged w hw).resolve_left ?_, hw⟩
      rintro ⟨content, hcontent⟩
      exact hnot content (hentry.symm.trans hcontent)
    split
    · apply Triple.perform_of hT
      · rintro w ⟨hentry, hw⟩
        refine ⟨hJ w _ hw, ?_⟩
        intro content hcontent
        rw [setTarget_targets]
        exact hentry.symm.trans hcontent
      · intro w hw
        exact hw.2
      · intro _ w hw
        exact hJ w _ hw.2
    · exact fun w hw => htrouble w hw nofun
    · exact fun w hw => htrouble w hw nofun
  apply hcopy.seq
  apply Triple.bind (Q := fun _ w => J w ∧ Copied artifact w)
  · exact (Triple.check hT fun _ hw => hw.1).handle (fun _ => id) fun ht err => hdiscard err ht
  intro _
  apply (Triple.look (Q := fun _ w => J w ∧ Copied artifact w) fun _ => id).bind
  intro current
  split
  · -- the previous one is moved aside, and removed at the end
    apply Triple.bind (Q := fun _ w => J w ∧ Copied artifact w)
    · apply Triple.handle (F := J) _ (fun _ => id) fun ht err => hdiscard err ht
      apply rename_triple hT _ fun _ hw => hw.1
      rintro w ⟨hw, hcopied⟩
      refine ⟨hJ w _ hw, ?_⟩
      intro content hcontent
      rw [setTarget_targets]
      exact hcopied content hcontent
    intro _
    apply (activate_triple hT hJ true).seq
    have hkept : ∀ (f : Option (Node (Stored Content)) → Option (Node (Stored Content))) w,
        J w ∧ Replaced artifact w →
        J (w.setTarget artifact fun t => { t with old := f t.old }) ∧
          Replaced artifact (w.setTarget artifact fun t => { t with old := f t.old }) := by
      rintro f w ⟨hw, hreplaced⟩
      refine ⟨hJ w _ hw, ?_⟩
      intro content hcontent
      rw [setTarget_targets]
      exact hreplaced content hcontent
    apply Triple.ignore (R := fun _ w => J w ∧ Replaced artifact w) _ fun _ hw => hw.1
    exact .perform_of hT (hkept fun _ => none) (fun _ => id) fun n => hkept (partlyRemoved artifact n)
  · exact activate_triple hT hJ false

variable (artifact) in
theorem activateOptionalStaged_triple (marker : RestoreMarker) (name : String)
    (hkind : ∀ w, J w → (stagingDir w).artifacts artifact = some .irregular → T) :
    Triple fate T (fun w => J w ∧ ((w.targets artifact).current = some .irregular → T))
      (activateOptionalStaged marker artifact name (replaceForRestore artifact))
      (fun _ w => J w ∧ (marker.staged artifact ≠ "" → marker.target artifact ≠ "" →
        Replaced artifact w)) J := by
  apply Triple.onlyIf
  · intro _
    apply (triple_wrap (.check hT fun _ hw => hw.1)).seq
    apply (Triple.look (Q := fun entry w => (stagingDir w).artifacts artifact = entry ∧ J w ∧
      ((w.targets artifact).current = some .irregular → T)) fun _ hw => ⟨rfl, hw⟩).bind
    intro entry
    split
    · apply Triple.pure
      rintro w ⟨hentry, hw, -⟩
      exact ⟨hw, fun _ _ content hcontent => nomatch hentry.symm.trans hcontent⟩
    · rename_i node
      apply (triple_wrap (validateOptionalStaged_triple hT (fun _ hw => hw.2.1) _ _
        fun w hw => hkind w hw.2.1)).seq
      apply (triple_wrap (validateLiveRestore_triple hT (fun _ hw => hw.2.1) _
        fun _ hw => hw.2.2)).seq
      have hJ' : ∀ w f, (stagingDir w).artifacts artifact = some node ∧ J w →
          (stagingDir w).artifacts artifact = some node ∧ J (w.setTarget artifact f) :=
        fun w f hw => ⟨hw.1, hJ w f hw.2⟩
      apply (triple_wrap (replaceForRestore_triple hT hJ' _)).conseq
      · exact fun w hw => ⟨hw.1, hw.2.1⟩
      · exact fun _ w hw => ⟨hw.1.2, fun _ _ => hw.2⟩
      · exact fun w hw => hw.2
      · rintro w ⟨hentry, hw⟩
        cases node with
        | regular content => exact .inl ⟨content, hentry⟩
        | irregular => exact .inr (hkind w hw hentry)
  · rintro hskip w ⟨hw, -⟩
    exact ⟨hw, fun hs ht => absurd ⟨hs, ht⟩ hskip⟩

omit hJ in
theorem activateOptionalRestoreArtifacts_triple (marker : RestoreMarker)
    (hJ : ∀ w artifact f, J w → J (w.setTarget artifact f)) (hfit : ∀ w, J w → Fit w ∨ T) :
    Triple fate T (fun w => J w ∧ ∀ artifact, (w.targets artifact).current = some .irregular → T)
      (activateOptionalRestoreArtifacts marker)
      (fun _ w => J w ∧ ∀ artifact, marker.staged artifact ≠ "" → marker.target artifact ≠ "" →
        Replaced artifact w) J := by
  apply Triple.onlyIf
  · intro _
    apply (triple_wrap (validateRestoreStagingDir_triple hT (fun _ hw => hw.1) _
      fun w hw => hfit w hw.1)).seq
    have hbackups := activateOptionalStaged_triple hT .backups
      (J := fun w => J w ∧ ((w.targets .knownHosts).current = some .irregular → T))
      (fun w f hw => ⟨hJ w _ f hw.1, hw.2⟩) marker "backup dir"
      fun w hw => trouble_of_irregular hfit _ w hw.1
    apply Triple.bind ((hbackups.endings fun _ hw => hw.1).pre
      fun w hw => ⟨⟨hw.1, hw.2 .knownHosts⟩, hw.2 .backups⟩)
    intro _
    have hknownHosts := activateOptionalStaged_triple hT .knownHosts
      (J := fun w => J w ∧ (marker.staged .backups ≠ "" → marker.target .backups ≠ "" →
        Replaced .backups w)) (fun w f hw => ⟨hJ w _ f hw.1, hw.2⟩) marker "known_hosts"
      fun w hw => trouble_of_irregular hfit _ w hw.1
    apply hknownHosts.conseq
    · exact fun w hw => ⟨⟨hw.1.1, hw.2⟩, hw.1.2⟩
    · intro _ w hw
      refine ⟨hw.1.1, ?_⟩
      intro artifact
      cases artifact with
      | backups => exact hw.1.2
      | knownHosts => exact hw.2
    · exact fun w hw => hw.1
  · intro hskip w hw
    rw [not_or, not_not, not_not] at hskip
    refine ⟨hw.1, ?_⟩
    intro artifact hstaged
    cases artifact with
    | backups => exact absurd hskip.1 hstaged
    | knownHosts => exact absurd hskip.2 hstaged

end Targets

/-! ### The attempt -/

section Attempt

variable (hT : Sound fate T) {c : RestoreCoordinator} {pg : Postgres DB}
include hT

theorem restoreRetryableError_triple (htrouble : T) (stagedDB activationErr : String)
    (hPI : ∀ w, P w → I w) (hdump : ∀ w, P w → I (w.setStagedDB (.whole w.live)))
    (hpart : (fate (.pgDump .retryDump)).Clean ∨ ∀ n w, P w → I (w.setStagedDB (.part n))) :
    Triple fate T P (restoreRetryableError c stagedDB activationErr) (fun _ => I) I := by
  have hleave : ∀ residue w, ((fate (.pgDump .retryDump)).Clean → residue = none) → P w →
      I (leave (fun n => World.setStagedDB (.part n)) residue w) := by
    intro residue w hresidue hw
    cases residue with
    | none => exact hPI w hw
    | some n => exact hpart.elim (fun hclean => nomatch hresidue hclean) fun h => h n w hw
  apply Triple.bind (Q := fun _ => P)
  · apply Triple.handle (F := P) _ hPI fun _ _ => Triple.pure fun _ => id
    apply Triple.bind (Q := fun _ => P) _ fun _ => Triple.pure fun _ => id
    apply (validateRestoreStagingDir_triple hT (fun _ => id) _ fun _ _ => .inr htrouble).seq
    apply (Triple.require (fun _ _ => .inr htrouble) fun _ => id).seq
    apply (lstat_triple hT (fun _ => id) _ _ _ fun _ _ _ => htrouble).bind
    intro _
    exact Triple.pure fun _ hw => hw.2
  intro skipped
  split
  · exact Triple.pure hPI
  apply Triple.handle (F := I) _ (fun _ => id) fun _ _ => Triple.pure fun _ => id
  apply Triple.bind (Q := fun _ => I) _ fun _ => Triple.pure fun _ => id
  apply (prepareTool_triple hT hPI (.inr htrouble) _ _).seq
  apply triple_wrap
  apply Triple.perform hdump
  · intro e residue hfate w hw
    refine ⟨htrouble, hleave residue w (fun hclean => ?_) hw⟩
    rw [hfate] at hclean
    exact hclean
  · intro residue hfate w hw
    refine ⟨htrouble, hleave residue w (fun hclean => ?_) hw⟩
    rw [hfate] at hclean
    exact hclean

variable {M : RestoreMarker → Prop} (hM : Tracked M) {A B J H K : World DB Content → Prop}
  {D : DB → World DB Content → Prop}
include hM

/-- An attempt, from what its parts do: `A` holds before the dump of the live database, `B` after it,
`D` when the database has been restored, `J` while the artifacts are activated, `H` when the marker
is gone, and `I` wherever it ends before. -/
theorem applyMarker_triple (newID : String) (hm : M marker) (hplan : marker.PlanOf c ∨ T)
    (hfit : ∀ w, A w → Fit w ∨ T) (hA : Reports M A) (hAI : ∀ w, A w → I w)
    (hbackup : Triple fate T A (backupLiveDB c) (fun _ => B) I) (hB : Reports M B)
    (hBI : ∀ w, B w → I w) {x : DB}
    (hrestore : ∀ m, M m → Triple fate T B (runPostgresRestore c pg m.operationID) (fun _ => D x) I)
    (hI : Reports M I) (hD : ∀ y, Reports M (D y))
    (hlive : ∀ (f : DB → DB) y w, D y w → D (f y) { w with live := f w.live })
    (hDI : ∀ y w live, D y w → I { w with live }) (hDJ : ∀ w, D (verified c pg x) w →
      J w ∧ ∀ artifact, (w.targets artifact).current = some .irregular → T)
    (hJ : ∀ w artifact f, J w → J (w.setTarget artifact f)) (hJfit : ∀ w, J w → Fit w ∨ T)
    (hJI : ∀ w, J w → I w) (hdump : ∀ w, J w → I (w.setStagedDB (.whole w.live)))
    (hpart : (fate (.pgDump .retryDump)).Clean ∨ ∀ n w, J w → I (w.setStagedDB (.part n)))
    (hremove : ∀ m w, M m → J w → (∀ artifact, m.staged artifact ≠ "" → m.target artifact ≠ "" →
      Replaced artifact w) → H { w with marker := none })
    (hstaging : ∀ w staging, H w → H { w with staging })
    (hstatus : ∀ w status, H w → H { w with status := some status }) (hIK : ∀ w, I w → K w)
    (hHK : ∀ w, H w → K w) :
    Triple fate T A (applyMarker c pg newID marker) (fun result w => result = true ∧ H w) K := by
  have hpersist : ∀ {P : World DB Content → Prop} {m : RestoreMarker} (phase : RestorePhase),
      M m → Reports M P → (∀ w, P w → I w) →
      Triple fate T P (persistRestoreStatus newID m phase) (fun m' w => M m' ∧ P w) K :=
    fun phase hm hP hPI => (persistRestoreStatus_reports hT hPI hM newID hm phase hP).endings hIK
  apply ((validatePendingRestoreMarker_triple hT hAI hplan hfit).endings hIK).seq
  apply (hpersist _ hm hA hAI).bind
  intro marker₁
  apply Triple.lift
  intro hm₁
  apply ((handle_failAttempt_triple hT hM newID hm₁ _ hI (.check hT hAI)).endings hIK).seq
  apply ((handle_failAttempt_triple hT hM newID hm₁ _ hI hbackup).endings hIK).seq
  apply (hpersist _ (hM.countAttempt _ hm₁) hB hBI).bind
  intro marker₂
  apply Triple.lift
  intro hm₂
  apply ((handle_failAttempt_triple hT hM newID hm₂ _ hI (hrestore _ hm₂)).endings hIK).seq
  apply (hpersist _ hm₂ (hD x) fun w hw => hDI x w w.live hw).bind
  intro marker₃
  apply Triple.lift
  intro hm₃
  apply ((runVerifier_triple hT hM newID hm₃ x hD hI hlive hDI).endings hIK).bind
  intro marker₄
  apply Triple.lift
  intro hm₄
  have hactivate := (activateOptionalRestoreArtifacts_triple hT marker₄ hJ hJfit).pre hDJ
  apply Triple.bind (hactivate.handle (fun w hw => hIK w (hJI w hw)) _)
  · -- from here on the marker is gone, and nothing brings it back
    intro _
    apply Triple.seq (J := H)
    · apply triple_wrap
      apply Triple.perform_of hT
      · exact fun w hw => hremove marker₄ w hm₄ hw.1 hw.2
      · exact fun w hw => hIK w (hJI w hw.1)
      · exact fun _ w hw => hIK w (hJI w hw.1)
    apply Triple.seq (J := H)
    · exact triple_wrap (.perform_of hT (fun w => hstaging w _) hHK
        fun _ w hw => hHK _ (hstaging w _ hw))
    apply (persistRestoreStatus_triple hT hHK newID (hM.operationID _ hm₄) .completed
      (fun h => absurd rfl h) hstatus).bind
    intro _
    exact Triple.pure fun _ hw => ⟨rfl, hw.2⟩
  · intro htrouble err
    apply ((restoreRetryableError_triple hT htrouble _ err hJI hdump hpart).endings hIK).bind
    intro retryErr
    exact (failAttempt_triple hT hM htrouble newID hm₄ _ retryErr hI).endings hIK

omit hM in
theorem applyPendingRestore_triple {Q : Bool → World DB Content → Prop} {newID : String}
    (hnone : ∀ w, w.marker = none ∧ P w → Q false w) (hPI : ∀ w, P w → I w)
    (hnamed : ∀ marker w, w.marker = some marker → P w → marker.stagedDB ≠ "" ∨ T)
    (hsome : ∀ marker, Triple fate T (fun w => w.marker = some marker ∧ P w)
      (applyMarker c pg newID marker) Q I) :
    Triple fate T P (applyPendingRestore c pg newID) Q I := by
  have hread : Triple fate T P readRestoreMarker (fun marker w => w.marker = marker ∧ P w) I := by
    apply (triple_wrap (.check hT hPI)).seq
    apply (Triple.look (Q := fun marker w => w.marker = marker ∧ P w) fun _ hw => ⟨rfl, hw⟩).bind
    intro marker
    split
    · exact Triple.pure fun _ => id
    · split_ifs with hempty
      · rintro w ⟨hmarker, hw⟩
        exact ⟨(hnamed _ w hmarker hw).resolve_left (absurd hempty), hPI w hw⟩
      · exact Triple.pure fun _ => id
  apply hread.bind
  intro marker
  cases marker with
  | none => exact Triple.pure hnone
  | some marker => exact hsome marker

end Attempt

/-! ### A small instance -/

/-- A coordinator without live artifacts and without a verifier. -/
def plainCoordinator : RestoreCoordinator :=
  newRestoreCoordinatorWithDSN "/state" "postgres://theia" "" "" false

/-- A database that is a number. -/
def countingPostgres : Postgres Nat where
  emptySchema := 0
  runMigrations := id
  interruptedMigrations := fun _ => id
  revokeAllSessions := id

/-- Every step works but one, which leaves nothing behind. -/
def failsAt (step : Step) (s : Step) : Fate String :=
  if s = step then .fails "input/output error" none else .ok

/-- An archive with a database only. -/
def databaseArchive (db : Nat) : Archive Nat Nat := ⟨db, fun _ => none⟩

end Theia.Restore
