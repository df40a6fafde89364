import Theia.ForStd.Run
import Theia.Spec.RestoreSteps

/-!
# The dump before a restore

An attempt dumps the live database before it overwrites it, unless the dump is already there. The
file outlives the restore and is written in place, so what it holds when a later attempt overwrites
the database depends on the whole history.
-/

namespace Theia.Restore

open Proc Triple

variable {DB Content : Type} {fate : Step → Fate String}

/-! ### The history of overwrites -/

/-- The first attempt of an operation that began to overwrite the database. -/
def firstOverwrite (w : World DB Content) (operationID : String) : Option (Overwrite DB) :=
  w.overwrites.find? fun e => e.operationID = operationID

/-- Every attempt that began to overwrite the database found a complete dump of the database as it
was just before the first one of its operation. -/
def Saved (w : World DB Content) : Prop :=
  ∀ e ∈ w.overwrites, ∃ f, firstOverwrite w e.operationID = some f ∧ e.dump = some (.whole f.live)

/-- The dump of an operation that has begun to overwrite the database. -/
def Dumped (operationID : String) (w : World DB Content) : Prop :=
  ∃ f, firstOverwrite w operationID = some f ∧ w.preRestoreDump = some (.whole f.live)

/-- The marker, if there is one, is of the operation. -/
def Names (operationID : String) (w : World DB Content) : Prop :=
  ∀ marker, w.marker = some marker → marker.operationID = operationID

/-- The overwrites are saved, and the dump is the one of the pending operation if that has begun to
overwrite the database. -/
structure Safe (w : World DB Content) : Prop where
  saved : Saved w
  operationID : ∀ marker, w.marker = some marker → marker.operationID ≠ ""
  dumped : ∀ marker, w.marker = some marker → (firstOverwrite w marker.operationID).isSome →
    Dumped marker.operationID w

/-- The state of an attempt of an operation: the dump is its own if it has begun to overwrite the
database, and `fresh` holds if it has not. -/
structure Guarded (fresh : World DB Content → Prop) (operationID : String)
    (w : World DB Content) : Prop where
  saved : Saved w
  names : Names operationID w
  fresh : firstOverwrite w operationID = none → fresh w
  dumped : (firstOverwrite w operationID).isSome → Dumped operationID w

/-- Before the dump of an operation. -/
abbrev BeforeDump : String → World DB Content → Prop :=
  Guarded fun w => w.preRestoreDump = none ∨ w.preRestoreDump = some (.whole w.live)

/-- After the dump. -/
abbrev AfterDump : String → World DB Content → Prop :=
  Guarded fun w => w.preRestoreDump = some (.whole w.live)

/-- After the overwrite. -/
abbrev Overwritten : String → World DB Content → Prop := Guarded fun _ => False

/-- The end of an attempt, wherever it ends. -/
abbrev Ended : String → World DB Content → Prop := Guarded fun _ => True

section History

variable {operationID : String} {w : World DB Content} {fresh : World DB Content → Prop}

theorem Guarded.ended (h : Guarded fresh operationID w) : Ended operationID w :=
  { h with fresh := fun _ => trivial }

theorem Guarded.safe (hid : operationID ≠ "") (h : Guarded fresh operationID w) : Safe w := by
  refine ⟨h.saved, ?_, ?_⟩
  · intro marker hm
    rw [h.names marker hm]
    exact hid
  · intro marker hm
    rw [h.names marker hm]
    exact h.dumped

theorem firstOverwrite_overwrite (pg : Postgres DB) {operationID id : String} {f : Overwrite DB}
    (h : firstOverwrite w id = some f) : firstOverwrite (overwrite pg operationID w) id = some f := by
  unfold firstOverwrite overwrite at *
  rw [List.find?_append, h]
  rfl

theorem firstOverwrite_overwrite_self (pg : Postgres DB) (h : firstOverwrite w operationID = none) :
    firstOverwrite (overwrite pg operationID w) operationID =
      some ⟨operationID, w.live, w.preRestoreDump⟩ := by
  unfold firstOverwrite overwrite at *
  rw [List.find?_append, h]
  simp

/-- The overwrite itself: it is the first one of its operation and the dump is current, or the dump
is the one of the first. -/
theorem overwritten_of_afterDump (pg : Postgres DB) (h : AfterDump operationID w) :
    Overwritten operationID (overwrite pg operationID w) := by
  have hdumped : Dumped operationID (overwrite pg operationID w) := by
    cases hfirst : firstOverwrite w operationID with
    | none => exact ⟨_, firstOverwrite_overwrite_self pg hfirst, h.fresh hfirst⟩
    | some f =>
      obtain ⟨f', hf', hdump⟩ := h.dumped (by rw [hfirst]; rfl)
      exact ⟨f', firstOverwrite_overwrite pg hf', hdump⟩
  refine ⟨?_, h.names, ?_, fun _ => hdumped⟩
  · intro e he
    rcases List.mem_append.1 he with he | he
    · obtain ⟨f, hf, hdump⟩ := h.saved e he
      exact ⟨f, firstOverwrite_overwrite pg hf, hdump⟩
    · obtain rfl := List.mem_singleton.1 he
      exact hdumped
  · intro hnone
    obtain ⟨f, hf, -⟩ := hdumped
    exact nomatch hnone.symm.trans hf

end History

/-! ### Attempts -/

section Attempts

variable {operationID : String} {fresh : World DB Content → Prop}

theorem tracked_operationID (hid : operationID ≠ "") :
    Tracked fun marker => marker.operationID = operationID where
  operationID := fun _ hm => hm.trans_ne hid
  update := fun newID _ phase hm => operationID_update hid newID hm phase
  countAttempt := fun _ => id

theorem Guarded.reports (hmarker : ∀ w marker, fresh w → fresh { w with marker := some marker })
    (hstatus : ∀ w status, fresh w → fresh { w with status := some status }) :
    Reports (fun marker => marker.operationID = operationID) (Guarded fresh operationID) where
  marker := by
    intro w marker hm h
    refine { h with names := ?_, fresh := fun hnone => hmarker w _ (h.fresh hnone) }
    intro marker' hmarker'
    rw [← Option.some.inj hmarker']
    exact hm
  status := fun w status h => { h with fresh := fun hnone => hstatus w _ (h.fresh hnone) }

theorem backupLiveDB_guarded (c : RestoreCoordinator) :
    Triple fate True (BeforeDump operationID) (backupLiveDB c) (fun _ => AfterDump operationID)
      (Ended operationID : World DB Content → Prop) := by
  have hT := Sound.true fate
  apply (triple_wrap (.check hT fun _ hw => hw.ended)).seq
  apply (look (Q := fun dump w => w.preRestoreDump = dump ∧ BeforeDump operationID w)
    fun _ hw => ⟨rfl, hw⟩).bind
  intro dump
  cases dump with
  | some dump =>
    rintro w ⟨hdump, hw⟩
    refine { hw with fresh := ?_ }
    intro hnone
    rcases hw.fresh hnone with h | h
    · exact nomatch h.symm.trans hdump
    · exact h
  | none =>
    -- an operation that has begun to overwrite the database has its dump
    have hbegun : ∀ w : World DB Content, w.preRestoreDump = none ∧ BeforeDump operationID w →
        ¬(firstOverwrite w operationID).isSome := by
      rintro w ⟨hdump, hw⟩ hsome
      obtain ⟨f, -, hf⟩ := hw.dumped hsome
      exact nomatch hdump.symm.trans hf
    apply triple_wrap
    apply (prepareTool_triple hT (fun _ hw => hw.2.ended) (.inr trivial) _ _).seq
    apply triple_wrap
    apply perform_of hT
    · intro w hw
      exact ⟨hw.2.saved, hw.2.names, fun _ => rfl, fun h => absurd h (hbegun w hw)⟩
    · intro w hw
      exact hw.2.ended
    · intro n w hw
      exact ⟨hw.2.saved, hw.2.names, fun _ => trivial, fun h => absurd h (hbegun w hw)⟩

/-- An attempt of an operation overwrites the database only after the dump that belongs to it. -/
theorem applyMarker_guarded (hid : operationID ≠ "") (c : RestoreCoordinator) (pg : Postgres DB)
    (newID : String) {marker : RestoreMarker} (hm : marker.operationID = operationID) :
    Triple fate True (BeforeDump operationID) (applyMarker c pg newID marker)
      (fun _ => Ended operationID) (Ended operationID : World DB Content → Prop) := by
  have hT := Sound.true fate
  have hreports : ∀ {fresh : World DB Content → Prop},
      (∀ w marker, fresh w → fresh { w with marker := some marker }) →
      (∀ w status, fresh w → fresh { w with status := some status }) →
      Reports (fun marker => marker.operationID = operationID) (Guarded fresh operationID) :=
    fun hmarker hstatus => Guarded.reports hmarker hstatus
  -- the dump is there when the schema is dropped
  have hrestore : ∀ m : RestoreMarker, m.operationID = operationID →
      Triple fate True (AfterDump operationID) (runPostgresRestore c pg m.operationID)
        (fun _ => Overwritten operationID) (Ended operationID : World DB Content → Prop) := by
    intro m hm
    rw [hm]
    exact runPostgresRestore_triple hT (R := Overwritten operationID) (.inr trivial) _
      (fun _ _ => .inr trivial) (fun _ hw => hw.ended)
      (fun _ hw => overwritten_of_afterDump pg hw) (fun _ _ => .inr trivial) (fun _ hw => hw.ended)
      (fun _ _ hw _ => { hw with }) fun _ hw => hw.ended
  have hattempt : Triple fate True (BeforeDump operationID) (applyMarker c pg newID marker) _ _ :=
    applyMarker_triple (D := fun _ => Overwritten operationID) (J := Overwritten operationID)
      (H := Overwritten operationID) (K := (Ended operationID : World DB Content → Prop))
      (x := pg.emptySchema) hT (tracked_operationID hid) newID hm (.inr trivial)
      (fun _ _ => .inr trivial) (hreports (fun _ _ => id) fun _ _ => id) (fun _ hw => hw.ended)
      (backupLiveDB_guarded c) (hreports (fun _ _ => id) fun _ _ => id) (fun _ hw => hw.ended)
      hrestore (hreports (fun _ _ => id) fun _ _ => id)
      (fun _ => hreports (fun _ _ => id) fun _ _ => id)
      (fun _ _ _ hw => { hw with })
      (fun _ _ _ hw => { hw with fresh := fun _ => trivial })
      (fun _ hw => ⟨hw, fun _ _ => trivial⟩)
      (fun _ _ _ hw => { hw with }) (fun _ _ => .inr trivial)
      (fun _ hw => hw.ended) (fun _ hw => { hw with fresh := fun _ => trivial })
      (.inr fun _ _ hw => { hw with fresh := fun _ => trivial })
      (fun _ _ _ hw _ => { hw with names := fun _ h => nomatch h })
      (fun _ _ hw => { hw with })
      (fun _ _ hw => { hw with }) (fun _ => id)
      fun _ hw => hw.ended
  exact hattempt.conseq (fun _ => id) (fun _ _ hw => hw.2.ended) fun _ => id

end Attempts

/-! ### Runs -/

/-- Staging gives every operation an identifier of its own. -/
def OwnOperationID (w : World DB Content) : Op DB Content → Prop
  | .stage _ newID _ => newID ≠ "" ∧ ∀ e ∈ w.overwrites, e.operationID ≠ newID
  | .attempt _ _ => True
  | .write _ => True

/-- An attempt of an operation that has not yet begun to overwrite the database starts without a
dump, or with one of the database as it is. -/
def StartsWithOwnDump (w : World DB Content) : Op DB Content → Prop
  | .stage _ _ _ => True
  | .attempt _ _ => ∀ marker, w.marker = some marker → firstOverwrite w marker.operationID = none →
      w.preRestoreDump = none ∨ w.preRestoreDump = some (.whole w.live)
  | .write _ => True

/-- Nothing has been staged or overwritten. -/
def Untouched (w : World DB Content) : Prop := w.marker = none ∧ w.overwrites = []

theorem stageRestore_safe (c : RestoreCoordinator) (archive : Archive DB Content) {newID : String}
    (hid : newID ≠ "") {J : World DB Content → Prop}
    (hJ : J = fun w => Safe w ∧ firstOverwrite w newID = none) :
    Triple fate True J (stageRestore c archive newID) (fun _ => J) J := by
  have hT := Sound.true fate
  have hfiles : ∀ (step : Step) (full : World DB Content → Option (Node (Staging DB Content)))
      (part : Nat → World DB Content → Option (Node (Staging DB Content))),
      Triple fate True J (Proc.perform step (fun w => { w with staging := full w })
        fun n w => { w with staging := part n w }) (fun _ => J) J := by
    subst hJ
    exact fun _ _ _ => .perform_of hT
      (fun _ hw => ⟨{ hw.1 with }, hw.2⟩) (fun _ => id)
      fun _ _ hw => ⟨{ hw.1 with }, hw.2⟩
  have hartifact : ∀ artifact, Triple fate True J (stageArtifact archive artifact) (fun _ => J)
      J := by
    intro artifact
    unfold stageArtifact
    split
    · exact pure fun _ => id
    · exact hfiles _ _ _
  have hmarker : ∀ (marker : RestoreMarker) (w : World DB Content), marker.operationID = newID →
      J w → J { w with marker := some marker } := by
    subst hJ
    rintro marker w hm ⟨hw, hfirst⟩
    refine ⟨⟨hw.saved, ?_, ?_⟩, hfirst⟩
    · intro marker' hmarker'
      rw [← Option.some.inj hmarker', hm]
      exact hid
    · intro marker' hmarker' hsome
      rw [← Option.some.inj hmarker', hm] at hsome
      have hnone : (firstOverwrite w newID).isSome := hsome
      rw [hfirst] at hnone
      exact nomatch hnone
  have hstatus : ∀ w status, J w → J { w with status := some status } := by
    subst hJ
    exact fun _ _ hw => ⟨{ hw.1 with }, hw.2⟩
  apply (triple_wrap (hfiles _ _ _)).seq
  apply (triple_wrap (hfiles _ _ fun _ w => w.staging)).seq
  apply handle (F := J) _ fun _ => id
  · intro _ err
    apply (ignore (R := fun _ => J) (hfiles _ _ _) fun _ => id).seq
    apply seq (J := J)
    · apply ignore (R := fun _ => J) _ fun _ => id
      subst hJ
      exact .perform_of hT
        (fun _ hw => ⟨⟨hw.1.saved, fun _ h => (nomatch h), fun _ h => (nomatch h)⟩, hw.2⟩)
        (fun _ => id) fun _ _ => id
    · exact .fail trivial fun _ => id
  · apply (triple_wrap (hfiles _ _ _)).seq
    apply (triple_wrap (hartifact _)).seq
    apply (triple_wrap (hartifact _)).seq
    apply (check hT fun _ => id).seq
    apply seq (J := J)
    · exact .perform_of hT (fun w => hmarker _ w (operationID_update hid newID rfl _))
        (fun _ => id) fun _ w => hmarker _ w (operationID_update hid newID rfl _)
    · exact writeRestoreOperationStatus_triple hT (fun _ => id) hid nofun hstatus

variable {c : RestoreCoordinator} {pg : Postgres DB} {w : World DB Content}

theorem step_safe {op : Op DB Content} (h : Safe w) (hown : OwnOperationID w op)
    (hdump : StartsWithOwnDump w op) : Safe (step c pg w op) := by
  cases op with
  | stage archive newID fate =>
    have hfirst : firstOverwrite w newID = none := by
      apply List.find?_eq_none.2
      intro e he
      simpa using hown.2 e he
    exact ((stageRestore_safe c archive hown.1 rfl).state (s := w) ⟨h, hfirst⟩).1
  | attempt newID fate =>
    have hattempt : Triple fate True
        (fun w : World DB Content => Safe w ∧ StartsWithOwnDump w (.attempt newID fate))
        (applyPendingRestore c pg newID) (fun _ => Safe) Safe := by
      apply applyPendingRestore_triple (Sound.true fate) (fun _ hw => hw.2.1) (fun _ hw => hw.1)
        fun _ _ _ _ => .inr trivial
      rintro marker w ⟨hm, hw, hcond⟩
      have hid := hw.operationID marker hm
      have hbefore : BeforeDump marker.operationID w := by
        refine ⟨hw.saved, ?_, hcond marker hm, hw.dumped marker hm⟩
        intro marker' hm'
        rw [Option.some.inj (hm'.symm.trans hm)]
      exact (applyMarker_guarded hid c pg newID rfl).conseq (fun _ => id)
        (fun _ _ hs => hs.safe hid) (fun _ hs => hs.safe hid) w hbefore
    exact hattempt.state ⟨h, hdump⟩
  | write live =>
    exact { h with }

theorem Untouched.safe (h : Untouched w) : Safe w := by
  refine ⟨?_, ?_, ?_⟩
  · intro e he
    rw [h.2] at he
    exact nomatch he
  · intro marker hm
    exact nomatch h.1.symm.trans hm
  · intro marker hm
    exact nomatch h.1.symm.trans hm

/-- In every run in which each operation begins to be attempted without a foreign dump, every
overwrite finds a complete dump of the database as it was just before the first overwrite of the
same operation. -/
theorem overwrites_saved (c : RestoreCoordinator) (pg : Postgres DB) {w : World DB Content}
    {tr : List (Op DB Content)}
    (hrun : Run Untouched
      (ActStep (step c pg) fun w op => OwnOperationID w op ∧ StartsWithOwnDump w op) w tr) :
    Saved w := by
  have hsafe : Safe w := by
    refine hrun.invariant (P := fun w _ => Safe w) ?_ ?_
    · intro w hw
      exact hw.safe
    · rintro w _ _ _ _ hw ⟨op, hop, -, rfl⟩
      exact step_safe hw hop.1 hop.2
  exact hsafe.saved

theorem untouched_one : Untouched ({ live := 1 } : World Nat Nat) := ⟨rfl, rfl⟩

/-- Two attempts of one operation, the first of which loses the database: both find the dump of the
database as it was before. -/
theorem overwrites_saved_two_attempts :
    ∃ (w : World Nat Nat) (tr : List (Op Nat Nat)),
      Run Untouched (ActStep (step plainCoordinator countingPostgres) fun w op =>
        OwnOperationID w op ∧ StartsWithOwnDump w op) w tr ∧
      w.overwrites = [⟨"op", 1, some (.whole 1)⟩, ⟨"op", 0, some (.whole 1)⟩] ∧ Saved w := by
  have hok : OkAlong (step plainCoordinator countingPostgres)
      (fun w op => OwnOperationID w op ∧ StartsWithOwnDump w op) ({ live := 1 } : World Nat Nat)
      [.stage (databaseArchive 7) "op" fun _ => .ok, .attempt "" (failsAt .pgRestore),
        .attempt "" fun _ => .ok] := by
    refine ⟨⟨⟨by decide, fun _ he => nomatch he⟩, trivial⟩, ⟨trivial, fun _ _ _ => .inl rfl⟩,
      ⟨trivial, ?_⟩, trivial⟩
    -- the operation has begun, so nothing is asked
    intro marker hm hfirst
    obtain rfl := Option.some.inj hm
    exact nomatch hfirst
  have hrun := (Run.of_ops hok).of_init untouched_one
  exact ⟨_, _, hrun, rfl, overwrites_saved plainCoordinator countingPostgres hrun⟩

theorem not_saved_of_dump_ne {e f : Overwrite DB} (he : e ∈ w.overwrites)
    (hf : firstOverwrite w e.operationID = some f) (hdump : e.dump ≠ some (.whole f.live)) :
    ¬Saved w := by
  intro h
  obtain ⟨f', hf', hdump'⟩ := h e he
  obtain rfl : f = f' := Option.some.inj (hf.symm.trans hf')
  exact hdump hdump'

/-- The process stops while `pg_dump` writes the dump before the restore. -/
def dumpCutOff (s : Step) : Fate String :=
  if s = .pgDump .preRestoreDump then .stops (some 3) else .ok

/-- The file of an earlier, finished restore is kept, and so is a partial one: the database that a
later attempt overwrites has not been saved. -/
theorem overwrites_unsaved :
    (∃ (w : World Nat Nat) (tr : List (Op Nat Nat)),
      Run Untouched (ActStep (step plainCoordinator countingPostgres) OwnOperationID) w tr ∧
      w.overwrites = [⟨"first", 1, some (.whole 1)⟩, ⟨"second", 5, some (.whole 1)⟩] ∧
      ¬Saved w) ∧
    ∃ (w : World Nat Nat) (tr : List (Op Nat Nat)),
      Run Untouched (ActStep (step plainCoordinator countingPostgres) OwnOperationID) w tr ∧
      w.overwrites = [⟨"first", 1, some (.part 3)⟩] ∧ ¬Saved w := by
  have hkept : OkAlong (step plainCoordinator countingPostgres) OwnOperationID
      ({ live := 1 } : World Nat Nat)
      [.stage (databaseArchive 7) "first" fun _ => .ok, .attempt "" fun _ => .ok, .write 5,
        .stage (databaseArchive 8) "second" fun _ => .ok, .attempt "" fun _ => .ok] := by
    refine ⟨⟨by decide, fun _ he => nomatch he⟩, trivial, trivial, ⟨by decide, ?_⟩, trivial,
      trivial⟩
    intro e he
    obtain rfl := List.mem_singleton.1 he
    decide
  have hpart : OkAlong (step plainCoordinator countingPostgres) OwnOperationID
      ({ live := 1 } : World Nat Nat)
      [.stage (databaseArchive 7) "first" fun _ => .ok, .attempt "" dumpCutOff,
        .attempt "" fun _ => .ok] :=
    ⟨⟨by decide, fun _ he => nomatch he⟩, trivial, trivial, trivial⟩
  refine ⟨⟨_, _, (Run.of_ops hkept).of_init untouched_one, rfl, ?_⟩,
    ⟨_, _, (Run.of_ops hpart).of_init untouched_one, rfl, ?_⟩⟩
  · exact not_saved_of_dump_ne (e := ⟨"second", 5, some (.whole 1)⟩) (.tail _ (.head _)) rfl
      (by decide)
  · exact not_saved_of_dump_ne (e := ⟨"first", 1, some (.part 3)⟩) (.head _) rfl (by decide)

end Theia.Restore
