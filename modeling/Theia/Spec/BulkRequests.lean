import Theia.Spec.BulkBackupRun

/-!
# Requests to a bulk run

A run in progress needs a processor that works on it or is about to acquire it. A processor
leaves the run when it is terminal or when it has written `paused`; a resume or cancel of a paused
run starts the next one.

Two steps of the source are not atomic. Between its second read of `pausing` and its write of
`paused`, a processor overwrites a cancel request's `cancelling`; between that write and the
release of the lease, a resume or cancel starts a processor that fails to acquire. Outside these
two windows no request is lost.
-/

namespace Theia

open FMap BulkRunStore

namespace BulkRunProcessor

open List

variable {s : BulkRunStore} {phase : Phase} {p : Nat} {input : Input}

/-! ### One statement of the working processor -/

/-- The processor is in its loop. -/
def works : Phase → Bool
  | .acquire _ | .release | .returned => false
  | _ => true

/-- The processor is between a successful acquire and its release. -/
def holds : Phase → Bool
  | .acquire _ | .returned => false
  | _ => true

theorem holds_of_works (h : works phase = true) : holds phase = true := by
  cases phase with
  | acquire | release | returned => cases h
  | _ => rfl

/-- The phases that follow an update of an item or a count. -/
def follows : Phase → Bool
  | .complete _ _ | .count _ | .rereadCancelling | .check _ _ _ | .attach _ _ _ | .wait _ => true
  | _ => false

theorem works_of_follows (h : follows phase = true) : works phase = true := by
  cases phase with
  | acquire | release | returned => cases h
  | _ => rfl

/-- The batch of a phase consists of items of the run, each once. -/
def IsBatch (ids batch : List UUID) : Prop := batch.Nodup ∧ batch ⊆ ids

/-- The local variables of a processor fit the items of the run. -/
def Fits (ids : List UUID) : Phase → Prop
  | .acquire recoverInterrupted => recoverInterrupted = false
  | .recover => False
  | .complete _ next => follows next = true ∧ Fits ids next
  | .count next => follows next = true ∧ Fits ids next
  | .claim batch _ _ | .claimRead batch _ _ _ | .check batch _ _ | .attach batch _ _ | .wait batch =>
    IsBatch ids batch
  | .finish status => bulkRunTerminal status = true
  | _ => True

/-- What a processor read of the run is not out of date in what it acts on. -/
def Timely (s : BulkRunStore) : Phase → Prop
  | .readItems run => run.status ≠ .paused ∧
      (bulkRunTerminal run.status = true → bulkRunTerminal s.run.status = true)
  | .pause latest => latest.cancelRequested = false ∧ s.run.cancelRequested = false
  | _ => True

/-- The processor goes on in its loop, or it leaves a run that is terminal or paused. -/
inductive Outcome (s s' : BulkRunStore) (phase' : Phase) : Prop
  | goesOn : works phase' = true → s'.run.status = s.run.status →
      s'.run.cancelRequested = s.run.cancelRequested → Outcome s s' phase'
  | leaves : phase' = .release → processable s'.run.status = false →
      (s'.run.cancelRequested = true → bulkRunTerminal s'.run.status = true) → Outcome s s' phase'

/-- The outcome of a statement, with what does not change. -/
structure WorkStep (s s' : BulkRunStore) (phase' : Phase) : Prop where
  outcome : Outcome s s' phase'
  fits : Fits (s.items.map (·.id)) phase'
  timely : Timely s' phase'
  ids : s'.items.map (·.id) = s.items.map (·.id)
  owner : s'.processingOwner = s.processingOwner
  lease : s'.leaseExpired = s.leaseExpired

/-- A statement of the working processor, in a phase. -/
abbrev WorkAdvance (s : BulkRunStore) (p : Nat) (input : Input) (phase : Phase) : Prop :=
  WorkStep s (advance s p input phase).1 (advance s p input phase).2

theorem WorkStep.read {phase' : Phase} (hworks : works phase' = true)
    (hfits : Fits (s.items.map (·.id)) phase') (htimely : Timely s phase') : WorkStep s s phase' :=
  ⟨.goesOn hworks rfl rfl, hfits, htimely, rfl, rfl, rfl⟩

theorem not_processable_of_terminal {status : BulkBackupRunStatus}
    (h : bulkRunTerminal status = true) : processable status = false := by
  cases status <;> first | rfl | cases h

theorem WorkStep.leave (h : bulkRunTerminal s.run.status = true) : WorkStep s s .release :=
  ⟨.leaves rfl (not_processable_of_terminal h) fun _ => h, trivial, trivial, rfl, rfl, rfl⟩

theorem timely_of_follows (s : BulkRunStore) (h : follows phase = true) : Timely s phase := by
  cases phase with
  | readItems | pause => cases h
  | _ => trivial

theorem attempt_ok {α : Type} (hok : input.ok = true) (result : Option α) :
    attempt input result = result := if_pos hok

theorem recalculate_ok (hlock : s.lockProcessor p = true) :
    s.recalculateRunCounters p =
      some { s with run := { s.run with counts := countItems s.items } } := if_pos hlock

theorem fits_cancelPending (ids : List UUID) (items : List BulkBackupRunItem) :
    follows (cancelPendingBulkRunItems items) = true ∧
      Fits ids (cancelPendingBulkRunItems items) := by
  induction items with
  | nil => exact ⟨rfl, rfl, trivial⟩
  | cons item items ih =>
    simp only [cancelPendingBulkRunItems]
    split
    · exact ih
    · exact ⟨rfl, ih⟩

theorem isBatch_sublist {items batch : List BulkBackupRunItem}
    (hids : (items.map (·.id)).Nodup) (hsub : batch.Sublist items) :
    IsBatch (items.map (·.id)) (batch.map (·.id)) :=
  ⟨hids.sublist (hsub.map _), (hsub.map _).subset⟩

theorem processRun_works (hids : (s.items.map (·.id)).Nodup) {run : BulkBackupRun}
    (h : Timely s (.readItems run)) : WorkStep s s (processRun run s.items) := by
  unfold processRun
  split
  · exact .leave (h.2 ‹_›)
  split
  · exact absurd ‹_› h.1
  split
  · exact .read rfl trivial trivial
  split
  · obtain ⟨hfollows, hfits⟩ := fits_cancelPending (s.items.map (·.id)) s.items
    exact .read (works_of_follows hfollows) hfits (timely_of_follows s hfollows)
  cases hbatch : nextBulkRunBatch s.items run.batchSize with
  | nil => exact .read rfl trivial trivial
  | cons first rest =>
    refine .read rfl ?_ trivial
    show IsBatch _ ((first :: rest).map (·.id))
    rw [← hbatch]
    exact isBatch_sublist hids (nextBulkRunBatch_sublist _ _)

/-- Writing `paused`: no cancel request was made since the processor read `pausing`. -/
theorem pause_works (hok : input.ok = true) (hlock : s.lockProcessor p = true)
    {latest : BulkBackupRun} (h : Timely s (.pause latest)) :
    WorkAdvance s p input (.pause latest) := by
  simp only [WorkAdvance, advance, attempt_ok hok, updateRun, if_pos hlock]
  split_ifs with hterm
  · refine ⟨.leaves rfl rfl fun hcancel => ?_, trivial, trivial, rfl, rfl, rfl⟩
    simp only [Option.getD_some, h.1, h.2, Bool.or_self] at hcancel
    cases hcancel
  · refine .leave ?_
    by_contra hopen
    simp [hopen] at hterm

theorem complete_works (p : Nat) (hok : input.ok = true) {item : BulkBackupRunItem} {next : Phase}
    (h : Fits (s.items.map (·.id)) (.complete item next)) :
    WorkAdvance s p input (.complete item next) := by
  simp only [WorkAdvance, advance, attempt_ok hok]
  cases hs : s.updateRunItem p item with
  | none => exact .read (works_of_follows h.1) h.2 (timely_of_follows s h.1)
  | some s' =>
    cases of_guarded hs
    refine ⟨.goesOn rfl rfl rfl, ⟨h.1, h.2⟩, trivial, ?_, rfl, rfl⟩
    exact withItem_ids (fun row hrow => hrow.symm) s

theorem reconcileItem_ids (s : BulkRunStore) (ids : List UUID) :
    (s.items.map (s.reconcileItem ids)).map (·.id) = s.items.map (·.id) := by
  rw [map_map]
  apply map_congr_left
  intro item _
  exact reconcileItem_id s ids item

theorem reconcile_total {ids : List UUID} (hids : (s.items.map (·.id)).Nodup)
    (hbatch : IsBatch (s.items.map (·.id)) ids) :
    ((s.items.map (s.reconcileItem ids)).filter fun item => item.id ∈ ids).length = ids.length := by
  have hfilter : ((s.items.map (s.reconcileItem ids)).filter fun item => item.id ∈ ids).map (·.id) =
      (s.items.map (·.id)).filter fun id => id ∈ ids := by
    have hcomp : (fun item : BulkBackupRunItem => decide (item.id ∈ ids)) =
        (fun id => decide (id ∈ ids)) ∘ (·.id) := rfl
    rw [hcomp, ← filter_map, reconcileItem_ids]
  have hperm : ((s.items.map (·.id)).filter fun id => id ∈ ids).Perm ids := by
    apply (perm_ext_iff_of_nodup (hids.filter _) hbatch.1).2
    intro id
    rw [mem_filter, decide_eq_true_eq]
    exact and_iff_right_of_imp (@hbatch.2 id)
  rw [← length_map (·.id), hfilter, hperm.length_eq]

theorem wait_works (hok : input.ok = true) (htime : input.timeout = false)
    (hlock : s.lockProcessor p = true) (hids : (s.items.map (·.id)).Nodup) {ids : List UUID}
    (h : IsBatch (s.items.map (·.id)) ids) :
    WorkAdvance s p input (.wait ids) := by
  have hrefresh : (input.ok && s.refreshBulkRunProcessor p) = true := by
    rw [hok, refreshBulkRunProcessor, hlock]
    rfl
  simp only [WorkAdvance, advance, htime, Bool.false_eq_true, if_false, hrefresh, attempt_ok hok,
    if_true]
  split
  · exact .read rfl h trivial
  cases hs : s.reconcileBulkRunBatch p ids with
  | none =>
    -- every item of the batch exists, so the statement does not fail
    exfalso
    simp only [reconcileBulkRunBatch, if_pos hlock, if_pos (reconcile_total hids h)]
      at hs
    split at hs <;> cases hs
  | some res =>
    obtain ⟨s', complete⟩ := res
    obtain ⟨hitems, hrun, howner, hlease⟩ := reconcile_spec hs
    have hsameIDs : s'.items.map (·.id) = s.items.map (·.id) := by
      rcases hitems with hitems | hitems
      · rw [hitems]
      · rw [hitems, reconcileItem_ids]
    have hstatus : s'.run.status = s.run.status ∧
        s'.run.cancelRequested = s.run.cancelRequested := by
      rcases hrun with hrun | hrun <;> rw [hrun] <;> exact ⟨rfl, rfl⟩
    cases complete
    · exact ⟨.goesOn rfl hstatus.1 hstatus.2, h, trivial, hsameIDs, howner, hlease⟩
    · exact ⟨.goesOn rfl hstatus.1 hstatus.2, trivial, trivial, hsameIDs, howner, hlease⟩

theorem claim_works (p : Nat) (hok : input.ok = true) {id : UUID} {batch todo claimed : List UUID}
    (h : IsBatch (s.items.map (·.id)) batch) :
    WorkAdvance s p input (.claim batch (id :: todo) claimed) := by
  simp only [WorkAdvance, advance, attempt_ok hok]
  cases hs : s.claimBulkRunItem p id with
  | none => exact .read rfl h trivial
  | some res =>
    have hs := of_guarded hs
    split at hs
    · cases hs
      refine ⟨.goesOn rfl rfl rfl, h, trivial, ?_, rfl, rfl⟩
      exact withItem_ids (fun row _ => claimedItem_id row) s
    · cases hs
      exact .read rfl h trivial

theorem attach_works (p : Nat) (hok : input.ok = true) {id : UUID} {batch todo : List UUID}
    {created : Bool} (h : IsBatch (s.items.map (·.id)) batch) :
    WorkAdvance s p input (.attach batch (id :: todo) created) := by
  simp only [WorkAdvance, advance, attempt_ok hok]
  split
  · exact .read rfl ⟨rfl, h⟩ trivial
  cases hs : s.createBulkRunJob p id input.jobID with
  | none => exact .read rfl ⟨rfl, h⟩ trivial
  | some s' =>
    cases of_guarded hs
    refine ⟨.goesOn rfl rfl rfl, h, trivial, ?_, rfl, rfl⟩
    exact withItem_ids (f := fun item => { item with backupJobID := some input.jobID })
      (fun _ _ => rfl) s

/-- Every statement of the working processor, when nothing fails: it goes on, or it leaves a run
that is terminal or paused. -/
theorem advance_works (hok : input.ok = true) (htime : input.timeout = false)
    (hids : (s.items.map (·.id)).Nodup) (hlock : s.lockProcessor p = true)
    (hworks : works phase = true) (hfits : Fits (s.items.map (·.id)) phase)
    (htimely : Timely s phase) (hpaused : s.run.status ≠ .paused)
    (hrequested : s.run.cancelRequested = true →
      s.run.status = .cancelling ∨ bulkRunTerminal s.run.status = true) :
    WorkAdvance s p input phase := by
  unfold WorkAdvance
  cases phase with
  | acquire | release | returned => cases hworks
  | recover => cases hfits
  | refresh =>
    simp only [advance, hok, refreshBulkRunProcessor, hlock, Bool.and_self, if_true]
    exact .read rfl trivial trivial
  | readRun =>
    simp only [advance, hok, if_true]
    exact .read rfl trivial ⟨hpaused, id⟩
  | readItems run =>
    simp only [advance, hok, if_true]
    exact processRun_works hids htimely
  | rereadPausing =>
    simp only [advance, hok, Bool.not_true, Bool.false_eq_true, if_false]
    split
    · -- a pausing run has no cancel request
      rename_i hpausing
      have hno : s.run.cancelRequested = false := by
        by_contra hyes
        rw [Bool.not_eq_false] at hyes
        rcases hrequested hyes with hs | hs <;> rw [hpausing] at hs <;> cases hs
      exact .read rfl trivial ⟨hno, hno⟩
    · exact .read rfl trivial trivial
  | pause latest => exact pause_works hok hlock htimely
  | complete item next => exact complete_works p hok hfits
  | count next =>
    simp only [advance, attempt_ok hok, recalculate_ok hlock, Option.getD_some]
    exact ⟨.goesOn (works_of_follows hfits.1) rfl rfl, hfits.2, timely_of_follows _ hfits.1, rfl,
      rfl, rfl⟩
  | rereadCancelling =>
    simp only [advance, hok, Bool.not_true, Bool.false_eq_true, if_false]
    split
    · exact .read rfl trivial trivial
    · exact .read rfl (isBatch_sublist hids filter_sublist) trivial
  | claim batch todo claimed =>
    cases todo with
    | nil =>
      simp only [advance]
      split
      · exact .read rfl hfits trivial
      · exact .read rfl ⟨rfl, hfits⟩ trivial
    | cons id todo => exact claim_works p hok hfits
  | claimRead batch id todo claimed => exact .read rfl hfits trivial
  | check batch todo candidates =>
    cases todo with
    | nil => exact .read rfl hfits trivial
    | cons id todo =>
      simp only [advance]
      split
      · exact .read rfl ⟨rfl, hfits⟩ trivial
      · exact .read rfl hfits trivial
  | attach batch todo created =>
    cases todo with
    | nil =>
      simp only [advance]
      split
      · exact .read rfl ⟨rfl, hfits⟩ trivial
      · exact .read rfl hfits trivial
    | cons id todo => exact attach_works p hok hfits
  | wait ids => exact wait_works hok htime hlock hids hfits
  | countFinished =>
    simp only [advance, attempt_ok hok, recalculate_ok hlock]
    exact ⟨.goesOn rfl rfl rfl, trivial, trivial, rfl, rfl, rfl⟩
  | readFinished =>
    simp only [advance, hok, if_true]
    refine .read rfl ?_ trivial
    unfold finishStatus
    split
    · split <;> rfl
    split
    · rfl
    split <;> rfl
  | finish status =>
    simp only [advance, attempt_ok hok, finishBulkRun, if_pos hlock]
    split
    · exact .leave ‹_›
    · exact ⟨.leaves rfl (not_processable_of_terminal hfits) fun _ => hfits, trivial, trivial, rfl,
        rfl, rfl⟩

end BulkRunProcessor

namespace BulkRunSystem

open BulkRunProcessor

variable {sys : BulkRunSystem} {store : BulkRunStore} {phase' : Phase}

/-! ### The whole system -/

/-- In an undisturbed run no statement fails, no lease runs out, no batch times out and the
server is not restarted. -/
def Undisturbed : Op → Prop
  | .advance _ input => input.ok = true ∧ input.timeout = false
  | .restart _ | .expire => False
  | _ => True

/-- A processor has read `pausing` for the second time and not yet written `paused`. -/
def AboutToPause (sys : BulkRunSystem) : Prop :=
  ∃ p ∈ sys.processors.dom, (sys.processors.get p).any fun
    | .pause _ => true
    | _ => false

/-- The two windows are avoided: no cancel takes effect while a processor is about to write
`paused`, and a started processor does not try to acquire the run before the lease is
released. -/
def Orderly (sys : BulkRunSystem) : Op → Prop
  | .cancelAgain => ¬AboutToPause sys
  | .advance p _ => sys.processors.get p = some (.acquire false) →
      sys.store.processingOwner = none
  | _ => True

/-- What holds of a processor at one of its statements. -/
structure ProcessorInv (s : BulkRunStore) (p : Nat) (phase : Phase) : Prop where
  fits : Fits (s.items.map (·.id)) phase
  timely : Timely s phase
  holder : holds phase = true → s.processingOwner = some p
  unpaused : works phase = true → s.run.status ≠ .paused

/-- One processor holds the lease, and a run in progress has one that works on it. -/
structure RequestInv (sys : BulkRunSystem) : Prop where
  ids : (sys.store.items.map (·.id)).Nodup
  lease : sys.store.leaseExpired = false
  processor : ∀ p phase, sys.processors.get p = some phase → ProcessorInv sys.store p phase
  requested : sys.store.run.cancelRequested = true →
    sys.store.run.status = .cancelling ∨ bulkRunTerminal sys.store.run.status = true
  worked : processable sys.store.run.status = true →
    ∃ p phase, sys.processors.get p = some phase ∧ (works phase = true ∨ phase = .acquire false)

theorem ProcessorInv.idle (p : Nat) (hidle : holds phase = false)
    (hfits : Fits (s.items.map (·.id)) phase) : ProcessorInv s p phase where
  fits := hfits
  timely := by
    cases phase with
    | readItems | pause => cases hidle
    | _ => trivial
  holder h := by
    rw [hidle] at h
    cases h
  unpaused h := by
    rw [holds_of_works h] at hidle
    cases hidle

section

variable (h : RequestInv sys)
include h

theorem RequestInv.idle_of_owner {q : Nat}
    (hq : sys.processors.get q = some phase) (howner : sys.store.processingOwner ≠ some q) :
    holds phase = false := by
  by_contra hyes
  rw [Bool.not_eq_false] at hyes
  exact howner ((h.processor q phase hq).holder hyes)

theorem RequestInv.others (howner : sys.store.processingOwner = some p)
    (hids : store.items.map (·.id) = sys.store.items.map (·.id)) :
    ∀ q ph, q ≠ p → sys.processors.get q = some ph → ProcessorInv store q ph := by
  intro q ph hne hq
  have hidle : holds ph = false := by
    apply h.idle_of_owner hq
    rw [howner]
    exact fun heq => hne (Option.some.inj heq).symm
  exact .idle q hidle (hids ▸ (h.processor q ph hq).fits)

theorem RequestInv.works_step (hphase : sys.processors.get p = some phase)
    (hworks : works phase = true) (hstep : WorkStep sys.store store phase') :
    RequestInv { sys with store := store, processors := sys.processors.insert p phase' } := by
  have hproc := h.processor p phase hphase
  have howner := hproc.holder (holds_of_works hworks)
  refine ⟨hstep.ids ▸ h.ids, hstep.lease.trans h.lease,
    forall_get_insert ?_ (h.others howner hstep.ids), ?_, ?_⟩
  · refine ⟨hstep.ids ▸ hstep.fits, hstep.timely, fun _ => hstep.owner.trans howner, fun hw => ?_⟩
    cases hstep.outcome with
    | goesOn _ hstatus _ => exact hstatus ▸ hproc.unpaused hworks
    | leaves hrelease _ _ =>
      rw [hrelease] at hw
      cases hw
  · intro hcancel
    cases hstep.outcome with
    | goesOn _ hstatus hsame =>
      show store.run.status = .cancelling ∨ bulkRunTerminal store.run.status = true
      rw [hstatus]
      exact h.requested (hsame ▸ hcancel)
    | leaves _ _ hterm => exact .inr (hterm hcancel)
  · intro hprocess
    cases hstep.outcome with
    | goesOn hw _ _ => exact ⟨p, phase', get_insert_self _ _ _, .inl hw⟩
    | leaves _ hno _ =>
      rw [hno] at hprocess
      cases hprocess

theorem RequestInv.acquire_step {r : Bool} (input : Input)
    (hok : input.ok = true) (hphase : sys.processors.get p = some (.acquire r))
    (hfree : sys.store.processingOwner = none) : RequestInv { sys with
      store := (advance sys.store p input (.acquire r)).1
      processors := sys.processors.insert p (advance sys.store p input (.acquire r)).2 } := by
  obtain rfl : r = false := (h.processor p _ hphase).fits
  have hidle : ∀ q ph, sys.processors.get q = some ph → holds ph = false := by
    intro q ph hq
    apply h.idle_of_owner hq
    rw [hfree]
    exact nofun
  cases hprocess : processable sys.store.run.status with
  | true =>
    have hres : advance sys.store p input (.acquire false) =
        ({ sys.store with processingOwner := some p, leaseExpired := false }, .refresh) := by
      simp [advance, hok, tryAcquireBulkRunProcessor, hprocess, hfree]
    rw [hres]
    refine ⟨h.ids, rfl, forall_get_insert ?_ ?_, h.requested, fun _ => ?_⟩
    · refine ⟨trivial, trivial, fun _ => rfl, fun _ hpaused => ?_⟩
      change sys.store.run.status = .paused at hpaused
      rw [hpaused] at hprocess
      cases hprocess
    · intro q ph _ hq
      exact .idle q (hidle q ph hq) (h.processor q ph hq).fits
    · exact ⟨p, .refresh, get_insert_self _ _ _, .inl rfl⟩
  | false =>
    have hres : advance sys.store p input (.acquire false) = (sys.store, .returned) := by
      simp [advance, hok, tryAcquireBulkRunProcessor, hprocess]
    rw [hres]
    refine ⟨h.ids, h.lease, forall_get_insert ?_ ?_, h.requested, fun hyes => ?_⟩
    · exact .idle p rfl trivial
    · intro q ph _ hq
      exact h.processor q ph hq
    · change processable sys.store.run.status = true at hyes
      rw [hprocess] at hyes
      cases hyes

theorem RequestInv.release_step (input : Input)
    (hok : input.ok = true) (hphase : sys.processors.get p = some .release) : RequestInv { sys with
      store := (advance sys.store p input .release).1
      processors := sys.processors.insert p (advance sys.store p input .release).2 } := by
  have howner := (h.processor p _ hphase).holder rfl
  have hres : advance sys.store p input .release =
      ({ sys.store with processingOwner := none, leaseExpired := false }, .returned) := by
    simp [advance, hok, releaseBulkRunProcessor, howner]
  rw [hres]
  refine ⟨h.ids, rfl, forall_get_insert (.idle p rfl trivial) (h.others howner rfl),
    h.requested, fun hprocess => ?_⟩
  obtain ⟨q, ph, hq, hw⟩ := h.worked hprocess
  have hne : q ≠ p := by
    rintro rfl
    rw [hphase] at hq
    cases hq
    rcases hw with hw | hw <;> cases hw
  exact ⟨q, ph, by rw [get_insert_ne _ _ hne]; exact hq, hw⟩

theorem RequestInv.request_step {sys' : BulkRunSystem} (hreq : RequestStep sys.store sys'.store)
    (hprocs : (sys'.processors = sys.processors ∧
        (processable sys'.store.run.status = true → processable sys.store.run.status = true)) ∨
      ∃ p, sys'.processors = sys.processors.insert p (.acquire false))
    (hpause : ∀ p latest, sys.processors.get p = some (.pause latest) →
      sys'.store.run.cancelRequested = sys.store.run.cancelRequested) : RequestInv sys' := by
  have hkeep : ∀ p phase, sys.processors.get p = some phase → ProcessorInv sys'.store p phase := by
    intro p phase hp
    obtain ⟨hfits, htimely, hholder, hunpaused⟩ := h.processor p phase hp
    refine ⟨hreq.items ▸ hfits, ?_, fun hh => hreq.owner.trans (hholder hh), fun hw hpaused =>
      hunpaused hw (hreq.unpaused hpaused)⟩
    cases phase with
    | readItems run =>
      refine ⟨htimely.1, fun hterm => ?_⟩
      have hterm' := htimely.2 hterm
      rcases hreq.status with hsame | hopen
      · rw [hsame]
        exact hterm'
      · rw [hopen.1] at hterm'
        cases hterm'
    | pause latest => exact ⟨htimely.1, (hpause p latest hp).trans htimely.2⟩
    | _ => trivial
  have hrequested : sys'.store.run.cancelRequested = true →
      sys'.store.run.status = .cancelling ∨ bulkRunTerminal sys'.store.run.status = true := by
    intro hcancel
    rcases hreq.requested hcancel with hold | hnew
    · rcases hreq.cancelled with hsame | hnew | hno
      · rw [hsame]
        exact h.requested hold
      · exact .inl hnew
      · rw [hno] at hcancel
        cases hcancel
    · exact .inl hnew
  have hids : (sys'.store.items.map (·.id)).Nodup := by
    rw [hreq.items]
    exact h.ids
  have hlease := hreq.lease.trans h.lease
  rcases hprocs with ⟨hsame, hworked⟩ | ⟨p, hinsert⟩
  · refine ⟨hids, hlease, hsame ▸ hkeep, hrequested, fun hprocess => ?_⟩
    rw [hsame]
    exact h.worked (hworked hprocess)
  · refine ⟨hids, hlease, ?_, hrequested, fun _ => ?_⟩
    · rw [hinsert]
      exact forall_get_insert (.idle p rfl rfl) fun q ph _ hq => hkeep q ph hq
    · rw [hinsert]
      exact ⟨p, .acquire false, get_insert_self _ _ _, .inr rfl⟩

omit h in
theorem processable_of_write {P : Prop} [Decidable P] {s' : BulkRunStore}
    (hP : P → processable s.run.status = true)
    (h : processable (if P then s' else s).run.status = true) :
    processable s.run.status = true := by
  split at h
  · exact hP ‹_›
  · exact h

theorem RequestInv.advance_step (hok : input.ok = true)
    (htime : input.timeout = false) (hphase : sys.processors.get p = some phase)
    (horderly : sys.processors.get p = some (.acquire false) →
      sys.store.processingOwner = none) : RequestInv (sys.step (.advance p input)) := by
  have hstep : sys.step (.advance p input) =
      { sys with
        store := (advance sys.store p input phase).1
        processors := sys.processors.insert p (advance sys.store p input phase).2 } := by
    simp [BulkRunSystem.step, hphase]
  rw [hstep]
  by_cases hworks : works phase = true
  · have hproc := h.processor p phase hphase
    have hlock : sys.store.lockProcessor p = true := by
      simp [lockProcessor, hproc.holder (holds_of_works hworks), h.lease]
    exact h.works_step hphase hworks (advance_works hok htime h.ids hlock hworks hproc.fits
      hproc.timely (hproc.unpaused hworks) h.requested)
  · cases phase with
    | acquire r =>
      obtain rfl : r = false := (h.processor p _ hphase).fits
      exact h.acquire_step input hok hphase (horderly hphase)
    | release => exact h.release_step input hok hphase
    | returned =>
      have hsame : sys.processors.insert p .returned = sys.processors :=
        insert_eq_self hphase
      simp only [advance, hsame]
      exact h
    | _ => exact absurd rfl hworks

/-- Every step outside the two windows keeps the invariant. -/
theorem RequestInv.step {op : Op} (hund : Undisturbed op)
    (horderly : Orderly sys op) : RequestInv (sys.step op) := by
  cases op with
  | advance p input =>
    cases hphase : sys.processors.get p with
    | none =>
      simp only [BulkRunSystem.step, hphase]
      exact h
    | some phase => exact h.advance_step hund.1 hund.2 hphase horderly
  | pause =>
    refine h.request_step (requestStep_pause sys.store)
      (.inl ⟨rfl, processable_of_write fun hrun => by rw [hrun.1]; rfl⟩) fun _ _ _ => ?_
    simp only [BulkRunSystem.step, requestBulkRunPause]
    split <;> rfl
  | resume p =>
    have hreq := requestStep_resumePaused sys.store
    by_cases hpaused : sys.store.run.status = .paused ∧ sys.store.run.cancelRequested = false
    · simp only [BulkRunSystem.step, resumePaused, if_pos hpaused] at hreq ⊢
      exact h.request_step hreq (.inr ⟨p, rfl⟩) fun _ _ _ => rfl
    · simp only [BulkRunSystem.step, resumePaused, if_neg hpaused]
      exact h.request_step (.refl _) (.inl ⟨rfl, id⟩) fun _ _ _ => rfl
  | resumeAgain =>
    refine h.request_step (requestStep_resumePausing sys.store)
      (.inl ⟨rfl, processable_of_write fun hrun => by rw [hrun.1]; rfl⟩) fun _ _ _ => ?_
    simp only [BulkRunSystem.step, resumePausing]
    split <;> rfl
  | cancel p =>
    have hreq := requestStep_cancelPaused sys.store
    by_cases hpaused : sys.store.run.status = .paused
    · simp only [BulkRunSystem.step, cancelPaused, if_pos hpaused] at hreq ⊢
      refine h.request_step hreq (.inr ⟨p, rfl⟩) fun q latest hq => ?_
      -- a processor that is about to pause the run has not done so
      exact absurd hpaused ((h.processor q _ hq).unpaused rfl)
    · simp only [BulkRunSystem.step, cancelPaused, if_neg hpaused]
      exact h.request_step (.refl _) (.inl ⟨rfl, id⟩) fun _ _ _ => rfl
  | cancelAgain =>
    refine h.request_step (requestStep_cancelRunning sys.store)
      (.inl ⟨rfl, processable_of_write fun hrun => ?_⟩) fun q latest hq => ?_
    · rcases hrun with hs | hs | hs <;> rw [hs] <;> rfl
    exact absurd ⟨q, mem_dom_of_get hq, by rw [hq]; rfl⟩ horderly
  | restart | expire => cases hund
  | reportJob jobID job =>
    exact { h with processor := fun p phase hp => { h.processor p phase hp with } }
  | deleteJob jobID =>
    have hids := (deleteJob_kept sys jobID).ids
    exact { h with
      ids := hids ▸ h.ids
      processor := fun p phase hp =>
        { h.processor p phase hp with fits := hids ▸ (h.processor p phase hp).fits } }

end

theorem IsStarted.requestInv (h : IsStarted sys) : RequestInv sys := by
  obtain ⟨items, jobs, hnd, -, rfl⟩ := h
  refine ⟨hnd, rfl, forall_get_insert (.idle 0 rfl rfl) nofun, nofun, fun _ => ?_⟩
  exact ⟨0, .acquire false, get_insert_self _ _ _, .inr rfl⟩

/-! ### Runs -/

/-- The steps of an undisturbed run outside the two windows. -/
def Attentive (sys : BulkRunSystem) (op : Op) : Prop :=
  op.Valid sys ∧ Undisturbed op ∧ Orderly sys op

instance (op : Op) : Decidable (Undisturbed op) := by
  induction op using Op.casesOn <;> unfold Undisturbed <;> infer_instance

instance (sys : BulkRunSystem) : Decidable (AboutToPause sys) :=
  inferInstanceAs (Decidable (∃ p ∈ sys.processors.dom, _))

instance (sys : BulkRunSystem) (op : Op) : Decidable (Orderly sys op) := by
  induction op using Op.casesOn <;> unfold Orderly <;> infer_instance

instance (sys : BulkRunSystem) (op : Op) : Decidable (Attentive sys op) :=
  inferInstanceAs (Decidable (_ ∧ _))

/-- In every state: one processor at most is between its acquire and its release, a cancel
request shows in the status, and a run without a living processor is terminal or paused. -/
theorem requests_never_forgotten {sys : BulkRunSystem} {ops : List Op}
    (h : Run IsStarted (ActStep step Attentive) sys ops) :
    (∀ p q php phq, sys.processors.get p = some php → sys.processors.get q = some phq →
      holds php = true → holds phq = true → p = q) ∧
    (sys.store.run.cancelRequested = true →
      sys.store.run.status = .cancelling ∨ bulkRunTerminal sys.store.run.status = true) ∧
    ((∀ p phase, sys.processors.get p = some phase → phase = .returned) →
      bulkRunTerminal sys.store.run.status = true ∨ sys.store.run.status = .paused) := by
  have hinv : RequestInv sys := by
    refine Run.invariant (P := fun sys _ => RequestInv sys) h (fun sys hs => hs.requestInv) ?_
    intro sys _ _ sys' _ hP hstep
    obtain ⟨op, hop, -, rfl⟩ := hstep
    exact hP.step hop.2.1 hop.2.2
  refine ⟨fun p q php phq hp hq hhp hhq => ?_, hinv.requested, fun hgone => ?_⟩
  · exact Option.some.inj (((hinv.processor p php hp).holder hhp).symm.trans
      ((hinv.processor q phq hq).holder hhq))
  by_cases hprocess : processable sys.store.run.status = true
  · obtain ⟨p, phase, hp, hw⟩ := hinv.worked hprocess
    rw [hgone p phase hp] at hw
    rcases hw with hw | hw <;> cases hw
  · cases hs : sys.store.run.status <;> simp [hs, processable] at hprocess
    · exact .inr rfl
    all_goals exact .inl rfl

/-- The run is paused and resumed, and the second processor works on it. -/
def pausedAndResumed : List Op := [.pause] ++ proceed 7 ++ [.resume 1, .advance 1 {}]

theorem requests_never_forgotten_pausedAndResumed :
    Run IsStarted (ActStep step Attentive) (pausedAndResumed.foldl step oneDevice)
        pausedAndResumed ∧
      (pausedAndResumed.foldl step oneDevice).store.run.status = .running ∧
      ¬∀ p phase, (pausedAndResumed.foldl step oneDevice).processors.get p = some phase →
        phase = .returned := by
  have hrun : Run IsStarted (ActStep step Attentive) (pausedAndResumed.foldl step oneDevice)
      pausedAndResumed :=
    .of_init oneDevice_started (.of_ops (by decide +kernel))
  have hstatus : (pausedAndResumed.foldl step oneDevice).store.run.status = .running := by
    decide +kernel
  refine ⟨hrun, hstatus, fun hgone => ?_⟩
  have hforgotten := (requests_never_forgotten hrun).2.2 hgone
  rcases hforgotten with h | h <;> cases h

/-- Two undisturbed runs that lose a request. The run is resumed after `paused` was written and
before the lease is released: the new processor does not get the lease, and the run stays
`running` with nobody working on it. And the run is cancelled between the second read of
`pausing` and the write of `paused`: the write keeps `cancel_requested` and overwrites
`cancelling`. -/
theorem requests_forgotten :
    (∃ ops : List Op,
      Run IsStarted (ActStep step fun sys op => op.Valid sys ∧ Undisturbed op)
        (ops.foldl step oneDevice) ops ∧
      (ops.foldl step oneDevice).store.run.status = .running ∧
      ∀ p ∈ (ops.foldl step oneDevice).processors.dom,
        (ops.foldl step oneDevice).processors.get p = some .returned) ∧
    ∃ ops : List Op,
      Run IsStarted (ActStep step fun sys op => op.Valid sys ∧ Undisturbed op)
        (ops.foldl step oneDevice) ops ∧
      (ops.foldl step oneDevice).store.run.cancelRequested = true ∧
      (ops.foldl step oneDevice).store.run.status = .paused := by
  constructor
  · refine ⟨[.pause] ++ proceed 6 ++ [.resume 1, .advance 1 {}, .advance 0 {}],
      .of_init oneDevice_started (.of_ops ?_), ?_, ?_⟩ <;> decide +kernel
  · refine ⟨[.pause] ++ proceed 5 ++ [.cancel 1, .cancelAgain, .advance 0 {}],
      .of_init oneDevice_started (.of_ops ?_), ?_, ?_⟩ <;> decide +kernel

end BulkRunSystem

end Theia
