import Theia.Native.TopologyRun

/-!
# Topology import runs leave no item behind

Deciding that all items are terminal and moving the run to reconciling are two transactions. A
worker between the two is a promise: the items of its run are terminal and the run waits to be
moved. Every statement but five is gentle: it opens no item, and settles no run. The others act
on one run, and each is the case of `RunInv.act` for that run.
-/

namespace Theia

open FMap

variable {run : TopologyRun} {s : TopologyRunStore} {runID : UUID} {now : Time} {phase : Phase}

namespace TopologyRunState

/-- The states in which no item may be open. -/
def settled : TopologyRunState → Bool
  | .reconciling | .readyForLayout | .failed => true
  | _ => false

/-- The states of a run that a worker is about to move to reconciling. -/
def waiting : TopologyRunState → Bool
  | .discovering | .followup | .completed | .superseded => true
  | _ => false

end TopologyRunState

namespace TopologyRunStore

/-- Every item of the run is terminal. -/
def Closed (s : TopologyRunStore) (runID : UUID) : Prop :=
  ∀ deviceID item, s.items.get (runID, deviceID) = some item → item.state.terminal = true

/-- A run is not settled by the change, and keeps waiting. -/
structure Unhurried (run run' : Option TopologyRun) : Prop where
  settled : ∀ r', run' = some r' → r'.state.settled = true →
    ∃ r, run = some r ∧ r.state.settled = true
  waiting : ∀ r, run = some r → r.state.waiting = true →
    ∃ r', run' = some r' ∧ r'.state.waiting = true

theorem Unhurried.refl (run : Option TopologyRun) : Unhurried run run where
  settled := fun r' h hs => ⟨r', h, hs⟩
  waiting := fun r h hw => ⟨r, h, hw⟩

theorem Unhurried.of_state {run' : TopologyRun}
    (hs : run'.state.settled = true → run.state.settled = true)
    (hw : run.state.waiting = true → run'.state.waiting = true) :
    Unhurried (some run) (some run') where
  settled := fun _ h hset => ⟨run, rfl, hs (Option.some.inj h ▸ hset)⟩
  waiting := fun _ h hwait => ⟨run', rfl, hw (Option.some.inj h ▸ hwait)⟩

/-- What most statements do to a run: no item is opened, and the run is not settled. -/
structure Gentle (s s' : TopologyRunStore) (runID : UUID) : Prop where
  items : ∀ deviceID item', s'.items.get (runID, deviceID) = some item' →
    item'.state.terminal = false →
    ∃ item, s.items.get (runID, deviceID) = some item ∧ item.state.terminal = false
  run : Unhurried (s.runs.get runID) (s'.runs.get runID)

theorem Gentle.refl (s : TopologyRunStore) (runID : UUID) : Gentle s s runID where
  items := fun _ item' h ho => ⟨item', h, ho⟩
  run := .refl _

theorem Gentle.closed {s' : TopologyRunStore} (h : Gentle s s' runID) (hc : s.Closed runID) :
    s'.Closed runID := by
  intro deviceID item' hget
  by_contra hopen
  obtain ⟨item, hitem, ho⟩ := h.items deviceID item' hget (by simpa using hopen)
  rw [hc deviceID item hitem] at ho
  cases ho

/-! ### The open items of a run -/

theorem terminal_eq_false_iff {state : TopologyItemState} :
    state.terminal = false ↔ state = .queued ∨ state = .running := by
  cases state <;> simp [TopologyItemState.terminal]

theorem hasOpenItem_eq_false_iff : s.hasOpenItem runID = false ↔ s.Closed runID := by
  rw [hasOpenItem, any_eq_false_iff]
  constructor
  · intro h deviceID item hget
    have hopen := h (runID, deviceID) item hget
    rw [← Bool.not_eq_false, terminal_eq_false_iff]
    simpa using hopen
  · intro h key item hget
    rw [decide_eq_false_iff_not]
    rintro ⟨rfl, hopen⟩
    have hterminal := h key.2 item hget
    rw [terminal_eq_false_iff.2 hopen] at hterminal
    cases hterminal

theorem closed_of_hasItem_eq_false (h : s.hasItem runID = false) : s.Closed runID := by
  intro deviceID item hget
  have hnone := any_eq_false_iff.1 h (runID, deviceID) item hget
  simp at hnone

/-! ### The gentle statements -/

section

variable {s s' : TopologyRunStore} {runID deviceID mapID actorUserID : UUID}

theorem putRun_get (s : TopologyRunStore) (runID : UUID) (run : TopologyRun) (r : UUID) :
    (s.putRun runID run).runs.get r =
      if r = runID then some { run with updatedAt := s.now } else s.runs.get r :=
  get_insert ..

theorem gentle_of_putRun {run' : TopologyRun} (hrun : s.runs.get runID = some run)
    (hs : run'.state.settled = true → run.state.settled = true)
    (hw : run.state.waiting = true → run'.state.waiting = true) (r : UUID) :
    Gentle s (s.putRun runID run') r where
  items := fun _ item' h ho => ⟨item', h, ho⟩
  run := by
    rw [putRun_get]
    split
    · subst r
      rw [hrun]
      exact .of_state hs hw
    · exact .refl _

theorem gentle_of_items {f : UUID × UUID → TopologyRunItem → TopologyRunItem}
    {runs : FMap UUID TopologyRun} (hruns : ∀ r, Unhurried (s.runs.get r) (runs.get r))
    (hf : ∀ key item, (f key item).state.terminal = false → item.state.terminal = false)
    (r : UUID) : Gentle s { runs, items := s.items.map f, now } r where
  items := by
    intro deviceID item' hget ho
    obtain ⟨item, hitem, rfl⟩ := Option.map_eq_some_iff.1 hget
    exact ⟨item, hitem, hf _ _ ho⟩
  run := hruns r

theorem gentle_of_item {item item' : TopologyRunItem} {runs : FMap UUID TopologyRun}
    (hruns : ∀ r, Unhurried (s.runs.get r) (runs.get r))
    (hitem : s.items.get (runID, deviceID) = some item)
    (hopen : item'.state.terminal = false → item.state.terminal = false) (r : UUID) :
    Gentle s { runs, items := s.items.insert (runID, deviceID) item', now } r where
  items := by
    intro d i hget ho
    rw [get_insert] at hget
    split_ifs at hget with hkey
    · obtain rfl := Option.some.inj hget
      rw [hkey]
      exact ⟨item, hitem, hopen ho⟩
    · exact ⟨i, hget, ho⟩
  run := hruns r

theorem gentle_create (h : s.create runID mapID actorUserID = .ok s') (r : UUID) :
    Gentle s s' r := by
  simp only [create] at h
  split at h
  · cases h
  split at h
  · cases h
  rename_i hfresh
  split at h
  · cases h
  cases h
  refine ⟨fun _ item' hget ho => ⟨item', hget, ho⟩, ?_⟩
  simp only [get_insert]
  split
  · subst r
    -- the new run has no row before, and is importing after
    have hnone : s.runs.get runID = none := by
      simpa [supersedeStale, get_eq_none_iff] using hfresh
    rw [hnone]
    refine ⟨fun run' hrun' hs => ?_, nofun⟩
    cases hrun'
    cases hs
  · rw [supersedeStale, get_map]
    cases s.runs.get r with
    | none => exact .refl _
    | some run =>
      simp only [Option.map_some]
      split
      · exact .of_state nofun fun _ => rfl
      · exact .refl _

theorem gentle_finalizeImport (h : s.finalizeImport runID = .ok s') (r : UUID) : Gentle s s' r := by
  simp only [finalizeImport] at h
  split at h
  · cases h
  rename_i run hrun
  split at h
  · cases h
    exact .refl s r
  split at h
  · cases h
  rename_i himporting
  rw [not_not] at himporting
  cases h
  refine gentle_of_putRun hrun (fun hs => ?_) (fun hw => ?_) r
  · revert hs
    split <;> exact nofun
  · rw [himporting] at hw
    cases hw

theorem gentle_markItemRunning (h : s.markItemRunning deviceID runID = .ok s') (r : UUID) :
    Gentle s s' r := by
  simp only [markItemRunning] at h
  split at h
  · cases h
  rename_i item hitem
  split at h
  · rename_i hclaim
    cases h
    refine gentle_of_item (fun _ => .refl _) hitem (fun _ => ?_) r
    -- only a queued item is claimed
    simp only [claimable, hitem, Option.any_some, Bool.and_eq_true, decide_eq_true_eq] at hclaim
    rw [hclaim.2]
    rfl
  · cases h

theorem discovers_waiting (h : discovers run = true) : run.state.waiting = true := by
  simp only [discovers, decide_eq_true_eq] at h
  rcases h with h | h <;> rw [h] <;> rfl

theorem unhurried_touch (run : TopologyRun) (hrun : s.runs.get runID = some run) (r : UUID) :
    Unhurried (s.runs.get r) ((s.putRun runID run).runs.get r) :=
  (gentle_of_putRun hrun id id r).run

/-- What a completion did: the item was running, the run discovers, and the report says whether
the run is closed. -/
theorem completeItem_ok {completion : TopologyItemCompletion} {allTerminal : Bool}
    (h : s.completeItem runID deviceID completion = .ok (allTerminal, s')) :
    (∀ r, Gentle s s' r) ∧ ¬s.Closed runID ∧
      (allTerminal = true → s'.Closed runID ∧
        ∃ run, s'.runs.get runID = some run ∧ run.state.waiting = true) := by
  simp only [completeItem] at h
  split at h
  · cases h
  rename_i hvalid
  cases hrun : s.runs.get runID with
  | none => simp [hrun] at h
  | some run =>
    cases hitem : s.items.get (runID, deviceID) with
    | none => simp [hrun, hitem] at h
    | some item =>
      simp only [hrun, hitem] at h
      split at h
      · rename_i hok
        obtain ⟨hdisc, hrunning⟩ := hok
        cases h
        refine ⟨?_, fun hclosed => ?_, fun hall => ⟨?_, ?_⟩⟩
        · refine gentle_of_item (unhurried_touch run hrun) hitem fun _ => ?_
          rw [hrunning]
          rfl
        · have := hclosed deviceID item hitem
          rw [hrunning] at this
          cases this
        · exact hasOpenItem_eq_false_iff.1 (by simpa using hall)
        · refine ⟨{ run with updatedAt := s.now }, ?_, discovers_waiting hdisc⟩
          simp [putRun_get]
      · cases h

theorem reconciledItem_terminal (item : TopologyRunItem) (result : TopologyItemReconciliation)
    (h : (reconciledItem item result).state.terminal = false) : item.state.terminal = false := by
  simp only [reconciledItem] at h
  split at h
  · exact h
  · split at h
    · cases h
    · split at h
      · cases h
      · exact h

theorem gentle_applyReconciliationResults {results : List TopologyItemReconciliation}
    (h : s.applyReconciliationResults runID results = .ok s') (r : UUID) : Gentle s s' r := by
  simp only [applyReconciliationResults] at h
  split at h
  · cases h
  split at h
  · cases h
  rename_i run hrun
  split at h
  · cases h
    refine gentle_of_items (unhurried_touch run hrun) (fun key item ho => ?_) r
    split at ho
    · cases hfind : results.find? fun result => result.deviceID = key.2 with
      | none => simpa [hfind] using ho
      | some result =>
        rw [hfind] at ho
        exact reconciledItem_terminal item result ho
    · exact ho
  · cases h

theorem gentle_recoverInterrupted (s : TopologyRunStore) (r : UUID) :
    Gentle s s.recoverInterrupted r := by
  refine gentle_of_items (fun r => ?_) (fun key item ho => ?_) r
  · rw [get_map]
    cases s.runs.get r with
    | none => exact .refl _
    | some run =>
      simp only [Option.map_some]
      split
      · rename_i himporting
        refine .of_state (fun hs => ?_) (fun hw => ?_)
        · revert hs
          split <;> exact nofun
        · rw [himporting] at hw
          cases hw
      · exact .refl _
  · split_ifs at ho with hrunning
    · rw [hrunning.1]
      rfl
    · exact ho

theorem gentle_ready (h : s.transitionRun runID .readyForLayout = .ok s') (r : UUID) :
    Gentle s s' r := by
  simp only [transitionRun] at h
  split at h
  · cases h
  rename_i run hrun
  split at h
  · rename_i hvalid
    cases h
    -- only a run that is reconciling, or ready already, becomes ready
    have hfrom : run.state = .reconciling ∨ run.state = .readyForLayout := by
      revert hvalid
      cases run.state <;> decide
    refine gentle_of_putRun hrun (fun _ => ?_) (fun hw => ?_) r
    · rcases hfrom with h | h <;> rw [h] <;> rfl
    · rcases hfrom with h | h <;> rw [h] at hw <;> cases hw
  · cases h

theorem gentle_recordReconciliationFailure {retry : Bool}
    (h : s.recordReconciliationFailure runID = .ok (retry, s')) (r : UUID) : Gentle s s' r := by
  simp only [recordReconciliationFailure] at h
  split at h
  · cases h
  rename_i run hrun
  split at h
  · rename_i hstate
    cases h
    refine gentle_of_putRun hrun (fun _ => ?_) (fun hw => ?_) r
    · rw [hstate]
      rfl
    · rw [hstate] at hw
      cases hw
  · cases h

theorem gentle_setBackgrounded (h : s.setBackgrounded runID actorUserID = .ok s') (r : UUID) :
    Gentle s s' r := by
  simp only [setBackgrounded] at h
  split at h
  · cases h
  rename_i run hrun
  split at h
  · cases h
    refine gentle_of_putRun hrun ?_ ?_ r
    · split
      · exact nofun
      · exact id
    · split
      · exact fun _ => rfl
      · exact id
  · cases h

theorem gentle_disableAutoLayout (h : s.disableAutoLayout runID actorUserID = .ok s') (r : UUID) :
    Gentle s s' r := by
  simp only [disableAutoLayout] at h
  split at h
  · cases h
  rename_i run hrun
  split at h
  · cases h
    refine gentle_of_putRun hrun ?_ ?_ r
    · exact nofun
    · exact fun _ => rfl
  · cases h

theorem gentle_applyLayout {digest : String} {verdict : LayoutVerdict}
    (h : s.applyLayout runID actorUserID digest verdict = .ok s') (r : UUID) : Gentle s s' r := by
  simp only [applyLayout] at h
  split at h
  · cases h
  rename_i run hrun
  split at h
  · cases h
  split at h
  · split at h
    · cases h
      exact .refl s r
    · cases h
  · split at h
    · cases h
    cases verdict with
    | accepted =>
      cases h
      refine gentle_of_putRun hrun ?_ ?_ r
      · exact nofun
      · exact fun _ => rfl
    | stale | rejected => cases h

/-! ### The statements that settle a run or open an item -/

/-- A statement on a run that is not waiting: it is gentle to the others, and closes the run if it
settles it. -/
structure Acts (s s' : TopologyRunStore) (runID : UUID) : Prop where
  others : ∀ r, r ≠ runID → Gentle s s' r
  closed : (∃ run, s'.runs.get runID = some run ∧ run.state.settled = true) → s'.Closed runID

theorem acts_requeue {cond : UUID → TopologyRunItem → Bool} (hrun : run.state.settled = false) :
    Acts s { runs := (s.putRun runID run).runs, items := s.requeue runID cond, now } runID where
  others := by
    intro r hr
    refine ⟨fun d item' hget ho => ⟨item', ?_, ho⟩, ?_⟩
    · simpa [requeue, hr] using hget
    · rw [putRun_get, if_neg hr]
      exact .refl _
  closed := by
    rintro ⟨run', hget, hs⟩
    simp [putRun_get] at hget
    simp [← hget, hrun] at hs

theorem acts_putRun (hclosed : s.Closed runID) : Acts s (s.putRun runID run) runID where
  others := by
    intro r hr
    refine ⟨fun d item' hget ho => ⟨item', hget, ho⟩, ?_⟩
    rw [putRun_get, if_neg hr]
    exact .refl _
  closed := fun _ => hclosed

/-- The state of a run whose row is there. -/
def StateIs (s : TopologyRunStore) (runID : UUID) (p : TopologyRunState → Bool) : Prop :=
  ∃ run, s.runs.get runID = some run ∧ p run.state = true

theorem acts_addItem {isMember : Bool} (h : s.addItem runID deviceID isMember = .ok s') :
    Acts s s' runID ∧ s.StateIs runID (!·.waiting) := by
  simp only [addItem] at h
  split at h
  · cases h
  split at h
  · cases h
  rename_i run hrun
  split at h
  · rename_i himporting
    cases h
    refine ⟨⟨fun r hr => ⟨fun d item' hget ho => ⟨item', ?_, ho⟩, .refl _⟩, ?_⟩, run, hrun, ?_⟩
    · rwa [get_insert_ne _ _ fun hkey => hr (Prod.mk.inj hkey).1] at hget
    · rintro ⟨run', hget, hs⟩
      cases hrun.symm.trans hget
      rw [himporting.1] at hs
      cases hs
    · simp [himporting.1, TopologyRunState.waiting]
  · cases h

theorem acts_failImport (h : s.failImport runID = .ok s') (hitem : s.hasItem runID = false) :
    Acts s s' runID ∧ s.StateIs runID (!·.waiting) := by
  simp only [failImport] at h
  split at h
  · cases h
  rename_i run hrun
  split at h
  · rename_i himporting
    cases h
    refine ⟨acts_putRun (closed_of_hasItem_eq_false hitem), run, hrun, ?_⟩
    simp [himporting, TopologyRunState.waiting]
  · cases h

theorem acts_requeueItems {requested : List UUID} {requeued : Finset UUID}
    (h : s.requeueItems runID actorUserID requested = .ok (requeued, s')) : Acts s s' runID := by
  simp only [requeueItems] at h
  split at h
  · cases h
  split at h
  · cases h
  split at h
  · cases h
  · split at h
    · cases h
    · cases h
      exact acts_requeue rfl

theorem acts_requeueFollowupItems {candidates : List UUID} {requeued : Finset UUID}
    (h : s.requeueFollowupItems runID candidates = .ok (requeued, s')) :
    s' = s ∨ Acts s s' runID ∧ s.StateIs runID (!·.waiting) := by
  simp only [requeueFollowupItems] at h
  split at h
  · cases h
    exact .inl rfl
  split at h
  · cases h
  rename_i run hrun
  split at h
  · rename_i hstate
    split at h
    · cases h
      exact .inl rfl
    · cases h
      refine .inr ⟨acts_requeue rfl, run, hrun, ?_⟩
      simp [hstate, TopologyRunState.waiting]
  · cases h

theorem acts_reconciling (h : s.transitionRun runID .reconciling = .ok s')
    (hclosed : s.Closed runID) : Acts s s' runID := by
  simp only [transitionRun] at h
  split at h
  · cases h
  split at h
  · cases h
    exact acts_putRun hclosed
  · cases h

end

end TopologyRunStore

namespace TopologyRunSystem

open TopologyWorker TopologyRunStore

/-! ### The invariant -/

/-- A settled run is closed, and a worker about to move a run is the only one, its run is closed
and waits for it. -/
structure RunInv (s : TopologyRunStore) (workers : FMap Nat Phase) : Prop where
  closed : ∀ runID, s.StateIs runID (·.settled) → s.Closed runID
  pending : ∀ w runID, workers.get w = some (.transition runID) →
    s.Closed runID ∧ s.StateIs runID (·.waiting)
  sole : ∀ w w' runID, workers.get w = some (.transition runID) →
    workers.get w' = some (.transition runID) → w = w'

variable {s s' : TopologyRunStore} {workers : FMap Nat Phase}

section

variable (h : RunInv s workers)
include h

theorem RunInv.gentle (hg : ∀ r, Gentle s s' r) : RunInv s' workers where
  closed := by
    rintro runID ⟨run', hget, hs⟩
    exact (hg runID).closed (h.closed runID ((hg runID).run.settled run' hget hs))
  pending := by
    intro w runID hw
    obtain ⟨hclosed, run, hget, hwait⟩ := h.pending w runID hw
    exact ⟨(hg runID).closed hclosed, (hg runID).run.waiting run hget hwait⟩
  sole := h.sole

theorem RunInv.idle (hs : s.StateIs runID (!·.waiting)) (w : Nat) :
    workers.get w ≠ some (.transition runID) := by
  intro hw
  obtain ⟨-, run, hget, hwait⟩ := h.pending w runID hw
  obtain ⟨run', hget', hnot⟩ := hs
  rw [hget] at hget'
  cases hget'
  simp [hwait] at hnot

theorem RunInv.act (ha : Acts s s' runID)
    (hidle : ∀ w, workers.get w ≠ some (.transition runID)) : RunInv s' workers where
  closed := by
    intro r hs
    by_cases hr : r = runID
    · subst r
      exact ha.closed hs
    · obtain ⟨run', hget, hset⟩ := hs
      exact (ha.others r hr).closed (h.closed r ((ha.others r hr).run.settled run' hget hset))
  pending := by
    intro w r hw
    have hr : r ≠ runID := fun he => hidle w (he ▸ hw)
    obtain ⟨hclosed, run, hget, hwait⟩ := h.pending w r hw
    exact ⟨(ha.others r hr).closed hclosed, (ha.others r hr).run.waiting run hget hwait⟩
  sole := h.sole

omit h in
theorem get_insert_transition {w w' : Nat} (hphase : phase ≠ .transition runID)
    (hw : (workers.insert w phase).get w' = some (.transition runID)) :
    w' ≠ w ∧ workers.get w' = some (.transition runID) := by
  rw [get_insert] at hw
  split_ifs at hw with hne
  · exact absurd (Option.some.inj hw) hphase
  · exact ⟨hne, hw⟩

theorem RunInv.moves (w : Nat)
    (hphase : ∀ runID, phase ≠ .transition runID) : RunInv s (workers.insert w phase) where
  closed := h.closed
  pending := fun w' runID hw => h.pending w' runID (get_insert_transition (hphase runID) hw).2
  sole := fun w₁ w₂ runID h₁ h₂ => h.sole w₁ w₂ runID
    (get_insert_transition (hphase runID) h₁).2 (get_insert_transition (hphase runID) h₂).2

theorem RunInv.completes {w : Nat}
    (hidle : ∀ w, workers.get w ≠ some (.transition runID)) (hclosed : s.Closed runID)
    (hwait : s.StateIs runID (·.waiting)) : RunInv s (workers.insert w (.transition runID)) := by
  -- nobody else is about to move this run
  have hself : ∀ w', (workers.insert w (.transition runID)).get w' = some (.transition runID) →
      w' = w := by
    intro w' hw'
    by_contra hne
    exact hidle w' (by rwa [get_insert_ne _ _ hne] at hw')
  have hother : ∀ w' r, r ≠ runID →
      (workers.insert w (.transition runID)).get w' = some (.transition r) →
      workers.get w' = some (.transition r) := by
    intro w' r hr hw'
    exact (get_insert_transition (fun he => hr (by cases he; rfl)) hw').2
  refine ⟨h.closed, fun w' r hw' => ?_, fun w₁ w₂ r h₁ h₂ => ?_⟩
  · by_cases hr : r = runID
    · subst r
      exact ⟨hclosed, hwait⟩
    · exact h.pending w' r (hother w' r hr hw')
  · by_cases hr : r = runID
    · subst r
      rw [hself w₁ h₁, hself w₂ h₂]
    · exact h.sole w₁ w₂ r (hother w₁ r hr h₁) (hother w₂ r hr h₂)

omit h in
theorem attempt_ok {α : Type} {input : Input} {result : Except TopologyRunError α} {a : α}
    (h : attempt input result = .ok a) : result = .ok a := by
  unfold attempt at h
  split at h
  · exact h
  · cases h

theorem RunInv.advance {w : Nat} (hw : workers.get w = some phase)
    (input : Input) : RunInv (TopologyWorker.advance s input phase).1
      (workers.insert w (TopologyWorker.advance s input phase).2) := by
  cases phase with
  | complete runID deviceID =>
    simp only [TopologyWorker.advance]
    split
    · rename_i allTerminal s' hok
      obtain ⟨hgentle, hopen, hlast⟩ := completeItem_ok (attempt_ok hok)
      have hidle : ∀ w, workers.get w ≠ some (.transition runID) :=
        fun w hw => hopen (h.pending w runID hw).1
      cases allTerminal with
      | true => exact (h.gentle hgentle).completes hidle (hlast rfl).1 (hlast rfl).2
      | false => exact (h.gentle hgentle).moves w nofun
    · exact h.moves w nofun
  | transition runID =>
    simp only [TopologyWorker.advance]
    split
    · rename_i s' hok
      have hact := acts_reconciling (attempt_ok hok) (h.pending w runID hw).1
      have hmoved : RunInv s (workers.insert w (.reconcile runID)) := h.moves w nofun
      refine hmoved.act hact fun w' hw' => ?_
      obtain ⟨hne, hw'⟩ := get_insert_transition Phase.noConfusion hw'
      exact hne (h.sole w' w runID hw' hw)
    · exact h.moves w nofun
  | reconcile runID =>
    simp only [TopologyWorker.advance]
    split <;> exact h.moves w nofun
  | apply runID reconciliation =>
    simp only [TopologyWorker.advance]
    split
    · rename_i s' hok
      refine (h.gentle (gentle_applyReconciliationResults (attempt_ok hok))).moves w ?_
      intro r
      split <;> exact nofun
    · exact h.moves w nofun
  | followup runID deviceIDs =>
    simp only [TopologyWorker.advance]
    split
    · rename_i requeued s' hok
      have hphase : ∀ r, (if requeued = ∅ then Phase.ready runID else .returned) ≠ .transition r := by
        intro r
        split <;> exact nofun
      rcases acts_requeueFollowupItems (attempt_ok hok) with rfl | ⟨hact, hstate⟩
      · exact h.moves w hphase
      · exact (h.act hact (h.idle hstate)).moves w hphase
    · exact h.moves w nofun
  | recordFailure runID =>
    simp only [TopologyWorker.advance]
    split
    · rename_i retry s' hok
      refine (h.gentle (gentle_recordReconciliationFailure (attempt_ok hok))).moves w ?_
      intro r
      split <;> exact nofun
    · exact h.moves w nofun
  | ready runID =>
    simp only [TopologyWorker.advance]
    split
    · rename_i s' hok
      exact (h.gentle (gentle_ready (attempt_ok hok))).moves w nofun
    · exact h.moves w nofun
  | returned => exact h.moves w nofun

end

/-! ### Runs -/

/-- No retry of a run comes between the completion of its last item and the transition that
follows it, and no import that has items fails. -/
def Orderly (sys : TopologyRunSystem) : Op → Prop
  | .retry runID _ _ => ∀ w ∈ sys.workers.dom, sys.workers.get w ≠ some (.transition runID)
  | .failImport runID => sys.store.hasItem runID = false
  | _ => True

instance (sys : TopologyRunSystem) (op : Op) : Decidable (Orderly sys op) := by
  unfold Orderly
  split <;> infer_instance

theorem RunInv.recoverReconciling (h : RunInv s ∅) : RunInv s.recoverReconciling.2 ∅ where
  closed := by
    rintro runID ⟨run', hget, hs⟩
    simp only [TopologyRunStore.recoverReconciling, get_map] at hget
    obtain ⟨run, hrun, rfl⟩ := Option.map_eq_some_iff.1 hget
    split_ifs at hs with hmoved
    · exact hasOpenItem_eq_false_iff.1 hmoved.2.2
    · exact h.closed runID ⟨run, hrun, hs⟩
  pending := nofun
  sole := nofun

theorem RunInv.commit {sys : TopologyRunSystem} (h : RunInv sys.store sys.workers)
    {result : Except TopologyRunError TopologyRunStore}
    (hstep : ∀ s', result = .ok s' → RunInv s' sys.workers) :
    RunInv (sys.commit result).store (sys.commit result).workers := by
  cases result with
  | error e => exact h
  | ok s' => exact hstep s' rfl

theorem RunInv.step {sys : TopologyRunSystem} (h : RunInv sys.store sys.workers) {op : Op}
    (hvalid : op.Valid sys) (horderly : Orderly sys op) :
    RunInv (sys.step op).store (sys.step op).workers := by
  cases op with
  | tick elapsed => exact h.gentle fun r => ⟨fun _ item' hget ho => ⟨item', hget, ho⟩, .refl _⟩
  | create runID mapID actorUserID => exact h.commit fun s' hok => h.gentle (gentle_create hok)
  | addItem runID deviceID isMember =>
    refine h.commit fun s' hok => ?_
    obtain ⟨hact, hstate⟩ := acts_addItem hok
    exact h.act hact (h.idle hstate)
  | finalizeImport runID => exact h.commit fun s' hok => h.gentle (gentle_finalizeImport hok)
  | failImport runID =>
    refine h.commit fun s' hok => ?_
    obtain ⟨hact, hstate⟩ := acts_failImport hok horderly
    exact h.act hact (h.idle hstate)
  | claim w deviceID runID =>
    simp only [TopologyRunSystem.step]
    split
    · rename_i s' hok
      exact (h.gentle (gentle_markItemRunning hok)).moves w nofun
    · exact h
  | advance w input =>
    simp only [TopologyRunSystem.step]
    cases hw : sys.workers.get w with
    | none => exact h
    | some phase => exact h.advance hw input
  | retry runID actorUserID deviceIDs =>
    refine h.commit fun s' hok => ?_
    cases hres : sys.store.requeueItems runID actorUserID deviceIDs with
    | error e => simp [hres, Except.map] at hok
    | ok res =>
      obtain ⟨requeued, s''⟩ := res
      obtain rfl : s'' = s' := by simpa [hres, Except.map] using hok
      exact h.act (acts_requeueItems hres) fun w hw => horderly w (mem_dom_of_get hw) hw
  | setBackgrounded runID actorUserID =>
    exact h.commit fun s' hok => h.gentle (gentle_setBackgrounded hok)
  | manualEdit runID actorUserID =>
    exact h.commit fun s' hok => h.gentle (gentle_disableAutoLayout hok)
  | applyLayout runID actorUserID digest verdict =>
    exact h.commit fun s' hok => h.gentle (gentle_applyLayout hok)
  | restart => exact ⟨h.closed, nofun, nofun⟩
  | recoverInterrupted => exact h.gentle (gentle_recoverInterrupted sys.store)
  | recoverReconciling =>
    have hworkers : sys.workers = ∅ := hvalid
    show RunInv sys.store.recoverReconciling.2 sys.workers
    rw [hworkers] at h ⊢
    exact h.recoverReconciling
  | resume w runID => exact h.moves w nofun

/-- The steps of a system in which nobody retries inside the window. -/
def Careful (sys : TopologyRunSystem) (op : Op) : Prop := op.Valid sys ∧ Orderly sys op

instance (sys : TopologyRunSystem) (op : Op) : Decidable (Careful sys op) :=
  inferInstanceAs (Decidable (_ ∧ _))

/-- In every state, a run that is reconciling, ready for layout or failed has no item that is
queued or running. -/
theorem no_item_left_behind {sys : TopologyRunSystem} {ops : List Op}
    (h : Run (· = ({} : TopologyRunSystem)) (ActStep step Careful) sys ops) {runID deviceID : UUID}
    {run : TopologyRun} {item : TopologyRunItem} (hrun : sys.store.runs.get runID = some run)
    (hstate : run.state = .reconciling ∨ run.state = .readyForLayout ∨ run.state = .failed)
    (hitem : sys.store.items.get (runID, deviceID) = some item) : item.state.terminal = true := by
  have hinv : RunInv sys.store sys.workers := by
    refine h.act_invariant (P := fun sys => RunInv sys.store sys.workers) ?_
      fun sys op hP hop => hP.step hop.1 hop.2
    refine ⟨fun runID hs => ?_, nofun, nofun⟩
    obtain ⟨run, hget, -⟩ := hs
    cases hget
  refine hinv.closed runID ⟨run, hrun, ?_⟩ deviceID item hitem
  rcases hstate with hs | hs | hs <;> rw [hs] <;> rfl

/-- An import of one device into the map 1, by the user 2. -/
def importOne : List Op := [.create 10 1 2, .addItem 10 20 true]

/-- The device is discovered with a failure, and the run is moved. -/
def discoverOne : List Op :=
  importOne ++ [.finalizeImport 10, .claim 0 20 10, .advance 0 { outcome := { discoveryErr := true } },
    .advance 0 {}]

theorem no_item_left_behind_discoverOne :
    Run (· = ({} : TopologyRunSystem)) (ActStep step Careful) (discoverOne.foldl step {}) discoverOne ∧
      ((discoverOne.foldl step {}).store.runs.get 10).any (·.state = .reconciling) ∧
      ∀ item, (discoverOne.foldl step {}).store.items.get (10, 20) = some item →
        item.state.terminal = true := by
  have hrun : Run (· = ({} : TopologyRunSystem)) (ActStep step Careful) (discoverOne.foldl step {})
      discoverOne := .of_ops (by decide +kernel)
  have hstate : ((discoverOne.foldl step {}).store.runs.get 10).any (·.state = .reconciling) := by
    decide +kernel
  refine ⟨hrun, hstate, fun item hitem => ?_⟩
  obtain ⟨run, hget, hs⟩ := (Option.any_eq_true _ _).1 hstate
  exact no_item_left_behind hrun hget (.inl (of_decide_eq_true hs)) hitem

/-- A retry after the last completion and before the transition leaves a queued item in a run that
is reconciling, and an import that fails leaves the items it queued. No worker can claim them. -/
theorem items_left_behind :
    (∃ ops : List Op,
      Run (· = ({} : TopologyRunSystem)) (ActStep step fun sys op => op.Valid sys)
        (ops.foldl step {}) ops ∧
      ((ops.foldl step {}).store.runs.get 10).any (·.state = .reconciling) ∧
      ((ops.foldl step {}).store.items.get (10, 20)).any (·.state = .queued) ∧
      (ops.foldl step {}).store.claimable 20 10 = false) ∧
    ∃ ops : List Op,
      Run (· = ({} : TopologyRunSystem)) (ActStep step fun sys op => op.Valid sys)
        (ops.foldl step {}) ops ∧
      ((ops.foldl step {}).store.runs.get 10).any (·.state = .failed) ∧
      ((ops.foldl step {}).store.items.get (10, 20)).any (·.state = .queued) ∧
      (ops.foldl step {}).store.claimable 20 10 = false := by
  constructor
  · refine ⟨importOne ++ [.finalizeImport 10, .claim 0 20 10,
        .advance 0 { outcome := { discoveryErr := true } }, .retry 10 2 [], .advance 0 {}],
      .of_ops ?_, ?_, ?_, ?_⟩ <;> decide +kernel
  · refine ⟨importOne ++ [.failImport 10], .of_ops ?_, ?_, ?_, ?_⟩ <;> decide +kernel

end TopologyRunSystem

end Theia
