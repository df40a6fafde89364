import Theia.Native.SchedulerDispatch

/-!
# `dispatchReady` and a loop without memory

`dispatchReady` remembers across its picks which classes are exhausted. The reference loop here
looks at all queues again before each pick and remembers nothing. Both send the same tasks and
leave the same queues and counters.

A scan normalizes the tasks it passes, so the items of the two loops are compared after
`normalizeTask`.
-/

namespace Theia

open Function

/-! ### Normalized tasks -/

theorem normalizeTask_normal (task : PollTask) :
    (normalizeTask task).kind ≠ .unset ∧ (normalizeTask task).lane ≠ .unset ∧
      ((normalizeTask task).kind = .background → (normalizeTask task).volatilityClass = .unset →
        task.key.volatilityClass = .unset) := by
  unfold normalizeTask
  grind

theorem normalizeTask_of_normal {task : PollTask} (hkind : task.kind ≠ .unset)
    (hlane : task.lane ≠ .unset)
    (hclass : task.kind = .background → task.volatilityClass = .unset →
      task.key.volatilityClass = .unset) : normalizeTask task = task := by
  simp only [normalizeTask, if_neg hkind, if_neg hlane]
  split
  · next h => rw [hclass h.1 h.2, ← h.2]
  · rfl

@[simp] theorem normalizeTask_key (task : PollTask) : (normalizeTask task).key = task.key := by
  unfold normalizeTask
  grind

@[simp] theorem normalizeTask_normalizeTask (task : PollTask) :
    normalizeTask (normalizeTask task) = normalizeTask task := by
  obtain ⟨hkind, hlane, hclass⟩ := normalizeTask_normal task
  apply normalizeTask_of_normal hkind hlane
  rw [normalizeTask_key]
  exact hclass

/-- An item with its task normalized. -/
def HeapItem.normal (item : HeapItem) : HeapItem := { item with task := normalizeTask item.task }

theorem HeapItem.normal_normal (item : HeapItem) : item.normal.normal = item.normal := by
  simp [HeapItem.normal, normalizeTask_normalizeTask]

theorem HeapItem.task_of_normal {a b : HeapItem} (h : a.normal = b.normal) :
    normalizeTask a.task = normalizeTask b.task := congrArg HeapItem.task h

/-! ### The reference loop -/

namespace Scheduler

open HeapItem Option

/-- A task of the kind that is looked for and that no limit blocks. -/
def eligible (limits : DispatchLimits) (s : Scheduler) (kind : TaskKind) (r : ItemRef) : Bool :=
  !skipsKind kind (normalizeTask (s.store r).task) &&
    (s.dispatchBlockWithLimits (s.store r).task limits).isNone

/-- The first eligible task of a kind in one queue, with its position. -/
def pickFromQueue (limits : DispatchLimits) (s : Scheduler) (kind : TaskKind) (p : Fin 3) :
    Option (ItemRef × Nat) :=
  (s.ready p).zipIdx.find? fun entry => s.eligible limits kind entry.1

/-- The first eligible task of a kind: by queue priority, then by position. -/
def pickKind (limits : DispatchLimits) (s : Scheduler) (kind : TaskKind) :
    Option (Fin 3 × ItemRef × Nat) :=
  [(0 : Fin 3), 1, 2].findSome? fun p => (s.pickFromQueue limits kind p).map fun entry => (p, entry)

/-- The first eligible task: essential, bootstrap, background. -/
def pick (limits : DispatchLimits) (s : Scheduler) : Option (Fin 3 × ItemRef × Nat) :=
  [TaskKind.essential, .bootstrap, .unset].findSome? fun kind => s.pickKind limits kind

/-- Take an entry out of its queue. -/
def takeReady (s : Scheduler) (p : Fin 3) (r : ItemRef) (index : Nat) : Scheduler :=
  { s with ready := update s.ready p ((s.ready p).eraseIdx index) }.modify r
    fun item => { item with queued := false }

/-- The reference loop, which picks among all queues until the global limit is reached or nothing is
eligible. A disabled item is taken out and uses no slot. -/
def referenceLoop (limits : DispatchLimits) (now : Time) :
    Nat → Scheduler → Scheduler × List PollTask
  | 0, s => (s, [])
  | fuel + 1, s =>
    if limits.globalLimit ≤ s.inFlight then (s, [])
    else match s.pick limits with
      | none => (s, [])
      | some (p, r, index) =>
        let s := s.takeReady p r index
        let item := s.store r
        if item.disabled then
          referenceLoop limits now fuel { s with items := s.items.erase item.task.key }
        else
          let task := s.dispatchTask now item
          let (s, sent) := referenceLoop limits now fuel (s.markDispatched r task now)
          (s, task :: sent)

/-- The reference for `dispatchReady`; every pass takes an entry out of the queues. -/
def referenceDispatch (s : Scheduler) (limits : DispatchLimits) (now : Time) :
    Scheduler × List PollTask :=
  referenceLoop limits now (s.readyEntries.length + 1) s

/-! ### Schedulers that agree -/

/-- The same scheduler, up to the normalization of tasks. -/
structure Agrees (s t : Scheduler) : Prop where
  frame : t = { s with store := t.store }
  normal : ∀ q, (t.store q).normal = (s.store q).normal

variable {s t : Scheduler} {limits : DispatchLimits} {task : PollTask} {p : Fin 3} {r : ItemRef}
  {index : Nat} {reason : BlockReason}

theorem normal_update {a b : ItemRef → HeapItem} {x y : HeapItem}
    (h : ∀ q, (a q).normal = (b q).normal) (hxy : x.normal = y.normal) (q : ItemRef) :
    (update a r x q).normal = (update b r y q).normal := by
  by_cases hq : q = r
  · subst hq
    rw [update_self, update_self, hxy]
  · rw [update_of_ne hq, update_of_ne hq, h q]

theorem Agrees.refl (s : Scheduler) : Agrees s s := ⟨rfl, fun _ => rfl⟩

section

variable (h : Agrees s t)
include h

theorem Agrees.trans {u : Scheduler} (h' : Agrees t u) : Agrees s u where
  frame := by
    rw [h'.frame, h.frame]
  normal := fun q => (h'.normal q).trans (h.normal q)

theorem Agrees.ready_eq : t.ready = s.ready := by rw [h.frame]

theorem Agrees.task_eq (q : ItemRef) :
    normalizeTask (t.store q).task = normalizeTask (s.store q).task :=
  task_of_normal (h.normal q)

theorem Agrees.field_eq {α : Type} (q : ItemRef) (f : HeapItem → α)
    (hf : ∀ item, f item.normal = f item) : f (t.store q) = f (s.store q) := by
  rw [← hf, h.normal q, hf]

theorem Agrees.dispatchBlock_eq {a b : PollTask} (hab : normalizeTask a = normalizeTask b) :
    t.dispatchBlockWithLimits a limits = s.dispatchBlockWithLimits b limits := by
  rw [h.frame]
  simp only [dispatchBlockWithLimits, hab]
  rfl

omit h in
theorem Agrees.normalize (s : Scheduler) (r : ItemRef) :
    Agrees s (s.modify r fun item => { item with task := normalizeTask item.task }) where
  frame := rfl
  normal := by
    have h := normal_update (r := r) (b := s.store) (fun q => rfl) (normal_normal (s.store r))
    rwa [update_eq_self] at h

theorem Agrees.modify (r : ItemRef) {f : HeapItem → HeapItem}
    (hf : ∀ a b : HeapItem, a.normal = b.normal → (f a).normal = (f b).normal) :
    Agrees (s.modify r f) (t.modify r f) where
  frame := by
    conv_lhs => rw [h.frame]
    rfl
  normal := normal_update h.normal (hf _ _ (h.normal r))

end

/-! ### What is remembered is exhausted -/

/-- Every class that is remembered as exhausted is. -/
structure ScanSound (limits : DispatchLimits) (s : Scheduler)
    (scan : DispatchScanState) : Prop where
  essential : scan.essentialLimited = true → limits.essentialLimit ≤ s.inFlightEssential
  classes : ∀ volatility p, classSlot volatility = some p → scan.classLimited p = true →
    limits.budgets volatility ≤ s.inFlightByClass volatility

variable {scan : DispatchScanState}

theorem scanSound_nil (limits : DispatchLimits) (s : Scheduler) : ScanSound limits s {} where
  essential := by simp
  classes := by simp

theorem isolationBlock_ne {policy : Policy} (h : s.isolationBlock task policy = some reason) :
    reason ≠ .essentialLimit ∧ reason ≠ .classLimit := by
  unfold isolationBlock at h
  grind

theorem ScanSound.block (h : ScanSound limits s scan) (hknown : scan.isKnownBlocked task = true) :
    s.dispatchBlockWithLimits task limits ≠ none := by
  simp only [DispatchScanState.isKnownBlocked] at hknown
  simp only [dispatchBlockWithLimits]
  by_cases hkind : (normalizeTask task).kind = .essential
  · rw [if_pos hkind] at hknown
    rw [if_pos hkind, if_pos (h.essential hknown)]
    exact some_ne_none _
  · rw [if_neg hkind] at hknown
    cases hslot : classSlot (normalizeTask task).volatilityClass with
    | none => simp only [hslot, Bool.false_eq_true] at hknown
    | some p =>
      simp only [hslot] at hknown
      rw [if_neg hkind, if_pos (h.classes _ p hslot hknown)]
      exact some_ne_none _

theorem classSlot_inj {a b : VolatilityClass} (ha : classSlot a = some p)
    (hb : classSlot b = some p) : a = b := by
  cases a <;> cases b <;> grind [classSlot]

theorem ScanSound.recordBlocked (h : ScanSound limits s scan)
    (hblock : s.dispatchBlockWithLimits task limits = some reason) :
    ScanSound limits s (scan.recordBlocked task reason) := by
  simp only [dispatchBlockWithLimits] at hblock
  simp only [DispatchScanState.recordBlocked]
  by_cases hkind : (normalizeTask task).kind = .essential
  · rw [if_pos hkind]
    rw [if_pos hkind] at hblock
    by_cases hreason : reason = .essentialLimit
    · rw [if_pos hreason]
      -- an isolation block has another reason, so the limit is reached
      have hlimit : limits.essentialLimit ≤ s.inFlightEssential := by
        by_contra hbelow
        rw [if_neg hbelow] at hblock
        exact (isolationBlock_ne hblock).1 hreason
      exact ⟨fun _ => hlimit, h.classes⟩
    · rw [if_neg hreason]
      exact h
  · rw [if_neg hkind]
    rw [if_neg hkind] at hblock
    by_cases hreason : reason = .classLimit
    · rw [if_neg (not_not.2 hreason)]
      have hlimit : limits.budgets (normalizeTask task).volatilityClass ≤
          s.inFlightByClass (normalizeTask task).volatilityClass := by
        by_contra hbelow
        rw [if_neg hbelow] at hblock
        exact (isolationBlock_ne hblock).2 hreason
      cases hslot : classSlot (normalizeTask task).volatilityClass with
      | none => exact h
      | some p =>
        refine ⟨h.essential, ?_⟩
        intro volatility q hq hlimited
        by_cases hqp : q = p
        · subst hqp
          rw [classSlot_inj hq hslot]
          exact hlimit
        · apply h.classes volatility q hq
          simpa [update_of_ne hqp] using hlimited
    · rw [if_pos hreason]
      exact h

/-! ### One pick -/

theorem scanQueue_eq (kind : TaskKind) (queue : List ItemRef) (index : Nat) (h : Agrees s t)
    (hscan : ScanSound limits s scan) :
    Agrees s (scanQueue limits kind t scan index queue).1 ∧
      ScanSound limits s (scanQueue limits kind t scan index queue).2.1 ∧
      (scanQueue limits kind t scan index queue).2.2 =
        ((queue.zipIdx index).find? fun entry => s.eligible limits kind entry.1).map
          fun entry => (entry.2, entry.1) := by
  induction queue generalizing t scan index with
  | nil => exact ⟨h, hscan, rfl⟩
  | cons r rest ih =>
    have hnormal := h.trans (Agrees.normalize t r)
    have htask : ((t.modify r fun item => { item with task := normalizeTask item.task }).store r).task =
        normalizeTask (s.store r).task := by
      show (update t.store r (t.store r).normal r).task = _
      rw [update_self]
      exact h.task_eq r
    -- the block of the normalized task, in the state of the scan and in that of the reference
    have hblock : (t.modify r fun item => { item with task := normalizeTask item.task
        }).dispatchBlockWithLimits (normalizeTask (s.store r).task) limits =
        s.dispatchBlockWithLimits (s.store r).task limits :=
      hnormal.dispatchBlock_eq (normalizeTask_normalizeTask _)
    have hblock' : s.dispatchBlockWithLimits (normalizeTask (s.store r).task) limits =
        s.dispatchBlockWithLimits (s.store r).task limits :=
      (Agrees.refl s).dispatchBlock_eq (normalizeTask_normalizeTask _)
    simp only [scanQueue, htask, hblock, List.zipIdx_cons, List.find?_cons]
    by_cases hskip : skipsKind kind (normalizeTask (s.store r).task) = true
    · have hno : s.eligible limits kind r = false := by simp [eligible, hskip]
      rw [if_pos hskip, hno]
      exact ih (index + 1) hnormal hscan
    rw [if_neg hskip]
    by_cases hknown : scan.isKnownBlocked (normalizeTask (s.store r).task) = true
    · -- a remembered class is exhausted, so the reference passes over the entry as well
      have hsome := isSome_iff_ne_none.2 (hscan.block hknown)
      rw [hblock'] at hsome
      have hno : s.eligible limits kind r = false := by
        simp [eligible, hsome]
      rw [if_pos hknown, hno]
      exact ih (index + 1) hnormal hscan
    rw [if_neg hknown]
    cases hreason : s.dispatchBlockWithLimits (s.store r).task limits with
    | none =>
      have hyes : s.eligible limits kind r = true := by simp [eligible, hskip, hreason]
      rw [hyes]
      exact ⟨hnormal, hscan, rfl⟩
    | some reason =>
      have hno : s.eligible limits kind r = false := by simp [eligible, hreason]
      rw [hno]
      exact ih (index + 1) hnormal (hscan.recordBlocked (hblock'.trans hreason))

/-- What a pick leaves when the reference picks `picked`. -/
def PicksAs (limits : DispatchLimits) (s : Scheduler) (picked : Option (Fin 3 × ItemRef × Nat))
    (res : Scheduler × DispatchScanState × Option ItemRef) : Prop :=
  ScanSound limits s res.2.1 ∧ res.2.2 = picked.map (fun entry => entry.2.1) ∧
    Agrees (match picked with
      | some (p, r, index) => s.takeReady p r index
      | none => s) res.1

theorem Agrees.takeReady (h : Agrees s t) (p : Fin 3) (r : ItemRef) (index : Nat) :
    Agrees (s.takeReady p r index) (t.takeReady p r index) := by
  have hqueue : Agrees { s with ready := update s.ready p ((s.ready p).eraseIdx index) }
      { t with ready := update t.ready p ((t.ready p).eraseIdx index) } := by
    refine ⟨?_, h.normal⟩
    conv_lhs => rw [h.frame]
  apply hqueue.modify
  intro a b hab
  simp only [HeapItem.normal] at hab ⊢
  grind

theorem popFromQueues_eq (kind : TaskKind) (ps : List (Fin 3)) (h : Agrees s t)
    (hscan : ScanSound limits s scan) :
    PicksAs limits s (ps.findSome? fun p =>
      (s.pickFromQueue limits kind p).map fun entry => (p, entry))
      (popFromQueues limits kind t scan ps) := by
  induction ps generalizing t scan with
  | nil => exact ⟨hscan, rfl, h⟩
  | cons p ps ih =>
    obtain ⟨hagrees, hsound, hfound⟩ := scanQueue_eq kind (s.ready p) 0 h hscan
    rw [List.findSome?_cons]
    simp only [popFromQueues, h.ready_eq]
    generalize scanQueue limits kind t scan 0 (s.ready p) = res at hagrees hsound hfound ⊢
    obtain ⟨t', scan', found⟩ := res
    cases hpick : s.pickFromQueue limits kind p with
    | none =>
      rw [show ((s.ready p).zipIdx 0).find? (fun entry => s.eligible limits kind entry.1) = none
        from hpick] at hfound
      cases hfound
      exact ih hagrees hsound
    | some entry =>
      obtain ⟨r, index⟩ := entry
      rw [show ((s.ready p).zipIdx 0).find? (fun entry => s.eligible limits kind entry.1) =
        some (r, index) from hpick] at hfound
      cases hfound
      exact ⟨hsound, rfl, hagrees.takeReady p r index⟩

theorem popReadyKinds_eq (kinds : List TaskKind) (h : Agrees s t)
    (hscan : ScanSound limits s scan) :
    PicksAs limits s (kinds.findSome? fun kind => s.pickKind limits kind)
      (popReadyKinds limits t scan kinds) := by
  induction kinds generalizing t scan with
  | nil => exact ⟨hscan, rfl, h⟩
  | cons kind kinds ih =>
    have hkind : PicksAs limits s (s.pickKind limits kind) (popReadyEligibleKind limits kind t scan) :=
      popFromQueues_eq kind [0, 1, 2] h hscan
    rw [List.findSome?_cons]
    simp only [popReadyKinds]
    generalize popReadyEligibleKind limits kind t scan = res at hkind ⊢
    obtain ⟨t', scan', found⟩ := res
    cases hpick : s.pickKind limits kind with
    | none =>
      rw [hpick] at hkind
      obtain ⟨hsound, hfound, hagrees⟩ := hkind
      cases hfound
      exact ih hagrees hsound
    | some entry =>
      rw [hpick] at hkind
      obtain ⟨hsound, hfound, hagrees⟩ := hkind
      cases hfound
      exact ⟨hsound, rfl, hagrees⟩

theorem popReadyEligible_eq (h : Agrees s t) (hscan : ScanSound limits s scan) :
    PicksAs limits s (s.pick limits) (popReadyEligible limits t scan) :=
  popReadyKinds_eq [.essential, .bootstrap, .unset] h hscan

/-! ### The dispatch loop -/

section

variable (s : Scheduler) (store : ItemRef → HeapItem) (task : PollTask)

theorem incrementInFlight_withStore : { s with store := store }.incrementInFlight task =
      { s.incrementInFlight task with store := store } := by
  simp only [incrementInFlight, incrementIsolationCounts, updateIsolationCounts]
  split <;> split <;> rfl

/-- The counters of `dispatchReady` for a task that was sent. -/
def countDispatched (s : Scheduler) (task : PollTask) : Scheduler :=
  let s := { s with inFlight := s.inFlight + 1 }.incrementInFlight task
  if task.kind = .essential ∧ task.deadlineMissed then
    { s with deadlineMissTotal := s.deadlineMissTotal + 1 }
  else s

theorem countDispatched_withStore : { s with store := store }.countDispatched task =
      { s.countDispatched task with store := store } := by
  have hincrement := incrementInFlight_withStore { s with inFlight := s.inFlight + 1 } store task
  simp only [countDispatched, hincrement]
  split <;> rfl

end

theorem markDispatched_eq (s : Scheduler) (r : ItemRef) (task : PollTask) (now : Time) :
    s.markDispatched r task now =
      { s.countDispatched task with
        store := update s.store r
          { s.store r with inFlight := true, dispatchedAt := now, runID := s.runID, task := task } } :=
  countDispatched_withStore s _ task

theorem Agrees.markDispatched (h : Agrees s t) (r : ItemRef) (task : PollTask) (now : Time) :
    Agrees (s.markDispatched r task now) (t.markDispatched r task now) := by
  have hcount : t.countDispatched task = { s.countDispatched task with store := t.store } := by
    conv_lhs => rw [h.frame]
    exact countDispatched_withStore s t.store task
  rw [markDispatched_eq, markDispatched_eq]
  refine ⟨by rw [hcount], normal_update h.normal ?_⟩
  have hrun : t.runID = s.runID := by rw [h.frame]
  have hitem := h.normal r
  simp only [HeapItem.normal] at hitem ⊢
  grind

/-! ### Counters of kinds and classes -/

section Slots

/-- The counter that a task counts in: `none` is that of the essential workers. -/
def slotOf (task : PollTask) : Option VolatilityClass :=
  if task.kind = .essential then none else some task.volatilityClass

/-- The in-flight counters by kind and class. -/
def slotCount (s : Scheduler) : Option VolatilityClass → Int
  | none => s.inFlightEssential
  | some volatility => s.inFlightByClass volatility

theorem slotCount_congr (hessential : t.inFlightEssential = s.inFlightEssential)
    (hclass : t.inFlightByClass = s.inFlightByClass) (slot : Option VolatilityClass) :
    t.slotCount slot = s.slotCount slot := by
  cases slot with
  | none => exact hessential
  | some volatility => exact congrFun hclass volatility

theorem slotCount_updateIsolationCounts (f : FMap String Int → String → FMap String Int)
    (s : Scheduler) (task : PollTask) (slot : Option VolatilityClass) :
    (s.updateIsolationCounts f task).slotCount slot = s.slotCount slot := by
  simp only [updateIsolationCounts]
  split <;> rfl

/-- Adding `d` to the counter of a task. -/
theorem slotCount_add {d : Int}
    (ht : t = if task.kind = .essential then { s with inFlightEssential := s.inFlightEssential + d }
      else { s with
        inFlightByClass := update s.inFlightByClass task.volatilityClass
          (s.inFlightByClass task.volatilityClass + d) }) (slot : Option VolatilityClass) :
    t.slotCount slot = s.slotCount slot + if slot = slotOf task then d else 0 := by
  rw [ht]
  by_cases hkind : task.kind = .essential
  · have hslot : slotOf task = none := if_pos hkind
    rw [if_pos hkind, hslot]
    cases slot <;> simp [slotCount]
  · have hslot : slotOf task = some task.volatilityClass := if_neg hkind
    rw [if_neg hkind, hslot]
    cases slot with
    | none => simp [slotCount]
    | some volatility =>
      by_cases hv : volatility = task.volatilityClass
      · subst hv
        simp [slotCount]
      · simp [slotCount, hv]

theorem slotCount_incrementInFlight (s : Scheduler) (task : PollTask)
    (slot : Option VolatilityClass) :
    (s.incrementInFlight task).slotCount slot =
      s.slotCount slot + if slot = slotOf task then 1 else 0 := by
  simp only [incrementInFlight, incrementIsolationCounts, slotCount_updateIsolationCounts]
  exact slotCount_add rfl slot

theorem markDispatched_slots (s : Scheduler) (r : ItemRef) (task : PollTask) (now : Time)
    (slot : Option VolatilityClass) : (s.markDispatched r task now).slotCount slot =
      s.slotCount slot + if slot = slotOf task then 1 else 0 := by
  have hincrement := slotCount_incrementInFlight { s with inFlight := s.inFlight + 1 } task slot
  rw [show ({ s with inFlight := s.inFlight + 1 } : Scheduler).slotCount slot = s.slotCount slot
    from slotCount_congr rfl rfl slot] at hincrement
  rw [markDispatched_eq, ← hincrement]
  show (s.countDispatched task).slotCount slot = _
  simp only [countDispatched]
  generalize ({ s with inFlight := s.inFlight + 1 } : Scheduler).incrementInFlight task = t
  split
  · exact slotCount_congr rfl rfl slot
  · rfl

end Slots

theorem ScanSound.markDispatched (h : ScanSound limits s scan) (r : ItemRef) (task : PollTask)
    (now : Time) : ScanSound limits (s.markDispatched r task now) scan := by
  have hgrows : ∀ slot, s.slotCount slot ≤ (s.markDispatched r task now).slotCount slot := by
    intro slot
    rw [markDispatched_slots]
    split <;> omega
  exact ⟨fun hlimited => (h.essential hlimited).trans (hgrows none),
    fun volatility p hp hlimited =>
      (h.classes volatility p hp hlimited).trans (hgrows (some volatility))⟩

/-! ### The two loops side by side -/

theorem Agrees.dispatchTask_eq (h : Agrees s t) (now : Time) (r : ItemRef) :
    t.dispatchTask now (t.store r) = s.dispatchTask now (s.store r) := by
  have hrun : t.runID = s.runID := by rw [h.frame]
  have hdue := h.field_eq r dueAt fun _ => rfl
  have hinterval := h.field_eq r interval fun _ => rfl
  have hskipped := h.field_eq r skippedWindows fun _ => rfl
  simp [dispatchTask, h.task_eq r, hrun, hdue, hinterval, hskipped]

theorem Agrees.eraseItem (h : Agrees s t) (key : TaskKey) :
    Agrees { s with items := s.items.erase key } { t with items := t.items.erase key } where
  frame := by
    conv_lhs => rw [h.frame]
  normal := h.normal

theorem dispatchLoop_eq (now : Time) (fuel : Nat) (h : Agrees s t)
    (hscan : ScanSound limits s scan) :
    (dispatchLoop limits now fuel none t scan).2 = (referenceLoop limits now fuel s).2 ∧
      Agrees (referenceLoop limits now fuel s).1 (dispatchLoop limits now fuel none t scan).1 := by
  induction fuel generalizing s t scan with
  | zero => exact ⟨rfl, h⟩
  | succ fuel ih =>
    have hlimit : t.inFlight = s.inFlight := by rw [h.frame]
    simp only [dispatchLoop, referenceLoop, hlimit]
    split
    · exact ⟨rfl, h⟩
    have hpick := popReadyEligible_eq h hscan
    generalize popReadyEligible limits t scan = res at hpick ⊢
    obtain ⟨t', scan', found⟩ := res
    cases hentry : s.pick limits with
    | none =>
      rw [hentry] at hpick
      obtain ⟨-, hfound, hagrees⟩ := hpick
      cases hfound
      exact ⟨rfl, hagrees⟩
    | some entry =>
      obtain ⟨p, r, index⟩ := entry
      rw [hentry] at hpick
      obtain ⟨hsound, hfound, hagrees⟩ := hpick
      cases hfound
      -- the item that both loops take, and its task
      have hdisabled : (t'.store r).disabled = ((s.takeReady p r index).store r).disabled :=
        hagrees.field_eq r HeapItem.disabled fun _ => rfl
      have hkey : (t'.store r).task.key = ((s.takeReady p r index).store r).task.key := by
        have htask := congrArg PollTask.key (hagrees.task_eq r)
        simpa [normalizeTask_key] using htask
      have htask : t'.dispatchTask now (t'.store r) =
          (s.takeReady p r index).dispatchTask now ((s.takeReady p r index).store r) :=
        hagrees.dispatchTask_eq now r
      simp only [hdisabled, hkey, htask, map_none]
      split
      · -- a disabled item uses no slot: the counters stay, and the memory with them
        apply ih (hagrees.eraseItem _)
        exact ⟨hsound.essential, hsound.classes⟩
      · obtain ⟨hsent, hfinal⟩ := ih (hagrees.markDispatched r
          ((s.takeReady p r index).dispatchTask now ((s.takeReady p r index).store r)) now)
          (ScanSound.markDispatched (s := s.takeReady p r index) ⟨hsound.essential, hsound.classes⟩
            r _ now)
        exact ⟨by rw [hsent], hfinal⟩

/-! ### The reference loop ends for a reason -/

theorem pick_mem (h : s.pick limits = some (p, r, index)) : (s.ready p)[index]? = some r := by
  obtain ⟨kind, -, hkind⟩ := List.exists_of_findSome?_eq_some h
  obtain ⟨q, -, hqueue⟩ := List.exists_of_findSome?_eq_some hkind
  obtain ⟨entry, hentry, heq⟩ := map_eq_some_iff.1 hqueue
  cases heq
  exact List.mem_zipIdx_iff_getElem?.1 (List.mem_of_find?_eq_some hentry)

theorem length_readyEntries_takeReady (h : (s.ready p)[index]? = some r) :
    (s.takeReady p r index).readyEntries.length + 1 = s.readyEntries.length := by
  have hindex : index < (s.ready p).length := by
    obtain ⟨hlt, -⟩ := List.getElem?_eq_some_iff.1 h
    exact hlt
  have herase : ((s.ready p).eraseIdx index).length + 1 = (s.ready p).length := by
    rw [List.length_eraseIdx, if_pos hindex]
    omega
  show (update s.ready p _ 0 ++ update s.ready p _ 1 ++
    update s.ready p _ 2).length + 1 = (s.ready 0 ++ s.ready 1 ++ s.ready 2).length
  fin_cases p <;> simp at herase ⊢ <;> omega

theorem readyEntries_markDispatched (s : Scheduler) (r : ItemRef) (task : PollTask) (now : Time) :
    (s.markDispatched r task now).readyEntries = s.readyEntries := by
  have hready : (s.countDispatched task).ready = s.ready := by
    simp only [countDispatched, incrementInFlight, incrementIsolationCounts, updateIsolationCounts]
    split <;> split <;> split <;> rfl
  rw [markDispatched_eq]
  simp [readyEntries, hready]

theorem referenceLoop_stops (limits : DispatchLimits) (now : Time) (fuel : Nat) (h : s.readyEntries.length < fuel) :
    limits.globalLimit ≤ (referenceLoop limits now fuel s).1.inFlight ∨
      (referenceLoop limits now fuel s).1.pick limits = none := by
  induction fuel generalizing s with
  | zero => omega
  | succ fuel ih =>
    simp only [referenceLoop]
    split
    · next hlimit => exact .inl hlimit
    cases hpick : s.pick limits with
    | none => exact .inr hpick
    | some entry =>
      obtain ⟨p, r, index⟩ := entry
      have hlength := length_readyEntries_takeReady (pick_mem hpick)
      dsimp only
      split
      · apply ih
        show (s.takeReady p r index).readyEntries.length < fuel
        omega
      · apply ih
        rw [readyEntries_markDispatched]
        omega

/-- One cycle of `dispatchReady` sends the same tasks in the same order as the reference loop, and it
leaves the same queues, counters and items, up to the normalization of tasks that were passed over.
The reference loop ends because the global limit is reached or nothing is eligible. -/
theorem dispatchReady_eq_reference (s : Scheduler) (limits : DispatchLimits) (now : Time) :
    (s.dispatchReady limits now none).2 = (s.referenceDispatch limits now).2 ∧
      Agrees (s.referenceDispatch limits now).1 (s.dispatchReady limits now none).1 ∧
      (limits.globalLimit ≤ (s.referenceDispatch limits now).1.inFlight ∨
        (s.referenceDispatch limits now).1.pick limits = none) := by
  have hstops := referenceLoop_stops limits now (s.readyEntries.length + 1)
    (Nat.lt_succ_self s.readyEntries.length)
  obtain ⟨hsent, hagrees⟩ := dispatchLoop_eq now (s.readyEntries.length + 1) (Agrees.refl s)
    (scanSound_nil limits s)
  unfold dispatchReady
  split
  · -- nothing is ready: the reference has nothing to pick either
    next hempty =>
    simp only [readyQueuesEmpty, decide_eq_true_eq] at hempty
    have hpick : s.pick limits = none := by
      simp [pick, pickKind, pickFromQueue, hempty]
    have hreference : s.referenceDispatch limits now = (s, []) := by
      simp only [referenceDispatch, referenceLoop, hpick]
      split <;> rfl
    rw [hreference]
    exact ⟨rfl, Agrees.refl s, .inr hpick⟩
  · exact ⟨hsent, hagrees, hstops⟩

end Scheduler

end Theia
