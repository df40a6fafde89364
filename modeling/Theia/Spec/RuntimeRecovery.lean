import Theia.ForStd.Run
import Theia.Native.RuntimeClient

/-!
# The recovery machine of the client

The recovery state of the client and its two timers form a small machine. Within a generation it
goes from the stream phase to the HTTP fallback and ends idle or failed, and only a new generation
enters the stream phase again. The invariant says which timer is armed in which phase, so no phase
lacks the timer that ends it.
-/

namespace Theia.Client

variable {target : Option Number} {startedAt now : Number} {reason : String} {k : RecoveryCore}
  {event : Event}

/-! ### Numbers -/

namespace Number

theorem eq_of_strictEq {a b : Number} (h : a.strictEq b = true) : a = b := by
  cases a <;> simp_all [strictEq]

theorem le_trans {a b d : Number} (hab : a.le b = true) (hbd : b.le d = true) : a.le d = true := by
  cases a <;> cases b <;> cases d <;> simp_all [le, lt, strictEq]
  -- only finite numbers are left
  rename_i x y z
  rcases hab with hxy | rfl
  · rcases hbd with hyz | rfl
    · exact .inl (lt_trans hxy hyz)
    · exact .inl hxy
  · exact hbd

theorem le_max_left (x y : ℚ) : (finite x).le ((finite x).max (finite y)) = true := by
  by_cases h : x < y
  · simp [max, lt, le, h]
  · simp [max, lt, le, strictEq, h]

theorem max_eq_or (x y : ℚ) :
    (finite x).max (finite y) = finite x ∨ (finite x).max (finite y) = finite y := by
  by_cases h : x < y
  · simp [max, lt, h]
  · simp [max, lt, h]

theorem le_refl_finite (x : ℚ) : (finite x).le (finite x) = true := by
  simp [le, strictEq]

end Number

theorem isRuntimeVersion_finite {value : Number} (h : isRuntimeVersion value = true) :
    ∃ x, value = .finite x := by
  cases value with
  | finite x => exact ⟨x, rfl⟩
  | infinity | negInfinity | nan => cases h

/-! ### Targets -/

/-- The target of a recovery is a version, if there is one. -/
def ValidTarget (target : Option Number) : Prop := ∀ v, target = some v → isRuntimeVersion v = true

/-- A target does not go back, and is not dropped. -/
def TargetLe (target target' : Option Number) : Prop :=
  ∀ v, target = some v → ∃ v', target' = some v' ∧ v.le v' = true

theorem TargetLe.trans {t₁ t₂ t₃ : Option Number} (h : TargetLe t₁ t₂) (h' : TargetLe t₂ t₃) :
    TargetLe t₁ t₃ := by
  intro v hv
  obtain ⟨v', hv', hle⟩ := h v hv
  obtain ⟨v'', hv'', hle'⟩ := h' v' hv'
  exact ⟨v'', hv'', Number.le_trans hle hle'⟩

theorem ValidTarget.le_self (h : ValidTarget target) : TargetLe target target := by
  intro v hv
  obtain ⟨x, rfl⟩ := isRuntimeVersion_finite (h v hv)
  exact ⟨_, hv, Number.le_refl_finite x⟩

/-- `beginRuntimeRecovery` only takes a target that is a version. -/
theorem validTarget_filter (target : Option Number) :
    ValidTarget (target.filter isRuntimeVersion) := by
  intro v hv
  exact (Option.filter_eq_some_iff.1 hv).2

theorem raiseTarget_spec {requested : Option Number} (h : ValidTarget target)
    (hreq : ValidTarget requested) :
    ValidTarget (raiseTarget target requested) ∧ TargetLe target (raiseTarget target requested) := by
  cases requested with
  | none => cases target <;> exact ⟨h, h.le_self⟩
  | some r =>
    cases target with
    | none => exact ⟨hreq, fun v hv => nomatch hv⟩
    | some t =>
      obtain ⟨x, rfl⟩ := isRuntimeVersion_finite (h t rfl)
      obtain ⟨y, rfl⟩ := isRuntimeVersion_finite (hreq r rfl)
      constructor
      · intro v hv
        obtain rfl := Option.some.inj hv
        rcases Number.max_eq_or x y with hmax | hmax
        · rw [hmax]
          exact h _ rfl
        · rw [hmax]
          exact hreq _ rfl
      · intro v hv
        obtain rfl := Option.some.inj hv
        exact ⟨_, rfl, Number.le_max_left x y⟩

/-! ### The order of the phases -/

/-- How far a state is within its generation. -/
def RuntimeRecoveryState.rank : RuntimeRecoveryState → Nat
  | stream .. => 0
  | httpFallback .. => 1
  | idle _ => 2
  | failed .. => 2

theorem RuntimeRecoveryState.exists_of_isIdle {s : RuntimeRecoveryState} (h : s.isIdle = true) :
    ∃ generation, s = .idle generation := by
  cases s with
  | idle generation => exact ⟨generation, rfl⟩
  | stream | httpFallback | failed => cases h

/-- The second state is the first one or a later one. -/
inductive Follows : RuntimeRecoveryState → RuntimeRecoveryState → Prop
  | refl (s : RuntimeRecoveryState) : Follows s s
  | raised {generation : Nat} {startedAt : Number} {reason : String} {t t' : Option Number} :
      TargetLe t t' →
      Follows (.stream generation startedAt reason t) (.stream generation startedAt reason t')
  | phase {s s' : RuntimeRecoveryState} :
      s.generation = s'.generation → s.rank < s'.rank → Follows s s'
  | newer {s s' : RuntimeRecoveryState} : s.generation < s'.generation → Follows s s'

namespace Follows

variable {s s' s'' : RuntimeRecoveryState}

theorem generation_le (h : Follows s s') : s.generation ≤ s'.generation := by
  cases h with
  | refl | raised => exact le_rfl
  | phase hgen _ => exact hgen.le
  | newer hlt => exact hlt.le

theorem rank_le (h : Follows s s') (hgen : s'.generation = s.generation) : s.rank ≤ s'.rank := by
  cases h with
  | refl | raised => exact le_rfl
  | phase _ hrank => exact hrank.le
  | newer hlt => omega

theorem trans (h : Follows s s') (h' : Follows s' s'') : Follows s s'' := by
  cases h with
  | refl => exact h'
  | newer hlt => exact .newer (hlt.trans_le h'.generation_le)
  | phase hgen hrank =>
    rcases Nat.eq_or_lt_of_le h'.generation_le with heq | hlt
    · exact .phase (hgen.trans heq) (hrank.trans_le (h'.rank_le heq.symm))
    · exact .newer (hgen ▸ hlt)
  | raised hle =>
    cases h' with
    | refl => exact .raised hle
    | raised hle' => exact .raised (hle.trans hle')
    | phase hgen hrank => exact .phase hgen hrank
    | newer hlt => exact .newer hlt

/-- A state of the stream phase comes from one of the same generation with an earlier target, or
from an older generation. -/
theorem of_stream {generation : Nat} {t' : Option Number}
    (h : Follows s (.stream generation startedAt reason t')) (hgen : s.generation = generation) :
    ∃ t, s = .stream generation startedAt reason t ∧ (t = t' ∨ TargetLe t t') := by
  cases h with
  | refl => exact ⟨t', rfl, .inl rfl⟩
  | raised hle => exact ⟨_, rfl, .inr hle⟩
  | phase _ hrank => exact absurd hrank (Nat.not_lt_zero _)
  | newer hlt => exact absurd hgen hlt.ne

end Follows

/-! ### The machine -/

/-- The recovery state with the timers that end its phases. -/
structure RecoveryCore where
  recovery : RuntimeRecoveryState
  deadline : Option Nat
  fallback : Option RuntimeFallback

/-- The recovery machine of a client. -/
def RuntimeClient.core (c : RuntimeClient) : RecoveryCore :=
  ⟨c.recovery, c.runtimeRecoveryDeadlineTimer, c.activeRuntimeFallback⟩

namespace RecoveryCore

/-- Which timers are armed in which phase. -/
def Armed (k : RecoveryCore) : Prop :=
  match k.recovery with
  | .idle _ => k.deadline = none ∧ k.fallback = none
  | .stream generation startedAt _ target =>
    k.deadline = some generation ∧ k.fallback = none ∧
      isRuntimeRecoveryTime startedAt = true ∧ ValidTarget target
  | .httpFallback generation _ _ =>
    k.deadline = none ∧ ∃ phase, k.fallback = some { generation, phase }
  | .failed generation _ =>
    k.fallback = none ∧ ∀ armed, k.deadline = some armed → armed = generation

/-- What `scheduleRuntimeRecoveryDeadline` does to the machine. -/
def arm (k : RecoveryCore) : RecoveryCore :=
  match k.recovery with
  | .stream generation .. => { k with deadline := k.deadline.or (some generation) }
  | _ => k

/-- What `requestRuntimeRecovery` does to the machine. -/
def request (k : RecoveryCore) (now : Number) (reason : String) (target : Option Number) :
    RecoveryCore :=
  let next := beginRuntimeRecovery k.recovery now reason target
  arm ⟨next, k.deadline, if k.recovery.isIdle && !next.isIdle then none else k.fallback⟩

/-- What `failRuntimeFallbackGeneration` does to the machine. -/
def fail (k : RecoveryCore) (generation : Nat) (error : String) : RecoveryCore :=
  if k.recovery.isRecovering && k.recovery.generation = generation then
    { k with recovery := .failed generation error }
  else k

/-- The machine moved forward, has the timers of its phase, and did not become idle. -/
structure Moved (k k' : RecoveryCore) : Prop where
  follows : Follows k.recovery k'.recovery
  armed : k'.Armed
  idle : k'.recovery.isIdle = true → k.recovery.isIdle = true

theorem Moved.same (h : k.Armed) : Moved k k := ⟨.refl _, h, id⟩

/-- Timers may change while the state stays. -/
theorem Moved.kept {s : RuntimeRecoveryState} {deadline : Option Nat}
    {fallback : Option RuntimeFallback} (hrec : k.recovery = s)
    (h : Armed ⟨s, deadline, fallback⟩) : Moved k ⟨s, deadline, fallback⟩ := by
  subst hrec
  exact ⟨.refl _, h, id⟩

theorem Moved.failed {s : RuntimeRecoveryState} (hrec : k.recovery = s) (hrank : s.rank < 2)
    (error : String) {deadline : Option Nat}
    (h : ∀ armed, deadline = some armed → armed = s.generation) :
    Moved k ⟨.failed s.generation error, deadline, none⟩ := by
  subst hrec
  exact ⟨.phase rfl hrank, ⟨rfl, h⟩, fun hidle => nomatch hidle⟩

theorem request_moved (h : k.Armed) (now : Number) (reason : String) (target : Option Number) :
    Moved k (k.request now reason target) := by
  obtain ⟨recovery, deadline, fallback⟩ := k
  cases recovery with
  | idle generation =>
    obtain ⟨rfl, rfl⟩ : deadline = none ∧ fallback = none := h
    unfold request beginRuntimeRecovery
    dsimp only
    split
    · exact .same ⟨rfl, rfl⟩
    · rename_i hnow
      exact ⟨.newer (Nat.lt_succ_self generation),
        ⟨rfl, rfl, by simpa using hnow, validTarget_filter target⟩, fun _ => rfl⟩
  | stream generation startedAt active activeTarget =>
    obtain ⟨rfl, rfl, hstarted, htarget⟩ : deadline = some generation ∧ fallback = none ∧
      isRuntimeRecoveryTime startedAt = true ∧ ValidTarget activeTarget := h
    -- a request during the stream phase can only raise the target
    unfold request beginRuntimeRecovery
    dsimp only
    split
    · exact .same ⟨rfl, rfl, hstarted, htarget⟩
    · obtain ⟨hvalid, hle⟩ := raiseTarget_spec htarget (validTarget_filter target)
      exact ⟨.raised hle, ⟨rfl, rfl, hstarted, hvalid⟩, fun hidle => nomatch hidle⟩
  | httpFallback | failed => exact .same h

end RecoveryCore

namespace RuntimeClient

open RuntimeRecoveryState RecoveryCore

variable {c : RuntimeClient}

section

variable {generation : Nat}

/-! ### The invariant in each phase -/

theorem armed_idle (hrec : c.recovery = .idle generation) :
    c.core.Armed ↔ c.runtimeRecoveryDeadlineTimer = none ∧ c.activeRuntimeFallback = none := by
  simp [RecoveryCore.Armed, core, hrec]

theorem armed_stream (hrec : c.recovery = .stream generation startedAt reason target) :
    c.core.Armed ↔ c.runtimeRecoveryDeadlineTimer = some generation ∧
      c.activeRuntimeFallback = none ∧ isRuntimeRecoveryTime startedAt = true ∧
      ValidTarget target := by
  simp [RecoveryCore.Armed, core, hrec]

theorem armed_httpFallback (hrec : c.recovery = .httpFallback generation startedAt reason) :
    c.core.Armed ↔ c.runtimeRecoveryDeadlineTimer = none ∧
      ∃ phase, c.activeRuntimeFallback = some { generation, phase } := by
  simp [RecoveryCore.Armed, core, hrec]

theorem armed_failed (hrec : c.recovery = .failed generation reason) :
    c.core.Armed ↔ c.activeRuntimeFallback = none ∧
      ∀ armed, c.runtimeRecoveryDeadlineTimer = some armed → armed = generation := by
  simp [RecoveryCore.Armed, core, hrec]

theorem fallback_none_or (harmed : c.core.Armed) : c.activeRuntimeFallback = none ∨
    ∃ generation startedAt reason, c.recovery = .httpFallback generation startedAt reason := by
  cases hrec : c.recovery with
  | idle generation => exact .inl ((armed_idle hrec).1 harmed).2
  | stream generation startedAt reason target => exact .inl ((armed_stream hrec).1 harmed).2.1
  | failed generation reason => exact .inl ((armed_failed hrec).1 harmed).1
  | httpFallback generation startedAt reason => exact .inr ⟨_, _, _, rfl⟩

/-! ### What the functions do to the machine -/

variable (c)

@[simp] theorem core_requestLegacyResync (reason : ResyncReason) :
    (c.requestLegacyResync reason).core = c.core := by
  unfold requestLegacyResync
  split
  · rfl
  · split
    · rfl
    · rfl

theorem core_resetAckFor (streamId : Option String) : (c.resetAckFor streamId).core = c.core := by
  unfold resetAckFor
  split
  · rfl
  · rfl

theorem core_scheduleRuntimeRecoveryDeadline :
    c.scheduleRuntimeRecoveryDeadline.core = c.core.arm := by
  unfold scheduleRuntimeRecoveryDeadline RecoveryCore.arm core
  cases hrec : c.recovery with
  | stream generation startedAt active target =>
    cases htimer : c.runtimeRecoveryDeadlineTimer with
    | none => rfl
    | some armed => simp [hrec, htimer]
  | idle | httpFallback | failed => simp [hrec]

@[simp] theorem core_requestRuntimeRecovery (now : Number) (reason : String)
    (target : Option Number) (sendResume : Bool) :
    (c.requestRuntimeRecovery now reason target sendResume).core =
      c.core.request now reason target := by
  unfold requestRuntimeRecovery
  cases hrec : c.recovery with
  | idle generation =>
    cases hnext : beginRuntimeRecovery (.idle generation) now reason target with
    | stream next startedAt active raised =>
      dsimp only
      have hcore : (scheduleRuntimeRecoveryDeadline { c with
          activeRuntimeFallback := none
          recovery := .stream next startedAt active raised }).core =
          c.core.request now reason target := by
        rw [core_scheduleRuntimeRecoveryDeadline]
        simp [request, core, hrec, hnext, isIdle]
      split
      · exact hcore
      · exact hcore
    | idle next =>
      rw [core_scheduleRuntimeRecoveryDeadline]
      simp [request, core, hrec, hnext, isIdle]
    | httpFallback | failed =>
      unfold beginRuntimeRecovery at hnext
      dsimp only at hnext
      split at hnext <;> cases hnext
  | stream | httpFallback | failed =>
    rw [core_scheduleRuntimeRecoveryDeadline]
    simp [request, core, hrec, isIdle]

theorem core_failRuntimeFallbackGeneration (generation : Nat) (error : String) :
    (c.failRuntimeFallbackGeneration generation error).core = c.core.fail generation error := by
  unfold failRuntimeFallbackGeneration fail
  show _ = if c.recovery.isRecovering && c.recovery.generation = generation then _ else _
  by_cases h : (c.recovery.isRecovering && c.recovery.generation = generation) = true
  · obtain ⟨hrec, hgen⟩ : c.recovery.isRecovering = true ∧ c.recovery.generation = generation := by
      simpa using h
    simp [core, send, failRuntimeRecovery, hrec, hgen]
  · rw [if_neg h, if_neg h]

variable {c}

/-! ### The stream deadline -/

theorem advanceRuntimeRecoveryDeadline_passed {x y : ℚ}
    (hx : isRuntimeRecoveryTime (.finite x) = true) (hxy : x + runtimeRecoveryDeadlineMs ≤ y) :
    advanceRuntimeRecoveryDeadline (.stream generation (.finite x) reason target) (.finite y) =
      .httpFallback generation (.finite x) reason := by
  have hnonneg : 0 ≤ x := by
    simpa [isRuntimeRecoveryTime, Number.le, Number.lt, Number.strictEq, Number.isFinite,
      ← le_iff_lt_or_eq] using hx
  have hms : (0 : ℚ) < runtimeRecoveryDeadlineMs := by norm_num [runtimeRecoveryDeadlineMs]
  have hy : isRuntimeRecoveryTime (.finite y) = true := by
    have : 0 < y := by linarith
    simp [isRuntimeRecoveryTime, Number.le, Number.lt, Number.isFinite, this]
  have hlt : ¬y < x := by linarith
  have hsub : ¬y - x < runtimeRecoveryDeadlineMs := by linarith
  simp [advanceRuntimeRecoveryDeadline, hx, hy, Number.lt, Number.sub, hlt, hsub]

theorem advanceRuntimeRecoveryDeadline_stream (generation : Nat) (startedAt now : Number)
    (reason : String) (target : Option Number) :
    advanceRuntimeRecoveryDeadline (.stream generation startedAt reason target) now =
        .stream generation startedAt reason target ∨
      advanceRuntimeRecoveryDeadline (.stream generation startedAt reason target) now =
        .httpFallback generation startedAt reason := by
  unfold advanceRuntimeRecoveryDeadline
  dsimp only
  split
  · exact .inl rfl
  · exact .inr rfl

section

variable (hrec : c.recovery = .stream generation startedAt reason target)
  (htimer : c.runtimeRecoveryDeadlineTimer = some generation)
include hrec htimer

theorem onRecoveryDeadline_early
    (hadvance : advanceRuntimeRecoveryDeadline (.stream generation startedAt reason target) now =
      .stream generation startedAt reason target) : c.onRecoveryDeadline now = c := by
  cases c
  subst hrec htimer
  simp [onRecoveryDeadline, hadvance, scheduleRuntimeRecoveryDeadline]

theorem onRecoveryDeadline_due (hfallback : c.activeRuntimeFallback = none)
    (hadvance : advanceRuntimeRecoveryDeadline (.stream generation startedAt reason target) now =
      .httpFallback generation startedAt reason) : (c.onRecoveryDeadline now).core =
      ⟨.httpFallback generation startedAt reason, none, some { generation, phase := .request }⟩ := by
  cases c
  subst hrec htimer hfallback
  simp [onRecoveryDeadline, hadvance, runRuntimeFallback, core]

end

theorem onRecoveryDeadline_unarmed (h : c.runtimeRecoveryDeadlineTimer = none) (now : Number) :
    c.onRecoveryDeadline now = c := by
  simp [onRecoveryDeadline, h]

/-! ### The fallback -/

theorem settleFallback_of_none (h : c.activeRuntimeFallback = none) :
    c.settleFallback generation = c := by
  simp [settleFallback, h]

theorem applyFallback_core {phase : RuntimeFallbackPhase}
    (hrec : c.recovery = .httpFallback generation startedAt reason)
    (hfallback : c.activeRuntimeFallback = some { generation, phase })
    (response : RuntimeOverview) :
    (∃ error, (c.applyFallback generation response).core = c.core.fail generation error) ∨
      (c.applyFallback generation response).core =
        { c.core with fallback := some { generation, phase := .readyBarrier } } := by
  unfold applyFallback
  rw [hrec]
  dsimp only
  rw [if_neg (not_not.2 rfl)]
  split
  · exact .inl ⟨_, core_failRuntimeFallbackGeneration c generation _⟩
  split
  · left
    refine ⟨"invalid runtime fallback cursor", ?_⟩
    rw [core_failRuntimeFallbackGeneration, ← core_resetAckFor c (some response.runtimeStreamId)]
    rfl
  · right
    obtain ⟨hrec', htimer', hfallback'⟩ :=
      RecoveryCore.mk.inj (core_resetAckFor c (some response.runtimeStreamId))
    simp [armReadyBarrier, scheduleAck, flushAck, send, core, hrec', htimer', hfallback', hfallback]

theorem failRuntimeFallbackGeneration_of_not {error : String}
    (h : c.recovery.isRecovering = false ∨ c.recovery.generation ≠ generation) :
    c.failRuntimeFallbackGeneration generation error = c := by
  unfold failRuntimeFallbackGeneration
  rcases h with h | h
  · simp [h]
  · simp [h]

theorem applyFallback_of_not {response : RuntimeOverview}
    (h : c.recovery.rank ≠ 1 ∨ c.recovery.generation ≠ generation) :
    c.applyFallback generation response = c := by
  unfold applyFallback
  split
  · rename_i current startedAt reason hrec
    rw [hrec] at h
    have hne : current ≠ generation := h.resolve_left (not_not.2 rfl)
    rw [if_pos hne]
  · rfl

theorem onFallbackResponse_eq_self (hok : c.recovery.rank ≠ 1 ∨ c.recovery.generation ≠ generation)
    (herror : c.recovery.isRecovering = false ∨ c.recovery.generation ≠ generation)
    (hsettled : c.settleFallback generation = c) (response : Except String RuntimeOverview) :
    c.onFallbackResponse generation response = c := by
  cases response with
  | ok response =>
    show (c.applyFallback generation response).settleFallback generation = c
    rw [applyFallback_of_not hok, hsettled]
  | error message =>
    show (c.failRuntimeFallbackGeneration generation message).settleFallback generation = c
    rw [failRuntimeFallbackGeneration_of_not herror, hsettled]

theorem onFallbackDeadline_of_none (h : c.activeRuntimeFallback = none) :
    c.onFallbackDeadline = c := by
  simp [onFallbackDeadline, h]

/-! ### Events -/

/-- What an event does to the machine. -/
inductive CoreMove (c : RuntimeClient) : Event → RecoveryCore → Prop
  | moved {event : Event} {k : RecoveryCore} : c.core.Moved k → CoreMove c event k
  /-- A ready that ends a recovery names the applied cursor. -/
  | finished (now : Number) {streamId : String} {version : Number} :
      c.recovery.isRecovering = true → c.getAppliedRuntimeCursor = some { streamId, version } →
      CoreMove c (.message now (.ready (some streamId) (some version)))
        ⟨.idle c.recovery.generation, none, none⟩

theorem CoreMove.follows (h : CoreMove c event k) : Follows c.recovery k.recovery ∧ k.Armed := by
  cases h with
  | moved h => exact ⟨h.follows, h.armed⟩
  | finished _ hrecovering _ =>
    refine ⟨?_, rfl, rfl⟩
    cases hrec : c.recovery with
    | stream generation startedAt reason target => exact .phase rfl Nat.zero_lt_two
    | httpFallback generation startedAt reason => exact .phase rfl Nat.one_lt_two
    | idle | failed => simp [hrec, isRecovering] at hrecovering

theorem applyRuntimeRecoveryReady_complete {state next : RuntimeRecoveryState}
    {cursor ready : Option RuntimeCursor} {applied : RuntimeCursor}
    (h : applyRuntimeRecoveryReady state cursor ready = .complete next applied) :
    cursor = some applied ∧ ready = some applied ∧
      (state.isRecovering = true ∧ next = .idle state.generation ∨
        state.isIdle = true ∧ next = state) := by
  unfold applyRuntimeRecoveryReady at h
  split at h
  · cases h
  · rename_i cursor' ready' hfailed
    split at h
    · cases h
    split at h
    · cases h
    split at h
    · cases h
    split at h
    · cases h
    -- every comparison passed
    rename_i hstream hversion
    obtain ⟨rfl, rfl⟩ := RuntimeReadyDecision.complete.inj h
    have hready : ready' = cursor' := by
      obtain ⟨readyStream, readyVersion⟩ := ready'
      obtain ⟨cursorStream, cursorVersion⟩ := cursor'
      have hs : readyStream = cursorStream := not_not.1 hstream
      have hv : readyVersion = cursorVersion := Number.eq_of_strictEq (by simpa using hversion)
      rw [hs, hv]
    refine ⟨rfl, congrArg some hready, ?_⟩
    cases state with
    | idle generation => exact .inr ⟨rfl, rfl⟩
    | stream | httpFallback => exact .inl ⟨rfl, rfl⟩
    | failed generation reason => exact absurd rfl (hfailed generation reason)
  · cases h

variable (harmed : c.core.Armed)
include harmed

theorem CoreMove.kept {c' : RuntimeClient} (h : c'.core = c.core) : CoreMove c event c'.core := by
  rw [h]
  exact .moved (.same harmed)

theorem CoreMove.requested {sendResume : Bool} :
    CoreMove c event (c.requestRuntimeRecovery now reason target sendResume).core := by
  rw [core_requestRuntimeRecovery]
  exact .moved (request_moved harmed now reason target)

variable (now)

section

variable (runtimeStreamId : Option String) (runtimeVersion : Option Number)

theorem onStreamReady_move : CoreMove c (.message now (.ready runtimeStreamId runtimeVersion))
      (c.onStreamReady now runtimeStreamId runtimeVersion).core := by
  unfold onStreamReady
  dsimp only
  split
  · split
    · exact .requested harmed
    · exact .kept harmed rfl
  · rename_i next applied hcomplete
    obtain ⟨hcursor, hready, hstate⟩ := applyRuntimeRecoveryReady_complete hcomplete
    -- the message carries both parts of the cursor
    obtain ⟨rfl, rfl⟩ : runtimeStreamId = some applied.streamId ∧
        runtimeVersion = some applied.version := by
      cases runtimeStreamId with
      | none => cases hready
      | some streamId =>
        cases runtimeVersion with
        | none => cases hready
        | some version => rw [← Option.some.inj hready]; exact ⟨rfl, rfl⟩
    rcases hstate with ⟨hrecovering, rfl⟩ | ⟨hidle, rfl⟩
    · have hmove := CoreMove.finished now hrecovering hcursor
      simpa [core, isIdle, hrecovering, scheduleAck, flushAck] using hmove
    · -- an idle client has no timer that the ready could clear
      obtain ⟨generation, hrec⟩ := exists_of_isIdle hidle
      apply CoreMove.kept harmed
      obtain ⟨htimer, hfallback⟩ := (armed_idle hrec).1 harmed
      simp [core, scheduleAck, flushAck, hrec, htimer, hfallback]

theorem onReady_move : CoreMove c (.message now (.ready runtimeStreamId runtimeVersion))
      (c.onReady now runtimeStreamId runtimeVersion).core := by
  have hlegacy : ∀ candidate, (c.onLegacyReady candidate runtimeVersion).core = c.core := by
    intro candidate
    unfold onLegacyReady
    lift_lets
    intro hasExactLegacyReady
    split
    · exact core_requestLegacyResync c _
    · split
      · rfl
      · rfl
  unfold onReady
  split
  · split
    · exact .requested harmed
    · exact .kept harmed (core_requestLegacyResync c _)
  · dsimp only
    split
    · exact onStreamReady_move now harmed runtimeStreamId runtimeVersion
    · exact .kept harmed (hlegacy _)

end

theorem onDelta_move (messageType : RuntimeDeltaMessageType)
    (payload : RuntimeDeltaEnvelope) (merge : RuntimeRecords → RuntimeRecords) :
    CoreMove c event (c.onDelta now messageType payload merge).core := by
  unfold onDelta
  split
  · exact .kept harmed rfl
  split
  · split
    · split
      · exact .requested harmed
      · exact .kept harmed (core_requestLegacyResync c _)
    · exact .kept harmed rfl
    · exact .kept harmed rfl
    · split
      · exact .kept harmed rfl
      · exact .kept harmed rfl
    · exact .kept harmed rfl
  · exact .requested harmed
  · exact .requested harmed

theorem onSnapshot_move (version : Option Number)
    (runtimeStreamId : Option String) (snapshot : RuntimeRecords) :
    CoreMove c event (c.onSnapshot now version runtimeStreamId snapshot).core := by
  unfold onSnapshot
  dsimp only
  split
  · exact .kept harmed rfl
  split
  · exact .requested harmed
  split
  · exact .requested harmed
  split
  · exact .kept harmed rfl
  apply CoreMove.kept harmed
  split
  · exact core_resetAckFor c _
  · split
    · rfl
    · rfl

theorem onMessage_move (m : RuntimeMessage) :
    CoreMove c (.message now m) (c.onMessage now m).core := by
  cases m with
  | ready runtimeStreamId runtimeVersion =>
    exact onReady_move now harmed runtimeStreamId runtimeVersion
  | snapshot version runtimeStreamId snapshot =>
    exact onSnapshot_move now harmed version runtimeStreamId snapshot
  | runtimeReplay replay delta =>
    show CoreMove c _ (c.onReplay now replay delta).core
    unfold onReplay
    split
    · split
      · exact .requested harmed
      · exact .kept harmed rfl
    · exact .requested harmed
  | runtimeDelta | snapshotDelta => exact onDelta_move now harmed _ _ _
  | resyncRequired reason stream targetVersion =>
    show CoreMove c _ (c.onResyncRequired now reason stream targetVersion).core
    unfold onResyncRequired
    split
    · exact .requested harmed
    · exact .kept harmed rfl
  | malformed messageType rawRuntimeStreamId rawVersion =>
    show CoreMove c _ (c.onMalformed now messageType rawRuntimeStreamId rawVersion).core
    unfold onMalformed
    dsimp only
    split
    · exact .requested harmed
    · split
      · exact .kept harmed rfl
      · exact .kept harmed (core_requestLegacyResync c _)

theorem onRecoveryDeadline_moved : c.core.Moved (c.onRecoveryDeadline now).core := by
  cases hrec : c.recovery with
  | stream generation startedAt reason target =>
    obtain ⟨htimer, hfallback, -⟩ := (armed_stream hrec).1 harmed
    rcases advanceRuntimeRecoveryDeadline_stream generation startedAt now reason target with
      hadvance | hadvance
    · rw [onRecoveryDeadline_early hrec htimer hadvance]
      exact .same harmed
    · rw [onRecoveryDeadline_due hrec htimer hfallback hadvance]
      refine ⟨?_, ⟨rfl, .request, rfl⟩, fun hidle => nomatch hidle⟩
      rw [show c.core.recovery = _ from hrec]
      exact .phase rfl Nat.zero_lt_one
  | idle generation =>
    rw [onRecoveryDeadline_unarmed ((armed_idle hrec).1 harmed).1]
    exact .same harmed
  | httpFallback generation startedAt reason =>
    rw [onRecoveryDeadline_unarmed ((armed_httpFallback hrec).1 harmed).1]
    exact .same harmed
  | failed generation reason =>
    -- a timer that is still armed finds that its recovery has failed
    obtain ⟨hfallback, -⟩ := (armed_failed hrec).1 harmed
    have hcore : (c.onRecoveryDeadline now).core = ⟨.failed generation reason, none, none⟩ := by
      unfold onRecoveryDeadline
      split
      · rename_i htimer
        simp [core, hrec, hfallback, htimer]
      · simp [core, hrec, hfallback]
    rw [hcore]
    exact .kept hrec ⟨rfl, fun armed h => nomatch h⟩

theorem onFallbackResponse_of_ne
    (hne : c.recovery.generation ≠ generation) (response : Except String RuntimeOverview) :
    c.onFallbackResponse generation response = c := by
  apply onFallbackResponse_eq_self (.inr hne) (.inr hne)
  obtain hnone | ⟨current, startedAt, reason, hrec⟩ := fallback_none_or harmed
  · exact settleFallback_of_none hnone
  · obtain ⟨-, phase, hfallback⟩ := (armed_httpFallback hrec).1 harmed
    rw [hrec] at hne
    simp [settleFallback, hfallback, show current ≠ generation from hne]

theorem onFallbackResponse_active (hrec : c.recovery = .httpFallback generation startedAt reason)
    (response : Except String RuntimeOverview) :
    (∃ error, (c.onFallbackResponse generation response).core =
        ⟨.failed generation error, none, none⟩) ∨
      (c.onFallbackResponse generation response).core =
        ⟨c.recovery, none, some { generation, phase := .readyBarrier }⟩ := by
  obtain ⟨htimer, phase, hfallback⟩ := (armed_httpFallback hrec).1 harmed
  have hcore : c.core = ⟨.httpFallback generation startedAt reason, none,
      some { generation, phase }⟩ := by
    simp [core, hrec, htimer, hfallback]
  -- a failed client drops its fallback in the `finally` block
  have hfailed : ∀ (c' : RuntimeClient) (error : String), c'.core = c.core.fail generation error →
      (c'.settleFallback generation).core = ⟨.failed generation error, none, none⟩ := by
    intro c' error h
    have h' : c'.core = ⟨.failed generation error, none, some { generation, phase }⟩ := by
      rw [h, hcore]
      simp [fail, isRecovering, RuntimeRecoveryState.generation]
    obtain ⟨hrec', htimer', hfallback'⟩ := RecoveryCore.mk.inj h'
    simp [settleFallback, hrec', hfallback', core, htimer']
  unfold onFallbackResponse
  cases response with
  | error message =>
    exact .inl ⟨message, hfailed _ message (core_failRuntimeFallbackGeneration c generation message)⟩
  | ok response =>
    rcases applyFallback_core hrec hfallback response with ⟨error, h⟩ | h
    · exact .inl ⟨error, hfailed _ error h⟩
    right
    dsimp only
    generalize c.applyFallback generation response = c' at h
    rw [hcore] at h
    obtain ⟨hrec', -, hfallback'⟩ := RecoveryCore.mk.inj h
    have hsettled : c'.settleFallback generation = c' := by
      simp [settleFallback, hrec', hfallback']
    rw [hsettled, h, hrec]

theorem onFallbackResponse_moved (generation : Nat) (response : Except String RuntimeOverview) :
    c.core.Moved (c.onFallbackResponse generation response).core := by
  by_cases hgen : c.recovery.generation = generation
  swap
  · rw [onFallbackResponse_of_ne harmed hgen]
    exact .same harmed
  cases hrec : c.recovery with
  | httpFallback current startedAt reason =>
    obtain rfl : current = generation := by rw [← hgen, hrec]; rfl
    have hcurrent : c.core.recovery = .httpFallback current startedAt reason := hrec
    rcases onFallbackResponse_active harmed hrec response with ⟨error, h⟩ | h
    · rw [h]
      exact .failed hcurrent Nat.one_lt_two error fun armed h => nomatch h
    · rw [h, hrec]
      exact .kept hcurrent ⟨rfl, .readyBarrier, rfl⟩
  | idle | failed =>
    have hnone : c.activeRuntimeFallback = none := by
      obtain hnone | ⟨_, _, _, h⟩ := fallback_none_or harmed
      · exact hnone
      · cases hrec.symm.trans h
    rw [onFallbackResponse_eq_self (.inl (by rw [hrec]; nofun)) (.inl (by rw [hrec]; rfl))
      (settleFallback_of_none hnone)]
    exact .same harmed
  | stream current startedAt reason target =>
    obtain ⟨htimer, hfallback, -⟩ := (armed_stream hrec).1 harmed
    obtain rfl : current = generation := by rw [← hgen, hrec]; rfl
    cases response with
    | ok response =>
      show c.core.Moved ((c.applyFallback current response).settleFallback current).core
      rw [applyFallback_of_not (.inl (by simp [hrec, rank])), settleFallback_of_none hfallback]
      exact .same harmed
    | error message =>
      show c.core.Moved ((c.failRuntimeFallbackGeneration current message).settleFallback current).core
      have hfail : (c.failRuntimeFallbackGeneration current message).core =
          ⟨.failed current message, some current, none⟩ := by
        rw [core_failRuntimeFallbackGeneration]
        simp [fail, core, hrec, hfallback, htimer, isRecovering, RuntimeRecoveryState.generation]
      rw [settleFallback_of_none (congrArg RecoveryCore.fallback hfail), hfail]
      exact .failed (s := .stream current startedAt reason target) hrec Nat.zero_lt_two message
        fun armed h => (Option.some.inj h).symm

theorem onFallbackDeadline_active (hrec : c.recovery = .httpFallback generation startedAt reason) :
    ∃ error, c.onFallbackDeadline.core = ⟨.failed generation error, none, none⟩ := by
  obtain ⟨htimer, phase, hfallback⟩ := (armed_httpFallback hrec).1 harmed
  unfold onFallbackDeadline
  rw [hfallback]
  rw [core_failRuntimeFallbackGeneration]
  simp [fail, core, hrec, htimer, isRecovering, RuntimeRecoveryState.generation]

theorem onFallbackDeadline_moved : c.core.Moved c.onFallbackDeadline.core := by
  obtain hnone | ⟨generation, startedAt, reason, hrec⟩ := fallback_none_or harmed
  · rw [onFallbackDeadline_of_none hnone]
    exact .same harmed
  · obtain ⟨error, h⟩ := onFallbackDeadline_active harmed hrec
    rw [h]
    exact .failed (s := .httpFallback generation startedAt reason) hrec Nat.one_lt_two error
      fun armed h => nomatch h

/-! ### Runs -/

theorem step_move (event : Event) : CoreMove c event (c.step event).core := by
  cases event with
  | message now m => exact onMessage_move now harmed m
  | recoveryDeadline now => exact .moved (onRecoveryDeadline_moved now harmed)
  | fallbackResponse generation response =>
    exact .moved (onFallbackResponse_moved harmed generation response)
  | fallbackDeadline => exact .moved (onFallbackDeadline_moved harmed)
  | ackTimer =>
    show CoreMove c .ackTimer (if c.ack.timer then c.flushAck else c).core
    apply CoreMove.kept harmed
    split
    · rfl
    · rfl

/-- An event moves the recovery state forward and keeps its timer armed. -/
theorem step_follows (event : Event) :
    Follows c.recovery (c.step event).recovery ∧ (c.step event).core.Armed :=
  (step_move harmed event).follows

/-- So does every sequence of events. -/
theorem run_follows (events : List Event) :
    Follows c.recovery (events.foldl step c).recovery ∧ (events.foldl step c).core.Armed := by
  induction events generalizing c with
  | nil => exact ⟨.refl _, harmed⟩
  | cons event events ih =>
    obtain ⟨hstep, harmed'⟩ := step_follows harmed event
    obtain ⟨hrun, harmed''⟩ := ih harmed'
    exact ⟨hstep.trans hrun, harmed''⟩

theorem step_isIdle (hrecovering : c.recovery.isRecovering = true)
    (hidle : (c.step event).recovery.isIdle = true) :
    ∃ now streamId version, event = .message now (.ready (some streamId) (some version)) ∧
      c.getAppliedRuntimeCursor = some { streamId, version } := by
  have hmove := step_move harmed event
  generalize hk : (c.step event).core = k at hmove
  cases hmove with
  | finished now _ hcursor => exact ⟨now, _, _, rfl, hcursor⟩
  | moved h =>
    -- the client was idle already, so it was not recovering
    obtain ⟨generation, hrec⟩ := exists_of_isIdle
      (h.idle (by rw [← hk]; exact hidle))
    rw [show c.recovery = _ from hrec] at hrecovering
    cases hrecovering

theorem step_recoveryDeadline_passed {x y : ℚ}
    (hrec : c.recovery = .stream generation (.finite x) reason target)
    (hxy : x + runtimeRecoveryDeadlineMs ≤ y) : (c.step (.recoveryDeadline (.finite y))).recovery =
      .httpFallback generation (.finite x) reason := by
  obtain ⟨htimer, hfallback, hstarted, -⟩ := (armed_stream hrec).1 harmed
  exact congrArg RecoveryCore.recovery (onRecoveryDeadline_due hrec htimer hfallback
    (advanceRuntimeRecoveryDeadline_passed hstarted hxy))

theorem not_stream_after_deadline {x y : ℚ}
    (hrec : c.recovery = .stream generation (.finite x) reason target)
    (hxy : x + runtimeRecoveryDeadlineMs ≤ y) (before after : List Event) {reason' : String}
    {target' : Option Number} :
    ((before ++ .recoveryDeadline (.finite y) :: after).foldl step c).recovery ≠
      .stream generation startedAt reason' target' := by
  intro hstream
  rw [List.foldl_append, List.foldl_cons] at hstream
  obtain ⟨hbefore, harmed'⟩ := run_follows harmed before
  generalize before.foldl step c = c' at hstream hbefore harmed'
  obtain ⟨hfired, harmed''⟩ := step_follows harmed' (.recoveryDeadline (.finite y))
  obtain ⟨hafter, -⟩ := run_follows harmed'' after
  rw [hstream] at hafter
  have hgen : c.recovery.generation = generation := by rw [hrec]; rfl
  -- the generations in between are all the same one
  have h₁ := hbefore.generation_le
  have h₂ := hfired.generation_le
  have h₃ : _ ≤ generation := hafter.generation_le
  obtain ⟨t, ht, -⟩ := hafter.of_stream (by omega)
  rw [ht] at hfired
  obtain ⟨t', ht', -⟩ := hfired.of_stream (by omega)
  -- so the recovery was in its stream phase when the timer fired, with the same start
  rw [ht'] at hbefore
  obtain ⟨t'', ht'', -⟩ := hbefore.of_stream hgen
  obtain ⟨-, rfl, -, -⟩ := RuntimeRecoveryState.stream.inj (hrec.symm.trans ht'')
  rw [step_recoveryDeadline_passed harmed' ht' hxy] at ht
  cases ht

end

/-! ### Soundness -/

/-- The generation that an event belongs to: that of the timer or of the request behind it. -/
def Event.generation (c : RuntimeClient) : Event → Option Nat
  | .message _ _ => none
  | .recoveryDeadline _ => c.runtimeRecoveryDeadlineTimer
  | .fallbackResponse generation _ => some generation
  | .fallbackDeadline => c.activeRuntimeFallback.map fun token => token.generation
  | .ackTimer => none

theorem step_of_older (harmed : c.core.Armed) {generation : Nat}
    (hevent : event.generation c = some generation) (holder : generation < c.recovery.generation) :
    c.step event = c := by
  cases event with
  | message | ackTimer => cases hevent
  | fallbackResponse g response =>
    obtain rfl : g = generation := Option.some.inj hevent
    exact onFallbackResponse_of_ne harmed holder.ne' response
  | recoveryDeadline now =>
    have hevent : c.runtimeRecoveryDeadlineTimer = some generation := hevent
    exfalso
    cases hrec : c.recovery with
    | idle current => exact nomatch ((armed_idle hrec).1 harmed).1.symm.trans hevent
    | httpFallback current startedAt reason =>
      exact nomatch ((armed_httpFallback hrec).1 harmed).1.symm.trans hevent
    | stream current startedAt reason target =>
      obtain rfl := Option.some.inj (((armed_stream hrec).1 harmed).1.symm.trans hevent)
      rw [hrec] at holder
      exact absurd holder (lt_irrefl _)
    | failed current reason =>
      obtain rfl := ((armed_failed hrec).1 harmed).2 generation hevent
      rw [hrec] at holder
      exact absurd holder (lt_irrefl _)
  | fallbackDeadline =>
    obtain hnone | ⟨current, startedAt, reason, hrec⟩ := fallback_none_or harmed
    · exact onFallbackDeadline_of_none hnone
    · obtain ⟨-, phase, hfallback⟩ := (armed_httpFallback hrec).1 harmed
      rw [Event.generation, hfallback] at hevent
      obtain rfl : current = generation := Option.some.inj hevent
      rw [hrec] at holder
      exact absurd holder (lt_irrefl _)

/-- The client of a socket that has just been opened. -/
def Connected (c : RuntimeClient) : Prop :=
  c.recovery.isIdle = true ∧ c.runtimeRecoveryDeadlineTimer = none ∧ c.activeRuntimeFallback = none

theorem Connected.armed (h : Connected c) : c.core.Armed := by
  obtain ⟨hidle, htimer, hfallback⟩ := h
  obtain ⟨generation, hrec⟩ := exists_of_isIdle hidle
  exact (armed_idle hrec).2 ⟨htimer, hfallback⟩

/-- The client in the states that events can lead to. -/
abbrev Reached (c : RuntimeClient) (events : List Event) : Prop :=
  Run Connected (ActStep step fun _ _ => True) c events

/-- What recovery promises from a state on, whatever happens next. -/
structure RecoverySound (c : RuntimeClient) : Prop where
  /-- The generation never decreases. -/
  generation_le : ∀ events : List Event,
    c.recovery.generation ≤ (events.foldl step c).recovery.generation
  /-- Within a generation the target version never decreases, and once set it stays set. -/
  target_le : ∀ (events : List Event) (generation : Nat) (startedAt startedAt' : Number)
    (reason reason' : String) (target target' : Option Number),
    c.recovery = .stream generation startedAt reason target →
    (events.foldl step c).recovery = .stream generation startedAt' reason' target' →
    TargetLe target target'
  /-- Events of an older generation change nothing. -/
  older_ignored : ∀ (event : Event) (generation : Nat), event.generation c = some generation →
    generation < c.recovery.generation → c.step event = c
  /-- Only a ready that names the applied cursor ends a recovery. -/
  idle_by_ready : ∀ event : Event, c.recovery.isRecovering = true →
    (c.step event).recovery.isIdle = true →
    ∃ now streamId version, event = .message now (.ready (some streamId) (some version)) ∧
      c.getAppliedRuntimeCursor = some { streamId, version }
  /-- In the stream phase the deadline timer is armed. If it fires five seconds or more after the
  start, the recovery falls back if it is still in that phase, and never is in it again. -/
  stream_deadline : ∀ (generation : Nat) (startedAt : Number) (reason : String)
    (target : Option Number), c.recovery = .stream generation startedAt reason target →
    c.runtimeRecoveryDeadlineTimer = some generation ∧
    ∃ x, startedAt = .finite x ∧ ∀ y, x + runtimeRecoveryDeadlineMs ≤ y →
      (c.step (.recoveryDeadline (.finite y))).recovery =
        .httpFallback generation startedAt reason ∧
      ∀ (before after : List Event) (startedAt' : Number) (reason' : String)
        (target' : Option Number),
        ((before ++ .recoveryDeadline (.finite y) :: after).foldl step c).recovery ≠
          .stream generation startedAt' reason' target'
  /-- A timer that fires earlier leaves the client as it is, with the timer armed again. -/
  stream_early : ∀ (generation : Nat) (x y : ℚ) (reason : String) (target : Option Number),
    c.recovery = .stream generation (.finite x) reason target →
    y < x + runtimeRecoveryDeadlineMs → c.step (.recoveryDeadline (.finite y)) = c
  /-- In the fallback phase the fallback timer is armed, and firing it fails the recovery. -/
  fallback_deadline : ∀ (generation : Nat) (startedAt : Number) (reason : String),
    c.recovery = .httpFallback generation startedAt reason →
    (∃ phase, c.activeRuntimeFallback = some { generation, phase }) ∧
    ∃ error, (c.step .fallbackDeadline).recovery = .failed generation error

/-- The recovery machine is sound in every state that a sequence of events leads to. -/
theorem recovery_sound (c : RuntimeClient) (events : List Event) (hrun : Reached c events) :
    RecoverySound c := by
  have harmed : c.core.Armed := by
    refine hrun.invariant (P := fun c _ => c.core.Armed) ?_ ?_
    · intro c hc
      exact hc.armed
    · intro c _ _ c' _ harmed hstep
      obtain ⟨event, -, -, rfl⟩ := hstep
      exact (step_follows harmed event).2
  constructor
  case generation_le =>
    intro events
    exact (run_follows harmed events).1.generation_le
  case target_le =>
    intro events generation startedAt startedAt' reason reason' target target' hrec hlater
    have hfollows := (run_follows harmed events).1
    rw [hlater] at hfollows
    obtain ⟨t, ht, hle⟩ := hfollows.of_stream (by rw [hrec]; rfl)
    obtain ⟨-, -, -, rfl⟩ := RuntimeRecoveryState.stream.inj (hrec.symm.trans ht)
    rcases hle with rfl | hle
    · exact ((armed_stream hrec).1 harmed).2.2.2.le_self
    · exact hle
  case older_ignored =>
    intro event generation hevent holder
    exact step_of_older harmed hevent holder
  case idle_by_ready =>
    intro event hrecovering hidle
    exact step_isIdle harmed hrecovering hidle
  case stream_deadline =>
    intro generation startedAt reason target hrec
    obtain ⟨htimer, -, hstarted, -⟩ := (armed_stream hrec).1 harmed
    obtain ⟨x, rfl⟩ : ∃ x, startedAt = .finite x := by
      cases startedAt with
      | finite x => exact ⟨x, rfl⟩
      | infinity | negInfinity | nan => cases hstarted
    refine ⟨htimer, x, rfl, ?_⟩
    intro y hxy
    exact ⟨step_recoveryDeadline_passed harmed hrec hxy,
      fun before after _ _ _ => not_stream_after_deadline harmed hrec hxy before after⟩
  case stream_early =>
    intro generation x y reason target hrec hyx
    obtain ⟨htimer, -⟩ := (armed_stream hrec).1 harmed
    apply onRecoveryDeadline_early hrec htimer
    have hsub : y - x < runtimeRecoveryDeadlineMs := by linarith
    simp [advanceRuntimeRecoveryDeadline, Number.lt, Number.sub, hsub]
  case fallback_deadline =>
    intro generation startedAt reason hrec
    obtain ⟨error, h⟩ := onFallbackDeadline_active harmed hrec
    exact ⟨((armed_httpFallback hrec).1 harmed).2, error, congrArg RecoveryCore.recovery h⟩

/-- A client that misses its base snapshot starts a recovery at 1000 ms and falls back at 6000 ms. -/
theorem recovery_sound_fallback :
    Connected {} ∧
      ∃ c, Reached c [.message (.finite 1000) (.ready (some "s") (some (.finite 3)))] ∧
        c.recovery = .stream 1 (.finite 1000) "missing_base_snapshot" (some (.finite 3)) ∧
        (c.step (.recoveryDeadline (.finite 6000))).recovery =
          .httpFallback 1 (.finite 1000) "missing_base_snapshot" := by
  have hconnected : Connected {} := ⟨rfl, rfl, rfl⟩
  let event : Event := .message (.finite 1000) (.ready (some "s") (some (.finite 3)))
  have hreached : Reached (step {} event) [event] :=
    .step (.init hconnected) ⟨event, trivial, rfl, rfl⟩
  have hrec : (step {} event).recovery =
      .stream 1 (.finite 1000) "missing_base_snapshot" (some (.finite 3)) := by decide +kernel
  obtain ⟨-, x, hx, hdeadline⟩ := (recovery_sound _ _ hreached).stream_deadline _ _ _ _ hrec
  obtain rfl : 1000 = x := Number.finite.inj hx
  exact ⟨hconnected, _, hreached, hrec,
    (hdeadline 6000 (by norm_num [runtimeRecoveryDeadlineMs])).1⟩

end RuntimeClient

end Theia.Client
