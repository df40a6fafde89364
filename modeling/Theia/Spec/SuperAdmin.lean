import Theia.Native.AdminCalls
import Theia.Spec.AccountEdits

/-!
# There is always an active super admin

A guarded transaction relies on another active super admin, whom its count has seen. No other guarded
transaction can take that one away while the advisory lock is held, but the unguarded statements do
not take the lock: which statement a call uses is decided by what it read of its target before. A
stale choice, or a stale status in the row that is written back, can take away the last super admin.
-/

namespace Theia

open FMap

theorem AuthDB.mem_activeSuperAdmins_iff {db : AuthDB} {id : UUID} :
    id ∈ db.activeSuperAdmins ↔ db.userIsActiveSuperAdmin id = true := by
  rw [activeSuperAdmins, Finset.mem_filter]
  refine ⟨And.right, fun h => ⟨?_, h⟩⟩
  simp only [userIsActiveSuperAdmin, Bool.and_eq_true, Option.any_eq_true] at h
  obtain ⟨⟨user, huser, -⟩, -⟩ := h
  exact mem_dom_of_get huser

theorem AdminWrite.apply_keeps {db : AuthDB} {write : AdminWrite} {id : UUID}
    (h : db.userIsActiveSuperAdmin id = true)
    (hkeep : id = write.userID → write.takesAway = false) :
    (write.apply db).userIsActiveSuperAdmin id = true := by
  simp only [AuthDB.userIsActiveSuperAdmin, Bool.and_eq_true, decide_eq_true_eq] at h ⊢
  obtain ⟨hactive, hrole⟩ := h
  cases write with
  | update target next =>
    refine ⟨?_, hrole⟩
    by_cases hid : id = target
    · have hstatus := hkeep hid
      simp only [takesAway, decide_eq_false_iff_not, not_not] at hstatus
      simp [apply, hid, hstatus]
    · rw [apply, get_insert_ne _ _ hid]
      exact hactive
  | insertRole target roleID => exact ⟨hactive, Finset.mem_insert_of_mem hrole⟩
  | deleteRole target roleID =>
    refine ⟨hactive, Finset.mem_erase.2 ⟨?_, hrole⟩⟩
    intro heq
    obtain ⟨hid, hname⟩ := Prod.mk.inj heq
    have hother := hkeep hid
    simp [takesAway, ← hname] at hother

/-- The guard of the call has let it through. -/
def AdminCall.Passed (c : AdminCall) : Prop :=
  c.guarded = true ∧ (c.phase = .cleared ∨ ∃ row, c.phase = .written row)

theorem AdminCall.Passed.holdsLock {c : AdminCall} (h : c.Passed) : c.holdsLock = true := by
  obtain ⟨hguarded, hphase | ⟨row, hphase⟩⟩ := h
  · simp [AdminCall.holdsLock, hguarded, hphase]
  · simp [AdminCall.holdsLock, hguarded, hphase]

namespace AdminSystem

open AccountSystem

variable {auth : AuthService} {s s' s₀ : AdminSystem} {call : UUID} {c : AdminCall}

/-- A call whose statement is guarded, or takes nothing away from an active super admin. -/
def Spares (s : AdminSystem) (c : AdminCall) : Bool :=
  c.guarded || !c.write.takesAway || !s.db.userIsActiveSuperAdmin c.write.userID

/-- An unguarded statement that takes effect spares the active super admins. An update takes effect at
once, a change of roles with its commit. -/
def Op.sparesAdmins (s : AdminSystem) : Op → Bool
  | .write call =>
    match s.calls.get call with
    | some ⟨.update id next, guarded, phase⟩ => s.Spares ⟨.update id next, guarded, phase⟩
    | _ => true
  | .commit call =>
    match s.calls.get call with
    | some ⟨w, guarded, .written true⟩ => s.Spares ⟨w, guarded, .written true⟩
    | _ => true
  | _ => true

theorem keeps_of_spares (h : s.Spares c = true) (hguarded : c.guarded = false) {id : UUID}
    (hid : s.db.userIsActiveSuperAdmin id = true) :
    (c.write.apply s.db).userIsActiveSuperAdmin id = true := by
  apply AdminWrite.apply_keeps hid
  intro heq
  subst heq
  simpa [Spares, hguarded, hid] using h

/-! ### The invariant -/

/-- There is an active super admin, one transaction has the advisory lock, and a transaction that has
passed its guard to take one away leaves another. -/
structure GuardInv (s : AdminSystem) : Prop where
  present : ∃ id, s.db.userIsActiveSuperAdmin id = true
  sole : ∀ a c b d, s.calls.get a = some c → s.calls.get b = some d →
    c.holdsLock = true → d.holdsLock = true → a = b
  backed : ∀ call c, s.calls.get call = some c → c.Passed → c.write.takesAway = true →
    ∃ id, id ≠ c.write.userID ∧ s.db.userIsActiveSuperAdmin id = true

namespace GuardInv

open AdminCall

section

variable (h : GuardInv s)
include h

/-- A call goes on: it may have the lock when no other call has, and passes its guard with another
super admin. -/
theorem resume (hlock : c.holdsLock = true → ∀ other d, other ≠ call → s.calls.get other = some d →
      d.holdsLock = false)
    (hbacked : c.Passed → c.write.takesAway = true →
      ∃ id, id ≠ c.write.userID ∧ s.db.userIsActiveSuperAdmin id = true) :
    GuardInv (s.resume call c) where
  present := h.present
  sole := by
    intro a x b y hx hy hxl hyl
    simp only [AdminSystem.resume, get_insert] at hx hy
    split_ifs at hx with ha
    · split at hy
      · rename_i hb
        rw [ha, hb]
      · rename_i hb
        cases hx
        rw [hlock hxl b y hb hy] at hyl
        cases hyl
    · split at hy
      · cases hy
        rw [hlock hyl a x ha hx] at hxl
        cases hxl
      · exact h.sole a x b y hx hy hxl hyl
  backed := forall_get_insert hbacked fun other d _ => h.backed other d

theorem alone (hcall : s.calls.get call = some c) (hlock : c.holdsLock = true)
    (other : UUID) (d : AdminCall) (hne : other ≠ call) (hother : s.calls.get other = some d) :
    d.holdsLock = false := by
  cases hd : d.holdsLock with
  | false => rfl
  | true => exact absurd (h.sole other d call c hother hcall hd hlock) hne

theorem finish (call : UUID) : GuardInv (s.finish call) where
  present := h.present
  sole := by
    intro a x b y hx hy
    simp only [AdminSystem.finish, get_erase] at hx hy
    split at hx
    · cases hx
    · split at hy
      · cases hy
      · exact h.sole a x b y hx hy
  backed := by
    intro a x hx
    simp only [AdminSystem.finish, get_erase] at hx
    split at hx
    · cases hx
    · exact h.backed a x hx

theorem withDB {db : AuthDB}
    (hkeep : ∀ id, s.db.userIsActiveSuperAdmin id = true → db.userIsActiveSuperAdmin id = true) :
    GuardInv { s with db } where
  present := by
    obtain ⟨id, hid⟩ := h.present
    exact ⟨id, hkeep id hid⟩
  sole := h.sole
  backed := by
    intro a x hx hpassed htakes
    obtain ⟨id, hne, hid⟩ := h.backed a x hx hpassed htakes
    exact ⟨id, hne, hkeep id hid⟩

/-- A guarded transaction commits: the super admin it relies on is there, and no other transaction has
passed its guard. -/
theorem commit_guarded (hcall : s.calls.get call = some c) (hpassed : c.Passed) :
    GuardInv { s.finish call with db := c.write.apply s.db } where
  present := by
    cases htakes : c.write.takesAway with
    | true =>
      obtain ⟨id, hne, hid⟩ := h.backed call c hcall hpassed htakes
      exact ⟨id, AdminWrite.apply_keeps hid fun heq => absurd heq hne⟩
    | false =>
      obtain ⟨id, hid⟩ := h.present
      exact ⟨id, AdminWrite.apply_keeps hid fun _ => htakes⟩
  sole := (h.finish call).sole
  backed := by
    intro a x hx hx'
    simp only [AdminSystem.finish, get_erase] at hx
    split at hx
    · cases hx
    · rename_i hne
      have hfree := h.alone hcall hpassed.holdsLock a x hne hx
      rw [hx'.holdsLock] at hfree
      cases hfree

/-! ### Steps -/

theorem start (call : UUID) (request : AdminRequest) (count : Nat) (now : Time) :
    GuardInv (s.start auth call request count now) := by
  unfold AdminSystem.start
  split
  · apply h.resume
    · intro hlock
      simp [holdsLock] at hlock
    · intro hpassed
      obtain ⟨-, hphase | ⟨row, hphase⟩⟩ := hpassed
      · cases hphase
      · cases hphase
  · exact h

theorem lock (call : UUID) : GuardInv (s.lock call) := by
  unfold AdminSystem.lock
  split
  · split_ifs with hfree
    · obtain ⟨-, -, hfree⟩ := hfree
      rw [Bool.not_eq_true', any_eq_false_iff] at hfree
      apply h.resume
      · intro _ other d hne hother
        simpa [hne] using hfree other d hother
      · intro hpassed
        obtain ⟨-, hphase | ⟨row, hphase⟩⟩ := hpassed
        · cases hphase
        · cases hphase
    · exact h
  · exact h

theorem check (call : UUID) : GuardInv (s.check call) := by
  unfold AdminSystem.check
  split
  · rename_i c hcall
    split
    · rename_i hphase
      have hlock : c.holdsLock = true := by
        simp [holdsLock, hphase.1, hphase.2]
      apply h.resume
      · intro _
        exact h.alone hcall hlock
      -- a target that is not a super admin is not the one that is present
      intro hpassed htakes
      split at hpassed
      · obtain ⟨-, hcount | ⟨row, hcount⟩⟩ := hpassed
        · cases hcount
        · cases hcount
      · rename_i hguard
        split
        · rename_i hguard'
          exact absurd hguard' hguard
        have htakes : c.write.takesAway = true := by
          split at htakes
          · exact htakes
          · exact htakes
        obtain ⟨id, hid⟩ := h.present
        refine ⟨id, ?_, hid⟩
        intro heq
        exact hguard ⟨htakes, heq ▸ hid⟩
    · exact h
  · exact h

theorem count (call : UUID) : GuardInv (s.count call) := by
  unfold AdminSystem.count
  split
  · rename_i c hcall
    split
    · rename_i hphase
      split
      · exact h.finish call
      have hlock : c.holdsLock = true := by
        simp [holdsLock, hphase.1, hphase.2]
      apply h.resume
      · intro _
        exact h.alone hcall hlock
      · -- two are counted, so one of them is not the target
        intro _ _
        have hcard : 1 < s.db.activeSuperAdmins.card := by omega
        obtain ⟨id, hid, hne⟩ := Finset.exists_mem_ne hcard c.write.userID
        exact ⟨id, hne, AuthDB.mem_activeSuperAdmins_iff.1 hid⟩
    · exact h
  · exact h

theorem written (hcall : s.calls.get call = some c) (hmay : c.mayWrite = true)
    (row : Bool) : GuardInv (s.resume call { c with phase := .written row }) := by
  have hpassed : c.guarded = true → c.Passed := by
    intro hguarded
    simp only [mayWrite, hguarded, if_true, decide_eq_true_eq] at hmay
    exact ⟨hguarded, .inl hmay⟩
  apply h.resume
  · intro hlock
    simp only [holdsLock, Bool.and_eq_true] at hlock
    exact h.alone hcall (hpassed hlock.1).holdsLock
  · intro hnext htakes
    exact h.backed call c hcall (hpassed hnext.1) htakes

theorem write (call : UUID) (hop : (Op.write call).sparesAdmins s = true) :
    GuardInv (s.write call) := by
  unfold AdminSystem.write
  split
  · rename_i c hcall
    split
    · rename_i hmay
      split
      · rename_i id next hwrite
        unfold writeUpdate
        split
        · exact h
        split
        · exact h.finish call
        split
        · exact h.written hcall hmay true
        rename_i hguarded
        apply (h.finish call).withDB
        intro id' hid'
        refine keeps_of_spares ?_ (Bool.eq_false_iff.2 hguarded) hid'
        obtain ⟨cwrite, guarded, phase⟩ := c
        cases hwrite
        simpa [Op.sparesAdmins, hcall] using hop
      · split
        · exact h
        · split
          · exact h.finish call
          · exact h.written hcall hmay _
      · split
        · exact h.written hcall hmay false
        · split
          · exact h
          · exact h.written hcall hmay true
    · exact h
  · exact h

theorem commit (call : UUID) (hop : (Op.commit call).sparesAdmins s = true) :
    GuardInv (s.commit call) := by
  unfold AdminSystem.commit
  split
  · rename_i c hcall
    split
    · rename_i hphase
      cases hguarded : c.guarded with
      | true => exact h.commit_guarded hcall ⟨hguarded, .inr ⟨true, hphase⟩⟩
      | false =>
        apply (h.finish call).withDB
        intro id hid
        refine keeps_of_spares ?_ hguarded hid
        obtain ⟨cwrite, guarded, phase⟩ := c
        cases hphase
        simpa [Op.sparesAdmins, hcall] using hop
    · exact h.finish call
    · exact h
  · exact h

theorem step {op : Op} (hop : op.sparesAdmins s = true) : GuardInv (s.step auth op) := by
  cases op with
  | start call request count now => exact h.start call request count now
  | lock call => exact h.lock call
  | check call => exact h.check call
  | count call => exact h.count call
  | write call => exact h.write call hop
  | commit call => exact h.commit call hop
  | rollback call => exact h.finish call

end

end GuardInv

/-! ### Runs -/

/-- The runs in which no unguarded statement takes away an active super admin it meets. -/
abbrev SparingRun (auth : AuthService) (s₀ s : AdminSystem) (ops : List Op) : Prop :=
  Run (· = s₀) (ActStep (step auth) fun s op => op.sparesAdmins s = true) s ops

/-- In a run whose unguarded statements take no active super admin away there is always one. -/
theorem super_admin_remains {ops : List Op} (hcalls : s₀.calls = ∅)
    (h₀ : ∃ id, s₀.db.userIsActiveSuperAdmin id = true) (hrun : SparingRun auth s₀ s ops) :
    ∃ id, s.db.userIsActiveSuperAdmin id = true := by
  have hinv : GuardInv s := by
    apply hrun.act_invariant
    · refine ⟨h₀, ?_, ?_⟩
      · intro a c b d hc
        rw [hcalls] at hc
        cases hc
      · intro a c hc
        rw [hcalls] at hc
        cases hc
    · intro s op h hop
      exact h.step hop
  exact hinv.present

/-- A super admin, and a user without a role. -/
def twoUsers : AdminSystem where
  db.users := FMap.ofList [(1, named "ada"), (2, named "bob")]
  db.roles := [⟨roleSuperAdmin, "Super admin"⟩]
  db.userRoles := {(1, roleSuperAdmin)}
where
  named (name : String) : User :=
    { username := name, usernameNormalized := name, passwordHash := "" }

/-- A super admin who calls. -/
def superAdmin (id : UUID) : Option AuthenticatedUser :=
  some { id, roles := [⟨roleSuperAdmin, "Super admin"⟩], permissions :=
    [⟨"p1", "users:update"⟩, ⟨"p2", "users:disable"⟩, ⟨"p3", "roles:assign"⟩] }

/-- Bob is made a super admin. -/
def promoteBob : List Op :=
  [.start 101 (.assignAdminUserRole (superAdmin 1) ⟨2, roleSuperAdmin⟩) 1 2, .write 101, .commit 101]

/-- Bob disables ada, by a guarded transaction. -/
def disableAda : List Op :=
  [.start 102 (.setAdminUserStatus (superAdmin 2) ⟨1, .disabled⟩) 2 3, .lock 102, .check 102,
    .count 102, .write 102, .commit 102]

/-- Two super admins; each is then to be disabled by the other, and one transaction is refused. -/
def disableBoth : List Op :=
  promoteBob ++ .start 100 (.setAdminUserStatus (superAdmin 1) ⟨2, .disabled⟩) 1 1 ::
    disableAda ++ [.lock 100, .check 100, .count 100]

theorem super_admin_remains_disableBoth :
    ∃ id, (disableBoth.foldl (step plainAuth) twoUsers).db.userIsActiveSuperAdmin id =
      true :=
  have hrun : SparingRun plainAuth twoUsers _ disableBoth :=
    .of_ops (by decide +kernel)
  super_admin_remains rfl ⟨1, by decide +kernel⟩ hrun

/-- Bob is read before the promotion, so the statement that disables him is not a guarded one. -/
def disableBobAsRead : List Op :=
  .start 100 (.setAdminUserStatus (superAdmin 1) ⟨2, .disabled⟩) 1 1 ::
    promoteBob ++ disableAda ++ [.write 100]

theorem last_super_admin_disabled :
    twoUsers.db.userIsActiveSuperAdmin 1 = true ∧
      ∃ s, Run (· = twoUsers) (ActStep (step plainAuth) fun _ _ => True) s
          disableBobAsRead ∧
        ¬∃ id, s.db.userIsActiveSuperAdmin id = true := by
  refine ⟨by decide +kernel, _, .of_ops (by decide +kernel), ?_⟩
  intro ⟨id, hid⟩
  have hmem := AuthDB.mem_activeSuperAdmins_iff.2 hid
  exact Finset.notMem_empty id hmem

end AdminSystem

end Theia
