import Theia.Spec.AccountEdits

/-!
# A change of password ends the old sessions

`ChangeUserPassword` and `CompletePasswordReset` revoke the sessions that exist when they commit.
`RecordSuccessfulLogin` refuses a login whose password was changed, but the session is inserted by a
later statement, which checks nothing: a change that commits in between leaves it.
-/

namespace Theia

variable {session : AuthSession} {db db' : AuthDB}

namespace AccountSystem

variable {auth : AuthService} {bridge : BridgeService} {s s' s₀ : AccountSystem}

/-- Whether a login inserts its session before any change of the user's password that commits after
it loaded the user. -/
def Op.inTime (s : AccountSystem) : Op → Bool
  | .createSession call _ _ =>
    match s.calls.get call with
    | some (.loginRecorded userID since _) =>
      (s.changes.drop since).all fun change => decide (change.userID ≠ userID)
    | _ => true
  | _ => true

/-- The login of a session loaded its user before a change was committed; a session whose login is
not in the history is an old one. -/
def ObtainedBefore (s : AccountSystem) (sessionID : UUID) (change : Nat) : Prop :=
  (s.obtained.get sessionID).getD 0 ≤ change

instance (sessionID : UUID) (change : Nat) : Decidable (s.ObtainedBefore sessionID change) :=
  inferInstanceAs (Decidable (_ ≤ _))

/-- The sessions of earlier passwords are revoked, but for those that a change keeps. -/
def SessionsEnded (s : AccountSystem) : Prop :=
  ∀ i change, s.changes[i]? = some change → ∀ id session, s.db.sessions.get id = some session →
    session.userID = change.userID → s.ObtainedBefore id i → change.kept ≠ some id →
      session.revokedAt ≠ none

theorem AuthSession.refused_of_revoked (h : session.revokedAt ≠ none) (now : Time) :
    session.refused now = true := by
  simp [AuthSession.refused, h]

/-! ### Statements and sessions -/

theorem sessions_updateRow {id : UUID} {where_ : User → Bool} {set : User → User}
    (h : db.updateRow id where_ set = .ok db') : db'.sessions = db.sessions := by
  obtain ⟨_, -, -, rfl⟩ := AuthDB.updateRow_ok h
  rfl

theorem sessions_updateUser {id : UUID} {user : User} (h : db.updateUser id user = .ok db') :
    db'.sessions = db.sessions := by
  unfold AuthDB.updateUser at h
  split at h
  · cases h
  · exact sessions_updateRow h

/-- A session after a change of password: the user is the same, and a revocation stays. -/
structure Revoked (change : PasswordChange) (id : UUID) (before after : AuthSession) : Prop where
  userID : after.userID = before.userID
  stays : before.revokedAt ≠ none → after.revokedAt ≠ none
  ends : after.userID = change.userID → change.kept ≠ some id → after.revokedAt ≠ none

theorem sessions_changeUserPassword {userID id : UUID} {previousHash newHash : String}
    {kept : Option UUID} {time : Time}
    (h : db.changeUserPassword userID previousHash newHash kept time = .ok db')
    (hsession : db'.sessions.get id = some session) :
    ∃ before, db.sessions.get id = some before ∧ Revoked ⟨userID, kept⟩ id before session := by
  obtain ⟨updated, hupdated, h⟩ := Except.bind_eq_ok_iff.1 h
  cases h
  rw [FMap.get_map, sessions_updateRow hupdated, Option.map_eq_some_iff] at hsession
  obtain ⟨before, hbefore, rfl⟩ := hsession
  refine ⟨before, hbefore, ?_⟩
  split_ifs with hkeep
  · exact ⟨rfl, fun _ => by simp, fun _ _ => by simp⟩
  · -- a session of the user that is not touched was revoked before
    exact ⟨rfl, fun h => h, fun huser hkept hnone => hkeep ⟨huser, hnone, hkept⟩⟩

theorem sessions_completePasswordReset {id : UUID} {tokenHash passwordHash : String} {time : Time}
    {token : PasswordResetToken} (htoken : db.resetTokens.get tokenHash = some token)
    (h : db.completePasswordReset tokenHash passwordHash time = .ok db')
    (hsession : db'.sessions.get id = some session) : ∃ before, db.sessions.get id = some before ∧
      Revoked { userID := token.userID } id before session := by
  rw [AuthDB.completePasswordReset, htoken] at h
  dsimp only at h
  split at h
  · cases h
  obtain ⟨updated, hupdated, h⟩ := Except.bind_eq_ok_iff.1 h
  cases h
  rw [FMap.get_map, sessions_updateRow hupdated, Option.map_eq_some_iff] at hsession
  obtain ⟨before, hbefore, rfl⟩ := hsession
  refine ⟨before, hbefore, ?_⟩
  split_ifs with huser
  · exact ⟨rfl, fun _ => by simp, fun _ _ => by simp⟩
  · exact ⟨rfl, fun h => h, fun hsame => absurd hsame huser⟩

theorem createSession_ok {sessionID : UUID} (h : db.createSession sessionID session = .ok db') :
    db'.sessions = db.sessions.insert sessionID session := by
  unfold AuthDB.createSession at h
  split at h
  · cases h
  · cases h
    rfl

/-! ### Steps -/

namespace SessionsEnded

section

variable (h : SessionsEnded s)
include h

theorem of_same (hsessions : s'.db.sessions = s.db.sessions)
    (hchanges : s'.changes = s.changes) (hobtained : s'.obtained = s.obtained) :
    SessionsEnded s' := by
  intro i change hi id session hsession huser hbefore hkept
  rw [hchanges] at hi
  rw [hsessions] at hsession
  rw [ObtainedBefore, hobtained] at hbefore
  exact h i change hi id session hsession huser hbefore hkept

theorem commit {change : PasswordChange}
    (hchanges : s'.changes = s.changes ++ [change]) (hobtained : s'.obtained = s.obtained)
    (hsessions : ∀ {id session}, s'.db.sessions.get id = some session →
      ∃ before, s.db.sessions.get id = some before ∧ Revoked change id before session) :
    SessionsEnded s' := by
  intro i c hi id session hsession huser hbefore hkept
  obtain ⟨before, hget, hrevoked⟩ := hsessions hsession
  rw [hchanges] at hi
  obtain hlt | hge := Nat.lt_or_ge i s.changes.length
  · -- an earlier change
    rw [List.getElem?_append_left hlt] at hi
    rw [ObtainedBefore, hobtained] at hbefore
    exact hrevoked.stays (h i c hi id before hget (hrevoked.userID ▸ huser) hbefore hkept)
  · -- the change itself
    rw [List.getElem?_append_right hge, List.getElem?_singleton] at hi
    split at hi
    · cases hi
      exact hrevoked.ends huser hkept
    · cases hi

theorem insert {sessionID : UUID} {since : Nat}
    (hsessions : s'.db.sessions = s.db.sessions.insert sessionID session)
    (hchanges : s'.changes = s.changes)
    (hobtained : s'.obtained = s.obtained.insert sessionID since)
    (hsince : ∀ change ∈ s.changes.drop since, change.userID ≠ session.userID) :
    SessionsEnded s' := by
  intro i change hi id found hfound huser hbefore hkept
  rw [hchanges] at hi
  rw [hsessions] at hfound
  rw [ObtainedBefore, hobtained] at hbefore
  by_cases hid : id = sessionID
  · subst hid
    rw [FMap.get_insert_self] at hfound hbefore
    cases hfound
    -- the change would have to be one that is not in the history
    have hmem : change ∈ s.changes.drop since := by
      rw [List.mem_iff_getElem?]
      refine ⟨i - since, ?_⟩
      have hle : since ≤ i := hbefore
      rw [List.getElem?_drop, Nat.add_sub_cancel' hle, hi]
    exact absurd huser.symm (hsince change hmem)
  · rw [FMap.get_insert_ne _ _ hid] at hfound hbefore
    exact h i change hi id found hfound huser hbefore hkept

theorem step {op : Op} (hop : op.inTime s = true) : SessionsEnded (s.step auth bridge op) := by
  obtain hquiet | hwrote := quiet_or_wrote auth bridge s op
  · exact h.of_same (congrArg AuthDB.sessions hquiet.db) hquiet.changes hquiet.obtained
  cases hwrote with
  | edit hcall hdb hchanges hobtained =>
    exact h.of_same (sessions_updateUser hdb) hchanges hobtained
  | failure hcall hdb hchanges hobtained | success hcall hdb hchanges hobtained =>
    exact h.of_same (sessions_updateRow hdb) hchanges hobtained
  | session hcall hdb hchanges hobtained =>
    apply h.insert (createSession_ok hdb) hchanges hobtained
    simpa [Op.inTime, hcall] using hop
  | password hcall hdb hchanges hobtained =>
    exact h.commit hchanges hobtained (sessions_changeUserPassword hdb)
  | reset hcall htoken hdb hchanges hobtained =>
    exact h.commit hchanges hobtained (sessions_completePasswordReset htoken hdb)

end

end SessionsEnded

/-! ### Runs -/

/-- The runs in which every login inserts its session before any change of the password that commits
after it loaded the user. -/
abbrev InTimeRun (auth : AuthService) (bridge : BridgeService) (s₀ s : AccountSystem)
    (ops : List Op) : Prop :=
  Run (· = s₀) (ActStep (step auth bridge) fun s op =>
    op.valid auth s = true ∧ op.inTime s = true) s ops

/-- Once a change or reset of a password has committed, a session that was obtained with an earlier
password is refused at any time, unless the change kept it. -/
theorem sessions_end {ops : List Op} (h₀ : s₀.changes = []) (hrun : InTimeRun auth bridge s₀ s ops)
    (i : Nat) (change : PasswordChange) (hchange : s.changes[i]? = some change)
    (id : UUID) (session : AuthSession) (hsession : s.db.sessions.get id = some session)
    (huser : session.userID = change.userID) (hbefore : s.ObtainedBefore id i)
    (hkept : change.kept ≠ some id) (now : Time) : session.refused now = true := by
  have hended : SessionsEnded s := by
    apply hrun.act_invariant
    · intro i change hi
      rw [h₀] at hi
      cases hi
    · intro s op h hop
      exact h.step hop.2
  apply AuthSession.refused_of_revoked
  exact hended i change hchange id session hsession huser hbefore hkept

/-- The steps of a login of ada's before its session. -/
def adaLogsIn : List Op :=
  [.loadLogin 100 ⟨"ada", "OldPassw0rd!"⟩ (some 1) 1, .verifyLogin 100, .recordSuccess 100 2]

/-- Ada changes the password. -/
def adaChangesPassword : List Op :=
  [.loadPassword 101 ⟨1, none, "OldPassw0rd!", "NewPassw0rd!"⟩,
    .changePassword 101 "NewPassw0rd!" 3]

/-- A session that is inserted before the change. -/
def insertedFirst : AccountSystem :=
  (adaLogsIn ++ .createSession 100 7 "token" :: adaChangesPassword).foldl
    (step plainAuth plainBridge) oneAccount

/-- The session of `insertedFirst`. -/
def endedSession : AuthSession :=
  { userID := 1, tokenHash := "token", createdAt := 2, expiresAt := 2 + plainAuth.sessionTTL,
    revokedAt := some 3 }

theorem sessions_end_insertedFirst :
    insertedFirst.db.sessions.get 7 = some endedSession ∧ endedSession.refused 4 = true :=
  have hsession : insertedFirst.db.sessions.get 7 = some endedSession := by decide +kernel
  have hrun : InTimeRun plainAuth plainBridge oneAccount insertedFirst _ :=
    .of_ops (by decide +kernel)
  ⟨hsession, sessions_end rfl hrun 0 ⟨1, none⟩ (by decide +kernel) 7 endedSession hsession rfl
    (by decide +kernel) (by decide) 4⟩

/-- The session is inserted after the change, and is valid. -/
theorem session_outlives_change :
    ∃ s ops session, Run (· = oneAccount) (ActStep (step plainAuth plainBridge) fun s op =>
        op.valid plainAuth s = true) s ops ∧
      s.changes = [⟨1, none⟩] ∧ s.db.sessions.get 7 = some session ∧ session.userID = 1 ∧
      s.obtained.get 7 = some 0 ∧ session.refused 4 = false :=
  ⟨_, adaLogsIn ++ adaChangesPassword ++ [.createSession 100 7 "token"],
    { userID := 1, tokenHash := "token", createdAt := 2, expiresAt := 2 + plainAuth.sessionTTL },
    .of_ops (by decide +kernel), by decide +kernel, by decide +kernel, by decide +kernel,
    by decide +kernel, by decide +kernel⟩

end AccountSystem

end Theia
