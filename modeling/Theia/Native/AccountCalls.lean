import Theia.ForStd.Run
import Theia.Native.Accounts

/-!
# Calls that change an account

The calls that write a user's row or sessions, cut at their repository statements: `UpdateAdminUser`,
`SetAdminUserStatus` and `UpdateSettings`, `Login`, `ChangePassword` and `CompletePasswordReset`. A
call is kept with what it has read (`AccountCall`), and the statements of all calls interleave
freely. Every repository function is one step here.

The state also has the history of the committed password changes. A login keeps how many there were
when it loaded its user, and a session that of its login; no step reads either.

Not in the model: audit entries, the bridge preferences, tokens and the limit on password operations
at a time.
-/

namespace Theia

/-! ### Requests -/

/-- A request that reads a user and writes it back. -/
inductive EditRequest
  | updateAdminUser (actor : Option AuthenticatedUser) (input : AdminUpdateUserInput)
  | setAdminUserStatus (actor : Option AuthenticatedUser) (input : AdminUserStatusInput)
  | updateSettings (userID : UUID) (input : UpdateUserSettingsInput)
  deriving DecidableEq, Repr

namespace EditRequest

variable (auth : AuthService) (bridge : BridgeService)

/-- The user to edit. -/
def userID : EditRequest → UUID
  | .updateAdminUser _ input => input.userID
  | .setAdminUserStatus _ input => input.userID
  | .updateSettings userID _ => userID

/-- The row that the request writes, if it writes one. -/
def row (target : UserWithRoles) (count : Nat) (now : Time) :
    EditRequest → Except AccountError (Option User)
  | .updateAdminUser actor input => auth.updateAdminUser actor count target input now
  | .setAdminUserStatus actor input =>
    (AuthService.setAdminUserStatus actor count target input now).map some
  | .updateSettings _ input => (bridge.updateSettings auth target.user input now).map some

/-- The identifiers that are looked up before the row is written. -/
def lookups : EditRequest → List String
  | .updateSettings _ input => BridgeService.identifiersToCheck auth input
  | _ => []

/-- Whether the row is written by `UpdateUserPreservingLastActiveSuperAdmin`. -/
def guarded (target : UserWithRoles) (next : User) : EditRequest → Bool
  | .updateSettings _ _ => false
  | _ => guardsUpdate target next

end EditRequest

/-! ### Calls in progress -/

/-- A call between two of its statements, with what it needs of those it has made. -/
inductive AccountCall
  | edit (request : EditRequest) (loaded : User) (lookups : List String) (next : User)
      (guarded : Bool)
  | loginLoaded (password : String) (userID : UUID) (passwordHash : String) (since : Nat)
  | loginVerified (userID : UUID) (passwordHash : String) (since : Nat)
  | loginRejected (userID : UUID) (passwordHash : String)
  | loginRecorded (userID : UUID) (since : Nat) (now : Time)
  | passwordLoaded (input : PasswordChangeInput) (passwordHash : String)
  | resetFound (input : PasswordResetCompleteInput) (now : Time) (userID : UUID)
  | resetReady (input : PasswordResetCompleteInput) (now : Time)
  deriving DecidableEq, Repr

/-- A committed change or reset of a password, and the session it kept. -/
structure PasswordChange where
  userID : UUID
  kept : Option UUID := none
  deriving DecidableEq, Repr

structure AccountSystem where
  db : AuthDB := {}
  calls : FMap UUID AccountCall := ∅
  /-- The password changes in the order of their commits. -/
  changes : List PasswordChange := []
  /-- By session: the number of changes when its login loaded the user. -/
  obtained : FMap UUID Nat := ∅

namespace AccountSystem

/-- The statements of the calls. What a statement does not take from the tables is part of it: the
clock, new identifiers and hashes, a count, and which of several matching rows is returned. -/
inductive Op
  | loadTarget (call : UUID) (request : EditRequest) (count : Nat) (now : Time)
  | lookup (call : UUID) (found : Option UUID)
  | writeUser (call : UUID)
  | loadLogin (call : UUID) (input : LoginInput) (found : Option UUID) (now : Time)
  | verifyLogin (call : UUID)
  | recordFailure (call : UUID) (now : Time)
  | recordSuccess (call : UUID) (now : Time)
  | createSession (call sessionID : UUID) (tokenHash : String)
  | loadPassword (call : UUID) (input : PasswordChangeInput)
  | changePassword (call : UUID) (newHash : String) (now : Time)
  | loadResetToken (call : UUID) (input : PasswordResetCompleteInput) (now : Time)
  | loadResetUser (call : UUID)
  | completeReset (call : UUID) (newHash : String)
  | abandon (call : UUID)
  deriving DecidableEq, Repr

/-- The call goes on. -/
def resume (s : AccountSystem) (call : UUID) (c : AccountCall) : AccountSystem :=
  { s with calls := s.calls.insert call c }

/-- The call has ended. -/
def finish (s : AccountSystem) (call : UUID) : AccountSystem :=
  { s with calls := s.calls.erase call }

variable (auth : AuthService) (bridge : BridgeService)

/-- The first statement of an edit. -/
def loadTarget (s : AccountSystem) (call : UUID) (request : EditRequest) (count : Nat)
    (now : Time) : AccountSystem :=
  match s.db.getUserRolesAndPermissions request.userID with
  | none => s
  | some target =>
    match request.row auth bridge target count now with
    | .ok (some next) =>
      s.resume call
        (.edit request target.user (request.lookups auth) next (request.guarded target next))
    | _ => s

/-- `ensureIdentifierAvailable` -/
def lookup (s : AccountSystem) (call : UUID) (found : Option UUID) : AccountSystem :=
  match s.calls.get call with
  | some (.edit request loaded (_ :: rest) next guarded) =>
    if found.all fun id => decide (id = request.userID) then
      s.resume call (.edit request loaded rest next guarded)
    else s.finish call
  | _ => s

/-- The write of an edit: `UpdateUser`, or the guarded one. -/
def writeUser (s : AccountSystem) (call : UUID) : AccountSystem :=
  match s.calls.get call with
  | some (.edit request _ [] next guarded) =>
    match
      if guarded then s.db.updateUserPreservingLastActiveSuperAdmin request.userID next
      else s.db.updateUser request.userID next
    with
    | .ok db => { s.finish call with db }
    | .error _ => s.finish call
  | _ => s

/-- `Login` up to the check of the account. -/
def loadLogin (s : AccountSystem) (call : UUID) (input : LoginInput) (found : Option UUID)
    (now : Time) : AccountSystem :=
  if auth.normalizeLoginIdentifier input.identifier = "" then s
  else
    match found with
    | none => s
    | some id =>
      match s.db.users.get id with
      | none => s
      | some user =>
        match ensureAggregateCanAuthenticate (resetExpiredLockState user now) now with
        | .error _ => s
        | .ok () =>
          s.resume call (.loginLoaded input.password id user.passwordHash s.changes.length)

/-- The verification of the password, which reads nothing. -/
def verifyLogin (s : AccountSystem) (call : UUID) : AccountSystem :=
  match s.calls.get call with
  | some (.loginLoaded password id passwordHash since) =>
    s.resume call <|
      if auth.verifyPassword password passwordHash = some true then
        .loginVerified id passwordHash since
      else .loginRejected id passwordHash
  | _ => s

/-- `recordFailedLogin` -/
def recordFailure (s : AccountSystem) (call : UUID) (now : Time) : AccountSystem :=
  match s.calls.get call with
  | some (.loginRejected id passwordHash) =>
    match s.db.recordFailedLogin id passwordHash now auth.failedThreshold
      (now + auth.failedLockDuration) with
    | .ok db => { s.finish call with db }
    | .error _ => s.finish call
  | _ => s

/-- The statement of `Login` that records its success. -/
def recordSuccess (s : AccountSystem) (call : UUID) (now : Time) : AccountSystem :=
  match s.calls.get call with
  | some (.loginVerified id passwordHash since) =>
    match s.db.recordSuccessfulLogin id passwordHash now with
    | .ok db => { s.resume call (.loginRecorded id since now) with db }
    | .error _ => s.finish call
  | _ => s

/-- The statement of `Login` that inserts its session. -/
def createSession (s : AccountSystem) (call sessionID : UUID) (tokenHash : String) :
    AccountSystem :=
  match s.calls.get call with
  | some (.loginRecorded userID since now) =>
    match s.db.createSession sessionID
      { userID, tokenHash, createdAt := now, expiresAt := now + auth.sessionTTL } with
    | .ok db => { s.finish call with db, obtained := s.obtained.insert sessionID since }
    | .error _ => s.finish call
  | _ => s

/-- `ChangePassword` up to its transaction. -/
def loadPassword (s : AccountSystem) (call : UUID) (input : PasswordChangeInput) : AccountSystem :=
  match s.db.users.get input.userID with
  | none => s
  | some user =>
    match auth.checkPasswordChange user input with
    | .ok () => s.resume call (.passwordLoaded input user.passwordHash)
    | .error _ => s

/-- The transaction of `ChangePassword`. -/
def changePassword (s : AccountSystem) (call : UUID) (newHash : String) (now : Time) :
    AccountSystem :=
  match s.calls.get call with
  | some (.passwordLoaded input previousHash) =>
    match s.db.changeUserPassword input.userID previousHash newHash input.currentSessionID now with
    | .ok db =>
      { s.finish call with db, changes := s.changes ++ [⟨input.userID, input.currentSessionID⟩] }
    | .error _ => s.finish call
  | _ => s

/-- `CompletePasswordReset` of the service up to the check of the token. -/
def loadResetToken (s : AccountSystem) (call : UUID) (input : PasswordResetCompleteInput)
    (now : Time) : AccountSystem :=
  if !auth.validatePasswordPolicy input.newPassword then s
  else
    match s.db.resetTokens.get input.tokenHash with
    | none => s
    | some token =>
      if token.usedAt ≠ none ∨ token.expiresAt ≤ now then s
      else s.resume call (.resetFound input now token.userID)

/-- The check that the password of a reset is new. -/
def loadResetUser (s : AccountSystem) (call : UUID) : AccountSystem :=
  match s.calls.get call with
  | some (.resetFound input now userID) =>
    match s.db.users.get userID with
    | none => s.finish call
    | some user =>
      match auth.checkPasswordReset user input with
      | .ok () => s.resume call (.resetReady input now)
      | .error _ => s.finish call
  | _ => s

/-- The transaction of a reset. -/
def completeReset (s : AccountSystem) (call : UUID) (newHash : String) : AccountSystem :=
  match s.calls.get call with
  | some (.resetReady input now) =>
    match s.db.completePasswordReset input.tokenHash newHash now with
    | .ok db =>
      { s.finish call with
        db
        changes := s.changes ++ ((s.db.resetTokens.get input.tokenHash).map fun token =>
          { userID := token.userID }).toList }
    | .error _ => s.finish call
  | _ => s

/-- One statement of one call. -/
def step (s : AccountSystem) : Op → AccountSystem
  | .loadTarget call request count now => s.loadTarget auth bridge call request count now
  | .lookup call found => s.lookup call found
  | .writeUser call => s.writeUser call
  | .loadLogin call input found now => s.loadLogin auth call input found now
  | .verifyLogin call => s.verifyLogin auth call
  | .recordFailure call now => s.recordFailure auth call now
  | .recordSuccess call now => s.recordSuccess call now
  | .createSession call sessionID tokenHash => s.createSession auth call sessionID tokenHash
  | .loadPassword call input => s.loadPassword auth call input
  | .changePassword call newHash now => s.changePassword call newHash now
  | .loadResetToken call input now => s.loadResetToken auth call input now
  | .loadResetUser call => s.loadResetUser auth call
  | .completeReset call newHash => s.completeReset call newHash
  | .abandon call => s.finish call

/-- The rows that a select can return. -/
def Op.valid (s : AccountSystem) : Op → Bool
  | .lookup call found =>
    match s.calls.get call with
    | some (.edit _ _ (normalized :: _) _ _) => s.db.isLoginResult normalized found
    | _ => true
  | .loadLogin _ input found _ =>
    s.db.isLoginResult (auth.normalizeLoginIdentifier input.identifier) found
  | _ => true

/-! ### What a step does to the tables -/

/-- The step has written nothing. -/
structure Quiet (s s' : AccountSystem) : Prop where
  db : s'.db = s.db
  changes : s'.changes = s.changes
  obtained : s'.obtained = s.obtained

/-- The statements that write, with what they have written. -/
inductive Wrote (s s' : AccountSystem) : Op → Prop
  | edit {call : UUID} {request : EditRequest} {loaded next : User} {guarded : Bool} :
    s.calls.get call = some (.edit request loaded [] next guarded) →
    s.db.updateUser request.userID next = .ok s'.db →
    s'.changes = s.changes → s'.obtained = s.obtained → Wrote s s' (.writeUser call)
  | failure {call id : UUID} {passwordHash : String} {now lockedUntil : Time} {threshold : Int} :
    s.calls.get call = some (.loginRejected id passwordHash) →
    s.db.recordFailedLogin id passwordHash now threshold lockedUntil = .ok s'.db →
    s'.changes = s.changes → s'.obtained = s.obtained → Wrote s s' (.recordFailure call now)
  | success {call id : UUID} {passwordHash : String} {since : Nat} {now : Time} :
    s.calls.get call = some (.loginVerified id passwordHash since) →
    s.db.recordSuccessfulLogin id passwordHash now = .ok s'.db →
    s'.changes = s.changes → s'.obtained = s.obtained → Wrote s s' (.recordSuccess call now)
  | session {call sessionID : UUID} {tokenHash : String} {since : Nat} {now : Time}
      {session : AuthSession} :
    s.calls.get call = some (.loginRecorded session.userID since now) →
    s.db.createSession sessionID session = .ok s'.db →
    s'.changes = s.changes → s'.obtained = s.obtained.insert sessionID since →
    Wrote s s' (.createSession call sessionID tokenHash)
  | password {call : UUID} {input : PasswordChangeInput} {previousHash newHash : String}
      {now : Time} :
    s.calls.get call = some (.passwordLoaded input previousHash) →
    s.db.changeUserPassword input.userID previousHash newHash input.currentSessionID now =
      .ok s'.db →
    s'.changes = s.changes ++ [⟨input.userID, input.currentSessionID⟩] →
    s'.obtained = s.obtained → Wrote s s' (.changePassword call newHash now)
  | reset {call : UUID} {input : PasswordResetCompleteInput} {token : PasswordResetToken}
      {newHash : String} {now : Time} :
    s.calls.get call = some (.resetReady input now) →
    s.db.resetTokens.get input.tokenHash = some token →
    s.db.completePasswordReset input.tokenHash newHash now = .ok s'.db →
    s'.changes = s.changes ++ [{ userID := token.userID }] →
    s'.obtained = s.obtained → Wrote s s' (.completeReset call newHash)

variable {auth bridge} {s : AccountSystem}

theorem updateUser_of_preserving {db db' : AuthDB} {id : UUID} {user : User}
    (h : db.updateUserPreservingLastActiveSuperAdmin id user = .ok db') :
    db.updateUser id user = .ok db' := by
  unfold AuthDB.updateUserPreservingLastActiveSuperAdmin at h
  split at h
  · cases h
  · exact h

variable (auth bridge) in
/-- A step writes nothing, or it is one of the writing statements. -/
theorem quiet_or_wrote (s : AccountSystem) (op : Op) :
    Quiet s (s.step auth bridge op) ∨ Wrote s (s.step auth bridge op) op := by
  have hquiet : ∀ calls, Quiet s { s with calls } := fun _ => ⟨rfl, rfl, rfl⟩
  cases op with
  | writeUser call =>
    simp only [step, writeUser]
    split
    · rename_i hcall
      split
      · rename_i hdb
        refine .inr (.edit hcall ?_ rfl rfl)
        split at hdb
        · exact updateUser_of_preserving hdb
        · exact hdb
      · exact .inl (hquiet _)
    · exact .inl (hquiet _)
  | recordFailure call now =>
    simp only [step, recordFailure]
    split
    · rename_i hcall
      split
      · rename_i hdb
        exact .inr (.failure hcall hdb rfl rfl)
      · exact .inl (hquiet _)
    · exact .inl (hquiet _)
  | recordSuccess call now =>
    simp only [step, recordSuccess]
    split
    · rename_i hcall
      split
      · rename_i hdb
        exact .inr (.success hcall hdb rfl rfl)
      · exact .inl (hquiet _)
    · exact .inl (hquiet _)
  | createSession call sessionID tokenHash =>
    simp only [step, createSession]
    split
    · rename_i hcall
      split
      · rename_i hdb
        exact .inr (.session hcall hdb rfl rfl)
      · exact .inl (hquiet _)
    · exact .inl (hquiet _)
  | changePassword call newHash now =>
    simp only [step, changePassword]
    split
    · rename_i hcall
      split
      · rename_i hdb
        exact .inr (.password hcall hdb rfl rfl)
      · exact .inl (hquiet _)
    · exact .inl (hquiet _)
  | completeReset call newHash =>
    simp only [step, completeReset]
    split
    · rename_i input now hcall
      split
      · rename_i db hdb
        -- a reset that succeeds has found its token
        cases htoken : s.db.resetTokens.get input.tokenHash with
        | none =>
          rw [AuthDB.completePasswordReset, htoken] at hdb
          cases hdb
        | some token => exact .inr (.reset hcall htoken hdb rfl rfl)
      · exact .inl (hquiet _)
    · exact .inl (hquiet _)
  | loadTarget | lookup | loadLogin | verifyLogin | loadPassword | loadResetToken | loadResetUser
  | abandon =>
    -- the other statements read, and move their call on
    refine .inl ?_
    simp only [step, loadTarget, lookup, loadLogin, verifyLogin, loadPassword, loadResetToken,
      loadResetUser]
    repeat' split
    all_goals exact hquiet _

end AccountSystem

end Theia
