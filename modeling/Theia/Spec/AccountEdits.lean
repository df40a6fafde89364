import Theia.ForStd.Except
import Theia.Native.AccountCalls

/-!
# Account edits and the rest of the row

`UpdateUser` writes every column, with the values that the edit read for those it was not asked to
change. The login and password statements name the columns they write. So an edit keeps what was
written since it read the row only if nothing else was written: that is the condition `upToDate`.
-/

namespace Theia

open Except

variable {auth : AuthService} {value : Option String} {user user' next row : User} {c : UserColumn}
  {bridge : BridgeService} {actor : Option AuthenticatedUser} {target : UserWithRoles}
  {now time : Time} {passwordHash : String}

/-! ### Columns -/

/-- The columns of `users` that are ever updated. -/
inductive UserColumn
  | username | usernameNormalized | email | emailNormalized | passwordHash | displayName | status
  | mustChangePassword | updatedAt | lastLoginAt | passwordChangedAt | failedLoginAttempts
  | lockedUntil | updatedBy
  deriving DecidableEq, Repr

namespace UserColumn

@[reducible] def Value : UserColumn → Type
  | .username | .usernameNormalized | .email | .emailNormalized | .passwordHash | .displayName =>
    String
  | .status => UserStatus
  | .mustChangePassword => Bool
  | .updatedAt => Time
  | .lastLoginAt | .passwordChangedAt | .lockedUntil => Option Time
  | .failedLoginAttempts => Int
  | .updatedBy => Option UUID

instance : (c : UserColumn) → DecidableEq c.Value
  | .username | .usernameNormalized | .email | .emailNormalized | .passwordHash | .displayName =>
    inferInstanceAs (DecidableEq String)
  | .status => inferInstanceAs (DecidableEq UserStatus)
  | .mustChangePassword => inferInstanceAs (DecidableEq Bool)
  | .updatedAt => inferInstanceAs (DecidableEq Time)
  | .lastLoginAt | .passwordChangedAt | .lockedUntil => inferInstanceAs (DecidableEq (Option Time))
  | .failedLoginAttempts => inferInstanceAs (DecidableEq Int)
  | .updatedBy => inferInstanceAs (DecidableEq (Option UUID))

def all : List UserColumn :=
  [.username, .usernameNormalized, .email, .emailNormalized, .passwordHash, .displayName, .status,
    .mustChangePassword, .updatedAt, .lastLoginAt, .passwordChangedAt, .failedLoginAttempts,
    .lockedUntil, .updatedBy]

theorem mem_all (c : UserColumn) : c ∈ all := by
  cases c <;> simp [all]

end UserColumn

def User.column (user : User) : (c : UserColumn) → c.Value
  | .username => user.username
  | .usernameNormalized => user.usernameNormalized
  | .email => user.email
  | .emailNormalized => user.emailNormalized
  | .passwordHash => user.passwordHash
  | .displayName => user.displayName
  | .status => user.status
  | .mustChangePassword => user.mustChangePassword
  | .updatedAt => user.updatedAt
  | .lastLoginAt => user.lastLoginAt
  | .passwordChangedAt => user.passwordChangedAt
  | .failedLoginAttempts => user.failedLoginAttempts
  | .lockedUntil => user.lockedUntil
  | .updatedBy => user.updatedBy

/-- The value of a column of a user's row. -/
def AuthDB.column (db : AuthDB) (id : UUID) (c : UserColumn) : Option c.Value :=
  (db.users.get id).map fun user => user.column c

/-! ### What a call asks for -/

/-- The columns that an edit is asked to change, with its stamp. -/
def EditRequest.asks : EditRequest → UserColumn → Bool
  | .updateAdminUser _ input, .username => input.username.isSome
  | .updateAdminUser _ input, .usernameNormalized => input.username.isSome
  | .updateAdminUser _ input, .email => input.email.isSome
  | .updateAdminUser _ input, .emailNormalized => input.email.isSome
  | .updateAdminUser _ input, .displayName => input.displayName.isSome
  | .updateAdminUser _ input, .status => input.status.isSome
  | .updateAdminUser _ _, .updatedAt => true
  | .updateAdminUser _ _, .updatedBy => true
  | .setAdminUserStatus _ _, .status => true
  | .setAdminUserStatus _ _, .updatedAt => true
  | .setAdminUserStatus _ _, .updatedBy => true
  | .updateSettings _ input, .username => input.username.isSome
  | .updateSettings _ input, .usernameNormalized => input.username.isSome
  | .updateSettings _ input, .email => input.email.isSome
  | .updateSettings _ input, .emailNormalized => input.email.isSome
  | .updateSettings _ input, .displayName => input.displayName.isSome
  | .updateSettings _ _, .updatedAt => true
  | _, _ => false

namespace UserColumn

/-- What a failed login concerns. -/
def ofFailedLogin : UserColumn → Bool
  | .failedLoginAttempts | .lockedUntil | .updatedAt => true
  | _ => false

/-- What a successful login concerns. -/
def ofSuccessfulLogin : UserColumn → Bool
  | .failedLoginAttempts | .lockedUntil | .lastLoginAt | .updatedAt => true
  | _ => false

/-- What a new password concerns. -/
def ofPassword : UserColumn → Bool
  | .passwordHash | .mustChangePassword | .passwordChangedAt | .failedLoginAttempts | .lockedUntil
  | .updatedAt => true
  | _ => false

end UserColumn

namespace AccountSystem

/-- The operation is the write of a call that is asked to change a column of a user. -/
def Op.asks (s : AccountSystem) (op : Op) (id : UUID) (c : UserColumn) : Bool :=
  match op with
  | .writeUser call =>
    match s.calls.get call with
    | some (.edit request _ _ _ _) => request.userID = id && request.asks c
    | _ => false
  | .recordFailure call _ =>
    match s.calls.get call with
    | some (.loginRejected userID _) => userID = id && c.ofFailedLogin
    | _ => false
  | .recordSuccess call _ =>
    match s.calls.get call with
    | some (.loginVerified userID _ _) => userID = id && c.ofSuccessfulLogin
    | _ => false
  | .changePassword call _ _ =>
    match s.calls.get call with
    | some (.passwordLoaded input _) => input.userID = id && c.ofPassword
    | _ => false
  | .completeReset call _ =>
    match s.calls.get call with
    | some (.resetReady input _) =>
      ((s.db.resetTokens.get input.tokenHash).any fun token => decide (token.userID = id)) &&
        c.ofPassword
    | _ => false
  | _ => false

/-- An edit writes when the columns it is not asked to change are as it read them. -/
def Op.upToDate (s : AccountSystem) : Op → Bool
  | .writeUser call =>
    match s.calls.get call with
    | some (.edit request loaded _ _ _) =>
      (s.db.users.get request.userID).all fun row =>
        UserColumn.all.all fun c => request.asks c || decide (row.column c = loaded.column c)
    | _ => true
  | _ => true

end AccountSystem

/-! ### The row of an edit -/

theorem AuthService.setUsername_column {blank : AccountError}
    (h : auth.setUsername blank value user = .ok user')
    (hc : value = none ∨ c ≠ .username ∧ c ≠ .usernameNormalized) :
    user'.column c = user.column c := by
  unfold setUsername at h
  cases value with
  | none =>
    cases h
    rfl
  | some value =>
    obtain ⟨hname, hnorm⟩ := hc.resolve_left (by simp)
    dsimp only at h
    split at h
    · cases h
    · cases h
      cases c <;> simp_all [User.column]

theorem AuthService.setEmail_column {invalid : String → Option AccountError}
    (h : auth.setEmail invalid value user = .ok user')
    (hc : value = none ∨ c ≠ .email ∧ c ≠ .emailNormalized) : user'.column c = user.column c := by
  unfold setEmail at h
  cases value with
  | none =>
    cases h
    rfl
  | some value =>
    obtain ⟨hmail, hnorm⟩ := hc.resolve_left (by simp)
    dsimp only at h
    split at h
    · cases h
    · cases h
      cases c <;> simp_all [User.column]

theorem AuthService.setDisplayName_column (hc : value = none ∨ c ≠ .displayName) :
    (setDisplayName value user).column c = user.column c := by
  unfold setDisplayName
  cases value with
  | none => rfl
  | some value =>
    have hne := hc.resolve_left (by simp)
    cases c <;> simp_all [User.column]

theorem AuthService.setStatus_column {count : Nat} {value : Option UserStatus}
    (h : setStatus actor count target value user = .ok user') (hc : value = none ∨ c ≠ .status) :
    user'.column c = user.column c := by
  unfold setStatus at h
  cases value with
  | none =>
    cases h
    rfl
  | some value =>
    have hne := hc.resolve_left (by simp)
    obtain ⟨_, -, h⟩ := bind_eq_ok_iff.1 h
    cases h
    cases c <;> simp_all [User.column]

theorem User.column_stamp (user : User) (updatedAt : Time) (updatedBy : Option UUID)
    (hat : c ≠ .updatedAt) (hby : c ≠ .updatedBy) :
    User.column { user with updatedAt, updatedBy } c = user.column c := by
  cases c <;> simp_all [User.column]

open EditRequest

theorem AuthService.updateAdminUser_column {count : Nat} {input : AdminUpdateUserInput}
    (h : auth.updateAdminUser actor count target input now = .ok (some next))
    (hc : (EditRequest.updateAdminUser actor input).asks c = false) :
    next.column c = target.user.column c := by
  obtain ⟨_, -, h⟩ := bind_eq_ok_iff.1 h
  obtain ⟨_, -, h⟩ := bind_eq_ok_iff.1 h
  obtain ⟨named, hnamed, h⟩ := bind_eq_ok_iff.1 h
  obtain ⟨mailed, hmailed, h⟩ := bind_eq_ok_iff.1 h
  obtain ⟨user, huser, h⟩ := bind_eq_ok_iff.1 h
  have hnext : next = { user with updatedAt := now, updatedBy := actorUserID actor } := by
    simp only [pure, Except.pure, Except.ok.injEq] at h
    split at h
    · exact (Option.some.inj h).symm
    · cases h
  -- one call of a setter after the other, each for columns that were asked for
  calc next.column c
    _ = user.column c := by
        rw [hnext]
        exact user.column_stamp _ _ (by rintro rfl; cases hc) (by rintro rfl; cases hc)
    _ = (setDisplayName input.displayName mailed).column c := by
        refine setStatus_column huser ?_
        cases c <;> simp_all [asks]
    _ = mailed.column c := by
        refine setDisplayName_column ?_
        cases c <;> simp_all [asks]
    _ = named.column c := by
        refine setEmail_column hmailed ?_
        cases c <;> simp_all [asks]
    _ = target.user.column c := by
        refine setUsername_column hnamed ?_
        cases c <;> simp_all [asks]

theorem AuthService.setAdminUserStatus_column {count : Nat} {input : AdminUserStatusInput}
    (h : setAdminUserStatus actor count target input now = .ok next)
    (hc : (EditRequest.setAdminUserStatus actor input).asks c = false) :
    next.column c = target.user.column c := by
  obtain ⟨_, -, h⟩ := bind_eq_ok_iff.1 h
  obtain ⟨_, -, h⟩ := bind_eq_ok_iff.1 h
  obtain ⟨_, -, h⟩ := bind_eq_ok_iff.1 h
  cases h
  cases c <;> simp_all [User.column, asks]

theorem BridgeService.updateSettings_column {userID : UUID} {input : UpdateUserSettingsInput}
    (h : bridge.updateSettings auth user input now = .ok next)
    (hc : (EditRequest.updateSettings userID input).asks c = false) :
    next.column c = user.column c := by
  obtain ⟨_, -, h⟩ := bind_eq_ok_iff.1 h
  obtain ⟨named, hnamed, h⟩ := bind_eq_ok_iff.1 h
  obtain ⟨mailed, hmailed, h⟩ := bind_eq_ok_iff.1 h
  cases h
  calc User.column { mailed with updatedAt := now } c
    _ = mailed.column c := by
        cases c <;> simp_all [User.column, asks]
    _ = named.column c := by
        refine AuthService.setEmail_column hmailed ?_
        cases c <;> simp_all [asks]
    _ = (AuthService.setDisplayName input.displayName user).column c := by
        refine AuthService.setUsername_column hnamed ?_
        cases c <;> simp_all [asks]
    _ = user.column c := by
        refine AuthService.setDisplayName_column ?_
        cases c <;> simp_all [asks]

/-- The row to be written differs from the row that was read in the columns asked for. -/
theorem EditRequest.row_column {request : EditRequest} {count : Nat}
    (h : request.row auth bridge target count now = .ok (some next)) (hc : request.asks c = false) :
    next.column c = target.user.column c := by
  cases request with
  | updateAdminUser actor input => exact AuthService.updateAdminUser_column h hc
  | setAdminUserStatus actor input =>
    obtain ⟨user, huser, hnext⟩ := map_eq_ok_iff.1 h
    cases hnext
    exact AuthService.setAdminUserStatus_column huser hc
  | updateSettings userID input =>
    obtain ⟨user, huser, hnext⟩ := map_eq_ok_iff.1 h
    cases hnext
    exact BridgeService.updateSettings_column huser hc

/-! ### What the statements write -/

namespace AuthDB

variable {db db' : AuthDB} {id id' : UUID} {c : UserColumn}

theorem updateRow_ok {where_ : User → Bool} {set : User → User}
    (h : db.updateRow id where_ set = .ok db') :
    ∃ row, db.users.get id = some row ∧ where_ row = true ∧
      db' = { db with users := db.users.insert id (set row) } := by
  unfold updateRow at h
  split at h
  · rename_i row hrow
    split at h
    · rename_i hwhere
      cases h
      exact ⟨row, hrow, hwhere, rfl⟩
    · cases h
  · cases h

theorem column_eq_of_users (h : db'.users = db.users) : db'.column id c = db.column id c := by
  rw [column, column, h]

theorem column_insert (hrow : db.users.get id = some row)
    (hset : id' = id → next.column c = row.column c) :
    column { db with users := db.users.insert id next } id' c = db.column id' c := by
  by_cases hid : id' = id
  · subst hid
    rw [column, column, FMap.get_insert_self, hrow]
    exact congrArg some (hset rfl)
  · rw [column, column, FMap.get_insert_ne _ _ hid]

theorem column_updateRow {where_ : User → Bool} {set : User → User}
    (h : db.updateRow id where_ set = .ok db')
    (hset : id' = id → ∀ row, (set row).column c = row.column c) :
    db'.column id' c = db.column id' c := by
  obtain ⟨row, hrow, -, rfl⟩ := updateRow_ok h
  exact column_insert hrow fun hid => hset hid row

theorem column_updateUser (h : db.updateUser id next = .ok db')
    (hset : id' = id → ∀ row, db.users.get id = some row → next.column c = row.column c) :
    db'.column id' c = db.column id' c := by
  unfold updateUser at h
  split at h
  · cases h
  · obtain ⟨row, hrow, -, rfl⟩ := updateRow_ok h
    exact column_insert hrow fun hid => hset hid row hrow

theorem column_recordFailedLogin {lockedUntil : Time} {threshold : Int}
    (h : db.recordFailedLogin id passwordHash time threshold lockedUntil = .ok db')
    (hc : id' = id → c.ofFailedLogin = false) : db'.column id' c = db.column id' c := by
  refine column_updateRow h fun hid row => ?_
  have hc := hc hid
  cases c <;> simp_all [UserColumn.ofFailedLogin, User.column]

theorem column_recordSuccessfulLogin (h : db.recordSuccessfulLogin id passwordHash time = .ok db')
    (hc : id' = id → c.ofSuccessfulLogin = false) : db'.column id' c = db.column id' c := by
  refine column_updateRow h fun hid row => ?_
  have hc := hc hid
  cases c <;> simp_all [UserColumn.ofSuccessfulLogin, User.column]

theorem column_withPassword {newHash : String} (hc : c.ofPassword = false) :
    (withPassword newHash time row).column c = row.column c := by
  cases c <;> simp_all [UserColumn.ofPassword, User.column, withPassword]

theorem column_changeUserPassword {previousHash newHash : String} {kept : Option UUID}
    (h : db.changeUserPassword id previousHash newHash kept time = .ok db')
    (hc : id' = id → c.ofPassword = false) : db'.column id' c = db.column id' c := by
  obtain ⟨updated, hupdated, h⟩ := bind_eq_ok_iff.1 h
  cases h
  show updated.column id' c = db.column id' c
  exact column_updateRow hupdated fun hid _ => column_withPassword (hc hid)

theorem column_completePasswordReset {tokenHash : String} {token : PasswordResetToken}
    (htoken : db.resetTokens.get tokenHash = some token)
    (h : db.completePasswordReset tokenHash passwordHash time = .ok db')
    (hc : id' = token.userID → c.ofPassword = false) : db'.column id' c = db.column id' c := by
  rw [completePasswordReset, htoken] at h
  dsimp only at h
  split at h
  · cases h
  · obtain ⟨updated, hupdated, h⟩ := bind_eq_ok_iff.1 h
    cases h
    show updated.column id' c = db.column id' c
    exact column_updateRow hupdated fun hid _ => column_withPassword (hc hid)

theorem users_createSession {sessionID : UUID} {session : AuthSession}
    (h : db.createSession sessionID session = .ok db') : db'.users = db.users := by
  unfold createSession at h
  split at h
  · cases h
  · cases h
    rfl

end AuthDB

/-! ### Runs -/

namespace AccountSystem

open AuthDB

variable {auth : AuthService} {bridge : BridgeService} {s s' s₀ : AccountSystem}

/-- A call that is about to write differs from what it read where it was asked to. -/
def AccountCall.AsAsked : AccountCall → Prop
  | .edit request loaded _ next _ =>
    ∀ c, request.asks c = false → next.column c = loaded.column c
  | _ => True

/-- Every edit in progress is such a call. -/
def EditsAsAsked (s : AccountSystem) : Prop :=
  ∀ call c, s.calls.get call = some c → AccountCall.AsAsked c

namespace EditsAsAsked

section

variable (h : EditsAsAsked s)
include h

theorem resume (call : UUID) {c : AccountCall} (hc : AccountCall.AsAsked c) :
    EditsAsAsked (s.resume call c) :=
  FMap.forall_get_insert hc fun call' c' _ => h call' c'

theorem finish (call : UUID) : EditsAsAsked (s.finish call) := by
  intro call' c hc
  rw [AccountSystem.finish, FMap.get_erase] at hc
  split at hc
  · cases hc
  · exact h call' c hc

theorem of_calls (hcalls : s'.calls = s.calls) : EditsAsAsked s' := by
  intro call c hc
  exact h call c (hcalls ▸ hc)

theorem loadTarget (call : UUID) (request : EditRequest) (count : Nat)
    (now : Time) : EditsAsAsked (s.loadTarget auth bridge call request count now) := by
  unfold AccountSystem.loadTarget
  split
  · exact h
  · split
    · rename_i hrow
      exact h.resume call fun c hc => request.row_column hrow hc
    · exact h

theorem lookup (call : UUID) (found : Option UUID) : EditsAsAsked (s.lookup call found) := by
  unfold AccountSystem.lookup
  split
  · rename_i hcall
    split
    · have hedit := h call _ hcall
      exact h.resume call hedit
    · exact h.finish call
  · exact h

/-- The other calls have no edit to go on with. -/
theorem step (op : Op) : EditsAsAsked (s.step auth bridge op) := by
  cases op with
  | loadTarget call request count now => exact h.loadTarget call request count now
  | lookup call found => exact h.lookup call found
  | abandon call => exact h.finish call
  | recordSuccess call now =>
    simp only [AccountSystem.step, recordSuccess]
    split
    · rename_i id _ since _
      split
      · exact (h.resume call (c := .loginRecorded id since now) trivial).of_calls rfl
      · exact h.finish call
    · exact h
  | writeUser call | recordFailure call | createSession call | changePassword call
  | completeReset call =>
    simp only [AccountSystem.step, writeUser, recordFailure, createSession, changePassword,
      completeReset]
    repeat' split
    all_goals first | exact h | exact (h.finish call).of_calls rfl
  | loadLogin call | verifyLogin call | loadPassword call | loadResetToken call
  | loadResetUser call =>
    simp only [AccountSystem.step, loadLogin, verifyLogin, loadPassword, loadResetToken,
      loadResetUser]
    repeat' split
    all_goals first | exact h | exact h.finish call | exact h.resume call trivial

end

end EditsAsAsked

theorem row_column_of_upToDate {call : UUID} {request : EditRequest} {loaded : User}
    {lookups : List String} {guarded : Bool} (h : (Op.writeUser call).upToDate s = true)
    (hcall : s.calls.get call = some (.edit request loaded lookups next guarded))
    (hrow : s.db.users.get request.userID = some row) (hc : request.asks c = false) :
    row.column c = loaded.column c := by
  simp only [Op.upToDate, hcall, hrow, Option.all_some, List.all_eq_true, Bool.or_eq_true,
    decide_eq_true_eq] at h
  refine (h c c.mem_all).resolve_left ?_
  rw [hc]
  exact Bool.false_ne_true

theorem column_step (hedits : EditsAsAsked s) {op : Op} (hop : op.upToDate s = true) {id : UUID}
    (hc : op.asks s id c = false) : (s.step auth bridge op).db.column id c = s.db.column id c := by
  obtain hquiet | hwrote := quiet_or_wrote auth bridge s op
  · rw [hquiet.db]
  cases hwrote with
  | edit hcall hdb =>
    apply column_updateUser hdb
    intro hid row hrow
    have hasks := hc
    simp only [Op.asks, hcall, hid, decide_true, Bool.true_and] at hasks
    exact (hedits _ _ hcall c hasks).trans (row_column_of_upToDate hop hcall hrow hasks).symm
  | failure hcall hdb =>
    apply column_recordFailedLogin hdb
    intro hid
    simpa [Op.asks, hcall, hid] using hc
  | success hcall hdb =>
    apply column_recordSuccessfulLogin hdb
    intro hid
    simpa [Op.asks, hcall, hid] using hc
  | session hcall hdb => exact column_eq_of_users (users_createSession hdb)
  | password hcall hdb =>
    apply column_changeUserPassword hdb
    intro hid
    simpa [Op.asks, hcall, hid] using hc
  | reset hcall htoken hdb =>
    apply column_completePasswordReset htoken hdb
    intro hid
    simpa [Op.asks, hcall, htoken, hid] using hc

/-- The runs in which every edit finds the columns it is not asked to change as it read them. -/
abbrev UpToDateRun (auth : AuthService) (bridge : BridgeService) (s₀ s : AccountSystem)
    (ops : List Op) : Prop :=
  Run (· = s₀) (ActStep (step auth bridge) fun s op =>
    op.valid auth s = true ∧ op.upToDate s = true) s ops

/-- When every edit finds the columns it is not asked to change as it read them, a step changes no
column but those its call is asked to change, and a column keeps its value for as long as no call
writes that is asked to change it. -/
theorem edits_change_only_asked {ops : List Op} (h₀ : s₀.calls = ∅)
    (hrun : UpToDateRun auth bridge s₀ s ops) :
    (∀ op, op.valid auth s = true → op.upToDate s = true → ∀ id c, op.asks s id c = false →
      (s.step auth bridge op).db.column id c = s.db.column id c) ∧
    ∀ id c s' ops', Run (· = s) (ActStep (step auth bridge) fun s op =>
        (op.valid auth s = true ∧ op.upToDate s = true) ∧ op.asks s id c = false) s' ops' →
      s'.db.column id c = s.db.column id c := by
  have hedits : EditsAsAsked s := by
    apply hrun.act_invariant
    · intro call c hc
      rw [h₀] at hc
      cases hc
    · intro s op h _
      exact h.step op
  apply And.intro
  · intro op _ hop id c hc
    exact column_step hedits hop hc
  intro id c s' ops' hlater
  -- the calls in progress stay as asked while the column keeps its value
  refine (hlater.act_invariant
    (P := fun s' => EditsAsAsked s' ∧ s'.db.column id c = s.db.column id c) ⟨hedits, rfl⟩ ?_).2
  intro t op h hop
  exact ⟨h.1.step op, (column_step h.1 hop.1.2 hop.2).trans h.2⟩

/-- A service whose password hashes are the passwords. -/
def plainAuth : AuthService where
  verifyPassword := fun password passwordHash => some (password = passwordHash)
  lower := Char.toLower
  isUpper := Char.isUpper
  isLower := Char.isLower
  isDigit := Char.isDigit
  isSpecial := fun c => c = '!'

def plainBridge : BridgeService where
  loadLocation := fun _ => true
  parseAddress := some

/-- An account, and somebody who may edit it. -/
def oneAccount : AccountSystem where
  db.users := FMap.ofList [(1, ada)]
where
  ada : User := { username := "ada", usernameNormalized := "ada", passwordHash := "OldPassw0rd!" }

/-- A request for a displayed name. -/
def renameAda : EditRequest :=
  .updateAdminUser (some { id := 9, permissions := [⟨"p1", "users:update"⟩] })
    { userID := 1, displayName := some "Ada" }

/-- A change of password before the edit reads the user. -/
def changedFirst : AccountSystem :=
  [.loadPassword 101 ⟨1, none, "OldPassw0rd!", "NewPassw0rd!"⟩,
    .changePassword 101 "NewPassw0rd!" 2,
    .loadTarget 100 renameAda 1 3].foldl (step plainAuth plainBridge) oneAccount

theorem edits_change_only_asked_changedFirst :
    (changedFirst.step plainAuth plainBridge (.writeUser 100)).db.column 1 .passwordHash =
      changedFirst.db.column 1 .passwordHash :=
  (edits_change_only_asked rfl (.of_ops (by decide +kernel))).1 (.writeUser 100)
    (by decide +kernel) (by decide +kernel) 1 .passwordHash (by decide +kernel)

/-- The same change after the edit has read the user: the edit writes the old password. -/
theorem password_change_undone :
    ∃ s ops, Run (· = oneAccount) (ActStep (step plainAuth plainBridge) fun s op =>
        op.valid plainAuth s = true) s ops ∧
      (Op.writeUser 100).asks s 1 .passwordHash = false ∧
      s.db.column 1 .passwordHash = some "NewPassw0rd!" ∧
      (s.step plainAuth plainBridge (.writeUser 100)).db.column 1 .passwordHash =
        some "OldPassw0rd!" :=
  ⟨_, [.loadTarget 100 renameAda 1 1, .loadPassword 101 ⟨1, none, "OldPassw0rd!", "NewPassw0rd!"⟩,
      .changePassword 101 "NewPassw0rd!" 2],
    .of_ops (by decide +kernel), by decide +kernel, by decide +kernel, by decide +kernel⟩

end AccountSystem

end Theia
