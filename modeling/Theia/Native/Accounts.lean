import Theia.ForStd.FMap
import Theia.Native.Topology

/-!
# User accounts

The account tables of `internal/repository/postgres/auth_repo.go`, `auth_login_repo.go` and
`auth_password_change_repo.go`, with the statements that write them, and what the services of
`auth_service.go`, `auth_admin_service.go` and `bridge_service.go` compute between reading a user and
writing it.

A statement or transaction is a function of the tables; an error leaves them as they were. The rows
have the columns that these statements read or write. The clock, random values and the hash of a new
password are arguments.
-/

namespace Theia

/-! ### Rows -/

/-- `UserStatus`; the service checks a requested status with `validUserStatus`. -/
inductive UserStatus
  | active | disabled | pending | locked
  | other (value : String)
  deriving DecidableEq, Repr

structure User where
  username : String
  usernameNormalized : String
  email : String := ""
  emailNormalized : String := ""
  passwordHash : String
  displayName : String := ""
  status : UserStatus := .active
  mustChangePassword : Bool := false
  updatedAt : Time := 0
  lastLoginAt : Option Time := none
  passwordChangedAt : Option Time := none
  failedLoginAttempts : Int := 0
  lockedUntil : Option Time := none
  updatedBy : Option UUID := none
  deriving DecidableEq, Repr

structure Role where
  id : String
  name : String
  deriving DecidableEq, Repr

structure Permission where
  id : String
  key : String
  deriving DecidableEq, Repr

structure AuthSession where
  userID : UUID
  tokenHash : String
  createdAt : Time
  expiresAt : Time
  revokedAt : Option Time := none
  deriving DecidableEq, Repr

structure PasswordResetToken where
  userID : UUID
  expiresAt : Time
  usedAt : Option Time := none
  deriving DecidableEq, Repr

/-- The tables: users and sessions by identifier, reset tokens by their hash. -/
structure AuthDB where
  users : FMap UUID User := ∅
  roles : List Role := []
  userRoles : Finset (UUID × String) := ∅
  sessions : FMap UUID AuthSession := ∅
  resetTokens : FMap String PasswordResetToken := ∅
  deriving DecidableEq

inductive AccountError
  | userNotFound | roleNotFound | sessionExists | resetTokenNotFound | resetTokenExpired
  | duplicateIdentifier | lastActiveSuperAdmin | permissionDenied | adminInvalidInput
  | invalidSettings (reason : String)
  | invalidCredentials | userDisabled | userLocked | passwordPolicy | passwordReuse
  | verification
  deriving DecidableEq, Repr

def roleSuperAdmin : String := "super_admin"

/-- `UserWithRolesAndPermissions` of a user that is read to be changed: nothing reads the
permissions. -/
structure UserWithRoles where
  id : UUID
  user : User
  roles : List Role := []
  deriving DecidableEq, Repr

/-- `AuthenticatedUser`: the caller of a service, as it was when the request was authenticated. -/
structure AuthenticatedUser where
  id : UUID
  roles : List Role := []
  permissions : List Permission := []
  deriving DecidableEq, Repr

def hasRole (roles : List Role) (roleID : String) : Bool :=
  roles.any fun role => role.id = roleID || role.name = roleID

def hasPermission (permissions : List Permission) (permissionKey : String) : Bool :=
  permissions.any fun permission => permission.key = permissionKey || permission.id = permissionKey

/-! ### The repository -/

namespace AuthDB

def getUserRolesAndPermissions (db : AuthDB) (id : UUID) : Option UserWithRoles :=
  (db.users.get id).map fun user =>
    { id, user, roles := db.roles.filter fun role => (id, role.id) ∈ db.userRoles }

/-- The condition of `GetUserByLoginIdentifier`. -/
def hasLoginIdentifier (user : User) (normalized : String) : Bool :=
  user.usernameNormalized = normalized || user.emailNormalized = normalized

/-- A row that `GetUserByLoginIdentifier` can return; when two rows match it is one of them. -/
def isLoginResult (db : AuthDB) (normalized : String) : Option UUID → Bool
  | some id => (db.users.get id).any fun user => hasLoginIdentifier user normalized
  | none => !db.users.any fun _ user => hasLoginIdentifier user normalized

/-- The unique indexes on the normalized name and address, which leave out empty ones. -/
def identifierTaken (db : AuthDB) (id : UUID) (user : User) : Bool :=
  db.users.any fun other row => decide (other ≠ id ∧
    ((row.usernameNormalized ≠ "" ∧ row.usernameNormalized = user.usernameNormalized) ∨
      (row.emailNormalized ≠ "" ∧ row.emailNormalized = user.emailNormalized)))

/-- An `UPDATE users … WHERE id = ? AND …`, which reports when it finds no row. -/
def updateRow (db : AuthDB) (id : UUID) (where_ : User → Bool) (set : User → User) :
    Except AccountError AuthDB :=
  match db.users.get id with
  | some row =>
    if where_ row then .ok { db with users := db.users.insert id (set row) }
    else .error .userNotFound
  | none => .error .userNotFound

/-- `UpdateUser`: every column is written. -/
def updateUser (db : AuthDB) (id : UUID) (user : User) : Except AccountError AuthDB :=
  if db.identifierTaken id user then .error .duplicateIdentifier
  else db.updateRow id (fun _ => true) fun _ => user

/-- `txUserIsActiveSuperAdmin` -/
def userIsActiveSuperAdmin (db : AuthDB) (id : UUID) : Bool :=
  ((db.users.get id).any fun user => decide (user.status = .active)) &&
    decide ((id, roleSuperAdmin) ∈ db.userRoles)

/-- The users that `txCountActiveSuperAdmins` counts. -/
def activeSuperAdmins (db : AuthDB) : Finset UUID :=
  db.users.dom.filter fun id => db.userIsActiveSuperAdmin id

/-- `UpdateUserPreservingLastActiveSuperAdmin`, as one step. -/
def updateUserPreservingLastActiveSuperAdmin (db : AuthDB) (id : UUID) (user : User) :
    Except AccountError AuthDB :=
  if user.status ≠ .active ∧ db.userIsActiveSuperAdmin id ∧ db.activeSuperAdmins.card ≤ 1 then
    .error .lastActiveSuperAdmin
  else db.updateUser id user

/-- A lock that has run out: `locked_until <= when`, which is not true of a null. -/
def lockExpired (lockedUntil : Option Time) (time : Time) : Bool :=
  lockedUntil.any fun until_ => decide (until_ ≤ time)

def recordSuccessfulLogin (db : AuthDB) (id : UUID) (passwordHash : String) (time : Time) :
    Except AccountError AuthDB :=
  db.updateRow id
    (fun row => decide (row.passwordHash = passwordHash ∧ row.status = .active ∧
      (row.lockedUntil = none ∨ lockExpired row.lockedUntil time)))
    fun row => { row with
      failedLoginAttempts := 0, lockedUntil := none, lastLoginAt := some time, updatedAt := time }

/-- The counter after one more failure. -/
def failedAttempts (row : User) (time : Time) : Int :=
  if lockExpired row.lockedUntil time then 1 else row.failedLoginAttempts + 1

def recordFailedLogin (db : AuthDB) (id : UUID) (passwordHash : String) (time : Time)
    (threshold : Int) (lockedUntil : Time) : Except AccountError AuthDB :=
  db.updateRow id
    (fun row => decide (row.passwordHash = passwordHash ∧ row.status = .active))
    fun row => { row with
      failedLoginAttempts := failedAttempts row time
      lockedUntil :=
        if threshold ≤ failedAttempts row time then some lockedUntil
        else if lockExpired row.lockedUntil time then none
        else row.lockedUntil
      updatedAt := time }

/-- The columns that a change of password writes. -/
def withPassword (newHash : String) (time : Time) (row : User) : User :=
  { row with
    passwordHash := newHash, mustChangePassword := false, passwordChangedAt := some time,
    updatedAt := time, failedLoginAttempts := 0, lockedUntil := none }

/-- `ChangeUserPassword`: the sessions of the user end, but for the given one. -/
def changeUserPassword (db : AuthDB) (id : UUID) (previousHash newHash : String)
    (exceptSessionID : Option UUID) (time : Time) : Except AccountError AuthDB := do
  let db ← db.updateRow id (fun row => decide (row.passwordHash = previousHash))
    (withPassword newHash time)
  return { db with sessions := db.sessions.map fun sessionID session =>
    if session.userID = id ∧ session.revokedAt = none ∧ exceptSessionID ≠ some sessionID then
      { session with revokedAt := some time }
    else session }

/-- `CompletePasswordReset`: every session of the user ends. -/
def completePasswordReset (db : AuthDB) (tokenHash passwordHash : String) (time : Time) :
    Except AccountError AuthDB :=
  match db.resetTokens.get tokenHash with
  | none => .error .resetTokenNotFound
  | some token =>
    if token.usedAt ≠ none ∨ token.expiresAt ≤ time then .error .resetTokenExpired
    else do
      let db ← db.updateRow token.userID (fun _ => true) (withPassword passwordHash time)
      return { db with
        resetTokens := db.resetTokens.insert tokenHash { token with usedAt := some time }
        sessions := db.sessions.map fun _ session =>
          if session.userID = token.userID then { session with revokedAt := some time }
          else session }

/-- `CreateSession`: identifiers and token hashes are unique. -/
def createSession (db : AuthDB) (sessionID : UUID) (session : AuthSession) :
    Except AccountError AuthDB :=
  if db.sessions.any fun id row => decide (id = sessionID ∨ row.tokenHash = session.tokenHash) then
    .error .sessionExists
  else .ok { db with sessions := db.sessions.insert sessionID session }

end AuthDB

/-! ### Logging in -/

/-- What a service is given: `verifyPassword` of the password package, Unicode's tables, and the
limits on failed logins. -/
structure AuthService where
  verifyPassword : String → String → Option Bool
  lower : Char → Char
  isUpper : Char → Bool
  isLower : Char → Bool
  isDigit : Char → Bool
  isSpecial : Char → Bool
  sessionTTL : Duration := 12 * 3600 * second
  failedThreshold : Int := 5
  failedLockDuration : Duration := 15 * 60 * second

namespace AuthService

variable (auth : AuthService)

def normalizeLoginIdentifier (value : String) : String := toLowerWith auth.lower (trimSpace value)

/-- `ValidatePasswordPolicy`: a character counts for the first class it is in. -/
def validatePasswordPolicy (password : String) : Bool :=
  let trimmed := (trimSpace password).toList
  let upper := auth.isUpper
  let lower := fun r => !upper r && auth.isLower r
  let digit := fun r => !upper r && !auth.isLower r && auth.isDigit r
  let special := fun r => !upper r && !auth.isLower r && !auth.isDigit r && auth.isSpecial r
  10 ≤ trimmed.length && trimmed.length ≤ 24 &&
    trimmed.any upper && trimmed.any lower && trimmed.any digit && trimmed.any special

end AuthService

def resetExpiredLockState (user : User) (now : Time) : User :=
  if user.lockedUntil.any fun until_ => decide (until_ ≤ now) then
    { user with lockedUntil := none, failedLoginAttempts := 0 }
  else user

def ensureAggregateCanAuthenticate (user : User) (now : Time) : Except AccountError Unit :=
  if user.status = .disabled ∨ user.status = .pending then .error .userDisabled
  else if user.status = .locked then .error .userLocked
  else if user.lockedUntil.any fun until_ => decide (now < until_) then .error .userLocked
  else .ok ()

/-- The check of `CurrentUser` that refuses a session. -/
def AuthSession.refused (session : AuthSession) (now : Time) : Bool :=
  session.revokedAt ≠ none || session.expiresAt ≤ now

structure LoginInput where
  identifier : String
  password : String
  deriving DecidableEq, Repr

structure PasswordChangeInput where
  userID : UUID
  currentSessionID : Option UUID := none
  currentPassword : String
  newPassword : String
  deriving DecidableEq, Repr

/-- `PasswordResetCompleteInput`, with the hash of the token. -/
structure PasswordResetCompleteInput where
  tokenHash : String
  newPassword : String
  deriving DecidableEq, Repr

namespace AuthService

variable (auth : AuthService)

/-- `ChangePassword` between loading the user and the transaction. -/
def checkPasswordChange (user : User) (input : PasswordChangeInput) : Except AccountError Unit :=
  if auth.verifyPassword input.currentPassword user.passwordHash ≠ some true then
    .error .invalidCredentials
  else if !auth.validatePasswordPolicy input.newPassword then .error .passwordPolicy
  else
    match auth.verifyPassword input.newPassword user.passwordHash with
    | none => .error .verification
    | some true => .error .passwordReuse
    | some false => .ok ()

/-- `CompletePasswordReset` of the service between loading the user and the transaction. -/
def checkPasswordReset (user : User) (input : PasswordResetCompleteInput) :
    Except AccountError Unit :=
  match auth.verifyPassword input.newPassword user.passwordHash with
  | none => .error .verification
  | some true => .error .passwordReuse
  | some false => .ok ()

end AuthService

/-! ### Edits of an account -/

structure AdminUpdateUserInput where
  userID : UUID
  username : Option String := none
  email : Option String := none
  displayName : Option String := none
  status : Option UserStatus := none
  deriving DecidableEq, Repr

structure AdminUserStatusInput where
  userID : UUID
  status : UserStatus
  deriving DecidableEq, Repr

/-- `UpdateUserSettingsInput`: what concerns the user's row or can refuse the request. -/
structure UpdateUserSettingsInput where
  displayName : Option String := none
  username : Option String := none
  email : Option String := none
  timezone : Option String := none
  locale : Option String := none
  bridgePortOverride : Option Int := none
  deriving DecidableEq, Repr

def requirePermission (actor : Option AuthenticatedUser) (permissionKey : String) :
    Except AccountError Unit :=
  if actor.any fun user => hasPermission user.permissions permissionKey then .ok ()
  else .error .permissionDenied

def actorIsSuperAdmin (actor : Option AuthenticatedUser) : Bool :=
  actor.any fun user => hasRole user.roles roleSuperAdmin

def actorIsTarget (actor : Option AuthenticatedUser) (targetUserID : UUID) : Bool :=
  actor.any fun user => decide (user.id = targetUserID)

def actorUserID (actor : Option AuthenticatedUser) : Option UUID :=
  (actor.map AuthenticatedUser.id).filter fun id => decide (id ≠ UUID.nil)

def validUserStatus : UserStatus → Bool
  | .active | .disabled | .pending | .locked => true
  | .other _ => false

/-- `ensureNotLastActiveSuperAdmin`, given what `CountActiveSuperAdmins` returned. -/
def ensureNotLastActiveSuperAdmin (count : Nat) : Except AccountError Unit :=
  if count ≤ 1 then .error .lastActiveSuperAdmin else .ok ()

/-- `canChangeAdminUserStatus`: nobody takes their own account out of use. -/
def canChangeAdminUserStatus (actor : Option AuthenticatedUser) (count : Nat)
    (target : UserWithRoles) (status : UserStatus) : Except AccountError Unit :=
  if !validUserStatus status then .error .adminInvalidInput
  else if hasRole target.roles roleSuperAdmin && !actorIsSuperAdmin actor then
    .error .permissionDenied
  else if actorIsTarget actor target.id && decide (status ≠ .active) then
    if target.user.status = .active ∧ hasRole target.roles roleSuperAdmin then do
      ensureNotLastActiveSuperAdmin count
      .error .permissionDenied
    else .error .permissionDenied
  else .ok ()

def adminUpdateTouchesProfile (input : AdminUpdateUserInput) : Bool :=
  input.username.isSome || input.email.isSome || input.displayName.isSome

/-- The profile of a super admin is changed by super admins. -/
def canUpdateProfile (actor : Option AuthenticatedUser) (target : UserWithRoles)
    (input : AdminUpdateUserInput) : Except AccountError Unit :=
  if hasRole target.roles roleSuperAdmin && !actorIsSuperAdmin actor &&
      adminUpdateTouchesProfile input then
    .error .permissionDenied
  else .ok ()

/-- The second permission that a status other than active takes. -/
def requireDisable (actor : Option AuthenticatedUser) (status : UserStatus) :
    Except AccountError Unit :=
  if status ≠ .active then requirePermission actor "users:disable" else .ok ()

/-- `updateAdminUser` uses the guarded statement, by the row and roles that were read. -/
def guardsUpdate (current : UserWithRoles) (next : User) : Bool :=
  current.user.status = .active && next.status ≠ .active && hasRole current.roles roleSuperAdmin

namespace AuthService

variable (auth : AuthService)

/-- Sets a name that is asked for; `blank` is the error of an empty one. -/
def setUsername (blank : AccountError) (value : Option String) (user : User) :
    Except AccountError User :=
  match value with
  | none => .ok user
  | some value =>
    let username := trimSpace value
    if username = "" then .error blank
    else .ok { user with username, usernameNormalized := auth.normalizeLoginIdentifier username }

/-- Sets an address that is asked for; `invalid` gives the error of one that is refused. -/
def setEmail (invalid : String → Option AccountError) (value : Option String) (user : User) :
    Except AccountError User :=
  match value with
  | none => .ok user
  | some value =>
    let email := trimSpace value
    match invalid email with
    | some err => .error err
    | none => .ok { user with email, emailNormalized := auth.normalizeLoginIdentifier email }

/-- An administrator cannot set an empty address. -/
def invalidAdminEmail (email : String) : Option AccountError :=
  if email = "" then some .adminInvalidInput else none

/-- Sets a displayed name that is asked for. -/
def setDisplayName (value : Option String) (user : User) : User :=
  match value with
  | none => user
  | some value => { user with displayName := trimSpace value }

/-- Sets a status that is asked for. -/
def setStatus (actor : Option AuthenticatedUser) (count : Nat) (target : UserWithRoles)
    (value : Option UserStatus) (user : User) : Except AccountError User :=
  match value with
  | none => .ok user
  | some status => do
    canChangeAdminUserStatus actor count target status
    return { user with status }

/-- `UpdateAdminUser` between loading the target and writing it; `none` when it writes nothing. -/
def updateAdminUser (actor : Option AuthenticatedUser) (count : Nat) (target : UserWithRoles)
    (input : AdminUpdateUserInput) (now : Time) : Except AccountError (Option User) := do
  requirePermission actor "users:update"
  canUpdateProfile actor target input
  let user ← auth.setUsername .adminInvalidInput input.username target.user
  let user ← auth.setEmail invalidAdminEmail input.email user
  let user ← setStatus actor count target input.status (setDisplayName input.displayName user)
  return if adminUpdateTouchesProfile input || input.status.isSome then
      some { user with updatedAt := now, updatedBy := actorUserID actor }
    else none

/-- `SetAdminUserStatus` between loading the target and writing it. -/
def setAdminUserStatus (actor : Option AuthenticatedUser) (count : Nat) (target : UserWithRoles)
    (input : AdminUserStatusInput) (now : Time) : Except AccountError User := do
  requirePermission actor "users:update"
  requireDisable actor input.status
  canChangeAdminUserStatus actor count target input.status
  return { target.user with
    status := input.status, updatedAt := now, updatedBy := actorUserID actor }

end AuthService

/-- What the settings service is given: `time.LoadLocation` and `mail.ParseAddress`. -/
structure BridgeService where
  loadLocation : String → Bool
  parseAddress : String → Option String

namespace BridgeService

variable (auth : AuthService) (bridge : BridgeService)

/-- The checks of `UpdateSettings` that do not concern the row. -/
def checkPreferences (input : UpdateUserSettingsInput) : Except AccountError Unit :=
  if input.timezone.any fun zone => trimSpace zone ≠ "" && !bridge.loadLocation (trimSpace zone) then
    .error (.invalidSettings "invalid timezone")
  else if input.locale.any fun locale => decide (32 < (trimSpace locale).utf8ByteSize) then
    .error (.invalidSettings "locale is too long")
  else if input.bridgePortOverride.any fun port => decide (port < 1 ∨ 65535 < port) then
    .error (.invalidSettings "bridge port must be between 1 and 65535")
  else .ok ()

/-- The check of an address in `UpdateSettings`: an empty one is allowed. -/
def invalidEmail (email : String) : Option AccountError :=
  if email ≠ "" ∧ bridge.parseAddress email ≠ some email then
    some (.invalidSettings "invalid email")
  else none

/-- The identifiers that `ensureIdentifierAvailable` looks up: the name, then the address. -/
def identifiersToCheck (input : UpdateUserSettingsInput) : List String :=
  ((input.username.map trimSpace).toList ++ (input.email.map trimSpace).toList).filterMap fun value =>
    let normalized := auth.normalizeLoginIdentifier value
    if normalized = "" then none else some normalized

/-- The row that `UpdateSettings` writes when the identifiers are available. -/
def updateSettings (current : User) (input : UpdateUserSettingsInput) (now : Time) :
    Except AccountError User := do
  bridge.checkPreferences input
  let user ← auth.setUsername (.invalidSettings "username is required") input.username
    (AuthService.setDisplayName input.displayName current)
  let user ← auth.setEmail bridge.invalidEmail input.email user
  return { user with updatedAt := now }

end BridgeService

end Theia
