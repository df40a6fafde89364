import Theia.ForStd.Run
import Theia.Native.Accounts

/-!
# Administration of users, transaction by transaction

`UpdateAdminUser`, `SetAdminUserStatus`, `AssignAdminUserRole` and `RemoveAdminUserRole` of
`internal/service/auth_admin_service.go`. A call reads its target and decides what to write and
whether to use a guarded transaction of `auth_repo.go`. A guarded transaction takes the advisory
lock, looks whether the target is an active super admin, counts the active super admins, writes and
commits; `RemoveRole` and `AssignRole` write and commit; `UpdateUser` is a statement of its own.

Statements see what is committed. A transaction that has written a row holds its lock until it ends,
and a statement that meets the lock waits.
-/

namespace Theia

structure AdminUserRoleInput where
  userID : UUID
  roleID : String
  deriving DecidableEq, Repr

inductive AdminRequest
  | updateAdminUser (actor : Option AuthenticatedUser) (input : AdminUpdateUserInput)
  | setAdminUserStatus (actor : Option AuthenticatedUser) (input : AdminUserStatusInput)
  | assignAdminUserRole (actor : Option AuthenticatedUser) (input : AdminUserRoleInput)
  | removeAdminUserRole (actor : Option AuthenticatedUser) (input : AdminUserRoleInput)
  deriving DecidableEq, Repr

/-- The statement that a call writes with. -/
inductive AdminWrite
  | update (id : UUID) (next : User)
  | insertRole (id : UUID) (roleID : String)
  | deleteRole (id : UUID) (roleID : String)
  deriving DecidableEq, Repr

namespace AdminWrite

/-- The user whose row or role is written. -/
def userID : AdminWrite → UUID
  | .update id _ | .insertRole id _ | .deleteRole id _ => id

/-- What a guarded transaction checks: the status is not active, or the role is that of super
admins. -/
def takesAway : AdminWrite → Bool
  | .update _ next => next.status ≠ .active
  | .insertRole _ _ => false
  | .deleteRole _ roleID => roleID = roleSuperAdmin

/-- Two statements write the same row. -/
def sameRow : AdminWrite → AdminWrite → Bool
  | .update id _, .update id' _ => id = id'
  | .update _ _, _ | _, .update _ _ => false
  | .insertRole id role, .insertRole id' role' | .insertRole id role, .deleteRole id' role'
  | .deleteRole id role, .insertRole id' role' | .deleteRole id role, .deleteRole id' role' =>
    id = id' && role = role'

/-- The tables with the row written. -/
def apply (db : AuthDB) : AdminWrite → AuthDB
  | .update id next => { db with users := db.users.insert id next }
  | .insertRole id roleID => { db with userRoles := insert (id, roleID) db.userRoles }
  | .deleteRole id roleID => { db with userRoles := db.userRoles.erase (id, roleID) }

end AdminWrite

/-! ### What a call decides to write -/

/-- `validateAdminRoleID`, given what `ListRoles` returned. -/
def validateAdminRoleID (actor : Option AuthenticatedUser) (roles : List Role) (roleID : String) :
    Except AccountError String :=
  if trimSpace roleID = "" then .error .adminInvalidInput
  else if trimSpace roleID = roleSuperAdmin && !actorIsSuperAdmin actor then .error .permissionDenied
  else
    match roles.find? fun role => role.id = trimSpace roleID || role.name = trimSpace roleID with
    | some role => .ok role.id
    | none => .error .roleNotFound

/-- A target that has to exist. -/
def loadAdminTarget (db : AuthDB) (id : UUID) : Except AccountError UserWithRoles :=
  match db.getUserRolesAndPermissions id with
  | some target => .ok target
  | none => .error .userNotFound

/-- `AssignAdminUserRole`: nobody assigns a role to themselves. -/
def assignAdminUserRole (actor : Option AuthenticatedUser) (db : AuthDB)
    (input : AdminUserRoleInput) : Except AccountError AdminWrite := do
  requirePermission actor "roles:assign"
  let roleID ← validateAdminRoleID actor db.roles input.roleID
  if actorIsTarget actor input.userID then .error .permissionDenied
  else do
    let target ← loadAdminTarget db input.userID
    if hasRole target.roles roleSuperAdmin && !actorIsSuperAdmin actor then .error .permissionDenied
    else return .insertRole input.userID roleID

/-- `removeAdminUserRole` uses the guarded statement, by the row and roles that were read. -/
def guardsRemoval (target : UserWithRoles) (roleID : String) : Bool :=
  roleID = roleSuperAdmin && target.user.status = .active && hasRole target.roles roleSuperAdmin

/-- `RemoveAdminUserRole`, with whether the statement is the guarded one. -/
def removeAdminUserRole (actor : Option AuthenticatedUser) (count : Nat) (db : AuthDB)
    (input : AdminUserRoleInput) : Except AccountError (AdminWrite × Bool) := do
  requirePermission actor "roles:assign"
  let roleID ← validateAdminRoleID actor db.roles input.roleID
  let target ← loadAdminTarget db input.userID
  if actorIsTarget actor input.userID then
    if guardsRemoval target roleID then do
      ensureNotLastActiveSuperAdmin count
      .error .permissionDenied
    else .error .permissionDenied
  else if (roleID = roleSuperAdmin || hasRole target.roles roleSuperAdmin) &&
      !actorIsSuperAdmin actor then
    .error .permissionDenied
  else return (.deleteRole input.userID roleID, guardsRemoval target roleID)

/-- What a call writes, and whether by a guarded statement. -/
def AdminRequest.plan (auth : AuthService) (db : AuthDB) (count : Nat) (now : Time) :
    AdminRequest → Except AccountError (Option (AdminWrite × Bool))
  | .updateAdminUser actor input => do
    let target ← loadAdminTarget db input.userID
    let next ← auth.updateAdminUser actor count target input now
    return next.map fun next => (.update input.userID next, guardsUpdate target next)
  | .setAdminUserStatus actor input => do
    let target ← loadAdminTarget db input.userID
    let next ← AuthService.setAdminUserStatus actor count target input now
    return some (.update input.userID next, guardsUpdate target next)
  | .assignAdminUserRole actor input => do
    let write ← Theia.assignAdminUserRole actor db input
    return some (write, false)
  | .removeAdminUserRole actor input => do
    let write ← Theia.removeAdminUserRole actor count db input
    return some write

/-! ### Transactions -/

/-- Where a call is. -/
inductive AdminPhase
  /-- The target is read, the transaction has done nothing. -/
  | ready
  /-- A guarded transaction has the advisory lock. -/
  | locked
  /-- The target is an active super admin, the count comes next. -/
  | counting
  /-- The guard lets the statement through. -/
  | cleared
  /-- The statement is made; whether it wrote a row. -/
  | written (row : Bool)
  deriving DecidableEq, Repr

structure AdminCall where
  write : AdminWrite
  guarded : Bool
  phase : AdminPhase := .ready
  deriving DecidableEq, Repr

/-- The call has the advisory lock. -/
def AdminCall.holdsLock (c : AdminCall) : Bool := c.guarded && c.phase ≠ .ready

/-- The call can make its statement. -/
def AdminCall.mayWrite (c : AdminCall) : Bool :=
  if c.guarded then c.phase = .cleared else c.phase = .ready

structure AdminSystem where
  db : AuthDB := {}
  calls : FMap UUID AdminCall := ∅

namespace AdminSystem

/-- `start` reads the target, with what a count returns and the clock; the others are the statements
of the transactions. -/
inductive Op
  | start (call : UUID) (request : AdminRequest) (count : Nat) (now : Time)
  | lock (call : UUID)
  | check (call : UUID)
  | count (call : UUID)
  | write (call : UUID)
  | commit (call : UUID)
  | rollback (call : UUID)
  deriving DecidableEq, Repr

/-- The call goes on. -/
def resume (s : AdminSystem) (call : UUID) (c : AdminCall) : AdminSystem :=
  { s with calls := s.calls.insert call c }

/-- The call has ended. -/
def finish (s : AdminSystem) (call : UUID) : AdminSystem :=
  { s with calls := s.calls.erase call }

variable (auth : AuthService)

/-- The reads and the decision of a call. -/
def start (s : AdminSystem) (call : UUID) (request : AdminRequest) (count : Nat) (now : Time) :
    AdminSystem :=
  match request.plan auth s.db count now with
  | .ok (some (write, guarded)) => s.resume call { write, guarded }
  | _ => s

/-- `lockAuthSuperAdminMutation`: waits while another transaction has the lock. -/
def lock (s : AdminSystem) (call : UUID) : AdminSystem :=
  match s.calls.get call with
  | some c =>
    if c.guarded ∧ c.phase = .ready ∧
        !s.calls.any (fun other held => decide (other ≠ call) && held.holdsLock) then
      s.resume call { c with phase := .locked }
    else s
  | none => s

/-- `txUserIsActiveSuperAdmin`, when the statement takes something away. -/
def check (s : AdminSystem) (call : UUID) : AdminSystem :=
  match s.calls.get call with
  | some c =>
    if c.guarded ∧ c.phase = .locked then
      s.resume call
        (if c.write.takesAway ∧ s.db.userIsActiveSuperAdmin c.write.userID then
          { c with phase := .counting }
        else { c with phase := .cleared })
    else s
  | none => s

/-- `txCountActiveSuperAdmins`: the last one stays. -/
def count (s : AdminSystem) (call : UUID) : AdminSystem :=
  match s.calls.get call with
  | some c =>
    if c.guarded ∧ c.phase = .counting then
      if s.db.activeSuperAdmins.card ≤ 1 then s.finish call
      else s.resume call { c with phase := .cleared }
    else s
  | none => s

/-- Another transaction has written the row. -/
def rowLocked (s : AdminSystem) (call : UUID) (write : AdminWrite) : Bool :=
  s.calls.any fun other held =>
    decide (other ≠ call ∧ held.phase = .written true) && held.write.sameRow write

/-- `UPDATE users`: outside a transaction it commits at once. -/
def writeUpdate (s : AdminSystem) (call : UUID) (c : AdminCall) (id : UUID) (next : User) :
    AdminSystem :=
  if s.rowLocked call c.write then s
  else
    match s.db.updateUser id next with
    | .error _ => s.finish call
    | .ok _ =>
      if c.guarded then s.resume call { c with phase := .written true }
      else { s.finish call with db := c.write.apply s.db }

/-- The statement of a call. A delete does not wait for a row it does not see; an insert of a row
that is there does nothing. -/
def write (s : AdminSystem) (call : UUID) : AdminSystem :=
  match s.calls.get call with
  | some c =>
    if c.mayWrite then
      match c.write with
      | .update id next => s.writeUpdate call c id next
      | .insertRole id roleID =>
        if s.rowLocked call c.write then s
        else if s.db.users.get id = none then s.finish call
        else s.resume call { c with phase := .written (decide ((id, roleID) ∉ s.db.userRoles)) }
      | .deleteRole id roleID =>
        if (id, roleID) ∉ s.db.userRoles then s.resume call { c with phase := .written false }
        else if s.rowLocked call c.write then s
        else s.resume call { c with phase := .written true }
    else s
  | none => s

/-- The end of a transaction. -/
def commit (s : AdminSystem) (call : UUID) : AdminSystem :=
  match s.calls.get call with
  | some c =>
    match c.phase with
    | .written true => { s.finish call with db := c.write.apply s.db }
    | .written false => s.finish call
    | _ => s
  | none => s

/-- One statement of one call; a rollback can come at any point. -/
def step (s : AdminSystem) : Op → AdminSystem
  | .start call request count now => s.start auth call request count now
  | .lock call => s.lock call
  | .check call => s.check call
  | .count call => s.count call
  | .write call => s.write call
  | .commit call => s.commit call
  | .rollback call => s.finish call

end AdminSystem

end Theia
