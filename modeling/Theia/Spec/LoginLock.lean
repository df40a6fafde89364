import Theia.Spec.AccountEdits

/-!
# The lock after failed logins

A login reads the clock before it executes its statement, so the statements of concurrent logins can
be committed in another order than that of their readings. The counter is incremented by the
statement itself and misses nothing. The lock is set from the reading of the failure that comes last,
and one with an older reading moves its end back.
-/

namespace Theia

/-- The statement that ends the part of `Login` in which it can be refused. -/
inductive LoginStatement
  | recordFailedLogin (passwordHash : String) (now : Time)
  | recordSuccessfulLogin (passwordHash : String) (now : Time)
  deriving DecidableEq, Repr

/-- A login statement that took effect. A failure says whether it found a lock that had run out. -/
inductive LoginRecord
  | failed (time : Time) (expired : Bool)
  | succeeded (time : Time)
  deriving DecidableEq, Repr

namespace LoginRecord

/-- The clock reading that the statement carries. -/
def time : LoginRecord → Time
  | .failed time _ | .succeeded time => time

/-- The failures since the last success or expired lock, with `start` of them before the records. -/
def failuresSince (start : Int) (log : List LoginRecord) : Int :=
  log.foldl
    (fun count record =>
      match record with
      | .failed _ expired => if expired then 1 else count + 1
      | .succeeded _ => 0)
    start

theorem failuresSince_cons (start : Int) (record : LoginRecord) (log : List LoginRecord) :
    failuresSince start (record :: log) = failuresSince (failuresSince start [record]) log :=
  rfl

end LoginRecord

namespace AuthDB

open LoginRecord List AccountSystem

variable {auth : AuthService} {id : UUID} {db db' : AuthDB} {row row' : User} {w time : Time}
  {statements : List LoginStatement}

variable (auth id) in
/-- A login statement of the user, as the service executes it. -/
def execLogin (db : AuthDB) : LoginStatement → Except AccountError AuthDB
  | .recordFailedLogin passwordHash now =>
    db.recordFailedLogin id passwordHash now auth.failedThreshold (now + auth.failedLockDuration)
  | .recordSuccessfulLogin passwordHash now => db.recordSuccessfulLogin id passwordHash now

variable (id) in
def loginRecord (db : AuthDB) : LoginStatement → LoginRecord
  | .recordFailedLogin _ now =>
    .failed now ((db.users.get id).any fun row => lockExpired row.lockedUntil now)
  | .recordSuccessfulLogin _ now => .succeeded now

variable (auth id) in
/-- Statements in the order of their commits: the tables at the end, and what took effect. -/
def execLogins : AuthDB → List LoginStatement → AuthDB × List LoginRecord
  | db, [] => (db, [])
  | db, statement :: rest =>
    match db.execLogin auth id statement with
    | .ok db' => ((execLogins db' rest).1, db.loginRecord id statement :: (execLogins db' rest).2)
    | .error _ => execLogins db rest

/-- What a record says of the user's row before and after. -/
inductive Recorded (auth : AuthService) (row row' : User) : LoginRecord → Prop
  | failed {time : Time} : row'.failedLoginAttempts = failedAttempts row time →
    (auth.failedThreshold ≤ row'.failedLoginAttempts →
      row'.lockedUntil = some (time + auth.failedLockDuration)) →
    Recorded auth row row' (.failed time (lockExpired row.lockedUntil time))
  | succeeded {time : Time} : row.lockedUntil = none ∨ lockExpired row.lockedUntil time = true →
    row'.failedLoginAttempts = 0 → Recorded auth row row' (.succeeded time)

section

variable (hrow : db.users.get id = some row)
include hrow

theorem execLogin_ok {statement : LoginStatement} (h : db.execLogin auth id statement = .ok db') :
    ∃ row', db'.users.get id = some row' ∧
      Recorded auth row row' (db.loginRecord id statement) := by
  cases statement with
  | recordFailedLogin passwordHash now =>
    obtain ⟨found, hfound, -, rfl⟩ := updateRow_ok h
    cases hrow.symm.trans hfound
    refine ⟨_, FMap.get_insert_self .., ?_⟩
    rw [loginRecord, hrow]
    exact .failed rfl fun hreached => if_pos hreached
  | recordSuccessfulLogin passwordHash now =>
    obtain ⟨found, hfound, hwhere, rfl⟩ := updateRow_ok h
    cases hrow.symm.trans hfound
    exact ⟨_, FMap.get_insert_self .., .succeeded (of_decide_eq_true hwhere).2.2 rfl⟩

omit hrow in
theorem Recorded.count {record : LoginRecord} (h : Recorded auth row row' record) :
    row'.failedLoginAttempts = failuresSince row.failedLoginAttempts [record] := by
  cases h with
  | failed hcount _ | succeeded _ hcount => exact hcount

/-- The lock of the row ends at a time or later, and the next failure renews it. -/
def LockedUntil (auth : AuthService) (row : User) (time : Time) : Prop :=
  auth.failedThreshold ≤ row.failedLoginAttempts ∧
    ∃ until_, row.lockedUntil = some until_ ∧ time ≤ until_

omit hrow in
theorem Recorded.keeps {record : LoginRecord} (h : Recorded auth row row' record)
    (hlocked : LockedUntil auth row (w + auth.failedLockDuration)) (hw : w ≤ record.time) :
    w + auth.failedLockDuration ≤ record.time ∨
      (∀ time, record ≠ .succeeded time) ∧ LockedUntil auth row' (w + auth.failedLockDuration) := by
  obtain ⟨hcount, until_, hlock, hle⟩ := hlocked
  cases h with
  | @failed time hattempts hnext =>
    by_cases hexpired : until_ ≤ time
    · exact .inl (hle.trans hexpired)
    · have hmore : failedAttempts row time = row.failedLoginAttempts + 1 := by
        simp [failedAttempts, lockExpired, hlock, hexpired]
      have hreached : auth.failedThreshold ≤ row'.failedLoginAttempts := by omega
      exact .inr ⟨nofun, hreached, _, hnext hreached, Int.add_le_add_right hw _⟩
  | succeeded hfree _ =>
    simp only [hlock, lockExpired, Option.any_some, decide_eq_true_eq, reduceCtorEq, false_or]
      at hfree
    exact .inl (hle.trans hfree)

theorem failedLoginAttempts_execLogins :
    ∃ row', (execLogins auth id db statements).1.users.get id = some row' ∧
      row'.failedLoginAttempts =
        failuresSince row.failedLoginAttempts (execLogins auth id db statements).2 := by
  induction statements generalizing db row with
  | nil => exact ⟨row, hrow, rfl⟩
  | cons statement statements ih =>
    rw [execLogins]
    split
    · rename_i db' hdb
      obtain ⟨row', hrow', hrec⟩ := execLogin_ok hrow hdb
      rw [failuresSince_cons, ← hrec.count]
      exact ih hrow'
    · exact ih hrow

/-- The readings of the records never decrease. -/
abbrev InOrder (log : List LoginRecord) : Prop :=
  log.Pairwise fun earlier later => earlier.time ≤ later.time

theorem succeeded_of_locked (hlocked : LockedUntil auth row (w + auth.failedLockDuration))
    (hw : ∀ record ∈ (execLogins auth id db statements).2, w ≤ record.time)
    (horder : InOrder (execLogins auth id db statements).2)
    (htime : .succeeded time ∈ (execLogins auth id db statements).2) :
    w + auth.failedLockDuration ≤ time := by
  induction statements generalizing db row with
  | nil => cases htime
  | cons statement statements ih =>
    rw [execLogins] at hw horder htime
    split at htime
    · rename_i db' hdb
      simp only [hdb] at hw horder
      obtain ⟨row', hrow', hrec⟩ := execLogin_ok hrow hdb
      obtain ⟨hlater, horder⟩ := pairwise_cons.1 horder
      obtain ⟨hw, hw'⟩ := forall_mem_cons.1 hw
      obtain hpast | ⟨hfailed, hlocked⟩ := hrec.keeps hlocked hw
      · -- every later reading is past the end as well
        obtain heq | htime := mem_cons.1 htime
        · rw [← heq] at hpast
          exact hpast
        · exact hpast.trans (hlater _ htime)
      · obtain heq | htime := mem_cons.1 htime
        · exact absurd heq.symm (hfailed time)
        · exact ih hrow' hlocked hw' horder htime
    · rename_i hdb
      simp only [hdb] at hw horder
      exact ih hrow hlocked hw horder htime

/-- A lock lasts for its duration from the failure that reached the threshold, when the statements
come in order. -/
theorem lock_lasts {older newer : List LoginRecord} {expired : Bool}
    (horder : InOrder (execLogins auth id db statements).2)
    (hlog : (execLogins auth id db statements).2 = older ++ .failed w expired :: newer)
    (hcount : auth.failedThreshold ≤
      failuresSince row.failedLoginAttempts (older ++ [.failed w expired]))
    (htime : .succeeded time ∈ newer) : w + auth.failedLockDuration ≤ time := by
  induction statements generalizing db row older with
  | nil => simp [execLogins] at hlog
  | cons statement statements ih =>
    rw [execLogins] at hlog horder
    split at hlog
    · rename_i db' hdb
      simp only [hdb] at horder
      obtain ⟨row', hrow', hrec⟩ := execLogin_ok hrow hdb
      obtain ⟨hlater, horder⟩ := pairwise_cons.1 horder
      cases older with
      | nil =>
        obtain ⟨hfirst, rfl⟩ := List.cons.inj hlog
        rw [hfirst] at hrec hlater
        rw [nil_append, ← hrec.count] at hcount
        cases hrec with
        | failed _ hlock =>
          exact succeeded_of_locked hrow' ⟨hcount, _, hlock hcount, le_rfl⟩ hlater horder htime
      | cons first older =>
        obtain ⟨hfirst, hlog⟩ := List.cons.inj hlog
        rw [cons_append, failuresSince_cons, ← hfirst, ← hrec.count] at hcount
        exact ih hrow' horder hlog hcount
    · rename_i hdb
      simp only [hdb] at horder
      exact ih hrow horder hlog hcount

end

/-- Any number of logins of a user, whose statements are committed in any order. The counter is the
number of failures since the last success or expired lock. Once they reach the threshold with a
failure of time `w`, no login succeeds with a reading before `w` and the lock duration, provided that
the readings are in the order of the commits. -/
theorem login_lock_holds (hrow : db.users.get id = some row) (statements : List LoginStatement) :
    (InOrder (execLogins auth id db statements).2 →
      ∀ older w expired newer time,
        (execLogins auth id db statements).2 = older ++ .failed w expired :: newer →
        auth.failedThreshold ≤
          failuresSince row.failedLoginAttempts (older ++ [.failed w expired]) →
        .succeeded time ∈ newer → w + auth.failedLockDuration ≤ time) ∧
    ∃ row', (execLogins auth id db statements).1.users.get id = some row' ∧
      row'.failedLoginAttempts =
        failuresSince row.failedLoginAttempts (execLogins auth id db statements).2 := by
  apply And.intro
  · intro horder older w expired newer time hlog hcount htime
    exact lock_lasts hrow horder hlog hcount htime
  · exact failedLoginAttempts_execLogins hrow

/-- The lock duration of the service. -/
abbrev quarter : Time := 15 * 60 * second

/-- Five failures, and a login after the lock. -/
def lockedAccount : List LoginStatement :=
  .replicate 5 (.recordFailedLogin "OldPassw0rd!" 1) ++
    [.recordSuccessfulLogin "OldPassw0rd!" (quarter + 1)]

theorem login_lock_holds_lockedAccount :
    1 + plainAuth.failedLockDuration ≤ quarter + 1 :=
  have hrow : oneAccount.db.users.get 1 = some oneAccount.ada := by
    decide +kernel
  (login_lock_holds hrow lockedAccount).1 (by decide +kernel) (.replicate 4 (.failed 1 false)) 1
    false [.succeeded (quarter + 1)] (quarter + 1) (by decide +kernel) (by decide +kernel)
    (by decide +kernel)

end AuthDB

namespace AccountSystem

/-- A login of ada up to the verification of the password. -/
def tryPassword (password : String) (now : Time) (call : UUID) : List Op :=
  [.loadLogin call ⟨"ada", password⟩ (some 1) now, .verifyLogin call]

/-- Six logins with a wrong password, no more than four of them at a time. The first, which is still
under way at the end, reads the clock before the others. -/
def sixGuesses : AccountSystem :=
  ([1, 2, 3, 4].flatMap (tryPassword "guess" 0) ++ [2, 3, 4].map (Op.recordFailure · 1) ++
    [5, 6].flatMap (tryPassword "guess" 1) ++ [5, 6].map (Op.recordFailure · 1)).foldl
      (step plainAuth plainBridge) oneAccount

/-- Five failures set the lock. The statement of the first login comes after them, with its older
reading, and ada is let in before the lock duration from the fifth failure is over. -/
theorem lock_shortened :
    sixGuesses.db.column 1 .failedLoginAttempts = some plainAuth.failedThreshold ∧
      sixGuesses.db.column 1 .lockedUntil = some (some (1 + plainAuth.failedLockDuration)) ∧
      ∃ now < 1 + plainAuth.failedLockDuration,
        ((Op.recordFailure 1 0 :: tryPassword "OldPassw0rd!" now 7 ++ [Op.recordSuccess 7 now]).foldl
          (step plainAuth plainBridge) sixGuesses).db.column 1 .lastLoginAt = some (some now) :=
  ⟨by decide +kernel, by decide +kernel, plainAuth.failedLockDuration, by decide +kernel,
    by decide +kernel⟩

end AccountSystem

end Theia
