import TraefikManager.Auth.Login

/-!
# Login lockout over a run of requests

A failed login counts the failure on the user, saves the user, and then raises
the refusal through the database session, which rolls the count back. A
successful login commits, but only ever clears the counters. So the lock columns
of the stored rows are an invariant of every run of login requests. On a row
that does carry a lock the comparison of the stored, zone-less time with the
clock raises, and the login is refused before the password is looked at.
-/

namespace TraefikManager.Auth

open Foundation Foundation.Program

/-- The user name and the stored lock of each row. -/
def lockColumns (users : UserTable) : List (String × Option Datetime) :=
  users.rows.map fun model => (model.username, model.lockedUntil)

/-- The rows of the table are as SQLite returns them. -/
def Loaded (users : UserTable) : Prop := ∀ model ∈ users.rows, model.persisted = model

private theorem loaded_persisted (users : UserTable) : Loaded users.persisted := by
  intro model member
  obtain ⟨original, _, rfl⟩ := List.mem_map.mp member
  exact UserModel.persisted_persisted original

private theorem lockColumns_persisted (users : UserTable) :
    lockColumns users.persisted =
      (lockColumns users).map fun entry => (entry.1, entry.2.map Datetime.persisted) := by
  simp [lockColumns, UserTable.persisted, UserModel.persisted, Function.comp_def]

private theorem lockColumns_persisted_of_loaded {users : UserTable} (loaded : Loaded users) :
    lockColumns users.persisted = lockColumns users := by
  unfold lockColumns UserTable.persisted
  rw [List.map_map]
  refine List.map_congr_left fun model member => ?_
  simp [loaded model member]

section Table

/-- A found user is the entity of the one row with the name asked for. -/
theorem findByUsername_some {users : UserTable} {username : String} {user : User}
    (found : users.findByUsername username = .ok (some user)) :
    ∃ model, users.named (Text.strip username) = [model] ∧ user = model.toEntity := by
  unfold UserTable.findByUsername at found
  split at found
  · simp at found
  · rename_i model only
    exact ⟨model, only, by simpa using found.symm⟩
  · simp at found

private theorem mem_of_named {users : UserTable} {username : String} {model : UserModel}
    (only : users.named username = [model]) :
    model ∈ users.rows ∧ model.username = username := by
  have member : model ∈ users.named username := by simp [only]
  simpa [UserTable.named] using member

/-- Saving an entity that agrees with its row on name and lock leaves the lock
columns of the table as they are. -/
theorem lockColumns_save {users : UserTable} {model : UserModel} {user : User}
    (member : model ∈ users.rows) (sameId : user.id = model.id)
    (sameName : user.username = model.username)
    (sameLock : user.lockedUntil = model.lockedUntil) :
    lockColumns (users.save user) = lockColumns users := by
  have listed : user.id ∈ users.rows.map UserModel.id :=
    List.mem_map.mpr ⟨model, member, sameId.symm⟩
  unfold UserTable.save lockColumns
  simp only [listed, ↓reduceDIte, UserTable.overwrite, List.map_map]
  refine List.map_congr_left fun other otherMember => ?_
  by_cases same : other.id = user.id
  · have equal : other = model :=
      List.inj_on_of_nodup_map users.primaryKey otherMember member (same.trans sameId)
    subst equal
    simp [same, UserModel.ofEntity, sameName, sameLock]
  · simp [same]

end Table

section Protection

/-- What the steps before authentication leave alone. -/
def loginView (session : LoginSession) : AuthDatabase × UserTable × Nat :=
  (session.stored, session.working.users, session.outside)

variable {α : Type}

private theorem preserves_query (read : AuthDatabase → α) : Preserves loginView (query read) :=
  preserves_get.bind fun _ => preserves_pure _

private theorem preserves_addAuditLogs (logs : List AuditLogModel) :
    Preserves loginView (addAuditLogs logs) :=
  preserves_modify fun _ => rfl

private theorem preserves_getBoolSystemSetting (key : String) (default : Bool) :
    Preserves loginView (getBoolSystemSetting key default) := by
  refine (preserves_query _).bind fun value => ?_
  cases value <;> exact preserves_pure _

private theorem preserves_getIntSystemSetting (key : String) (default : Int) :
    Preserves loginView (getIntSystemSetting key default) := by
  refine (preserves_query _).bind fun value => ?_
  cases value <;> exact preserves_pure _

private theorem preserves_buildLoginProtectionContext (settings : LoginSettings)
    (request : LoginRequest) :
    Preserves loginView (buildLoginProtectionContext settings request) := by
  refine (preserves_query _).bind fun _ => ?_
  refine (preserves_ofExcept _).bind fun _ => ?_
  refine (preserves_getBoolSystemSetting _ _).bind fun _ => ?_
  refine (preserves_getBoolSystemSetting _ _).bind fun _ => ?_
  refine (preserves_getIntSystemSetting _ _).bind fun _ => ?_
  refine (preserves_getIntSystemSetting _ _).bind fun _ => ?_
  exact (preserves_getIntSystemSetting _ _).bind fun _ => preserves_pure _

private theorem preserves_enforceLoginSuspiciousIpBlock (environment : LoginEnvironment)
    (context : LoginProtectionContext) (request : LoginRequest) :
    Preserves loginView (enforceLoginSuspiciousIpBlock environment context request) := by
  refine (preserves_query _).bind fun auditLogs => ?_
  refine (preserves_addAuditLogs _).bind fun _ => ?_
  exact (preserves_throw _).ite (preserves_pure _)

private theorem preserves_getTurnstileMode : Preserves loginView getTurnstileMode := by
  refine (preserves_query _).bind fun storedMode => ?_
  refine (preserves_pure _).ite ((preserves_pure _).ite ((preserves_pure _).ite ?_))
  exact (preserves_getBoolSystemSetting _ _).bind fun _ => preserves_pure _

private theorem preserves_isTurnstileRequired (settings : LoginSettings)
    (context : LoginProtectionContext) :
    Preserves loginView (isTurnstileRequired settings context) := by
  refine preserves_getTurnstileMode.bind fun mode => ?_
  cases mode with
  | off => exact preserves_pure _
  | always => exact preserves_pure _
  | riskBased => exact (preserves_query _).bind fun _ => preserves_pure _

private theorem preserves_verifyTurnstileIfRequired (settings : LoginSettings)
    (context : LoginProtectionContext) (request : LoginRequest) :
    Preserves loginView (verifyTurnstileIfRequired settings context request) := by
  refine (preserves_isTurnstileRequired _ _).bind fun required => ?_
  refine Preserves.ite ?_ (preserves_pure _)
  refine (preserves_query _).bind fun siteKey => ?_
  refine (preserves_query _).bind fun secretKey => ?_
  exact (preserves_throw _).ite ((preserves_pure _).ite (preserves_throw _))

end Protection

section Authentication

private theorem clearExpiredLoginLock_unlocked {user : User} (unlocked : user.lockedUntil = none)
    (current : Datetime) : user.clearExpiredLoginLock current = .ok (user, false) := by
  simp [User.clearExpiredLoginLock, unlocked, pure, Except.pure]

private theorem isLoginLocked_unlocked {user : User} (unlocked : user.lockedUntil = none)
    (current : Datetime) : user.isLoginLocked current = .ok false := by
  simp [User.isLoginLocked, unlocked]

/-- A stored lock has no time zone, so the check against the clock raises. -/
theorem clearExpiredLoginLock_stored {user : User} {lockedUntil : Datetime}
    (locked : user.lockedUntil = some lockedUntil.persisted) (now : Int) :
    user.clearExpiredLoginLock (.utc now) =
      .error (.typeError "can't compare offset-naive and offset-aware datetimes") := by
  simp only [User.clearExpiredLoginLock, locked, Datetime.isAfter_persisted_utc, bind, Except.bind]

theorem Loaded.lockedUntil {users : UserTable} (loaded : Loaded users) {model : UserModel}
    {lockedUntil : Datetime} (member : model ∈ users.rows)
    (lock : model.lockedUntil = some lockedUntil) :
    model.toEntity.lockedUntil = some lockedUntil.persisted := by
  have kept : model.lockedUntil.map Datetime.persisted = model.lockedUntil :=
    congrArg UserModel.lockedUntil (loaded model member)
  change model.lockedUntil = some lockedUntil.persisted
  rw [← kept, lock]
  rfl

/-- What authentication guarantees about the tables: nothing is stored, and a
user it lets in has left the lock columns as they were. -/
def LocksKept (session : LoginSession) (result : AuthenticationResult) (next : LoginSession) :
    Prop :=
  next.stored = session.stored ∧
    (result.authenticatedUser ≠ none →
      lockColumns next.working.users = lockColumns session.working.users)

private theorem ensures_checkPassword (environment : LoginEnvironment) {model : UserModel}
    {password : String} {current : Datetime} {session : LoginSession}
    (member : model ∈ session.working.users.rows) (unlocked : model.lockedUntil = none) :
    Ensures (checkPassword environment model.toEntity password current) (LocksKept session)
      (fun _ next => next.stored = session.stored) session := by
  unfold checkPassword verifyPassword
  simp only [bind_assoc, pure_bind, ensures_bind, ensures_modify]
  split
  · -- The password is right: the counters are cleared or nothing is written.
    have cleared : lockColumns (session.working.users.save model.toEntity.registerLoginSuccess) =
        lockColumns session.working.users :=
      lockColumns_save member rfl rfl unlocked.symm
    split
    · simp [saveUser, LocksKept, cleared]
    · simp [LocksKept]
  · -- The password is wrong: whatever is written, nobody is authenticated.
    simp [saveUser, LocksKept]

private theorem ensures_authenticateUser (environment : LoginEnvironment)
    (username password : String)
    (now : Int) {session : LoginSession} (loaded : Loaded session.working.users) :
    Ensures (authenticateUser environment username password (.utc now)) (LocksKept session)
      (fun _ next => next.stored = session.stored) session := by
  unfold authenticateUser
  simp only [ensures_bind, ensures_query, ensures_ofExcept]
  refine ⟨fun result found => ?_, fun _ _ => trivial⟩
  cases result with
  | none => simp [LocksKept]
  | some user =>
      obtain ⟨model, only, rfl⟩ := findByUsername_some found
      have member := (mem_of_named only).1
      dsimp only
      split
      · cases lock : model.lockedUntil with
        | none =>
            have unlocked : model.toEntity.lockedUntil = none := lock
            simp only [clearExpiredLoginLock_unlocked unlocked, isLoginLocked_unlocked unlocked,
              Program.ofExcept, ensures_bind, ensures_pure, Bool.false_eq_true, ↓reduceIte]
            exact ensures_checkPassword environment member lock
        | some lockedUntil =>
            have locked := loaded.lockedUntil member lock
            simp [clearExpiredLoginLock_stored locked, Program.ofExcept]
      · simp [LocksKept]

/-- A user whose row carries a stored lock is not authenticated, and the password
is not compared. -/
theorem ensures_authenticateUser_locked (environment : LoginEnvironment)
    {username password : String} (now : Int) {session : LoginSession}
    (loaded : Loaded session.working.users) {model : UserModel} {lockedUntil : Datetime}
    (only : session.working.users.named (Text.strip username) = [model])
    (lock : model.lockedUntil = some lockedUntil) :
    Ensures (authenticateUser environment username password (.utc now))
      (fun result next => result.authenticatedUser = none ∧ next.outside = session.outside)
      (fun _ next => next.outside = session.outside) session := by
  have locked := loaded.lockedUntil (mem_of_named only).1 lock
  have found : session.working.users.findByUsername (Text.strip username) =
      .ok (some model.toEntity) := by
    simp [UserTable.findByUsername, only]
  unfold authenticateUser
  simp only [ensures_bind, ensures_query, found, Program.ofExcept, ensures_pure]
  split
  · simp [clearExpiredLoginLock_stored locked]
  · simp

end Authentication

section Request

/-- The stored rows are loaded ones, with the lock columns of `before`. -/
structure StoredLocks (before after : LoginSession) : Prop where
  columns : lockColumns after.stored.users = lockColumns before.stored.users
  loaded : Loaded after.stored.users

theorem StoredLocks.refl {session : LoginSession} (loaded : Loaded session.stored.users) :
    StoredLocks session session := ⟨rfl, loaded⟩

/-- The steps of a login up to and including authentication, with what the
handler does with the result left open. -/
theorem ensures_loginHandler {environment : LoginEnvironment} {request : LoginRequest}
    {normal : LoginResponse → LoginSession → Prop} {raised : PyException → LoginSession → Prop}
    {session : LoginSession}
    (refusal : ∀ failure next, loginView next = loginView session → raised failure next)
    (authentication : ∀ context next, loginView next = loginView session →
      Ensures (authenticateUser environment request.username request.password
          (.utc request.authenticationClock))
        (fun result => Ensures
          (match result.authenticatedUser with
            | some user => issueSuccessfulLoginSession environment request user
            | none => do
                rejectFailedLogin environment context request result
                throw invalidCredentials) normal raised) raised next) :
    Ensures (loginHandler environment request) normal raised session := by
  unfold loginHandler
  rw [ensures_bind]
  refine ((preserves_buildLoginProtectionContext _ _).ensures session).mono ?_ refusal
  intro context afterContext sameContext
  rw [ensures_bind]
  refine ((preserves_enforceLoginSuspiciousIpBlock environment context request).ensures
    afterContext).mono ?_ fun failure next same => refusal failure next (same.trans sameContext)
  intro _ afterBlock sameBlock
  rw [ensures_bind]
  refine ((preserves_verifyTurnstileIfRequired environment.settings context request).ensures
    afterBlock).mono ?_ fun failure next same =>
      refusal failure next (same.trans (sameBlock.trans sameContext))
  intro _ ready sameReady
  rw [ensures_bind]
  exact authentication context ready (sameReady.trans (sameBlock.trans sameContext))

/-- A rejected login raises; it stores nothing and compares nothing. -/
theorem ensures_rejectFailedLogin (environment : LoginEnvironment)
    (context : LoginProtectionContext) (request : LoginRequest) (result : AuthenticationResult)
    (session : LoginSession) :
    Ensures (rejectFailedLogin environment context request result) (fun _ _ => False)
      (fun _ next => next.stored = session.stored ∧ next.outside = session.outside) session := by
  simp [rejectFailedLogin, addAuditLogs]

/-- **One login keeps the stored locks.** Whether it is answered or refused, a
login request leaves the lock columns of the stored rows as they were. -/
theorem ensures_login (environment : LoginEnvironment) (request : LoginRequest)
    {session : LoginSession} (loaded : Loaded session.stored.users) :
    Ensures (login environment request) (fun _ next => StoredLocks session next)
      (fun _ next => StoredLocks session next) session := by
  have untouched : ∀ next : LoginSession, next.stored = session.stored →
      StoredLocks session next.rolledBack := by
    intro next same
    exact ⟨by simp [same], by simpa [same] using loaded⟩
  unfold login
  rw [Session.ensures_transaction]
  refine ensures_loginHandler ?_ ?_
  · intro _ next same
    exact untouched next (congrArg Prod.fst same)
  · intro context ready same
    have stored : ready.stored = session.stored := congrArg Prod.fst same
    have users : ready.working.users = session.stored.users := congrArg (·.2.1) same
    have readyLoaded : Loaded ready.working.users := users ▸ loaded
    refine (ensures_authenticateUser environment _ _ _ readyLoaded).mono ?_ ?_
    · rintro result next ⟨storedKept, columnsKept⟩
      cases authenticated : result.authenticatedUser with
      | none =>
          rw [ensures_bind]
          refine (ensures_rejectFailedLogin environment context request result next).mono ?_ ?_
          · exact fun _ _ impossible => impossible.elim
          · rintro _ final ⟨finalStored, _⟩
            exact untouched final (finalStored.trans (storedKept.trans stored))
      | some user =>
          have columns : lockColumns next.working.users = lockColumns session.stored.users := by
            rw [columnsKept (by simp [authenticated]), users]
          have committed : lockColumns next.working.users.persisted =
              lockColumns session.stored.users := by
            rw [lockColumns_persisted, columns, ← lockColumns_persisted,
              lockColumns_persisted_of_loaded loaded]
          simp only [issueSuccessfulLoginSession, ensures_bind, ensures_write, ensures_commit,
            ensures_pure]
          exact ⟨committed, loaded_persisted _⟩
    · intro _ next storedKept
      exact untouched next (storedKept.trans stored)

/-- A login for a user whose stored row carries a lock is refused, and the
password is not compared. -/
theorem ensures_login_locked (environment : LoginEnvironment) (request : LoginRequest)
    {session : LoginSession} (loaded : Loaded session.stored.users) {model : UserModel}
    {lockedUntil : Datetime}
    (only : session.stored.users.named (Text.strip (Text.strip request.username)) = [model])
    (lock : model.lockedUntil = some lockedUntil) :
    Ensures (login environment request) (fun _ _ => False)
      (fun _ next => next.outside = session.outside) session := by
  unfold login
  rw [Session.ensures_transaction]
  refine ensures_loginHandler ?_ ?_
  · intro _ next same
    exact congrArg (·.2.2) same
  · intro context ready same
    have outside : ready.outside = session.outside := congrArg (·.2.2) same
    have users : ready.working.users = session.stored.users := congrArg (·.2.1) same
    rw [← users] at loaded only
    rw [Text.strip_strip] at only
    refine (ensures_authenticateUser_locked environment _ loaded only lock).mono ?_ ?_
    · rintro result next ⟨nobody, kept⟩
      simp only [nobody, ensures_bind]
      refine (ensures_rejectFailedLogin environment context request result next).mono ?_ ?_
      · exact fun _ _ impossible => impossible.elim
      · rintro _ final ⟨_, finalOutside⟩
        simp [finalOutside, kept, outside]
    · intro _ next kept
      simp [kept, outside]

end Request

section Run

variable (environment : LoginEnvironment)

/-- The session a login request leaves behind, whichever way it ends. -/
def serve (session : LoginSession) (request : LoginRequest) : LoginSession :=
  finalState (login environment request) session

/-- The session a sequence of login requests leaves behind. -/
def serveAll (session : LoginSession) (requests : List LoginRequest) : LoginSession :=
  requests.foldl (serve environment) session

/-- A fresh session on what SQLite holds of the tables. -/
def openSession (database : AuthDatabase) : LoginSession :=
  ⟨database.persisted, database.persisted, 0⟩

/-- The request is refused and the password hash is not compared. -/
def RefusedUncompared (session : LoginSession) (request : LoginRequest) : Prop :=
  succeeds (login environment request) session = false ∧
    (serve environment session request).outside = session.outside

/-- The `locked_until` of the user's stored row. -/
def StoredLock (session : LoginSession) (username : String) (lockedUntil : Datetime) : Prop :=
  ∃ model, session.stored.users.named username = [model] ∧ model.lockedUntil = some lockedUntil

/-- The stored row of the user is locked after the attempts: its `locked_until` is later than the
last of them. -/
def LockedBeyond (session : LoginSession) (username : String) (attempts : List LoginRequest)
    (lockedUntil : Datetime) : Prop :=
  StoredLock session username lockedUntil ∧
    ∀ last ∈ attempts.getLast?, last.authenticationClock < lockedUntil.micros

/-- The request asks for this user. -/
def LoginRequest.isFor (request : LoginRequest) (username : String) : Bool :=
  Text.strip request.username = username

/-- The last requests for an existing active user, at least as many as the limit,
all carried a wrong password, and consecutive ones are at most the failure
window apart. -/
structure RepeatedFailures (database : AuthDatabase) (requests : List LoginRequest)
    (username : String) (attempts : List LoginRequest) : Prop where
  last : attempts <:+ requests.filter (·.isFor username)
  enough : max 1 environment.settings.loginMaxFailedAttempts ≤ attempts.length
  wrong : ∃ model, database.users.named username = [model] ∧ model.isActive = true ∧
    ∀ attempt ∈ attempts,
      environment.verifyPassword attempt.password model.hashedPassword = false
  close : attempts.IsChain fun first second =>
    first.authenticationClock ≤ second.authenticationClock ∧
      second.authenticationClock - first.authenticationClock ≤
        Timedelta.minutes (max 1 environment.settings.loginFailureWindowMinutes)

/-- Lockout survives: after repeated failures the stored row is locked beyond the
last of them, and whatever requests follow, every request for the user before the
stored end of the lock is refused without a password comparison. -/
def LockoutSurvives (database : AuthDatabase) (requests : List LoginRequest)
    (username : String) : Prop :=
  ∀ attempts, RepeatedFailures environment database requests username attempts →
    ∃ lockedUntil,
      LockedBeyond (serveAll environment (openSession database) requests) username attempts
          lockedUntil ∧
        ∀ later request, request.isFor username →
          request.authenticationClock < lockedUntil.micros →
            RefusedUncompared environment
              (serveAll environment (openSession database) (requests ++ later)) request

/-- The stored rows of a whole run keep their lock columns. -/
theorem storedLocks_serveAll {session : LoginSession} (loaded : Loaded session.stored.users)
    (requests : List LoginRequest) :
    StoredLocks session (serveAll environment session requests) := by
  induction requests generalizing session with
  | nil => exact .refl loaded
  | cons request rest ih =>
      have step : StoredLocks session (serve environment session request) :=
        (ensures_login environment request loaded).finalState
      have run := ih step.loaded
      exact ⟨run.columns.trans step.columns, run.loaded⟩

private theorem storedLock_iff (session : LoginSession) (username : String)
    (lockedUntil : Datetime) :
    StoredLock session username lockedUntil ↔
      (lockColumns session.stored.users).filter (·.1 = username) =
        [(username, some lockedUntil)] := by
  simp only [lockColumns, List.filter_map, List.map_eq_singleton_iff, Function.comp_def,
    Prod.mk.injEq]
  constructor
  · rintro ⟨model, only, lock⟩
    exact ⟨model, only, (mem_of_named only).2, lock⟩
  · rintro ⟨model, only, _, lock⟩
    exact ⟨model, only, lock⟩

/-- A run of login requests neither locks a stored row nor unlocks one. -/
theorem storedLock_serveAll_iff {session : LoginSession} (loaded : Loaded session.stored.users)
    (requests : List LoginRequest) (username : String) (lockedUntil : Datetime) :
    StoredLock (serveAll environment session requests) username lockedUntil ↔
      StoredLock session username lockedUntil := by
  rw [storedLock_iff, storedLock_iff, (storedLocks_serveAll environment loaded requests).columns]

private theorem refusedUncompared_of_storedLock {session : LoginSession}
    (loaded : Loaded session.stored.users) {request : LoginRequest} {username : String}
    {lockedUntil : Datetime} (asked : request.isFor username = true)
    (lock : StoredLock session username lockedUntil) :
    RefusedUncompared environment session request := by
  obtain ⟨model, only, locked⟩ := lock
  have name : Text.strip request.username = username := by
    simpa [LoginRequest.isFor] using asked
  exact (ensures_login_locked environment request loaded
    (by rwa [Text.strip_strip, name]) locked).raises

/-- **Lockout survives only if it was stored before.** For every database, every
run of login requests and every user, the lockout guarantee holds exactly when
repeated failures are met with a lock that the user's stored row already carried
before the run and that ends after the last of them. -/
theorem lockoutSurvives_iff (database : AuthDatabase) (requests : List LoginRequest)
    (username : String) :
    LockoutSurvives environment database requests username ↔
      ∀ attempts, RepeatedFailures environment database requests username attempts →
        ∃ lockedUntil, LockedBeyond (openSession database) username attempts lockedUntil := by
  have loaded : Loaded (openSession database).stored.users := loaded_persisted database.users
  constructor
  · intro survives attempts failures
    obtain ⟨lockedUntil, ⟨locked, after⟩, _⟩ := survives attempts failures
    exact ⟨lockedUntil,
      (storedLock_serveAll_iff environment loaded requests username lockedUntil).mp locked, after⟩
  · intro before attempts failures
    obtain ⟨lockedUntil, locked, after⟩ := before attempts failures
    have lockedAfter := fun run =>
      (storedLock_serveAll_iff environment loaded run username lockedUntil).mpr locked
    refine ⟨lockedUntil, ⟨lockedAfter requests, after⟩, fun later request asked _ => ?_⟩
    exact refusedUncompared_of_storedLock environment
      (storedLocks_serveAll environment loaded (requests ++ later)).loaded asked
      (lockedAfter (requests ++ later))

end Run

section Example

/-- One active user without any counted failure. -/
def aliceDatabase : AuthDatabase where
  users :=
    { rows := [{ id := ⟨1⟩, username := "alice", hashedPassword := "correct horse", role := .admin,
                 isActive := true, tokenVersion := 0 }]
      primaryKey := by simp }

/-- The stock settings, with a comparison that accepts exactly the stored text. -/
def aliceEnvironment : LoginEnvironment where
  verifyPassword := fun plain hashed => plain = hashed

/-- A wrong password for the user, at the given second. -/
def aliceAttempt (second : Int) : LoginRequest where
  username := "alice"
  password := "guess"
  clientIp := "203.0.113.9"
  protectionClock := second * 1000000
  authenticationClock := second * 1000000
  recordingClock := second * 1000000
  issuingClock := second * 1000000

/-- Five wrong passwords within five seconds leave the stored row without a lock. -/
theorem lockout_lost :
    ¬LockoutSurvives aliceEnvironment aliceDatabase ([0, 1, 2, 3, 4].map aliceAttempt) "alice" := by
  intro survives
  have failures : RepeatedFailures aliceEnvironment aliceDatabase
      ([0, 1, 2, 3, 4].map aliceAttempt) "alice" ([0, 1, 2, 3, 4].map aliceAttempt) :=
    { last := by decide
      enough := by decide
      wrong := ⟨_, rfl, rfl, by decide⟩
      close := by decide }
  obtain ⟨lockedUntil, ⟨locked, _⟩, _⟩ := survives _ failures
  rw [storedLock_serveAll_iff aliceEnvironment (loaded_persisted aliceDatabase.users)] at locked
  obtain ⟨model, only, lock⟩ := locked
  have unlocked : ∀ model ∈ (openSession aliceDatabase).stored.users.named "alice",
      model.lockedUntil = none := by decide
  simp [unlocked model (by simp [only])] at lock

end Example

end TraefikManager.Auth
