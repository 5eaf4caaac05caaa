import Mathlib.Data.List.Sort
import TraefikManager.Auth.AuthSession
import TraefikManager.Foundation.Routines

/-!
# Requests that use and end sessions

A request that is authenticated, a logout, the end of one session or of all, and the clean-up, with
their awaits. `save` loads the row of a session again and writes the columns that differ from it,
or adds the row if there is none. A session that was touched is committed before the request goes
on.
-/

namespace TraefikManager.Auth

open Foundation Domain

section Rows

namespace AuthSession

open UserTable (column)

/-- What SQLite keeps of a session. -/
def persisted (authSession : AuthSession) : AuthSession :=
  { authSession with issuedAt := authSession.issuedAt.persisted
                     lastSeenAt := authSession.lastSeenAt.map Datetime.persisted
                     expiresAt := authSession.expiresAt.persisted
                     idleExpiresAt := authSession.idleExpiresAt.persisted
                     revokedAt := authSession.revokedAt.map Datetime.persisted }

/-- `AuthSession.revoke`. -/
def revoke (authSession : AuthSession) (revokedAt : Datetime) : AuthSession :=
  { authSession with revokedAt := some revokedAt.normalizeUtc }

/-- The row after the columns that differ from the loaded row were set. -/
def assign (loaded authSession current : AuthSession) : AuthSession :=
  { id := current.id
    userId := current.userId
    tokenVersion := column loaded.tokenVersion authSession.tokenVersion current.tokenVersion
    sessionSecretHash :=
      column loaded.sessionSecretHash authSession.sessionSecretHash current.sessionSecretHash
    issuedAt := current.issuedAt
    lastSeenAt := column loaded.lastSeenAt authSession.lastSeenAt current.lastSeenAt
    expiresAt := column loaded.expiresAt authSession.expiresAt current.expiresAt
    idleExpiresAt := column loaded.idleExpiresAt authSession.idleExpiresAt current.idleExpiresAt
    revokedAt := column loaded.revokedAt authSession.revokedAt current.revokedAt : AuthSession
  }.persisted

end AuthSession

/-- The `auth_sessions` table. Its primary key is part of it: no two rows have one id. -/
structure SessionTable where
  rows : List AuthSession
  primaryKey : (rows.map AuthSession.id).Nodup

namespace SessionTable

/-- The row with an id. -/
def find (sessions : SessionTable) (id : String) : Option AuthSession :=
  sessions.rows.find? fun row => row.id = id

/-- An `INSERT`: the id is unique. -/
def insert (sessions : SessionTable) (authSession : AuthSession) :
    Except PyException SessionTable :=
  if listed : authSession.id ∈ sessions.rows.map AuthSession.id then
    .error (.databaseError "UNIQUE constraint failed: auth_sessions.id")
  else
    .ok
      { rows := sessions.rows ++ [authSession.persisted]
        primaryKey := by
          rw [List.map_append, List.nodup_append]
          refine ⟨sessions.primaryKey, List.nodup_singleton _, ?_⟩
          rintro id inRows other isNew rfl
          exact listed (List.mem_singleton.mp isNew ▸ inRows) }

/-- The rows after an `UPDATE` of one of them. -/
def assignRows (rows : List AuthSession) (loaded authSession : AuthSession) : List AuthSession :=
  rows.map fun row => if row.id = authSession.id then loaded.assign authSession row else row

theorem map_id_assignRows (rows : List AuthSession) (loaded authSession : AuthSession) :
    (assignRows rows loaded authSession).map AuthSession.id = rows.map AuthSession.id := by
  rw [assignRows, List.map_map]
  apply List.map_congr_left
  intro row _
  by_cases same : row.id = authSession.id <;>
    simp [same, AuthSession.assign, AuthSession.persisted]

/-- An `UPDATE` of a row that was loaded before: it has to be there still. -/
def update (sessions : SessionTable) (loaded authSession : AuthSession) :
    Except PyException SessionTable :=
  if authSession.id ∉ sessions.rows.map AuthSession.id then
    .error (.databaseError "UPDATE statement on table 'auth_sessions' expected to update 1 row(s)")
  else
    .ok
      { rows := assignRows sessions.rows loaded authSession
        primaryKey := by rw [map_id_assignRows]; exact sessions.primaryKey }

/-- Whether `delete_inactive` takes a row: it has expired or was revoked. -/
def isInactive (now : Datetime) (row : AuthSession) : Bool :=
  row.expiresAt.micros < now.micros ∨ row.idleExpiresAt.micros < now.micros ∨ row.revokedAt ≠ none

/-- `SQLiteAuthSessionRepository.delete_inactive`. -/
def deleteInactive (sessions : SessionTable) (now : Datetime) : SessionTable where
  rows := sessions.rows.filter fun row => !isInactive now row
  primaryKey := sessions.primaryKey.sublist (List.filter_sublist.map _)

end SessionTable

/-- A statement of a transaction: a session with the row that `save` loaded for it, or the
clean-up. -/
inductive SessionWrite where
  | save (loaded : Option AuthSession) (authSession : AuthSession)
  | deleteInactive (now : Datetime)
  deriving DecidableEq, Repr

/-- What the requests share. The users are read only. -/
structure SessionData where
  users : UserTable
  sessions : SessionTable

/-- A statement. -/
def SessionWrite.apply (data : SessionData) : SessionWrite → Except PyException SessionData
  | .save (some loaded) authSession =>
      (data.sessions.update loaded authSession).map ({ data with sessions := · })
  | .save none authSession => (data.sessions.insert authSession).map ({ data with sessions := · })
  | .deleteInactive now => .ok { data with sessions := data.sessions.deleteInactive now }

/-- A transaction: all of its statements or none. -/
def commitWrites (writes : List SessionWrite) (data : SessionData) :
    Except PyException SessionData :=
  writes.foldlM SessionWrite.apply data

end Rows

section Repository

/-- A routine reports the id of the session with which it was accepted. -/
abbrev SessionRoutine (α : Type) := Routine PyException SessionData (List SessionWrite) String α

namespace SessionRepository

/-- `SQLiteAuthSessionRepository.find_by_id`. -/
def findById (sessionId : String) : SessionRoutine (Option AuthSession) :=
  .query fun data => (data.sessions.find sessionId).map AuthSession.postInit

/-- `SQLiteAuthSessionRepository.save`: the row is loaded again. -/
def save (authSession : AuthSession) : SessionRoutine SessionWrite := do
  let existing ← .query fun data => data.sessions.find authSession.id
  return .save existing authSession

/-- When the session was seen last, and issued, for the order of a list. -/
def seenKey (row : AuthSession) : List Int × Int :=
  ((row.lastSeenAt.map Datetime.micros).toList, row.issuedAt.micros)

/-- `SQLiteAuthSessionRepository.find_active_by_user_id`. -/
def findActiveByUserId (userId : String) (now : Datetime) : SessionRoutine (List AuthSession) :=
  .query fun data =>
    let active := data.sessions.rows.filter fun row =>
      row.userId = userId ∧ row.revokedAt = none ∧ now.micros < row.expiresAt.micros ∧
        now.micros < row.idleExpiresAt.micros
    (active.insertionSort fun first second =>
      (seenKey second).1 < (seenKey first).1 ∨
        (seenKey second).1 = (seenKey first).1 ∧ (seenKey second).2 ≤ (seenKey first).2).map
      AuthSession.postInit

end SessionRepository

end Repository

namespace Awaited

open SessionRepository

section Authentication

variable (environment : AccessEnvironment) (request : HttpRequest)

/-- `_touch_auth_session_if_due`, with the session it leaves; it commits. -/
def touchAuthSessionIfDue (authSession : AuthSession) (now : Datetime) :
    SessionRoutine AuthSession := do
  let lastSeenAt := authSession.lastSeenAt.getD authSession.issuedAt
  let elapsed ← .ofExcept (now.since lastSeenAt)
  if elapsed < sessionTouchInterval then return authSession
  else
    let idleTtl ← .ofExcept (authSession.idleExpiresAt.since lastSeenAt)
    let touched := authSession.touch now idleTtl
    let write ← save touched
    .commit [write] (return touched)

/-- The session of a cookie, when its secret matches. -/
def findAuthSession (cookieValue : String) : SessionRoutine AuthSession := do
  match parseSessionCookie cookieValue with
  | none => .fail invalidSession
  | some (sessionId, secret) =>
      let found ← SessionRepository.findById sessionId
      match found with
      | none => .fail invalidSession
      | some authSession =>
          if environment.hashSessionSecret secret = authSession.sessionSecretHash then
            return authSession
          else .fail invalidSession

/-- The user of a session, when the session still speaks for it. -/
def findSessionUser (authSession : AuthSession) : SessionRoutine User := do
  match Uuid.parse authSession.userId with
  | none => .fail (.valueError "badly formed hexadecimal UUID string")
  | some userId =>
      let found ← .query fun data => (data.users.find userId).map UserModel.toEntity
      match found with
      | none => .fail invalidSession
      | some user =>
          if ¬user.isActive then .fail invalidSession
          else if authSession.tokenVersion ≠ user.tokenVersion then .fail expiredSession
          else return user

/-- `resolve_authenticated_user`. What `get_current_user` checks after it only refuses requests
of the smoke administrator. -/
def resolveAuthenticatedUser : SessionRoutine (User × AuthSession) := do
  match orText (request.cookies environment.sessionCookieName) none with
  | none => .fail (.httpException 401 "로그인이 필요합니다")
  | some cookieValue =>
      let authSession ← findAuthSession environment cookieValue
      let now := Datetime.utc environment.now
      let isActive ← .ofExcept (authSession.isActive now)
      if isActive then
        let user ← findSessionUser authSession
        let _ ← .ofExcept (validateCsrf environment request)
        let touched ← touchAuthSessionIfDue authSession now
        .report touched.id (return (user, touched))
      else .fail expiredSession

end Authentication

section Handlers

variable (now : Datetime)

/-- `logout_handler`. -/
def logoutHandler (authSession : AuthSession) : SessionRoutine Unit := do
  let write ← save (authSession.revoke now)
  .commit [write] (return ())

/-- `logout_all_sessions_handler`. -/
def logoutAllSessionsHandler (userId : String) : SessionRoutine Unit := do
  let sessions ← findActiveByUserId userId now
  let writes ← sessions.mapM fun authSession => save (authSession.revoke now)
  .commit writes (return ())

/-- `revoke_session_handler`. -/
def revokeSessionHandler (sessionId userId : String) : SessionRoutine Unit := do
  let found ← SessionRepository.findById sessionId
  match found with
  | none => .fail (.httpException 404 "세션을 찾을 수 없습니다")
  | some authSession =>
      if authSession.userId ≠ userId ∨ authSession.revokedAt ≠ none then
        .fail (.httpException 404 "세션을 찾을 수 없습니다")
      else do
        let write ← save (authSession.revoke now)
        .commit [write] (return ())

/-- `cleanup_auth_state_once`, as far as it concerns sessions. -/
def cleanupAuthStateOnce : SessionRoutine Unit := .commit [.deleteInactive now] (return ())

end Handlers

section Requests

/-- What a request asks for once it was accepted. -/
inductive SessionAction where
  | none
  | logout
  | logoutAll
  | revokeSession (sessionId : String)
  deriving DecidableEq, Repr

/-- A request with the clock when it is authenticated and later, or a clean-up. -/
inductive SessionRequest where
  | authenticated (request : HttpRequest) (now : Int) (action : SessionAction) (later : Int)
  | cleanup (now : Int)

/-- The action of an accepted request. -/
def act (user : User) (authSession : AuthSession) (later : Datetime) :
    SessionAction → SessionRoutine Unit
  | .none => return ()
  | .logout => logoutHandler later authSession
  | .logoutAll => logoutAllSessionsHandler later user.id.text
  | .revokeSession sessionId => revokeSessionHandler later sessionId user.id.text

/-- The routine of a request. -/
def routine (environment : AccessEnvironment) : SessionRequest → SessionRoutine Unit
  | .authenticated request now action later => do
      let (user, authSession) ← resolveAuthenticatedUser { environment with now } request
      act user authSession (.utc later) action
  | .cleanup now => cleanupAuthStateOnce (.utc now)

end Requests

end Awaited

end TraefikManager.Auth
