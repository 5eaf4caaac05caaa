import TraefikManager.Auth.UserManagement
import TraefikManager.Domain.Service

/-!
# Sessions of authenticated users

A request is authenticated by the session its cookie names. The session has to be known,
its secret has to match, it may be neither revoked nor expired, and its user has to be
active with the token version the session was issued for.
-/

namespace TraefikManager.Auth

open Foundation Domain

section Entity

/-- A session, with the fields that authenticating a request reads. -/
structure AuthSession where
  id : String
  userId : String
  tokenVersion : Int
  sessionSecretHash : String
  issuedAt : Datetime
  lastSeenAt : Option Datetime
  expiresAt : Datetime
  idleExpiresAt : Datetime
  revokedAt : Option Datetime := none
  deriving DecidableEq, Repr

namespace AuthSession

/-- `AuthSession.__post_init__`: every moment is read as UTC. -/
def postInit (authSession : AuthSession) : AuthSession :=
  { authSession with issuedAt := authSession.issuedAt.normalizeUtc
                     lastSeenAt := authSession.lastSeenAt.map Datetime.normalizeUtc
                     expiresAt := authSession.expiresAt.normalizeUtc
                     idleExpiresAt := authSession.idleExpiresAt.normalizeUtc
                     revokedAt := authSession.revokedAt.map Datetime.normalizeUtc }

/-- `AuthSession.is_active`. -/
def isActive (authSession : AuthSession) (now : Datetime) : Except PyException Bool := do
  let current := now.normalizeUtc
  if authSession.revokedAt ≠ none then pure false
  else if ← authSession.expiresAt.isAfter current then authSession.idleExpiresAt.isAfter current
  else pure false

/-- `AuthSession.touch`. -/
def touch (authSession : AuthSession) (now : Datetime) (idleTtl : Timedelta) : AuthSession :=
  let current := now.normalizeUtc
  { authSession with lastSeenAt := some current, idleExpiresAt := current.add idleTtl }

/-- `SQLiteAuthSessionRepository.save`: an existing row keeps its user and its issue time. -/
def save (rows : List AuthSession) (authSession : AuthSession) : List AuthSession :=
  if rows.any fun row => row.id = authSession.id then
    rows.map fun row =>
      if row.id = authSession.id then
        { authSession with userId := row.userId, issuedAt := row.issuedAt }
      else row
  else
    rows ++ [authSession]

end AuthSession

/-- `parse_session_cookie`: the identifier and the secret. -/
def parseSessionCookie (value : String) : Option (String × String) :=
  match Text.split '.' value with
  | [sessionId, secret] => if sessionId = "" ∨ secret = "" then none else some (sessionId, secret)
  | _ => none

end Entity

section Programs

/-- The tables that authenticating a request reads. -/
structure AccessDatabase where
  services : List Service := []
  users : UserTable := ⟨[], by simp⟩
  authSessions : List AuthSession := []

abbrev AccessSession := Session AccessDatabase PUnit

abbrev AccessProgram : Type → Type := Program PyException AccessSession

/-- A database session just opened. -/
def AccessDatabase.opened (database : AccessDatabase) : AccessSession := ⟨database, database, ⟨⟩⟩

/-- What an HTTP request brings. The names of headers are in lower case. -/
structure HttpRequest where
  method : String := "GET"
  headers : String → Option String := fun _ => none
  cookies : String → Option String := fun _ => none

/-- The settings and the clock, the keyed hash of session secrets, and whether the web
framework can encode a text as the value of a header. -/
structure AccessEnvironment where
  sessionCookieName : String := "tm_session"
  sessionCsrfCookieName : String := "tm_csrf"
  now : Int
  hashSessionSecret : String → String
  encodesHeader : String → Bool

def mutatingMethods : List String := ["POST", "PUT", "PATCH", "DELETE"]

def sessionTouchInterval : Timedelta := Timedelta.minutes 1

variable (environment : AccessEnvironment) (request : HttpRequest)

/-- `_validate_csrf`. -/
def validateCsrf : Except PyException Unit :=
  if String.ofList (request.method.toList.map Char.toUpper) ∉ mutatingMethods then .ok ()
  else
    let csrfCookie := orText (request.cookies environment.sessionCsrfCookieName) none
    let csrfHeader := orText (request.headers "x-csrf-token") none
    if csrfCookie = none ∨ csrfHeader = none ∨ csrfCookie ≠ csrfHeader then
      .error (.httpException 403 "CSRF 검증에 실패했습니다")
    else .ok ()

/-- `_touch_auth_session_if_due`, with the session it leaves; it commits. -/
def touchAuthSessionIfDue (authSession : AuthSession) (now : Datetime) :
    AccessProgram AuthSession := do
  let lastSeenAt := authSession.lastSeenAt.getD authSession.issuedAt
  let elapsed ← Program.ofExcept (now.since lastSeenAt)
  if elapsed < sessionTouchInterval then pure authSession
  else
    let idleTtl ← Program.ofExcept (authSession.idleExpiresAt.since lastSeenAt)
    let touched := authSession.touch now idleTtl
    modify fun session => { session with
      working := { session.working with
        authSessions := AuthSession.save session.working.authSessions touched } }
    modify fun session => { session with stored := session.working }
    pure touched

def invalidSession : PyException := .httpException 401 "유효하지 않은 세션입니다"

def expiredSession : PyException :=
  .httpException 401 "만료된 세션입니다. 다시 로그인해주세요"

/-- The session of a cookie, when its secret matches. -/
def findAuthSession (cookieValue : String) : AccessProgram AuthSession := do
  match parseSessionCookie cookieValue with
  | none => throw invalidSession
  | some (sessionId, secret) =>
      let session ← get
      match session.working.authSessions.find? (·.id = sessionId) with
      | none => throw invalidSession
      | some row =>
          let authSession := row.postInit
          if environment.hashSessionSecret secret = authSession.sessionSecretHash then
            pure authSession
          else throw invalidSession

/-- The user of a session, when the session still speaks for it. -/
def findSessionUser (authSession : AuthSession) : AccessProgram User := do
  match Uuid.parse authSession.userId with
  | none => throw (.valueError "badly formed hexadecimal UUID string")
  | some userId =>
      let session ← get
      match (session.working.users.find userId).map UserModel.toEntity with
      | none => throw invalidSession
      | some user =>
          if ¬user.isActive then throw invalidSession
          else if authSession.tokenVersion ≠ user.tokenVersion then throw expiredSession
          else pure user

/-- `resolve_authenticated_user`. -/
def resolveAuthenticatedUser : AccessProgram (User × AuthSession) := do
  match orText (request.cookies environment.sessionCookieName) none with
  | none => throw (.httpException 401 "로그인이 필요합니다")
  | some cookieValue =>
      let authSession ← findAuthSession environment cookieValue
      let now := Datetime.utc environment.now
      if ← Program.ofExcept (authSession.isActive now) then
        let user ← findSessionUser authSession
        Program.ofExcept (validateCsrf environment request)
        let authSession ← touchAuthSessionIfDue authSession now
        pure (user, authSession)
      else throw expiredSession

/-- The user whose session a request carries, when `resolve_authenticated_user` accepts it. -/
def acceptedUser (database : AccessDatabase) : Option User :=
  match resolveAuthenticatedUser environment request database.opened with
  | .ok (user, _) _ => some user
  | .error _ _ => none

end Programs

end TraefikManager.Auth
