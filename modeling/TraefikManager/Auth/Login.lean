import TraefikManager.Auth.LoginAnomaly
import TraefikManager.Auth.User

/-!
# The login request

A login request runs in a database session of its own: it reads the protection
settings, refuses blocked addresses, may demand an additional challenge,
authenticates the user, and then either records the failure and raises or
issues a session and commits. The password comparisons made are counted outside
the database, so that a refusal before the comparison can be told from one
after it.
-/

namespace TraefikManager.Auth

open Foundation

/-- The part of the deployment settings that login reads. -/
structure LoginSettings where
  loginMaxFailedAttempts : Int := 5
  loginFailureWindowMinutes : Int := 15
  loginLockoutMinutes : Int := 15
  loginSuspiciousWindowMinutes : Int := 15
  loginSuspiciousFailureCount : Int := 5
  loginSuspiciousUsernameCount : Int := 3
  loginSuspiciousBlockMinutes : Int := 30
  loginSuspiciousBlockEscalationEnabled : Bool := false
  loginSuspiciousBlockEscalationWindowMinutes : Int := 1440
  loginSuspiciousBlockEscalationMultiplier : Int := 2
  loginSuspiciousBlockMaxMinutes : Int := 1440
  sessionAbsoluteMinutes : Int := 10080
  sessionIdleMinutes : Int := 480
  deriving DecidableEq, Repr

/-- A row of the `auth_sessions` table, as login writes it. -/
structure AuthSessionModel where
  id : String
  userId : Uuid
  username : String
  role : UserRole
  tokenVersion : Int
  sessionSecretHash : String
  issuedAt : Datetime
  lastSeenAt : Datetime
  expiresAt : Datetime
  idleExpiresAt : Datetime
  ipAddress : String
  userAgent : Option String
  deriving DecidableEq, Repr

/-- `SQLiteAuthSessionRepository.save`: an existing row keeps its user and its
issue time. -/
def saveAuthSession (sessions : List AuthSessionModel) (session : AuthSessionModel) :
    List AuthSessionModel :=
  if sessions.any fun model => model.id = session.id then
    sessions.map fun model =>
      if model.id = session.id then
        { session with userId := model.userId, issuedAt := model.issuedAt }
      else model
  else
    sessions ++ [session]

/-- What SQLite keeps of a session row. -/
def AuthSessionModel.persisted (model : AuthSessionModel) : AuthSessionModel :=
  { model with issuedAt := model.issuedAt.persisted, lastSeenAt := model.lastSeenAt.persisted,
               expiresAt := model.expiresAt.persisted,
               idleExpiresAt := model.idleExpiresAt.persisted }

/-- The tables a login reads and writes. The settings table is a function from
keys to the stored text. -/
structure AuthDatabase where
  users : UserTable
  auditLogs : List AuditLogModel := []
  authSessions : List AuthSessionModel := []
  systemSettings : String → Option String := fun _ => none

/-- What SQLite keeps of the tables. -/
def AuthDatabase.persisted (database : AuthDatabase) : AuthDatabase :=
  { database with users := database.users.persisted
                  auditLogs := database.auditLogs.map AuditLogModel.persisted
                  authSessions := database.authSessions.map AuthSessionModel.persisted }

/-- A database session of a login; outside it stands the number of password
comparisons made so far. -/
abbrev LoginSession := Session AuthDatabase Nat

abbrev LoginProgram : Type → Type := Program PyException LoginSession

/-- What the code relies on outside the repository: the hash comparison and the
delivery of alerts. -/
structure LoginEnvironment where
  settings : LoginSettings := {}
  verifyPassword : String → String → Bool
  notifyIfNeeded : AuditLogModel → Option AlertDelivery := fun _ => none

/-- One login request: the form, the address, the challenge and its verdict, the
credentials drawn for a session, and the clock readings taken on the way. -/
structure LoginRequest where
  username : String
  password : String
  clientIp : String
  userAgent : Option String := none
  turnstileToken : String := ""
  turnstileVerified : Bool := false
  sessionId : String := ""
  sessionSecretHash : String := ""
  protectionClock : Int
  authenticationClock : Int
  recordingClock : Int
  issuingClock : Int
  deriving DecidableEq, Repr

section Database

variable {α : Type}

/-- A query on the open transaction. -/
def query (read : AuthDatabase → α) : LoginProgram α := do
  let session ← get
  pure (read session.working)

/-- A write in the open transaction. -/
def write (change : AuthDatabase → AuthDatabase) : LoginProgram PUnit :=
  modify fun session => { session with working := change session.working }

/-- `db.commit()`. -/
def commit : LoginProgram PUnit :=
  modify fun session => { session with stored := session.working.persisted }

@[simp] theorem ensures_query {read : AuthDatabase → α} {normal : α → LoginSession → Prop}
    {raised : PyException → LoginSession → Prop} :
    Program.Ensures (query read) normal raised =
      fun session => normal (read session.working) session := by
  simp [query]

@[simp] theorem ensures_write {change : AuthDatabase → AuthDatabase}
    {normal : PUnit → LoginSession → Prop} {raised : PyException → LoginSession → Prop} :
    Program.Ensures (write change) normal raised =
      fun session => normal ⟨⟩ { session with working := change session.working } := by
  simp [write]

@[simp] theorem ensures_commit {normal : PUnit → LoginSession → Prop}
    {raised : PyException → LoginSession → Prop} :
    Program.Ensures commit normal raised =
      fun session => normal ⟨⟩ { session with stored := session.working.persisted } := by
  simp [commit]

end Database

section Protection

/-- `get_bool_system_setting`. -/
def getBoolSystemSetting (key : String) (default : Bool) : LoginProgram Bool := do
  match ← query (·.systemSettings key) with
  | none => pure default
  | some value => pure (Text.lower (Text.strip value) = "true")

/-- `get_int_system_setting`. -/
def getIntSystemSetting (key : String) (default : Int) : LoginProgram Int := do
  match ← query (·.systemSettings key) with
  | none => pure default
  | some value => pure ((Text.parseInt value).getD default)

/-- `split_multivalue_setting`: commas and line ends separate, blank items are
dropped. -/
def splitMultivalueSetting (value : Option String) : List String :=
  match value with
  | none => []
  | some text =>
      ((text.toList.splitOnP fun c => c = ',' ∨ Text.isLineBreak c).map fun item =>
        String.ofList (Text.stripChars item)).filter (· ≠ "")

/-- `normalize_trusted_networks`. -/
def normalizeTrustedNetworks (value : List String) : Except PyException (List String) :=
  ((value.map Text.strip).filter (· ≠ "")).mapM fun item =>
    match Ip.ipNetwork item with
    | some network => .ok network.text
    | none => .error (.valueError "유효한 IP 또는 CIDR 대역만 입력할 수 있습니다")

inductive TurnstileMode where
  | off
  | always
  | riskBased
  deriving DecidableEq, Repr

/-- `get_turnstile_mode`: the stored mode, else the older switch. -/
def getTurnstileMode : LoginProgram TurnstileMode := do
  let storedMode := Text.lower (Text.strip ((← query (·.systemSettings "login_turnstile_mode")).getD ""))
  if storedMode = "off" then pure .off
  else if storedMode = "always" then pure .always
  else if storedMode = "risk_based" then pure .riskBased
  else
    let legacyEnabled ← getBoolSystemSetting "login_turnstile_enabled" false
    pure (if legacyEnabled then .always else .off)

structure LoginProtectionContext where
  current : Datetime
  clientIp : String
  trustedNetworks : List String
  suspiciousBlock : SuspiciousBlockSettings

/-- `build_login_protection_context`. -/
def buildLoginProtectionContext (settings : LoginSettings) (request : LoginRequest) :
    LoginProgram LoginProtectionContext := do
  let trustedText ← query (·.systemSettings "login_suspicious_trusted_networks")
  let trustedNetworks ←
    Program.ofExcept (normalizeTrustedNetworks (splitMultivalueSetting trustedText))
  let blockEnabled ← getBoolSystemSetting "login_suspicious_block_enabled" true
  let escalationEnabled ← getBoolSystemSetting "login_suspicious_block_escalation_enabled"
    settings.loginSuspiciousBlockEscalationEnabled
  let escalationWindowMinutes ←
    getIntSystemSetting "login_suspicious_block_escalation_window_minutes"
      settings.loginSuspiciousBlockEscalationWindowMinutes
  let escalationMultiplier ← getIntSystemSetting "login_suspicious_block_escalation_multiplier"
    settings.loginSuspiciousBlockEscalationMultiplier
  let maxMinutes ← getIntSystemSetting "login_suspicious_block_max_minutes"
    settings.loginSuspiciousBlockMaxMinutes
  pure
    { current := .utc request.protectionClock
      clientIp := request.clientIp
      trustedNetworks
      suspiciousBlock :=
        { blockWindow := Timedelta.minutes settings.loginSuspiciousBlockMinutes
          blockEnabled
          trustedNetworks
          escalationEnabled
          escalationWindow := some (Timedelta.minutes escalationWindowMinutes)
          escalationMultiplier
          maxBlockWindow := some (Timedelta.minutes maxMinutes) } }

/-- The answer to every refused login. -/
def invalidCredentials : PyException :=
  .httpException 401 "아이디 또는 비밀번호가 올바르지 않습니다"

def turnstileFailed : PyException := .httpException 400 "추가 로그인 검증에 실패했습니다"

/-- Add records to the audit log of the open transaction. -/
def addAuditLogs (logs : List AuditLogModel) : LoginProgram PUnit :=
  write fun database => { database with auditLogs := database.auditLogs ++ logs }

/-- `enforce_login_suspicious_ip_block`. -/
def enforceLoginSuspiciousIpBlock (environment : LoginEnvironment)
    (context : LoginProtectionContext) (request : LoginRequest) : LoginProgram PUnit := do
  let auditLogs ← query (·.auditLogs)
  let (blocked, added) := enforceSuspiciousIpBlockIfNeeded context.suspiciousBlock
    environment.notifyIfNeeded auditLogs context.clientIp context.current request.recordingClock
  addAuditLogs added
  if blocked then throw invalidCredentials else pure ⟨⟩

/-- `is_turnstile_required`. -/
def isTurnstileRequired (settings : LoginSettings) (context : LoginProtectionContext) :
    LoginProgram Bool := do
  match ← getTurnstileMode with
  | .off => pure false
  | .always => pure true
  | .riskBased =>
      let auditLogs ← query (·.auditLogs)
      pure (shouldRequireTurnstileForIp auditLogs context.clientIp context.current
        (Timedelta.minutes settings.loginFailureWindowMinutes)
        (max 2 (settings.loginMaxFailedAttempts - 2)) context.trustedNetworks)

/-- `verify_turnstile_if_required`. -/
def verifyTurnstileIfRequired (settings : LoginSettings) (context : LoginProtectionContext)
    (request : LoginRequest) : LoginProgram PUnit := do
  if ← isTurnstileRequired settings context then
    let siteKey := (← query (·.systemSettings "login_turnstile_site_key")).getD ""
    let secretKey := (← query (·.systemSettings "login_turnstile_secret_key")).getD ""
    let token := Text.strip request.turnstileToken
    if token = "" ∨ siteKey = "" ∨ secretKey = "" then throw turnstileFailed
    else if request.turnstileVerified then pure ⟨⟩
    else throw turnstileFailed
  else
    pure ⟨⟩

end Protection

section Authentication

inductive AuthenticationFailureReason where
  | invalidCredentials
  | locked
  deriving DecidableEq, Repr

structure AuthenticationResult where
  authenticatedUser : Option User
  subjectUser : Option User := none
  failureReason : Option AuthenticationFailureReason := none
  lockedUntil : Option Datetime := none
  deriving DecidableEq, Repr

/-- `verify_password`, counted. -/
def verifyPassword (environment : LoginEnvironment) (plain hashed : String) :
    LoginProgram Bool := do
  modify fun session => { session with outside := session.outside + 1 }
  pure (environment.verifyPassword plain hashed)

/-- `SQLiteUserRepository.save` in the open transaction. -/
def saveUser (user : User) : LoginProgram PUnit :=
  write fun database => { database with users := database.users.save user }

/-- The branch of `authenticate_user` after the lock check: compare the hash,
count a failure, or clear the counters. -/
def checkPassword (environment : LoginEnvironment) (user : User) (password : String)
    (current : Datetime) : LoginProgram AuthenticationResult := do
  let settings := environment.settings
  if ← verifyPassword environment password user.hashedPassword then
    if user.failedLoginAttempts ≠ 0 ∨ user.lastFailedLoginAt ≠ none ∨ user.lockedUntil ≠ none then
      let user := user.registerLoginSuccess
      saveUser user
      pure { authenticatedUser := some user, subjectUser := some user }
    else
      pure { authenticatedUser := some user, subjectUser := some user }
  else
    let user ← Program.ofExcept (user.registerLoginFailure
      (max 1 settings.loginMaxFailedAttempts)
      (Timedelta.minutes (max 1 settings.loginFailureWindowMinutes))
      (Timedelta.minutes (max 1 settings.loginLockoutMinutes)) current)
    saveUser user
    let locked ← Program.ofExcept (user.isLoginLocked current)
    pure { authenticatedUser := none, subjectUser := some user
           failureReason := some (if locked then .locked else .invalidCredentials)
           lockedUntil := user.lockedUntil }

/-- `AuthUseCases.authenticate_user`. -/
def authenticateUser (environment : LoginEnvironment) (username password : String)
    (current : Datetime) : LoginProgram AuthenticationResult := do
  let users ← query (·.users)
  match ← Program.ofExcept (users.findByUsername (Text.strip username)) with
  | none => pure { authenticatedUser := none, failureReason := some .invalidCredentials }
  | some user =>
      if user.isActive then
        let (user, cleared) ← Program.ofExcept (user.clearExpiredLoginLock current)
        if cleared then saveUser user else pure ⟨⟩
        if ← Program.ofExcept (user.isLoginLocked current) then
          pure { authenticatedUser := none, subjectUser := some user
                 failureReason := some .locked, lockedUntil := user.lockedUntil }
        else
          checkPassword environment user password current
      else
        pure { authenticatedUser := none, failureReason := some .invalidCredentials }

end Authentication

section Handler

/-- `reject_failed_login`: the failure is recorded in the open transaction, and
then the request is refused. -/
def rejectFailedLogin (environment : LoginEnvironment) (context : LoginProtectionContext)
    (request : LoginRequest) (authResult : AuthenticationResult) : LoginProgram PUnit := do
  let settings := environment.settings
  let username := Text.strip request.username
  let event := if authResult.failureReason = some .locked then "login_locked" else "login_failure"
  addAuditLogs (auditRecord environment.notifyIfNeeded (orElse username "anonymous") "update" "user"
    (match authResult.subjectUser with
      | some user => user.id.text
      | none => Text.takeChars 36 (orElse username "unknown"))
    (match authResult.subjectUser with
      | some user => user.username
      | none => orElse username "unknown")
    (some [("event", .text event), ("client_ip", .text context.clientIp),
      ("locked_until", match authResult.lockedUntil with
        | some moment => .isoformat moment
        | none => .null)])
    request.recordingClock)
  let auditLogs ← query (·.auditLogs)
  addAuditLogs (recordSuspiciousLoginActivityIfNeeded environment.notifyIfNeeded auditLogs
    context.clientIp context.current
    (Timedelta.minutes settings.loginSuspiciousWindowMinutes)
    settings.loginSuspiciousFailureCount settings.loginSuspiciousUsernameCount
    context.trustedNetworks request.recordingClock)
  throw invalidCredentials

structure LoginResponse where
  username : String
  role : UserRole
  deriving DecidableEq, Repr

/-- `issue_successful_login_session`: it commits before it answers. -/
def issueSuccessfulLoginSession (environment : LoginEnvironment) (request : LoginRequest)
    (user : User) : LoginProgram LoginResponse := do
  let settings := environment.settings
  let issuedAt := Datetime.utc request.issuingClock
  let authSession : AuthSessionModel :=
    { id := Text.strip request.sessionId
      userId := user.id
      username := Text.strip user.username
      role := user.role
      tokenVersion := user.tokenVersion
      sessionSecretHash := Text.strip request.sessionSecretHash
      issuedAt
      lastSeenAt := issuedAt
      expiresAt := issuedAt.add (Timedelta.minutes settings.sessionAbsoluteMinutes)
      idleExpiresAt := issuedAt.add (Timedelta.minutes settings.sessionIdleMinutes)
      ipAddress := request.clientIp
      userAgent := request.userAgent }
  write fun database =>
    { database with authSessions := saveAuthSession database.authSessions authSession }
  commit
  pure { username := user.username, role := user.role }

/-- `login_handler`. -/
def loginHandler (environment : LoginEnvironment) (request : LoginRequest) :
    LoginProgram LoginResponse := do
  let context ← buildLoginProtectionContext environment.settings request
  enforceLoginSuspiciousIpBlock environment context request
  verifyTurnstileIfRequired environment.settings context request
  let authResult ← authenticateUser environment request.username request.password
    (.utc request.authenticationClock)
  match authResult.authenticatedUser with
  | some user => issueSuccessfulLoginSession environment request user
  | none =>
      rejectFailedLogin environment context request authResult
      throw invalidCredentials

/-- A login request in the session `get_db` yields. -/
def login (environment : LoginEnvironment) (request : LoginRequest) :
    LoginProgram LoginResponse :=
  Session.transaction commit (loginHandler environment request)

end Handler

end TraefikManager.Auth
