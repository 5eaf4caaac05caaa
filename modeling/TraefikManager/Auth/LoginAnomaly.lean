import TraefikManager.Auth.AuditLog
import TraefikManager.Foundation.IpNetwork

/-!
# Login anomaly detection

Which audit records of one address count, when they make a suspicious login,
when a suspicious login blocks the address and for how long, and when the
additional challenge is required. Every decision is recomputed from the records
inside a window that ends at the time of the request.
-/

namespace TraefikManager.Auth

open Foundation

/-- `load_recent_ip_logs`: the user records of the address since the cutoff. -/
def loadRecentIpLogs (auditLogs : List AuditLogModel) (clientIp : String) (cutoff : Datetime) :
    List AuditLogModel :=
  auditLogs.filter fun log =>
    log.resourceType = "user" ∧ log.action = "update" ∧
      log.detailValue "client_ip" = .text clientIp ∧
      cutoff.micros ≤ log.getLogCreatedAt.micros

/-- `is_trusted_client_ip`. Entries that are no network are skipped. -/
def isTrustedClientIp (clientIp : String) (trustedNetworks : List String) : Bool :=
  match Ip.ipAddress clientIp with
  | none => false
  | some address =>
      trustedNetworks.any fun network =>
        match Ip.ipNetwork network with
        | some network => network.contains address
        | none => false

section Policy

/-- Whether the record is one of the counted login failures. -/
def isLoginFailureEvent (log : AuditLogModel) : Bool :=
  log.hasEvent "login_failure" || log.hasEvent "login_locked"

/-- Whether the record alone calls for the additional challenge. -/
def isSecurityChallengeEvent (log : AuditLogModel) : Bool :=
  log.hasEvent "login_suspicious" || log.hasEvent "login_blocked_ip"

/-- `build_suspicious_login_detail`: the failures of the window become a
suspicious login when they are enough, concern enough user names, and none was
recorded as suspicious before. -/
def buildSuspiciousLoginDetail (logs : List AuditLogModel) (clientIp : String)
    (minFailures minUniqueUsernames : Int) : Option Detail :=
  if logs.any (·.hasEvent "login_suspicious") then
    none
  else
    let failureLogs := logs.filter isLoginFailureEvent
    let usernames := ((failureLogs.map (·.resourceName)).filter (· ≠ "")).dedup
    if (failureLogs.length : Int) < minFailures ∨ (usernames.length : Int) < minUniqueUsernames then
      none
    else
      some [("event", .text "login_suspicious"), ("client_ip", .text clientIp),
        ("failure_count", .int failureLogs.length),
        ("unique_usernames", .int usernames.length),
        ("usernames", .texts (usernames.insertionSort (· ≤ ·)))]

structure SuspiciousIpBlockDecision where
  blocked : Bool
  detail : Option Detail := none
  deriving DecidableEq, Repr

/-- `get_blocked_until`: the announced end if it can be read, else the announced
number of minutes, else the default window. -/
def getBlockedUntil (log : AuditLogModel) (defaultWindow : Timedelta) : Datetime :=
  match log.detailValue "blocked_until" with
  | .isoformat moment => moment.normalizeUtc
  | _ =>
      let blockMinutes : Int :=
        match log.detailValue "block_minutes" with
        | .int count => count
        | .bool value => if value then 1 else 0
        | .text digits => (Text.parseInt digits).getD 0
        | _ => 0
      if 0 < blockMinutes then
        log.getLogCreatedAt.add (Timedelta.minutes blockMinutes)
      else
        log.getLogCreatedAt.add defaultWindow

/-- The latest creation time among records, `initial` included. -/
def latestCreatedAt (initial : Datetime) (logs : List AuditLogModel) : Datetime :=
  logs.foldl
    (fun latest log =>
      if latest.micros < log.getLogCreatedAt.micros then log.getLogCreatedAt else latest) initial

/-- The block records sorted by creation time; the sort is stable. -/
def blockedLogs (logs : List AuditLogModel) : List AuditLogModel :=
  (logs.filter (·.hasEvent "login_blocked_ip")).insertionSort fun first second =>
    first.getLogCreatedAt.micros ≤ second.getLogCreatedAt.micros

/-- The minutes of a new block after `previousBlockCount` earlier ones. -/
def nextBlockMinutes (blockWindow : Timedelta) (escalationEnabled : Bool)
    (escalationMultiplier : Int) (maxBlockWindow : Option Timedelta)
    (previousBlockCount : Nat) : Int :=
  let baseBlockMinutes := max 1 (Timedelta.wholeMinutes blockWindow)
  if escalationEnabled then
    let escalated := baseBlockMinutes * escalationMultiplier ^ previousBlockCount
    match maxBlockWindow with
    | some window => min escalated (max 1 (Timedelta.wholeMinutes window))
    | none => escalated
  else
    baseBlockMinutes

/-- `decide_suspicious_ip_block`. -/
def decideSuspiciousIpBlock (logs : List AuditLogModel) (clientIp : String) (now : Datetime)
    (blockWindow : Timedelta) (escalationEnabled : Bool) (escalationMultiplier : Int)
    (maxBlockWindow : Option Timedelta) : SuspiciousIpBlockDecision :=
  match logs.filter (·.hasEvent "login_suspicious") with
  | [] => { blocked := false }
  | suspicious :: others =>
      let latestSuspiciousAt := latestCreatedAt suspicious.getLogCreatedAt others
      let blocked := blockedLogs logs
      let baseBlockMinutes := max 1 (Timedelta.wholeMinutes blockWindow)
      let blockMinutes := nextBlockMinutes blockWindow escalationEnabled escalationMultiplier
        maxBlockWindow blocked.length
      let newBlock : SuspiciousIpBlockDecision :=
        { blocked := true
          detail := some [("event", .text "login_blocked_ip"), ("client_ip", .text clientIp),
            ("source_event", .text "login_suspicious"),
            ("source_created_at", .isoformat latestSuspiciousAt),
            ("block_minutes", .int blockMinutes),
            ("blocked_until", .isoformat (now.add (Timedelta.minutes blockMinutes))),
            ("repeat_count", .int (if escalationEnabled then blocked.length + 1 else 1)),
            ("escalated", .bool (baseBlockMinutes < blockMinutes))] }
      match blocked.getLast? with
      | none => newBlock
      | some latestBlockLog =>
          if now.micros < (getBlockedUntil latestBlockLog blockWindow).micros then
            { blocked := true }
          else if latestSuspiciousAt.micros ≤ latestBlockLog.getLogCreatedAt.micros then
            { blocked := false }
          else
            newBlock

/-- `should_require_turnstile_from_logs`. -/
def shouldRequireTurnstileFromLogs (logs : List AuditLogModel) (failureThreshold : Int) : Bool :=
  logs.any isSecurityChallengeEvent ||
    decide (failureThreshold ≤ ((logs.filter isLoginFailureEvent).length : Int))

end Policy

section Service

/-- The settings of the suspicious address block. -/
structure SuspiciousBlockSettings where
  blockWindow : Timedelta
  blockEnabled : Bool := true
  trustedNetworks : List String := []
  escalationEnabled : Bool := false
  escalationWindow : Option Timedelta := none
  escalationMultiplier : Int := 2
  maxBlockWindow : Option Timedelta := none
  deriving DecidableEq, Repr

/-- How far back records are read. -/
def SuspiciousBlockSettings.effectiveLookupWindow (settings : SuspiciousBlockSettings) :
    Timedelta :=
  match settings.escalationEnabled, settings.escalationWindow with
  | true, some window => max settings.blockWindow window
  | _, _ => settings.blockWindow

/-- Whether the address is looked at, at all. -/
def SuspiciousBlockSettings.appliesTo (settings : SuspiciousBlockSettings) (clientIp : String) :
    Bool :=
  clientIp ≠ "" ∧ settings.blockEnabled ∧ ¬isTrustedClientIp clientIp settings.trustedNetworks

/-- `enforce_suspicious_ip_block_if_needed`: the verdict for the address at
`now`, and the records it adds when the block is new, at the clock `recordedAt`. -/
def enforceSuspiciousIpBlockIfNeeded (settings : SuspiciousBlockSettings)
    (notifyIfNeeded : AuditLogModel → Option AlertDelivery) (auditLogs : List AuditLogModel)
    (clientIp : String) (now : Datetime) (recordedAt : Int) : Bool × List AuditLogModel :=
  let now := now.normalizeUtc
  if settings.appliesTo clientIp then
    let logs := loadRecentIpLogs auditLogs clientIp (now.add (-settings.effectiveLookupWindow))
    let decision := decideSuspiciousIpBlock logs clientIp now settings.blockWindow
      settings.escalationEnabled settings.escalationMultiplier settings.maxBlockWindow
    match decision.blocked, decision.detail with
    | false, _ => (false, [])
    | true, none => (true, [])
    | true, some detail =>
        (true, auditRecord notifyIfNeeded "system" "update" "user" (Text.takeChars 36 clientIp)
          (Text.takeChars 255 clientIp) (some detail) recordedAt)
  else
    (false, [])

/-- `record_suspicious_login_activity_if_needed`: the records it adds. -/
def recordSuspiciousLoginActivityIfNeeded
    (notifyIfNeeded : AuditLogModel → Option AlertDelivery) (auditLogs : List AuditLogModel)
    (clientIp : String) (now : Datetime) (window : Timedelta)
    (minFailures minUniqueUsernames : Int) (trustedNetworks : List String) (recordedAt : Int) :
    List AuditLogModel :=
  let now := now.normalizeUtc
  if clientIp = "" ∨ isTrustedClientIp clientIp trustedNetworks then
    []
  else
    let logs := loadRecentIpLogs auditLogs clientIp (now.add (-window))
    match buildSuspiciousLoginDetail logs clientIp minFailures minUniqueUsernames with
    | none => []
    | some detail =>
        auditRecord notifyIfNeeded "system" "update" "user" (Text.takeChars 36 clientIp)
          (Text.takeChars 255 clientIp) (some detail) recordedAt

/-- `should_require_turnstile_for_ip`. -/
def shouldRequireTurnstileForIp (auditLogs : List AuditLogModel) (clientIp : String)
    (now : Datetime) (window : Timedelta) (failureThreshold : Int)
    (trustedNetworks : List String) : Bool :=
  let now := now.normalizeUtc
  if clientIp = "" ∨ failureThreshold ≤ 0 ∨ isTrustedClientIp clientIp trustedNetworks then
    false
  else
    shouldRequireTurnstileFromLogs (loadRecentIpLogs auditLogs clientIp (now.add (-window)))
      failureThreshold

end Service

end TraefikManager.Auth
