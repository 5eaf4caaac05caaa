import TraefikManager.Foundation.Text
import Mathlib.Data.List.Sort

/-!
# Certificate preflight checks

Every preflight check of a domain is kept in the audit log, and so is every alert about a
failure that repeats. A new check is compared with what the log holds of the domain; what the
smoke test accounts did there does not count. Times are in microseconds.
-/

namespace TraefikManager.Monitoring

open Foundation

section Settings

/-- What is set about repeated failures; spans are in minutes. -/
structure CertificateDiagnosticsSettings where
  repeatAlertThreshold : ℕ
  repeatAlertWindowMinutes : ℕ
  repeatAlertCooldownMinutes : ℕ
  threshold_pos : 0 < repeatAlertThreshold

namespace CertificateDiagnosticsSettings

variable (config : CertificateDiagnosticsSettings)

/-- `timedelta(minutes=…)` of the window. -/
def window : Int := config.repeatAlertWindowMinutes * 60000000

def cooldown : Int := config.repeatAlertCooldownMinutes * 60000000

end CertificateDiagnosticsSettings

/-- The accounts of the smoke tests. -/
structure SmokeAccounts where
  viewerUsername : String := "traefik-smoke-viewer"
  adminUsername : String := "traefik-smoke-admin"

/-- `_is_smoke_actor`. -/
def SmokeAccounts.isSmokeActor (accounts : SmokeAccounts) (actor : String) : Bool :=
  actor = accounts.viewerUsername ∨ actor = accounts.adminUsername

end Settings

section Results

inductive PreflightStatus where
  | ok
  | warning
  | error
  deriving DecidableEq, Repr

/-- A status in `{"warning", "error"}`. -/
def PreflightStatus.failing : PreflightStatus → Bool
  | .ok => false
  | .warning | .error => true

inductive PreflightKey where
  | routerDetected
  | certResolver
  | dnsPublic
  | httpChallenge
  | httpsCertificate
  | recentAcmeFailure
  deriving DecidableEq, Repr

def PreflightKey.text : PreflightKey → String
  | .routerDetected => "router_detected"
  | .certResolver => "cert_resolver"
  | .dnsPublic => "dns_public"
  | .httpChallenge => "http_challenge"
  | .httpsCertificate => "https_certificate"
  | .recentAcmeFailure => "recent_acme_failure"

structure PreflightItem where
  key : PreflightKey
  label : String
  status : PreflightStatus
  detail : String
  deriving DecidableEq, Repr

structure PreflightResult where
  checkedAt : Int
  overallStatus : PreflightStatus
  recommendation : String
  items : List PreflightItem
  deriving DecidableEq, Repr

namespace PreflightResult

def failureItems (result : PreflightResult) : List PreflightItem :=
  result.items.filter (·.status.failing)

def failureKeys (result : PreflightResult) : List String :=
  result.failureItems.map (·.key.text)

end PreflightResult

/-- What makes two failures the same. -/
abbrev FailureSignature := PreflightStatus × List String

/-- The signature of a status and the keys that failed. -/
def failureSignature (status : PreflightStatus) (keys : List String) : Option FailureSignature :=
  if status.failing then
    let failingKeys := keys.insertionSort (· ≤ ·)
    if failingKeys.isEmpty then none else some (status, failingKeys)
  else none

def getPreflightFailureSignature (result : PreflightResult) : Option FailureSignature :=
  failureSignature result.overallStatus result.failureKeys

theorem status_of_failureSignature {status : PreflightStatus} {keys : List String}
    {signature : FailureSignature} (found : failureSignature status keys = some signature) :
    status.failing ∧ status = signature.1 := by
  unfold failureSignature at found
  split at found
  · rename_i failing
    dsimp only at found
    split at found
    · cases found
    · cases found
      exact ⟨failing, rfl⟩
  · cases found

end Results

section Log

/-- The detail of an alert about a repeated failure. -/
structure RepeatedFailureDetail where
  checkedAt : Int
  overallStatus : PreflightStatus
  recommendation : String
  consecutiveCount : ℕ
  repeatWindowMinutes : ℕ
  cooldownMinutes : ℕ
  failureKeys : List String
  failureDetails : List PreflightItem
  deriving DecidableEq, Repr

/-- The detail of a record about a certificate. -/
inductive CertificateDetail where
  | preflight (clientIp : Option String) (snapshot : PreflightResult)
  | repeatedFailure (clientIp : Option String) (alert : RepeatedFailureDetail)
  deriving DecidableEq, Repr

/-- A record of the audit log whose resource type is `certificate`. -/
structure CertificateLog where
  actor : String
  action : String
  resourceId : String
  resourceName : String
  detail : CertificateDetail
  deriving DecidableEq, Repr

/-- `serialize_preflight_detail`. -/
def serializePreflightDetail (result : PreflightResult) (clientIp : Option String) :
    CertificateDetail := .preflight clientIp result

/-- `serialize_repeated_failure_detail`. -/
def serializeRepeatedFailureDetail (config : CertificateDiagnosticsSettings)
    (result : PreflightResult) (clientIp : Option String) (consecutiveCount : ℕ) :
    CertificateDetail :=
  .repeatedFailure clientIp
    { checkedAt := result.checkedAt
      overallStatus := result.overallStatus
      recommendation := result.recommendation
      consecutiveCount := consecutiveCount
      repeatWindowMinutes := config.repeatAlertWindowMinutes
      cooldownMinutes := config.repeatAlertCooldownMinutes
      failureKeys := result.failureKeys
      failureDetails := result.failureItems }

def deserializePreflightSnapshot : CertificateDetail → Option PreflightResult
  | .preflight _ snapshot => some snapshot
  | .repeatedFailure _ _ => none

/-- What is read of an alert. -/
structure RepeatedFailureAlert where
  checkedAt : Int
  overallStatus : PreflightStatus
  failureKeys : List String
  deriving DecidableEq, Repr

def deserializeRepeatedFailureAlert : CertificateDetail → Option RepeatedFailureAlert
  | .preflight _ _ => none
  | .repeatedFailure _ alert =>
      if alert.overallStatus.failing then
        some ⟨alert.checkedAt, alert.overallStatus, alert.failureKeys⟩
      else none

def getRepeatedFailureAlertSignature (alert : RepeatedFailureAlert) : Option FailureSignature :=
  failureSignature alert.overallStatus alert.failureKeys

variable (accounts : SmokeAccounts)

/-- What is read of the records of a domain that no smoke test account made. -/
def listPrevious {α : Type} (deserialize : CertificateDetail → Option α)
    (logs : List CertificateLog) (domain : String) : List α :=
  (logs.filter fun log => log.resourceName = domain ∧ ¬ accounts.isSmokeActor log.actor).filterMap
    fun log => deserialize log.detail

/-- `list_previous_preflight_results`, of the log with its latest record first. -/
def listPreviousPreflightResults : List CertificateLog → String → List PreflightResult :=
  listPrevious accounts deserializePreflightSnapshot

def listPreviousRepeatedFailureAlerts :
    List CertificateLog → String → List RepeatedFailureAlert :=
  listPrevious accounts deserializeRepeatedFailureAlert

end Log

section Recording

variable (config : CertificateDiagnosticsSettings)

/-- A previous result goes on the streak of a new one. -/
def continuesStreak (current previous : PreflightResult) : Bool :=
  (getPreflightFailureSignature previous).isSome ∧
    previous.overallStatus = current.overallStatus ∧
    current.checkedAt - previous.checkedAt ≤ config.window ∧
    getPreflightFailureSignature previous = getPreflightFailureSignature current

/-- `calculate_preflight_failure_streak`. -/
def calculatePreflightFailureStreak (current : PreflightResult)
    (previousResults : List PreflightResult) : ℕ :=
  if (getPreflightFailureSignature current).isNone ∨ ¬ current.overallStatus.failing then 0
  else 1 + (previousResults.takeWhile (continuesStreak config current)).length

/-- `should_emit_repeated_failure_alert`: the last alert about the same failure decides. -/
def shouldEmitRepeatedFailureAlert (current : PreflightResult)
    (previousAlerts : List RepeatedFailureAlert) : Bool :=
  if (getPreflightFailureSignature current).isNone then false
  else
    match previousAlerts.find? fun alert =>
        getRepeatedFailureAlertSignature alert = getPreflightFailureSignature current with
    | some alert => config.cooldown < current.checkedAt - alert.checkedAt
    | none => true

structure PreflightCheck where
  actor : String
  domain : String
  result : PreflightResult
  clientIp : Option String

/-- What is returned about a recorded check. -/
structure PreflightTracking where
  previousResult : Option PreflightResult
  repeatedFailureStreak : ℕ
  repeatedFailureActive : Bool
  repeatedFailureEmitted : Bool
  deriving DecidableEq, Repr

variable (accounts : SmokeAccounts)

/-- What a check finds in the log. -/
def trackPreflight (logs : List CertificateLog) (check : PreflightCheck) : PreflightTracking :=
  let previousResults := listPreviousPreflightResults accounts logs check.domain
  let previousAlerts := listPreviousRepeatedFailureAlerts accounts logs check.domain
  let repeatedFailureStreak :=
    if accounts.isSmokeActor check.actor then 0
    else calculatePreflightFailureStreak config check.result previousResults
  { previousResult := previousResults.head?
    repeatedFailureStreak := repeatedFailureStreak
    repeatedFailureActive := config.repeatAlertThreshold ≤ repeatedFailureStreak
    repeatedFailureEmitted := repeatedFailureStreak = config.repeatAlertThreshold ∧
      shouldEmitRepeatedFailureAlert config check.result previousAlerts }

/-- The record of a check about its domain. -/
def certificateLog (check : PreflightCheck) (action : String) (detail : CertificateDetail) :
    CertificateLog where
  actor := check.actor
  action := action
  resourceId := String.ofList (check.domain.toList.take 36)
  resourceName := check.domain
  detail := detail

/-- `record_certificate_preflight_result`: the log with the new records in front, and what is
returned. -/
def recordCertificatePreflightResult (logs : List CertificateLog) (check : PreflightCheck) :
    List CertificateLog × PreflightTracking :=
  let tracking := trackPreflight config accounts logs check
  let recorded :=
    certificateLog check "test" (serializePreflightDetail check.result check.clientIp) :: logs
  if tracking.repeatedFailureEmitted then
    (certificateLog check "alert" (serializeRepeatedFailureDetail config check.result check.clientIp
      tracking.repeatedFailureStreak) :: recorded, tracking)
  else (recorded, tracking)

end Recording

end TraefikManager.Monitoring
