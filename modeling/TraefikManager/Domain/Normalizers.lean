import TraefikManager.Foundation.Collect
import TraefikManager.Foundation.Dict
import TraefikManager.Foundation.IpNetwork
import TraefikManager.Runtime

/-!
# Normalizers of service fields

Each field of a service passes a normalizer that brings accepted input into one
form and refuses the rest. The list normalizers share one shape: every item is
refused, skipped or brought into form, and repetitions are dropped.
-/

namespace TraefikManager.Domain

open Foundation

inductive FramePolicy where
  | deny
  | sameorigin
  | off
  deriving DecidableEq, Repr

inductive AuthMode where
  | none
  | authentik
  | token
  deriving DecidableEq, Repr

inductive RoutingMode where
  | active
  | disabled
  | maintenance
  deriving DecidableEq, Repr

inductive UpstreamScheme where
  | http
  | https
  deriving DecidableEq, Repr

namespace FramePolicy

def text : FramePolicy → String
  | deny => "deny"
  | sameorigin => "sameorigin"
  | off => "off"

def all : List FramePolicy := [deny, sameorigin, off]

end FramePolicy

namespace AuthMode

def text : AuthMode → String
  | none => "none"
  | authentik => "authentik"
  | token => "token"

def all : List AuthMode := [none, authentik, token]

end AuthMode

namespace RoutingMode

def text : RoutingMode → String
  | active => "active"
  | disabled => "disabled"
  | maintenance => "maintenance"

def all : List RoutingMode := [active, disabled, maintenance]

end RoutingMode

namespace UpstreamScheme

def text : UpstreamScheme → String
  | http => "http"
  | https => "https"

def all : List UpstreamScheme := [http, https]

end UpstreamScheme

def defaultHealthcheckPath : String := "/"

def defaultHealthcheckTimeoutMs : Int := 3000

def maintenanceMessageMaxLength : Nat := 300

section Choices

/-- The member of an enumeration with this text, or the error of its field. -/
def choose {α : Type} (all : List α) (text : α → String) (message value : String) :
    Except PyException α :=
  match all.find? fun member => text member = value with
  | some member => .ok member
  | none => .error (.valueError message)

/-- `normalize_auth_mode`: the older switch decides when the mode is `none`. -/
def normalizeAuthMode (authMode : String) (authEnabled : Option Bool) :
    Except PyException AuthMode :=
  let normalized :=
    match authEnabled with
    | some enabled => if authMode = "none" then (if enabled then "authentik" else "none") else authMode
    | none => authMode
  choose AuthMode.all AuthMode.text "인증 모드는 none, authentik, token 중 하나여야 합니다" normalized

def normalizeFramePolicy (framePolicy : String) : Except PyException FramePolicy :=
  choose FramePolicy.all FramePolicy.text "frame_policy는 deny, sameorigin, off 중 하나여야 합니다"
    (Text.lower (Text.strip framePolicy))

def normalizeRoutingMode (routingMode : String) : Except PyException RoutingMode :=
  choose RoutingMode.all RoutingMode.text
    "라우팅 상태는 active, disabled, maintenance 중 하나여야 합니다"
    (Text.lower (Text.strip routingMode))

/-- `_validate_upstream_scheme`. -/
def validateUpstreamScheme (upstreamScheme : String) : Except PyException UpstreamScheme :=
  choose UpstreamScheme.all UpstreamScheme.text "업스트림 스킴은 http 또는 https여야 합니다"
    upstreamScheme

end Choices

section Scalars

def normalizeMaintenanceMessage (message : String) : Except PyException String :=
  let normalized := Text.joinWords message
  if maintenanceMessageMaxLength < normalized.length then
    .error (.valueError ("점검 안내 문구는 " ++ toString maintenanceMessageMaxLength ++
      "자 이하여야 합니다"))
  else
    .ok normalized

/-- A point in time needs its zone; every zone is UTC here. -/
def normalizeMaintenanceUntil (value : Option Datetime) : Except PyException (Option Datetime) :=
  match value with
  | none => .ok none
  | some moment =>
      if moment.aware then .ok (some moment)
      else .error (.valueError "점검 종료 예정 시각에는 시간대 정보가 필요합니다")

def normalizeHealthcheckPath (healthcheckPath : String) : Except PyException String :=
  let normalized := orElse (Text.strip healthcheckPath) defaultHealthcheckPath
  if Text.startsWith "/" normalized then .ok normalized
  else .error (.valueError "헬스 체크 경로는 '/'로 시작해야 합니다")

def normalizeHealthcheckTimeoutMs (healthcheckTimeoutMs : Int) : Except PyException Int :=
  if healthcheckTimeoutMs ≤ 0 then
    .error (.valueError "헬스 체크 타임아웃은 1ms 이상의 정수여야 합니다")
  else
    .ok healthcheckTimeoutMs

def normalizeRateLimit (rateLimitAverage rateLimitBurst : Option Int) :
    Except PyException (Option Int × Option Int) :=
  match rateLimitAverage, rateLimitBurst with
  | none, none => .ok (none, none)
  | some average, some burst =>
      if average ≤ 0 ∨ burst ≤ 0 then .error (.valueError "Rate Limit 값은 1 이상의 정수여야 합니다")
      else .ok (some average, some burst)
  | _, _ =>
      .error (.valueError "Rate Limit을 활성화하려면 average와 burst를 모두 입력해야 합니다")

end Scalars

section Lists

/-- One expected status code. -/
def expectedStatus (status : Int) : Except PyException (Option Int) :=
  if 100 ≤ status ∧ status ≤ 599 then .ok (some status)
  else .error (.valueError "헬스 체크 기대 상태 코드는 100~599 범위여야 합니다")

def normalizeHealthcheckExpectedStatuses (statuses : Option (List Int)) :
    Except PyException (List Int) :=
  (collect expectedStatus [] (statuses.getD [])).map (·.insertionSort (· ≤ ·))

/-- `str(ip_network(value, strict=False))`. -/
def networkText (value : String) : Except PyException String :=
  match Ip.ipNetwork value with
  | some network => .ok network.text
  | none =>
      .error (.valueError ("'" ++ value ++ "' does not appear to be an IPv4 or IPv6 network"))

/-- One allowed address or network; blank items are skipped. -/
def allowedIp (rawIp : String) : Except PyException (Option String) :=
  let value := Text.strip rawIp
  if value = "" then .ok none else (networkText value).map some

def normalizeAllowedIps (allowedIps : Option (List String)) : Except PyException (List String) :=
  collect allowedIp [] (allowedIps.getD [])

/-- Whether the text has a line feed or a carriage return. -/
def hasLineEnd (text : String) : Bool := Text.containsChar '\n' text || Text.containsChar '\r' text

/-- One basic authentication entry `user:hash`; blank items are skipped. -/
def basicAuthUser (rawUser : String) : Except PyException (Option String) :=
  let value := Text.strip rawUser
  if value = "" then .ok none
  else if hasLineEnd value then .error (.valueError "유효하지 않은 Basic Auth 사용자 정보입니다")
  else
    match value.toList.dropWhile (· ≠ ':') with
    | [] => .error (.valueError "Basic Auth 사용자 정보 형식이 올바르지 않습니다")
    | _ :: hashed =>
        -- The user name ends at the first colon, so it cannot contain one itself.
        let username := Text.strip (String.ofList (value.toList.takeWhile (· ≠ ':')))
        let hashedPassword := Text.strip (String.ofList hashed)
        if username = "" ∨ hashedPassword = "" then
          .error (.valueError "Basic Auth 사용자 정보 형식이 올바르지 않습니다")
        else
          .ok (some (username ++ ":" ++ hashedPassword))

def normalizeBasicAuthUsers (basicAuthUsers : Option (List String)) :
    Except PyException (List String) :=
  collect basicAuthUser [] (basicAuthUsers.getD [])

/-- One template reference; blank items are skipped. -/
def templateId (rawId : String) : Except PyException (Option String) :=
  let value := Text.strip rawId
  .ok (if value = "" then none else some value)

def normalizeMiddlewareTemplateIds (templateIds : Option (List String)) :
    Except PyException (List String) :=
  collect templateId [] (templateIds.getD [])

/-- One blocked path; blank items are skipped and a leading slash is supplied. -/
def blockedPath (rawPath : String) : Except PyException (Option String) :=
  let value := Text.strip rawPath
  if value = "" then .ok none
  else if Text.startsWith "/" value then .ok (some value)
  else .ok (some ("/" ++ value))

def normalizeBlockedPaths (paths : Option (List String)) : Except PyException (List String) :=
  collect blockedPath [] (paths.getD [])

/-- `^[A-Za-z0-9-]+$` on a text without surrounding blanks. -/
def isHeaderToken (key : String) : Bool :=
  let chars := Text.dropFinalNewline key.toList
  chars ≠ [] ∧ chars.all fun c => Text.isLetter c || Text.isDigit c || c = '-'

/-- One custom header; a blank key is skipped. -/
def customHeader (entry : String × String) : Except PyException (Option (String × String)) :=
  let key := Text.strip entry.1
  let value := Text.strip entry.2
  if key = "" then .ok none
  else if ¬isHeaderToken key then .error (.valueError ("유효하지 않은 헤더 키입니다: " ++ key))
  else if hasLineEnd key || hasLineEnd value then
    .error (.valueError ("유효하지 않은 헤더 값입니다: " ++ key))
  else .ok (some (key, value))

def normalizeCustomHeaders (customHeaders : Option (Dict String String)) :
    Except PyException (Dict String String) :=
  (gather customHeader (customHeaders.getD Dict.empty).entries).map Dict.ofList

end Lists

end TraefikManager.Domain
