import Mathlib.Data.List.Defs
import TraefikManager.Monitoring.MonitorState

/-!
# The texts of alerts

An alert is sent for a row of the audit log: a headline that depends on the event, and a text
of several lines with what the row and its detail say. The detail is whatever was recorded
with the event, and a value that is missing reads as `None`.
-/

namespace TraefikManager.Notifications

open Foundation Monitoring

/-- How a number with a fraction, an array or an object is shown, and how a number is
truncated. -/
structure PyValues where
  repr : Json → String
  truncate : String → Except PyException Int

/-- Texts and truncation where no value asks for them. -/
def noRepr : PyValues := ⟨fun _ => "", fun _ => .error (.valueError "")⟩

namespace PyValues

variable (python : PyValues)

/-- `str(value)`, also as a replacement field shows it. -/
def str : Json → String
  | .null => "None"
  | .bool true => "True"
  | .bool false => "False"
  | .int value => toString value
  | .string value => value
  | value => python.repr value

/-- `int(value)`. -/
def int : Json → Except PyException Int
  | .int value => .ok value
  | .bool value => .ok (if value then 1 else 0)
  | .string text =>
      match Text.parseInt text with
      | some value => .ok value
      | none => .error (.valueError "invalid literal for int() with base 10")
  | .real literal => python.truncate literal
  | .null | .array _ | .object _ =>
      .error (.typeError "int() argument must be a string, a bytes-like object or a real number")

end PyValues

/-- The detail of an audit record. -/
abbrev Detail := Dict String Json

namespace Detail

/-- `detail.get(key)`. -/
def get (detail : Detail) (key : String) : Json := (detail.get? key).getD .null

end Detail

/-- `value is not None`. -/
def isGiven : Json → Bool
  | .null => false
  | _ => true

/-- A row of the audit log. -/
abbrev AuditLogModel := TraefikManager.AuditLogModel Uuid Detail Datetime

namespace AuditLogModel

/-- `log.detail or {}`. -/
def detailOrEmpty (log : AuditLogModel) : Detail := log.detail.getD ∅

end AuditLogModel

inductive AlertCategory where
  | security
  | change
  deriving DecidableEq, Repr

def AlertCategory.text : AlertCategory → String
  | .security => "security"
  | .change => "change"

section Headline

/-- `SMOKE_ROTATION_FAILURE_TITLES`. -/
def smokeRotationFailureTitles : List (String × String) :=
  [("account_update", "스모크 계정 비밀번호 변경 실패"),
    ("smoke_validation", "스모크 로그인·API·화면 검증 실패"),
    ("execution", "스모크 계정 운영 점검 실행 실패")]

/-- `SMOKE_ROTATION_FAILURE_LABELS`. -/
def smokeRotationFailureLabels : List (String × String) :=
  [("account_update", "계정 비밀번호 변경"),
    ("smoke_validation", "로그인·API·화면 검증"),
    ("execution", "운영 점검 실행")]

def eventLabels : List (String × String) :=
  [("service_create", "서비스 생성"), ("service_update", "서비스 변경"),
    ("service_delete", "서비스 삭제"), ("redirect_create", "리다이렉트 생성"),
    ("redirect_update", "리다이렉트 변경"), ("redirect_delete", "리다이렉트 삭제"),
    ("middleware_create", "미들웨어 생성"), ("middleware_update", "미들웨어 변경"),
    ("middleware_delete", "미들웨어 삭제"), ("user_create", "사용자 생성"),
    ("user_update", "사용자 변경"), ("user_delete", "사용자 삭제"),
    ("certificate_warning", "인증서 만료 임박"), ("certificate_error", "인증서 만료"),
    ("certificate_recovered", "인증서 복구"),
    ("certificate_preflight_repeated_failure", "인증서 사전 진단 반복 실패"),
    ("smoke_rotation_failed", "스모크 계정 비밀번호 회전 실패"),
    ("smoke_admin_stale_test", "[테스트] 관리자 전용 점검 지연"),
    ("github_api_rate_limit_test", "[테스트] GitHub API 반복 제한"),
    ("github_api_primary_rate_limit", "GitHub API 기본 요청 한도 반복"),
    ("github_api_secondary_rate_limit", "GitHub API 보조 요청 제한 반복"),
    ("smoke_failure_type_increase_test", "[테스트] 스모크 실패 유형 증가"),
    ("smoke_failure_type_increase", "스모크 실패 유형 증가"),
    ("manager_docker_unhealthy", "Manager Docker 이상"),
    ("manager_docker_recovered", "Manager Docker 회복"),
    ("manager_http_errors_high", "Manager API 오류 임계치 초과"),
    ("manager_http_errors_recovered", "Manager API 오류 정상화"),
    ("manager_http_log_storage_warning", "Manager 요청 로그 보관 경고"),
    ("manager_http_log_storage_recovered", "Manager 요청 로그 보관 복구"),
    ("manager_settings_history_latency_high", "Manager 설정 이력 API 지연"),
    ("manager_settings_history_latency_recovered", "Manager 설정 이력 API 정상화")]

variable (python : PyValues)

/-- The special title of a failed rotation, where the kind of failure is known. -/
def failureTitle (event : String) (detail : Detail) : Option String :=
  if event = "smoke_rotation_failed" ∧ detail.entries ≠ [] then
    smokeRotationFailureTitles.lookup (python.str (detail.get "failure_kind"))
  else none

/-- `client_ip or resource_name`. -/
def clientIpOr (clientIp : Json) (fallback : String) : String :=
  if truthy (some clientIp) then python.str clientIp else fallback

/-- `build_message`. -/
def buildMessage (event resourceName : String) (clientIp : Json) (category : AlertCategory)
    (detail : Detail) : String :=
  if event = "traefik_encoded_path_blocks_high" then
    "Traefik 인코딩 경로 차단 급증: " ++ resourceName
  else if event = "traefik_encoded_path_blocks_recovered" then
    "Traefik 인코딩 경로 차단 정상화: " ++ resourceName
  else if category = .security ∧ event = "login_locked" then
    "계정 잠금 감지: " ++ resourceName
  else if category = .security ∧ event = "login_suspicious" then
    "이상 징후 로그인 감지: " ++ clientIpOr python clientIp resourceName
  else if category = .security then
    "이상 징후 IP 차단: " ++ clientIpOr python clientIp resourceName
  else if Text.startsWith "settings_update_" event then
    "설정 변경: " ++ resourceName
  else
    match failureTitle python event detail with
    | some title => title ++ ": " ++ resourceName
    | none => (eventLabels.lookup event).getD "롤백 실행" ++ ": " ++ resourceName

end Headline

section Lines

variable (python : PyValues) (detail : Detail)

/-- The text of a value of the detail. -/
def shown (key : String) : String := python.str (detail.get key)

/-- `detail.get(key) or '-'`. -/
def shownOr (key : String) : String := if truthy (detail.get? key) then shown python detail key else "-"

/-- A line that stands only under a condition. -/
def lineIf (condition : Bool) (text : String) : List String := if condition then [text] else []

/-- A line about a value that is not `None`. -/
def lineIfGiven (key label unit : String) : List String :=
  lineIf (isGiven (detail.get key)) (label ++ shown python detail key ++ unit)

/-- A line about a value that counts as true. -/
def lineIfTrue (key label unit : String) : List String :=
  lineIf (truthy (detail.get? key)) (label ++ shown python detail key ++ unit)

/-- A line about a list with items. -/
def lineOfItems (key label : String) : List String :=
  match detail.get key with
  | .array (item :: items) => [label ++ Text.join ", " ((item :: items).map python.str)]
  | _ => []

/-- A count, where `isinstance(value, int)`. -/
def countText : Option Json → Option String
  | some (.int value) => some (python.str (.int value))
  | some (.bool value) => some (python.str (.bool value))
  | _ => none

def targetServiceLabel : Json → Option String
  | .object item =>
      match Json.get? item "service_name", countText python (Json.get? item "blocked_request_count") with
      | some (.string serviceName), some count =>
          match Json.get? item "domain" with
          | some (.string domain) => some (serviceName ++ " (" ++ domain ++ ") " ++ count ++ "건")
          | _ => some (serviceName ++ " " ++ count ++ "건")
      | _, _ => none
  | _ => none

def countValueLabel : Json → Option String
  | .object item =>
      match Json.get? item "value", countText python (Json.get? item "request_count") with
      | some (.string name), some count => some (name ++ " " ++ count ++ "건")
      | _, _ => none
  | _ => none

/-- The labels of the items of a list that have one. -/
def formatItems (label : Json → Option String) : Json → String
  | .array items => Text.join ", " (items.filterMap label)
  | _ => ""

/-- `_format_target_services`. -/
def formatTargetServices : Json → String := formatItems (targetServiceLabel python)

/-- `_format_count_values`. -/
def formatCountValues : Json → String := formatItems (countValueLabel python)

/-- `f"{count:,}"`. -/
def withThousands (count : Int) : String :=
  let groups := ((Nat.toDigits 10 count.natAbs).reverse.toChunks 3).map List.reverse
  (if count < 0 then "-" else "") ++ String.ofList ([','].intercalate groups.reverse)

/-- What a blocked address adds to the text. -/
def blockedIpLines : List String :=
  lineIfGiven python detail "block_minutes" "차단 시간: " "분" ++
    lineIfGiven python detail "repeat_count" "반복 차단 횟수: " "" ++
    lineIfTrue python detail "blocked_until" "차단 해제 시각: " ""

/-- `int(detail.get("total_request_count") or 0)`. -/
def totalRequestCount : Except PyException Int :=
  if truthy (detail.get? "total_request_count") then python.int (detail.get "total_request_count")
  else .ok 0

/-- The line about the number of all requests. -/
def totalRequestLines : Except PyException (List String) :=
  if isGiven (detail.get "total_request_count") then
    (totalRequestCount python detail).map fun count =>
      match detail.get "request_count_complete" with
      | .bool true =>
          ["전체 요청량: " ++ withThousands count ++ "건 · 차단 비율 " ++
            shown python detail "blocked_request_percent" ++ "%"]
      | _ => ["전체 요청 표본: " ++ withThousands count ++ "건 · 차단 비율 집계 중"]
  else .ok []

/-- What refused encoded paths add to the text, with the lines about all requests. -/
def encodedPathLines (totalRequests : List String) : List String :=
  let targetServices := formatTargetServices python (detail.get "target_services")
  let requestMethods := formatCountValues python (detail.get "request_methods")
  let encodedPatterns := formatCountValues python (detail.get "encoded_patterns")
  ["집계 구간: 최근 " ++ shown python detail "window_minutes" ++ "분"] ++
    lineIf (targetServices ≠ "") ("대상 서비스: " ++ targetServices) ++
    lineIfTrue python detail "other_target_request_count" "기타 대상 차단: " "건" ++
    lineIf (requestMethods ≠ "") ("요청 메서드: " ++ requestMethods) ++
    lineIf (encodedPatterns ≠ "") ("인코딩 조합: " ++ encodedPatterns) ++
    ["차단 횟수: " ++ shown python detail "blocked_request_count" ++ "건 / 임계치 " ++
      shown python detail "alert_threshold" ++ "건"] ++
    totalRequests ++
    lineIfGiven python detail "cooldown_minutes" "재발 알림 cooldown: " "분"

def isEncodedPathEvent (event : String) : Bool :=
  event ∈ ["traefik_encoded_path_blocks_high", "traefik_encoded_path_blocks_recovered"]

/-- The lines about a change that every event shares. -/
def commonChangeLines : List String :=
  lineOfItems python detail "changed_keys" "변경 키: " ++
    lineOfItems python detail "bulk_service_names" "서비스: " ++
    lineIfTrue python detail "bulk_operation_id" "일괄 작업 ID: " "" ++
    lineIfGiven python detail "days_remaining" "남은 기간: " "일" ++
    lineIfTrue python detail "expires_at" "만료 시각: " "" ++
    lineIfTrue python detail "source_audit_id" "원본 변경 로그: " ""

def smokeRotationLines : List String :=
  (match smokeRotationFailureLabels.lookup (shown python detail "failure_kind") with
    | some failureLabel => ["실패 유형: " ++ failureLabel]
    | none => []) ++
    lineIfTrue python detail "step" "실패 단계: " ""

def githubRateLimitLines : List String :=
  ["집계 구간: 최근 " ++ shown python detail "alert_window_hours" ++ "시간",
    "발생 횟수: " ++ shown python detail "window_occurrence_count" ++ "회 / 임계치 " ++
      shown python detail "alert_threshold" ++ "회"] ++
    lineIfGiven python detail "alert_cooldown_hours" "재알림 간격: " "시간"

def smokeFailureTypeLines : List String :=
  ["집계 구간: 최근 " ++ shown python detail "window_days" ++ "일",
    "실패 횟수: " ++ shown python detail "recent_count" ++ "건 / 직전 " ++
      shown python detail "window_days" ++ "일 " ++ shown python detail "previous_count" ++ "건"]

def managerDockerLines : List String :=
  ["Docker 상태: " ++ shownOr python detail "health_status"] ++
    lineIfGiven python detail "failing_streak" "연속 실패: " "회" ++
    lineIfGiven python detail "last_exit_code" "종료 코드: " "" ++
    lineIfTrue python detail "health_checked_at" "Health 검사 시각: " "" ++
    lineIfGiven python detail "cooldown_minutes" "재발 알림 cooldown: " "분"

def managerHttpErrorLines : List String :=
  ["집계 구간: 최근 " ++ shown python detail "window_minutes" ++ "분",
    "404: " ++ shown python detail "not_found_count" ++ "건 / 임계치 " ++
      shown python detail "not_found_threshold" ++ "건",
    "5xx: " ++ shown python detail "server_error_count" ++ "건 / 임계치 " ++
      shown python detail "server_error_threshold" ++ "건"] ++
    lineIfGiven python detail "cooldown_minutes" "재발 알림 cooldown: " "분"

def managerLogStorageLines : List String :=
  ["보관 상태: " ++ shownOr python detail "status",
    "보관 소스: " ++ shownOr python detail "source",
    "사용량: " ++ shown python detail "size_bytes" ++ " / " ++
      shown python detail "capacity_bytes" ++ " bytes (" ++ shown python detail "usage_percent" ++
      "%)",
    "파일: " ++ shown python detail "file_count" ++ "/" ++ shown python detail "max_file_count" ++
      "개 · 회전 파일 " ++ shown python detail "rotated_file_count" ++ "개"] ++
    lineIfGiven python detail "cooldown_minutes" "재발 알림 cooldown: " "분"

def settingsLatencyLines : List String :=
  ["대상 경로: " ++ shownOr python detail "path",
    "집계 구간: 최근 " ++ shown python detail "window_minutes" ++ "분",
    "p95: " ++ shown python detail "p95_ms" ++ "ms / 기준 " ++ shown python detail "threshold_ms" ++
      "ms",
    "표본: " ++ shown python detail "sample_count" ++ "건 / 최소 " ++
      shown python detail "minimum_sample_count" ++ "건"] ++
    lineIfGiven python detail "cooldown_minutes" "재발 알림 cooldown: " "분"

/-- The lines about a change that depend on the event; no event is of two kinds. -/
def eventChangeLines (event : String) : List String :=
  if event = "smoke_rotation_failed" then smokeRotationLines python detail
  else if event ∈ ["github_api_rate_limit_test", "github_api_primary_rate_limit",
      "github_api_secondary_rate_limit"] then githubRateLimitLines python detail
  else if event ∈ ["smoke_failure_type_increase", "smoke_failure_type_increase_test"] then
    smokeFailureTypeLines python detail
  else if event ∈ ["manager_docker_unhealthy", "manager_docker_recovered"] then
    managerDockerLines python detail
  else if event ∈ ["manager_http_errors_high", "manager_http_errors_recovered"] then
    managerHttpErrorLines python detail
  else if event ∈ ["manager_http_log_storage_warning", "manager_http_log_storage_recovered"] then
    managerLogStorageLines python detail
  else if event ∈ ["manager_settings_history_latency_high",
      "manager_settings_history_latency_recovered"] then settingsLatencyLines python detail
  else []

/-- `_append_change_details`. -/
def appendChangeDetails (event : String) : List String :=
  commonChangeLines python detail ++ eventChangeLines python detail event

/-- What the detail adds to the text. -/
def detailLines (event : String) (category : AlertCategory) : Except PyException (List String) :=
  (if isEncodedPathEvent event then
      (totalRequestLines python detail).map (encodedPathLines python detail)
    else .ok []).map fun encodedPath =>
      (if category = .security ∧ event = "login_blocked_ip" then blockedIpLines python detail
        else []) ++
      encodedPath ++
      (if category = .change then appendChangeDetails python detail event else [])

end Lines

section Texts

variable (python : PyValues)

/-- The lines every alert has. -/
def headLines (log : AuditLogModel) (event : String) (category : AlertCategory) : List String :=
  [buildMessage python event log.resourceName (log.detailOrEmpty.get "client_ip") category
      log.detailOrEmpty,
    "이벤트: " ++ event,
    "대상: " ++ orElse log.resourceName "-",
    "행위자: " ++ orElse log.actor "-",
    "IP: " ++ clientIpOr python (log.detailOrEmpty.get "client_ip") "-",
    "시각: " ++ log.createdAt.isoformat]

/-- `build_multiline_message`. -/
def buildMultilineMessage (log : AuditLogModel) (event : String) (category : AlertCategory) :
    Except PyException String :=
  (detailLines python log.detailOrEmpty event category).map fun lines =>
    Text.join "\n" (headLines python log event category ++ lines)

/-- `build_telegram_message`. -/
def buildTelegramMessage (log : AuditLogModel) (event : String) (category : AlertCategory) :
    Except PyException String :=
  (buildMultilineMessage python log event category).map fun text =>
    String.ofList (text.toList.filter (· ≠ '*'))

end Texts

end TraefikManager.Notifications
