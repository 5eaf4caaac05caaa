import TraefikManager.Foundation.Template
import TraefikManager.Notifications.AlertRequests

/-!
# Texts without the dropped values

The record of a failed delivery keeps the event and the client's address of the detail and
drops the rest. The lines a detail adds to a text are those of the kept one exactly when each
dropped value puts nothing into them: an optional line is missing, and a value that is always
shown is shown as a missing one is. Nothing else leads to the same text, because the fixed parts
of the lines separate the values.
-/

namespace TraefikManager.Notifications

open Foundation Monitoring Foundation.Template

section Condition

variable (python : PyValues) (keep : Char → Bool) (detail : Detail)

/-- No value under these keys but `None`. -/
def Absent (keys : List String) : Prop := ∀ key ∈ keys, isGiven (detail.get key) = false

/-- No value under these keys that counts as true. -/
def Falsy (keys : List String) : Prop := ∀ key ∈ keys, truthy (detail.get? key) = false

/-- No list with items under these keys. -/
def NoItems (keys : List String) : Prop :=
  ∀ key ∈ keys, ∀ item items, detail.get key ≠ .array (item :: items)

/-- The characters that are sent of a value. -/
def sent (key : String) : List Char := (shown python detail key).toList.filter keep

def sentOr (key : String) : List Char := (shownOr python detail key).toList.filter keep

/-- The values under these keys are sent as `None`, as missing ones are. -/
def ReadsNone (keys : List String) : Prop :=
  ∀ key ∈ keys, sent python keep detail key = "None".toList

/-- The values under these keys are sent as a dash, as missing ones are. -/
def ReadsDash (keys : List String) : Prop :=
  ∀ key ∈ keys, sentOr python keep detail key = "-".toList

/-- The event adds no line about its detail that a retry would not add. -/
def ChangeSilent (event : String) : Prop :=
  if event = "smoke_rotation_failed" then
    smokeRotationFailureLabels.lookup (shown python detail "failure_kind") = none ∧
      Falsy detail ["step"]
  else if event ∈ ["github_api_rate_limit_test", "github_api_primary_rate_limit",
      "github_api_secondary_rate_limit"] then
    ReadsNone python keep detail
        ["alert_window_hours", "window_occurrence_count", "alert_threshold"] ∧
      Absent detail ["alert_cooldown_hours"]
  else if event ∈ ["smoke_failure_type_increase", "smoke_failure_type_increase_test"] then
    ReadsNone python keep detail ["window_days", "recent_count", "previous_count"]
  else if event ∈ ["manager_docker_unhealthy", "manager_docker_recovered"] then
    ReadsDash python keep detail ["health_status"] ∧
      Absent detail ["failing_streak", "last_exit_code", "cooldown_minutes"] ∧
      Falsy detail ["health_checked_at"]
  else if event ∈ ["manager_http_errors_high", "manager_http_errors_recovered"] then
    ReadsNone python keep detail ["window_minutes", "not_found_count", "not_found_threshold",
        "server_error_count", "server_error_threshold"] ∧
      Absent detail ["cooldown_minutes"]
  else if event ∈ ["manager_http_log_storage_warning", "manager_http_log_storage_recovered"] then
    ReadsDash python keep detail ["status", "source"] ∧
      ReadsNone python keep detail ["size_bytes", "capacity_bytes", "usage_percent", "file_count",
        "max_file_count", "rotated_file_count"] ∧
      Absent detail ["cooldown_minutes"]
  else if event ∈ ["manager_settings_history_latency_high",
      "manager_settings_history_latency_recovered"] then
    ReadsDash python keep detail ["path"] ∧
      ReadsNone python keep detail
        ["window_minutes", "p95_ms", "threshold_ms", "sample_count", "minimum_sample_count"] ∧
      Absent detail ["cooldown_minutes"]
  else True

/-- The detail adds no line to the text that a retry would not add. -/
def TextSilent (event : String) (category : AlertCategory) : Prop :=
  if isEncodedPathEvent event then
    ReadsNone python keep detail ["window_minutes", "blocked_request_count", "alert_threshold"] ∧
      formatTargetServices python (detail.get "target_services") = "" ∧
      Falsy detail ["other_target_request_count"] ∧
      formatCountValues python (detail.get "request_methods") = "" ∧
      formatCountValues python (detail.get "encoded_patterns") = "" ∧
      Absent detail ["total_request_count", "cooldown_minutes"]
  else
    match category with
    | .security =>
        if event = "login_blocked_ip" then
          Absent detail ["block_minutes", "repeat_count"] ∧ Falsy detail ["blocked_until"]
        else True
    | .change =>
        (NoItems detail ["changed_keys", "bulk_service_names"] ∧
          Falsy detail ["bulk_operation_id", "expires_at", "source_audit_id"] ∧
          Absent detail ["days_remaining"]) ∧
        ChangeSilent python keep detail event

/-- The characters of a text that reach the provider: asterisks are dropped for Telegram. -/
def sentChar (provider : String) : Char → Bool :=
  if provider = "telegram" then fun c => c ≠ '*' else fun _ => true

/-- What the record of a delivery drops puts nothing into the provider's request. -/
def DropsNothing (event provider : String) (category : AlertCategory) : Prop :=
  if provider = "teams" then failureTitle python event detail = none
  else if provider ∈ ["email", "telegram", "slack", "discord"] then
    failureTitle python event detail = none ∧
      TextSilent python (sentChar provider) detail event category
  else ∀ key, key ∈ detail.keys ↔ key = "event" ∨ key = "client_ip"

end Condition

section Kept

variable {python : PyValues} {keep : Char → Bool} {detail : Detail} {event : String}

/-- The detail from which a retry builds its alert. -/
def keptDetail (event : String) (detail : Detail) : Detail :=
  Dict.ofList [("event", .string event), ("client_ip", detail.get "client_ip")]

@[simp] theorem get?_keptDetail (key : String) : (keptDetail event detail).get? key =
    if key = "client_ip" then some (detail.get "client_ip")
    else if key = "event" then some (.string event) else none := by
  simp [keptDetail, Dict.ofList, Dict.get?_set]

/-- A detail with nothing but the event and the client's address. -/
def Bare (detail : Detail) : Prop := ∀ key, key ≠ "event" → key ≠ "client_ip" → detail.get? key = none

theorem bare_keptDetail : Bare (keptDetail event detail) := by
  intro key notEvent notIp
  rw [get?_keptDetail, if_neg notIp, if_neg notEvent]

variable {key : String}

private theorem Bare.get_eq (bare : Bare detail) (notEvent : key ≠ "event")
    (notIp : key ≠ "client_ip") : detail.get key = .null := by
  unfold Detail.get
  rw [bare key notEvent notIp]
  rfl

private theorem Bare.truthy_eq (bare : Bare detail) (notEvent : key ≠ "event")
    (notIp : key ≠ "client_ip") : truthy (detail.get? key) = false := by
  rw [bare key notEvent notIp]
  rfl

private theorem Bare.shown_eq (bare : Bare detail) (notEvent : key ≠ "event")
    (notIp : key ≠ "client_ip") : shown python detail key = "None" := by
  unfold shown
  rw [bare.get_eq notEvent notIp]
  rfl

private theorem Bare.shownOr_eq (bare : Bare detail) (notEvent : key ≠ "event")
    (notIp : key ≠ "client_ip") : shownOr python detail key = "-" := by
  unfold shownOr
  rw [bare.truthy_eq notEvent notIp]
  rfl

private theorem Bare.lineIfGiven_eq (bare : Bare detail) {label unit : String}
    (notEvent : key ≠ "event")
    (notIp : key ≠ "client_ip") : lineIfGiven python detail key label unit = [] := by
  unfold lineIfGiven
  rw [bare.get_eq notEvent notIp]
  rfl

private theorem Bare.lineIfTrue_eq (bare : Bare detail) {label unit : String}
    (notEvent : key ≠ "event")
    (notIp : key ≠ "client_ip") : lineIfTrue python detail key label unit = [] := by
  unfold lineIfTrue
  rw [bare.truthy_eq notEvent notIp]
  rfl

private theorem Bare.lineOfItems_eq (bare : Bare detail) {label : String} (notEvent : key ≠ "event")
    (notIp : key ≠ "client_ip") : lineOfItems python detail key label = [] := by
  unfold lineOfItems
  rw [bare.get_eq notEvent notIp]

theorem Bare.failureTitle_eq (bare : Bare detail) : failureTitle python event detail = none := by
  unfold failureTitle
  split
  · rw [bare.get_eq (by decide) (by decide)]
    rfl
  · rfl

end Kept

section Lines

variable {python : PyValues} {keep : Char → Bool} {detail : Detail}

@[simp] theorem lineIf_eq_nil {condition : Bool} {text : String} :
    lineIf condition text = [] ↔ condition = false := by
  cases condition with
  | false => simp [lineIf]
  | true => simp [lineIf]

@[simp] theorem lineIfGiven_eq_nil {key label unit : String} :
    lineIfGiven python detail key label unit = [] ↔ isGiven (detail.get key) = false := lineIf_eq_nil

@[simp] theorem lineIfTrue_eq_nil {key label unit : String} :
    lineIfTrue python detail key label unit = [] ↔ truthy (detail.get? key) = false := lineIf_eq_nil

@[simp] theorem lineOfItems_eq_nil {key label : String} :
    lineOfItems python detail key label = [] ↔
      ∀ item items, detail.get key ≠ .array (item :: items) := by
  unfold lineOfItems
  split
  · rename_i item items isArray
    simp [isArray]
  · rename_i other
    simpa using other

/-- The characters lines add to a text, each after its line feed. -/
def lineChars (keep : Char → Bool) (lines : List String) : List Char :=
  lines.flatMap fun line => '\n' :: line.toList.filter keep

@[simp] theorem lineChars_nil : lineChars keep [] = [] := rfl

@[simp] theorem lineChars_cons (line : String) (lines : List String) :
    lineChars keep (line :: lines) = '\n' :: line.toList.filter keep ++ lineChars keep lines := rfl

@[simp] theorem lineChars_append (first second : List String) :
    lineChars keep (first ++ second) = lineChars keep first ++ lineChars keep second :=
  List.flatMap_append

@[simp] theorem lineChars_eq_nil {lines : List String} : lineChars keep lines = [] ↔ lines = [] := by
  cases lines with
  | nil => simp
  | cons line lines => simp

private theorem blockedIpLines_eq_nil : blockedIpLines python detail = [] ↔
    Absent detail ["block_minutes", "repeat_count"] ∧ Falsy detail ["blocked_until"] := by
  simp [blockedIpLines, Absent, Falsy, and_assoc]

private theorem commonChangeLines_eq_nil : commonChangeLines python detail = [] ↔
    NoItems detail ["changed_keys", "bulk_service_names"] ∧
      Falsy detail ["bulk_operation_id", "expires_at", "source_audit_id"] ∧
      Absent detail ["days_remaining"] := by
  simp [commonChangeLines, Absent, Falsy, NoItems]
  tauto

end Lines

section Templates

variable {python : PyValues} {keep : Char → Bool} {detail kept : Detail}

/-- The fixed parts of a text reach every provider. -/
theorem filter_literal (keeps : ∀ c, c ≠ '*' → keep c = true) {text : String}
    (plain : ∀ c ∈ text.toList, c ≠ '*') : text.toList.filter keep = text.toList :=
  List.filter_eq_self.mpr fun c listed => keeps c (plain c listed)

private theorem Bare.commonChangeLines_eq (bare : Bare kept) :
    commonChangeLines python kept = [] := by
  simp (disch := decide) only [commonChangeLines, bare.lineOfItems_eq, bare.lineIfTrue_eq,
    bare.lineIfGiven_eq, List.append_nil]

private theorem Bare.sent_eq (keeps : ∀ c, c ≠ '*' → keep c = true) (bare : Bare kept)
    {key : String} (notEvent : key ≠ "event") (notIp : key ≠ "client_ip") :
    sent python keep kept key = "None".toList := by
  unfold sent
  rw [bare.shown_eq notEvent notIp, filter_literal keeps (by decide)]

private theorem Bare.sentOr_eq (keeps : ∀ c, c ≠ '*' → keep c = true) (bare : Bare kept)
    {key : String} (notEvent : key ≠ "event") (notIp : key ≠ "client_ip") :
    sentOr python keep kept key = "-".toList := by
  unfold sentOr
  rw [bare.shownOr_eq notEvent notIp, filter_literal keeps (by decide)]

/-- Where lines fill a template that separates the values of a bare detail, they are those of a
bare detail exactly when their values are. -/
theorem lineChars_eq_iff {lines : Detail → List String} {values : Detail → List (List Char)}
    {template expected : List (List Char)}
    (filled : ∀ detail, lineChars keep (lines detail) = fill (values detail) template)
    (fits : ∀ detail, (values detail).length = template.length)
    (bareValues : values kept = expected) (separates : Separates template expected) :
    lineChars keep (lines detail) = lineChars keep (lines kept) ↔ values detail = expected := by
  rw [filled, filled, bareValues]
  exact fill_eq_iff (fits detail) (bareValues ▸ fits kept) separates

/-- A value and lines after it make up a dash only by the value alone. -/
theorem append_lineChars_eq_dash {value : List Char} {lines : List String} :
    value ++ lineChars keep lines = "-".toList ↔ value = "-".toList ∧ lines = [] := by
  constructor
  · intro same
    cases lines with
    | nil => exact ⟨by simpa using same, rfl⟩
    | cons line lines =>
        have noFeed : '\n' ∉ "-".toList := by decide
        rw [← same] at noFeed
        simp at noFeed
  · rintro ⟨rfl, rfl⟩
    rw [lineChars_nil, List.append_nil]

variable (keeps : ∀ c, c ≠ '*' → keep c = true) (bare : Bare kept)
include keeps bare

private theorem githubRateLimitLines_iff :
    lineChars keep (commonChangeLines python detail ++ githubRateLimitLines python detail) =
        lineChars keep (commonChangeLines python kept ++ githubRateLimitLines python kept) ↔
      commonChangeLines python detail = [] ∧
        ReadsNone python keep detail
          ["alert_window_hours", "window_occurrence_count", "alert_threshold"] ∧
        Absent detail ["alert_cooldown_hours"] := by
  rw [@lineChars_eq_iff keep detail kept
    (fun detail => commonChangeLines python detail ++ githubRateLimitLines python detail)
    (fun detail => [lineChars keep (commonChangeLines python detail),
      sent python keep detail "alert_window_hours",
      sent python keep detail "window_occurrence_count",
      sent python keep detail "alert_threshold",
      lineChars keep (lineIfGiven python detail "alert_cooldown_hours" "재알림 간격: " "시간")])
    ["\n집계 구간: 최근 ".toList, "시간\n발생 횟수: ".toList, "회 / 임계치 ".toList, "회".toList, []]
    [[], "None".toList, "None".toList, "None".toList, []]]
  · simp only [List.cons.injEq, lineChars_eq_nil, lineIfGiven_eq_nil, ReadsNone, Absent,
      List.forall_mem_cons, List.not_mem_nil, false_implies, implies_true, and_true, and_assoc]
  · intro detail
    simp (disch := decide) only [githubRateLimitLines, fill, lineChars_append, lineChars_cons,
      lineChars_nil, String.toList_append, List.filter_append, filter_literal keeps, sent,
      List.append_assoc, List.append_nil]
    simp
  · exact fun _ => rfl
  · simp (disch := decide) only [bare.commonChangeLines_eq, bare.sent_eq keeps,
      bare.lineIfGiven_eq, lineChars_nil]
  · decide

private theorem managerHttpErrorLines_iff :
    lineChars keep (commonChangeLines python detail ++ managerHttpErrorLines python detail) =
        lineChars keep (commonChangeLines python kept ++ managerHttpErrorLines python kept) ↔
      commonChangeLines python detail = [] ∧
        ReadsNone python keep detail ["window_minutes", "not_found_count", "not_found_threshold",
          "server_error_count", "server_error_threshold"] ∧
        Absent detail ["cooldown_minutes"] := by
  rw [@lineChars_eq_iff keep detail kept
    (fun detail => commonChangeLines python detail ++ managerHttpErrorLines python detail)
    (fun detail => [lineChars keep (commonChangeLines python detail),
      sent python keep detail "window_minutes",
      sent python keep detail "not_found_count",
      sent python keep detail "not_found_threshold",
      sent python keep detail "server_error_count",
      sent python keep detail "server_error_threshold",
      lineChars keep (lineIfGiven python detail "cooldown_minutes" "재발 알림 cooldown: " "분")])
    ["\n집계 구간: 최근 ".toList, "분\n404: ".toList, "건 / 임계치 ".toList, "건\n5xx: ".toList, "건 / 임계치 ".toList, "건".toList, []]
    [[], "None".toList, "None".toList, "None".toList, "None".toList, "None".toList, []]]
  · simp only [List.cons.injEq, lineChars_eq_nil, lineIfGiven_eq_nil, ReadsNone, Absent,
      List.forall_mem_cons, List.not_mem_nil, false_implies, implies_true, and_true, and_assoc]
  · intro detail
    simp (disch := decide) only [managerHttpErrorLines, fill, lineChars_append, lineChars_cons,
      lineChars_nil, String.toList_append, List.filter_append, filter_literal keeps, sent,
      List.append_assoc, List.append_nil]
    simp
  · exact fun _ => rfl
  · simp (disch := decide) only [bare.commonChangeLines_eq, bare.sent_eq keeps,
      bare.lineIfGiven_eq, lineChars_nil]
  · decide

private theorem managerLogStorageLines_iff :
    lineChars keep (commonChangeLines python detail ++ managerLogStorageLines python detail) =
        lineChars keep (commonChangeLines python kept ++ managerLogStorageLines python kept) ↔
      commonChangeLines python detail = [] ∧
        ReadsDash python keep detail ["status", "source"] ∧
        ReadsNone python keep detail ["size_bytes", "capacity_bytes", "usage_percent", "file_count",
          "max_file_count", "rotated_file_count"] ∧
        Absent detail ["cooldown_minutes"] := by
  rw [@lineChars_eq_iff keep detail kept
    (fun detail => commonChangeLines python detail ++ managerLogStorageLines python detail)
    (fun detail => [lineChars keep (commonChangeLines python detail),
      sentOr python keep detail "status",
      sentOr python keep detail "source",
      sent python keep detail "size_bytes",
      sent python keep detail "capacity_bytes",
      sent python keep detail "usage_percent",
      sent python keep detail "file_count",
      sent python keep detail "max_file_count",
      sent python keep detail "rotated_file_count",
      lineChars keep (lineIfGiven python detail "cooldown_minutes" "재발 알림 cooldown: " "분")])
    ["\n보관 상태: ".toList, "\n보관 소스: ".toList, "\n사용량: ".toList, " / ".toList, " bytes (".toList, "%)\n파일: ".toList, "/".toList, "개 · 회전 파일 ".toList, "개".toList, []]
    [[], "-".toList, "-".toList, "None".toList, "None".toList, "None".toList, "None".toList, "None".toList, "None".toList, []]]
  · simp only [List.cons.injEq, lineChars_eq_nil, lineIfGiven_eq_nil, ReadsNone, ReadsDash,
      Absent, List.forall_mem_cons, List.not_mem_nil, false_implies, implies_true, and_true, and_assoc]
  · intro detail
    simp (disch := decide) only [managerLogStorageLines, fill, lineChars_append, lineChars_cons,
      lineChars_nil, String.toList_append, List.filter_append, filter_literal keeps, sent, sentOr,
      List.append_assoc, List.append_nil]
    simp
  · exact fun _ => rfl
  · simp (disch := decide) only [bare.commonChangeLines_eq, bare.sent_eq keeps,
      bare.sentOr_eq keeps, bare.lineIfGiven_eq, lineChars_nil]
  · decide

private theorem settingsLatencyLines_iff :
    lineChars keep (commonChangeLines python detail ++ settingsLatencyLines python detail) =
        lineChars keep (commonChangeLines python kept ++ settingsLatencyLines python kept) ↔
      commonChangeLines python detail = [] ∧
        ReadsDash python keep detail ["path"] ∧
        ReadsNone python keep detail
          ["window_minutes", "p95_ms", "threshold_ms", "sample_count", "minimum_sample_count"] ∧
        Absent detail ["cooldown_minutes"] := by
  rw [@lineChars_eq_iff keep detail kept
    (fun detail => commonChangeLines python detail ++ settingsLatencyLines python detail)
    (fun detail => [lineChars keep (commonChangeLines python detail),
      sentOr python keep detail "path",
      sent python keep detail "window_minutes",
      sent python keep detail "p95_ms",
      sent python keep detail "threshold_ms",
      sent python keep detail "sample_count",
      sent python keep detail "minimum_sample_count",
      lineChars keep (lineIfGiven python detail "cooldown_minutes" "재발 알림 cooldown: " "분")])
    ["\n대상 경로: ".toList, "\n집계 구간: 최근 ".toList, "분\np95: ".toList, "ms / 기준 ".toList, "ms\n표본: ".toList, "건 / 최소 ".toList, "건".toList, []]
    [[], "-".toList, "None".toList, "None".toList, "None".toList, "None".toList, "None".toList, []]]
  · simp only [List.cons.injEq, lineChars_eq_nil, lineIfGiven_eq_nil, ReadsNone, ReadsDash,
      Absent, List.forall_mem_cons, List.not_mem_nil, false_implies, implies_true, and_true, and_assoc]
  · intro detail
    simp (disch := decide) only [settingsLatencyLines, fill, lineChars_append, lineChars_cons,
      lineChars_nil, String.toList_append, List.filter_append, filter_literal keeps, sent, sentOr,
      List.append_assoc, List.append_nil]
    simp
  · exact fun _ => rfl
  · simp (disch := decide) only [bare.commonChangeLines_eq, bare.sent_eq keeps,
      bare.sentOr_eq keeps, bare.lineIfGiven_eq, lineChars_nil]
  · decide

private theorem smokeFailureTypeLines_iff :
    lineChars keep (commonChangeLines python detail ++ smokeFailureTypeLines python detail) =
        lineChars keep (commonChangeLines python kept ++ smokeFailureTypeLines python kept) ↔
      commonChangeLines python detail = [] ∧
        ReadsNone python keep detail ["window_days", "recent_count", "previous_count"] := by
  rw [@lineChars_eq_iff keep detail kept
    (fun detail => commonChangeLines python detail ++ smokeFailureTypeLines python detail)
    (fun detail => [lineChars keep (commonChangeLines python detail),
      sent python keep detail "window_days", sent python keep detail "recent_count",
      sent python keep detail "window_days", sent python keep detail "previous_count"])
    ["\n집계 구간: 최근 ".toList, "일\n실패 횟수: ".toList, "건 / 직전 ".toList, "일 ".toList, "건".toList]
    [[], "None".toList, "None".toList, "None".toList, "None".toList]]
  · simp only [List.cons.injEq, lineChars_eq_nil, ReadsNone, List.forall_mem_cons,
      List.not_mem_nil, false_implies, implies_true, and_true]
    tauto
  · intro detail
    simp (disch := decide) only [smokeFailureTypeLines, fill, lineChars_append, lineChars_cons,
      lineChars_nil, String.toList_append, List.filter_append, filter_literal keeps, sent,
      List.append_assoc, List.append_nil]
    simp
  · exact fun _ => rfl
  · simp (disch := decide) only [bare.commonChangeLines_eq, bare.sent_eq keeps, lineChars_nil]
  · decide

private theorem managerDockerLines_iff :
    lineChars keep (commonChangeLines python detail ++ managerDockerLines python detail) =
        lineChars keep (commonChangeLines python kept ++ managerDockerLines python kept) ↔
      commonChangeLines python detail = [] ∧
        ReadsDash python keep detail ["health_status"] ∧
        Absent detail ["failing_streak", "last_exit_code", "cooldown_minutes"] ∧
        Falsy detail ["health_checked_at"] := by
  -- nothing separates the status from the optional lines after it, so they are one value
  rw [@lineChars_eq_iff keep detail kept
    (fun detail => commonChangeLines python detail ++ managerDockerLines python detail)
    (fun detail => [lineChars keep (commonChangeLines python detail),
      sentOr python keep detail "health_status" ++ lineChars keep
        (lineIfGiven python detail "failing_streak" "연속 실패: " "회" ++
          lineIfGiven python detail "last_exit_code" "종료 코드: " "" ++
          lineIfTrue python detail "health_checked_at" "Health 검사 시각: " "" ++
          lineIfGiven python detail "cooldown_minutes" "재발 알림 cooldown: " "분")])
    ["\nDocker 상태: ".toList, []] [[], "-".toList]]
  · simp only [List.cons.injEq, lineChars_eq_nil, append_lineChars_eq_dash, List.append_eq_nil_iff,
      lineIfGiven_eq_nil, lineIfTrue_eq_nil, ReadsDash, Absent, Falsy, List.forall_mem_cons,
      List.not_mem_nil, false_implies, implies_true, and_true]
    tauto
  · intro detail
    simp (disch := decide) only [managerDockerLines, fill, lineChars_append, lineChars_cons,
      lineChars_nil, String.toList_append, List.filter_append, filter_literal keeps, sentOr,
      List.append_assoc, List.append_nil]
    simp
  · exact fun _ => rfl
  · simp (disch := decide) only [bare.commonChangeLines_eq, bare.sentOr_eq keeps,
      bare.lineIfGiven_eq, bare.lineIfTrue_eq, lineChars_nil, List.append_nil]
  · decide

omit keeps in
private theorem smokeRotationLines_iff :
    lineChars keep (commonChangeLines python detail ++ smokeRotationLines python detail) =
        lineChars keep (commonChangeLines python kept ++ smokeRotationLines python kept) ↔
      commonChangeLines python detail = [] ∧
        smokeRotationFailureLabels.lookup (shown python detail "failure_kind") = none ∧
        Falsy detail ["step"] := by
  have none : smokeRotationLines python kept = [] := by
    unfold smokeRotationLines
    rw [bare.shown_eq (by decide) (by decide), bare.lineIfTrue_eq (by decide) (by decide)]
    rfl
  rw [none, bare.commonChangeLines_eq, List.append_nil, lineChars_nil, lineChars_eq_nil,
    List.append_eq_nil_iff]
  unfold smokeRotationLines
  rw [List.append_eq_nil_iff, lineIfTrue_eq_nil]
  cases smokeRotationFailureLabels.lookup (shown python detail "failure_kind") with
  | none => simp [Falsy]
  | some label => simp

private theorem encodedPathLines_iff {totalRequests : List String} :
    lineChars keep (encodedPathLines python detail totalRequests) =
        lineChars keep (encodedPathLines python kept []) ↔
      ReadsNone python keep detail ["window_minutes", "blocked_request_count", "alert_threshold"] ∧
        formatTargetServices python (detail.get "target_services") = "" ∧
        Falsy detail ["other_target_request_count"] ∧
        formatCountValues python (detail.get "request_methods") = "" ∧
        formatCountValues python (detail.get "encoded_patterns") = "" ∧
        totalRequests = [] ∧ Absent detail ["cooldown_minutes"] := by
  have filled : ∀ detail totalRequests,
      lineChars keep (encodedPathLines python detail totalRequests) =
        fill [[], sent python keep detail "window_minutes",
          lineChars keep
            (lineIf (formatTargetServices python (detail.get "target_services") ≠ "")
                ("대상 서비스: " ++ formatTargetServices python (detail.get "target_services")) ++
              lineIfTrue python detail "other_target_request_count" "기타 대상 차단: " "건" ++
              lineIf (formatCountValues python (detail.get "request_methods") ≠ "")
                ("요청 메서드: " ++ formatCountValues python (detail.get "request_methods")) ++
              lineIf (formatCountValues python (detail.get "encoded_patterns") ≠ "")
                ("인코딩 조합: " ++ formatCountValues python (detail.get "encoded_patterns"))),
          sent python keep detail "blocked_request_count",
          sent python keep detail "alert_threshold",
          lineChars keep (totalRequests ++
            lineIfGiven python detail "cooldown_minutes" "재발 알림 cooldown: " "분")]
          ["\n집계 구간: 최근 ".toList, "분".toList, "\n차단 횟수: ".toList, "건 / 임계치 ".toList,
            "건".toList, []] := by
    intro detail totalRequests
    simp (disch := decide) only [encodedPathLines, fill, lineChars_append, lineChars_cons,
      lineChars_nil, String.toList_append, List.filter_append, filter_literal keeps, sent,
      List.append_assoc, List.append_nil, List.nil_append]
    simp
  have noServices : formatTargetServices python (kept.get "target_services") = "" := by
    rw [bare.get_eq (by decide) (by decide)]
    rfl
  have noMethods : formatCountValues python (kept.get "request_methods") = "" := by
    rw [bare.get_eq (by decide) (by decide)]
    rfl
  have noPatterns : formatCountValues python (kept.get "encoded_patterns") = "" := by
    rw [bare.get_eq (by decide) (by decide)]
    rfl
  rw [filled, filled, noServices, noMethods, noPatterns, bare.sent_eq keeps (by decide) (by decide),
    bare.sent_eq keeps (by decide) (by decide), bare.sent_eq keeps (by decide) (by decide),
    bare.lineIfTrue_eq (by decide) (by decide), bare.lineIfGiven_eq (by decide) (by decide)]
  change _ = fill [[], "None".toList, [], "None".toList, "None".toList, []] _ ↔ _
  refine (fill_eq_iff (by rfl) (by rfl) (by decide)).trans ?_
  simp [lineIf, ReadsNone, Absent, Falsy]
  tauto

end Templates

section Texts

variable {python : PyValues} {keep : Char → Bool} {detail kept : Detail} {event : String}
  {category : AlertCategory}

private theorem eventChangeLines_iff (keeps : ∀ c, c ≠ '*' → keep c = true) (bare : Bare kept) :
    lineChars keep (appendChangeDetails python detail event) =
        lineChars keep (appendChangeDetails python kept event) ↔
      commonChangeLines python detail = [] ∧ ChangeSilent python keep detail event := by
  unfold appendChangeDetails eventChangeLines ChangeSilent
  split
  · exact smokeRotationLines_iff bare
  split
  · exact githubRateLimitLines_iff keeps bare
  split
  · exact smokeFailureTypeLines_iff keeps bare
  split
  · exact managerDockerLines_iff keeps bare
  split
  · exact managerHttpErrorLines_iff keeps bare
  split
  · exact managerLogStorageLines_iff keeps bare
  split
  · exact settingsLatencyLines_iff keeps bare
  · rw [bare.commonChangeLines_eq, List.append_nil, List.append_nil, lineChars_nil,
      lineChars_eq_nil, and_true]

private theorem totalRequestLines_eq_nil {totalRequests : List String}
    (read : totalRequestLines python detail = .ok totalRequests) :
    totalRequests = [] ↔ isGiven (detail.get "total_request_count") = false := by
  unfold totalRequestLines at read
  split at read
  · rename_i isGiven
    rw [isGiven]
    obtain ⟨count, -, rfl⟩ := map_eq_ok.mp read
    split <;> simp
  · rename_i notGiven
    cases read
    simpa using notGiven

/-- What the detail adds to the text of an alert is what a bare one adds, exactly when it is
silent. -/
theorem detailLines_iff (keeps : ∀ c, c ≠ '*' → keep c = true) (bare : Bare kept)
    (isSecurity : isEncodedPathEvent event = true → category = .security) {lines : List String}
    (read : detailLines python detail event category = .ok lines) :
    ∃ bareLines, detailLines python kept event category = .ok bareLines ∧
      (lineChars keep lines = lineChars keep bareLines ↔
        TextSilent python keep detail event category) := by
  obtain ⟨encodedPath, encoded, rfl⟩ := map_eq_ok.mp read
  unfold TextSilent detailLines
  cases isEncoded : isEncodedPathEvent event with
  | true =>
      have notBlocked : event ≠ "login_blocked_ip" := by
        rintro rfl
        cases isEncoded
      rw [isEncoded, if_pos rfl] at encoded
      obtain ⟨totalRequests, total, rfl⟩ := map_eq_ok.mp encoded
      have bareTotal : totalRequestLines python kept = .ok [] := by
        unfold totalRequestLines
        rw [bare.get_eq (by decide) (by decide)]
        rfl
      obtain rfl := isSecurity isEncoded
      simp only [bareTotal, notBlocked, and_false, if_false, if_true, Except.map, List.nil_append, List.append_nil, reduceCtorEq]
      refine ⟨_, rfl, ?_⟩
      rw [encodedPathLines_iff keeps bare, totalRequestLines_eq_nil total]
      simp only [Absent, List.forall_mem_cons, List.not_mem_nil, false_implies, implies_true,
        and_true]
  | false =>
      rw [isEncoded] at encoded
      cases encoded
      simp only [Except.map, Bool.false_eq_true, if_false, List.append_nil]
      refine ⟨_, rfl, ?_⟩
      cases category with
      | change =>
          simp only [reduceCtorEq, false_and, if_false, if_true, List.nil_append]
          rw [eventChangeLines_iff keeps bare, commonChangeLines_eq_nil]
      | security =>
          simp only [true_and, reduceCtorEq, if_false, List.append_nil]
          split
          · have none : blockedIpLines python kept = [] := by
              simp (disch := decide) only [blockedIpLines, bare.lineIfGiven_eq, bare.lineIfTrue_eq,
                List.append_nil]
            rw [none, lineChars_nil, lineChars_eq_nil, blockedIpLines_eq_nil]
          · simp

/-- A text of lines is its first line and what the others add. -/
theorem toList_join_cons (first : String) (lines : List String) (feeds : keep '\n' = true) :
    (Text.join "\n" (first :: lines)).toList.filter keep =
      first.toList.filter keep ++ lineChars keep lines := by
  have joined : ∀ (first : String) (lines : List String),
      "\n".toList.intercalate ((first :: lines).map String.toList) =
        first.toList ++ lines.flatMap fun line => '\n' :: line.toList := by
    intro first lines
    induction lines generalizing first with
    | nil => simp [List.intercalate]
    | cons second lines ih =>
        have step := ih second
        rw [List.map_cons] at step
        rw [List.map_cons, List.map_cons, List.intercalate_cons_cons, step]
        simp
  rw [Text.join, String.toList_ofList, joined, List.filter_append, List.filter_flatMap]
  simp only [List.filter_cons, feeds, if_true, lineChars]

end Texts

end TraefikManager.Notifications
