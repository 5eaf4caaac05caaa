import TraefikManager.Foundation.Substring
import TraefikManager.Notifications.DeliveryLog

/-!
# Requests that carry alerts

The settings say whether an event is worth an alert and where it goes. Each provider gets a
payload of its own shape, with the headline, the text of several lines, or the row itself.
-/

namespace TraefikManager.Notifications

open Foundation Monitoring

/-- The settings table: `repo.get(key)`. -/
abbrev SystemSettings := String → Option String

/-- `((await repo.get(key)) or "").strip()`. -/
def SystemSettings.stripped (settings : SystemSettings) (key : String) : String :=
  Text.strip ((settings key).getD "")

/-- `((await repo.get(key)) or default).strip().lower()`. -/
def SystemSettings.lowered (settings : SystemSettings) (key default : String) : String :=
  Text.lower (Text.strip (orElse ((settings key).getD "") default))

/-- `get_bool_setting(repo, key, default=False)`. -/
def SystemSettings.getBool (settings : SystemSettings) (key : String) : Bool :=
  match settings key with
  | none => false
  | some value => Text.lower (Text.strip value) = "true"

section Routes

/-- `SECURITY_ALERT_EVENTS`. -/
def securityAlertEvents : List String :=
  ["login_locked", "login_suspicious", "login_blocked_ip", "encoded_path_blocks"]

/-- `SECURITY_ALERT_PROVIDERS` and `SECURITY_ALERT_ROUTE_TARGETS`. -/
def securityAlertProviders : List String :=
  ["generic", "slack", "discord", "telegram", "teams", "pagerduty", "email"]
def securityAlertRouteTargets : List String :=
  ["default", "disabled", "telegram", "pagerduty", "email"]

/-- The events of the health monitors. -/
def managerHealthEvents : List String :=
  ["github_api_rate_limit_test", "github_api_primary_rate_limit", "github_api_secondary_rate_limit",
    "smoke_failure_type_increase_test", "smoke_failure_type_increase", "manager_docker_unhealthy",
    "manager_docker_recovered", "manager_http_errors_high", "manager_http_errors_recovered",
    "manager_http_log_storage_warning", "manager_http_log_storage_recovered",
    "manager_settings_history_latency_high", "manager_settings_history_latency_recovered"]

/-- `get_alert_category_and_group`. -/
def getAlertCategoryAndGroup (event : String) : Option (AlertCategory × String) :=
  if isEncodedPathEvent event then some (.security, "encoded_path_blocks")
  else if event ∈ securityAlertEvents then some (.security, event)
  else if Text.startsWith "settings_update_" event then some (.change, "settings_change")
  else if event = "smoke_rotation_failed" then some (.change, "settings_change")
  else if event ∈ ["service_create", "service_update", "service_delete"] then
    some (.change, "service_change")
  else if event ∈ ["redirect_create", "redirect_update", "redirect_delete"] then
    some (.change, "redirect_change")
  else if event ∈ ["middleware_create", "middleware_update", "middleware_delete"] then
    some (.change, "middleware_change")
  else if event ∈ ["user_create", "user_update", "user_delete"] then some (.change, "user_change")
  else if event ∈ ["certificate_warning", "certificate_error", "certificate_recovered"] then
    some (.change, "certificate_status_change")
  else if event = "certificate_preflight_repeated_failure" then
    some (.change, "certificate_preflight_failure")
  else if event ∈ managerHealthEvents then some (.change, "manager_health")
  else if Text.endsWith "_rollback" event ∨ Text.startsWith "settings_rollback_" event then
    some (.change, "rollback")
  else none

/-- `get_change_route_target`. -/
def getChangeRouteTarget (settings : SystemSettings) (routeGroup : String) : String :=
  let storedRoute := settings.lowered ("security_alert_change_route_" ++ routeGroup) ""
  if storedRoute ≠ "" then storedRoute
  else if routeGroup ∈ ["certificate_status_change", "certificate_preflight_failure"] then
    orElse (settings.lowered "security_alert_change_route_certificate_change" "") "default"
  else "default"

/-- The provider for alerts without a route of their own. -/
def defaultProvider (settings : SystemSettings) : String :=
  let stored := settings.lowered "security_alert_provider" "generic"
  if stored ∈ securityAlertProviders then stored else "generic"

/-- Where the alerts of a group are routed. -/
def routeTarget (settings : SystemSettings) (category : AlertCategory) (routeGroup : String) :
    String :=
  let stored := match category with
    | .security => settings.lowered ("security_alert_route_" ++ routeGroup) "default"
    | .change => getChangeRouteTarget settings routeGroup
  if stored ∈ securityAlertRouteTargets then stored else "default"

def enabledKey : AlertCategory → String
  | .security => "security_alerts_enabled"
  | .change => "change_alerts_enabled"

/-- `get_alert_context`: the category and the provider of an event's alert. -/
def getAlertContext (settings : SystemSettings) (event : String) : Option (AlertCategory × String) :=
  match getAlertCategoryAndGroup event with
  | none => none
  | some (category, routeGroup) =>
      if !settings.getBool (enabledKey category) then none
      else if routeTarget settings category routeGroup = "disabled" then none
      else if routeTarget settings category routeGroup = "default" then
        some (category, defaultProvider settings)
      else some (category, routeTarget settings category routeGroup)

/-- `_is_routine_smoke_account_password_rotation`, for the two accounts of the settings. -/
def isRoutineSmokeAccountPasswordRotation (smokeUsernames : List String) (auditLog : AuditLogModel)
    (event : String) : Bool :=
  decide (event = "user_update" ∧ auditLog.resourceName ∈ smokeUsernames) &&
    match auditLog.detailOrEmpty.get "changed_keys" with
    | .array [.string key] => key = "password_changed"
    | _ => false

/-- The event, category and provider of the alert `notify_if_needed` delivers for a row. -/
def alertToDeliver (settings : SystemSettings) (smokeUsernames : List String)
    (auditLog : AuditLogModel) : Option (String × AlertCategory × String) :=
  match getEvent auditLog with
  | none => none
  | some event =>
      if isRoutineSmokeAccountPasswordRotation smokeUsernames auditLog event then none
      else (getAlertContext settings event).map fun context => (event, context)

end Routes

section Payloads

variable (python : PyValues)

/-- A JSON object has no order: the members of a detail stand in the order of their keys. -/
def detailMembers (detail : Detail) : List (String × Json) :=
  detail.entries.insertionSort fun first second => first.1 ≤ second.1

/-- `str(detail.get("client_ip") or "-")`. -/
def clientIpText (auditLog : AuditLogModel) (fallback : String) : String :=
  clientIpOr python (auditLog.detailOrEmpty.get "client_ip") fallback

/-- The headline of a row's alert. -/
def headline (auditLog : AuditLogModel) (event : String) (category : AlertCategory) : String :=
  buildMessage python event auditLog.resourceName (auditLog.detailOrEmpty.get "client_ip") category
    auditLog.detailOrEmpty

def alertTitle : AlertCategory → String
  | .change => "Traefik Manager 운영 알림"
  | .security => "Traefik Manager 보안 경고"

/-- `build_payload`. -/
def buildPayload (auditLog : AuditLogModel) (event : String) (category : AlertCategory) : Json :=
  .object [("source", .string "traefik-manager"), ("category", .string category.text),
    ("event", .string event), ("actor", .string auditLog.actor),
    ("resource_type", .string auditLog.resourceType), ("resource_id", .string auditLog.resourceId),
    ("resource_name", .string auditLog.resourceName),
    ("client_ip", auditLog.detailOrEmpty.get "client_ip"),
    ("created_at", .string auditLog.createdAt.isoformat),
    ("detail", .object (detailMembers auditLog.detailOrEmpty)),
    ("message", .string (headline python auditLog event category))]

/-- `build_slack_payload`. -/
def buildSlackPayload (auditLog : AuditLogModel) (event : String) (category : AlertCategory) :
    Except PyException Json :=
  (buildMultilineMessage python auditLog event category).map fun text =>
    .object [("text", .string ("[Traefik Manager] " ++ headline python auditLog event category)),
      ("blocks", .array
        [.object [("type", .string "header"), ("text", .object
          [("type", .string "plain_text"), ("text", .string (alertTitle category))])],
        .object [("type", .string "section"), ("text", .object
          [("type", .string "mrkdwn"), ("text", .string text)])]])]

/-- `build_discord_payload`. -/
def buildDiscordPayload (auditLog : AuditLogModel) (event : String) (category : AlertCategory) :
    Except PyException Json :=
  (buildMultilineMessage python auditLog event category).map fun text =>
    .object [("content", .string ("[Traefik Manager] " ++ headline python auditLog event category)),
      ("embeds", .array [.object [("title", .string (alertTitle category)),
        ("description", .string text),
        ("fields", .array
          [.object [("name", .string "이벤트"), ("value", .string event), ("inline", .bool true)],
          .object [("name", .string "대상"), ("value", .string (orElse auditLog.resourceName "-")),
            ("inline", .bool true)],
          .object [("name", .string "IP"), ("value", .string (clientIpText python auditLog "-")),
            ("inline", .bool true)]])]])]

/-- `build_teams_payload`. -/
def buildTeamsPayload (auditLog : AuditLogModel) (event : String) (category : AlertCategory) :
    Json :=
  .object [("type", .string "message"), ("attachments", .array [.object
    [("contentType", .string "application/vnd.microsoft.card.adaptive"), ("contentUrl", .null),
      ("content", .object
        [("$schema", .string "http://adaptivecards.io/schemas/adaptive-card.json"),
          ("type", .string "AdaptiveCard"), ("version", .string "1.4"),
          ("body", .array
            [.object [("type", .string "TextBlock"), ("size", .string "Medium"),
              ("weight", .string "Bolder"), ("text", .string (alertTitle category))],
            .object [("type", .string "TextBlock"), ("wrap", .bool true),
              ("text", .string (headline python auditLog event category))],
            .object [("type", .string "FactSet"), ("facts", .array
              [.object [("title", .string "이벤트"), ("value", .string event)],
              .object [("title", .string "대상"), ("value", .string (orElse auditLog.resourceName "-"))],
              .object [("title", .string "IP"), ("value", .string (clientIpText python auditLog "-"))],
              .object [("title", .string "시각"),
                ("value", .string auditLog.createdAt.isoformat)]])]])])]])]

/-- `_build_pagerduty_severity`. -/
def buildPagerdutySeverity (event : String) : AlertCategory → String
  | .change => "info"
  | .security =>
      if event = "login_blocked_ip" then "critical"
      else if event = "login_locked" then "error"
      else "warning"

/-- `build_pagerduty_payload`. -/
def buildPagerdutyPayload (auditLog : AuditLogModel) (event routingKey : String)
    (category : AlertCategory) : Json :=
  .object [("routing_key", .string routingKey), ("event_action", .string "trigger"),
    ("payload", .object
      [("summary", .string (headline python auditLog event category)),
        ("source", .string (clientIpText python auditLog
          (orElse auditLog.resourceName "traefik-manager"))),
        ("severity", .string (buildPagerdutySeverity event category)),
        ("component", .string "traefik-manager"), ("group", .string category.text),
        ("class", .string event), ("custom_details", buildPayload python auditLog event category)])]

/-- What is sent for an alert: a request to a web hook, or a mail. -/
inductive AlertRequest where
  | post (url : String) (payload : Json)
  | mail (fromEmail recipients subject content : String)

/-- `PAGERDUTY_EVENTS_API_URL`. -/
def pagerdutyEventsApiUrl : String := "https://events.pagerduty.com/v2/enqueue"

/-- The recipients in the settings, one in a line or between commas. -/
def emailRecipients (recipientsRaw : String) : List String :=
  ((Text.splitLines (Text.replaceChar ',' '\n' recipientsRaw)).map Text.strip).filter (· ≠ "")

/-- The mail of an alert, when the channel is set up: `send_email_alert_with_detail`. -/
def buildEmail (settings : SystemSettings) (auditLog : AuditLogModel) (event : String)
    (category : AlertCategory) : Except PyException (Option AlertRequest) :=
  let fromEmail := settings.stripped "security_alert_email_from"
  let recipients := settings.stripped "security_alert_email_recipients"
  if settings.stripped "security_alert_email_host" = "" ∨ fromEmail = "" ∨ recipients = "" then
    .ok none
  else
    (buildMultilineMessage python auditLog event category).map fun text =>
      some (.mail fromEmail (Text.join ", " (emailRecipients recipients))
        ("[Traefik Manager] " ++ headline python auditLog event category) text)

/-- `build_alert_request`, and the mail of the provider that has no web hook. -/
def buildAlertRequest (settings : SystemSettings) (auditLog : AuditLogModel)
    (event provider : String) (category : AlertCategory) :
    Except PyException (Option AlertRequest) :=
  if provider = "email" then buildEmail python settings auditLog event category
  else if provider = "telegram" then
    let botToken := settings.stripped "security_alert_telegram_bot_token"
    let chatId := settings.stripped "security_alert_telegram_chat_id"
    if botToken = "" ∨ chatId = "" then .ok none
    else
      (buildTelegramMessage python auditLog event category).map fun text =>
        some (.post ("https://api.telegram.org/bot" ++ botToken ++ "/sendMessage")
          (.object [("chat_id", .string chatId), ("text", .string text)]))
  else if provider = "pagerduty" then
    let routingKey := settings.stripped "security_alert_pagerduty_routing_key"
    if routingKey = "" then .ok none
    else
      .ok (some (.post pagerdutyEventsApiUrl
        (buildPagerdutyPayload python auditLog event routingKey category)))
  else
    let webhookUrl := settings.stripped "security_alert_webhook_url"
    if webhookUrl = "" then .ok none
    else if provider = "slack" then
      (buildSlackPayload python auditLog event category).map fun payload =>
        some (.post webhookUrl payload)
    else if provider = "discord" then
      (buildDiscordPayload python auditLog event category).map fun payload =>
        some (.post webhookUrl payload)
    else if provider = "teams" then
      .ok (some (.post webhookUrl (buildTeamsPayload python auditLog event category)))
    else .ok (some (.post webhookUrl (buildPayload python auditLog event category)))

end Payloads

end TraefikManager.Notifications
