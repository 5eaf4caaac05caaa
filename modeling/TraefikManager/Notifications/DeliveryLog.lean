import TraefikManager.Notifications.AlertMessages

/-!
# Records of alert deliveries

Each delivery of an alert leaves a row in the audit log, with what is needed to deliver the
alert again. A retry reads that row, delivers, and leaves a row of its own.
-/

namespace TraefikManager.Notifications

open Foundation Monitoring

/-- `get_event`. -/
def getEvent (log : AuditLogModel) : Option String :=
  match log.detailOrEmpty.get "event" with
  | .string event => some event
  | _ => none

/-- `FAILURE_EVENTS`. -/
def failureEvents : List String :=
  ["security_alert_delivery_failure", "change_alert_delivery_failure"]

/-- The event, resource id and name of a delivery record. -/
def deliveryEvent (category : AlertCategory) (success : Bool) : String :=
  category.text ++ "_alert_delivery_" ++ (if success then "success" else "failure")

def deliveryResourceName : AlertCategory → String
  | .security => "보안 알림 전송 결과"
  | .change => "운영 변경 알림 전송 결과"

/-- The part of a delivery record's detail that says what was delivered and how it went. -/
def deliveryFields (python : PyValues) (auditLog : AuditLogModel) (event : String)
    (category : AlertCategory) (provider : String) (success : Bool) (deliveryDetail : String) :
    List (String × Json) :=
  let detail := auditLog.detailOrEmpty
  [("event", .string (deliveryEvent category success)), ("success", .bool success),
    ("provider", .string provider),
    ("message", .string
      (buildMessage python event auditLog.resourceName (detail.get "client_ip") category detail)),
    ("detail", .string deliveryDetail), ("source_event", .string event),
    ("source_action", .string auditLog.action),
    ("source_resource_type", .string auditLog.resourceType),
    ("source_resource_id", .string auditLog.resourceId),
    ("source_resource_name", .string auditLog.resourceName),
    ("client_ip", detail.get "client_ip")]

/-- `record_delivery_result`: the record of a delivery, with an id and the clock's reading. -/
def recordDeliveryResult (python : PyValues) (auditLog : AuditLogModel) (event : String)
    (category : AlertCategory) (provider : String) (success : Bool) (deliveryDetail : String)
    (extraDetail : List (String × Json)) (id : Uuid) (now : Int) : AuditLogModel where
  id := id
  actor := "system"
  action := "alert"
  resourceType := "settings"
  resourceId := category.text ++ "-alert-delivery"
  resourceName := deliveryResourceName category
  detail := some ((Dict.ofList
    (deliveryFields python auditLog event category provider success deliveryDetail)).setAll
      extraDetail)
  createdAt := .utc now

/-- `RetryDeliveryContext`. -/
structure RetryDeliveryContext where
  provider : String
  sourceEvent : String
  category : AlertCategory
  sourceLog : AuditLogModel

/-- A text with characters, as `isinstance(value, str) and value` asks. -/
def nonemptyText : Json → Option String
  | .string value => if value = "" then none else some value
  | _ => none

/-- `build_retry_delivery_context`; the rebuilt log is never stored. -/
def buildRetryDeliveryContext (deliveryLog : AuditLogModel) (now : Int) :
    Except PyException RetryDeliveryContext :=
  let detail := deliveryLog.detailOrEmpty
  match getEvent deliveryLog with
  | none => .error (.valueError "재시도할 수 없는 알림 전송 로그입니다")
  | some deliveryEvent =>
      if deliveryEvent ∉ failureEvents then
        .error (.valueError "재시도할 수 없는 알림 전송 로그입니다")
      else
        match nonemptyText (detail.get "provider"), nonemptyText (detail.get "source_event"),
            nonemptyText (detail.get "source_action"),
            nonemptyText (detail.get "source_resource_type"),
            nonemptyText (detail.get "source_resource_id"),
            nonemptyText (detail.get "source_resource_name") with
        | some provider, some sourceEvent, some sourceAction, some sourceResourceType,
            some sourceResourceId, some sourceResourceName =>
            .ok {
              provider
              sourceEvent
              category := if Text.startsWith "security_" deliveryEvent then .security else .change
              sourceLog := {
                id := deliveryLog.id
                actor := "system"
                action := sourceAction
                resourceType := sourceResourceType
                resourceId := sourceResourceId
                resourceName := sourceResourceName
                detail := some (Dict.ofList
                  [("event", .string sourceEvent), ("client_ip", detail.get "client_ip")])
                createdAt := .utc now } }
        | _, _, _, _, _, _ => .error (.valueError "재시도에 필요한 원본 알림 정보가 부족합니다")

inductive RetryTrigger where
  | manualRetry
  | automaticRetry
  deriving DecidableEq, Repr

def RetryTrigger.text : RetryTrigger → String
  | .manualRetry => "manual_retry"
  | .automaticRetry => "automatic_retry"

/-- `int(detail.get("auto_retry_attempt") or 0)`. -/
def autoRetryAttempt (python : PyValues) (log : AuditLogModel) : Except PyException Int :=
  if truthy (log.detailOrEmpty.get? "auto_retry_attempt") then
    python.int (log.detailOrEmpty.get "auto_retry_attempt")
  else .ok 0

/-- `detail.get("retry_root_audit_id") or detail.get("retry_of_audit_id") or str(log.id)`. -/
def retryRootAuditId (log : AuditLogModel) : Json :=
  let detail := log.detailOrEmpty
  if truthy (detail.get? "retry_root_audit_id") then detail.get "retry_root_audit_id"
  else if truthy (detail.get? "retry_of_audit_id") then detail.get "retry_of_audit_id"
  else .string log.id.text

/-- What a retry adds to its record. -/
def retryExtraDetail (python : PyValues) (deliveryLog : AuditLogModel) (trigger : RetryTrigger) :
    Except PyException (List (String × Json)) :=
  let common : List (String × Json) :=
    [("trigger", .string trigger.text), ("retry_of_audit_id", .string deliveryLog.id.text)]
  match trigger with
  | .manualRetry => .ok common
  | .automaticRetry =>
      (autoRetryAttempt python deliveryLog).map fun attempts =>
        common ++ [("auto_retry_attempt", .int (attempts + 1)),
          ("retry_root_audit_id", retryRootAuditId deliveryLog)]

/-- What happens outside while an alert is delivered: how the delivery ends, and the id and
the time its record gets. -/
structure Delivery where
  outcome : Except PyException (Bool × String)
  recordId : Uuid
  recordedAt : Int

/-- `retry_delivery`: the record of the delivery; an exception of the delivery escapes. -/
def retryDelivery (python : PyValues) (deliveryLog : AuditLogModel) (trigger : RetryTrigger)
    (delivery : Delivery) : Except PyException AuditLogModel := do
  let retryContext ← buildRetryDeliveryContext deliveryLog delivery.recordedAt
  let (success, deliveryDetail) ← delivery.outcome
  let extraDetail ← retryExtraDetail python deliveryLog trigger
  .ok (recordDeliveryResult python retryContext.sourceLog retryContext.sourceEvent
    retryContext.category retryContext.provider success deliveryDetail extraDetail
    delivery.recordId delivery.recordedAt)

end TraefikManager.Notifications
