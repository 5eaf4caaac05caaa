import TraefikManager.Runtime
import Mathlib.Data.List.Sort

/-!
# Audit records

The rows of the audit log, their free-form details, and the recording service.
A record's detail is a dictionary with string keys; the readers look up a few of
them and must cope with whatever else was stored.
-/

namespace TraefikManager.Auth

open Foundation

/-- A value in the detail of an audit record. A string that
`datetime.fromisoformat` accepts is kept as the point in time it reads. -/
inductive DetailValue where
  | null
  | bool (value : Bool)
  | int (value : Int)
  | text (value : String)
  | isoformat (moment : Datetime)
  | texts (values : List String)
  deriving DecidableEq, Repr

/-- The detail of an audit record. -/
abbrev Detail := List (String × DetailValue)

namespace Detail

/-- `detail.get(key)`. -/
def get (detail : Detail) (key : String) : DetailValue :=
  match detail.find? fun entry => entry.1 = key with
  | some entry => entry.2
  | none => .null

end Detail

/-- A row of the audit log. The login does not look at its key. -/
abbrev AuditLogModel := TraefikManager.AuditLogModel PUnit Detail Datetime

namespace AuditLogModel

/-- `(log.detail or {}).get(key)`. -/
def detailValue (log : AuditLogModel) (key : String) : DetailValue :=
  (log.detail.getD []).get key

/-- Whether the detail names this event. -/
def hasEvent (log : AuditLogModel) (event : String) : Bool :=
  log.detailValue "event" = .text event

/-- `get_log_created_at`. -/
def getLogCreatedAt (log : AuditLogModel) : Datetime := log.createdAt.normalizeUtc

/-- What SQLite keeps of a record. -/
def persisted (log : AuditLogModel) : AuditLogModel :=
  { log with createdAt := log.createdAt.persisted }

end AuditLogModel

/-- An alert that was sent for a record: its category and what its delivery
record says. -/
structure AlertDelivery where
  category : String
  resourceName : String
  detail : Detail
  deriving DecidableEq, Repr

/-- `record_delivery_result`: the record a delivery leaves behind. -/
def recordDeliveryResult (delivery : AlertDelivery) (now : Int) : AuditLogModel where
  id := ⟨⟩
  actor := "system"
  action := "alert"
  resourceType := "settings"
  resourceId := delivery.category ++ "-alert-delivery"
  resourceName := delivery.resourceName
  detail := some delivery.detail
  createdAt := .utc now

/-- `audit_service.record`: the record itself, stamped with the whole second of
the clock, and the delivery record when an alert is sent for it. -/
def auditRecord (notifyIfNeeded : AuditLogModel → Option AlertDelivery)
    (actor action resourceType resourceId resourceName : String) (detail : Option Detail)
    (now : Int) : List AuditLogModel :=
  let auditLog : AuditLogModel :=
    { id := ⟨⟩, actor, action, resourceType, resourceId, resourceName, detail,
      createdAt := (Datetime.utc now).wholeSecond }
  auditLog :: ((notifyIfNeeded auditLog).map (recordDeliveryResult · now)).toList

end TraefikManager.Auth
