import TraefikManager.Update.RecreateAudit

/-!
# The history of updates

A request leaves a line for each state it reaches.
-/

namespace TraefikManager.Update

open Foundation

/-- What an update is reported as. -/
inductive UpdateStatus where
  | running
  | success
  | rejected
  | rolledBack
  | rollbackFailed
  deriving DecidableEq, Repr

def UpdateStatus.text : UpdateStatus → String
  | running => "running"
  | success => "success"
  | rejected => "rejected"
  | rolledBack => "rolled_back"
  | rollbackFailed => "rollback_failed"

/-- An entry of the history as `process_request` writes it. -/
structure HistoryEntry where
  requestId : String
  actor : String
  status : UpdateStatus
  fromVersion : String
  targetVersion : String
  requestedAt : String
  startedAt : String
  completedAt : Option String := none
  message : String := ""
  backupDir : Option String := none
  rollbackPerformed : Bool := false
  alertRequestStatus : String := "not_needed"
  validations : List Check := []
  deriving DecidableEq, Repr

/-- A check in the history. -/
def Check.toJson (check : Check) : Json :=
  .object [("key", .string check.key), ("status", .string check.status.text),
    ("message", .string check.message)]

/-- The line of an entry. A backup is created exactly when its directory is named. -/
def HistoryEntry.toJson (entry : HistoryEntry) : Json :=
  .object [("request_id", .string entry.requestId), ("actor", .string entry.actor),
    ("status", .string entry.status.text), ("from_version", .string entry.fromVersion),
    ("target_version", .string entry.targetVersion), ("requested_at", .string entry.requestedAt),
    ("started_at", .string entry.startedAt), ("completed_at", .ofOption entry.completedAt),
    ("message", .string entry.message), ("backup_dir", .ofOption entry.backupDir),
    ("backup_created", .bool entry.backupDir.isSome),
    ("rollback_performed", .bool entry.rollbackPerformed),
    ("alert_request_status", .string entry.alertRequestStatus), ("alert_channel", .null),
    ("alert_run_url", .null), ("alert_retry_request_id", .null), ("alert_retry_actor", .null),
    ("alert_retry_requested_at", .null), ("validations", .array (entry.validations.map Check.toJson))]

section Entries

variable (environment : UpdateEnvironment) (request : UpdateRequest)

/-- `history_entry`. -/
def historyEntry (currentVersion : String) : HistoryEntry where
  requestId := request.requestId.text
  actor := request.actor
  status := .running
  fromVersion := currentVersion
  targetVersion := request.targetVersion
  requestedAt := request.requestedAt
  startedAt := environment.startedAt.isoformatZulu

/-- `append_history`. -/
def appendHistory (point : HistoryPoint) (entry : HistoryEntry) : Runner PUnit :=
  appendTo (environment.historyFails point)
    (fun change host => { host with history := change host.history }) entry.toJson.dumps

/-- An entry with its outcome and the time of its completion. -/
def HistoryEntry.completed (entry : HistoryEntry) (status : UpdateStatus) (text : String) :
    HistoryEntry :=
  { entry with
    status
    completedAt := some environment.completedAt.isoformatZulu
    message := text }

end Entries

end TraefikManager.Update
