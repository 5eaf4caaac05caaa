import TraefikManager.Audit.Archive
import Mathlib.Data.List.Sort

/-!
# The retention of audit logs

The policy that the settings hold, and the batches of expired logs that a retention run takes
from the table.
-/

namespace TraefikManager.Audit

open Foundation

section Policy

def auditRetentionDaysKey : String := "audit_retention_days"
def auditArchiveEnabledKey : String := "audit_archive_enabled"
def auditRetentionLastRunKey : String := "audit_retention_last_run_at"
def auditRetentionLastArchivedKey : String := "audit_retention_last_archived_count"
def auditRetentionLastDeletedKey : String := "audit_retention_last_deleted_count"
def auditRetentionLastFileKey : String := "audit_retention_last_archive_file"
def defaultRetentionDays : Nat := 365
def auditRetentionBatchSize : Nat := 500

structure AuditRetentionPolicy where
  retentionDays : Nat
  archiveEnabled : Bool
  deriving DecidableEq, Repr

/-- `_parse_non_negative_int` of a setting. -/
def parseNonNegativeInt (value : Option String) : Nat :=
  ((value.bind Text.parseInt).getD 0).toNat

/-- `_build_policy`; a setting that is null is no setting. -/
def buildPolicy (values : Dict String (Option String)) : AuditRetentionPolicy :=
  let retentionDays := parseNonNegativeInt (values.get? auditRetentionDaysKey).join
  { retentionDays :=
      if 30 ≤ retentionDays ∧ retentionDays ≤ 3650 then retentionDays else defaultRetentionDays
    archiveEnabled :=
      Text.lower ((values.get? auditArchiveEnabledKey).join.getD "true") = "true" }

end Policy

section Batches

/-- The table of audit logs, with its primary key. -/
@[ext] structure AuditTable where
  rows : List AuditLogModel
  distinct : (rows.map AuditLogModel.id).Nodup

/-- The order in which a batch is taken. -/
def AuditLogModel.Before (first second : AuditLogModel) : Prop :=
  first.createdAt.micros < second.createdAt.micros ∨
    first.createdAt.micros = second.createdAt.micros ∧ first.id.text ≤ second.id.text

instance : DecidableRel AuditLogModel.Before := fun first second => by
  unfold AuditLogModel.Before
  infer_instance

namespace AuditTable

/-- The logs that one round of the loop selects. -/
def selectExpired (table : AuditTable) (cutoff : Int) : List AuditLogModel :=
  ((table.rows.filter fun log => log.createdAt.micros < cutoff).insertionSort
    AuditLogModel.Before).take auditRetentionBatchSize

/-- `delete(AuditLogModel).where(AuditLogModel.id.in_(...))`. -/
def delete (table : AuditTable) (ids : List Uuid) : AuditTable where
  rows := table.rows.filter fun log => log.id ∉ ids
  distinct := (List.filter_sublist.map AuditLogModel.id).nodup table.distinct

/-- A flush of new rows; `none` stands for the integrity error of a known key. -/
def insert (table : AuditTable) (logs : List AuditLogModel) : Option AuditTable :=
  if distinct : ((table.rows ++ logs).map AuditLogModel.id).Nodup then
    some ⟨table.rows ++ logs, distinct⟩
  else none

variable {table inserted : AuditTable} {cutoff : Int} {log : AuditLogModel}

/-- What is selected is stored and older than the cutoff. -/
theorem mem_of_selectExpired (selected : log ∈ table.selectExpired cutoff) :
    log ∈ table.rows ∧ log.createdAt.micros < cutoff := by
  have sorted := List.mem_of_mem_take selected
  rw [List.mem_insertionSort, List.mem_filter, decide_eq_true_eq] at sorted
  exact sorted

/-- A batch is bounded. -/
theorem length_selectExpired : (table.selectExpired cutoff).length ≤ auditRetentionBatchSize :=
  List.length_take_le _ _

/-- A batch has no row twice. -/
theorem nodup_selectExpired : ((table.selectExpired cutoff).map AuditLogModel.id).Nodup := by
  have sorted := List.perm_insertionSort AuditLogModel.Before
    (table.rows.filter fun log => log.createdAt.micros < cutoff)
  have expired : ((table.rows.filter fun log => log.createdAt.micros < cutoff).map
      AuditLogModel.id).Nodup :=
    (List.filter_sublist.map AuditLogModel.id).nodup table.distinct
  exact ((List.take_sublist _ _).map _).nodup ((sorted.map _).nodup_iff.mpr expired)

theorem selectExpired_singleton {only : ([log].map AuditLogModel.id).Nodup}
    (expired : log.createdAt.micros < cutoff) :
    (AuditTable.mk [log] only).selectExpired cutoff = [log] := by
  simp [selectExpired, expired, auditRetentionBatchSize]

@[simp] theorem mem_rows_delete {ids : List Uuid} :
    log ∈ (table.delete ids).rows ↔ log ∈ table.rows ∧ log.id ∉ ids := by
  simp [delete]

/-- Inserted rows stand behind the others. -/
theorem rows_of_insert {logs : List AuditLogModel} (isInserted : table.insert logs = some inserted) :
    inserted.rows = table.rows ++ logs := by
  unfold insert at isInserted
  split_ifs at isInserted
  cases isInserted
  rfl

/-- Rows are named by their keys. -/
theorem eq_of_id {other : AuditLogModel} (inRows : log ∈ table.rows) (otherInRows : other ∈ table.rows)
    (same : log.id = other.id) : log = other :=
  List.inj_on_of_nodup_map table.distinct inRows otherInRows same

end AuditTable

end Batches

end TraefikManager.Audit
