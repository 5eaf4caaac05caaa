import TraefikManager.Audit.ArchiveRoundTrip
import TraefikManager.Foundation.StepRun

/-!
# Runs of the retention and of restores

The retention run writes files and deletes rows, and the two are in no common transaction. A
step of this machine is a step of its code: a batch is selected, the temporary file is created,
written and moved into place, the rows are deleted and the deletion is committed. A restore
reads an archive, asks for the known identifiers and commits the others. Other requests record
logs and change settings at any time, an exception may end the run or the restore at any step,
and a crash may end both.
-/

namespace TraefikManager.Audit

open Foundation

section Machine

/-- The local variables of `run_audit_retention_once`. -/
structure CleanupRun where
  runAt : Int
  policy : AuditRetentionPolicy
  archivedCount : Nat := 0
  deletedCount : Nat := 0
  lastArchiveFile : Option (List Char) := none

/-- `run_at - timedelta(days=policy.retention_days)`. -/
def CleanupRun.cutoff (run : CleanupRun) : Int :=
  run.runAt - run.policy.retentionDays * 86400000000

/-- What the retention run has done last. -/
inductive CleanupStage where
  | idle
  | looping (run : CleanupRun)
  | selected (run : CleanupRun) (logs : List AuditLogModel)
  | writing (run : CleanupRun) (logs : List AuditLogModel) (temporary : List Char)
  | written (run : CleanupRun) (logs : List AuditLogModel) (temporary : List Char)
  | archived (run : CleanupRun) (logs : List AuditLogModel)
  | deleted (run : CleanupRun) (logs : List AuditLogModel)
  | finishing (run : CleanupRun)

/-- What a restore has done last. -/
inductive RestoreStage where
  | idle
  | read (records : List AuditLogModel)
  | added (logs : List AuditLogModel)

/-- The committed rows and settings, the archive directory, and the tasks at work. -/
structure AuditState where
  table : AuditTable
  settings : Dict String (Option String)
  files : ArchiveDirectory
  cleanup : CleanupStage := .idle
  restore : RestoreStage := .idle

inductive AuditAction where
  | record (log : AuditLogModel)
  | saveSettings (values : List (String × Option String))
  | startCleanup (now : Int)
  | select
  | createTemporary (random : List Char)
  | writeTemporary (content : Bytes)
  | closeTemporary
  | replace (suffix : Uuid)
  | delete
  | commit
  | failCleanup
  | readArchive (filename : List Char)
  | queryExisting
  | commitRestore
  | failRestore
  | crash

/-- The name that `NamedTemporaryFile(prefix=".audit-")` tries. -/
def temporaryName (random : List Char) : List Char := ".audit-".toList ++ random

/-- What the run leaves in the settings. -/
def CleanupRun.results (run : CleanupRun) : List (String × Option String) :=
  [(auditRetentionLastRunKey, some (Datetime.utc run.runAt).isoformat),
    (auditRetentionLastArchivedKey, some (toString run.archivedCount)),
    (auditRetentionLastDeletedKey, some (toString run.deletedCount)),
    (auditRetentionLastFileKey, run.lastArchiveFile.map String.ofList)]

namespace AuditState

variable (gzip : Gzip)

/-- One round of the loop takes the next batch; without one the run ends. -/
def select (state : AuditState) (run : CleanupRun) : AuditState :=
  match state.table.selectExpired run.cutoff with
  | [] => { state with cleanup := .finishing run }
  | log :: logs =>
      if run.policy.archiveEnabled then { state with cleanup := .selected run (log :: logs) }
      else { state with cleanup := .archived run (log :: logs) }

/-- `NamedTemporaryFile` opens no file that is there. -/
def createTemporary (state : AuditState) (run : CleanupRun) (logs : List AuditLogModel)
    (temporary : List Char) : AuditState :=
  if state.files temporary = none then
    { state with
      files := Function.update state.files temporary (some [])
      cleanup := .writing run logs temporary }
  else state

/-- `os.replace(temporary_path, target)`: whatever the target held is gone. -/
def replace (state : AuditState) (run : CleanupRun) (logs : List AuditLogModel)
    (temporary target : List Char) : AuditState :=
  { state with
    files := Function.update (Function.update state.files temporary none) target
      (state.files temporary)
    cleanup := .archived
      { run with
        archivedCount := run.archivedCount + logs.length
        lastArchiveFile := some target } logs }

/-- The `except` branch of `_write_archive`. -/
def unlink (state : AuditState) (temporary : List Char) : AuditState :=
  { state with files := Function.update state.files temporary none, cleanup := .idle }

/-- The flush and commit of new rows; an integrity error leaves the table as it is. -/
def insert (state : AuditState) (logs : List AuditLogModel) : AuditState :=
  { state with table := (state.table.insert logs).getD state.table }

/-- `resolve_audit_archive_path` and `_read_archive_records`. -/
def readArchive (state : AuditState) (filename : List Char) : AuditState :=
  match resolveAuditArchivePath state.files filename >>= readArchiveRecords gzip with
  | .ok records => { state with restore := .read records }
  | .error _ => state

/-- One step. A step that no task is ready for changes nothing. -/
def act (action : AuditAction) (state : AuditState) : AuditState :=
  match action, state.cleanup, state.restore with
  | .record log, _, _ => state.insert [log]
  | .saveSettings values, _, _ => { state with settings := state.settings.setAll values }
  | .startCleanup now, .idle, _ =>
      { state with cleanup := .looping { runAt := now, policy := buildPolicy state.settings } }
  | .select, .looping run, _ => state.select run
  | .createTemporary random, .selected run logs, _ =>
      state.createTemporary run logs (temporaryName random)
  | .writeTemporary content, .writing _ _ temporary, _ =>
      { state with files := Function.update state.files temporary (some content) }
  | .closeTemporary, .writing run logs temporary, _ =>
      { state with
        files := Function.update state.files temporary
          (some (gzip.compress (archiveContent logs)))
        cleanup := .written run logs temporary }
  | .replace suffix, .written run logs temporary, _ =>
      state.replace run logs temporary (archiveFilename run.runAt suffix)
  | .delete, .archived run logs, _ => { state with cleanup := .deleted run logs }
  | .commit, .deleted run logs, _ =>
      { state with
        table := state.table.delete (logs.map AuditLogModel.id)
        cleanup := .looping { run with deletedCount := run.deletedCount + logs.length } }
  | .commit, .finishing run, _ =>
      { state with settings := state.settings.setAll run.results, cleanup := .idle }
  | .failCleanup, .writing _ _ temporary, _ => state.unlink temporary
  | .failCleanup, .written _ _ temporary, _ => state.unlink temporary
  | .failCleanup, _, _ => { state with cleanup := .idle }
  | .readArchive filename, _, .idle => state.readArchive gzip filename
  | .queryExisting, _, .read records =>
      { state with restore := .added (restoredLogs state.table.rows records) }
  | .commitRestore, _, .added logs => { state.insert logs with restore := .idle }
  | .failRestore, _, _ => { state with restore := .idle }
  | .crash, _, _ => { state with cleanup := .idle, restore := .idle }
  | _, _, _ => state

end AuditState

end Machine

section Invariant

/-- A published file is the whole archive of these logs. -/
def Archived (gzip : Gzip) (files : ArchiveDirectory) (logs : List AuditLogModel) : Prop :=
  ∃ name, isArchiveFilename name = true ∧ files name = some (gzip.compress (archiveContent logs))

namespace AuditState

variable (gzip : Gzip)

/-- A log is stored: in the table, or with others in a published archive. -/
def Holds (state : AuditState) (log : AuditLogModel) : Prop :=
  log ∈ state.table.rows ∨ ∃ logs, log ∈ logs ∧ Archived gzip state.files logs

/-- The logs at work are rows that have expired for the run. -/
def IsBatch (state : AuditState) (run : CleanupRun) (logs : List AuditLogModel) : Prop :=
  run.policy.archiveEnabled = true ∧
    ∀ log ∈ logs, log ∈ state.table.rows ∧ log.createdAt.micros < run.cutoff

/-- What the run may rely on at its next step: the temporary file is no archive, it is whole once
it is written, and the batch is archived before it is deleted. -/
def Sound (state : AuditState) : Prop :=
  match state.cleanup with
  | .idle => True
  | .looping run => run.policy.archiveEnabled = true
  | .selected run logs => state.IsBatch run logs
  | .writing run logs temporary => state.IsBatch run logs ∧ isArchiveFilename temporary = false
  | .written run logs temporary =>
      state.IsBatch run logs ∧ isArchiveFilename temporary = false ∧
        state.files temporary = some (gzip.compress (archiveContent logs))
  | .archived run logs => state.IsBatch run logs ∧ Archived gzip state.files logs
  | .deleted run logs => state.IsBatch run logs ∧ Archived gzip state.files logs
  | .finishing _ => True

/-- Archiving is enabled when a run starts. -/
def ArchivingEnabled (action : AuditAction) (state : AuditState) : Prop :=
  match action, state.cleanup with
  | .startCleanup _, .idle => (buildPolicy state.settings).archiveEnabled = true
  | _, _ => True

/-- No archive is published under the name of a file that is there. -/
def PublishesNew (action : AuditAction) (state : AuditState) : Prop :=
  match action, state.cleanup with
  | .replace suffix, .written run _ _ => state.files (archiveFilename run.runAt suffix) = none
  | _, _ => True

/-- What a step does to the stored logs. -/
structure Keeps (action : AuditAction) (state next : AuditState) : Prop where
  sound : next.Sound gzip
  files : ∀ name file, isArchiveFilename name = true → state.files name = some file →
    next.files name = some file
  removed : ∀ log ∈ state.table.rows, log ∉ next.table.rows →
    action = .commit ∧ ∃ run logs, state.cleanup = .deleted run logs ∧ log ∈ logs
  added : ∀ log ∈ next.table.rows,
    log ∈ state.table.rows ∨ log.id ∉ state.table.rows.map AuditLogModel.id

variable {gzip} {state next : AuditState} {run : CleanupRun} {logs : List AuditLogModel}
  {log : AuditLogModel} {temporary target : List Char} {action : AuditAction}

/-- A step that changes neither the rows nor the files. -/
theorem keeps_of_same (sound : next.Sound gzip) (table : next.table = state.table)
    (files : next.files = state.files) : Keeps gzip action state next where
  sound := sound
  files := fun name file _ isFile => by rw [files, isFile]
  removed := fun log inRows gone => absurd (table ▸ inRows) gone
  added := fun log inRows => .inl (table ▸ inRows)

/-- A step that changes the file under one name, which is no archive's. -/
theorem keeps_of_update {content : Option Bytes} (sound : next.Sound gzip)
    (noArchive : isArchiveFilename temporary = false) (table : next.table = state.table)
    (files : next.files = Function.update state.files temporary content) :
    Keeps gzip action state next where
  sound := sound
  files := by
    intro name file isName isFile
    have differs : name ≠ temporary := by
      intro same
      rw [same, noArchive] at isName
      cases isName
    rw [files, Function.update_of_ne differs, isFile]
  removed := fun log inRows gone => absurd (table ▸ inRows) gone
  added := fun log inRows => .inl (table ▸ inRows)

private theorem not_isArchiveFilename_temporaryName (random : List Char) :
    isArchiveFilename (temporaryName random) = false := by
  have start : (temporaryName random).take 6 = ['.', 'a', 'u', 'd', 'i', 't'] := rfl
  rw [isArchiveFilename, start]
  simp

/-- The rows that a flush leaves: the old ones, and new ones under new identifiers. -/
theorem mem_rows_insert :
    (∀ log ∈ state.table.rows, log ∈ (state.insert logs).table.rows) ∧
      ∀ log ∈ (state.insert logs).table.rows,
        log ∈ state.table.rows ∨ log.id ∉ state.table.rows.map AuditLogModel.id := by
  unfold insert
  cases isInserted : state.table.insert logs with
  | none => exact ⟨fun log inRows => inRows, fun log inRows => .inl inRows⟩
  | some inserted =>
      have rows := AuditTable.rows_of_insert isInserted
      have distinct := inserted.distinct
      rw [rows, List.map_append, List.nodup_append] at distinct
      rw [Option.getD_some, rows]
      constructor
      · exact fun log inRows => List.mem_append_left _ inRows
      · intro log inRows
        obtain old | new := List.mem_append.mp inRows
        · exact .inl old
        · exact .inr fun known => distinct.2.2 _ known _ (List.mem_map_of_mem new) rfl

theorem IsBatch.mono (batch : state.IsBatch run logs)
    (rows : ∀ log ∈ state.table.rows, log ∈ next.table.rows) : next.IsBatch run logs :=
  ⟨batch.1, fun log listed => ⟨rows log (batch.2 log listed).1, (batch.2 log listed).2⟩⟩

/-- New rows change nothing for the run at work. -/
theorem Sound.mono (sound : state.Sound gzip) (cleanup : next.cleanup = state.cleanup)
    (files : next.files = state.files)
    (rows : ∀ log ∈ state.table.rows, log ∈ next.table.rows) : next.Sound gzip := by
  unfold Sound at sound ⊢
  rw [cleanup, files]
  cases isStage : state.cleanup with
  | idle => trivial
  | looping run => rwa [isStage] at sound
  | selected run logs =>
      rw [isStage] at sound
      exact sound.mono rows
  | writing run logs temporary =>
      rw [isStage] at sound
      exact ⟨sound.1.mono rows, sound.2⟩
  | written run logs temporary =>
      rw [isStage] at sound
      exact ⟨sound.1.mono rows, sound.2⟩
  | archived run logs =>
      rw [isStage] at sound
      exact ⟨sound.1.mono rows, sound.2⟩
  | deleted run logs =>
      rw [isStage] at sound
      exact ⟨sound.1.mono rows, sound.2⟩
  | finishing run => trivial

private theorem keeps_of_insert (sound : state.Sound gzip) (cleanup : next.cleanup = state.cleanup)
    (files : next.files = state.files) (table : next.table = (state.insert logs).table) :
    Keeps gzip action state next := by
  obtain ⟨old, new⟩ := @mem_rows_insert state logs
  exact
    { sound := sound.mono cleanup files (table ▸ old)
      files := fun name file _ isFile => by rw [files, isFile]
      removed := fun log inRows gone => absurd (table ▸ old log inRows) gone
      added := table ▸ new }

/-- The batch that a round selects is one of expired rows. -/
theorem keeps_select (enabled : run.policy.archiveEnabled = true) :
    Keeps gzip action state (state.select run) := by
  unfold select
  cases isBatch : state.table.selectExpired run.cutoff with
  | nil => exact keeps_of_same trivial rfl rfl
  | cons log logs =>
      dsimp only
      rw [if_pos enabled]
      have batch : state.IsBatch run (log :: logs) :=
        ⟨enabled, fun other listed => AuditTable.mem_of_selectExpired (isBatch ▸ listed)⟩
      exact keeps_of_same batch rfl rfl

private theorem keeps_createTemporary (sound : state.Sound gzip) (batch : state.IsBatch run logs)
    (noArchive : isArchiveFilename temporary = false) :
    Keeps gzip action state (state.createTemporary run logs temporary) := by
  unfold createTemporary
  split_ifs
  · exact keeps_of_update ⟨batch, noArchive⟩ noArchive rfl rfl
  · exact keeps_of_same sound rfl rfl

/-- Moving the temporary file to a new name publishes the archive of the batch. -/
theorem keeps_replace (batch : state.IsBatch run logs)
    (noArchive : isArchiveFilename temporary = false)
    (whole : state.files temporary = some (gzip.compress (archiveContent logs)))
    (isName : isArchiveFilename target = true) (new : state.files target = none) :
    Keeps gzip action state (state.replace run logs temporary target) where
  sound := ⟨batch, target, isName, by simp [replace, whole]⟩
  files := by
    intro name file isArchive isFile
    have notTarget : name ≠ target := by
      intro same
      rw [same, new] at isFile
      cases isFile
    have notTemporary : name ≠ temporary := by
      intro same
      rw [same, noArchive] at isArchive
      cases isArchive
    unfold replace
    dsimp only
    rw [Function.update_of_ne notTarget, Function.update_of_ne notTemporary, isFile]
  removed := fun log inRows gone => absurd inRows gone
  added := fun log inRows => .inl inRows

/-- A deletion takes away the rows of the batch. -/
theorem keeps_delete (batch : state.IsBatch run logs) (stage : state.cleanup = .deleted run logs) :
    Keeps gzip .commit state
      { state with
        table := state.table.delete (logs.map AuditLogModel.id)
        cleanup := .looping { run with deletedCount := run.deletedCount + logs.length } } where
  sound := batch.1
  files := fun _ _ _ isFile => isFile
  removed := by
    intro log inRows gone
    have isDeleted : log.id ∈ logs.map AuditLogModel.id := by
      by_contra kept
      exact gone (AuditTable.mem_rows_delete.mpr ⟨inRows, kept⟩)
    obtain ⟨other, listed, same⟩ := List.mem_map.mp isDeleted
    have isLog := state.table.eq_of_id (batch.2 other listed).1 inRows same
    exact ⟨rfl, run, logs, stage, isLog ▸ listed⟩
  added := fun log inRows => .inl (AuditTable.mem_rows_delete.mp inRows).1

private theorem keeps_readArchive (sound : state.Sound gzip) (filename : List Char) :
    Keeps gzip action state (state.readArchive gzip filename) := by
  unfold readArchive
  split
  · exact keeps_of_same (sound.mono rfl rfl fun _ => id) rfl rfl
  · exact keeps_of_same sound rfl rfl

/-- **One step.** Published archives stay as they are, a row goes only when its batch is archived,
and a row comes only under a new identifier. -/
theorem keeps_act (sound : state.Sound gzip)
    (enabled : ArchivingEnabled action state) (new : PublishesNew action state) :
    Keeps gzip action state (state.act gzip action) := by
  have stage := sound
  unfold Sound at stage
  unfold ArchivingEnabled at enabled
  unfold PublishesNew at new
  unfold act
  split
  case h_1 log _ _ => exact keeps_of_insert sound rfl rfl rfl
  case h_2 => exact keeps_of_same (sound.mono rfl rfl fun _ => id) rfl rfl
  case h_3 isStage =>
    rw [isStage] at enabled
    exact keeps_of_same enabled rfl rfl
  case h_4 isStage =>
    rw [isStage] at stage
    exact keeps_select stage
  case h_5 isStage =>
    rw [isStage] at stage
    exact keeps_createTemporary sound stage (not_isArchiveFilename_temporaryName _)
  case h_6 isStage =>
    rw [isStage] at stage
    exact keeps_of_update (by unfold Sound; rw [isStage]; exact stage) stage.2 rfl rfl
  case h_7 isStage =>
    rw [isStage] at stage
    exact keeps_of_update ⟨stage.1, stage.2, Function.update_self _ _ _⟩ stage.2 rfl rfl
  case h_8 isStage =>
    rw [isStage] at stage new
    exact keeps_replace stage.1 stage.2.1 stage.2.2 (isArchiveFilename_archiveFilename _ _) new
  case h_9 isStage =>
    rw [isStage] at stage
    exact keeps_of_same stage rfl rfl
  case h_10 isStage =>
    rw [isStage] at stage
    exact keeps_delete stage.1 isStage
  case h_11 => exact keeps_of_same trivial rfl rfl
  case h_12 isStage =>
    rw [isStage] at stage
    exact keeps_of_update trivial stage.2 rfl rfl
  case h_13 isStage =>
    rw [isStage] at stage
    exact keeps_of_update trivial stage.2.1 rfl rfl
  case h_14 => exact keeps_of_same trivial rfl rfl
  case h_15 => exact keeps_readArchive sound _
  case h_16 => exact keeps_of_same (sound.mono rfl rfl fun _ => id) rfl rfl
  case h_17 => exact keeps_of_insert sound rfl rfl rfl
  case h_18 => exact keeps_of_same (sound.mono rfl rfl fun _ => id) rfl rfl
  case h_19 => exact keeps_of_same trivial rfl rfl
  case h_20 => exact keeps_of_same sound rfl rfl

/-- A stored log stays stored through a step. -/
theorem Keeps.holds (keeps : Keeps gzip action state next) (sound : state.Sound gzip)
    (held : state.Holds gzip log) : next.Holds gzip log := by
  obtain inRows | ⟨logs, listed, name, isName, isFile⟩ := held
  · by_cases stays : log ∈ next.table.rows
    · exact .inl stays
    · obtain ⟨-, run, logs, stage, listed⟩ := keeps.removed log inRows stays
      unfold Sound at sound
      rw [stage] at sound
      obtain ⟨-, name, isName, isFile⟩ := sound
      exact .inr ⟨logs, listed, name, isName, keeps.files name _ isName isFile⟩
  · exact .inr ⟨logs, listed, name, isName, keeps.files name _ isName isFile⟩

end AuditState

end Invariant

section Runs

open AuditState

/-- A step of the system with archiving enabled. -/
def AuditStep (gzip : Gzip) (state : AuditState) (action : AuditAction) (next : AuditState) : Prop :=
  ArchivingEnabled action state ∧ next = state.act gzip action

/-- A step that publishes no archive under a name in use. -/
def PublishingStep (gzip : Gzip) (state : AuditState) (action : AuditAction)
    (next : AuditState) : Prop :=
  PublishesNew action state ∧ AuditStep gzip state action next

variable {gzip : Gzip} {start middle final : AuditState} {early late : List AuditAction}

private theorem sound_of_run (sound : start.Sound gzip)
    (run : StepRun (PublishingStep gzip) start early final) : final.Sound gzip := by
  apply run.preserves _ sound
  rintro state action next sound ⟨new, enabled, rfl⟩
  exact (keeps_act sound enabled new).sound

private theorem holds_of_run {log : AuditLogModel} (sound : start.Sound gzip)
    (held : start.Holds gzip log)
    (run : StepRun (PublishingStep gzip) start early final) : final.Holds gzip log := by
  let stays : AuditState → Prop := fun state => state.Sound gzip ∧ state.Holds gzip log
  have both : stays final := by
    apply run.preserves _ ⟨sound, held⟩
    rintro state action next ⟨sound, held⟩ ⟨new, enabled, rfl⟩
    have keeps := keeps_act sound enabled new
    exact ⟨keeps.sound, keeps.holds sound held⟩
  exact both.2

/-- **No log is lost.** In a run that publishes each archive under a new name, a log that is stored
at some moment is stored at every later one, in the table or whole in a published archive. A row
goes only when its batch is deleted, which had expired for the run, and a row comes only under an
identifier that no row has. -/
theorem audit_logs_kept (gzip : Gzip) {start middle final : AuditState}
    {early late : List AuditAction} (atRest : start.cleanup = .idle)
    (before : StepRun (PublishingStep gzip) start early middle)
    (after : StepRun (PublishingStep gzip) middle late final) :
    (∀ log, middle.Holds gzip log → final.Holds gzip log) ∧
      ∀ action next, PublishingStep gzip final action next →
        (∀ log ∈ final.table.rows, log ∉ next.table.rows →
          action = .commit ∧ ∃ run logs, final.cleanup = .deleted run logs ∧ log ∈ logs ∧
            log.createdAt.micros < run.cutoff) ∧
        ∀ log ∈ next.table.rows,
          log ∈ final.table.rows ∨ log.id ∉ final.table.rows.map AuditLogModel.id := by
  have soundStart : start.Sound gzip := by
    unfold Sound
    rw [atRest]
    trivial
  have soundMiddle := sound_of_run soundStart before
  have soundFinal := sound_of_run soundMiddle after
  constructor
  · intro log held
    exact holds_of_run soundMiddle held after
  · rintro action next ⟨new, enabled, rfl⟩
    have keeps := keeps_act soundFinal enabled new
    constructor
    · intro log inRows gone
      obtain ⟨isCommit, run, logs, stage, listed⟩ := keeps.removed log inRows gone
      unfold Sound at soundFinal
      rw [stage] at soundFinal
      exact ⟨isCommit, run, logs, stage, listed, (soundFinal.1.2 log listed).2⟩
    · exact keeps.added

/-- The steps of a retention run that archives and deletes one batch, until its process ends. -/
def cleanupActions (now : Int) (random : List Char) (suffix : Uuid) : List AuditAction :=
  [.startCleanup now, .select, .createTemporary random, .closeTemporary, .replace suffix, .delete,
    .commit, .crash]

/-- Two logs, of which the first is a second older. -/
def logOfSecond (id : Uuid) (second : Nat)
    (inRange : (Datetime.utc (second * 1000000)).InRange) : AuditLogModel :=
  record id "admin" "create" "service" "00000000-0000-0000-0000-000000000002" "shop" none
    ⟨_, inRange⟩

def firstLog : AuditLogModel := logOfSecond ⟨1⟩ 0 (by decide)

def secondLog : AuditLogModel := logOfSecond ⟨2⟩ 1 (by decide)

def twoLogs : AuditState where
  table := ⟨[firstLog, secondLog], by decide⟩
  settings := {}
  files := fun _ => none

/-- 365 days after the second log. -/
def expiryOfFirst : Int := 31536001000000

/-- Half a second later. -/
def expiryOfSecond : Int := 31536001500000

theorem audit_logs_kept_example :
    AuditState.Holds storedGzip
      ((cleanupActions expiryOfFirst ['x'] ⟨7⟩).foldl
        (fun state action => state.act storedGzip action) twoLogs) firstLog := by
  have run : StepRun (PublishingStep storedGzip) twoLogs (cleanupActions expiryOfFirst ['x'] ⟨7⟩)
      ((cleanupActions expiryOfFirst ['x'] ⟨7⟩).foldl
        (fun state action => state.act storedGzip action) twoLogs) :=
    .cons ⟨trivial, rfl, rfl⟩ (.cons ⟨trivial, trivial, rfl⟩ (.cons ⟨trivial, trivial, rfl⟩
      (.cons ⟨trivial, trivial, rfl⟩ (.cons ⟨rfl, trivial, rfl⟩ (.cons ⟨trivial, trivial, rfl⟩
        (.cons ⟨trivial, trivial, rfl⟩ (.cons ⟨trivial, trivial, rfl⟩ .nil)))))))
  exact (audit_logs_kept storedGzip rfl .nil run).1 firstLog (.inl List.mem_cons_self)

/-- What the run leaves: the archive of the batch in place of its rows. -/
def AuditState.cleaned (gzip : Gzip) (state : AuditState) (target : List Char)
    (batch : List AuditLogModel) : AuditState where
  table := state.table.delete (batch.map AuditLogModel.id)
  settings := state.settings
  files := Function.update state.files target (some (gzip.compress (archiveContent batch)))

private theorem AuditState.files_cleaned (state : AuditState) (target : List Char)
    (batch : List AuditLogModel) :
    (state.cleaned gzip target batch).files target =
      some (gzip.compress (archiveContent batch)) := Function.update_self _ _ _

private theorem AuditState.files_cleaned_of_ne (state : AuditState) {target name : List Char}
    (differs : name ≠ target) (batch : List AuditLogModel) :
    (state.cleaned gzip target batch).files name = state.files name :=
  Function.update_of_ne differs _ _

/-- **A whole run.** Without a failure the batch is archived and deleted, whatever the target
held. -/
theorem run_cleanupActions {state : AuditState} {now : Int} {random : List Char} {suffix : Uuid}
    {log : AuditLogModel} {logs : List AuditLogModel} (atRest : state.cleanup = .idle)
    (enabled : (buildPolicy state.settings).archiveEnabled = true)
    (isBatch : state.table.selectExpired
      (now - (buildPolicy state.settings).retentionDays * 86400000000) = log :: logs)
    (free : state.files (temporaryName random) = none) :
    StepRun (AuditStep gzip) state (cleanupActions now random suffix)
      (state.cleaned gzip (archiveFilename now suffix) (log :: logs)) := by
  obtain ⟨table, settings, files, cleanup, restore⟩ := state
  dsimp only at atRest enabled isBatch free
  subst atRest
  let run : CleanupRun := { runAt := now, policy := buildPolicy settings }
  let selected : AuditState := ⟨table, settings, files, .selected run (log :: logs), restore⟩
  have selects : selected =
      act gzip .select ⟨table, settings, files, .looping run, restore⟩ := by
    simp [act, select, CleanupRun.cutoff, isBatch, enabled, run, selected]
  have creates : act gzip (.createTemporary random) selected =
      ⟨table, settings, Function.update files (temporaryName random) (some []),
        .writing run (log :: logs) (temporaryName random), restore⟩ := if_pos free
  have unlinked : Function.update files (temporaryName random) none = files :=
    Function.update_eq_self_iff.mpr free.symm
  refine .cons ⟨enabled, rfl⟩ (.cons ⟨trivial, selects⟩ (.cons ⟨trivial, rfl⟩ ?_))
  rw [creates]
  refine .cons ⟨trivial, rfl⟩ (.cons ⟨trivial, rfl⟩ (.cons ⟨trivial, rfl⟩ (.cons ⟨trivial, rfl⟩
    (.cons ⟨trivial, ?_⟩ .nil))))
  simp [act, AuditState.replace, cleaned, unlinked, run]

/-- Two runs in one second whose archives draw the same name: the second archive replaces the
first, whose logs are deleted. -/
theorem firstLog_lost :
    ¬ ∃ gzip : Gzip, ∀ (start middle final : AuditState) (early late : List AuditAction),
      start.cleanup = .idle → StepRun (AuditStep gzip) start early middle →
        StepRun (AuditStep gzip) middle late final →
          ∀ log, middle.Holds gzip log → final.Holds gzip log := by
  rintro ⟨gzip, kept⟩
  obtain ⟨target, isTarget⟩ : ∃ target, archiveFilename expiryOfFirst ⟨7⟩ = target := ⟨_, rfl⟩
  have sameName : archiveFilename expiryOfSecond ⟨7⟩ = target := by
    rw [← isTarget]
    decide +kernel
  have notTarget : temporaryName ['x'] ≠ target := by
    rw [← isTarget]
    decide +kernel
  have isName : isArchiveFilename target = true :=
    isTarget ▸ isArchiveFilename_archiveFilename _ _
  have enabled : (buildPolicy twoLogs.settings).archiveEnabled = true := rfl
  have firstRun : StepRun (AuditStep gzip) twoLogs (cleanupActions expiryOfFirst ['x'] ⟨7⟩)
      (twoLogs.cleaned gzip target [firstLog]) :=
    isTarget ▸ run_cleanupActions rfl enabled rfl rfl
  have secondRun : StepRun (AuditStep gzip) (twoLogs.cleaned gzip target [firstLog])
      (cleanupActions expiryOfSecond ['x'] ⟨7⟩)
      ((twoLogs.cleaned gzip target [firstLog]).cleaned gzip target [secondLog]) := by
    have free : (twoLogs.cleaned gzip target [firstLog]).files (temporaryName ['x']) = none :=
      AuditState.files_cleaned_of_ne _ notTarget _
    have remaining : (twoLogs.cleaned gzip target [firstLog]).table =
        ⟨[secondLog], List.nodup_singleton _⟩ := by
      apply AuditTable.ext
      show [firstLog, secondLog].filter (fun log => log.id ∉ [firstLog.id]) = [secondLog]
      rw [List.filter_cons_of_neg (by decide), List.filter_cons_of_pos (by decide)]
      rfl
    have isBatch : (twoLogs.cleaned gzip target [firstLog]).table.selectExpired (expiryOfSecond -
        (buildPolicy (twoLogs.cleaned gzip target [firstLog]).settings).retentionDays *
          86400000000) = [secondLog] := by
      have days : (buildPolicy (twoLogs.cleaned gzip target [firstLog]).settings).retentionDays =
        365 := rfl
      rw [remaining, days]
      exact AuditTable.selectExpired_singleton (by decide)
    have run := @run_cleanupActions gzip (twoLogs.cleaned gzip target [firstLog]) expiryOfSecond
      ['x'] ⟨7⟩ secondLog [] rfl enabled isBatch free
    rwa [sameName] at run
  have held : (twoLogs.cleaned gzip target [firstLog]).Holds gzip firstLog :=
    .inr ⟨[firstLog], List.mem_cons_self, target, isName, AuditState.files_cleaned _ _ _⟩
  have recorded : ∀ id second inRange, (logOfSecond id second inRange).Recorded := by
    intro id second inRange detail isDetail
    cases isDetail
  obtain inRows | ⟨logs, listed, name, -, isFile⟩ :=
    kept twoLogs _ _ _ _ rfl firstRun secondRun firstLog held
  · cases inRows
  · have atTarget : name = target := by
      by_contra differs
      rw [AuditState.files_cleaned_of_ne _ differs, AuditState.files_cleaned_of_ne _ differs]
        at isFile
      cases isFile
    have content : archiveContent [secondLog] = archiveContent logs := by
      rw [atTarget, AuditState.files_cleaned] at isFile
      have decompressed := congrArg gzip.decompress (Option.some.inj isFile)
      rw [gzip.decompress_compress, gzip.decompress_compress] at decompressed
      exact Option.some.inj decompressed
    have same := eq_of_archiveContent_singleton listed (recorded _ _ _) (recorded _ _ _)
      content.symm
    exact absurd (congrArg AuditLogModel.id same) (by decide)

end Runs

end TraefikManager.Audit
