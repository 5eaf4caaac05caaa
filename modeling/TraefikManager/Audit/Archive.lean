import TraefikManager.Foundation.ByteLines
import TraefikManager.Foundation.Dict
import TraefikManager.Foundation.Json
import TraefikManager.IsoDatetime
import TraefikManager.UuidText

/-!
# Audit archives

The lines that the retention run writes of audit logs, the reader that checks an archive file
before a restore, and the restore itself. A line that the writer leaves of a log passes the
reader's checks exactly when the log keeps the limits of the reader.
-/

namespace TraefikManager.Audit

open Foundation

/-- A row of the audit log. Its point in time is stored without a zone and read as UTC. -/
abbrev AuditLogModel := TraefikManager.AuditLogModel Uuid (Dict String Json) Datetime.Instant

/-- `datetime.now(timezone.utc).replace(tzinfo=None, microsecond=0)`. -/
def wholeSecond (now : Datetime.Instant) : Datetime.Instant where
  micros := now.micros / 1000000 * 1000000
  inRange := by
    have inRange := now.inRange
    simp only [Datetime.InRange, Datetime.micros_utc, Iso.minDay, Iso.maxDay] at inRange ⊢
    omega

/-- The row that `audit_service.record` adds, under the key of a new `uuid.uuid4()`. -/
def record (id : Uuid) (actor action resourceType resourceId resourceName : String)
    (detail : Option (Dict String Json)) (now : Datetime.Instant) : AuditLogModel :=
  { id, actor, action, resourceType, resourceId, resourceName, detail
    createdAt := wholeSecond now }

/-- A JSON column holds what `json.dumps` wrote of the detail. -/
def AuditLogModel.Recorded (log : AuditLogModel) : Prop :=
  ∀ detail ∈ log.detail, ∀ entry ∈ detail.entries, entry.2.Exact

/-- The `gzip` module: a compressed file is read back. -/
structure Gzip where
  compress : Bytes → Bytes
  decompress : Bytes → Option Bytes
  decompress_compress : ∀ content, decompress (compress content) = some content

section Writing

/-- `_serialize_log`. -/
def serializeLog (log : AuditLogModel) : List (String × Json) :=
  [("id", .string log.id.text),
    ("actor", .string log.actor),
    ("action", .string log.action),
    ("resource_type", .string log.resourceType),
    ("resource_id", .string log.resourceId),
    ("resource_name", .string log.resourceName),
    ("detail", (log.detail.map fun detail => Json.object detail.entries).getD .null),
    ("created_at", .string (Datetime.utc log.createdAt.micros).isoformat)]

/-- The text of a log in the archive, without its line end. -/
def archiveText (log : AuditLogModel) : List Char := (Json.object (serializeLog log)).dumps.toList

/-- The line that the loop of `_write_archive` writes for a record. -/
def archiveLine (log : AuditLogModel) : Bytes := Bytes.encode (archiveText log ++ ['\n'])

/-- What an archive decompresses to. -/
def archiveContent (logs : List AuditLogModel) : Bytes := logs.flatMap archiveLine

end Writing

section Names

/-- `f"audit-{run_at:%Y%m%dT%H%M%SZ}-{uuid4().hex[:8]}.jsonl.gz"`. -/
def archiveFilename (runAt : Int) (suffix : Uuid) : List Char :=
  let (year, month, day) := Datetime.civilDate (runAt / 86400000000)
  let seconds := (runAt % 86400000000).toNat / 1000000
  let digits := fun width value => (Datetime.decimalDigits width value).toList
  "audit-".toList ++ (digits 4 year.toNat ++ digits 2 month.toNat ++ digits 2 day.toNat) ++
    'T' :: (digits 2 (seconds / 3600) ++ digits 2 (seconds / 60 % 60) ++ digits 2 (seconds % 60)) ++
    'Z' :: '-' :: (hexDigits 32 suffix.bits.toNat).take 8 ++ ".jsonl.gz".toList

/-- `AUDIT_ARCHIVE_FILENAME_PATTERN.fullmatch`, for names in ASCII. -/
def isArchiveFilename (name : List Char) : Bool :=
  name.length = 40 ∧ name.take 6 = "audit-".toList ∧
    ((name.drop 6).take 8).all Text.isDigit ∧ (name.drop 14).take 1 = ['T'] ∧
    ((name.drop 15).take 6).all Text.isDigit ∧ (name.drop 21).take 2 = ['Z', '-'] ∧
    ((name.drop 23).take 8).all (fun c => Text.isDigit c || decide ('a' ≤ c ∧ c ≤ 'f')) ∧
    name.drop 31 = ".jsonl.gz".toList

end Names

section Reading

/-- What the reader raises. -/
inductive ArchiveFailure where
  | fileNotFound (filename : List Char)
  | auditArchiveValidationError (message : String)
  | overflowError
  deriving DecidableEq

def maxAuditArchiveCompressedBytes : Nat := 64 * 1024 * 1024
def maxAuditArchiveUncompressedBytes : Nat := 64 * 1024 * 1024
def maxAuditArchiveLineBytes : Nat := 1024 * 1024
def maxAuditArchiveRecords : Nat := 10000

/-- `str(value)`, for the values whose text can be that of an identifier. -/
def identifierText : Option Json → Option String
  | some (.string text) => some text
  | some (.int value) => some (toString value)
  | _ => none

/-- `_validate_uuid`. -/
def validateUuid (value : Option Json) (lineNumber : Nat) : Except ArchiveFailure Uuid :=
  match (identifierText value).bind Uuid.parse with
  | some id => .ok id
  | none => .error (.auditArchiveValidationError
      s!"아카이브 {lineNumber}번째 id가 올바른 UUID가 아닙니다")

/-- The check of the detail. -/
def validateDetail (value : Option Json) (lineNumber : Nat) :
    Except ArchiveFailure (Option (Dict String Json)) :=
  match value with
  | none => .ok none
  | some .null => .ok none
  | some (.object fields) => .ok (some (Dict.ofList fields))
  | some _ => .error (.auditArchiveValidationError
      s!"아카이브 {lineNumber}번째 detail은 객체여야 합니다")

/-- `_validate_text`. -/
def validateText (value : Option Json) (field : String) (maxLength lineNumber : Nat) :
    Except ArchiveFailure String :=
  let invalid : ArchiveFailure :=
    .auditArchiveValidationError s!"아카이브 {lineNumber}번째 {field} 값이 올바르지 않습니다"
  match value with
  | some (.string text) =>
      if text = "" ∨ maxLength < text.toList.length then .error invalid else .ok text
  | _ => .error invalid

/-- `_validate_created_at`. -/
def validateCreatedAt (value : Option Json) (lineNumber : Nat) :
    Except ArchiveFailure Datetime.Instant :=
  let invalid : ArchiveFailure :=
    .auditArchiveValidationError s!"아카이브 {lineNumber}번째 created_at 값이 올바르지 않습니다"
  match value with
  | some (.string text) =>
      match Datetime.fromIsoformat (Datetime.spellZulu text) with
      | none => .error invalid
      | some parsed =>
          if inRange : (Datetime.utc parsed.micros).InRange then .ok ⟨parsed.micros, inRange⟩
          else .error .overflowError
  | _ => .error invalid

/-- `_validate_archive_record`. -/
def validateArchiveRecord (rawLine : Bytes) (lineNumber : Nat) :
    Except ArchiveFailure AuditLogModel :=
  match (Bytes.decode rawLine).bind Json.loads with
  | none => .error (.auditArchiveValidationError
      s!"아카이브 {lineNumber}번째 레코드가 올바른 JSON이 아닙니다")
  | some (.object payload) => do
      let id ← validateUuid (Json.get? payload "id") lineNumber
      let detail ← validateDetail (Json.get? payload "detail") lineNumber
      let actor ← validateText (Json.get? payload "actor") "actor" 100 lineNumber
      let action ← validateText (Json.get? payload "action") "action" 20 lineNumber
      let resourceType ←
        validateText (Json.get? payload "resource_type") "resource_type" 50 lineNumber
      let resourceId ← validateText (Json.get? payload "resource_id") "resource_id" 255 lineNumber
      let resourceName ←
        validateText (Json.get? payload "resource_name") "resource_name" 255 lineNumber
      let createdAt ← validateCreatedAt (Json.get? payload "created_at") lineNumber
      pure { id, actor, action, resourceType, resourceId, resourceName, detail, createdAt }
  | some _ => .error (.auditArchiveValidationError
      s!"아카이브 {lineNumber}번째 레코드는 객체여야 합니다")

/-- The records read so far, and the bytes they took. -/
structure ArchiveReading where
  records : List AuditLogModel := []
  uncompressedBytes : Nat := 0

/-- The part of the reading loop that reads a record. -/
def readArchiveRecord (reading : ArchiveReading) (rawLine : Bytes) :
    Except ArchiveFailure (List AuditLogModel) :=
  if rawLine.all Bytes.isSpace then .ok reading.records
  else if maxAuditArchiveRecords ≤ reading.records.length then
    .error (.auditArchiveValidationError "아카이브 레코드 수가 허용 범위를 초과했습니다")
  else do
    let record ← validateArchiveRecord rawLine (reading.records.length + 1)
    if record.id ∈ reading.records.map AuditLogModel.id then
      .error (.auditArchiveValidationError
        s!"아카이브 {reading.records.length + 1}번째 레코드 ID가 중복되었습니다")
    else pure (reading.records ++ [record])

/-- One round of the reading loop. -/
def readArchiveLine (reading : ArchiveReading) (rawLine : Bytes) :
    Except ArchiveFailure ArchiveReading :=
  let uncompressedBytes := reading.uncompressedBytes + rawLine.length
  if maxAuditArchiveLineBytes < rawLine.length then
    .error (.auditArchiveValidationError "아카이브의 단일 레코드가 허용 크기를 초과했습니다")
  else if maxAuditArchiveUncompressedBytes < uncompressedBytes then
    .error (.auditArchiveValidationError "아카이브 해제 데이터가 허용 크기를 초과했습니다")
  else do
    let records ← readArchiveRecord reading rawLine
    pure { records, uncompressedBytes }

/-- `_read_archive_records` on the bytes of a file. -/
def readArchiveRecords (gzip : Gzip) (file : Bytes) :
    Except ArchiveFailure (List AuditLogModel) :=
  if maxAuditArchiveCompressedBytes < file.length then
    .error (.auditArchiveValidationError "아카이브 압축 파일이 허용 크기를 초과했습니다")
  else
    match gzip.decompress file with
    | none => .error (.auditArchiveValidationError "gzip 아카이브를 읽을 수 없습니다")
    | some content => do
        let reading ←
          (Bytes.readLines (maxAuditArchiveLineBytes + 1) [] content).foldlM readArchiveLine {}
        if reading.records = [] then
          .error (.auditArchiveValidationError "아카이브에 복원할 감사 로그가 없습니다")
        else pure reading.records

end Reading

section Restoring

/-- The archive directory: the content of each of its files. -/
abbrev ArchiveDirectory := List Char → Option Bytes

/-- `resolve_audit_archive_path`, in a directory of plain files. -/
def resolveAuditArchivePath (files : ArchiveDirectory) (filename : List Char) :
    Except ArchiveFailure Bytes :=
  if isArchiveFilename filename then
    match files filename with
    | some file => .ok file
    | none => .error (.fileNotFound filename)
  else .error (.fileNotFound filename)

def restoreIdQueryBatchSize : Nat := 500

/-- `existing_ids`: what the queries return, one for each batch of identifiers. -/
def existingIds (rows : List AuditLogModel) (recordIds : List Uuid) : List Uuid :=
  let batches := (recordIds.length + restoreIdQueryBatchSize - 1) / restoreIdQueryBatchSize
  (List.range batches).flatMap fun batch =>
    let wanted := (recordIds.drop (batch * restoreIdQueryBatchSize)).take restoreIdQueryBatchSize
    (rows.map AuditLogModel.id).filter (· ∈ wanted)

/-- The rows that `restore_audit_archive` adds to the session. -/
def restoredLogs (rows records : List AuditLogModel) : List AuditLogModel :=
  let existing := existingIds rows (records.map AuditLogModel.id)
  records.filter fun record => record.id ∉ existing

/-- What `restore_audit_archive` returns. -/
structure RestoreResult where
  filename : List Char
  totalCount : Nat
  restoredCount : Nat
  skippedCount : Nat
  deriving DecidableEq

/-- `restore_audit_archive`: the rows it adds, and its result. -/
def restoreAuditArchive (gzip : Gzip) (files : ArchiveDirectory) (rows : List AuditLogModel)
    (filename : List Char) : Except ArchiveFailure (List AuditLogModel × RestoreResult) := do
  let file ← resolveAuditArchivePath files filename
  let records ← readArchiveRecords gzip file
  let restored := restoredLogs rows records
  pure (restored,
    { filename
      totalCount := records.length
      restoredCount := restored.length
      skippedCount := records.length - restored.length })

end Restoring

section Names

private theorem isArchiveFilename_of_parts {date clock tail : List Char} (isDate : date.length = 8)
    (dateDigits : date.all Text.isDigit = true) (isClock : clock.length = 6)
    (clockDigits : clock.all Text.isDigit = true) (isTail : tail.length = 8)
    (hex : tail.all (fun c => Text.isDigit c || decide ('a' ≤ c ∧ c ≤ 'f')) = true) :
    isArchiveFilename ("audit-".toList ++ date ++ 'T' :: clock ++ 'Z' :: '-' :: tail ++
      ".jsonl.gz".toList) = true := by
  have cut : ∀ (first second : List Char) count, first.length = count →
      (first ++ second).take count = first ∧ (first ++ second).drop count = second := by
    intro first second count isCount
    rw [← isCount]
    exact ⟨List.take_left, List.drop_left⟩
  have isName : "audit-".toList ++ date ++ 'T' :: clock ++ 'Z' :: '-' :: tail ++
      ".jsonl.gz".toList = "audit-".toList ++ (date ++ (['T'] ++ (clock ++ (['Z', '-'] ++
        (tail ++ ".jsonl.gz".toList))))) := by
    simp
  rw [isName]
  have later : ∀ (chars : List Char) start more,
      chars.drop (start + more) = (chars.drop start).drop more := by
    intro chars start more
    rw [List.drop_drop]
  unfold isArchiveFilename
  rw [later _ 23 8, later _ 21 2, later _ 15 6, later _ 14 1, later _ 6 8,
    (cut _ _ 6 rfl).1, (cut _ _ 6 rfl).2, (cut _ _ 8 isDate).1, (cut _ _ 8 isDate).2,
    (cut _ _ 1 rfl).1, (cut _ _ 1 rfl).2, (cut _ _ 6 isClock).1, (cut _ _ 6 isClock).2,
    (cut _ _ 2 rfl).1, (cut _ _ 2 rfl).2, (cut _ _ 8 isTail).1, (cut _ _ 8 isTail).2]
  simpa [isDate, isClock, isTail, dateDigits, clockDigits] using hex

/-- The reader accepts the names that the writer makes. -/
theorem isArchiveFilename_archiveFilename (runAt : Int) (suffix : Uuid) :
    isArchiveFilename (archiveFilename runAt suffix) = true := by
  have hex : ((hexDigits 32 suffix.bits.toNat).take 8).all
      (fun c => Text.isDigit c || decide ('a' ≤ c ∧ c ≤ 'f')) = true := by
    have each : ∀ c ∈ lowerHexDigits, (Text.isDigit c || decide ('a' ≤ c ∧ c ≤ 'f')) = true := by
      decide
    exact List.all_eq_true.mpr fun c listed =>
      each c (mem_lowerHexDigits (List.mem_of_mem_take listed))
  apply isArchiveFilename_of_parts
  · simp [Iso.length_decimalDigits]
  · simp only [List.all_append, Iso.all_decimalDigits, Bool.and_self]
  · simp [Iso.length_decimalDigits]
  · simp only [List.all_append, Iso.all_decimalDigits, Bool.and_self]
  · rw [List.length_take, length_hexDigits]
    rfl
  · exact hex

end Names

section Restoring

private theorem mem_existingIds {rows : List AuditLogModel} {recordIds : List Uuid} {id : Uuid} :
    id ∈ existingIds rows recordIds ↔ id ∈ rows.map AuditLogModel.id ∧ id ∈ recordIds := by
  simp only [existingIds, List.mem_flatMap, List.mem_filter, decide_eq_true_eq, List.mem_range]
  constructor
  · rintro ⟨batch, -, inRows, wanted⟩
    exact ⟨inRows, List.mem_of_mem_drop (List.mem_of_mem_take wanted)⟩
  · rintro ⟨inRows, wanted⟩
    obtain ⟨place, inside, rfl⟩ := List.mem_iff_getElem.mp wanted
    have atPlace : place / restoreIdQueryBatchSize * restoreIdQueryBatchSize +
        place % restoreIdQueryBatchSize = place := by
      rw [Nat.mul_comm]
      exact Nat.div_add_mod place restoreIdQueryBatchSize
    have small : place % restoreIdQueryBatchSize < restoreIdQueryBatchSize :=
      Nat.mod_lt _ (by decide)
    refine ⟨place / restoreIdQueryBatchSize, ?_, inRows, ?_⟩
    · unfold restoreIdQueryBatchSize
      omega
    · apply List.mem_iff_getElem.mpr
      refine ⟨place % restoreIdQueryBatchSize, ?_, ?_⟩
      · rw [List.length_take, List.length_drop]
        omega
      · simp only [List.getElem_take, List.getElem_drop, atPlace]

/-- Records whose keys are free are all restored. -/
theorem restoredLogs_eq_self {rows records : List AuditLogModel}
    (absent : ∀ record ∈ records, record.id ∉ rows.map AuditLogModel.id) :
    restoredLogs rows records = records := by
  unfold restoredLogs
  apply List.filter_eq_self.mpr
  intro record inRecords
  rw [decide_eq_true_eq, mem_existingIds, not_and]
  exact fun inRows => absurd inRows (absent record inRecords)

end Restoring

section Records

/-- A text that the reader takes for a field. -/
def IsFieldText (maxLength : Nat) (text : String) : Prop :=
  text ≠ "" ∧ text.toList.length ≤ maxLength

instance (maxLength : Nat) (text : String) : Decidable (IsFieldText maxLength text) := by
  unfold IsFieldText
  infer_instance

/-- The texts of a log keep the limits of the reader. -/
structure AuditLogModel.HasFieldTexts (log : AuditLogModel) : Prop where
  actor : IsFieldText 100 log.actor
  action : IsFieldText 20 log.action
  resourceType : IsFieldText 50 log.resourceType
  resourceId : IsFieldText 255 log.resourceId
  resourceName : IsFieldText 255 log.resourceName

variable {log record : AuditLogModel} {lineNumber : Nat}

/-- The record of a stored row is written without loss. -/
theorem exact_serializeLog (recorded : log.Recorded) : (Json.object (serializeLog log)).Exact := by
  apply Json.Exact.object
  intro field listed
  simp only [serializeLog, List.mem_cons, List.not_mem_nil, or_false] at listed
  obtain rfl | rfl | rfl | rfl | rfl | rfl | rfl | rfl := listed
  any_goals exact .string _
  cases isDetail : log.detail with
  | none => exact .null
  | some detail => exact .object (recorded detail isDetail)

/-- A line is read as the record that it was written from. -/
theorem loads_archiveLine (recorded : log.Recorded) :
    (Bytes.decode (archiveLine log)).bind Json.loads = some (.object (serializeLog log)) := by
  rw [archiveLine, Bytes.decode_encode, Option.bind_some, archiveText, Json.dumps,
    String.toList_ofList]
  exact Json.loads_write_append (exact_serializeLog recorded) (by decide)

private theorem get?_serializeLog (log : AuditLogModel) :
    Json.get? (serializeLog log) "id" = some (.string log.id.text) ∧
      Json.get? (serializeLog log) "actor" = some (.string log.actor) ∧
      Json.get? (serializeLog log) "action" = some (.string log.action) ∧
      Json.get? (serializeLog log) "resource_type" = some (.string log.resourceType) ∧
      Json.get? (serializeLog log) "resource_id" = some (.string log.resourceId) ∧
      Json.get? (serializeLog log) "resource_name" = some (.string log.resourceName) ∧
      Json.get? (serializeLog log) "detail" =
        some ((log.detail.map fun detail => Json.object detail.entries).getD .null) ∧
      Json.get? (serializeLog log) "created_at" =
        some (.string (Datetime.utc log.createdAt.micros).isoformat) := by
  simp [Json.get?, serializeLog]

private theorem validateText_eq_ok {text result field : String} {maxLength : Nat} :
    validateText (some (.string text)) field maxLength lineNumber = .ok result ↔
      IsFieldText maxLength text ∧ text = result := by
  unfold validateText IsFieldText
  dsimp only
  split_ifs with invalid
  · constructor
    · intro failed
      cases failed
    · rintro ⟨⟨nonempty, short⟩, -⟩
      exact absurd invalid (not_or.mpr ⟨nonempty, Nat.not_lt.mpr short⟩)
  · rw [not_or, Nat.not_lt] at invalid
    constructor
    · intro isOk
      exact ⟨invalid, Except.ok.inj isOk⟩
    · rintro ⟨-, rfl⟩
      rfl

private theorem validateUuid_text (id : Uuid) :
    validateUuid (some (.string id.text)) lineNumber = .ok id := by
  rw [validateUuid, identifierText, Option.bind_some, Uuid.parse_text]

/-- A detail that was written passes its check. -/
theorem validateDetail_serialized (detail : Option (Dict String Json)) :
    validateDetail (some ((detail.map fun detail => Json.object detail.entries).getD .null))
      lineNumber = .ok detail := by
  cases detail with
  | none => rfl
  | some detail =>
      exact congrArg (fun dict => Except.ok (some dict)) (Dict.ofList_entries detail)

private theorem validateCreatedAt_isoformat (moment : Datetime.Instant) :
    validateCreatedAt (some (.string (Datetime.utc moment.micros).isoformat)) lineNumber =
      .ok moment := by
  rw [validateCreatedAt, Datetime.spellZulu_isoformat, Datetime.fromIsoformat_isoformat moment.inRange]
  exact dif_pos moment.inRange

/-- **The line of a log.** It passes the checks exactly when the texts of the log keep the limits
of the reader, and is then read as the log. -/
theorem validateArchiveRecord_archiveLine (recorded : log.Recorded) :
    validateArchiveRecord (archiveLine log) lineNumber = .ok record ↔
      log.HasFieldTexts ∧ log = record := by
  unfold validateArchiveRecord
  rw [loads_archiveLine recorded]
  simp only [get?_serializeLog, validateUuid_text, validateDetail_serialized, bind_eq_ok,
    validateText_eq_ok, validateCreatedAt_isoformat, Except.ok.injEq]
  constructor
  · rintro ⟨_, rfl, _, rfl, _, ⟨actor, rfl⟩, _, ⟨action, rfl⟩, _, ⟨resourceType, rfl⟩, _,
      ⟨resourceId, rfl⟩, _, ⟨resourceName, rfl⟩, _, rfl, isRecord⟩
    exact ⟨⟨actor, action, resourceType, resourceId, resourceName⟩, Except.ok.inj isRecord⟩
  · rintro ⟨limits, rfl⟩
    exact ⟨_, rfl, _, rfl, _, ⟨limits.actor, rfl⟩, _, ⟨limits.action, rfl⟩, _,
      ⟨limits.resourceType, rfl⟩, _, ⟨limits.resourceId, rfl⟩, _, ⟨limits.resourceName, rfl⟩, _,
      rfl, rfl⟩

end Records

end TraefikManager.Audit
