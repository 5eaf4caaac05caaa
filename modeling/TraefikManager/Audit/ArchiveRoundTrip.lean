import TraefikManager.Audit.Retention

/-!
# Restoring what was archived

The reader takes the lines of an archive one after the other, so what it returns for the archive
of a batch is found by induction on the batch. The archive is accepted exactly when every log of
the batch keeps the limits of the reader, and then the restore brings back the batch itself.
-/

namespace TraefikManager.Audit

open Foundation

section Lines

variable {log : AuditLogModel} {logs : List AuditLogModel}

private theorem newline_notMem_archiveText (recorded : log.Recorded) :
    10 ∉ Bytes.encode (archiveText log) :=
  Bytes.newline_notMem_encode (Json.newline_notMem_dumps (exact_serializeLog recorded))

private theorem archiveLine_eq (log : AuditLogModel) :
    archiveLine log = Bytes.encode (archiveText log) ++ [10] := by
  rw [archiveLine, Bytes.encode_append]
  rfl

/-- **A line holds the whole log.** Logs with the same line are the same. -/
theorem archiveLine_injective {other : AuditLogModel} (recorded : log.Recorded)
    (otherRecorded : other.Recorded) (same : archiveLine log = archiveLine other) :
    log = other := by
  have fields : serializeLog log = serializeLog other := by
    have loaded := loads_archiveLine recorded
    rw [same, loads_archiveLine otherRecorded] at loaded
    exact (Json.object.inj (Option.some.inj loaded)).symm
  simp only [serializeLog, List.cons.injEq, Prod.mk.injEq, Json.string.injEq, true_and,
    and_true] at fields
  obtain ⟨idText, actor, action, resourceType, resourceId, resourceName, detailJson, isoText⟩ :=
    fields
  have id : log.id = other.id := by
    have parsed := Uuid.parse_text log.id
    rw [idText, Uuid.parse_text] at parsed
    exact (Option.some.inj parsed).symm
  have createdAt : log.createdAt = other.createdAt := by
    have parsed := Datetime.fromIsoformat_isoformat log.createdAt.inRange
    rw [isoText, Datetime.fromIsoformat_isoformat other.createdAt.inRange] at parsed
    have micros := congrArg Datetime.micros (Option.some.inj parsed)
    cases isFirst : log.createdAt
    cases isSecond : other.createdAt
    rw [isFirst, isSecond] at micros
    cases micros
    rfl
  have detail : log.detail = other.detail := by
    have checked := @validateDetail_serialized 0 log.detail
    rw [detailJson, validateDetail_serialized] at checked
    exact (Except.ok.inj checked).symm
  cases log
  cases other
  simp_all

private theorem length_le_count_newline (logs : List AuditLogModel) :
    logs.length ≤ (archiveContent logs).count 10 := by
  induction logs with
  | nil => exact Nat.zero_le _
  | cons log logs ih =>
      have ended : 1 ≤ (archiveLine log).count 10 := by
        rw [archiveLine_eq, List.count_append, List.count_singleton_self]
        exact Nat.le_add_left 1 _
      rw [archiveContent, List.flatMap_cons, List.count_append, List.length_cons, Nat.add_comm]
      exact Nat.add_le_add ended ih

/-- What stands in the archive of one log is that log. -/
theorem eq_of_archiveContent_singleton {other : AuditLogModel} (listed : log ∈ logs)
    (recorded : log.Recorded) (otherRecorded : other.Recorded)
    (same : archiveContent logs = archiveContent [other]) : log = other := by
  have once : (archiveContent [other]).count 10 = 1 := by
    rw [archiveContent, List.flatMap_singleton, archiveLine_eq, List.count_append,
      List.count_eq_zero_of_not_mem (newline_notMem_archiveText otherRecorded),
      List.count_singleton_self]
  have short := length_le_count_newline logs
  rw [same, once] at short
  obtain ⟨only, isOnly⟩ := List.length_eq_one_iff.mp
    (Nat.le_antisymm short (List.length_pos_of_mem listed))
  rw [isOnly] at listed same
  cases List.mem_singleton.mp listed
  apply archiveLine_injective recorded otherRecorded
  simpa [archiveContent] using same

/-- The reader's limits on a log: on its texts, and on the bytes of its line. -/
structure AuditLogModel.Fits (log : AuditLogModel) : Prop where
  texts : log.HasFieldTexts
  line : (archiveLine log).length ≤ maxAuditArchiveLineBytes

/-- A line is no blank line. -/
theorem not_blank_archiveLine (log : AuditLogModel) :
    ¬ (archiveLine log).all Bytes.isSpace = true := by
  have start : ∃ rest, archiveText log = '\x7b' :: rest := by
    rw [archiveText, Json.dumps, String.toList_ofList, serializeLog, Json.write]
    exact ⟨_, rfl⟩
  obtain ⟨rest, isText⟩ := start
  have first : archiveLine log = 123 :: (Bytes.encode rest ++ [10]) := by
    rw [archiveLine_eq, isText]
    rfl
  rw [first, List.all_cons]
  simp [Bytes.isSpace]

/-- The reading after one more log. -/
def ArchiveReading.push (reading : ArchiveReading) (log : AuditLogModel) : ArchiveReading where
  records := reading.records ++ [log]
  uncompressedBytes := reading.uncompressedBytes + (archiveLine log).length

/-- **One round.** The line of a log whose identifier was not read before is taken exactly when the
log fits and the bytes read stay within the limit. -/
theorem readArchiveLine_archiveLine {reading next : ArchiveReading} (recorded : log.Recorded)
    (fresh : log.id ∉ reading.records.map AuditLogModel.id)
    (room : reading.records.length < maxAuditArchiveRecords) :
    readArchiveLine reading (archiveLine log) = .ok next ↔
      log.Fits ∧ (reading.push log).uncompressedBytes ≤ maxAuditArchiveUncompressedBytes ∧
        reading.push log = next := by
  have reads : ∀ records, readArchiveRecord reading (archiveLine log) = .ok records ↔
      log.HasFieldTexts ∧ reading.records ++ [log] = records := by
    intro records
    rw [readArchiveRecord, if_neg (not_blank_archiveLine log), if_neg (Nat.not_le.mpr room)]
    simp only [bind_eq_ok, validateArchiveRecord_archiveLine recorded]
    constructor
    · rintro ⟨record, ⟨texts, rfl⟩, added⟩
      rw [if_neg fresh] at added
      exact ⟨texts, Except.ok.inj added⟩
    · rintro ⟨texts, rfl⟩
      exact ⟨log, ⟨texts, rfl⟩, by rw [if_neg fresh]; rfl⟩
  unfold readArchiveLine
  dsimp only
  split_ifs with long large
  · constructor
    · intro failed
      cases failed
    · rintro ⟨fits, -⟩
      exact absurd fits.line (Nat.not_le.mpr long)
  · constructor
    · intro failed
      cases failed
    · rintro ⟨-, small, -⟩
      exact absurd small (Nat.not_le.mpr large)
  · simp only [bind_eq_ok, reads]
    constructor
    · rintro ⟨records, ⟨texts, rfl⟩, isNext⟩
      exact ⟨⟨texts, Nat.le_of_not_lt long⟩, Nat.le_of_not_lt large, Except.ok.inj isNext⟩
    · rintro ⟨fits, -, rfl⟩
      exact ⟨_, ⟨fits.texts, rfl⟩, rfl⟩

/-- The reading after the logs of a list. -/
def ArchiveReading.pushAll (reading : ArchiveReading) (logs : List AuditLogModel) :
    ArchiveReading where
  records := reading.records ++ logs
  uncompressedBytes := reading.uncompressedBytes + (archiveContent logs).length

private theorem ArchiveReading.pushAll_cons (reading : ArchiveReading) (log : AuditLogModel)
    (logs : List AuditLogModel) :
    reading.pushAll (log :: logs) = (reading.push log).pushAll logs := by
  simp [pushAll, push, archiveContent, Nat.add_assoc]

private theorem readLines_archiveLine {size : Nat} (recorded : log.Recorded) (rest : Bytes)
    (short : (archiveLine log).length ≤ size) :
    Bytes.readLines size [] (archiveLine log ++ rest) =
      archiveLine log :: Bytes.readLines size [] rest := by
  rw [archiveLine_eq, List.length_append, List.length_singleton] at short
  have whole := @Bytes.readLines_line size [] (Bytes.encode (archiveText log)) rest
    (newline_notMem_archiveText recorded) (by simpa using short)
  rw [List.nil_append] at whole
  rwa [archiveLine_eq, List.append_assoc, List.singleton_append]

/-- A line above the limit is refused by its first piece. -/
theorem readLines_archiveLine_long (recorded : log.Recorded) (rest : Bytes)
    (long : maxAuditArchiveLineBytes + 1 < (archiveLine log).length) (reading next : ArchiveReading) :
    (Bytes.readLines (maxAuditArchiveLineBytes + 1) [] (archiveLine log ++ rest)).foldlM
      readArchiveLine reading ≠ .ok next := by
  rw [archiveLine_eq, List.length_append, List.length_singleton] at long
  obtain ⟨piece, later, isPieces, isSize⟩ := @Bytes.readLines_long
    (maxAuditArchiveLineBytes + 1) [] (Bytes.encode (archiveText log)) (10 :: rest)
    (newline_notMem_archiveText recorded) (Nat.succ_pos maxAuditArchiveLineBytes)
    (by rw [List.length_nil]; omega)
  rw [archiveLine_eq, List.append_assoc, List.singleton_append, isPieces, List.foldlM_cons]
  intro isOk
  obtain ⟨_, first, -⟩ := bind_eq_ok.mp isOk
  rw [readArchiveLine, if_pos (by omega)] at first
  cases first

/-- **The reading loop.** The lines of logs with distinct identifiers are taken exactly when each
log fits and the bytes read stay within the limit. -/
theorem foldlM_readLines {reading next : ArchiveReading} (recorded : ∀ log ∈ logs, log.Recorded)
    (distinct : ((reading.records ++ logs).map AuditLogModel.id).Nodup)
    (room : reading.records.length + logs.length ≤ maxAuditArchiveRecords)
    (within : reading.uncompressedBytes ≤ maxAuditArchiveUncompressedBytes) :
    (Bytes.readLines (maxAuditArchiveLineBytes + 1) [] (archiveContent logs)).foldlM
        readArchiveLine reading = .ok next ↔
      (∀ log ∈ logs, log.Fits) ∧
        (reading.pushAll logs).uncompressedBytes ≤ maxAuditArchiveUncompressedBytes ∧
        reading.pushAll logs = next := by
  induction logs generalizing reading with
  | nil =>
      have same : reading.pushAll [] = reading := by simp [ArchiveReading.pushAll, archiveContent]
      rw [same]
      constructor
      · intro isOk
        exact ⟨by simp, within, Except.ok.inj isOk⟩
      · rintro ⟨-, -, rfl⟩
        rfl
  | cons log logs ih =>
      have isRecorded := recorded log List.mem_cons_self
      rw [archiveContent, List.flatMap_cons]
      by_cases short : (archiveLine log).length ≤ maxAuditArchiveLineBytes + 1
      · have fresh : log.id ∉ reading.records.map AuditLogModel.id := by
          rw [List.map_append, List.map_cons, List.nodup_append] at distinct
          exact fun known => distinct.2.2 _ known _ List.mem_cons_self rfl
        have later : (((reading.push log).records ++ logs).map AuditLogModel.id).Nodup := by
          simpa [ArchiveReading.push] using distinct
        simp only [List.length_cons] at room
        have counted : (reading.push log).records.length + logs.length ≤ maxAuditArchiveRecords := by
          simp only [ArchiveReading.push, List.length_append, List.length_singleton]
          omega
        have othersRecorded : ∀ other ∈ logs, other.Recorded := fun other listed =>
          recorded other (List.mem_cons_of_mem _ listed)
        have grows : (reading.push log).uncompressedBytes ≤
            ((reading.push log).pushAll logs).uncompressedBytes := Nat.le_add_right _ _
        rw [readLines_archiveLine isRecorded _ short, List.foldlM_cons, bind_eq_ok,
          ArchiveReading.pushAll_cons]
        simp only [readArchiveLine_archiveLine isRecorded fresh (by omega)]
        constructor
        · rintro ⟨_, ⟨fits, small, rfl⟩, others⟩
          obtain ⟨othersFit, total, isNext⟩ := (ih othersRecorded later counted small).mp others
          exact ⟨List.forall_mem_cons.mpr ⟨fits, othersFit⟩, total, isNext⟩
        · rintro ⟨fit, total, isNext⟩
          obtain ⟨fits, othersFit⟩ := List.forall_mem_cons.mp fit
          have small := Nat.le_trans grows total
          exact ⟨_, ⟨fits, small, rfl⟩,
            (ih othersRecorded later counted small).mpr ⟨othersFit, total, isNext⟩⟩
      · constructor
        · intro isOk
          exact absurd isOk
            (readLines_archiveLine_long isRecorded _ (Nat.lt_of_not_le short) reading next)
        · rintro ⟨fit, -⟩
          have := (fit log List.mem_cons_self).line
          omega

/-- What makes an archive one that the reader accepts: the limits on each log, on the whole
content and on the file. -/
structure Restorable (gzip : Gzip) (logs : List AuditLogModel) : Prop where
  fit : ∀ log ∈ logs, log.Fits
  content : (archiveContent logs).length ≤ maxAuditArchiveUncompressedBytes
  compressed : (gzip.compress (archiveContent logs)).length ≤ maxAuditArchiveCompressedBytes

/-- **Round trip.** The archive of a batch is read as the batch, or it is refused. -/
theorem readArchiveRecords_archive (gzip : Gzip) (recorded : ∀ log ∈ logs, log.Recorded)
    (distinct : (logs.map AuditLogModel.id).Nodup) (nonempty : logs ≠ [])
    (room : logs.length ≤ maxAuditArchiveRecords) {records : List AuditLogModel} :
    readArchiveRecords gzip (gzip.compress (archiveContent logs)) = .ok records ↔
      Restorable gzip logs ∧ logs = records := by
  have loop := fun next => @foldlM_readLines logs {} next recorded
    (by simpa using distinct) (by simpa using room) (Nat.zero_le _)
  have total : (ArchiveReading.pushAll {} logs).uncompressedBytes = (archiveContent logs).length :=
    Nat.zero_add _
  have isRecords : (ArchiveReading.pushAll {} logs).records = logs := rfl
  unfold readArchiveRecords
  split_ifs with large
  · constructor
    · intro failed
      cases failed
    · rintro ⟨restorable, -⟩
      exact absurd restorable.compressed (Nat.not_le.mpr large)
  · rw [gzip.decompress_compress]
    simp only [bind_eq_ok, loop, total]
    constructor
    · rintro ⟨_, ⟨fit, content, rfl⟩, isOk⟩
      rw [isRecords, if_neg nonempty] at isOk
      exact ⟨⟨fit, content, Nat.le_of_not_lt large⟩, Except.ok.inj isOk⟩
    · rintro ⟨restorable, rfl⟩
      refine ⟨_, ⟨restorable.fit, restorable.content, rfl⟩, ?_⟩
      rw [isRecords, if_neg nonempty]
      rfl

end Lines

section Restore

/-- The directory after `_write_archive`. -/
def writeArchive (gzip : Gzip) (files : ArchiveDirectory) (filename : List Char)
    (logs : List AuditLogModel) : ArchiveDirectory :=
  Function.update files filename (some (gzip.compress (archiveContent logs)))

/-- After the retention run has archived and deleted a batch, a restore of the archive adds the
batch again, row by row as it was. -/
def RestoresBatch (gzip : Gzip) (files : ArchiveDirectory) (table : AuditTable)
    (batch : List AuditLogModel) (runAt : Int) (suffix : Uuid) : Prop :=
  ∃ result restored,
    restoreAuditArchive gzip (writeArchive gzip files (archiveFilename runAt suffix) batch)
        (table.delete (batch.map AuditLogModel.id)).rows (archiveFilename runAt suffix) =
      .ok (batch, result) ∧
    (table.delete (batch.map AuditLogModel.id)).insert batch = some restored

variable {gzip : Gzip} {files : ArchiveDirectory} {table : AuditTable}
  {batch : List AuditLogModel} {runAt : Int} {suffix : Uuid}

private theorem resolve_writeArchive :
    resolveAuditArchivePath (writeArchive gzip files (archiveFilename runAt suffix) batch)
      (archiveFilename runAt suffix) = .ok (gzip.compress (archiveContent batch)) := by
  rw [resolveAuditArchivePath, if_pos (isArchiveFilename_archiveFilename runAt suffix),
    writeArchive, Function.update_self]

private theorem restorable_of_restoresBatch (recorded : ∀ log ∈ batch, log.Recorded)
    (distinct : (batch.map AuditLogModel.id).Nodup) (nonempty : batch ≠ [])
    (room : batch.length ≤ maxAuditArchiveRecords)
    (restores : RestoresBatch gzip files table batch runAt suffix) : Restorable gzip batch := by
  obtain ⟨result, -, restored, -⟩ := restores
  rw [restoreAuditArchive, resolve_writeArchive] at restored
  obtain ⟨file, isFile, afterPath⟩ := bind_eq_ok.mp restored
  cases isFile
  obtain ⟨records, isRead, -⟩ := bind_eq_ok.mp afterPath
  exact ((readArchiveRecords_archive gzip recorded distinct nonempty room).mp isRead).1

private theorem restoresBatch_of_restorable (recorded : ∀ log ∈ batch, log.Recorded)
    (distinct : (batch.map AuditLogModel.id).Nodup) (nonempty : batch ≠ [])
    (room : batch.length ≤ maxAuditArchiveRecords) (restorable : Restorable gzip batch) :
    RestoresBatch gzip files table batch runAt suffix := by
  have isRead := (readArchiveRecords_archive gzip recorded distinct nonempty room).mpr
    ⟨restorable, rfl⟩
  have absent : ∀ log ∈ batch,
      log.id ∉ (table.delete (batch.map AuditLogModel.id)).rows.map AuditLogModel.id := by
    intro log listed known
    obtain ⟨row, inRows, isId⟩ := List.mem_map.mp known
    exact (AuditTable.mem_rows_delete.mp inRows).2 (isId ▸ List.mem_map_of_mem listed)
  have unique : (((table.delete (batch.map AuditLogModel.id)).rows ++ batch).map
      AuditLogModel.id).Nodup := by
    rw [List.map_append, List.nodup_append]
    refine ⟨(table.delete _).distinct, distinct, ?_⟩
    intro id known other listed same
    obtain ⟨log, inBatch, rfl⟩ := List.mem_map.mp listed
    exact absent log inBatch (same ▸ known)
  refine ⟨⟨archiveFilename runAt suffix, batch.length, batch.length, batch.length - batch.length⟩,
    ⟨_, unique⟩, ?_, dif_pos unique⟩
  rw [restoreAuditArchive, resolve_writeArchive]
  refine bind_eq_ok.mpr ⟨_, rfl, bind_eq_ok.mpr ⟨_, isRead, ?_⟩⟩
  rw [restoredLogs_eq_self absent]
  rfl

/-- **Restore.** The archive of a batch that the run takes from the table is accepted exactly when
the batch keeps the limits of the reader, and then it is restored row by row. -/
theorem restoresBatch_iff_restorable (gzip : Gzip) (files : ArchiveDirectory) {table : AuditTable}
    (recorded : ∀ log ∈ table.rows, log.Recorded) {cutoff : Int}
    (written : table.selectExpired cutoff ≠ []) (runAt : Int) (suffix : Uuid) :
    RestoresBatch gzip files table (table.selectExpired cutoff) runAt suffix ↔
      Restorable gzip (table.selectExpired cutoff) := by
  have batchRecorded : ∀ log ∈ table.selectExpired cutoff, log.Recorded := fun log listed =>
    recorded log (AuditTable.mem_of_selectExpired listed).1
  have room : (table.selectExpired cutoff).length ≤ maxAuditArchiveRecords :=
    Nat.le_trans AuditTable.length_selectExpired (by decide)
  constructor
  · exact restorable_of_restoresBatch batchRecorded AuditTable.nodup_selectExpired written room
  · exact restoresBatch_of_restorable batchRecorded AuditTable.nodup_selectExpired written room

/-- A file that names its format and keeps its content as it is. -/
def storedGzip : Gzip where
  compress := fun content => 31 :: 139 :: content
  decompress := fun file =>
    match file with
    | 31 :: 139 :: content => some content
    | _ => none
  decompress_compress := fun _ => rfl

private theorem length_storedGzip (content : Bytes) :
    (storedGzip.compress content).length = content.length + 2 := rfl

/-- The clock at the beginning of 1970. -/
def epoch : Datetime.Instant := ⟨0, by decide⟩

/-- What is recorded when an administrator creates a service of this name. -/
def creationLog (name : String) : AuditLogModel :=
  record ⟨1⟩ "admin" "create" "service" "00000000-0000-0000-0000-000000000002" name none epoch

def creationTable (name : String) : AuditTable := ⟨[creationLog name], List.nodup_singleton _⟩

private theorem recorded_creationLog (name : String) :
    ∀ log ∈ [creationLog name], log.Recorded := by
  intro log listed
  cases List.mem_singleton.mp listed
  intro detail isDetail
  cases isDetail

private theorem length_archiveLine_shop : (archiveLine (creationLog "shop")).length ≤ 300 := by
  have idText : (creationLog "shop").id.text.toList = dashed (hexDigits 32 1) :=
    String.toList_ofList
  rw [archiveLine, archiveText, Json.dumps, String.toList_ofList, serializeLog,
    Datetime.isoformat_eq]
  simp only [Json.write, Json.writeField, Json.writeFields, idText, String.toList_ofList]
  decide +kernel

/-- What is recorded when the service gets another name. -/
def renamingLog : AuditLogModel :=
  record ⟨3⟩ "admin" "update" "service" "00000000-0000-0000-0000-000000000002" "store"
    (some (Dict.ofList [("changed_keys", .array [.string "name"]),
      ("before", .object [("name", .string "shop"), ("tls", .bool true)])])) epoch

/-- A table of a log without a detail and one with a detail. -/
def renamedTable : AuditTable := ⟨[creationLog "shop", renamingLog], by decide⟩

private theorem length_archiveLine_renaming : (archiveLine renamingLog).length ≤ 400 := by
  have idText : renamingLog.id.text.toList = dashed (hexDigits 32 3) :=
    String.toList_ofList
  rw [archiveLine, archiveText, Json.dumps, String.toList_ofList, serializeLog,
    Datetime.isoformat_eq]
  simp only [Json.write, Json.writeField, Json.writeFields, idText, String.toList_ofList]
  decide +kernel

theorem restoresBatch_iff_restorable_example :
    RestoresBatch storedGzip (fun _ => none) renamedTable (renamedTable.selectExpired 1) 0 ⟨7⟩ ∧
      renamedTable.selectExpired 1 = [creationLog "shop", renamingLog] := by
  have written : renamedTable.selectExpired 1 = [creationLog "shop", renamingLog] := rfl
  have recorded : ∀ log ∈ renamedTable.rows, log.Recorded := by
    intro log listed
    obtain rfl | isRenaming := List.mem_cons.mp listed
    · exact recorded_creationLog "shop" _ List.mem_cons_self
    · cases List.mem_singleton.mp isRenaming
      rintro detail ⟨⟩ entry inDetail
      have isEntry : entry ∈ [("changed_keys", Json.array [.string "name"]),
          ("before", .object [("name", .string "shop"), ("tls", .bool true)])] := inDetail
      simp only [List.mem_cons, List.not_mem_nil, or_false] at isEntry
      obtain rfl | rfl := isEntry
      · exact .array (by simpa using .string _)
      · refine .object ?_
        simp only [List.forall_mem_cons]
        exact ⟨.string _, .bool _, List.forall_mem_nil _⟩
  refine ⟨(restoresBatch_iff_restorable storedGzip _ recorded (written ▸ List.cons_ne_nil _ _) 0
    ⟨7⟩).mpr ?_, written⟩
  rw [written]
  have short := length_archiveLine_shop
  have shortRenaming := length_archiveLine_renaming
  have content : archiveContent [creationLog "shop", renamingLog] =
      archiveLine (creationLog "shop") ++ archiveLine renamingLog := by
    simp [archiveContent]
  have whole : (archiveContent [creationLog "shop", renamingLog]).length ≤ 700 := by
    rw [content, List.length_append]
    exact Nat.add_le_add short shortRenaming
  exact
    { fit := by
        intro log listed
        obtain rfl | isRenaming := List.mem_cons.mp listed
        · exact ⟨⟨by decide, by decide, by decide, by decide, by decide⟩,
            Nat.le_trans short (by decide)⟩
        · cases List.mem_singleton.mp isRenaming
          exact ⟨⟨by decide, by decide, by decide, by decide, by decide⟩,
            Nat.le_trans shortRenaming (by decide)⟩
      content := Nat.le_trans whole (by decide)
      compressed := by
        rw [length_storedGzip]
        exact Nat.le_trans (Nat.add_le_add_right whole 2) (by decide) }

/-- The reader refuses a log of a service without a name, which the run has archived. -/
theorem not_restoresBatch_nameless :
    (∀ log ∈ (creationTable "").rows, log.Recorded) ∧
      (creationTable "").selectExpired 1 = [creationLog ""] ∧
      ¬ ∃ gzip files runAt suffix,
        RestoresBatch gzip files (creationTable "") [creationLog ""] runAt suffix := by
  refine ⟨recorded_creationLog "", rfl, ?_⟩
  rintro ⟨gzip, files, runAt, suffix, restores⟩
  have restorable := restorable_of_restoresBatch (recorded_creationLog "") (List.nodup_singleton _)
    (List.cons_ne_nil _ _) (by decide) restores
  exact (restorable.fit _ List.mem_cons_self).texts.resourceName.1 rfl

end Restore

end TraefikManager.Audit
