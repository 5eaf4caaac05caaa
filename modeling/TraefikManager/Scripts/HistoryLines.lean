import Mathlib.Data.List.Find
import TraefikManager.Foundation.Json
import TraefikManager.Foundation.Newest
import TraefikManager.Foundation.Substring
import TraefikManager.Scripts.DeploymentHistory

/-!
# The lines of the deployment history

`append_history` prints an entry as a line of JSON, which `tail` and `awk` then treat as text.
On the lines of entries without quotes the shell commands do what `appendHistory` says, and a
line is the JSON of its entry.
-/

namespace TraefikManager.Scripts

open Foundation

section Printing

/-- `"key":"value"`, as `printf` prints it. -/
def textField (key value : String) : List Char :=
  '"' :: key.toList ++ '"' :: ':' :: '"' :: value.toList ++ ['"']

/-- `"key":value`, as `printf` prints it. -/
def valueField (key : String) (value : List Char) : List Char :=
  '"' :: key.toList ++ '"' :: ':' :: value

/-- `manager_deployment_stage_timing_json`. -/
def stageTimingJson (durations : List (DeploymentStage × Nat)) : List Char :=
  '\x7b' :: [','].intercalate (durations.map fun (stage, durationMs) =>
    valueField stage.name (Nat.toDigits 10 durationMs)) ++ ['\x7d']

/-- The line `append_history` prints, without its end. -/
def HistoryEntry.line (entry : HistoryEntry) : List Char :=
  '\x7b' :: [','].intercalate
    [textField "status" entry.status.name, textField "from_slot" entry.fromSlot,
      textField "to_slot" entry.toSlot, textField "active_slot" entry.activeSlot,
      textField "version" entry.version, textField "revision" entry.revision,
      textField "started_at" entry.startedAt, textField "completed_at" entry.completedAt,
      valueField "probe_total" (Nat.toDigits 10 entry.probeTotal),
      valueField "probe_failures" (Nat.toDigits 10 entry.probeFailures),
      textField "failure_stage" entry.failureStage, textField "failure_reason" entry.failureReason,
      textField "alert_request_status" entry.alertRequestStatus,
      textField "alert_channel" entry.alertChannel, textField "alert_run_url" entry.alertRunUrl,
      valueField "stage_durations_ms" (stageTimingJson entry.stageDurationsMs)] ++ ['\x7d']

end Printing

section Tools

/-- The marker `awk` looks for. -/
def dayMarker : List Char := "\"completed_at\":\"".toList

/-- The day `awk` takes from a line. -/
def awkDay (line : List Char) : Option String :=
  match Text.splitFirst dayMarker line with
  | none => none
  | some (_, after) =>
      let day := String.ofList (after.take 10)
      if isDay day then some day else none

/-- `awk … | sort -k1,1 | tail -n … | cut -f2-`. -/
def compactLines (limits : HistoryLimits) (sources : List (List Char)) : List (List Char) :=
  let days := (sources.filterMap awkDay).dedup.mergeSort
  (days.rtake limits.dailyRetainEntries).filterMap fun day =>
    sources.reverse.find? fun line => awkDay line = some day

/-- The lines of the current file, the `.1` file and the `.daily` file. -/
structure HistoryTexts where
  current : Option (List (List Char))
  archive : Option (List (List Char))
  daily : Option (List (List Char))

/-- `rotate_history` on the lines of the files. -/
def rotateLines (limits : HistoryLimits) (texts : HistoryTexts) : HistoryTexts :=
  let lines := texts.current.getD []
  if lines.length ≤ limits.maxEntries then texts
  else
    { current := some (lines.rtake limits.retainEntries)
      archive := some lines
      daily := some (compactLines limits
        (texts.daily.getD [] ++ texts.archive.getD [] ++ lines)) }

/-- `append_history` on the lines of the files. -/
def appendLine (limits : HistoryLimits) (line : List Char) (texts : HistoryTexts) : HistoryTexts :=
  rotateLines limits { texts with current := some (texts.current.getD [] ++ [line]) }

/-- The lines of the entries of the files. -/
def HistoryFiles.texts (files : HistoryFiles) : HistoryTexts :=
  { current := files.current.map (·.map HistoryEntry.line)
    archive := files.archive.map (·.map HistoryEntry.line)
    daily := files.daily.map (·.map HistoryEntry.line) }

/-- All entries in the files. -/
def HistoryFiles.all (files : HistoryFiles) : List HistoryEntry :=
  files.current.getD [] ++ files.archive.getD [] ++ files.daily.getD []

end Tools

section Clean

/-- The fields of a line before the time of the completion. -/
def HistoryEntry.leadingFields (entry : HistoryEntry) : List (String × String) :=
  [("status", entry.status.name), ("from_slot", entry.fromSlot), ("to_slot", entry.toSlot),
    ("active_slot", entry.activeSlot), ("version", entry.version), ("revision", entry.revision),
    ("started_at", entry.startedAt)]

/-- The other texts of a line. -/
def HistoryEntry.otherTexts (entry : HistoryEntry) : List String :=
  [entry.completedAt, entry.failureStage, entry.failureReason, entry.alertRequestStatus,
    entry.alertChannel, entry.alertRunUrl]

/-- The texts of the entry need no escape, and none before the time of its completion begins as the
name of that time does. -/
structure HistoryEntry.Clean (entry : HistoryEntry) : Prop where
  leading : ∀ field ∈ entry.leadingFields, Json.Plain field.2.toList
  others : ∀ text ∈ entry.otherTexts, Json.Plain text.toList
  apart : ∀ field ∈ entry.leadingFields, ¬ ['c', 'o'] <+: field.2.toList

theorem DeploymentStage.plain_name (stage : DeploymentStage) : Json.Plain stage.name.toList := by
  cases stage <;> decide

end Clean

section AsJson

variable {entry : HistoryEntry}

/-- The object a line is the JSON of. -/
def HistoryEntry.fields (entry : HistoryEntry) : List (String × Json) :=
  [("status", .string entry.status.name), ("from_slot", .string entry.fromSlot),
    ("to_slot", .string entry.toSlot), ("active_slot", .string entry.activeSlot),
    ("version", .string entry.version), ("revision", .string entry.revision),
    ("started_at", .string entry.startedAt), ("completed_at", .string entry.completedAt),
    ("probe_total", .int entry.probeTotal), ("probe_failures", .int entry.probeFailures),
    ("failure_stage", .string entry.failureStage), ("failure_reason", .string entry.failureReason),
    ("alert_request_status", .string entry.alertRequestStatus),
    ("alert_channel", .string entry.alertChannel), ("alert_run_url", .string entry.alertRunUrl),
    ("stage_durations_ms", .object (entry.stageDurationsMs.map fun (stage, durationMs) =>
      (stage.name, .int durationMs)))]

private theorem textField_eq {key value : String} (plainKey : Json.Plain key.toList)
    (plainValue : Json.Plain value.toList) :
    textField key value = Json.writeField (key, .string value) := by
  rw [textField, Json.writeField, Json.write, plainKey.quote_eq, plainValue.quote_eq]
  simp

private theorem valueField_eq {key : String} (plainKey : Json.Plain key.toList) (value : Json) :
    valueField key value.write = Json.writeField (key, value) := by
  rw [valueField, Json.writeField, plainKey.quote_eq]
  simp

private theorem stageTimingJson_eq (durations : List (DeploymentStage × Nat)) :
    stageTimingJson durations = (Json.object (durations.map fun (stage, durationMs) =>
      (stage.name, .int durationMs))).write := by
  have each : ∀ timing ∈ durations, valueField timing.1.name (Nat.toDigits 10 timing.2) =
      Json.writeField (timing.1.name, .int timing.2) := fun timing _ =>
    valueField_eq timing.1.plain_name (.int timing.2)
  rw [stageTimingJson, Json.write_object, List.map_map, List.map_congr_left each]
  rfl

/-- A line is the JSON of its entry. -/
theorem HistoryEntry.Clean.line_eq (clean : entry.Clean) :
    entry.line = (Json.object entry.fields).write := by
  have leading := clean.leading
  have others := clean.others
  simp only [leadingFields, otherTexts, List.forall_mem_cons] at leading others
  obtain ⟨status, fromSlot, toSlot, activeSlot, version, revision, startedAt, -⟩ := leading
  obtain ⟨completedAt, failureStage, failureReason, alertRequestStatus, alertChannel, alertRunUrl,
    -⟩ := others
  have total : Nat.toDigits 10 entry.probeTotal = (Json.int entry.probeTotal).write := rfl
  have failures : Nat.toDigits 10 entry.probeFailures = (Json.int entry.probeFailures).write := rfl
  rw [Json.write_object, line, fields, total, failures, stageTimingJson_eq]
  simp only [List.map_cons, List.map_nil]
  rw [textField_eq (by decide) status, textField_eq (by decide) fromSlot,
    textField_eq (by decide) toSlot, textField_eq (by decide) activeSlot,
    textField_eq (by decide) version, textField_eq (by decide) revision,
    textField_eq (by decide) startedAt, textField_eq (by decide) completedAt,
    valueField_eq (by decide), valueField_eq (by decide), textField_eq (by decide) failureStage,
    textField_eq (by decide) failureReason, textField_eq (by decide) alertRequestStatus,
    textField_eq (by decide) alertChannel, textField_eq (by decide) alertRunUrl,
    valueField_eq (by decide)]

theorem HistoryEntry.exact_fields (entry : HistoryEntry) : (Json.object entry.fields).Exact := by
  have timings : (Json.object (entry.stageDurationsMs.map fun (stage, durationMs) =>
      (stage.name, Json.int durationMs))).Exact := by
    apply Json.Exact.object
    intro timing listed
    obtain ⟨stage, -, rfl⟩ := List.mem_map.mp listed
    exact .int _
  apply Json.Exact.object
  simp only [fields, List.forall_mem_cons]
  exact ⟨.string _, .string _, .string _, .string _, .string _, .string _, .string _, .string _,
    .int _, .int _, .string _, .string _, .string _, .string _, .string _, timings, nofun⟩

/-- A line is read as the object of its entry. -/
theorem HistoryEntry.Clean.loads_line (clean : entry.Clean) :
    Json.loads (String.ofList entry.line) = some (.object entry.fields) := by
  rw [clean.line_eq]
  exact Json.loads_dumps entry.exact_fields

end AsJson

section Days

variable {entry : HistoryEntry} {limits : HistoryLimits} {marker : List Char}

/-- A marker that begins with a quote and two letters does not begin in a field that has no
quotes in its texts and whose texts do not begin with these letters. -/
theorem skips_textField {key value : String} (plainKey : '"' ∉ key.toList)
    (apartKey : ¬ ['c', 'o'] <+: key.toList) (plainValue : '"' ∉ value.toList)
    (apartValue : ¬ ['c', 'o'] <+: value.toList) (after : List Char) :
    Text.Skips ('"' :: 'c' :: 'o' :: marker) (textField key value ++ [',']) after := by
  have quoted : ∀ text rest : List Char, ¬ ['c', 'o'] <+: text →
      ¬ '"' :: 'c' :: 'o' :: marker <+: '"' :: (text ++ '"' :: rest) := by
    intro text rest apart isPrefix
    rw [List.cons_prefix_cons] at isPrefix
    match text, isPrefix.2 with
    | [], isPrefix => simp at isPrefix
    | [c], isPrefix => simp at isPrefix
    | c :: c' :: text, isPrefix =>
        simp only [List.cons_append, List.cons_prefix_cons] at isPrefix
        apply apart
        simp [isPrefix.1.symm, isPrefix.2.1.symm]
  have runs : ∀ text rest : List Char, '"' ∉ text →
      Text.Skips ('"' :: 'c' :: 'o' :: marker) text rest :=
    fun text rest absent => Text.skips_of_notMem absent rest
  have isField : textField key value ++ [','] =
      '"' :: (key.toList ++ ('"' :: ':' :: '"' :: (value.toList ++ ['"', ',']))) := by
    simp [textField]
  rw [isField]
  apply Text.Skips.cons
  · rw [List.append_assoc]
    exact quoted _ _ apartKey
  · apply (runs _ _ plainKey).append
    apply Text.Skips.cons
    · simp
    · apply Text.Skips.cons
      · simp
      · apply Text.Skips.cons
        · rw [List.append_assoc]
          exact quoted _ _ apartValue
        · apply (runs _ _ plainValue).append
          apply Text.Skips.cons
          · simp
          · exact runs _ _ (by simp)

private theorem skips_fields {fields : List (String × String)}
    (keys : ∀ field ∈ fields, '"' ∉ field.1.toList ∧ ¬ ['c', 'o'] <+: field.1.toList)
    (values : ∀ field ∈ fields, '"' ∉ field.2.toList ∧ ¬ ['c', 'o'] <+: field.2.toList)
    (after : List Char) :
    Text.Skips ('"' :: 'c' :: 'o' :: marker)
      (fields.flatMap fun field => textField field.1 field.2 ++ [',']) after := by
  induction fields with
  | nil => exact nofun
  | cons field fields ih =>
      rw [List.flatMap_cons]
      obtain ⟨key, otherKeys⟩ := List.forall_mem_cons.mp keys
      obtain ⟨value, otherValues⟩ := List.forall_mem_cons.mp values
      apply (skips_textField key.1 key.2 value.1 value.2 _).append
      exact ih otherKeys otherValues

/-- A line up to the time of the completion, and the rest of it. -/
theorem HistoryEntry.exists_line (entry : HistoryEntry) : ∃ rest, entry.line =
    '\x7b' :: (entry.leadingFields.flatMap fun field => textField field.1 field.2 ++ [',']) ++
      (dayMarker ++ (entry.completedAt.toList ++ rest)) := by
  have isField : textField "completed_at" entry.completedAt =
      dayMarker ++ (entry.completedAt.toList ++ ['"']) := by
    have isMarker : dayMarker = '"' :: "completed_at".toList ++ ['"', ':', '"'] := by decide
    rw [textField, isMarker]
    simp
  rw [line, isField]
  simp only [List.intercalate_cons_cons, leadingFields, List.flatMap_cons, List.flatMap_nil,
    List.append_nil, List.append_assoc, List.cons_append, List.nil_append]
  exact ⟨_, rfl⟩

private theorem length_of_isDay {day : String} (isDate : isDay day = true) :
    day.toList.length = 10 := by
  unfold isDay at isDate
  split at isDate
  · rename_i isList
    rw [isList]
    rfl
  · cases isDate

/-- What `awk` takes for the day of a line is the day of its entry. -/
theorem HistoryEntry.Clean.awkDay_line (clean : entry.Clean) (isDate : isDay entry.day = true) :
    awkDay entry.line = some entry.day := by
  have keys : ∀ field ∈ entry.leadingFields,
      '"' ∉ field.1.toList ∧ ¬ ['c', 'o'] <+: field.1.toList := by
    simp only [leadingFields, List.forall_mem_cons]
    decide
  have values : ∀ field ∈ entry.leadingFields,
      '"' ∉ field.2.toList ∧ ¬ ['c', 'o'] <+: field.2.toList := fun field listed =>
    ⟨(clean.leading field listed).quote_notMem, clean.apart field listed⟩
  have isMarker : dayMarker = '"' :: 'c' :: 'o' :: "mpleted_at\":\"".toList := by decide
  obtain ⟨rest, isLine⟩ := entry.exists_line
  have skips : Text.Skips dayMarker ('\x7b' :: (entry.leadingFields.flatMap fun field =>
      textField field.1 field.2 ++ [','])) (dayMarker ++ (entry.completedAt.toList ++ rest)) := by
    rw [isMarker]
    apply Text.Skips.cons
    · simp
    · exact skips_fields keys values _
  have long : 10 ≤ entry.completedAt.toList.length := by
    have ten := length_of_isDay isDate
    rw [day, Text.takeChars, String.toList_ofList, List.length_take] at ten
    omega
  have isDayText : String.ofList ((entry.completedAt.toList ++ rest).take 10) = entry.day := by
    rw [List.take_append_of_le_length long]
    rfl
  rw [awkDay, isLine, Text.splitFirst_append skips]
  dsimp only
  rw [isDayText, if_pos isDate]

/-- The entries of a list can be read back from their lines. -/
def ReadableDays (entries : List HistoryEntry) : Prop :=
  ∀ entry ∈ entries, entry.Clean ∧ isDay entry.day = true

variable {entries : List HistoryEntry} {files : HistoryFiles}

theorem filterMap_awkDay (readable : ReadableDays entries) :
    (entries.map HistoryEntry.line).filterMap awkDay =
      (entries.map HistoryEntry.day).filter isDay := by
  induction entries with
  | nil => rfl
  | cons entry entries ih =>
      obtain ⟨⟨clean, isDate⟩, others⟩ := List.forall_mem_cons.mp readable
      rw [List.map_cons, List.filterMap_cons_some (clean.awkDay_line isDate), List.map_cons,
        List.filter_cons_of_pos isDate, ih others]

private theorem compactLines_lines (limits : HistoryLimits) (readable : ReadableDays entries) :
    compactLines limits (entries.map HistoryEntry.line) =
      (compactDailyHistory limits entries).map HistoryEntry.line := by
  have found : ∀ day, ((entries.map HistoryEntry.line).reverse.find? fun line =>
      awkDay line = some day) = (lastOfDay entries day).map HistoryEntry.line := by
    intro day
    rw [← List.map_reverse, List.find?_map, lastOfDay]
    congr 1
    apply List.find?_congr
    intro entry listed
    obtain ⟨clean, isDate⟩ := readable entry (List.mem_reverse.mp listed)
    simp [clean.awkDay_line isDate]
  rw [compactLines, compactDailyHistory, filterMap_awkDay readable, List.map_filterMap]
  simp only [found]

/-- On lines whose days can be read the shell commands rotate the entries. -/
theorem texts_rotateHistory (limits : HistoryLimits) (readable : ReadableDays files.all) :
    (rotateHistory limits files).texts = rotateLines limits files.texts := by
  have lines : files.texts.current.getD [] = (files.current.getD []).map HistoryEntry.line := by
    cases current : files.current <;> simp [HistoryFiles.texts, current]
  have sources : files.texts.daily.getD [] ++ files.texts.archive.getD [] ++
      files.texts.current.getD [] =
        (files.daily.getD [] ++ files.archive.getD [] ++ files.current.getD []).map
          HistoryEntry.line := by
    rw [lines]
    cases daily : files.daily <;> cases archive : files.archive <;>
      simp [HistoryFiles.texts, daily, archive]
  have readableSources : ReadableDays
      (files.daily.getD [] ++ files.archive.getD [] ++ files.current.getD []) := by
    intro entry listed
    apply readable entry
    simp only [HistoryFiles.all, List.mem_append] at listed ⊢
    tauto
  unfold rotateHistory rotateLines
  dsimp only
  rw [sources, compactLines_lines limits readableSources, lines, List.length_map]
  split
  · rfl
  · simp [HistoryFiles.texts, List.rtake]

/-- **Refinement.** An append to the files of lines is the append to the files of entries. -/
theorem texts_appendHistory (limits : HistoryLimits) (readable : ReadableDays files.all)
    (clean : entry.Clean) (isDate : isDay entry.day = true) :
    (appendHistory limits entry files).texts = appendLine limits entry.line files.texts := by
  have appended : ReadableDays
      ({ files with current := some (files.current.getD [] ++ [entry]) } : HistoryFiles).all := by
    intro other listed
    simp only [HistoryFiles.all, Option.getD_some, List.mem_append, List.mem_singleton] at listed
    by_cases same : other = entry
    · exact same ▸ ⟨clean, isDate⟩
    · apply readable other
      simp only [HistoryFiles.all, List.mem_append]
      tauto
  rw [appendHistory, texts_rotateHistory limits appended, appendLine]
  cases current : files.current <;> simp [HistoryFiles.texts, current]

end Days

end TraefikManager.Scripts
