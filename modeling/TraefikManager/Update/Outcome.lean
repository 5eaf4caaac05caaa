import TraefikManager.Update.Steps

/-!
# How an update ends

A backup is made before anything changes, and a rollback writes the texts of the backup. A request
whose checks have passed ends in one of four ways, and which one its surroundings tell; an entry
of the history that cannot be appended leaves the end unreported.
-/

namespace TraefikManager.Update

open Foundation Program

variable {environment : UpdateEnvironment} {config : RunnerConfig} {request : UpdateRequest}
  {host : Host}

section Backup

variable {backupDir : Path} {found : Preflight}

theorem not_prefix_of_holdsFile (fresh : host.holdsFile backupDir = false) {path : Path}
    (present : (host.file? path).isSome = true) : ¬backupDir <+: path := by
  intro within
  obtain ⟨file, isFile⟩ := Option.isSome_iff_exists.mp present
  have listed : (path, file) ∈ host.files := by
    obtain ⟨before, after, isFiles, -⟩ := List.lookup_eq_some_iff.mp isFile
    rw [isFiles]
    exact List.mem_append_right before List.mem_cons_self
  have holds : host.holdsFile backupDir = true :=
    List.any_eq_true.mpr ⟨(path, file), listed, List.isPrefixOf_iff_prefix.mpr within⟩
  exact Bool.false_ne_true (fresh.symm.trans holds)

/-- Files outside a directory are left alone. -/
def SameOutside (directory : Path) (host next : Host) : Prop :=
  ∀ path, ¬directory <+: path → next.file? path = host.file? path

private theorem prefix_composeBackupPath (composeFile : Path) :
    backupDir <+: composeBackupPath config backupDir composeFile := List.prefix_append _ _

/-- Different compose files have different backups. -/
theorem composeBackupPath_inj {first second : Path} (insideFirst : config.composeDir <+: first)
    (insideSecond : config.composeDir <+: second)
    (same : composeBackupPath config backupDir first = composeBackupPath config backupDir second) :
    first = second := by
  obtain ⟨rest, rfl⟩ := insideFirst
  obtain ⟨rest', rfl⟩ := insideSecond
  simpa [composeBackupPath] using same

private theorem ensures_copyFile {step : Step} {source destination : Path} {file : File}
    {normal : PUnit → Host → Prop} {raised : UpdateError → Host → Prop}
    (isFile : host.file? source = some file)
    (passes : environment.fails step = none → normal ⟨⟩ (host.write destination file))
    (fails : ∀ error, environment.fails step ≠ none → raised error host) :
    Ensures (copyFile environment step source destination) normal raised host := by
  rw [copyFile, ensures_bind]
  apply ensures_reach
  · intro passed
    simp only [ensures_bind, ensures_get, isFile]
    rw [ensures_modify]
    exact passes passed
  · exact fails

/-- What the copies of a backup need, and what they leave. -/
theorem ensures_copyFiles (checked : Checked config host found)
    (apart : ∀ path, (host.file? path).isSome = true → ¬backupDir <+: path) :
    Ensures (copyFiles environment config backupDir)
      (fun _ next => ((∀ index < config.composeFiles.length,
          environment.fails (.copyComposeFile index) = none) ∧
            environment.fails .copyAcme = none) ∧
        (∀ composeFile ∈ config.composeFiles,
          next.file? (composeBackupPath config backupDir composeFile) = host.file? composeFile) ∧
        SameOutside backupDir host next)
      (fun _ next => ¬((∀ index < config.composeFiles.length,
          environment.fails (.copyComposeFile index) = none) ∧
            environment.fails .copyAcme = none) ∧ SameOutside backupDir host next) host := by
  have listedFile : ∀ {entry : Path × Nat}, entry ∈ config.composeFiles.zipIdx →
      entry.1 ∈ config.composeFiles ∧ entry.2 < config.composeFiles.length := by
    intro entry listed
    have isEntry := List.mem_zipIdx_iff_getElem?.mp listed
    exact ⟨List.mem_of_getElem? isEntry, (List.getElem?_eq_some_iff.mp isEntry).1⟩
  have start : SameOutside backupDir host host ∧ ∀ entry ∈ config.composeFiles.zipIdx,
      entry ∉ config.composeFiles.zipIdx → environment.fails (.copyComposeFile entry.2) = none ∧
        host.file? (composeBackupPath config backupDir entry.1) = host.file? entry.1 :=
    ⟨fun _ _ => rfl, fun entry listed outside => absurd listed outside⟩
  rw [copyFiles, ensures_bind]
  refine (ensures_forM (fun rest current => SameOutside backupDir host current ∧
    ∀ entry ∈ config.composeFiles.zipIdx, entry ∉ rest →
      environment.fails (.copyComposeFile entry.2) = none ∧
        current.file? (composeBackupPath config backupDir entry.1) = host.file? entry.1)
    start ?_).mono ?_ fun _ _ failed => failed
  · rintro ⟨composeFile, index⟩ rest current listed ⟨same, earlier⟩
    obtain ⟨isComposeFile, isIndex⟩ := listedFile listed
    have present := checked.present composeFile isComposeFile
    obtain ⟨file, isFile⟩ := Option.isSome_iff_exists.mp present
    have isCurrent := (same composeFile (apart composeFile present)).trans isFile
    apply ensures_copyFile isCurrent
    · intro copied
      constructor
      · intro path outside
        rw [Host.file?_write, if_neg, same path outside]
        rintro rfl
        exact outside (prefix_composeBackupPath composeFile)
      · intro entry inFiles notLater
        rw [Host.file?_write]
        by_cases here : composeBackupPath config backupDir entry.1 =
            composeBackupPath config backupDir composeFile
        · have isHere := composeBackupPath_inj (checked.inside _ (listedFile inFiles).1)
            (checked.inside _ isComposeFile) here
          rw [if_pos here, isHere, isFile]
          refine ⟨?_, rfl⟩
          by_cases isEntry : entry = (composeFile, index)
          · rw [isEntry]
            exact copied
          · exact (earlier entry inFiles (by simp [isEntry, notLater])).1
        · rw [if_neg here]
          apply earlier entry inFiles
          rw [List.mem_cons, not_or]
          exact ⟨fun isEntry => here (isEntry ▸ rfl), notLater⟩
    · exact fun error failed => ⟨fun all => failed (all.1 index isIndex), same⟩
  · rintro _ next ⟨same, all⟩
    obtain ⟨file, isFile⟩ := Option.isSome_iff_exists.mp checked.presentAcme
    have isCurrent := (same _ (apart _ checked.presentAcme)).trans isFile
    have copied : ∀ index < config.composeFiles.length,
        environment.fails (.copyComposeFile index) = none := by
      intro index isIndex
      have listed : (config.composeFiles[index], index) ∈ config.composeFiles.zipIdx :=
        List.mem_zipIdx_iff_getElem?.mpr (List.getElem?_eq_getElem isIndex)
      exact (all _ listed List.not_mem_nil).1
    apply ensures_copyFile isCurrent
    · intro copiedAcme
      refine ⟨⟨copied, copiedAcme⟩, ?_, ?_⟩
      · intro composeFile isComposeFile
        obtain ⟨index, isIndex, rfl⟩ := List.mem_iff_getElem.mp isComposeFile
        have listed : (config.composeFiles[index], index) ∈ config.composeFiles.zipIdx :=
          List.mem_zipIdx_iff_getElem?.mpr (List.getElem?_eq_getElem isIndex)
        rw [Host.file?_write, if_neg]
        · exact (all _ listed List.not_mem_nil).2
        · intro isAcme
          have names := List.append_cancel_left isAcme
          exact absurd (List.cons.inj names).1 (by decide)
      · intro path outside
        rw [Host.file?_write, if_neg]
        · exact same path outside
        · rintro rfl
          exact outside (List.prefix_append _ _)
    · exact fun error failed => ⟨fun both => failed both.2, same⟩

/-- A backup is made exactly if nothing is in its way. -/
theorem ensures_createBackup (checked : Checked config host found) :
    Ensures (createBackup environment config request)
      (fun backupDir next => backupDir = backupDirectory environment config request ∧
        SavesBackup environment config request host ∧
        (∀ composeFile ∈ config.composeFiles,
          next.file? (composeBackupPath config backupDir composeFile) = host.file? composeFile) ∧
        ∀ path, (host.file? path).isSome = true → next.file? path = host.file? path)
      (fun _ next => ¬SavesBackup environment config request host ∧
        ∀ path, (host.file? path).isSome = true → next.file? path = host.file? path) host := by
  rw [createBackup]
  dsimp only
  rw [ensures_bind]
  apply ensures_reach
  · intro made
    rw [ensures_bind, ensures_get]
    dsimp only
    by_cases holds : host.holdsFile (backupDirectory environment config request) = true
    · rw [if_pos holds, ensures_bind, ensures_throw]
      exact ⟨fun saves => Bool.false_ne_true (saves.fresh.symm.trans holds), fun _ _ => rfl⟩
    · have fresh := Bool.eq_false_iff.mpr holds
      have apart : ∀ path, (host.file? path).isSome = true →
          ¬backupDirectory environment config request <+: path :=
        fun path present => not_prefix_of_holdsFile fresh present
      rw [if_neg holds, ensures_bind, ensures_tryCatch]
      refine (ensures_copyFiles checked apart).mono ?_ ?_
      · rintro _ next ⟨⟨copied, copiedAcme⟩, saved, same⟩
        rw [ensures_pure]
        exact ⟨rfl, ⟨made, fresh, copied, copiedAcme⟩, saved,
          fun path present => same path (apart path present)⟩
      · rintro failure next ⟨failed, same⟩
        simp only [ensures_bind, ensures_modify, ensures_throw]
        refine ⟨fun saves => failed ⟨saves.copied, saves.copiedAcme⟩, ?_⟩
        intro path present
        have outside : ¬(backupDirectory environment config request).isPrefixOf path = true :=
          fun within => apart path present (List.isPrefixOf_iff_prefix.mp within)
        rw [Host.file?_removeTree, if_neg outside]
        exact same path (apart path present)
  · exact fun _ failed => ⟨fun saves => failed saves.made, fun _ _ => rfl⟩

end Backup

section Restore

variable {backupDir : Path} {entries : List (Path × Nat × File)} {entry : Path × Nat × File}

/-- The texts of the compose files are those of their copies in the backup. -/
def IsRestored (config : RunnerConfig) (backupDir : Path) (host next : Host) : Prop :=
  ∀ composeFile ∈ config.composeFiles, next.content composeFile =
    (host.text (composeBackupPath config backupDir composeFile)).map String.ofList

/-- Every compose file has a copy in the backup. -/
def HasBackups (config : RunnerConfig) (backupDir : Path) (host : Host) : Prop :=
  ∀ composeFile ∈ config.composeFiles,
    (host.text (composeBackupPath config backupDir composeFile)).isSome = true

/-- The files of a backup are read unless a file operation fails. -/
theorem readBackups_ok (backups : HasBackups config backupDir host)
    (read : ∀ index < config.composeFiles.length, environment.fails (.readBackup index) = none) :
    ∃ entries, readBackups environment config backupDir host = .ok entries := by
  cases isResult : readBackups environment config backupDir host with
  | ok entries => exact ⟨entries, rfl⟩
  | error failure =>
      obtain ⟨⟨composeFile, index⟩, listed, failed⟩ := exists_of_mapM_error isResult
      have isEntry := List.mem_zipIdx_iff_getElem?.mp listed
      obtain ⟨text, isText⟩ := Option.isSome_iff_exists.mp
        (backups composeFile (List.mem_of_getElem? isEntry))
      have passed := read index (List.getElem?_eq_some_iff.mp isEntry).1
      dsimp only at failed
      rw [readText_eq_ok.mpr ⟨passed, isText⟩] at failed
      cases failed

/-- What is read of a compose file's backup. -/
structure IsEntry (environment : UpdateEnvironment) (config : RunnerConfig) (backupDir : Path)
    (host : Host) (item : Path × Nat) (entry : Path × Nat × File) : Prop where
  passed : environment.fails (.readBackup item.2) = none
  isPath : entry.1 = item.1
  isIndex : entry.2.1 = item.2
  isContent : some entry.2.2.content =
    (host.text (composeBackupPath config backupDir item.1)).map String.ofList

private theorem isEntry_of_readBackups
    (read : readBackups environment config backupDir host = .ok entries) :
    List.Forall₂ (IsEntry environment config backupDir host) config.composeFiles.zipIdx
      entries := by
  refine (forall₂_of_mapM read).imp ?_
  rintro ⟨composeFile, index⟩ entry isEntry
  simp only [bind_eq_ok] at isEntry
  obtain ⟨text, isText, isEntry⟩ := isEntry
  cases isEntry
  obtain ⟨passed, isText⟩ := readText_eq_ok.mp isText
  exact ⟨passed, rfl, rfl, by rw [isText]; rfl⟩

/-- The files that are read are those of the configuration. -/
theorem paths_of_entries
    (each : List.Forall₂ (IsEntry environment config backupDir host) config.composeFiles.zipIdx
      entries) : entries.map Prod.fst = config.composeFiles := by
  have same : List.Forall₂ Eq (config.composeFiles.zipIdx.map Prod.fst) (entries.map Prod.fst) := by
    rw [List.forall₂_map_left_iff, List.forall₂_map_right_iff]
    exact each.imp fun _ _ isEntry => isEntry.isPath.symm
  rw [List.forall₂_eq_eq_eq, List.zipIdx_map_fst] at same
  exact same.symm

/-- The files read are written unless a file operation fails. -/
theorem ensures_writeEntries {current : Host}
    (each : List.Forall₂ (IsEntry environment config backupDir host) config.composeFiles.zipIdx
      entries) :
    Ensures (entries.forM fun entry => do
        reach environment (.writeRestored entry.2.1)
        modify (·.write entry.1 entry.2.2))
      (fun _ next => (∀ index < config.composeFiles.length,
          environment.fails (.writeRestored index) = none) ∧ IsRestored config backupDir host next)
      (fun _ _ => ¬∀ index < config.composeFiles.length,
        environment.fails (.writeRestored index) = none) current := by
  have distinct : (entries.map Prod.fst).Nodup := paths_of_entries each ▸ config.composeFilesNodup
  have bounded : ∀ entry ∈ entries, entry.2.1 < config.composeFiles.length := by
    intro entry listed
    obtain ⟨item, inFiles, isEntry⟩ := exists_of_forall₂ each.flip entry listed
    rw [isEntry.isIndex]
    exact (List.getElem?_eq_some_iff.mp (List.mem_zipIdx_iff_getElem?.mp inFiles)).1
  have start : ∀ entry ∈ entries, entry ∉ entries →
      environment.fails (.writeRestored entry.2.1) = none ∧
        current.content entry.1 = some entry.2.2.content :=
    fun entry listed outside => absurd listed outside
  refine (ensures_forM (fun rest current => ∀ entry ∈ entries, entry ∉ rest →
    environment.fails (.writeRestored entry.2.1) = none ∧
      current.content entry.1 = some entry.2.2.content) start ?_).mono ?_ fun _ _ failed => failed
  · intro entry rest current listed earlier
    rw [ensures_bind]
    apply ensures_reach
    · intro passed
      rw [ensures_modify]
      intro other inEntries notLater
      rw [Host.content, Host.file?_write]
      by_cases here : other.1 = entry.1
      · obtain rfl := List.inj_on_of_nodup_map distinct inEntries listed here
        rw [if_pos rfl]
        exact ⟨passed, rfl⟩
      · rw [if_neg here]
        apply earlier other inEntries
        rw [List.mem_cons, not_or]
        exact ⟨fun isEntry => here (isEntry ▸ rfl), notLater⟩
    · exact fun error failed all => failed (all _ (bounded entry listed))
  · intro _ next all
    constructor
    · intro index isIndex
      have inFiles : (config.composeFiles[index], index) ∈ config.composeFiles.zipIdx :=
        List.mem_zipIdx_iff_getElem?.mpr (List.getElem?_eq_getElem isIndex)
      obtain ⟨entry, listed, isEntry⟩ := exists_of_forall₂ each _ inFiles
      have isIndex : entry.2.1 = index := isEntry.isIndex
      rw [← isIndex]
      exact (all entry listed List.not_mem_nil).1
    · intro composeFile isComposeFile
      rw [← paths_of_entries each] at isComposeFile
      obtain ⟨entry, listed, rfl⟩ := List.mem_map.mp isComposeFile
      obtain ⟨item, -, isEntry⟩ := exists_of_forall₂ each.flip entry listed
      rw [(all entry listed List.not_mem_nil).2, isEntry.isContent, isEntry.isPath]

/-- The compose files are restored unless a file operation fails. -/
theorem ensures_restoreComposeFiles (backups : HasBackups config backupDir host) :
    Ensures (restoreComposeFiles environment config backupDir)
      (fun _ next => RestoresFiles environment config ∧ IsRestored config backupDir host next)
      (fun _ _ => ¬RestoresFiles environment config) host := by
  simp only [restoreComposeFiles, ensures_bind, ensures_get, ensures_ofExcept]
  constructor
  · intro entries read
    have each := isEntry_of_readBackups read
    refine (ensures_writeEntries each).mono ?_ ?_
    · rintro _ next ⟨written, restored⟩
      refine ⟨⟨fun index isIndex => ?_, written⟩, restored⟩
      have inFiles : (config.composeFiles[index], index) ∈ config.composeFiles.zipIdx :=
        List.mem_zipIdx_iff_getElem?.mpr (List.getElem?_eq_getElem isIndex)
      obtain ⟨entry, -, isEntry⟩ := exists_of_forall₂ each _ inFiles
      exact isEntry.passed
    · exact fun _ _ failed restores => failed restores.written
  · intro failure failed restores
    obtain ⟨entries, read⟩ := readBackups_ok backups restores.read
    cases failed.symm.trans read

end Restore

section Rollback

variable {currentVersion : String} {backupDir : Path}

/-- The previous image is put back and the container found to run it. -/
structure RollbackWorks (environment : UpdateEnvironment) (config : RunnerConfig)
    (currentVersion : String) : Prop where
  restores : RestoresFiles environment config
  recreated : Completes environment (.composeUp .rollback)
  validated : Validated environment config currentVersion .rollback

private theorem ensures_restorePrevious (backups : HasBackups config backupDir host) :
    Ensures (restorePrevious environment config request currentVersion backupDir)
      (fun _ next => (RollbackWorks environment config currentVersion ∧
        AuditAnswers environment .rollback) ∧ IsRestored config backupDir host next)
      (fun _ _ => ¬(RollbackWorks environment config currentVersion ∧
        AuditAnswers environment .rollback)) host := by
  rw [restorePrevious, ensures_bind]
  refine (ensures_restoreComposeFiles backups).mono ?_ ?_
  · rintro _ restoredHost ⟨restores, restored⟩
    dsimp only
    rw [ensures_bind]
    apply ensures_runCompose
    · intro recreated
      rw [ensures_bind]
      apply ensures_recordRecreationCheck
      · intro answers check next keeps
        apply ensures_validate
        · intro validated checks
          refine ⟨⟨⟨restores, recreated, validated⟩, answers⟩, fun composeFile isComposeFile => ?_⟩
          rw [content_of_files keeps]
          exact restored composeFile isComposeFile
        · exact fun failed _ works => failed works.1.validated
      · exact fun silent _ _ _ works => silent works.2
    · exact fun _ failed works => failed works.1.recreated
  · exact fun _ _ failed works => failed works.1.restores

private theorem ensures_recordRecovery {status : UpdateStatus} {normal : Check → Host → Prop}
    {raised : UpdateError → Host → Prop}
    (passes : ∀ check next, next.files = host.files → normal check next) :
    Ensures (recordRecovery environment status) normal raised host := by
  rw [recordRecovery, ensures_bind, ensures_attempt, ensures_bind]
  apply ensures_reach
  · intro _
    rw [ensures_modify]
    exact ensures_pure ▸ passes _ _ rfl
  · intro failure _
    exact ensures_pure ▸ passes _ _ rfl

/-- A rollback is reported unless its entry cannot be appended: as one that went well exactly if
the previous version runs again and docker answers. -/
theorem ensures_rollback {entry : HistoryEntry} {found : Preflight} {updateError : UpdateError}
    (backups : HasBackups config backupDir host) :
    Ensures (rollback environment config request entry found backupDir updateError)
      (fun status next => environment.historyFails .rollback = none ∧
        ((status = .rolledBack ∧ (RollbackWorks environment config found.currentVersion ∧
            AuditAnswers environment .rollback) ∧ IsRestored config backupDir host next) ∨
          (status = .rollbackFailed ∧ ¬(RollbackWorks environment config found.currentVersion ∧
            AuditAnswers environment .rollback))))
      (fun _ _ => environment.historyFails .rollback ≠ none) host := by
  rw [rollback, ensures_bind, ensures_attempt]
  refine (ensures_restorePrevious backups).mono ?_ ?_
  · rintro checks restoredHost ⟨works, restored⟩
    dsimp only [rollbackOutcome]
    rw [ensures_bind]
    apply ensures_recordRecovery
    intro check noted keeps
    rw [ensures_bind]
    apply ensures_appendHistory
    · intro appended next keeps'
      rw [ensures_pure]
      refine ⟨appended, .inl ⟨rfl, works, fun composeFile isComposeFile => ?_⟩⟩
      rw [content_of_files keeps', content_of_files keeps]
      exact restored composeFile isComposeFile
    · exact fun _ _ failed _ => failed
  · intro failure left failed
    dsimp only [rollbackOutcome]
    rw [ensures_bind]
    apply ensures_recordRecovery
    intro check noted keeps
    rw [ensures_bind]
    apply ensures_appendHistory
    · intro appended next _
      rw [ensures_pure]
      exact ⟨appended, .inr ⟨rfl, failed⟩⟩
    · exact fun _ _ failed _ => failed

end Rollback

section Requests

/-- How a request ends whose checks have passed. The compose files of a host are those at its
beginning. -/
inductive Outcome (environment : UpdateEnvironment) (config : RunnerConfig)
    (request : UpdateRequest) (host : Host) (found : Preflight) : UpdateStatus → Host → Prop
  | rejected {next : Host} (unsaved : ¬SavesBackup environment config request host)
      (same : ∀ composeFile ∈ config.composeFiles,
        next.content composeFile = host.content composeFile) :
      Outcome environment config request host found .rejected next
  | success {next : Host} (saved : SavesBackup environment config request host)
      (works : UpdateWorks environment config request.targetVersion)
      (noted : IsNoted environment .update .success)
      (isReplaced : ∃ original, host.content found.imageComposeFile = some original ∧
        next.content found.imageComposeFile = some (String.ofList (replacedText found original))) :
      Outcome environment config request host found .success next
  | rolledBack {next : Host} (saved : SavesBackup environment config request host)
      (failed : ¬(UpdateWorks environment config request.targetVersion ∧
        IsNoted environment .update .success))
      (works : RollbackWorks environment config found.currentVersion)
      (noted : IsNoted environment .rollback .rollback)
      (restored : ∀ composeFile ∈ config.composeFiles,
        next.content composeFile = (host.text composeFile).map String.ofList) :
      Outcome environment config request host found .rolledBack next
  | rollbackFailed {next : Host} (saved : SavesBackup environment config request host)
      (failed : ¬(UpdateWorks environment config request.targetVersion ∧
        IsNoted environment .update .success))
      (failed' : ¬(RollbackWorks environment config found.currentVersion ∧
        AuditAnswers environment .rollback)) :
      Outcome environment config request host found .rollbackFailed next

/-- What an entry of the history that cannot be appended leaves unreported. -/
inductive Unreported (environment : UpdateEnvironment) (config : RunnerConfig)
    (request : UpdateRequest) (host : Host) : Prop
  | running (failed : environment.historyFails .running ≠ none)
  | backup (unsaved : ¬SavesBackup environment config request host)
      (failed : environment.historyFails .backupFailed ≠ none)
  | rollback (saved : SavesBackup environment config request host)
      (fails : ¬(UpdateWorks environment config request.targetVersion ∧
        IsNoted environment .update .success))
      (failed : environment.historyFails .rollback ≠ none)

variable {found : Preflight}

private theorem holdsFile_of_files {next : Host} (same : next.files = host.files)
    (directory : Path) : next.holdsFile directory = host.holdsFile directory := by
  rw [Host.holdsFile, same, Host.holdsFile]

private theorem SavesBackup.of_files {next : Host}
    (saves : SavesBackup environment config request host)
    (same : next.files = host.files) : SavesBackup environment config request next :=
  { saves with fresh := (holdsFile_of_files same _).trans saves.fresh }

private theorem Checked.of_files {next : Host} (checked : Checked config host found)
    (same : next.files = host.files) : Checked config next found where
  present := by
    intro composeFile listed
    rw [file?_of_files same]
    exact checked.present composeFile listed
  presentAcme := by
    rw [file?_of_files same]
    exact checked.presentAcme
  inside := checked.inside
  isComposeFile := checked.isComposeFile
  once := by
    rw [content_of_files same]
    exact checked.once

private theorem content_of_file? {next : Host} {path path' : Path}
    (same : next.file? path = host.file? path') : next.content path = host.content path' := by
  rw [Host.content, same, Host.content]

/-- An update ends as its surroundings tell. -/
theorem ensures_runUpdate {entry : HistoryEntry} (checked : Checked config host found) :
    Ensures (runUpdate environment config request entry found)
      (fun status next => ¬Unreported environment config request host ∧
        Outcome environment config request host found status next)
      (fun _ _ => Unreported environment config request host) host := by
  rw [runUpdate, ensures_bind]
  apply ensures_appendHistory
  · intro started middle keeps
    have checked' := checked.of_files keeps
    rw [ensures_bind, ensures_attempt]
    refine (ensures_createBackup checked').mono ?_ ?_
    · rintro backupDir saved ⟨rfl, saves, copies, same⟩
      dsimp only
      obtain ⟨original, isOriginal, once⟩ := checked'.once
      have saves' := saves.of_files keeps.symm
      have kept := same _ (checked'.present _ checked'.isComposeFile)
      rw [ensures_tryCatch]
      refine (ensures_applyUpdate ((content_of_file? kept).trans isOriginal) once).mono ?_ ?_
      · rintro status next ⟨rfl, ⟨works, noted⟩, isReplaced, -⟩
        refine ⟨?_, .success saves' works noted
          ⟨original, (content_of_files keeps _).symm.trans isOriginal, isReplaced⟩⟩
        rintro (failed | ⟨unsaved, -⟩ | ⟨-, fails, -⟩)
        · exact failed started
        · exact unsaved saves'
        · exact fails ⟨works, noted⟩
      · rintro failure left ⟨fails, others⟩
        have isBackup : ∀ composeFile ∈ config.composeFiles, left.text
            (composeBackupPath config (backupDirectory environment config request) composeFile) =
              host.text composeFile := by
          intro composeFile isComposeFile
          have apart := not_prefix_of_holdsFile saves.fresh
            (checked'.present _ checked'.isComposeFile)
          have differs : composeBackupPath config (backupDirectory environment config request)
              composeFile ≠ found.imageComposeFile :=
            fun isImage => apart (isImage ▸ prefix_composeBackupPath composeFile)
          have isCopy := (others _ differs).trans (copies composeFile isComposeFile)
          rw [Host.text, content_of_file? isCopy, content_of_files keeps, Host.text]
        have backups : HasBackups config (backupDirectory environment config request) left := by
          intro composeFile isComposeFile
          rw [isBackup composeFile isComposeFile, Host.text, Host.content, Option.isSome_map,
            Option.isSome_map]
          exact checked.present composeFile isComposeFile
        refine (ensures_rollback backups).mono ?_ ?_
        · have reported : environment.historyFails .rollback = none →
              ¬Unreported environment config request host := by
            rintro appended (failed | ⟨unsaved, -⟩ | ⟨-, -, failed⟩)
            · exact failed started
            · exact unsaved saves'
            · exact failed appended
          rintro status next ⟨appended, ⟨rfl, ⟨works, answers⟩, restored⟩ | ⟨rfl, failed⟩⟩
          · refine ⟨reported appended, .rolledBack saves' fails works ⟨answers, appended⟩ ?_⟩
            intro composeFile isComposeFile
            rw [restored composeFile isComposeFile, isBackup composeFile isComposeFile]
          · exact ⟨reported appended, .rollbackFailed saves' fails failed⟩
        · exact fun _ _ failed => .rollback saves' fails failed
    · rintro failure left ⟨unsaved, same⟩
      have unsaved' : ¬SavesBackup environment config request host :=
        fun saves => unsaved (saves.of_files keeps)
      dsimp only
      rw [reject, ensures_bind]
      apply ensures_appendHistory
      · intro appended next keeps'
        rw [ensures_pure]
        constructor
        · rintro (failed | ⟨-, failed⟩ | ⟨saves, -, -⟩)
          · exact failed started
          · exact failed appended
          · exact unsaved' saves
        · refine .rejected unsaved' fun composeFile isComposeFile => ?_
          have kept := same composeFile (checked'.present composeFile isComposeFile)
          rw [content_of_files keeps', content_of_file? kept, content_of_files keeps]
      · exact fun _ _ failed _ => .backup unsaved' failed
  · exact fun _ _ failed _ => .running failed

/-- A request for another version is an update once its checks have passed. -/
theorem ensures_processRequest
    (checked : preflight environment config request.targetVersion host = .ok found)
    (differs : found.currentVersion ≠ request.targetVersion) :
    Ensures (processRequest environment config request)
      (fun status next => ¬Unreported environment config request host ∧
        Outcome environment config request host found status next)
      (fun _ _ => Unreported environment config request host) host := by
  rw [processRequest, ensures_bind, ensures_get]
  dsimp only
  rw [checked]
  dsimp only
  rw [if_neg differs]
  exact ensures_runUpdate (checked_of_preflight checked)

/-- The runner returns with a status. -/
def Reports (environment : UpdateEnvironment) (config : RunnerConfig) (request : UpdateRequest)
    (host : Host) (status : UpdateStatus) : Prop :=
  ∃ next, processRequest environment config request host = .ok status next

/-- The run gets as far as the replacement of the image. -/
structure ReachesUpdate (environment : UpdateEnvironment) (config : RunnerConfig)
    (request : UpdateRequest) (host : Host) : Prop where
  started : environment.historyFails .running = none
  saved : SavesBackup environment config request host

private theorem ReachesUpdate.of_reported (reported : ¬Unreported environment config request host)
    (saved : SavesBackup environment config request host) :
    ReachesUpdate environment config request host :=
  ⟨not_not.mp fun failed => reported (.running failed), saved⟩

theorem reports_success_iff
    (checked : preflight environment config request.targetVersion host = .ok found)
    (differs : found.currentVersion ≠ request.targetVersion) :
    Reports environment config request host .success ↔
      ReachesUpdate environment config request host ∧
        UpdateWorks environment config request.targetVersion ∧
          IsNoted environment .update .success := by
  have ensured := ensures_processRequest checked differs
  constructor
  · rintro ⟨next, returned⟩
    obtain ⟨reported, outcome⟩ := ensured.of_ok returned
    cases outcome with
    | success saved works noted _ => exact ⟨.of_reported reported saved, works, noted⟩
  · rintro ⟨reaches, works, noted⟩
    cases result : processRequest environment config request host with
    | ok status next =>
        cases (ensured.of_ok result).2 with
        | rejected unsaved _ => exact absurd reaches.saved unsaved
        | success _ _ _ _ => exact ⟨next, result⟩
        | rolledBack _ failed _ _ _ => exact absurd ⟨works, noted⟩ failed
        | rollbackFailed _ failed _ => exact absurd ⟨works, noted⟩ failed
    | error failure next =>
        obtain failed | ⟨unsaved, -⟩ | ⟨-, failed, -⟩ := ensured.of_error result
        · exact absurd reaches.started failed
        · exact absurd reaches.saved unsaved
        · exact absurd ⟨works, noted⟩ failed

theorem reports_rolledBack_iff
    (checked : preflight environment config request.targetVersion host = .ok found)
    (differs : found.currentVersion ≠ request.targetVersion) :
    Reports environment config request host .rolledBack ↔
      ReachesUpdate environment config request host ∧
        ¬(UpdateWorks environment config request.targetVersion ∧
          IsNoted environment .update .success) ∧
        RollbackWorks environment config found.currentVersion ∧
          IsNoted environment .rollback .rollback := by
  have ensured := ensures_processRequest checked differs
  constructor
  · rintro ⟨next, returned⟩
    obtain ⟨reported, outcome⟩ := ensured.of_ok returned
    cases outcome with
    | rolledBack saved failed works noted _ =>
        exact ⟨.of_reported reported saved, failed, works, noted⟩
  · rintro ⟨reaches, failed, works, noted⟩
    cases result : processRequest environment config request host with
    | ok status next =>
        cases (ensured.of_ok result).2 with
        | rejected unsaved _ => exact absurd reaches.saved unsaved
        | success _ works noted _ => exact absurd ⟨works, noted⟩ failed
        | rolledBack _ _ _ _ _ => exact ⟨next, result⟩
        | rollbackFailed _ _ failed => exact absurd ⟨works, noted.answers⟩ failed
    | error failure next =>
        obtain failed | ⟨unsaved, -⟩ | ⟨-, -, failed⟩ := ensured.of_error result
        · exact absurd reaches.started failed
        · exact absurd reaches.saved unsaved
        · exact absurd noted.appended failed

end Requests

end TraefikManager.Update
