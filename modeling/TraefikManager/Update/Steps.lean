import Mathlib.Algebra.Order.BigOperators.Group.List
import Mathlib.Algebra.Order.Group.Nat
import TraefikManager.Foundation.Collect
import TraefikManager.Update.Executor

/-!
# When the steps of an update succeed

Each part of an update returns exactly if the commands and the file operations in it go well, so
that the outcome of a request can be read off its surroundings. What a part does to the files of the
compose directory is stated beside it.
-/

namespace TraefikManager.Update

open Foundation Program

/-- The content of a file, read as text. -/
def Host.text (host : Host) (path : Path) : Option (List Char) :=
  (host.content path).map fun content => Text.universalNewlines content.toList

section Conditions

variable (environment : UpdateEnvironment) (config : RunnerConfig) (request : UpdateRequest)

/-- A command that ends with status 0. -/
def Completes (command : Command) : Prop := ∃ output, runCommand environment command = .ok output

/-- What `_replace_compose_image` to `_run_compose(config, "up", "-d")` need. -/
structure AppliesImage : Prop where
  read : environment.fails .readReplaced = none
  written : environment.fails .writeReplaced = none
  announced : environment.fails .heartbeatApplying = none
  pulled : Completes environment .composePull
  waited : ∀ round < environment.waits, environment.fails (.heartbeatWaiting round) = none
  recreated : Completes environment (.composeUp .update)

/-- What `_restore_compose_files` needs. -/
structure RestoresFiles : Prop where
  read : ∀ index < config.composeFiles.length, environment.fails (.readBackup index) = none
  written : ∀ index < config.composeFiles.length, environment.fails (.writeRestored index) = none

/-- What `_create_backup` needs of files that are there. -/
structure SavesBackup (host : Host) : Prop where
  made : environment.fails .makeBackupDir = none
  fresh : host.holdsFile (backupDirectory environment config request) = false
  copied : ∀ index < config.composeFiles.length, environment.fails (.copyComposeFile index) = none
  copiedAcme : environment.fails .copyAcme = none

/-- Docker tells of the container after a recreation, or fails to, within the time limit. -/
def AuditAnswers (stage : Stage) : Prop :=
  ∀ text, environment.runs (.inspect (.recreated stage) .identity) ≠ .timeoutExpired text

end Conditions

variable {environment : UpdateEnvironment} {config : RunnerConfig} {request : UpdateRequest}
  {host : Host}

section Primitives

variable {normal : PUnit → Host → Prop} {raised : UpdateError → Host → Prop}

/-- A file operation that is reached returns unless it fails. -/
theorem ensures_reach (step : Step)
    (passes : environment.fails step = none → normal ⟨⟩ host)
    (fails : ∀ failure, environment.fails step ≠ none → raised failure host) :
    Ensures (reach environment step) normal raised host := by
  rw [reach, reached, ensures_ofExcept]
  cases isFailure : environment.fails step with
  | none => exact ⟨fun _ _ => passes isFailure, nofun⟩
  | some failure => exact ⟨nofun, fun other _ => fails other (by simp [isFailure])⟩

/-- A file is read unless the operation fails or there is none. -/
theorem readText_eq_ok {step : Step} {path : Path} {text : List Char} :
    readText environment step path host = .ok text ↔
      environment.fails step = none ∧ host.text path = some text := by
  rw [readText, reached, Host.text]
  cases environment.fails step with
  | some failure =>
      constructor
      · nofun
      · exact fun both => nomatch both.1
  | none =>
      cases host.content path with
      | none =>
          constructor
          · nofun
          · exact fun both => nomatch both.2
      | some content =>
          constructor
          · intro isText
            exact ⟨rfl, congrArg some (Except.ok.inj isText)⟩
          · rintro ⟨-, isText⟩
            exact congrArg Except.ok (Option.some.inj isText)

theorem ensures_runCompose (command : Command)
    (passes : Completes environment command → normal ⟨⟩ host)
    (fails : ∀ failure, ¬Completes environment command → raised failure host) :
    Ensures (Program.ofExcept (runCompose environment command)) normal raised host := by
  rw [ensures_ofExcept, runCompose]
  cases isOutput : runCommand environment command with
  | ok output => exact ⟨fun _ _ => passes ⟨output, isOutput⟩, nofun⟩
  | error failure =>
      refine ⟨nofun, fun other _ => fails other ?_⟩
      rintro ⟨output, completes⟩
      cases isOutput.symm.trans completes

private theorem ensures_waitForRecreateWindow
    (passes : (∀ round < environment.waits, environment.fails (.heartbeatWaiting round) = none) →
      normal ⟨⟩ host)
    (fails : ∀ failure, (¬∀ round < environment.waits,
      environment.fails (.heartbeatWaiting round) = none) → raised failure host) :
    Ensures (waitForRecreateWindow environment) normal raised host := by
  have start : host = host ∧ ∀ round < environment.waits, round ∉ List.range environment.waits →
      environment.fails (.heartbeatWaiting round) = none :=
    ⟨rfl, fun round isRound outside => absurd (List.mem_range.mpr isRound) outside⟩
  refine (ensures_forM (fun rest current => current = host ∧ ∀ round < environment.waits,
    round ∉ rest → environment.fails (.heartbeatWaiting round) = none) start ?_).mono ?_
      fun _ _ failed => failed
  · rintro round rest current listed ⟨rfl, earlier⟩
    apply ensures_reach
    · intro passed
      refine ⟨rfl, fun other isRound outside => ?_⟩
      by_cases same : other = round
      · exact same ▸ passed
      · exact earlier other isRound (by simp [same, outside])
    · intro failure failed
      exact fails failure fun all => failed (all round (List.mem_range.mp listed))
  · rintro _ _ ⟨rfl, all⟩
    exact passes fun round isRound => all round isRound List.not_mem_nil

end Primitives

section Records

private theorem isTimeout_toUpdateError (failure : FileError) :
    failure.toUpdateError.isTimeout = false := by
  cases failure <;> rfl

/-- An append returns unless it fails, and never runs into a time limit. -/
theorem ensures_appendTo {failure : Option AppendFailure}
    {change : (String → String) → Host → Host} {line : String} {normal : PUnit → Host → Prop}
    {raised : UpdateError → Host → Prop}
    (kept : ∀ f current, (change f current).files = current.files)
    (passes : failure = none → ∀ next, next.files = host.files → normal ⟨⟩ next)
    (fails : ∀ error next, failure ≠ none → error.isTimeout = false → next.files = host.files →
      raised error next) :
    Ensures (appendTo failure change line) normal raised host := by
  unfold appendTo
  cases failure with
  | none =>
      rw [ensures_modify]
      exact passes rfl _ (kept _ _)
  | some failure =>
      have failed : ∀ next, next.files = host.files → raised failure.error.toUpdateError next :=
        fun next same => fails _ next (by simp) (isTimeout_toUpdateError _) same
      dsimp only
      by_cases written : failure.written = true
      · simp only [if_pos written, ensures_bind, ensures_modify, ensures_throw]
        exact failed _ (kept _ _)
      · rw [if_neg written, ensures_throw]
        exact failed host rfl

theorem ensures_appendHistory {point : HistoryPoint} {entry : HistoryEntry}
    {normal : PUnit → Host → Prop} {raised : UpdateError → Host → Prop}
    (passes : environment.historyFails point = none → ∀ next, next.files = host.files →
      normal ⟨⟩ next)
    (fails : ∀ error next, environment.historyFails point ≠ none → next.files = host.files →
      raised error next) :
    Ensures (appendHistory environment point entry) normal raised host :=
  ensures_appendTo (fun _ _ => rfl) passes fun error next failed _ same =>
    fails error next failed same

/-- Asking docker for the container raises a time-out exactly if docker runs into its limit. -/
theorem isTimeout_currentContainer {stage : Stage} {failure : UpdateError}
    (failed : currentContainer environment (.recreated stage) = .error failure) :
    failure.isTimeout = true ↔ ¬AuditAnswers environment stage := by
  unfold currentContainer dockerInspect at failed
  unfold AuditAnswers
  cases ends : environment.runs (.inspect (.recreated stage) .identity) with
  | timeoutExpired text =>
      rw [runCommand, ends] at failed
      cases failed
      simp [UpdateError.isTimeout]
  | osError text =>
      rw [runCommand, ends] at failed
      cases failed
      simp [UpdateError.isTimeout]
  | exited returncode stdout stderr =>
      have answers : ¬¬∀ text, Completed.exited returncode stdout stderr ≠ .timeoutExpired text :=
        not_not.mpr fun _ => nofun
      rw [iff_false_right answers, Bool.not_eq_true]
      rw [runCommand, ends] at failed
      dsimp only at failed
      split at failed
      · cases failed
        rfl
      · simp only [bind, Except.bind] at failed
        split at failed
        · cases failed
          rfl
        · split at failed
          · cases failed
            rfl
          · split at failed
            · cases failed
              rfl
            · split at failed
              · cases failed
                rfl
              · cases failed

private theorem answers_of_currentContainer {stage : Stage} {container : Container}
    (found : currentContainer environment (.recreated stage) = .ok container) :
    AuditAnswers environment stage := by
  intro text ends
  rw [currentContainer, dockerInspect, runCommand, ends] at found
  cases found

private theorem isTimeout_readRecreateState {stage : Stage} {state : Option String}
    {failure : UpdateError}
    (failed : readRecreateState environment stage state = .error failure) :
    failure.isTimeout = false := by
  unfold readRecreateState at failed
  split at failed
  · cases failed
  · cases fails : environment.fails (.readRecreateState stage) with
    | some error =>
        rw [reached, fails] at failed
        cases failed
        exact isTimeout_toUpdateError error
    | none =>
        rw [reached, fails] at failed
        simp only [bind, Except.bind] at failed
        split at failed
        · cases failed
          rfl
        · split at failed
          · cases failed
            rfl
          · split at failed
            · cases failed
            · cases failed
              rfl
          · cases failed
            rfl

private theorem ensures_writeRecreateState {stage : Stage} {container : Container}
    {normal : PUnit → Host → Prop} {raised : UpdateError → Host → Prop}
    (passes : ∀ next, next.files = host.files → normal ⟨⟩ next)
    (fails : ∀ error next, error.isTimeout = false → next.files = host.files → raised error next) :
    Ensures (writeRecreateState environment stage container) normal raised host := by
  rw [writeRecreateState, ensures_bind, reach, reached, ensures_ofExcept]
  cases environment.fails (.writeRecreateState stage) with
  | none =>
      refine ⟨fun _ _ => ?_, nofun⟩
      rw [ensures_modify]
      exact passes _ rfl
  | some failure =>
      refine ⟨nofun, fun error isError => ?_⟩
      cases isError
      exact fails _ host (isTimeout_toUpdateError failure) rfl

/-- Recording a recreation raises a time-out exactly if docker runs into its limit. -/
theorem ensures_recordManagedRecreation {stage : Stage} {previousContainerId : Option String} :
    Ensures (recordManagedRecreation environment stage request previousContainerId)
      (fun _ next => AuditAnswers environment stage ∧ next.files = host.files)
      (fun failure next => (failure.isTimeout = true ↔ ¬AuditAnswers environment stage) ∧
        next.files = host.files) host := by
  rw [recordManagedRecreation, ensures_bind, ensures_ofExcept]
  refine ⟨fun current found => ?_, fun failure failed => ⟨isTimeout_currentContainer failed, rfl⟩⟩
  have answers := answers_of_currentContainer found
  have noTimeout : ∀ {failure : UpdateError}, failure.isTimeout = false →
      (failure.isTimeout = true ↔ ¬AuditAnswers environment stage) := by
    intro failure isFalse
    simp [isFalse, answers]
  simp only [ensures_bind, ensures_get, ensures_ofExcept]
  have onlyHistory : ∀ (change : String → String) (current : Host),
      ({ current with recreateHistory := change current.recreateHistory } : Host).files =
        current.files := fun _ _ => rfl
  refine ⟨fun previous _ => ?_, fun failure failed => ⟨noTimeout ?_, trivial⟩⟩
  · by_cases same : previous = some current.containerId
    · rw [if_pos same, ensures_bind]
      apply ensures_writeRecreateState
      · intro next kept
        rw [ensures_pure]
        exact ⟨answers, kept⟩
      · exact fun error next isFalse kept => ⟨noTimeout isFalse, kept⟩
    · rw [if_neg same, ensures_bind]
      refine ensures_appendTo onlyHistory ?_ ?_
      · intro _ middle kept
        rw [ensures_bind]
        apply ensures_writeRecreateState
        · intro next kept'
          rw [ensures_pure]
          exact ⟨answers, kept'.trans kept⟩
        · exact fun error next isFalse kept' => ⟨noTimeout isFalse, kept'.trans kept⟩
      · exact fun error next _ isFalse kept => ⟨noTimeout isFalse, kept⟩
  · cases previousContainerId with
    | some previous => cases failed
    | none =>
        cases isState : readRecreateState environment stage host.recreateState with
        | ok state =>
            rw [isState] at failed
            cases failed
        | error other =>
            rw [isState] at failed
            cases failed
            exact isTimeout_readRecreateState isState

/-- The check of the record returns unless docker runs into its limit. -/
theorem ensures_recordRecreationCheck {stage : Stage} {previousContainerId : Option String}
    {normal : Check → Host → Prop} {raised : UpdateError → Host → Prop}
    (passes : AuditAnswers environment stage → ∀ check next, next.files = host.files →
      normal check next)
    (fails : ¬AuditAnswers environment stage → ∀ error next, next.files = host.files →
      raised error next) :
    Ensures (recordRecreationCheck environment stage request previousContainerId) normal raised
      host := by
  rw [recordRecreationCheck, ensures_bind, ensures_attempt]
  refine ensures_recordManagedRecreation.mono ?_ ?_
  · rintro recorded next ⟨answers, kept⟩
    cases recorded with
    | true => exact ensures_pure ▸ passes answers _ next kept
    | false => exact ensures_pure ▸ passes answers _ next kept
  · rintro failure next ⟨isTimeout, kept⟩
    dsimp only
    by_cases timedOut : failure.isTimeout = true
    · rw [if_pos timedOut, ensures_throw]
      exact fails (isTimeout.mp timedOut) _ next kept
    · rw [if_neg timedOut, ensures_pure]
      exact passes (not_not.mp fun silent => timedOut (isTimeout.mpr silent)) _ next kept

end Records

section Validations

variable {expectedVersion : String} {stage : Stage}

private theorem validateRounds_of_passed {rounds : List Nat} {lastChecks : List Check}
    (passes : ∃ round ∈ rounds,
      allPassed (runtimeChecks environment config expectedVersion stage round) = true) :
    ∃ checks, validateRounds environment config expectedVersion stage rounds lastChecks =
      .ok checks := by
  induction rounds generalizing lastChecks with
  | nil =>
      obtain ⟨round, listed, -⟩ := passes
      exact absurd listed List.not_mem_nil
  | cons first rest ih =>
      unfold validateRounds
      dsimp only
      by_cases passed :
          allPassed (runtimeChecks environment config expectedVersion stage first) = true
      · rw [if_pos passed]
        exact ⟨_, rfl⟩
      · rw [if_neg passed]
        obtain ⟨round, listed, each⟩ := passes
        obtain rfl | later := List.mem_cons.mp listed
        · exact absurd each passed
        · exact ih ⟨round, later, each⟩

theorem validated_iff :
    (∃ checks, validateRuntime environment config expectedVersion stage = .ok checks) ↔
      Validated environment config expectedVersion stage := by
  constructor
  · rintro ⟨checks, passed⟩
    obtain ⟨round, listed, rfl, each⟩ := validateRounds_ok passed
    exact ⟨round, List.mem_range.mp listed, each⟩
  · rintro ⟨round, isRound, each⟩
    exact validateRounds_of_passed ⟨round, List.mem_range.mpr isRound, each⟩

theorem ensures_validate {recreateCheck : Check} {normal : List Check → Host → Prop}
    {raised : UpdateError → Host → Prop}
    (passes : Validated environment config expectedVersion stage → ∀ checks, normal checks host)
    (fails : ¬Validated environment config expectedVersion stage → ∀ error, raised error host) :
    Ensures (Program.ofExcept
      (validateWithRecreationCheck environment config expectedVersion stage recreateCheck))
      normal raised host := by
  rw [ensures_ofExcept, validateWithRecreationCheck]
  cases isResult : validateRuntime environment config expectedVersion stage with
  | ok checks => exact ⟨fun all _ => passes (validated_iff.mp ⟨checks, isResult⟩) all, nofun⟩
  | error failure =>
      have failed : ¬Validated environment config expectedVersion stage := by
        intro validated
        obtain ⟨checks, passed⟩ := validated_iff.mpr validated
        cases isResult.symm.trans passed
      obtain ⟨checks, rfl⟩ := validateRounds_error isResult
      exact ⟨nofun, fun error _ => fails failed error⟩

end Validations

section Checked

variable {targetVersion : String} {found : Preflight}

/-- What the checks before an update tell of the files. -/
structure Checked (config : RunnerConfig) (host : Host) (found : Preflight) : Prop where
  present : ∀ composeFile ∈ config.composeFiles, (host.file? composeFile).isSome = true
  presentAcme : (host.file? config.acmeFile).isSome = true
  inside : ∀ composeFile ∈ config.composeFiles, config.composeDir <+: composeFile
  isComposeFile : found.imageComposeFile ∈ config.composeFiles
  once : ∃ original, host.content found.imageComposeFile = some original ∧
    Text.count (imageNeedle found.currentImage) (Text.universalNewlines original.toList) = 1

private theorem checkFiles_ok (checked : checkFiles environment config host = .ok ()) :
    (∀ composeFile ∈ config.composeFiles, (host.file? composeFile).isSome = true) ∧
      (host.file? config.acmeFile).isSome = true ∧
        ∀ composeFile ∈ config.composeFiles, config.composeDir <+: composeFile := by
  simp only [checkFiles, bind_eq_ok] at checked
  obtain ⟨-, -, checked⟩ := checked
  split at checked
  · cases checked
  · rename_i present
    split at checked
    · cases checked
    · rename_i inside
      simp only [not_or, List.any_eq_true, not_exists, not_and, Option.isNone_iff_eq_none] at present
      simp only [not_or, List.any_eq_true, not_exists, not_and, Bool.not_eq_true',
        Bool.not_eq_false] at inside
      refine ⟨?_, Option.isSome_iff_ne_none.mpr present.2.2, ?_⟩
      · intro composeFile listed
        exact Option.isSome_iff_ne_none.mpr (present.2.1 composeFile listed)
      · intro composeFile listed
        have within := inside.1 composeFile listed
        simp only [isInside, decide_eq_true_eq] at within
        exact List.isPrefixOf_iff_prefix.mp within.1

private theorem findImageComposeFile_ok {currentImage : String} {path : Path}
    (isFound : findImageComposeFile environment config currentImage host = .ok path) :
    path ∈ config.composeFiles ∧ ∃ original, host.content path = some original ∧
      Text.count (imageNeedle currentImage) (Text.universalNewlines original.toList) = 1 := by
  simp only [findImageComposeFile, bind_eq_ok] at isFound
  obtain ⟨counts, counted, isFound⟩ := isFound
  split at isFound
  · rename_i composeFile count total isFirst
    cases isFound
    have listed := List.mem_of_find?_eq_some isFirst
    have positive : count ≠ 0 := by simpa using List.find?_some isFirst
    have small : count ≤ 1 := total ▸ List.le_sum_of_mem (List.mem_map_of_mem (f := (·.2)) listed)
    obtain ⟨⟨file, index⟩, inFiles, isCount⟩ := exists_of_mem_mapM counted listed
    simp only [bind_eq_ok] at isCount
    obtain ⟨text, isText, isPair⟩ := isCount
    cases isPair
    obtain ⟨-, isText⟩ := readText_eq_ok.mp isText
    obtain ⟨original, isOriginal, rfl⟩ := Option.map_eq_some_iff.mp isText
    refine ⟨List.mem_of_getElem? (List.mem_zipIdx_iff_getElem?.mp inFiles), original, isOriginal, ?_⟩
    omega
  · cases isFound

theorem checked_of_preflight
    (checked : preflight environment config targetVersion host = .ok found) :
    Checked config host found := by
  simp only [preflight, bind_eq_ok] at checked
  obtain ⟨⟨⟩, files, currentImage, -, ⟨repository, currentVersion⟩, -, -, -, path, isPath, isFound⟩ :=
    checked
  cases isFound
  obtain ⟨present, presentAcme, inside⟩ := checkFiles_ok files
  obtain ⟨isComposeFile, once⟩ := findImageComposeFile_ok isPath
  exact ⟨present, presentAcme, inside, isComposeFile, once⟩

end Checked

section Apply

variable {found : Preflight}

/-- The text `_replace_compose_image` writes. -/
def replacedText (found : Preflight) (original : String) : List Char :=
  Text.replaceFirst (imageNeedle found.currentImage) (imageNeedle found.targetImage)
    (Text.universalNewlines original.toList)

/-- Files other than the compose file are left alone. -/
def SameBut (path : Path) (host next : Host) : Prop :=
  ∀ other, other ≠ path → next.file? other = host.file? other

theorem file?_of_files {next : Host} (same : next.files = host.files) (path : Path) :
    next.file? path = host.file? path := by
  rw [Host.file?, same, Host.file?]

theorem content_of_files {next : Host} (same : next.files = host.files) (path : Path) :
    next.content path = host.content path := by
  rw [Host.content, file?_of_files same, Host.content]

/-- The image is replaced unless a file operation fails. -/
theorem ensures_replaceComposeImage {original : String} {normal : PUnit → Host → Prop}
    {raised : UpdateError → Host → Prop}
    (isOriginal : host.content found.imageComposeFile = some original)
    (once : Text.count (imageNeedle found.currentImage)
      (Text.universalNewlines original.toList) = 1)
    (passes : environment.fails .readReplaced = none → environment.fails .writeReplaced = none →
      ∀ next, next.content found.imageComposeFile =
        some (String.ofList (replacedText found original)) →
          SameBut found.imageComposeFile host next → normal ⟨⟩ next)
    (fails : ¬(environment.fails .readReplaced = none ∧ environment.fails .writeReplaced = none) →
      ∀ error, raised error host) :
    Ensures (replaceComposeImage environment found.imageComposeFile found.currentImage
      found.targetImage) normal raised host := by
  simp only [replaceComposeImage, ensures_bind, ensures_get, ensures_ofExcept]
  have isText : host.text found.imageComposeFile =
      some (Text.universalNewlines original.toList) := by
    rw [Host.text, isOriginal]
    rfl
  constructor
  · intro text read
    obtain ⟨reads, same⟩ := readText_eq_ok.mp read
    obtain rfl := Option.some.inj (isText.symm.trans same)
    simp only [once, ne_eq, not_true_eq_false, if_false, ensures_bind]
    apply ensures_reach
    · intro writes
      rw [ensures_modify]
      apply passes reads writes
      · rw [Host.content, Host.file?_write, if_pos rfl]
        rfl
      · intro other differs
        rw [Host.file?_write, if_neg differs]
    · exact fun failure failed => fails (fun both => failed both.2) failure
  · intro failure failed
    refine fails (fun both => ?_) failure
    cases failed.symm.trans (readText_eq_ok.mpr ⟨both.1, isText⟩)

/-- The image is brought into the container unless a step fails. -/
theorem ensures_applyImage {original : String}
    (isOriginal : host.content found.imageComposeFile = some original)
    (once : Text.count (imageNeedle found.currentImage)
      (Text.universalNewlines original.toList) = 1) :
    Ensures (applyImage environment found)
      (fun _ next => AppliesImage environment ∧ next.content found.imageComposeFile =
        some (String.ofList (replacedText found original)) ∧
          SameBut found.imageComposeFile host next)
      (fun _ next => ¬AppliesImage environment ∧ SameBut found.imageComposeFile host next)
      host := by
  rw [applyImage, ensures_bind]
  refine ensures_replaceComposeImage isOriginal once ?_ ?_
  · intro reads writes next isReplaced same
    rw [ensures_bind]
    apply ensures_reach
    · intro announced
      rw [ensures_bind]
      apply ensures_runCompose
      · intro pulled
        rw [ensures_bind]
        apply ensures_waitForRecreateWindow
        · intro waited
          rw [ensures_bind]
          apply ensures_runCompose
          · intro recreated
            rw [ensures_pure]
            exact ⟨⟨reads, writes, announced, pulled, waited, recreated⟩, isReplaced, same⟩
          · exact fun _ failed => ⟨fun applies => failed applies.recreated, same⟩
        · exact fun _ failed => ⟨fun applies => failed applies.waited, same⟩
      · exact fun _ failed => ⟨fun applies => failed applies.pulled, same⟩
    · exact fun _ failed => ⟨fun applies => failed applies.announced, same⟩
  · intro failed _
    exact ⟨fun applies => failed ⟨applies.read, applies.written⟩, fun _ _ => rfl⟩

/-- The image is applied and the container found to run it. -/
structure UpdateWorks (environment : UpdateEnvironment) (config : RunnerConfig)
    (targetVersion : String) : Prop where
  applies : AppliesImage environment
  validated : Validated environment config targetVersion .update

/-- What is noted of a stage can be noted. -/
structure IsNoted (environment : UpdateEnvironment) (stage : Stage) (point : HistoryPoint) :
    Prop where
  answers : AuditAnswers environment stage
  appended : environment.historyFails point = none

/-- An update is a success exactly if it works and is noted. -/
theorem ensures_applyUpdate {entry : HistoryEntry} {backupDir : Path} {original : String}
    (isOriginal : host.content found.imageComposeFile = some original)
    (once : Text.count (imageNeedle found.currentImage)
      (Text.universalNewlines original.toList) = 1) :
    Ensures (applyUpdate environment config request entry found backupDir)
      (fun status next => status = .success ∧
        (UpdateWorks environment config request.targetVersion ∧
          IsNoted environment .update .success) ∧
        next.content found.imageComposeFile = some (String.ofList (replacedText found original)) ∧
          SameBut found.imageComposeFile host next)
      (fun _ next => ¬(UpdateWorks environment config request.targetVersion ∧
        IsNoted environment .update .success) ∧ SameBut found.imageComposeFile host next)
      host := by
  rw [applyUpdate, ensures_bind]
  refine (ensures_applyImage isOriginal once).mono ?_ ?_
  · rintro previousContainerId applied ⟨applies, isReplaced, same⟩
    rw [ensures_bind]
    apply ensures_recordRecreationCheck
    · intro answers check noted keeps
      have same' : SameBut found.imageComposeFile host noted := fun other differs =>
        (file?_of_files keeps other).trans (same other differs)
      rw [ensures_bind]
      apply ensures_validate
      · intro validated checks
        rw [ensures_bind]
        apply ensures_appendHistory
        · intro appended next keeps'
          rw [ensures_pure]
          refine ⟨rfl, ⟨⟨applies, validated⟩, answers, appended⟩, ?_, ?_⟩
          · rw [content_of_files keeps', content_of_files keeps, isReplaced]
          · exact fun other differs =>
              (file?_of_files keeps' other).trans (same' other differs)
        · intro error next failed keeps'
          exact ⟨fun both => failed both.2.appended, fun other differs =>
            (file?_of_files keeps' other).trans (same' other differs)⟩
      · exact fun failed _ => ⟨fun both => failed both.1.validated, same'⟩
    · intro silent error next keeps
      exact ⟨fun both => silent both.2.answers, fun other differs =>
        (file?_of_files keeps other).trans (same other differs)⟩
  · rintro failure next ⟨failed, same⟩
    exact ⟨fun both => failed both.1.applies, same⟩

end Apply

end TraefikManager.Update
