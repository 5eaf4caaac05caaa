import TraefikManager.Update.Bookkeeping

/-!
# What the report of an update tells

A success tells that the compose file names the target image, a rollback that the compose files
are what they were. Neither is looked at again: the runner replaces a text that need not be the
value of a key, and a rollback writes back what was read with other line ends.
-/

namespace TraefikManager.Update

open Foundation Program

section Names

variable {text image currentImage indent finish : List Char}

/-- Some line of a compose file has the image for its value. -/
def NamesImage (text image : List Char) : Prop :=
  ∃ line ∈ text.splitOn '\n', imageValue? line = some image

/-- The running image is the whole value of its line, or the file names the image also when the
rest of that line is a comment. -/
def GivesPlace (needle text image : List Char) : Prop :=
  isWholeValue needle text = true ∨
    NamesImage (Text.replaceFirst needle "image: #".toList text) image

private theorem mem_trimBlanks_of_visible {c : Char} (visible : isBlank c = false)
    {chars : List Char} (listed : c ∈ chars) : c ∈ trimBlanks chars := by
  obtain ⟨first, rest, rfl⟩ := List.append_of_mem listed
  rw [trimBlanks, dropWhile_append_cons visible, rdropWhile_append_cons visible]
  exact List.mem_append_right _ List.mem_cons_self

/-- The line of an image has it for its value exactly if it is the whole value, or the line has it
in another place and the rest is a comment. -/
theorem imageValue?_image_iff (isPlain : IsPlainImage image) (noKey : 'm' ∉ image) :
    imageValue? (indent ++ ("image: ".toList ++ (image ++ finish))) = some image ↔
      (indent.all isBlank = true ∧ (withoutComment false finish).all isBlank = true) ∨
        imageValue? (indent ++ ("image: ".toList ++ '#' :: finish)) = some image := by
  by_cases isIndent : indent.all isBlank = true
  · have commented : imageValue? (indent ++ ("image: ".toList ++ '#' :: finish)) ≠ some image := by
      have dropped : (indent ++ ("image: ".toList ++ '#' :: finish)).dropWhile isBlank =
          "image:".toList ++ ' ' :: '#' :: finish := by
        have none : indent.dropWhile isBlank = [] := by
          simpa [List.dropWhile_eq_nil_iff] using isIndent
        have split := dropWhile_append_cons (c := 'i') (by decide) indent
          ("mage: ".toList ++ '#' :: finish)
        rw [none] at split
        exact split
      intro isValue
      simp only [imageValue?] at isValue
      rw [dropped, if_pos (List.prefix_append _ _)] at isValue
      exact isPlain.nonempty (Option.some.inj isValue).symm
    rw [or_iff_left commented, isPlain.imageValue?_eq isIndent]
    simp [isIndent, List.rdropWhile_eq_nil_iff]
  · simp only [isIndent, false_and, false_or, Bool.false_eq_true]
    obtain isNone | ⟨shift, isValue⟩ := imageValue?_behind isIndent
    · rw [isNone, isNone]
    · rw [isValue, isValue, Option.some_inj, Option.some_inj]
      obtain ⟨kept, isKept⟩ | ⟨state, isState⟩ :=
        withoutComment_append false (shift ++ "image: ".toList)
      · -- A comment begins before the entry.
        rw [isKept, isKept]
      · -- The key is part of either value, so that neither is an image.
        rw [isState, isState]
        have inside : ∀ rest, 'm' ∈ trimBlanks (shift ++ "image: ".toList ++ rest) := by
          intro rest
          exact mem_trimBlanks_of_visible (by decide) (by simp)
        constructor
        · exact fun same => absurd (same ▸ inside _) noKey
        · exact fun same => absurd (same ▸ inside _) noKey

/-- After the replacement the file names the image exactly if it gives place to it. -/
theorem namesImage_replaced_iff (isPlain : IsPlainImage image) (noKey : 'm' ∉ image)
    (noReturn : '\r' ∉ text)
    (once : Text.count ("image: ".toList ++ currentImage) text = 1) :
    NamesImage (Text.replaceFirst ("image: ".toList ++ currentImage) ("image: ".toList ++ image)
        text) image ↔ GivesPlace ("image: ".toList ++ currentImage) text image := by
  obtain ⟨before, after, found⟩ := Text.exists_of_count once
  have whole : isWholeValue ("image: ".toList ++ currentImage) text = true ↔
      (before.rtakeWhile (· ≠ '\n')).all isBlank = true ∧
        (withoutComment false (after.takeWhile (· ≠ '\n'))).all isBlank = true := by
    rw [isWholeValue, found]
    simp only [noReturn, not_false_eq_true, decide_true, Bool.and_true, Bool.and_eq_true]
  obtain ⟨lines, later, split⟩ := Text.splitOn_middle '\n' before after
  have listed : ∀ line : List Char, (∃ other ∈ lines ++ line :: later,
      imageValue? other = some image) ↔
        imageValue? line = some image ∨
          ∃ other ∈ lines ++ later, imageValue? other = some image := by
    intro line
    simp only [List.mem_append, List.mem_cons]
    grind
  rw [GivesPlace, whole, NamesImage, NamesImage, Text.replaceFirst_of_splitFirst found,
    Text.replaceFirst_of_splitFirst found, split _ (isPlain_needle isPlain).1,
    split _ (by decide), listed, listed]
  have isLine : before.rtakeWhile (· ≠ '\n') ++ ("image: ".toList ++ image) ++
      after.takeWhile (· ≠ '\n') = before.rtakeWhile (· ≠ '\n') ++
        ("image: ".toList ++ (image ++ after.takeWhile (· ≠ '\n'))) := by simp
  have isComment : before.rtakeWhile (· ≠ '\n') ++ "image: #".toList ++
      after.takeWhile (· ≠ '\n') = before.rtakeWhile (· ≠ '\n') ++
        ("image: ".toList ++ '#' :: after.takeWhile (· ≠ '\n')) := by simp
  rw [isLine, isComment, imageValue?_image_iff isPlain noKey, or_assoc]

end Names

section Reports

variable {environment : UpdateEnvironment} {config : RunnerConfig} {request : UpdateRequest}
  {host next : Host} {found : Preflight}

/-- The compose file, read as text, names the image. -/
def Host.Names (host : Host) (path : Path) (image : String) : Prop :=
  ∃ text, host.text path = some text ∧ NamesImage text image.toList

/-- The compose file gives place to the target image. -/
def HasPlace (host : Host) (found : Preflight) : Prop :=
  ∃ text, host.text found.imageComposeFile = some text ∧
    GivesPlace (imageNeedle found.currentImage) text found.targetImage.toList

/-- The compose files have no carriage returns. -/
def HasNoReturns (config : RunnerConfig) (host : Host) : Prop :=
  ∀ composeFile ∈ config.composeFiles, ∀ content, host.content composeFile = some content →
    '\r' ∉ content.toList

/-- The compose files are, byte for byte, what they were. -/
def SameFiles (config : RunnerConfig) (host next : Host) : Prop :=
  ∀ composeFile ∈ config.composeFiles, next.content composeFile = host.content composeFile

/-- What the status of a request tells is the case. -/
inductive Truthful (environment : UpdateEnvironment) (config : RunnerConfig)
    (request : UpdateRequest) (host : Host) : UpdateStatus → Host → Prop
  | verified {found : Preflight} {next : Host}
      (checked : preflight environment config request.targetVersion host = .ok found)
      (same : found.currentVersion = request.targetVersion)
      (names : next.Names found.imageComposeFile found.targetImage)
      (validated : Validated environment config request.targetVersion .verification) :
      Truthful environment config request host .success next
  | updated {found : Preflight} {next : Host}
      (checked : preflight environment config request.targetVersion host = .ok found)
      (differs : found.currentVersion ≠ request.targetVersion)
      (names : next.Names found.imageComposeFile found.targetImage)
      (validated : Validated environment config request.targetVersion .update) :
      Truthful environment config request host .success next
  | rolledBack {found : Preflight} {next : Host}
      (checked : preflight environment config request.targetVersion host = .ok found)
      (same : SameFiles config host next)
      (validated : Validated environment config found.currentVersion .rollback) :
      Truthful environment config request host .rolledBack next
  | rejected {next : Host} (same : SameFiles config host next) :
      Truthful environment config request host .rejected next
  | rollbackFailed {next : Host} : Truthful environment config request host .rollbackFailed next

/-- When a request is reported, and truthfully. -/
structure TellsTruth (environment : UpdateEnvironment) (config : RunnerConfig)
    (request : UpdateRequest) (host : Host) : Prop where
  rejected : ∀ failure, preflight environment config request.targetVersion host = .error failure →
    environment.historyFails .rejected = none
  verified : ∀ found, preflight environment config request.targetVersion host = .ok found →
    found.currentVersion = request.targetVersion →
      (Validated environment config request.targetVersion .verification →
        environment.historyFails .verified = none ∧ HasPlace host found) ∧
      (¬Validated environment config request.targetVersion .verification →
        environment.historyFails .unverified = none)
  updated : ∀ found, preflight environment config request.targetVersion host = .ok found →
    found.currentVersion ≠ request.targetVersion →
      ¬Unreported environment config request host ∧
      (SavesBackup environment config request host →
        UpdateWorks environment config request.targetVersion →
          IsNoted environment .update .success → HasPlace host found) ∧
      (SavesBackup environment config request host →
        ¬(UpdateWorks environment config request.targetVersion ∧
          IsNoted environment .update .success) →
            RollbackWorks environment config found.currentVersion →
              IsNoted environment .rollback .rollback → HasNoReturns config host)

/-- The compose file names the target image after the replacement exactly if it gives place. -/
theorem names_replaced_iff
    (checked : preflight environment config request.targetVersion host = .ok found)
    {original : String} (isOriginal : host.content found.imageComposeFile = some original)
    {content : String} (isContent : next.content found.imageComposeFile = some content)
    (isReplaced : Text.universalNewlines content.toList = replacedText found original) :
    next.Names found.imageComposeFile found.targetImage ↔ HasPlace host found := by
  obtain ⟨repository, official, -, targetValid, -, isTarget⟩ := images_of_preflight checked
  obtain ⟨original', isOriginal', once⟩ := (checked_of_preflight checked).once
  obtain rfl := Option.some.inj (isOriginal.symm.trans isOriginal')
  have needle : ∀ image : String, imageNeedle image = "image: ".toList ++ image.toList :=
    fun image => String.toList_append
  have noKey : 'm' ∉ found.targetImage.toList :=
    isTarget ▸ notMem_image official targetValid (by decide) (by decide)
  have isPlain : IsPlainImage found.targetImage.toList :=
    isTarget ▸ isPlainImage_of_version official targetValid
  rw [needle] at once
  have isText : host.text found.imageComposeFile =
      some (Text.universalNewlines original.toList) := by
    rw [Host.text, isOriginal]
    rfl
  have isText' : next.text found.imageComposeFile = some (replacedText found original) := by
    rw [Host.text, isContent, Option.map_some, isReplaced]
  simp only [Host.Names, HasPlace, isText, isText', Option.some_inj, exists_eq_left']
  rw [replacedText, needle, needle]
  exact namesImage_replaced_iff isPlain noKey (Text.notMem_universalNewlines _) once

private theorem names_updated_iff
    (checked : preflight environment config request.targetVersion host = .ok found)
    {original : String} (isOriginal : host.content found.imageComposeFile = some original)
    (isReplaced : next.content found.imageComposeFile =
      some (String.ofList (replacedText found original))) :
    next.Names found.imageComposeFile found.targetImage ↔ HasPlace host found := by
  obtain ⟨repository, official, -, targetValid, -, isTarget⟩ := images_of_preflight checked
  have isPlain : IsPlainImage found.targetImage.toList :=
    isTarget ▸ isPlainImage_of_version official targetValid
  apply names_replaced_iff checked isOriginal isReplaced
  rw [String.toList_ofList, Text.universalNewlines_eq_self]
  apply Text.notMem_replaceFirst
  · rw [imageNeedle, String.toList_append]
    exact (isPlain_needle isPlain).2
  · exact Text.notMem_universalNewlines _

/-- A file that stays as it is names the target image if that is the running one. -/
theorem names_verified_iff
    (checked : preflight environment config request.targetVersion host = .ok found)
    (same : found.currentVersion = request.targetVersion) (keeps : next.files = host.files) :
    next.Names found.imageComposeFile found.targetImage ↔ HasPlace host found := by
  obtain ⟨repository, -, -, -, isCurrent, isTarget⟩ := images_of_preflight checked
  obtain ⟨original, isOriginal, once⟩ := (checked_of_preflight checked).once
  have isContent := (content_of_files keeps found.imageComposeFile).trans isOriginal
  apply names_replaced_iff checked isOriginal isContent
  obtain ⟨before, after, isFound⟩ := Text.exists_of_count once
  rw [replacedText, isTarget, ← same, ← isCurrent, Text.replaceFirst_of_splitFirst isFound,
    Text.append_of_splitFirst isFound]

private theorem sameFiles_of_files (keeps : next.files = host.files) : SameFiles config host next :=
  fun composeFile _ => content_of_files keeps composeFile

/-- Restored files are what they were exactly if they had no carriage returns. -/
theorem sameFiles_iff (present : ∀ composeFile ∈ config.composeFiles,
      (host.file? composeFile).isSome = true)
    (restored : ∀ composeFile ∈ config.composeFiles,
      next.content composeFile = (host.text composeFile).map String.ofList) :
    SameFiles config host next ↔ HasNoReturns config host := by
  refine forall₂_congr fun composeFile isComposeFile => ?_
  obtain ⟨file, isFile⟩ := Option.isSome_iff_exists.mp (present composeFile isComposeFile)
  have isContent : host.content composeFile = some file.content := by
    rw [Host.content, isFile]
    rfl
  rw [restored composeFile isComposeFile, Host.text, isContent]
  simp only [Option.map_some, Option.some_inj, forall_eq']
  rw [← Text.universalNewlines_eq_self, ← String.toList_inj, String.toList_ofList]

/-- A request whose checks fail is rejected. -/
theorem ensures_unchecked {failure : UpdateError}
    (unchecked : preflight environment config request.targetVersion host = .error failure) :
    Ensures (processRequest environment config request)
      (fun status next => environment.historyFails .rejected = none ∧ status = .rejected ∧
        next.files = host.files)
      (fun _ _ => environment.historyFails .rejected ≠ none) host := by
  rw [processRequest, ensures_bind, ensures_get]
  dsimp only
  rw [unchecked]
  dsimp only
  rw [reject, ensures_bind]
  apply ensures_appendHistory
  · intro appended next keeps
    rw [ensures_pure]
    exact ⟨appended, rfl, keeps⟩
  · exact fun _ _ failed _ => failed

/-- A request for the version that runs validates the container. -/
theorem ensures_verified
    (checked : preflight environment config request.targetVersion host = .ok found)
    (same : found.currentVersion = request.targetVersion) :
    Ensures (processRequest environment config request)
      (fun status next => next.files = host.files ∧
        ((status = .success ∧ Validated environment config request.targetVersion .verification ∧
            environment.historyFails .verified = none) ∨
          (status = .rejected ∧ ¬Validated environment config request.targetVersion .verification ∧
            environment.historyFails .unverified = none)))
      (fun _ _ =>
        (Validated environment config request.targetVersion .verification ∧
          environment.historyFails .verified ≠ none) ∨
        (¬Validated environment config request.targetVersion .verification ∧
          environment.historyFails .unverified ≠ none)) host := by
  rw [processRequest, ensures_bind, ensures_get]
  dsimp only
  rw [checked]
  dsimp only
  rw [if_pos same, verifyAlreadyApplied]
  cases result : validateRuntime environment config request.targetVersion .verification with
  | ok checks =>
      have validated := validated_iff.mp ⟨checks, result⟩
      dsimp only
      rw [ensures_bind]
      apply ensures_appendHistory
      · intro appended next keeps
        rw [ensures_pure]
        exact ⟨keeps, .inl ⟨rfl, validated, appended⟩⟩
      · exact fun _ _ failed _ => .inl ⟨validated, failed⟩
  | error failure =>
      have failed : ¬Validated environment config request.targetVersion .verification := by
        intro validated
        obtain ⟨checks, passed⟩ := validated_iff.mpr validated
        cases result.symm.trans passed
      dsimp only
      rw [ensures_bind]
      apply ensures_appendHistory
      · intro appended next keeps
        rw [ensures_pure]
        exact ⟨keeps, .inr ⟨rfl, failed, appended⟩⟩
      · exact fun _ _ failed' _ => .inr ⟨failed, failed'⟩

/-- The runner returns, and its status tells what is the case. -/
def ReportsTruthfully (environment : UpdateEnvironment) (config : RunnerConfig)
    (request : UpdateRequest) (host : Host) : Prop :=
  Ensures (processRequest environment config request) (Truthful environment config request host)
    (fun _ _ => False) host

private theorem reportsTruthfully_of_unchecked {failure : UpdateError}
    (unchecked : preflight environment config request.targetVersion host = .error failure) :
    ReportsTruthfully environment config request host ↔ environment.historyFails .rejected = none := by
  have ensured := ensures_unchecked unchecked
  constructor
  · intro truthful
    obtain ⟨status, next, returned, -⟩ := truthful.returns
    exact (ensured.of_ok returned).1
  · intro appended
    refine ensured.mono ?_ fun _ _ failed => failed appended
    rintro status next ⟨-, rfl, keeps⟩
    exact .rejected (sameFiles_of_files keeps)

private theorem reportsTruthfully_of_verified
    (checked : preflight environment config request.targetVersion host = .ok found)
    (same : found.currentVersion = request.targetVersion) :
    ReportsTruthfully environment config request host ↔
      (Validated environment config request.targetVersion .verification →
        environment.historyFails .verified = none ∧ HasPlace host found) ∧
      (¬Validated environment config request.targetVersion .verification →
        environment.historyFails .unverified = none) := by
  have ensured := ensures_verified checked same
  constructor
  · intro truthful
    obtain ⟨status, next, returned, told⟩ := truthful.returns
    obtain ⟨keeps, ⟨rfl, validated, appended⟩ | ⟨rfl, failed, appended⟩⟩ :=
      ensured.of_ok returned
    · refine ⟨fun _ => ⟨appended, ?_⟩, fun failed => absurd validated failed⟩
      cases told with
      | verified checked' _ names _ =>
          obtain rfl := Except.ok.inj (checked.symm.trans checked')
          exact (names_verified_iff checked same keeps).mp names
      | updated checked' differs _ _ =>
          obtain rfl := Except.ok.inj (checked.symm.trans checked')
          exact absurd same differs
    · exact ⟨fun validated => absurd validated failed, fun _ => appended⟩
  · rintro ⟨whenValid, whenInvalid⟩
    refine ensured.mono ?_ ?_
    · rintro status next ⟨keeps, ⟨rfl, validated, -⟩ | ⟨rfl, -, -⟩⟩
      · exact .verified checked same
          ((names_verified_iff checked same keeps).mpr (whenValid validated).2) validated
      · exact .rejected (sameFiles_of_files keeps)
    · rintro _ _ (⟨validated, failed⟩ | ⟨failed, failed'⟩)
      · exact failed (whenValid validated).1
      · exact failed' (whenInvalid failed)

private theorem reportsTruthfully_of_updated
    (checked : preflight environment config request.targetVersion host = .ok found)
    (differs : found.currentVersion ≠ request.targetVersion) :
    ReportsTruthfully environment config request host ↔
      ¬Unreported environment config request host ∧
      (SavesBackup environment config request host →
        UpdateWorks environment config request.targetVersion →
          IsNoted environment .update .success → HasPlace host found) ∧
      (SavesBackup environment config request host →
        ¬(UpdateWorks environment config request.targetVersion ∧
          IsNoted environment .update .success) →
            RollbackWorks environment config found.currentVersion →
              IsNoted environment .rollback .rollback → HasNoReturns config host) := by
  have ensured := ensures_processRequest checked differs
  have present := (checked_of_preflight checked).present
  constructor
  · intro truthful
    obtain ⟨status, next, returned, told⟩ := truthful.returns
    obtain ⟨reported, outcome⟩ := ensured.of_ok returned
    refine ⟨reported, ?_⟩
    cases outcome with
    | rejected unsaved _ =>
        exact ⟨fun saved => absurd saved unsaved, fun saved => absurd saved unsaved⟩
    | success saved works noted isReplaced =>
        refine ⟨fun _ _ _ => ?_, fun _ failed => absurd ⟨works, noted⟩ failed⟩
        obtain ⟨original, isOriginal, isReplaced⟩ := isReplaced
        cases told with
        | verified checked' same _ _ =>
            obtain rfl := Except.ok.inj (checked.symm.trans checked')
            exact absurd same differs
        | updated checked' _ names _ =>
            obtain rfl := Except.ok.inj (checked.symm.trans checked')
            exact (names_updated_iff checked isOriginal isReplaced).mp names
    | rolledBack saved failed works noted restored =>
        refine ⟨fun _ works noted => absurd ⟨works, noted⟩ failed, fun _ _ _ _ => ?_⟩
        cases told with
        | rolledBack _ same _ => exact (sameFiles_iff present restored).mp same
    | rollbackFailed saved failed failed' =>
        refine ⟨fun _ works noted => absurd ⟨works, noted⟩ failed, fun _ _ works noted => ?_⟩
        exact absurd ⟨works, noted.answers⟩ failed'
  · rintro ⟨reported, place, noReturns⟩
    refine ensured.mono ?_ fun _ _ unreported => reported unreported
    rintro status next ⟨-, outcome⟩
    cases outcome with
    | rejected _ same => exact .rejected same
    | success saved works noted isReplaced =>
        obtain ⟨original, isOriginal, isReplaced⟩ := isReplaced
        have names := (names_updated_iff checked isOriginal isReplaced).mpr
          (place saved works noted)
        exact .updated checked differs names works.validated
    | rolledBack saved failed works noted restored =>
        have same := (sameFiles_iff present restored).mpr (noReturns saved failed works noted)
        exact .rolledBack checked same works.validated
    | rollbackFailed _ _ _ => exact .rollbackFailed

/-- A request is reported, and truthfully, exactly if the entry of its end can be appended, the
compose file of a success gives place to the target image and the compose files of a rollback have
no carriage returns. -/
theorem reportsTruthfully_iff :
    ReportsTruthfully environment config request host ↔
      TellsTruth environment config request host := by
  cases result : preflight environment config request.targetVersion host with
  | error failure =>
      rw [reportsTruthfully_of_unchecked result]
      constructor
      · intro appended
        constructor
        · exact fun _ _ => appended
        · exact fun _ checked => nomatch result.symm.trans checked
        · exact fun _ checked => nomatch result.symm.trans checked
      · exact fun tells => tells.rejected failure result
  | ok found =>
      have only : ∀ other, preflight environment config request.targetVersion host = .ok other →
          found = other := fun other checked => Except.ok.inj (result.symm.trans checked)
      by_cases same : found.currentVersion = request.targetVersion
      · rw [reportsTruthfully_of_verified result same]
        constructor
        · intro holds
          constructor
          · exact fun _ failed => nomatch result.symm.trans failed
          · exact fun other checked _ => only other checked ▸ holds
          · exact fun other checked differs => absurd (only other checked ▸ same) differs
        · exact fun tells => tells.verified found result same
      · rw [reportsTruthfully_of_updated result same]
        constructor
        · intro holds
          constructor
          · exact fun _ failed => nomatch result.symm.trans failed
          · exact fun other checked same' => absurd (only other checked ▸ same') same
          · exact fun other checked _ => only other checked ▸ holds
        · exact fun tells => tells.updated found result same

end Reports

section Samples

/-- Docker does not pull the target image in time. -/
abbrev slowPullEnvironment : UpdateEnvironment :=
  updateEnvironment (.timeoutExpired "Command 'docker compose pull' timed out") silent

/-- A rollback tells of itself although it has changed the line ends of the compose file. -/
theorem rollback_changes_line_ends :
    ∃ next, processRequest slowPullEnvironment sampleConfig sampleRequest
        (sampleHost "services:\r\n  traefik:\r\n    image: traefik:v3.5.1\r\n") =
          .ok .rolledBack next ∧
      next.content ["srv", "compose.yml"] = some sampleCompose ∧
      ¬ReportsTruthfully slowPullEnvironment sampleConfig sampleRequest
        (sampleHost "services:\r\n  traefik:\r\n    image: traefik:v3.5.1\r\n") := by
  have checked : preflight slowPullEnvironment sampleConfig sampleRequest.targetVersion
      (sampleHost "services:\r\n  traefik:\r\n    image: traefik:v3.5.1\r\n") =
        .ok samplePreflight := answersChecks_update.preflight_eq (by decide)
  have fails : ¬UpdateWorks slowPullEnvironment sampleConfig sampleRequest.targetVersion := by
    intro works
    obtain ⟨output, pulled⟩ := works.applies.pulled
    cases pulled
  obtain ⟨next, returned⟩ := (reports_rolledBack_iff checked (by decide)).mpr
    ⟨reachesUpdate_sample, fun both => fails both.1, rollbackWorks_sample,
      isNoted_rollback_sample⟩
  have changed : next.content ["srv", "compose.yml"] = some sampleCompose := by
    cases ((ensures_processRequest checked (by decide)).of_ok returned).2 with
    | rolledBack _ _ _ _ restored =>
        rw [restored _ List.mem_cons_self]
        decide
  refine ⟨next, returned, changed, fun truthful => ?_⟩
  cases truthful.of_ok returned with
  | rolledBack _ same _ =>
      have isSame := changed.symm.trans (same _ List.mem_cons_self)
      exact absurd isSame (by decide)

end Samples

end TraefikManager.Update
