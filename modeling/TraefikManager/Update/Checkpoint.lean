import TraefikManager.Foundation.CommitPoint
import TraefikManager.Update.Outcome
import TraefikManager.UuidText

/-!
# The checkpoint of the last good configuration

A checkpoint is a directory with copies of the compose files and a manifest that names the
directory and tells the digest and the mode of each copy. The copies are made in a directory of
their own before the manifest is replaced, and other directories are removed after that.
-/

namespace TraefikManager.Update

open Foundation

section Data

/-- `CONFIG_HASH_PATTERN.fullmatch`. -/
def isConfigHash (text : String) : Bool :=
  text.toList.length = 64 ∧
    text.toList.all fun c => Text.isDigit c || decide ('a' ≤ c ∧ c ≤ 'f')

/-- `hashlib.sha256(content).hexdigest()`. -/
structure Sha256 where
  hexdigest : String → String
  isHash : ∀ content, isConfigHash (hexdigest content) = true

/-- A file in the manifest. -/
structure CheckpointFile where
  path : String
  sha256 : String
  mode : Nat
  deriving DecidableEq, Repr

/-- A checkpoint as it is loaded. -/
structure Checkpoint where
  checkpointId : Uuid
  configHash : String
  image : String
  version : String
  files : List CheckpointFile
  hashValid : isConfigHash configHash = true
  versionValid : versionFromImage image = .ok version

/-- The names of a resolved path. -/
def IsName (name : String) : Prop :=
  name ≠ "" ∧ '/' ∉ name.toList ∧ name ≠ "." ∧ name ≠ ".."

/-- The directory of the checkpoints in the state directory. -/
def checkpointsName : String := "traefik-safe-recreate-checkpoints"

/-- The configuration of the runner with its state directory. The compose files are resolved, and
not in the state directory. -/
structure CheckpointSite where
  config : RunnerConfig
  stateDir : Path
  sha256 : Sha256
  resolved : ∀ composeFile ∈ config.composeFiles, ∀ name ∈ composeFile, IsName name
  apart : ∀ composeFile ∈ config.composeFiles, ¬stateDir <+: composeFile

namespace CheckpointSite

variable (site : CheckpointSite)

/-- `_checkpoint_manifest_path`. -/
def manifestPath : Path := site.stateDir ++ ["traefik-safe-recreate-checkpoint.json"]

/-- `_checkpoint_root`. -/
def root : Path := site.stateDir ++ [checkpointsName]

/-- The directory of a checkpoint. -/
def directory (checkpointId : Uuid) : Path := site.root ++ [checkpointId.text]

end CheckpointSite

/-- `path.as_posix()` of a relative path. -/
def posix (names : Path) : String := Text.join "/" names

/-- The names of `Path(text)` for a relative path. -/
def parsePosix (text : String) : Path :=
  (Text.split '/' text).filter fun name => name ≠ "" ∧ name ≠ "."

/-- `_relative_compose_path`. -/
def relativeComposePath (config : RunnerConfig) (path : Path) : Except UpdateError Path :=
  if ¬config.composeDir.isPrefixOf path then
    .error (.valueError "Compose 파일은 Traefik 디렉터리 내부에 있어야 합니다")
  else
    let relative := path.drop config.composeDir.length
    if relative = [] ∨ ".." ∈ relative then
      .error (.valueError "Compose 파일 경로가 올바르지 않습니다")
    else .ok relative

def maxComposeBytes : Nat := 1024 * 1024

/-- `_read_compose_file`. -/
def readComposeFile (host : Host) (path : Path) : Except UpdateError File :=
  match host.file? path with
  | none => .error (missingFile path)
  | some file =>
      if maxComposeBytes < file.content.utf8ByteSize then
        .error (.valueError "체크포인트 대상 Compose 파일이 올바르지 않습니다")
      else .ok ⟨file.content, file.mode % 512⟩

end Data

section Loading

variable (site : CheckpointSite)

def maxCheckpointBytes : Nat := 16 * 1024

def invalidIdentity : UpdateError :=
  .valueError "Traefik 정상 체크포인트 식별 정보가 올바르지 않습니다"

def invalidFiles : UpdateError :=
  .valueError "Traefik 정상 체크포인트의 Compose 파일 목록이 올바르지 않습니다"

def invalidMetadata : UpdateError :=
  .valueError "Traefik 정상 체크포인트의 Compose 메타데이터가 올바르지 않습니다"

/-- A text of the manifest. -/
def manifestText (raw : List (String × Json)) (key : String) : Except UpdateError String :=
  match Json.get? raw key with
  | some (.string text) => .ok text
  | _ => .error invalidIdentity

/-- What identifies a checkpoint, with no file yet. -/
def readIdentity (raw : List (String × Json)) : Except UpdateError Checkpoint := do
  let idText ← manifestText raw "checkpoint_id"
  match Uuid.parse idText with
  | none => .error (.valueError "badly formed hexadecimal UUID string")
  | some checkpointId =>
      if checkpointId.text ≠ idText then .error invalidIdentity
      else do
        let configHash ← manifestText raw "config_hash"
        if hashValid : isConfigHash configHash = true then do
          let version ← manifestText raw "version"
          if ¬isVersion version then .error invalidIdentity
          else do
            let image ← manifestText raw "image"
            match versionFromImage image with
            | .error failure => .error failure
            | .ok _ =>
                if versionValid : versionFromImage image = .ok version then
                  .ok ⟨checkpointId, configHash, image, version, [], hashValid, versionValid⟩
                else .error invalidIdentity
        else .error invalidIdentity

/-- A mode as `isinstance(mode, int)` admits it. -/
def modeOf : Option Json → Option Int
  | some (.int mode) => some mode
  | some (.bool mode) => some (if mode then 1 else 0)
  | _ => none

/-- `entry.get("path")`, when it is a text. -/
def pathOf (entry : List (String × Json)) : Option String :=
  match Json.get? entry "path" with
  | some (.string path) => some path
  | _ => none

/-- `_validate_checkpoint_file`. -/
def validateCheckpointFile (host : Host) (checkpointDir : Path) (entry : List (String × Json)) :
    Except UpdateError CheckpointFile :=
  match pathOf entry, Json.get? entry "sha256", modeOf (Json.get? entry "mode") with
  | some path, some (.string digest), some mode =>
      if Text.startsWith "/" path ∨ ".." ∈ parsePosix path ∨ ¬isConfigHash digest ∨ mode < 0 ∨
          511 < mode then .error invalidMetadata
      else do
        let file ← readComposeFile host (checkpointDir ++ parsePosix path)
        if site.sha256.hexdigest file.content ≠ digest ∨ (file.mode : Int) ≠ mode then
          .error (.valueError "Traefik 정상 체크포인트의 Compose 파일이 변경되었습니다")
        else .ok ⟨path, digest, mode.toNat⟩
  | _, _, _ => .error invalidMetadata

/-- The fields of an object. -/
def objectFields : Json → Option (List (String × Json))
  | .object fields => some fields
  | _ => none

/-- The files of a manifest: those of the configuration, unchanged. -/
def readCheckpointFiles (host : Host) (checkpointDir : Path) (files : Option Json) :
    Except UpdateError (List CheckpointFile) := do
  let expected ← site.config.composeFiles.mapM (relativeComposePath site.config)
  match files with
  | some (.array items) =>
      match items.mapM objectFields with
      | none => .error invalidFiles
      | some entries =>
          if entries.map pathOf ≠ expected.map fun relative => some (posix relative) then
            .error invalidFiles
          else entries.mapM (validateCheckpointFile site host checkpointDir)
  | _ => .error invalidFiles

/-- The checkpoint of a manifest. -/
def readManifest (host : Host) (text : String) : Except UpdateError Checkpoint :=
  match Json.loads text with
  | none => .error (.valueError "Expecting value")
  | some (.object raw) =>
      if isSchemaOne (Json.get? raw "schema_version") then do
        let checkpoint ← readIdentity raw
        let files ← readCheckpointFiles site host
          (site.directory checkpoint.checkpointId ++ ["compose"]) (Json.get? raw "files")
        .ok { checkpoint with files }
      else .error (.valueError "지원하지 않는 Traefik 정상 체크포인트입니다")
  | some _ => .error (.valueError "지원하지 않는 Traefik 정상 체크포인트입니다")

/-- `load_runtime_checkpoint`. -/
def loadRuntimeCheckpoint (host : Host) : Except UpdateError (Option Checkpoint) :=
  match host.file? site.manifestPath with
  | none => .ok none
  | some manifest =>
      if maxCheckpointBytes < manifest.content.utf8ByteSize then
        .error (.valueError "Traefik 정상 체크포인트 파일이 올바르지 않습니다")
      else
        (readManifest site host
          (String.ofList (Text.universalNewlines manifest.content.toList))).map some

end Loading

section Saving

/-- A file operation. -/
inductive FileOp where
  | write (path : Path) (file : File)
  | remove (path : Path)
  deriving DecidableEq, Repr

def FileOp.apply (host : Host) : FileOp → Host
  | write path file => host.write path file
  | remove path => host.removeTree path

/-- How the host carries out a save: what a copy looks like while it is written, which files are
removed in which order, and which operation raises what. -/
structure SaveCourse where
  checkpointId : Uuid
  savedAt : Datetime
  pieces : Path → List File := fun _ => []
  removed : List Path := []
  failAt : Option (Nat × UpdateError) := none

/-- A save, with what it records of the container. -/
structure CheckpointSave extends SaveCourse where
  configHash : String
  image : String
  version : String
  hashValid : isConfigHash configHash = true
  versionValid : versionFromImage image = .ok version

variable (site : CheckpointSite) (save : CheckpointSave)

/-- The copies of the compose files, each read when its turn comes. -/
def copyComposeFiles (directory : Path) : List Path → Host →
    List FileOp × Except UpdateError (List CheckpointFile)
  | [], _ => ([], .ok [])
  | composeFile :: rest, host =>
      match relativeComposePath site.config composeFile, readComposeFile host composeFile with
      | .error failure, _ => ([], .error failure)
      | .ok _, .error failure => ([], .error failure)
      | .ok relative, .ok file =>
          let destination := directory ++ "compose" :: relative
          let copy := (save.pieces destination ++ [file]).map (FileOp.write destination)
          let (later, files) := copyComposeFiles directory rest (copy.foldl FileOp.apply host)
          (copy ++ later, files.map
            (⟨posix relative, site.sha256.hexdigest file.content, file.mode⟩ :: ·))

/-- An entry of the manifest. -/
def CheckpointFile.fields (file : CheckpointFile) : List (String × Json) :=
  [("path", .string file.path), ("sha256", .string file.sha256), ("mode", .int file.mode)]

/-- The manifest. -/
def CheckpointSave.manifest (files : List CheckpointFile) : List (String × Json) :=
  [("schema_version", .int 1), ("checkpoint_id", .string save.checkpointId.text),
    ("config_hash", .string save.configHash), ("image", .string save.image),
    ("version", .string save.version), ("saved_at", .string save.savedAt.isoformatZulu),
    ("files", .array (files.map fun file => .object file.fields))]

/-- The text of the manifest. -/
def CheckpointSave.text (files : List CheckpointFile) : String :=
  String.ofList ((Json.object (save.manifest files)).write ++ ['\n'])

/-- `atomic_write` of the manifest. -/
def commitManifest (files : List CheckpointFile) : FileOp :=
  .write site.manifestPath ⟨save.text files, 0o644⟩

/-- `shutil.rmtree(checkpoint_dir)` after a failure. -/
def cleanUp : List FileOp :=
  (save.removed.filter ((site.directory save.checkpointId).isPrefixOf ·)).map FileOp.remove

/-- A file in the directory of another checkpoint. -/
def isOutdated (path : Path) : Bool :=
  site.root.isPrefixOf path ∧ 1 < (path.drop site.root.length).length ∧
    (path.drop site.root.length).head? ≠ some save.checkpointId.text

/-- `_prune_old_checkpoints`. -/
def pruneOldCheckpoints : List FileOp := (save.removed.filter (isOutdated site save)).map FileOp.remove

/-- The file operations of `save_runtime_checkpoint` once its checks have passed, and its end. -/
def saveFiles (host : Host) : List FileOp × Except UpdateError (List CheckpointFile) :=
  let directory := site.directory save.checkpointId
  if host.holdsFile directory then ([], .error (.osError "File exists"))
  else
    let (copies, files) := copyComposeFiles site save directory site.config.composeFiles host
    match save.failAt.filter (·.1 ≤ copies.length), files with
    | some (reached, failure), _ => (copies.take reached ++ cleanUp site save, .error failure)
    | none, .error failure => (copies ++ cleanUp site save, .error failure)
    | none, .ok files =>
        (copies ++ commitManifest site save files :: pruneOldCheckpoints site save, .ok files)

/-- The host when `save_runtime_checkpoint` stops after some of its operations. -/
def savedUpTo (count : Nat) (host : Host) : Host :=
  cut FileOp.apply (saveFiles site save host).1 count host

end Saving

section Frames

variable {site : CheckpointSite} {save : CheckpointSave} {host next : Host} {directory : Path}

/-- The files of the checkpoints that were there are there still. -/
def Retains (site : CheckpointSite) (host next : Host) : Prop :=
  ∀ path file, site.root <+: path → host.file? path = some file → next.file? path = some file

/-- What is read of a file is read again when the file is left alone. -/
theorem readComposeFile_of_retains {path : Path} {file : File}
    (kept : ∀ file, host.file? path = some file → next.file? path = some file)
    (isRead : readComposeFile host path = .ok file) : readComposeFile next path = .ok file := by
  unfold readComposeFile at isRead ⊢
  cases isFile : host.file? path with
  | none =>
      rw [isFile] at isRead
      cases isRead
  | some original =>
      rw [isFile] at isRead
      rw [kept original isFile]
      exact isRead

private theorem validateCheckpointFile_of_retains (retains : Retains site host next)
    {checkpointDir : Path}
    (inRoot : site.root <+: checkpointDir) {entry : List (String × Json)} {file : CheckpointFile}
    (valid : validateCheckpointFile site host checkpointDir entry = .ok file) :
    validateCheckpointFile site next checkpointDir entry = .ok file := by
  unfold validateCheckpointFile at valid ⊢
  split at valid
  · split at valid
    · cases valid
    · rename_i fits
      rw [if_neg fits]
      obtain ⟨content, isRead, rest⟩ := bind_eq_ok.mp valid
      exact bind_eq_ok.mpr ⟨content, readComposeFile_of_retains (fun file => retains _ file
        (inRoot.trans (List.prefix_append _ _))) isRead, rest⟩
  · cases valid

private theorem mapM_of_imp {ε α β : Type} {f g : α → Except ε β} {items : List α}
    {results : List β} (done : items.mapM f = .ok results)
    (each : ∀ item ∈ items, ∀ result, f item = .ok result → g item = .ok result) :
    items.mapM g = .ok results := by
  induction items generalizing results with
  | nil => exact done
  | cons item items ih =>
      rw [List.mapM_cons] at done ⊢
      simp only [bind_eq_ok] at done ⊢
      obtain ⟨first, isFirst, rest, isRest, isResults⟩ := done
      exact ⟨first, each item List.mem_cons_self first isFirst, rest,
        ih isRest fun other listed => each other (List.mem_cons_of_mem item listed), isResults⟩

private theorem readCheckpointFiles_of_retains (retains : Retains site host next)
    {checkpointDir : Path}
    (inRoot : site.root <+: checkpointDir) {files : Option Json} {read : List CheckpointFile}
    (isRead : readCheckpointFiles site host checkpointDir files = .ok read) :
    readCheckpointFiles site next checkpointDir files = .ok read := by
  unfold readCheckpointFiles at isRead ⊢
  obtain ⟨expected, isExpected, rest⟩ := bind_eq_ok.mp isRead
  refine bind_eq_ok.mpr ⟨expected, isExpected, ?_⟩
  split at rest
  · split at rest
    · cases rest
    · split at rest
      · cases rest
      · rename_i listed
        rw [if_neg listed]
        exact mapM_of_imp rest fun entry _ file valid =>
          validateCheckpointFile_of_retains retains inRoot valid
  · cases rest

private theorem root_prefix_directory (site : CheckpointSite) (checkpointId : Uuid) :
    site.root <+: site.directory checkpointId ++ ["compose"] :=
  (List.prefix_append _ _).trans (List.prefix_append _ _)

/-- A checkpoint is loaded as before when its manifest and the files of checkpoints are left. -/
theorem load_of_retains (retains : Retains site host next)
    (manifest : next.file? site.manifestPath = host.file? site.manifestPath)
    {loaded : Option Checkpoint} (isLoaded : loadRuntimeCheckpoint site host = .ok loaded) :
    loadRuntimeCheckpoint site next = .ok loaded := by
  unfold loadRuntimeCheckpoint at isLoaded ⊢
  rw [manifest]
  split at isLoaded
  · exact isLoaded
  · split at isLoaded
    · cases isLoaded
    · rename_i small
      rw [if_neg small]
      obtain ⟨checkpoint, isRead, rfl⟩ := map_eq_ok.mp isLoaded
      refine map_eq_ok.mpr ⟨checkpoint, ?_, rfl⟩
      unfold readManifest at isRead ⊢
      split at isRead
      · cases isRead
      · split at isRead
        · rename_i schema
          rw [if_pos schema]
          obtain ⟨identity, isIdentity, rest⟩ := bind_eq_ok.mp isRead
          obtain ⟨files, isFiles, isCheckpoint⟩ := bind_eq_ok.mp rest
          exact bind_eq_ok.mpr ⟨identity, isIdentity, bind_eq_ok.mpr ⟨files,
            readCheckpointFiles_of_retains retains (root_prefix_directory site _) isFiles,
            isCheckpoint⟩⟩
        · cases isRead
      · cases isRead

private theorem not_root_prefix_manifest (site : CheckpointSite) :
    ¬site.root <+: site.manifestPath := by
  intro under
  have same := under.eq_of_length (by simp [CheckpointSite.root, CheckpointSite.manifestPath])
  have names := List.append_cancel_left same
  simp [checkpointsName] at names

/-- What was made in a new directory leaves the other checkpoints and the manifest alone. -/
theorem retains_of_same {checkpointId : Uuid}
    (same : SameOutside (site.directory checkpointId) host next)
    (fresh : host.holdsFile (site.directory checkpointId) = false) :
    Retains site host next ∧ next.file? site.manifestPath = host.file? site.manifestPath := by
  refine ⟨fun path file _ isFile => ?_, same _ fun under => ?_⟩
  · rw [same path (not_prefix_of_holdsFile fresh (by rw [isFile]; rfl))]
    exact isFile
  · exact not_root_prefix_manifest site ((List.prefix_append _ _).trans under)

end Frames

section Copies

variable {site : CheckpointSite} {save : CheckpointSave} {host next : Host} {directory : Path}

/-- The operation touches nothing outside a directory. -/
def FileOp.Within (directory : Path) : FileOp → Prop
  | write path _ => directory <+: path
  | remove path => directory <+: path

private theorem sameOutside_apply {op : FileOp} (within : op.Within directory)
    (same : SameOutside directory host next) : SameOutside directory host (op.apply next) := by
  intro path outside
  cases op with
  | write target file =>
      have differs : path ≠ target := fun isTarget => outside (isTarget ▸ within)
      rw [FileOp.apply, Host.file?_write, if_neg differs]
      exact same path outside
  | remove target =>
      have notUnder : ¬target.isPrefixOf path = true := fun under =>
        outside (within.trans (List.isPrefixOf_iff_prefix.mp under))
      rw [FileOp.apply, Host.file?_removeTree, if_neg notUnder]
      exact same path outside

private theorem sameOutside_foldl {ops : List FileOp} (within : ∀ op ∈ ops, op.Within directory)
    (same : SameOutside directory host next) :
    SameOutside directory host (ops.foldl FileOp.apply next) := by
  induction ops generalizing next with
  | nil => exact same
  | cons op ops ih =>
      exact ih (fun other later => within other (List.mem_cons_of_mem op later))
        (sameOutside_apply (within op List.mem_cons_self) same)

/-- A copy of a file ends with its content and mode, and leaves other files alone. -/
theorem file?_copy (pieces : List File) (destination path : Path) (file : File) :
    (((pieces ++ [file]).map (FileOp.write destination)).foldl FileOp.apply next).file? path =
      if path = destination then some file else next.file? path := by
  induction pieces generalizing next with
  | nil => exact Host.file?_write next destination path file
  | cons piece pieces ih =>
      refine ih.trans ?_
      rw [FileOp.apply, Host.file?_write]
      split <;> rfl

/-- What the checkpoint tells of a compose file. -/
def Copies (site : CheckpointSite) (directory : Path) (host next : Host) (composeFile : Path)
    (listed : CheckpointFile) : Prop :=
  ∃ relative file, relativeComposePath site.config composeFile = .ok relative ∧
    readComposeFile host composeFile = .ok file ∧
    next.file? (directory ++ "compose" :: relative) = some file ∧
    listed = ⟨posix relative, site.sha256.hexdigest file.content, file.mode⟩

/-- The operation writes the copy of a compose file. -/
def FileOp.IsCopy (site : CheckpointSite) (directory : Path) (composeFiles : List Path)
    (op : FileOp) : Prop :=
  ∃ composeFile ∈ composeFiles, ∃ relative file,
    relativeComposePath site.config composeFile = .ok relative ∧
      op = .write (directory ++ "compose" :: relative) file

theorem FileOp.IsCopy.within {composeFiles : List Path} {op : FileOp}
    (isCopy : op.IsCopy site directory composeFiles) : op.Within directory := by
  obtain ⟨_, _, relative, file, _, rfl⟩ := isCopy
  exact List.prefix_append _ _

/-- Different compose files have different names in a checkpoint. -/
theorem relativeComposePath_inj {config : RunnerConfig} {first second relative : Path}
    (isFirst : relativeComposePath config first = .ok relative)
    (isSecond : relativeComposePath config second = .ok relative) : first = second := by
  have whole : ∀ {path : Path}, relativeComposePath config path = .ok relative →
      path = config.composeDir ++ relative := by
    intro path isRelative
    unfold relativeComposePath at isRelative
    split at isRelative
    · cases isRelative
    · rename_i inside
      dsimp only at isRelative
      split at isRelative
      · cases isRelative
      · cases isRelative
        obtain ⟨rest, rfl⟩ := List.isPrefixOf_iff_prefix.mp (not_not.mp inside)
        rw [List.drop_left]
  rw [whole isFirst, whole isSecond]

/-- Copies of other compose files leave a copy alone. -/
theorem file?_foldl_of_notMem {composeFiles : List Path} {ops : List FileOp}
    (copies : ∀ op ∈ ops, op.IsCopy site directory composeFiles) {composeFile relative : Path}
    (isRelative : relativeComposePath site.config composeFile = .ok relative)
    (notListed : composeFile ∉ composeFiles) :
    (ops.foldl FileOp.apply next).file? (directory ++ "compose" :: relative) =
      next.file? (directory ++ "compose" :: relative) := by
  induction ops generalizing next with
  | nil => rfl
  | cons op ops ih =>
      refine (ih fun other later => copies other (List.mem_cons_of_mem op later)).trans ?_
      obtain ⟨other, listed, target, file, isTarget, rfl⟩ := copies op List.mem_cons_self
      rw [FileOp.apply, Host.file?_write, if_neg]
      intro same
      have names := (List.cons.inj (List.append_cancel_left same)).2
      exact notListed (relativeComposePath_inj isRelative (names ▸ isTarget) ▸ listed)

variable (site save) in
/-- What the copies of the compose files leave. -/
theorem copyComposeFiles_spec {composeFiles : List Path} (nodup : composeFiles.Nodup)
    (outside : ∀ composeFile ∈ composeFiles, ¬directory <+: composeFile)
    (same : SameOutside directory host next) :
    (∀ op ∈ (copyComposeFiles site save directory composeFiles next).1,
      op.IsCopy site directory composeFiles) ∧
    ∀ files, (copyComposeFiles site save directory composeFiles next).2 = .ok files →
      List.Forall₂ (Copies site directory host
        ((copyComposeFiles site save directory composeFiles next).1.foldl FileOp.apply next))
        composeFiles files := by
  induction composeFiles generalizing next with
  | nil =>
      refine ⟨nofun, ?_⟩
      rintro files ⟨⟩
      exact .nil
  | cons composeFile rest ih =>
      obtain ⟨notListed, restNodup⟩ := List.nodup_cons.mp nodup
      obtain ⟨hereOutside, restOutside⟩ := List.forall_mem_cons.mp outside
      unfold copyComposeFiles
      split
      · exact ⟨nofun, nofun⟩
      · exact ⟨nofun, nofun⟩
      · rename_i relative file isRelative isFile
        dsimp only
        have isCopy : ∀ op ∈ (save.pieces (directory ++ "compose" :: relative) ++ [file]).map
            (FileOp.write (directory ++ "compose" :: relative)),
              op.IsCopy site directory (composeFile :: rest) := by
          intro op listed
          obtain ⟨piece, -, rfl⟩ := List.mem_map.mp listed
          exact ⟨composeFile, List.mem_cons_self, relative, piece, isRelative, rfl⟩
        have copied := sameOutside_foldl (fun op listed => (isCopy op listed).within) same
        obtain ⟨laterCopies, later⟩ := ih restNodup restOutside copied
        refine ⟨?_, ?_⟩
        · intro op listed
          obtain inCopy | inLater := List.mem_append.mp listed
          · exact isCopy op inCopy
          · obtain ⟨other, inRest, isOther⟩ := laterCopies op inLater
            exact ⟨other, List.mem_cons_of_mem _ inRest, isOther⟩
        · intro files isFiles
          obtain ⟨restFiles, isRest, rfl⟩ := map_eq_ok.mp isFiles
          rw [List.foldl_append]
          refine .cons ⟨relative, file, isRelative, ?_, ?_, rfl⟩ (later restFiles isRest)
          · unfold readComposeFile at isFile ⊢
            rw [← same composeFile hereOutside]
            exact isFile
          · rw [file?_foldl_of_notMem laterCopies isRelative notListed, file?_copy, if_pos rfl]

/-- What a save does: nothing when the directory is there, work in a new directory that it removes
when it fails, or a manifest after all copies. -/
inductive Saves (site : CheckpointSite) (save : CheckpointSave) (host : Host) :
    List FileOp × Except UpdateError (List CheckpointFile) → Prop where
  | refused (failure : UpdateError) : Saves site save host ([], .error failure)
  | failed (fresh : host.holdsFile (site.directory save.checkpointId) = false) {ops : List FileOp}
      (within : ∀ op ∈ ops, op.Within (site.directory save.checkpointId)) (failure : UpdateError) :
      Saves site save host (ops, .error failure)
  | saved (fresh : host.holdsFile (site.directory save.checkpointId) = false) {ops : List FileOp}
      (within : ∀ op ∈ ops, op.Within (site.directory save.checkpointId))
      {files : List CheckpointFile}
      (copied : List.Forall₂ (Copies site (site.directory save.checkpointId) host
        (ops.foldl FileOp.apply host)) site.config.composeFiles files) :
      Saves site save host
        (ops ++ commitManifest site save files :: pruneOldCheckpoints site save, .ok files)

private theorem saves_saveFiles (site : CheckpointSite) (save : CheckpointSave) (host : Host) :
    Saves site save host (saveFiles site save host) := by
  unfold saveFiles
  dsimp only
  split
  · exact .refused _
  · rename_i isFresh
    have fresh := Bool.eq_false_iff.mpr isFresh
    have outside : ∀ composeFile ∈ site.config.composeFiles,
        ¬site.directory save.checkpointId <+: composeFile := fun composeFile listed under =>
      site.apart composeFile listed (((List.prefix_append _ _).trans (List.prefix_append _ _)).trans
        under)
    obtain ⟨isCopy, copied⟩ := copyComposeFiles_spec site save site.config.composeFilesNodup
      outside (fun _ _ => rfl : SameOutside _ host host)
    have cleans : ∀ op ∈ cleanUp site save, op.Within (site.directory save.checkpointId) := by
      intro op listed
      obtain ⟨path, isRemoved, rfl⟩ := List.mem_map.mp listed
      exact List.isPrefixOf_iff_prefix.mp (List.mem_filter.mp isRemoved).2
    split
    · refine .failed fresh (fun op listed => ?_) _
      obtain inCopies | inCleanUp := List.mem_append.mp listed
      · exact (isCopy op (List.mem_of_mem_take inCopies)).within
      · exact cleans op inCleanUp
    · refine .failed fresh (fun op listed => ?_) _
      obtain inCopies | inCleanUp := List.mem_append.mp listed
      · exact (isCopy op inCopies).within
      · exact cleans op inCleanUp
    · rename_i made _ isMade
      exact .saved fresh (fun op listed => (isCopy op listed).within) (copied made isMade)

end Copies

section RoundTrip

variable {site : CheckpointSite} {save : CheckpointSave} {host next : Host} {directory : Path}

private theorem parsePosix_posix {names : Path} (nonempty : names ≠ [])
    (resolved : ∀ name ∈ names, IsName name) : parsePosix (posix names) = names := by
  have parts : Text.split '/' (posix names) = names := by
    have whole : (['/'].intercalate (names.map String.toList)).splitOn '/' =
        names.map String.toList := by
      apply List.splitOn_intercalate
      · intro part listed
        obtain ⟨name, isName, rfl⟩ := List.mem_map.mp listed
        exact (resolved name isName).2.1
      · simpa using nonempty
    show ((String.ofList (['/'].intercalate (names.map String.toList))).toList.splitOn '/').map
      String.ofList = names
    rw [String.toList_ofList, whole, List.map_map]
    simp [Function.comp_def]
  rw [parsePosix, parts, List.filter_eq_self]
  intro name listed
  simp [(resolved name listed).1, (resolved name listed).2.2.1]

/-- The text of a relative path is not the one of an absolute path. -/
theorem startsWith_posix {names : Path} (resolved : ∀ name ∈ names, IsName name) :
    Text.startsWith "/" (posix names) = false := by
  cases names with
  | nil => rfl
  | cons name rest =>
      obtain ⟨nonempty, noSlash, -⟩ := resolved name List.mem_cons_self
      cases isChars : name.toList with
      | nil => exact absurd (String.toList_eq_nil_iff.mp isChars) nonempty
      | cons c chars =>
          have differs : '/' ≠ c := by
            rintro rfl
            rw [isChars] at noSlash
            exact noSlash List.mem_cons_self
          have start : ∃ later, (posix (name :: rest)).toList = c :: later := by
            rw [posix, Text.join, String.toList_ofList, List.map_cons, isChars]
            cases rest with
            | nil => exact ⟨chars, by simp⟩
            | cons next rest => exact ⟨_, by rw [List.map_cons, List.intercalate_cons_cons]; rfl⟩
          obtain ⟨later, isPosix⟩ := start
          show (['/'].isPrefixOf (posix (name :: rest)).toList) = false
          rw [isPosix]
          simp [List.isPrefixOf, differs]

private theorem relative_of_ok {config : RunnerConfig} {composeFile relative : Path}
    (isRelative : relativeComposePath config composeFile = .ok relative) :
    relative ≠ [] ∧ ".." ∉ relative ∧ relative ⊆ composeFile := by
  unfold relativeComposePath at isRelative
  split at isRelative
  · cases isRelative
  · dsimp only at isRelative
    split at isRelative
    · cases isRelative
    · rename_i fits
      cases isRelative
      rw [not_or] at fits
      exact ⟨fits.1, fits.2, List.drop_subset _ _⟩

/-- A copy is read as the file that was copied. -/
theorem readComposeFile_copy {composeFile copy : Path} {file : File}
    (isFile : readComposeFile host composeFile = .ok file) (isCopy : next.file? copy = some file) :
    readComposeFile next copy = .ok file ∧ file.mode < 512 := by
  unfold readComposeFile at isFile ⊢
  split at isFile
  · cases isFile
  · rename_i original _
    split at isFile
    · cases isFile
    · rename_i small
      cases isFile
      have limited : original.mode % 512 < 512 := Nat.mod_lt _ (by decide)
      rw [isCopy]
      dsimp only
      rw [if_neg small, Nat.mod_eq_of_lt limited]
      exact ⟨rfl, limited⟩

private theorem validateCheckpointFile_copy {composeFile : Path} {listed : CheckpointFile}
    (isListed : composeFile ∈ site.config.composeFiles)
    (copies : Copies site directory host next composeFile listed) :
    validateCheckpointFile site next (directory ++ ["compose"]) listed.fields = .ok listed := by
  obtain ⟨relative, file, isRelative, isFile, isCopy, rfl⟩ := copies
  obtain ⟨nonempty, noParent, subset⟩ := relative_of_ok isRelative
  have resolved : ∀ name ∈ relative, IsName name := fun name inRelative =>
    site.resolved composeFile isListed name (subset inRelative)
  obtain ⟨isRead, limited⟩ := readComposeFile_copy isFile isCopy
  have isPath : parsePosix (posix relative) = relative := parsePosix_posix nonempty resolved
  have isDigest := site.sha256.isHash file.content
  have located : directory ++ ["compose"] ++ relative = directory ++ "compose" :: relative := by
    rw [List.append_assoc]
    rfl
  have path : pathOf (CheckpointFile.fields
      ⟨posix relative, site.sha256.hexdigest file.content, file.mode⟩) = some (posix relative) := by
    simp [pathOf, CheckpointFile.fields, Json.get?]
  have digest : Json.get? (CheckpointFile.fields
      ⟨posix relative, site.sha256.hexdigest file.content, file.mode⟩) "sha256" =
        some (.string (site.sha256.hexdigest file.content)) := by
    simp [CheckpointFile.fields, Json.get?]
  have mode : modeOf (Json.get? (CheckpointFile.fields
      ⟨posix relative, site.sha256.hexdigest file.content, file.mode⟩) "mode") =
        some (file.mode : Int) := by
    simp [CheckpointFile.fields, Json.get?, modeOf]
  have fits : ¬(Text.startsWith "/" (posix relative) = true ∨ ".." ∈ parsePosix (posix relative) ∨
      ¬isConfigHash (site.sha256.hexdigest file.content) = true ∨ (file.mode : Int) < 0 ∨
        511 < (file.mode : Int)) := by
    rw [startsWith_posix resolved, isPath]
    rintro (isAbsolute | parent | noHash | negative | large)
    · cases isAbsolute
    · exact noParent parent
    · exact noHash isDigest
    · omega
    · omega
  unfold validateCheckpointFile
  rw [path, digest, mode]
  dsimp only
  rw [if_neg fits, isPath, located]
  exact bind_eq_ok.mpr ⟨file, isRead, by simp⟩

private theorem mapM_objectFields (files : List CheckpointFile) :
    (files.map fun file => Json.object file.fields).mapM objectFields =
      some (files.map CheckpointFile.fields) := by
  induction files with
  | nil => rfl
  | cons file files ih =>
      rw [List.map_cons, List.mapM_cons, ih]
      rfl

/-- The copies of all compose files are the files of a checkpoint. -/
theorem readCheckpointFiles_copies {files : List CheckpointFile}
    (copies : List.Forall₂ (Copies site directory host next) site.config.composeFiles files) :
    readCheckpointFiles site next (directory ++ ["compose"])
      (some (.array (files.map fun file => .object file.fields))) = .ok files := by
  have listed : ∀ composeFiles ⊆ site.config.composeFiles, ∀ files,
      List.Forall₂ (Copies site directory host next) composeFiles files →
        ∃ expected, composeFiles.mapM (relativeComposePath site.config) = .ok expected ∧
          (files.map CheckpointFile.fields).map pathOf =
            expected.map (fun relative => some (posix relative)) ∧
          (files.map CheckpointFile.fields).mapM
            (validateCheckpointFile site next (directory ++ ["compose"])) = .ok files := by
    intro composeFiles subset files copies
    induction copies with
    | nil => exact ⟨[], rfl, rfl, rfl⟩
    | cons isCopy _ ih =>
        rename_i composeFile file rest files _
        rw [List.cons_subset] at subset
        obtain ⟨expected, isExpected, paths, valid⟩ := ih subset.2
        have isValid := validateCheckpointFile_copy subset.1 isCopy
        obtain ⟨relative, content, isRelative, -, -, rfl⟩ := isCopy
        refine ⟨relative :: expected, ?_, ?_, ?_⟩
        · rw [List.mapM_cons]
          exact bind_eq_ok.mpr ⟨relative, isRelative, bind_eq_ok.mpr ⟨_, isExpected, rfl⟩⟩
        · rw [List.map_cons, List.map_cons, List.map_cons, paths]
          simp [pathOf, CheckpointFile.fields, Json.get?]
        · rw [List.map_cons, List.mapM_cons]
          exact bind_eq_ok.mpr ⟨_, isValid, bind_eq_ok.mpr ⟨_, valid, rfl⟩⟩
  obtain ⟨expected, isExpected, paths, valid⟩ := listed _ (List.Subset.refl _) files copies
  unfold readCheckpointFiles
  refine bind_eq_ok.mpr ⟨expected, isExpected, ?_⟩
  dsimp only
  rw [mapM_objectFields]
  dsimp only
  rw [if_neg (not_not.mpr paths)]
  exact valid

/-- The checkpoint that is saved. -/
def CheckpointSave.checkpoint (save : CheckpointSave) (files : List CheckpointFile) : Checkpoint :=
  ⟨save.checkpointId, save.configHash, save.image, save.version, files, save.hashValid,
    save.versionValid⟩

variable (save) in
private theorem get?_manifest (files : List CheckpointFile) :
    Json.get? (save.manifest files) "schema_version" = some (.int 1) ∧
      Json.get? (save.manifest files) "checkpoint_id" = some (.string save.checkpointId.text) ∧
      Json.get? (save.manifest files) "config_hash" = some (.string save.configHash) ∧
      Json.get? (save.manifest files) "image" = some (.string save.image) ∧
      Json.get? (save.manifest files) "version" = some (.string save.version) ∧
      Json.get? (save.manifest files) "files" =
        some (.array (files.map fun file => .object file.fields)) := by
  simp [Json.get?, CheckpointSave.manifest]

private theorem isVersion_of_versionFromImage {image version : String}
    (isVersionOf : versionFromImage image = .ok version) : isVersion version = true := by
  unfold versionFromImage at isVersionOf
  split at isVersionOf
  · cases isVersionOf
  · split at isVersionOf
    · rename_i valid
      cases isVersionOf
      exact valid
    · cases isVersionOf

private theorem readIdentity_manifest (files : List CheckpointFile) :
    readIdentity (save.manifest files) = .ok (save.checkpoint []) := by
  obtain ⟨-, checkpointId, configHash, image, version, -⟩ := get?_manifest save files
  have texts : manifestText (save.manifest files) "checkpoint_id" = .ok save.checkpointId.text ∧
      manifestText (save.manifest files) "config_hash" = .ok save.configHash ∧
      manifestText (save.manifest files) "image" = .ok save.image ∧
      manifestText (save.manifest files) "version" = .ok save.version := by
    simp only [manifestText, checkpointId, configHash, image, version, and_self]
  unfold readIdentity
  refine bind_eq_ok.mpr ⟨_, texts.1, ?_⟩
  rw [Uuid.parse_text]
  dsimp only
  rw [if_neg (not_not.mpr rfl)]
  refine bind_eq_ok.mpr ⟨_, texts.2.1, ?_⟩
  rw [dif_pos save.hashValid]
  refine bind_eq_ok.mpr ⟨_, texts.2.2.2, ?_⟩
  rw [if_neg (not_not.mpr (isVersion_of_versionFromImage save.versionValid))]
  refine bind_eq_ok.mpr ⟨_, texts.2.2.1, ?_⟩
  rw [dif_pos save.versionValid]
  split
  · rename_i failure failed
    rw [save.versionValid] at failed
    cases failed
  · rfl

private theorem exact_manifest (files : List CheckpointFile) :
    (Json.object (save.manifest files)).Exact := by
  apply Json.Exact.object
  intro field listed
  simp only [CheckpointSave.manifest, List.mem_cons, List.not_mem_nil, or_false] at listed
  obtain rfl | rfl | rfl | rfl | rfl | rfl | rfl := listed
  · exact .int 1
  all_goals first | exact .string _ | skip
  apply Json.Exact.array
  intro item listed
  obtain ⟨file, -, rfl⟩ := List.mem_map.mp listed
  apply Json.Exact.object
  intro field isField
  simp only [CheckpointFile.fields, List.mem_cons, List.not_mem_nil, or_false] at isField
  obtain rfl | rfl | rfl := isField
  · exact .string _
  · exact .string _
  · exact .int _

private theorem loads_text (files : List CheckpointFile) :
    Json.loads (String.ofList (Text.universalNewlines (save.text files).toList)) =
      some (.object (save.manifest files)) := by
  have noReturn : '\r' ∉ (save.text files).toList := by
    rw [CheckpointSave.text, String.toList_ofList, List.mem_append]
    rintro (inManifest | inEnd)
    · exact absurd (Json.printable_write (exact_manifest files) _ inManifest) (by decide)
    · simp at inEnd
  rw [Text.universalNewlines_eq_self.mpr noReturn, CheckpointSave.text, String.toList_ofList]
  exact Json.loads_write_append (exact_manifest files) (by decide)

end RoundTrip

section Runs

/-- A save, interrupted after some of its operations, or anything that leaves the manifest and the
directory of the checkpoints alone. -/
inductive CheckpointEvent (site : CheckpointSite) where
  | save (save : CheckpointSave) (count : Nat)
  | other (change : Host → Host)
      (apart : ∀ host path, path = site.manifestPath ∨ site.root <+: path →
        (change host).file? path = host.file? path)

variable {site : CheckpointSite}

def CheckpointEvent.apply (host : Host) : CheckpointEvent site → Host
  | save made count => savedUpTo site made count host
  | other change _ => change host

/-- The host after some events. -/
def afterEvents (events : List (CheckpointEvent site)) (host : Host) : Host :=
  events.foldl CheckpointEvent.apply host

/-- A checkpoint stands: the manifest names it and the copies are those of the compose files when
it was saved. -/
structure Saved (site : CheckpointSite) (save : CheckpointSave) (files : List CheckpointFile)
    (start host : Host) : Prop where
  copies : List.Forall₂ (Copies site (site.directory save.checkpointId) start host)
    site.config.composeFiles files
  manifest : host.file? site.manifestPath = some ⟨save.text files, 0o644⟩

variable {save : CheckpointSave} {origin start host next : Host} {files : List CheckpointFile}
  {previous : Option Checkpoint} {events : List (CheckpointEvent site)}

/-- A checkpoint that stands is loaded, unless its manifest is too long. -/
theorem Saved.load (saved : Saved site save files start host) :
    loadRuntimeCheckpoint site host =
      if maxCheckpointBytes < (save.text files).utf8ByteSize then
        .error (.valueError "Traefik 정상 체크포인트 파일이 올바르지 않습니다")
      else .ok (some (save.checkpoint files)) := by
  obtain ⟨schema, -, -, -, -, listed⟩ := get?_manifest save files
  unfold loadRuntimeCheckpoint
  rw [saved.manifest]
  dsimp only
  split
  · rfl
  · refine map_eq_ok.mpr ⟨save.checkpoint files, ?_, rfl⟩
    unfold readManifest
    rw [loads_text]
    dsimp only
    rw [schema, if_pos (by rfl)]
    refine bind_eq_ok.mpr ⟨_, readIdentity_manifest files, bind_eq_ok.mpr ⟨files, ?_, rfl⟩⟩
    rw [listed]
    exact readCheckpointFiles_copies saved.copies

private theorem Copies.of_kept {directory composeFile : Path} {listed : CheckpointFile}
    (kept : ∀ relative file, host.file? (directory ++ "compose" :: relative) = some file →
      next.file? (directory ++ "compose" :: relative) = some file)
    (copies : Copies site directory start host composeFile listed) :
    Copies site directory start next composeFile listed := by
  obtain ⟨relative, file, isRelative, isFile, isCopy, isListed⟩ := copies
  exact ⟨relative, file, isRelative, isFile, kept relative file isCopy, isListed⟩

private theorem Saved.of_kept (saved : Saved site save files start host)
    (kept : ∀ path file, site.directory save.checkpointId <+: path →
      host.file? path = some file → next.file? path = some file)
    (manifest : next.file? site.manifestPath = host.file? site.manifestPath) :
    Saved site save files start next := by
  refine ⟨saved.copies.imp fun _ _ => Copies.of_kept fun relative file isFile => ?_, ?_⟩
  · exact kept _ file (List.prefix_append _ _) isFile
  · rw [manifest, saved.manifest]

/-- What a load finds after some events: what it found before them, or the checkpoint of a save. -/
def Standing (previous : Option Checkpoint) (origin : Host) (events : List (CheckpointEvent site))
    (host : Host) : Prop :=
  loadRuntimeCheckpoint site host = .ok previous ∨
    ∃ before save count after files, events = before ++ .save save count :: after ∧
      Saved site save files (afterEvents before origin) host

private theorem Standing.of_retains (standing : Standing previous origin events host)
    (retains : Retains site host next)
    (manifest : next.file? site.manifestPath = host.file? site.manifestPath)
    (event : CheckpointEvent site) : Standing previous origin (events ++ [event]) next := by
  obtain isLoaded | ⟨before, save, count, after, files, rfl, saved⟩ := standing
  · exact .inl (load_of_retains retains manifest isLoaded)
  · refine .inr ⟨before, save, count, after ++ [event], files, ?_, saved.of_kept ?_ manifest⟩
    · rw [List.append_assoc, List.cons_append]
    · exact fun path file under => retains path file ((List.prefix_append _ _).trans under)

/-- A file of another checkpoint is removed: the checkpoint that was saved still stands. -/
theorem Saved.remove_outdated (saved : Saved site save files start host) {path : Path}
    (outdated : isOutdated site save path = true) :
    Saved site save files start (host.removeTree path) := by
  simp only [isOutdated, Bool.decide_and, Bool.and_eq_true, decide_eq_true_eq] at outdated
  obtain ⟨inRoot, isDeep, isOther⟩ := outdated
  obtain ⟨names, rfl⟩ := List.isPrefixOf_iff_prefix.mp inRoot
  rw [List.drop_left] at isDeep isOther
  apply saved.of_kept
  · rintro other file ⟨rest, rfl⟩ isFile
    rw [Host.file?_removeTree, if_neg, isFile]
    intro under
    rw [List.isPrefixOf_iff_prefix, CheckpointSite.directory, List.append_assoc,
      List.prefix_append_right_inj] at under
    cases names with
    | nil => cases isDeep
    | cons name names =>
        rw [List.singleton_append, List.cons_prefix_cons] at under
        exact isOther (congrArg some under.1)
  · rw [Host.file?_removeTree, if_neg]
    intro under
    exact not_root_prefix_manifest site
      ((List.prefix_append _ _).trans (List.isPrefixOf_iff_prefix.mp under))

private theorem pruneOldCheckpoints_keeps : ∀ op ∈ pruneOldCheckpoints site save, ∀ state,
    Saved site save files start state → Saved site save files start (op.apply state) := by
  intro op listed state saved
  obtain ⟨path, isRemoved, rfl⟩ := List.mem_map.mp listed
  exact saved.remove_outdated (List.mem_filter.mp isRemoved).2

private theorem commitManifest_saved
    (copies : List.Forall₂ (Copies site (site.directory save.checkpointId) start host)
      site.config.composeFiles files) :
    Saved site save files start ((commitManifest site save files).apply host) := by
  refine ⟨copies.imp fun _ _ => Copies.of_kept fun relative file isFile => ?_, ?_⟩
  · rw [commitManifest, FileOp.apply, Host.file?_write, if_neg, isFile]
    intro same
    refine not_root_prefix_manifest site (same ▸ ?_)
    exact (List.prefix_append _ _).trans (List.prefix_append _ _)
  · rw [commitManifest, FileOp.apply, Host.file?_write, if_pos rfl]

/-- One save, wherever it stops. -/
theorem Standing.of_save (standing : Standing previous origin events (afterEvents events origin))
    (save : CheckpointSave) (count : Nat) :
    Standing previous origin (events ++ [.save save count])
      (savedUpTo site save count (afterEvents events origin)) := by
  generalize isHost : afterEvents events origin = host at standing
  have prepares : host.holdsFile (site.directory save.checkpointId) = false → ∀ ops,
      (∀ op ∈ ops, op.Within (site.directory save.checkpointId)) →
        Standing previous origin (events ++ [.save save count])
          (cut FileOp.apply ops count host) := by
    intro fresh ops within
    have same : SameOutside (site.directory save.checkpointId) host
        (cut FileOp.apply ops count host) :=
      cut_keeps (fun _ _ => rfl) fun op listed state same => sameOutside_apply (within op listed) same
    obtain ⟨retains, manifest⟩ := retains_of_same same fresh
    exact standing.of_retains retains manifest _
  have saves := saves_saveFiles site save host
  unfold savedUpTo
  generalize saveFiles site save host = done at saves
  cases saves with
  | refused failure =>
      rw [cut, List.take_nil]
      exact standing.of_retains (fun _ _ _ isFile => isFile) rfl _
  | failed fresh within failure => exact prepares fresh _ within
  | saved fresh within copied =>
      rename_i ops files
      have atomic := @commit_atomic _ _ FileOp.apply ops (pruneOldCheckpoints site save)
        (commitManifest site save files) host count
        (SameOutside (site.directory save.checkpointId) host) (Saved site save files host)
        (fun _ _ => rfl) (fun op listed state same => sameOutside_apply (within op listed) same)
        (commitManifest_saved copied) pruneOldCheckpoints_keeps
      obtain before | saved := atomic
      · obtain ⟨retains, manifest⟩ := retains_of_same before fresh
        exact standing.of_retains retains manifest _
      · exact .inr ⟨events, save, count, [], files, rfl, isHost ▸ saved⟩

theorem Standing.run (isLoaded : loadRuntimeCheckpoint site origin = .ok previous)
    (events : List (CheckpointEvent site)) :
    Standing previous origin events (afterEvents events origin) := by
  induction events using List.reverseRecOn with
  | nil => exact .inl isLoaded
  | append_singleton events event ih =>
      rw [show afterEvents (events ++ [event]) origin = event.apply (afterEvents events origin) from
        List.foldl_append]
      cases event with
      | save made count => exact ih.of_save made count
      | other change apart =>
          refine ih.of_retains (fun path file under isFile => ?_) (apart _ _ (.inl rfl)) _
          exact (apart _ path (.inr under)).trans isFile

/-- **The last good configuration is kept.** In every run of saves, each interrupted anywhere, and
of changes of other files, the checkpoint that is loaded is the one from before the run or that of
one of the saves, complete with copies of the compose files as they were then; only a manifest that
is too long is refused. -/
theorem checkpoint_kept (events : List (CheckpointEvent site))
    (isLoaded : loadRuntimeCheckpoint site origin = .ok previous) :
    loadRuntimeCheckpoint site (afterEvents events origin) = .ok previous ∨
      ∃ before save count after files, events = before ++ .save save count :: after ∧
        List.Forall₂ (Copies site (site.directory save.checkpointId) (afterEvents before origin)
          (afterEvents events origin)) site.config.composeFiles files ∧
        loadRuntimeCheckpoint site (afterEvents events origin) =
          if maxCheckpointBytes < (save.text files).utf8ByteSize then
            .error (.valueError "Traefik 정상 체크포인트 파일이 올바르지 않습니다")
          else .ok (some (save.checkpoint files)) := by
  obtain kept | ⟨before, save, count, after, files, isRun, saved⟩ := Standing.run isLoaded events
  · exact .inl kept
  · exact .inr ⟨before, save, count, after, files, isRun, saved.copies, saved.load⟩

end Runs

section Samples

/-- One compose file in `/srv/traefik`, with the digest of its only content. -/
def sampleSite : CheckpointSite where
  config :=
    { composeDir := ["srv", "traefik"]
      composeFiles := [["srv", "traefik", "compose.yml"]]
      acmeFile := ["srv", "traefik", "acme.json"]
      service := "traefik"
      network := "proxy"
      managerHealthUrl := ""
      serviceValid := Eq.refl true
      networkValid := Eq.refl true
      composeFilesNodup := by decide }
  stateDir := ["var", "lib", "runner"]
  sha256 :=
    { hexdigest := fun _ => "4ff9d0ac6eb987a51f70baf655123efdceedd3d40093a76fc4ee1db1d7a1ffba"
      isHash := fun _ => by decide }
  resolved := by simp [IsName]
  apart := by simp

/-- The save of the running configuration. -/
def sampleSave : CheckpointSave where
  checkpointId := ⟨1⟩
  configHash := "4ff9d0ac6eb987a51f70baf655123efdceedd3d40093a76fc4ee1db1d7a1ffba"
  image := "traefik:v3.1.0"
  version := "v3.1.0"
  savedAt := .utc 0
  hashValid := by decide
  versionValid := by decide

def sampleCheckpointHost : Host where
  files := [(["srv", "traefik", "compose.yml"],
    ⟨"services:\n  traefik:\n    image: traefik:v3.1.0\n", 0o644⟩)]

def sampleFiles : List CheckpointFile :=
  [⟨"compose.yml", "4ff9d0ac6eb987a51f70baf655123efdceedd3d40093a76fc4ee1db1d7a1ffba", 0o644⟩]

/-- The host with a checkpoint. -/
def savedHost : Host := savedUpTo sampleSite sampleSave 2 sampleCheckpointHost

private theorem load_savedHost : loadRuntimeCheckpoint sampleSite savedHost =
    .ok (some (sampleSave.checkpoint sampleFiles)) := by
  have saved : Saved sampleSite sampleSave sampleFiles sampleCheckpointHost savedHost :=
    ⟨.cons ⟨["compose.yml"], ⟨_, 0o644⟩, rfl, rfl, rfl, rfl⟩ .nil, rfl⟩
  rw [saved.load, if_neg (by decide +kernel)]

/-- A later save, whose copy is written in two pieces. -/
def nextSave : CheckpointSave :=
  { sampleSave with
    checkpointId := ⟨2⟩
    image := "traefik:v3.1.1"
    version := "v3.1.1"
    versionValid := by decide
    pieces := fun _ => [⟨"services:\n", 0o600⟩] }

/-- A new version is written to the compose file, and the save of it is interrupted in its copy. -/
def interruptedEvents : List (CheckpointEvent sampleSite) :=
  [.other
    (·.write ["srv", "traefik", "compose.yml"]
      ⟨"services:\n  traefik:\n    image: traefik:v3.1.1\n", 0o644⟩)
    (by
      intro host path isOwn
      rw [Host.file?_write, if_neg]
      rintro rfl
      exact absurd isOwn (by decide)),
    .save nextSave 1]

theorem checkpoint_kept_sample :
    loadRuntimeCheckpoint sampleSite (afterEvents interruptedEvents savedHost) =
      .ok (some (sampleSave.checkpoint sampleFiles)) := by
  obtain kept | ⟨before, save, count, after, files, isRun, copies, -⟩ :=
    checkpoint_kept interruptedEvents load_savedHost
  · exact kept
  -- What the interrupted save left of its copy is not the compose file.
  · obtain ⟨listed, rest, ⟨relative, file, isRelative, isRead, isCopy, -⟩, -⟩ :=
      List.forall₂_cons_left_iff.mp copies
    obtain _ | ⟨edit, _ | ⟨other, before⟩⟩ := before
    · cases isRun
    · cases isRun
      cases isRelative
      cases isRead
      exact absurd isCopy (by decide +kernel)
    · simp [interruptedEvents] at isRun

end Samples

end TraefikManager.Update
