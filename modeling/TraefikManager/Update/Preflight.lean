import TraefikManager.Update.Storage

/-!
# Before an update

What the runner checks before it changes anything, the backup it takes, and the image it
puts into the compose file.
-/

namespace TraefikManager.Update

open Foundation

variable (environment : UpdateEnvironment) (config : RunnerConfig)

section Reading

/-- What opening a missing file raises. -/
def missingFile (path : Path) : UpdateError :=
  .osError ("[Errno 2] No such file or directory: '" ++ pathText path ++ "'")

/-- `path.read_text(encoding="utf-8")`. -/
def readText (step : Step) (path : Path) (host : Host) : Except UpdateError (List Char) := do
  reached environment step
  match host.content path with
  | none => .error (missingFile path)
  | some content => .ok (Text.universalNewlines content.toList)

/-- `f"image: {image}"`. -/
def imageNeedle (image : String) : List Char := ("image: " ++ image).toList

/-- `_find_image_compose_file`. -/
def findImageComposeFile (currentImage : String) (host : Host) : Except UpdateError Path := do
  let counts ← config.composeFiles.zipIdx.mapM fun (composeFile, index) => do
    let text ← readText environment (.readComposeFile index) composeFile host
    return (composeFile, Text.count (imageNeedle currentImage) text)
  match (counts.map (·.2)).sum, counts.find? (·.2 ≠ 0) with
  | 1, some (composeFile, _) => .ok composeFile
  | _, _ => .error (.rejected "Compose의 현재 Traefik 이미지 태그를 정확히 한 곳에서 찾지 못했습니다")

end Reading

section Checks

/-- The names under which the official image is updated. -/
def officialRepositories : List String :=
  ["traefik", "docker.io/library/traefik", "registry-1.docker.io/library/traefik"]

/-- The files of the configuration, as `_preflight` wants them. -/
def checkFiles (host : Host) : Except UpdateError PUnit := do
  reached environment .checkFiles
  if config.composeFiles = [] ∨ config.composeFiles.any (fun path => (host.file? path).isNone) ∨
      (host.file? config.acmeFile).isNone then
    .error (.rejected "Compose 또는 ACME 파일을 찾을 수 없습니다")
  else if config.composeFiles.any (fun path => !isInside config.composeDir path) ∨
      ¬isInside config.composeDir config.acmeFile then
    .error (.rejected "업데이트 대상 파일이 Traefik Compose 디렉터리 밖에 있습니다")
  else do
    reached environment .statAcme
    if host.content config.acmeFile = some "" then
      .error (.rejected "ACME 저장소가 비어 있습니다")
    else .ok ⟨⟩

/-- The repository and the version of an image whose update is allowed. -/
def checkImage (currentImage targetVersion : String) : Except UpdateError (String × String) := do
  let currentVersion ← versionFromImage currentImage
  if currentVersion ≠ targetVersion ∧ ¬isForwardPatch currentVersion targetVersion then
    .error (.rejected "동일 메이저·마이너의 상향 패치 업데이트만 허용합니다")
  else
    let repository := ((splitImage currentImage).map (·.1)).getD currentImage
    if repository ∉ officialRepositories then
      .error (.rejected "Traefik 공식 이미지 계열만 업데이트할 수 있습니다")
    else .ok (repository, currentVersion)

/-- The network and the compose service of the container. -/
def checkSurroundings : Except UpdateError PUnit := do
  let networks ← dockerInspect environment .preflight .networks
  match Json.loads networks with
  | none => .error (.valueError (environment.decodeErrorText networks))
  | some _ =>
      if ¬hasNetwork (jsonFields networks) config.network then
        .error (.rejected (config.network ++ " 네트워크 연결을 확인할 수 없습니다"))
      else do
        let services ← runCommand environment .composeServices
        if config.service ∉ Text.splitLines services then
          .error (.rejected "Traefik Compose 서비스를 확인할 수 없습니다")
        else .ok ⟨⟩

/-- `_preflight`. -/
def preflight (targetVersion : String) (host : Host) : Except UpdateError Preflight := do
  checkFiles environment config host
  let currentImage ← dockerInspect environment .preflight .image
  let (repository, currentVersion) ← checkImage currentImage targetVersion
  checkSurroundings environment config
  let imageComposeFile ← findImageComposeFile environment config currentImage host
  return {
    currentImage
    currentVersion
    targetImage := repository ++ ":" ++ targetVersion
    imageComposeFile }

end Checks

section Backup

/-- The directory of a backup. -/
def backupDirectory (request : UpdateRequest) : Path :=
  config.composeDir ++ ["backups", "traefik-manager-" ++ environment.backupTimestamp ++ "-" ++
    Text.takeChars 8 request.requestId.text]

/-- `_compose_backup_path`. -/
def composeBackupPath (backupDir composeFile : Path) : Path :=
  backupDir ++ "compose" :: composeFile.drop config.composeDir.length

/-- `shutil.copy2`. -/
def copyFile (step : Step) (source destination : Path) : Runner PUnit := do
  reach environment step
  let host ← get
  match host.file? source with
  | none => throw (missingFile source)
  | some file => modify (·.write destination file)

/-- The copies of `_create_backup`. -/
def copyFiles (backupDir : Path) : Runner PUnit := do
  config.composeFiles.zipIdx.forM fun (composeFile, index) =>
    copyFile environment (.copyComposeFile index) composeFile
      (composeBackupPath config backupDir composeFile)
  copyFile environment .copyAcme config.acmeFile (backupDir ++ ["acme.json"])

/-- `_create_backup`. -/
def createBackup (request : UpdateRequest) : Runner Path := do
  let backupDir := backupDirectory environment config request
  reach environment .makeBackupDir
  let host ← get
  if host.holdsFile backupDir then
    throw (.osError ("[Errno 17] File exists: '" ++ pathText backupDir ++ "'"))
  tryCatch (copyFiles environment config backupDir) fun failure => do
    modify (·.removeTree backupDir)
    throw failure
  return backupDir

/-- `_replace_compose_image`. -/
def replaceComposeImage (path : Path) (currentImage targetImage : String) : Runner PUnit := do
  let host ← get
  let text ← Program.ofExcept (readText environment .readReplaced path host)
  if Text.count (imageNeedle currentImage) text ≠ 1 then
    throw (.rejected "Compose 이미지 태그가 사전 점검 이후 변경되었습니다")
  reach environment .writeReplaced
  let replaced := Text.replaceFirst (imageNeedle currentImage) (imageNeedle targetImage) text
  modify (·.write path ⟨String.ofList replaced, ((host.file? path).map (·.mode)).getD 0⟩)

end Backup

end TraefikManager.Update
