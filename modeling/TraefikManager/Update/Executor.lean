import TraefikManager.Update.Preflight

/-!
# Running an update

`process_request` checks, takes a backup, applies the image and validates the container; a
failure after the backup rolls back.
-/

namespace TraefikManager.Update

open Foundation

variable (environment : UpdateEnvironment) (config : RunnerConfig) (request : UpdateRequest)

/-- The check that a rollback made. -/
def Check.ofRollback (check : Check) : Check := { check with key := "rollback_" ++ check.key }

section Rollback

/-- The files of a backup, as text. -/
def readBackups (backupDir : Path) (host : Host) : Except UpdateError (List (Path × Nat × File)) :=
  config.composeFiles.zipIdx.mapM fun (composeFile, index) => do
    let backup := composeBackupPath config backupDir composeFile
    let text ← readText environment (.readBackup index) backup host
    return (composeFile, index, ⟨String.ofList text, ((host.file? backup).map (·.mode)).getD 0⟩)

/-- `_restore_compose_files`: every backup is read before a file is written. -/
def restoreComposeFiles (backupDir : Path) : Runner PUnit := do
  let host ← get
  let entries ← Program.ofExcept (readBackups environment config backupDir host)
  entries.forM fun (composeFile, index, file) => do
    reach environment (.writeRestored index)
    modify (·.write composeFile file)

/-- The body of the `try` of `_rollback`: its validations. -/
def restorePrevious (currentVersion : String) (backupDir : Path) : Runner (List Check) := do
  restoreComposeFiles environment config backupDir
  let previousContainerId := safeCurrentContainerId environment (.beforeRecreate .rollback)
  Program.ofExcept (runCompose environment (.composeUp .rollback))
  let recreateCheck ← recordRecreationCheck environment .rollback request previousContainerId
  Program.ofExcept
    (validateWithRecreationCheck environment config currentVersion .rollback recreateCheck)

/-- `write_recovery_result`, and the check that tells how it went. -/
def recordRecovery (status : UpdateStatus) : Runner Check := do
  let written ← Program.attempt do
    reach environment .writeRecoveryResult
    modify ({ · with recovery := some (status.text, "patch_update") })
  match written with
  | .ok _ => return validation "recovery_state" true "최근 자동 복구 결과 기록"
  | .error failure =>
      return validation "recovery_state" false ("자동 복구 결과 기록 실패: " ++ message failure.text)

/-- The status of a rollback, its message and its checks. -/
def rollbackOutcome : Except UpdateError (List Check) → UpdateStatus × String × List Check
  | .ok checks =>
      (.rolledBack, "업데이트 검증 실패 후 이전 버전으로 자동 롤백했습니다", checks.map Check.ofRollback)
  | .error failure =>
      (.rollbackFailed, "업데이트 실패 후 자동 롤백도 실패했습니다: " ++ message failure.text,
        failure.validations.map Check.ofRollback)

/-- `_rollback`, after an update that failed. -/
def rollback (entry : HistoryEntry) (preflight : Preflight) (backupDir : Path)
    (updateError : UpdateError) : Runner UpdateStatus := do
  let restored ← Program.attempt
    (restorePrevious environment config request preflight.currentVersion backupDir)
  let (status, text, checks) := rollbackOutcome restored
  let recoveryCheck ← recordRecovery environment status
  appendHistory environment .rollback {
    entry.completed environment status (text ++ " (원인: " ++ message updateError.text ++ ")") with
    backupDir := some (pathText backupDir)
    rollbackPerformed := true
    alertRequestStatus := if status = .rollbackFailed then "pending" else "not_needed"
    validations := updateError.validations ++ checks ++ [recoveryCheck] }
  return status

end Rollback

section Apply

/-- `_wait_for_recreate_window`. -/
def waitForRecreateWindow : Runner PUnit :=
  (List.range environment.waits).forM fun round => reach environment (.heartbeatWaiting round)

/-- The steps that bring the target image into the container. -/
def applyImage (preflight : Preflight) : Runner (Option String) := do
  replaceComposeImage environment preflight.imageComposeFile preflight.currentImage
    preflight.targetImage
  reach environment .heartbeatApplying
  Program.ofExcept (runCompose environment .composePull)
  waitForRecreateWindow environment
  let previousContainerId := safeCurrentContainerId environment (.beforeRecreate .update)
  Program.ofExcept (runCompose environment (.composeUp .update))
  return previousContainerId

/-- The body of the last `try` of `process_request`. -/
def applyUpdate (entry : HistoryEntry) (preflight : Preflight) (backupDir : Path) :
    Runner UpdateStatus := do
  let previousContainerId ← applyImage environment preflight
  let recreateCheck ← recordRecreationCheck environment .update request previousContainerId
  let validations ← Program.ofExcept
    (validateWithRecreationCheck environment config request.targetVersion .update recreateCheck)
  appendHistory environment .success {
    entry.completed environment .success "백업, 업데이트 적용, 런타임 검증을 완료했습니다" with
    backupDir := some (pathText backupDir)
    validations }
  return .success

end Apply

section Requests

/-- The end of a request that fails before it changes anything. -/
def reject (point : HistoryPoint) (entry : HistoryEntry) (text : String) : Runner UpdateStatus := do
  appendHistory environment point (entry.completed environment .rejected text)
  return .rejected

/-- `_verify_already_applied`. -/
def verifyAlreadyApplied (entry : HistoryEntry) : Runner UpdateStatus := do
  match validateRuntime environment config request.targetVersion .verification with
  | .ok validations =>
      appendHistory environment .verified {
        entry.completed environment .success
          "대상 버전이 이미 적용되어 런타임 상태만 다시 검증했습니다" with validations }
      return .success
  | .error failure =>
      appendHistory environment .unverified {
        entry.completed environment .rejected (message failure.text) with
        validations := failure.validations }
      return .rejected

/-- The steps of `process_request` once its checks have passed. -/
def runUpdate (entry : HistoryEntry) (preflight : Preflight) : Runner UpdateStatus := do
  appendHistory environment .running { entry with message := "백업과 업데이트를 시작했습니다" }
  let created ← Program.attempt (createBackup environment config request)
  match created with
  | .error failure =>
      reject environment .backupFailed entry ("업데이트 백업 생성 실패: " ++ message failure.text)
  | .ok backupDir =>
      tryCatch (applyUpdate environment config request entry preflight backupDir) fun failure =>
        rollback environment config request entry preflight backupDir failure

/-- `process_request`. -/
def processRequest : Runner UpdateStatus := do
  let host ← get
  match preflight environment config request.targetVersion host with
  | .error failure =>
      let currentVersion := (safeCurrentVersion environment .rejection).getD request.targetVersion
      reject environment .rejected (historyEntry environment request currentVersion)
        ("업데이트 사전 점검 실패: " ++ message failure.text)
  | .ok preflight =>
      let entry := historyEntry environment request preflight.currentVersion
      if preflight.currentVersion = request.targetVersion then
        verifyAlreadyApplied environment config request entry
      else runUpdate environment config request entry preflight

end Requests

end TraefikManager.Update
