import TraefikManager.Scripts.BlueGreenRuntime

/-!
# Blue-green deployments

The script runs its commands under `set -e`. When one fails, the `EXIT` trap runs `rollback`,
which carries on past failures: it goes back to the previous slot if the route had been turned
over, stops the candidate unless it may still be in use, and records how the deployment ended.
-/

namespace TraefikManager.Scripts

open Foundation

variable (environment : DeployEnvironment) (plan : DeployPlan)

section Recording

variable (phase : Phase)

/-- `manager_deployment_stage_finish`, which does nothing between stages. -/
def managerDeploymentStageFinish (state : Deployment) : Deployment × Bool :=
  match state.currentStage with
  | none => (state, true)
  | some (stage, _) => perform environment plan phase (.finishStage stage) state

/-- `MANAGER_DEPLOYMENT_STAGE_NAMES`. -/
def DeploymentStage.all : List DeploymentStage :=
  [.prepare, .build, .migrationPreflight, .candidateHealth, .routeSwitch, .leaderHandover,
    .publicProbe, .stateWrite]

/-- `manager_deployment_stage_timing_json`. -/
def managerDeploymentStageTiming (state : Deployment) : List (DeploymentStage × Nat) :=
  DeploymentStage.all.filterMap fun stage =>
    (state.stageDurations.lookup stage).map fun durationMs => (stage, durationMs)

/-- The reason of a failure, and how the deployment ended. -/
def failureReason (status : DeploymentStatus) (probes : Option (Nat × Nat)) (exitCode : Nat) :
    String :=
  let (total, failures) := probes.getD (0, 0)
  let reason :=
    if 0 < failures then s!"HTTP 비정상 {failures}/{total}건" else s!"명령 종료 코드 {exitCode}"
  match status with
  | .success => ""
  | .failedBeforeSwitch => reason ++ " · 후보 전환 전 중단"
  | .rolledBack => reason ++ " · 자동 rollback 완료"
  | .rollbackFailed => reason ++ " · 자동 rollback 미완료"

/-- What is appended to the history. -/
def historyRequest (status : DeploymentStatus) (activeSlot : String) (exitCode : Nat)
    (state : Deployment) : HistoryRequest :=
  let probes :=
    if state.probeFileNamed && environment.probeFileExists phase then
      environment.probeSummary phase
    else some (0, 0)
  { status := status
    previousSlot := plan.previousSlot
    candidateSlot := plan.candidateSlot
    activeSlot := activeSlot
    version := plan.version
    revision := plan.revision
    startedAt := plan.startedAt
    completedAt := environment.completedAt phase
    probes := probes
    failureStage := if status = .success then "" else state.deploymentStage.name
    failureReason := failureReason status probes exitCode
    alertRequestStatus := state.alertRequestStatus
    alertChannel := state.alertChannel
    alertRunUrl := ""
    stageDurationsMs :=
      if environment.passed phase .stageTimingJson then managerDeploymentStageTiming state
      else [] }

/-- What `record_deployment_history` announces: that the history was not written, or else that
the alert was not checked. -/
def recordProblem : Option Announcement :=
  if !environment.passed phase .appendHistory then some .recordFailed
  else if !environment.passed phase .checkBottleneck then some .alertCheckFailed
  else none

/-- `record_deployment_history`. Under `set -e` it may stop before the append, and also at the
message about a problem, where `history_recorded` is not set yet. The `read` of the probe summary
always finds its line. -/
def recordDeploymentHistory (status : DeploymentStatus) (activeSlot : String) (exitCode : Nat)
    (state : Deployment) : Deployment × Bool :=
  if state.historyRecorded then (state, true)
  else
    let (finished, finishes) := managerDeploymentStageFinish environment plan phase state
    if phase = .deployment ∧ !(finishes && environment.passed phase .stageTimingJson) then
      (finished, false)
    else
      let requested :=
        { finished with
          requests := finished.requests ++
            [historyRequest environment plan phase status activeSlot exitCode finished] }
      let announced := (recordProblem environment phase).all fun message =>
        environment.passed phase (.announce message)
      if phase = .deployment ∧ !announced then (requested, false)
      else ({ requested with historyRecorded := true }, true)

end Recording

section Deploying

/-- The deployment up to the launch of the probe. -/
def preparation : List DeployCommand :=
  [.announce .deployment] ++
  managerDeploymentStageStart .prepare ++ ensureRuntimeSupport ++
  managerDeploymentStageStart .build ++ [.buildCandidate] ++
  managerDeploymentStageStart .migrationPreflight ++ [.migrationPreflight] ++
  managerDeploymentStageStart .candidateHealth ++ startCandidate plan.candidateSlot ++
  managerDeploymentStageStart .routeSwitch ++ [.makeProbeFile, .launchProbe]

/-- The deployment from the launch of the probe to the end of `stop_probe`. -/
def handover : List DeployCommand :=
  [.settleProbe, .markSwitched, .renderRoute plan.candidateSlot,
    .waitTraefikRoute plan.candidateSlot] ++
  managerDeploymentStageStart .leaderHandover ++
  [.drain, .dockerStop (.backend plan.previousSlot), .waitBackgroundLeaderReady] ++
  managerDeploymentStageStart .publicProbe ++
  [.probeHealthUrl, .probePublicContinuity, .rest] ++ stopProbe

/-- The deployment after the probe. -/
def conclusion : List DeployCommand :=
  [.assertProbe] ++ managerDeploymentStageStart .stateWrite ++ writeState ++
  [.finishStage .stateWrite, .dockerStop (.frontend plan.previousSlot)]

/-- The commands before `record_deployment_history success`. -/
def deploymentCommands : List DeployCommand := preparation plan ++ handover plan ++ conclusion plan

/-- The deployment. The result says whether it reached `trap - EXIT`. -/
def runDeployment (state : Deployment) : Deployment × Bool :=
  let (deployed, passed) :=
    errexit (perform environment plan .deployment) (deploymentCommands plan) state
  if passed then
    recordDeploymentHistory environment plan .deployment .success plan.candidateSlot.name 0 deployed
  else (deployed, false)

end Deploying

section Recovering

/-- `stop_probe` in `rollback`. Without the stop file `wait` returns only if the probe ends by
itself. -/
def stopProbeAnyway (state : Deployment) : Option Deployment :=
  if !state.probeRunning then some state
  else if environment.passed .recovery .touchStopFile || environment.probeEnds then
    some (carryOn (perform environment plan .recovery) stopProbe state)
  else none

/-- The commands that bring the previous slot back, each run only if those before it pass. -/
def returnCommands (state : Deployment) : List DeployCommand :=
  startExistingSlot plan.previousSlot ++
  [.renderRoute plan.previousSlot, .waitTraefikRoute plan.previousSlot] ++ restoreState state

/-- `notify_rollback_failure`, and what is kept of its result. -/
def notifyRollbackFailure (state : Deployment) : Deployment :=
  if environment.passed .recovery .notifyRollbackFailure then
    { state with alertRequestStatus := "requested", alertChannel := environment.alertChannel }
  else { state with alertRequestStatus := "request_failed", alertChannel := "" }

/-- The part of `rollback` for a route that had been turned over, and the outcome. -/
def returnToPrevious (state : Deployment) : Deployment × DeploymentStatus × String :=
  let (returned, passed) :=
    errexit (perform environment plan .recovery) (returnCommands plan state) state
  if passed then (returned, .rolledBack, plan.previousSlot.name)
  else
    (notifyRollbackFailure environment returned, .rollbackFailed, inferActiveSlot returned.route)

/-- `rollback` once the probe is stopped. -/
def finishRollback (state : Deployment) : Deployment :=
  let (settled, status, activeSlot) :=
    if state.switched then returnToPrevious environment plan state
    else (state, .failedBeforeSwitch, plan.previousSlot.name)
  let stopped :=
    if settled.candidateStarted && (!settled.switched || status = .rolledBack) then
      carryOn (perform environment plan .recovery) (stopSlot plan.candidateSlot) settled
    else settled
  (recordDeploymentHistory environment plan .recovery status activeSlot environment.exitCode
    stopped).1

/-- `rollback`, unless it waits for ever. -/
def rollback (state : Deployment) : Option Deployment :=
  (stopProbeAnyway environment plan
    (managerDeploymentStageFinish environment plan .recovery state).1).map
      (finishRollback environment plan)

/-- The script from where `history_record_enabled` is set, unless it never ends. -/
def deploy (state : Deployment) : Option Deployment :=
  let (deployed, completed) := runDeployment environment plan state
  if completed then some deployed else rollback environment plan deployed

end Recovering

end TraefikManager.Scripts
