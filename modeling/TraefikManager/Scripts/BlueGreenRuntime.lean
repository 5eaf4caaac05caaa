import Mathlib.Logic.Function.Basic
import TraefikManager.Foundation.ShellScript
import TraefikManager.Scripts.DeploymentHistory

/-!
# The commands of a blue-green deployment

A deployment starts the candidate slot beside the previous one, turns the route over to it
and stops the previous slot. Any command may fail. What a failing command has done by then is
not known, except that a container that was told to stop is stopped, and that an initializer
which succeeds has written the route file.
-/

namespace TraefikManager.Scripts

open Foundation

section Slots

inductive Slot where
  | single
  | blue
  | green
  deriving DecidableEq, Repr

def Slot.name : Slot → String
  | single => "single"
  | blue => "blue"
  | green => "green"

/-- `opposite_slot`. -/
def oppositeSlot : Slot → Slot
  | .blue => .green
  | .green => .blue
  | .single => .blue

theorem oppositeSlot_ne (slot : Slot) : oppositeSlot slot ≠ slot := by
  cases slot <;> decide

/-- `upstream_for_slot`. -/
def upstreamForSlot : Slot → String
  | .single => "http://traefik-manager-frontend:3000"
  | .blue => "http://traefik-manager-frontend-blue:3000"
  | .green => "http://traefik-manager-frontend-green:3000"

/-- `infer_active_slot` on the upstream the route file names. -/
def inferActiveSlot (route : Option String) : String :=
  if route = some (upstreamForSlot .blue) then "blue"
  else if route = some (upstreamForSlot .green) then "green"
  else if route = some (upstreamForSlot .single) then "single"
  else "unknown"

inductive Container where
  | dockerProxy
  | backend (slot : Slot)
  | frontend (slot : Slot)
  deriving DecidableEq, Repr

/-- `backend_for_slot` and `frontend_for_slot`. -/
def Slot.containers (slot : Slot) : List Container := [.backend slot, .frontend slot]

end Slots

section Commands

/-- Which part of the script runs: the deployment under `set -e`, or `rollback`. -/
inductive Phase where
  | deployment
  | recovery
  deriving DecidableEq, Repr

/-- The messages of the script that `set -e` guards. -/
inductive Announcement where
  | deployment
  | recordFailed
  | alertCheckFailed
  deriving DecidableEq, Repr

/-- The commands of the script. A command that runs more than once counts its rounds. -/
inductive DeployCommand where
  | announce (message : Announcement)
  | startStage (stage : DeploymentStage)
  | finishStage (stage : DeploymentStage)
  | buildSupport
  | buildCandidate
  | composeUp (container : Container)
  | waitContainerHealthy (container : Container) (round : Nat)
  | migrationPreflight
  | markCandidateStarted
  | verifyCandidateChain (round : Nat)
  | pause (round : Nat)
  | connectNetwork
  | makeProbeFile
  | launchProbe
  | settleProbe
  | markSwitched
  | renderRoute (slot : Slot)
  | waitTraefikRoute (slot : Slot)
  | drain
  | dockerStop (container : Container)
  | dockerStart (container : Container)
  | waitBackgroundLeaderReady
  | probeHealthUrl
  | probePublicContinuity
  | rest
  | touchStopFile
  | waitProbe
  | assertProbe
  | makeStateFile
  | printState
  | chmodState
  | moveState
  | moveStateBackup
  | removeStateFile
  | stageTimingJson
  | appendHistory
  | checkBottleneck
  | notifyRollbackFailure
  deriving DecidableEq, Repr

/-- What is deployed, and from which slot. -/
structure DeployPlan where
  previousSlot : Slot
  version : String
  revision : String
  startedAt : String
  deriving DecidableEq, Repr

def DeployPlan.candidateSlot (plan : DeployPlan) : Slot := oppositeSlot plan.previousSlot

/-- How the world answers. -/
structure DeployEnvironment where
  passes : Phase → DeployCommand → Bool
  /-- Whether a failing command has had its effect. -/
  takesEffect : Phase → DeployCommand → Bool
  /-- The states docker reports until the deadline. -/
  polled : Phase → Container → Nat → List String
  clockMs : Phase → DeploymentStage → Nat
  stateWrittenAt : String
  completedAt : Phase → String
  /-- Whether the probe ends although there is no stop file. -/
  probeEnds : Bool
  probeFileExists : Phase → Bool
  probeSummary : Phase → Option (Nat × Nat)
  exitCode : Nat
  alertChannel : String

/-- `wait_container_healthy`. -/
def waitContainerHealthy : List String → Bool
  | [] => false
  | status :: later =>
      if status = "healthy" then true
      else if status = "exited" ∨ status = "dead" then false
      else waitContainerHealthy later

/-- Whether a command passes. Assignments and `wait … || true` always do. -/
def DeployEnvironment.passed (environment : DeployEnvironment) (phase : Phase) :
    DeployCommand → Bool
  | .waitContainerHealthy container round =>
      waitContainerHealthy (environment.polled phase container round)
  | .markCandidateStarted | .launchProbe | .markSwitched | .waitProbe => true
  | command => environment.passes phase command

end Commands

section State

/-- What happens to the files and the containers. -/
inductive DeployEvent where
  | routeWritten
  | stateWritten
  | sawHealthy (container : Container)
  | stopped (container : Container)
  deriving DecidableEq, Repr

/-- The arguments of an `append` to the history. -/
structure HistoryRequest where
  status : DeploymentStatus
  previousSlot : Slot
  candidateSlot : Slot
  activeSlot : String
  version : String
  revision : String
  startedAt : String
  completedAt : String
  probes : Option (Nat × Nat)
  failureStage : String
  failureReason : String
  alertRequestStatus : String
  alertChannel : String
  alertRunUrl : String
  stageDurationsMs : List (DeploymentStage × Nat)
  deriving DecidableEq, Repr

/-- The variables of the script, the route file, the state file, the containers, and what has
happened so far. -/
structure Deployment where
  probeRunning : Bool
  probeFileNamed : Bool
  stateBackup : Option String
  stateExisted : Bool
  switched : Bool
  candidateStarted : Bool
  historyRecorded : Bool
  deploymentStage : DeploymentStage
  currentStage : Option (DeploymentStage × Nat)
  stageDurations : List (DeploymentStage × Nat)
  alertRequestStatus : String
  alertChannel : String
  route : Option String
  stateFile : Option String
  running : Container → Bool
  events : List (Phase × DeployEvent)
  requests : List HistoryRequest

/-- The state once `history_record_enabled` is set. `snapshot_state` has kept the state file. -/
def Deployment.begin (route stateFile : Option String) (running : Container → Bool) :
    Deployment :=
  { probeRunning := false, probeFileNamed := false, stateBackup := stateFile
    stateExisted := stateFile.isSome, switched := false, candidateStarted := false
    historyRecorded := false, deploymentStage := .prepare, currentStage := none
    stageDurations := [], alertRequestStatus := "not_needed", alertChannel := ""
    route := route, stateFile := stateFile, running := running, events := [], requests := [] }

namespace Deployment

variable (state : Deployment)

def observe (phase : Phase) (event : DeployEvent) : Deployment :=
  { state with events := state.events ++ [(phase, event)] }

def setRunning (container : Container) (runs : Bool) : Deployment :=
  { state with running := Function.update state.running container runs }

/-- The assignments of `manager_deployment_stage_finish`. -/
def closeStage (completedMs : Nat) : Deployment :=
  match state.currentStage with
  | none => state
  | some (stage, startedMs) =>
      { state with
        stageDurations := (stage, completedMs - startedMs) :: state.stageDurations
        currentStage := none }

end Deployment

/-- What `write_state` prints. -/
def stateText (slot : Slot) (revision version updatedAt : String) : String :=
  "slot=" ++ slot.name ++ "\nrevision=" ++ revision ++ "\nversion=" ++ version ++
    "\nupdated_at=" ++ updatedAt ++ "\n"

variable (environment : DeployEnvironment) (plan : DeployPlan) (phase : Phase)

/-- What a command does. -/
def DeployCommand.effect : DeployCommand → Deployment → Deployment
  | .startStage stage, state =>
      { state with
        deploymentStage := stage
        currentStage := some (stage, environment.clockMs phase stage) }
  | .finishStage stage, state => state.closeStage (environment.clockMs phase stage)
  | .composeUp container, state => state.setRunning container true
  | .dockerStart container, state => state.setRunning container true
  | .dockerStop container, state =>
      (state.setRunning container false).observe phase (.stopped container)
  | .waitContainerHealthy container _, state => state.observe phase (.sawHealthy container)
  | .markCandidateStarted, state => { state with candidateStarted := true }
  | .makeProbeFile, state => { state with probeFileNamed := true }
  | .launchProbe, state => { state with probeRunning := true }
  | .waitProbe, state => { state with probeRunning := false }
  | .markSwitched, state => { state with switched := true }
  | .renderRoute slot, state =>
      { state with route := some (upstreamForSlot slot) }.observe phase .routeWritten
  | .moveState, state =>
      { state with
        stateFile := some (stateText plan.candidateSlot plan.revision plan.version
          environment.stateWrittenAt) }.observe phase .stateWritten
  | .moveStateBackup, state =>
      { state with stateFile := state.stateBackup }.observe phase .stateWritten
  | .removeStateFile, state => { state with stateFile := none }.observe phase .stateWritten
  | _, state => state

/-- What a failing command leaves. -/
def DeployCommand.residue (command : DeployCommand) (state : Deployment) : Deployment :=
  match command with
  -- The start time of the stage is then empty, which counts as zero.
  | .startStage stage =>
      { state with deploymentStage := stage, currentStage := some (stage, 0) }
  -- Without `set -e` the assignments go on with an empty time.
  | .finishStage _ => if phase = .recovery then state.closeStage 0 else state
  | .composeUp container | .dockerStart container =>
      state.setRunning container (environment.takesEffect phase command)
  | .dockerStop _ => command.effect environment plan phase state
  | .waitContainerHealthy _ _ => state
  | _ =>
      if environment.takesEffect phase command then command.effect environment plan phase state
      else state

/-- Run one command. -/
def perform (command : DeployCommand) (state : Deployment) : Deployment × Bool :=
  if environment.passed phase command then (command.effect environment plan phase state, true)
  else (command.residue environment plan phase state, false)

end State

section Functions

/-- The stage before a stage. -/
def DeploymentStage.before? : DeploymentStage → Option DeploymentStage
  | prepare => none
  | build => some prepare
  | migrationPreflight => some build
  | candidateHealth => some migrationPreflight
  | routeSwitch => some candidateHealth
  | leaderHandover => some routeSwitch
  | publicProbe => some leaderHandover
  | stateWrite => some publicProbe

/-- `manager_deployment_stage_start`. -/
def managerDeploymentStageStart (stage : DeploymentStage) : List DeployCommand :=
  stage.before?.toList.map .finishStage ++ [.startStage stage]

/-- `ensure_runtime_support`. -/
def ensureRuntimeSupport : List DeployCommand :=
  [.buildSupport, .composeUp .dockerProxy, .waitContainerHealthy .dockerProxy 0]

/-- The three rounds in which `start_candidate` verifies the chain. -/
def verifyThrice (first : Nat) : List DeployCommand :=
  [.verifyCandidateChain first, .pause first, .verifyCandidateChain (first + 1),
    .pause (first + 1), .verifyCandidateChain (first + 2), .pause (first + 2)]

/-- `attach_candidate_backend`. -/
def attachCandidateBackend (slot : Slot) : List DeployCommand :=
  [.connectNetwork, .waitContainerHealthy (.backend slot) 1]

/-- `start_candidate`. -/
def startCandidate (slot : Slot) : List DeployCommand :=
  [.markCandidateStarted, .composeUp (.backend slot), .waitContainerHealthy (.backend slot) 0,
    .composeUp (.frontend slot), .waitContainerHealthy (.frontend slot) 0] ++
  verifyThrice 0 ++ attachCandidateBackend slot ++ verifyThrice 3

/-- `stop_probe`, for a probe that runs. -/
def stopProbe : List DeployCommand := [.touchStopFile, .waitProbe]

/-- `write_state`. -/
def writeState : List DeployCommand := [.makeStateFile, .printState, .chmodState, .moveState]

/-- `start_existing_slot`. -/
def startExistingSlot (slot : Slot) : List DeployCommand :=
  [.dockerStart (.backend slot), .waitContainerHealthy (.backend slot) 0,
    .dockerStart (.frontend slot), .waitContainerHealthy (.frontend slot) 0]

/-- `stop_slot`. -/
def stopSlot (slot : Slot) : List DeployCommand :=
  [.dockerStop (.backend slot), .dockerStop (.frontend slot)]

/-- `restore_state`. -/
def restoreState (state : Deployment) : List DeployCommand :=
  if state.stateExisted then [.moveStateBackup] else [.removeStateFile]

end Functions

end TraefikManager.Scripts
