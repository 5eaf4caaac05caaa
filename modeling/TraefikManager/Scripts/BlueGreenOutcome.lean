import TraefikManager.Scripts.BlueGreenDeploy

/-!
# How a blue-green deployment ends

Whichever commands fail, a deployment records once how it ended, and the route, the state file
and the containers are as the record says. There are two exceptions: a message that cannot be
written after the success was recorded, and a probe that cannot be told to stop.
-/

namespace TraefikManager.Scripts

open Foundation

variable {environment : DeployEnvironment} {plan : DeployPlan} {phase : Phase}
  {command : DeployCommand} {commands : List DeployCommand} {start state : Deployment}

section Steps

/-- What a command adds to what has happened. -/
def DeployCommand.event? : DeployCommand → Option DeployEvent
  | .renderRoute _ => some .routeWritten
  | .moveState | .moveStateBackup | .removeStateFile => some .stateWritten
  | .waitContainerHealthy container _ => some (.sawHealthy container)
  | .dockerStop container => some (.stopped container)
  | _ => none

/-- What the script remembers of the time before it. -/
def Deployment.memory (state : Deployment) : Bool × Bool × Option String :=
  (state.historyRecorded, state.stateExisted, state.stateBackup)

private theorem closeStage_eq (state : Deployment) (completedMs : Nat) : ∃ durations stage,
    state.closeStage completedMs =
      { state with stageDurations := durations, currentStage := stage } := by
  unfold Deployment.closeStage
  split
  · rename_i between
    exact ⟨state.stageDurations, none, by rw [← between]⟩
  · exact ⟨_, none, rfl⟩

private theorem closeStage_currentStage (completedMs : Nat) :
    (state.closeStage completedMs).currentStage = none := by
  unfold Deployment.closeStage
  split
  · assumption
  · rfl

private theorem perform_of_passed (passes : environment.passed phase command = true) :
    perform environment plan phase command state =
      (command.effect environment plan phase state, true) := if_pos passes

private theorem perform_status (command : DeployCommand) (state : Deployment) :
    (perform environment plan phase command state).2 = environment.passed phase command := by
  unfold perform
  split
  · rename_i passes
    exact passes.symm
  · rename_i fails
    exact (Bool.not_eq_true _ ▸ fails).symm

/-- What a failing command leaves is the state before it, or its effect, or differs from the
state before it in the timing of the stages and in the containers that run. -/
theorem residue_cases (environment : DeployEnvironment) (plan : DeployPlan) (phase : Phase)
    (command : DeployCommand) (state : Deployment) :
    command.residue environment plan phase state = state ∨
    command.residue environment plan phase state = command.effect environment plan phase state ∨
    ∃ stage current durations running,
      command.residue environment plan phase state =
        { state with
          deploymentStage := stage, currentStage := current, stageDurations := durations
          running := running } := by
  cases command with
  | startStage stage => exact .inr (.inr ⟨stage, _, _, _, rfl⟩)
  | finishStage stage =>
      obtain ⟨durations, current, same⟩ := closeStage_eq state 0
      simp only [DeployCommand.residue, same]
      split
      · exact .inr (.inr ⟨_, _, _, _, rfl⟩)
      · exact .inl rfl
  | composeUp container => exact .inr (.inr ⟨_, _, _, _, rfl⟩)
  | dockerStart container => exact .inr (.inr ⟨_, _, _, _, rfl⟩)
  | dockerStop container => exact .inr (.inl rfl)
  | waitContainerHealthy container round => exact .inl rfl
  | _ =>
      simp only [DeployCommand.residue]
      split
      · exact .inr (.inl rfl)
      · exact .inl rfl

/-- A command changes what is seen of the state, apart from the timing of the stages and the
containers that run, by its effect or not at all. -/
theorem perform_view {γ : Type} (view : Deployment → γ)
    (blind : ∀ stage current durations running,
      view { state with
        deploymentStage := stage, currentStage := current, stageDurations := durations
        running := running } = view state) :
    view (perform environment plan phase command state).1 = view state ∨
      (∀ stage, command ≠ .finishStage stage) ∧
      view (perform environment plan phase command state).1 =
        view (command.effect environment plan phase state) := by
  have effect : view (command.effect environment plan phase state) = view state ∨
      ∀ stage, command ≠ .finishStage stage := by
    cases command with
    | finishStage stage =>
        obtain ⟨durations, current, same⟩ :=
          closeStage_eq state (environment.clockMs phase stage)
        exact .inl ((congrArg view same).trans (blind state.deploymentStage _ _ state.running))
    | _ => exact .inr fun _ => DeployCommand.noConfusion
  have byEffect : ∀ next, next = command.effect environment plan phase state →
      view next = view state ∨ (∀ stage, command ≠ .finishStage stage) ∧
        view next = view (command.effect environment plan phase state) := by
    intro next same
    rw [same]
    exact effect.imp_right fun other => ⟨other, rfl⟩
  unfold perform
  split
  · exact byEffect _ rfl
  · obtain same | same | ⟨stage, current, durations, running, same⟩ :=
      residue_cases environment plan phase command state
    · exact .inl (congrArg view same)
    · exact byEffect _ same
    · exact .inl ((congrArg view same).trans (blind stage current durations running))

/-- What the effect of a command keeps, the command keeps. -/
theorem perform_keeps {γ : Type} (view : Deployment → γ)
    (blind : ∀ stage current durations running,
      view { state with
        deploymentStage := stage, currentStage := current, stageDurations := durations
        running := running } = view state)
    (effect : (∀ stage, command ≠ .finishStage stage) →
      view (command.effect environment plan phase state) = view state) :
    view (perform environment plan phase command state).1 = view state :=
  (perform_view view blind).elim id fun changed => changed.2.trans (effect changed.1)

/-- No command assigns what is remembered or records anything. -/
theorem perform_memory :
    (perform environment plan phase command state).1.memory = state.memory ∧
      (perform environment plan phase command state).1.requests = state.requests := by
  apply Prod.mk.inj
  apply perform_keeps fun seen => (seen.memory, seen.requests)
  · exact fun _ _ _ _ => rfl
  · intro other
    cases command with
    | finishStage stage => exact absurd rfl (other stage)
    | _ => rfl

private theorem effect_events (other : ∀ stage, command ≠ .finishStage stage) :
    (command.effect environment plan phase state).events =
      state.events ++ command.event?.toList.map (phase, ·) := by
  cases command with
  | finishStage stage => exact absurd rfl (other stage)
  | renderRoute _ | moveState | moveStateBackup | removeStateFile | waitContainerHealthy _ _
  | dockerStop _ => rfl
  | _ => exact (List.append_nil _).symm

/-- A command adds at most its own event, in the part of the script it belongs to. -/
theorem perform_events : (perform environment plan phase command state).1.events = state.events ∨
    (perform environment plan phase command state).1.events =
      state.events ++ command.event?.toList.map (phase, ·) := by
  obtain same | ⟨other, changed⟩ := perform_view Deployment.events fun _ _ _ _ => rfl
  · exact .inl same
  · exact .inr (changed.trans (effect_events other))

private theorem mem_events_perform {event : Phase × DeployEvent} (happened : event ∈ state.events) :
    event ∈ (perform environment plan phase command state).1.events := by
  obtain same | added := @perform_events environment plan phase command state
  · exact same ▸ happened
  · exact added ▸ List.mem_append_left _ happened

private theorem of_mem_events_perform {event : Phase × DeployEvent}
    (happened : event ∈ (perform environment plan phase command state).1.events) :
    event ∈ state.events ∨ event.1 = phase ∧ command.event? = some event.2 := by
  obtain same | added := @perform_events environment plan phase command state
  · exact .inl (same ▸ happened)
  · rw [added, List.mem_append] at happened
    obtain before | new := happened
    · exact .inl before
    · obtain ⟨own, isOwn, rfl⟩ := List.mem_map.mp new
      exact .inr ⟨rfl, Option.mem_toList.mp isOwn⟩

private theorem perform_route (silent : command.event? ≠ some .routeWritten) :
    (perform environment plan phase command state).1.route = state.route := by
  apply perform_keeps
  · exact fun _ _ _ _ => rfl
  · intro other
    cases command with
    | finishStage stage => exact absurd rfl (other stage)
    | renderRoute _ => exact absurd rfl silent
    | _ => rfl

private theorem perform_stateFile (silent : command.event? ≠ some .stateWritten) :
    (perform environment plan phase command state).1.stateFile = state.stateFile := by
  apply perform_keeps
  · exact fun _ _ _ _ => rfl
  · intro other
    cases command with
    | finishStage stage => exact absurd rfl (other stage)
    | moveState | moveStateBackup | removeStateFile => exact absurd rfl silent
    | _ => rfl

private theorem perform_switched (other : command ≠ .markSwitched) :
    (perform environment plan phase command state).1.switched = state.switched := by
  apply perform_keeps
  · exact fun _ _ _ _ => rfl
  · intro noFinish
    cases command with
    | finishStage stage => exact absurd rfl (noFinish stage)
    | markSwitched => exact absurd rfl other
    | _ => rfl

private theorem perform_candidateStarted (other : command ≠ .markCandidateStarted) :
    (perform environment plan phase command state).1.candidateStarted =
      state.candidateStarted := by
  apply perform_keeps
  · exact fun _ _ _ _ => rfl
  · intro noFinish
    cases command with
    | finishStage stage => exact absurd rfl (noFinish stage)
    | markCandidateStarted => exact absurd rfl other
    | _ => rfl

private theorem perform_probeRunning (noLaunch : command ≠ .launchProbe)
    (noWait : command ≠ .waitProbe) :
    (perform environment plan phase command state).1.probeRunning = state.probeRunning := by
  apply perform_keeps
  · exact fun _ _ _ _ => rfl
  · intro other
    cases command with
    | finishStage stage => exact absurd rfl (other stage)
    | launchProbe => exact absurd rfl noLaunch
    | waitProbe => exact absurd rfl noWait
    | _ => rfl

end Steps

section Deploying

/-- The event touches neither the files nor the previous slot. -/
def DeployEvent.Harmless (plan : DeployPlan) (event : DeployEvent) : Prop :=
  event ≠ .routeWritten ∧ event ≠ .stateWritten ∧
    ∀ container ∈ plan.previousSlot.containers, event ≠ .stopped container

/-- Nothing has been turned over yet. -/
structure Undisturbed (plan : DeployPlan) (start state : Deployment) : Prop where
  memory : state.memory = (false, start.stateFile.isSome, start.stateFile)
  switched : state.switched = false
  route : state.route = start.route
  stateFile : state.stateFile = start.stateFile
  events : ∀ event ∈ state.events, event.1 = .deployment ∧ event.2.Harmless plan

/-- The candidate runs and the route may have been turned over. -/
structure Underway (start state : Deployment) : Prop where
  memory : state.memory = (false, start.stateFile.isSome, start.stateFile)
  switched : state.switched = true
  candidateStarted : state.candidateStarted = true
  events : ∀ event ∈ state.events, event.1 = .deployment

/-- A command that changes neither the files nor the previous slot. -/
def DeployCommand.isQuiet : DeployCommand → Bool
  | .markSwitched | .renderRoute _ | .moveState | .moveStateBackup | .removeStateFile
  | .dockerStop _ => false
  | _ => true

/-- A command that assigns neither `switched` nor `candidate_started`. -/
def DeployCommand.keepsFlags : DeployCommand → Bool
  | .markSwitched | .markCandidateStarted => false
  | _ => true

/-- A command that neither launches the probe nor waits for it. -/
def DeployCommand.keepsProbe : DeployCommand → Bool
  | .launchProbe | .waitProbe => false
  | _ => true

private theorem harmless_of_isQuiet (quiet : command.isQuiet = true) {event : DeployEvent}
    (own : command.event? = some event) : event.Harmless plan := by
  cases command with
  | waitContainerHealthy container round =>
      obtain rfl := Option.some.inj own
      exact ⟨nofun, nofun, fun _ _ => nofun⟩
  | markSwitched | renderRoute _ | moveState | moveStateBackup | removeStateFile
  | dockerStop _ => cases quiet
  | _ => cases own

theorem Undisturbed.perform (undisturbed : Undisturbed plan start state)
    (quiet : command.isQuiet = true) (here : phase = .deployment ∨ command.event? = none) :
    Undisturbed plan start (Scripts.perform environment plan phase command state).1 := by
  have silent : ∀ event, command.event? = some event → event.Harmless plan :=
    fun event own => harmless_of_isQuiet quiet own
  refine
    { memory := perform_memory.1.trans undisturbed.memory
      switched := ?_
      route := (perform_route fun own => (silent _ own).1 rfl).trans undisturbed.route
      stateFile := (perform_stateFile fun own => (silent _ own).2.1 rfl).trans undisturbed.stateFile
      events := ?_ }
  · apply (perform_switched _).trans undisturbed.switched
    intro isSwitch
    subst isSwitch
    cases quiet
  · intro event happened
    obtain before | ⟨inPhase, own⟩ := of_mem_events_perform happened
    · exact undisturbed.events event before
    · obtain inDeployment | noEvent := here
      · exact ⟨inPhase.trans inDeployment, silent _ own⟩
      · rw [noEvent] at own
        cases own

theorem Underway.perform (underway : Underway start state) (keeps : command.keepsFlags = true)
    (here : phase = .deployment ∨ command.event? = none) :
    Underway start (Scripts.perform environment plan phase command state).1 := by
  have noSwitch : command ≠ .markSwitched := by
    intro isSwitch
    subst isSwitch
    cases keeps
  have noStart : command ≠ .markCandidateStarted := by
    intro isStart
    subst isStart
    cases keeps
  refine
    { memory := perform_memory.1.trans underway.memory
      switched := (perform_switched noSwitch).trans underway.switched
      candidateStarted := (perform_candidateStarted noStart).trans underway.candidateStarted
      events := ?_ }
  intro event happened
  obtain before | ⟨inPhase, own⟩ := of_mem_events_perform happened
  · exact underway.events event before
  · obtain inDeployment | noEvent := here
    · exact inPhase.trans inDeployment
    · rw [noEvent] at own
      cases own

theorem Undisturbed.markSwitched (undisturbed : Undisturbed plan start state)
    (started : state.candidateStarted = true) :
    Underway start (Scripts.perform environment plan .deployment .markSwitched state).1 :=
  { memory := perform_memory.1.trans undisturbed.memory
    switched := rfl
    candidateStarted := started
    events := fun event happened => (undisturbed.events event happened).1 }

/-- Before the switch, and from the switch on. -/
theorem deploymentCommands_eq : deploymentCommands plan =
    (preparation plan ++ [.settleProbe]) ++
      .markSwitched :: ((handover plan).drop 2 ++ conclusion plan) := rfl

/-- Once started, the candidate is remembered as started. -/
theorem candidateStarted_perform (started : state.candidateStarted = true) :
    (perform environment plan phase command state).1.candidateStarted = true := by
  by_cases isStart : command = .markCandidateStarted
  · subst isStart
    rfl
  · exact (perform_candidateStarted isStart).trans started

/-- Wherever the deployment stops, it has touched nothing yet, or it is underway. -/
theorem undisturbed_or_underway (environment : DeployEnvironment)
    (undisturbed : Undisturbed plan start start) :
    Undisturbed plan start
      (errexit (perform environment plan .deployment) (deploymentCommands plan) start).1 ∨
    Underway start
      (errexit (perform environment plan .deployment) (deploymentCommands plan) start).1 := by
  have quiet : ∀ command ∈ preparation plan ++ [.settleProbe], command.isQuiet = true :=
    List.all_eq_true.mp rfl
  have keepsFlags : ∀ command ∈ (handover plan).drop 2 ++ conclusion plan,
      command.keepsFlags = true := List.all_eq_true.mp rfl
  have before : Undisturbed plan start (errexit (perform environment plan .deployment)
      (preparation plan ++ [.settleProbe]) start).1 :=
    errexit_keeps _ (fun command inList current holds => holds.perform (quiet command inList) (.inl rfl))
      undisturbed
  rw [deploymentCommands_eq, errexit_append]
  split
  · rename_i passed
    have inList : .markCandidateStarted ∈ preparation plan ++ [.settleProbe] := by
      simp [preparation, startCandidate]
    have started := errexit_establishes_of_mem (fun current => current.candidateStarted = true)
      inList (fun _ _ => rfl) (fun _ _ _ started => candidateStarted_perform started) passed
    right
    rw [errexit_cons (perform_status _ _)]
    apply errexit_keeps
    · exact fun command inList current holds => holds.perform (keepsFlags command inList) (.inl rfl)
    · exact before.markSwitched started
  · exact .inl before

private theorem errexit_passed (commands : List DeployCommand) (state : Deployment) :
    (errexit (perform environment plan phase) commands state).2 =
      commands.all (environment.passed phase) :=
  errexit_passes fun command _ => perform_status command

private theorem errexit_probeRunning (apart : commands.all DeployCommand.keepsProbe = true)
    (state : Deployment) :
    (errexit (perform environment plan phase) commands state).1.probeRunning =
      state.probeRunning := by
  apply errexit_keeps (fun current : Deployment => current.probeRunning = state.probeRunning) _ rfl
  intro command inList current same
  have keeps := List.all_eq_true.mp apart command inList
  refine (perform_probeRunning ?_ ?_).trans same
  · intro isLaunch
    subst isLaunch
    cases keeps
  · intro isWait
    subst isWait
    cases keeps

/-- The probe runs where the deployment stops if that is between its launch and its end. -/
theorem probeRunning_deployed (environment : DeployEnvironment) (plan : DeployPlan)
    (noProbe : start.probeRunning = false) :
    (errexit (perform environment plan .deployment) (deploymentCommands plan) start).1.probeRunning =
      ((preparation plan).all (environment.passed .deployment) &&
        !(handover plan).all (environment.passed .deployment)) := by
  have launches : preparation plan = (preparation plan).dropLast ++ [.launchProbe] := rfl
  have waits : handover plan = (handover plan).dropLast ++ [.waitProbe] := rfl
  rw [deploymentCommands, List.append_assoc]
  cases prepared : (preparation plan).all (environment.passed .deployment) with
  | false =>
      rw [errexit_append_of_failed _ ((errexit_passed _ _).trans prepared), launches,
        errexit_append_of_failed]
      · exact (errexit_probeRunning rfl start).trans noProbe
      · rw [errexit_passed, ← prepared, launches, List.all_append]
        exact (Bool.and_true _).symm
  | true =>
      have launched : (errexit (perform environment plan .deployment) (preparation plan)
          start).1.probeRunning = true :=
        errexit_establishes_last (fun current : Deployment => current.probeRunning = true)
          (preparation plan).dropLast (fun _ _ => rfl) ((errexit_passed (preparation plan) start).trans prepared)
      rw [errexit_append_of_passed _ ((errexit_passed _ _).trans prepared)]
      cases handed : (handover plan).all (environment.passed .deployment) with
      | false =>
          rw [errexit_append_of_failed _ ((errexit_passed _ _).trans handed), waits,
            errexit_append_of_failed]
          · exact (errexit_probeRunning rfl _).trans launched
          · rw [errexit_passed, ← handed, waits, List.all_append]
            exact (Bool.and_true _).symm
      | true =>
          rw [errexit_append_of_passed _ ((errexit_passed _ _).trans handed)]
          apply (errexit_probeRunning rfl _).trans
          exact errexit_establishes_last (fun current : Deployment => current.probeRunning = false)
            (handover plan).dropLast (fun _ _ => rfl) ((errexit_passed (handover plan) _).trans handed)

/-- A command that ran while the deployment passed has left its mark. -/
theorem sawHealthy_deployed {container : Container} {round : Nat}
    (waits : .waitContainerHealthy container round ∈ commands)
    (passed : (errexit (perform environment plan phase) commands state).2 = true) :
    (phase, .sawHealthy container) ∈
      (errexit (perform environment plan phase) commands state).1.events := by
  apply errexit_establishes_of_mem
    (fun current : Deployment => (phase, .sawHealthy container) ∈ current.events) waits
  · intro current passes
    rw [perform_status] at passes
    rw [perform_of_passed passes]
    exact List.mem_append_right _ List.mem_cons_self
  · exact fun _ _ _ happened => mem_events_perform happened
  · exact passed

/-- What is seen of the state after a script with a single writer of it. -/
theorem view_deployed {γ : Type} (view : Deployment → γ) {value : γ} {writer : DeployCommand}
    (writes : writer ∈ commands)
    (blind : ∀ current stage stages durations running,
      view { current with
        deploymentStage := stage, currentStage := stages, stageDurations := durations
        running := running } = view current)
    (effect : ∀ current, view (writer.effect environment plan phase current) = value)
    (alone : ∀ other ∈ commands, other ≠ writer → ∀ current,
      view (perform environment plan phase other current).1 = view current)
    (passed : (errexit (perform environment plan phase) commands state).2 = true) :
    view (errexit (perform environment plan phase) commands state).1 = value := by
  apply errexit_establishes_of_mem (fun current => view current = value) writes
  · intro current passes
    rw [perform_status] at passes
    rw [perform_of_passed passes]
    exact effect current
  · intro other inList current written
    by_cases isWriter : other = writer
    · subst isWriter
      obtain same | ⟨-, changed⟩ := perform_view view (blind current)
      · exact same.trans written
      · exact changed.trans (effect current)
    · exact (alone other inList isWriter current).trans written
  · exact passed

/-- What a deployment whose commands all pass has reached. -/
structure Deployed (environment : DeployEnvironment) (plan : DeployPlan) (state : Deployment) :
    Prop where
  route : state.route = some (upstreamForSlot plan.candidateSlot)
  stateFile : state.stateFile = some (stateText plan.candidateSlot plan.revision plan.version
    environment.stateWrittenAt)
  sawHealthy : ∀ container ∈ plan.candidateSlot.containers,
    (.deployment, .sawHealthy container) ∈ state.events
  betweenStages : state.currentStage = none
  switched : state.switched = true

private theorem routeWriter_deployment : ∀ other ∈ deploymentCommands plan,
    other.event? = some .routeWritten → other = .renderRoute plan.candidateSlot := by
  simp [deploymentCommands, preparation, handover, conclusion, managerDeploymentStageStart,
    DeploymentStage.before?, ensureRuntimeSupport, startCandidate, verifyThrice,
    attachCandidateBackend, stopProbe, writeState, DeployCommand.event?]

private theorem stateWriter_deployment : ∀ other ∈ deploymentCommands plan,
    other.event? = some .stateWritten → other = .moveState := by
  simp [deploymentCommands, preparation, handover, conclusion, managerDeploymentStageStart,
    DeploymentStage.before?, ensureRuntimeSupport, startCandidate, verifyThrice,
    attachCandidateBackend, stopProbe, writeState, DeployCommand.event?]

private theorem deployed_of_passed
    (passed : (errexit (perform environment plan .deployment) (deploymentCommands plan)
      start).2 = true) :
    Deployed environment plan
      (errexit (perform environment plan .deployment) (deploymentCommands plan) start).1 where
  route := by
    have writes : .renderRoute plan.candidateSlot ∈ deploymentCommands plan := by
      simp [deploymentCommands, handover]
    apply view_deployed Deployment.route writes (fun _ _ _ _ _ => rfl) (fun _ => rfl) _ passed
    intro other inList isOther current
    exact perform_route fun own => isOther (routeWriter_deployment other inList own)
  stateFile := by
    have writes : .moveState ∈ deploymentCommands plan := by
      simp [deploymentCommands, conclusion, writeState]
    apply view_deployed Deployment.stateFile writes (fun _ _ _ _ _ => rfl) (fun _ => rfl) _ passed
    intro other inList isOther current
    exact perform_stateFile fun own => isOther (stateWriter_deployment other inList own)
  sawHealthy := by
    have waits : ∀ container ∈ plan.candidateSlot.containers,
        .waitContainerHealthy container 0 ∈ deploymentCommands plan := by
      simp [Slot.containers, deploymentCommands, preparation, startCandidate]
    exact fun container ofSlot => sawHealthy_deployed (waits container ofSlot) passed
  betweenStages := by
    have ending : deploymentCommands plan = (deploymentCommands plan).dropLast.dropLast ++
        .finishStage .stateWrite :: [.dockerStop (.frontend plan.previousSlot)] := rfl
    rw [ending] at passed ⊢
    apply errexit_establishes (fun current : Deployment => current.currentStage = none) _ _ passed
    · intro current passes
      rw [perform_status] at passes
      rw [perform_of_passed passes]
      exact closeStage_currentStage _
    · intro other inList current between
      obtain rfl := List.mem_singleton.mp inList
      unfold perform
      split
      · exact between
      · exact between
  switched := by
    have switches : .markSwitched ∈ deploymentCommands plan := by
      simp [deploymentCommands, handover]
    apply view_deployed Deployment.switched switches (fun _ _ _ _ _ => rfl) (fun _ => rfl) _ passed
    exact fun other _ isOther _ => perform_switched isOther

end Deploying

section Recording

/-- What is seen from outside the script. -/
def Deployment.outside (state : Deployment) :
    Option String × Option String × (Container → Bool) × List (Phase × DeployEvent) :=
  (state.route, state.stateFile, state.running, state.events)

private theorem managerDeploymentStageFinish_eq (environment : DeployEnvironment)
    (plan : DeployPlan) (phase : Phase) (state : Deployment) : ∃ durations stage,
    (managerDeploymentStageFinish environment plan phase state).1 =
      { state with stageDurations := durations, currentStage := stage } := by
  unfold managerDeploymentStageFinish
  split
  · exact ⟨_, _, rfl⟩
  · unfold perform
    split
    · exact closeStage_eq _ _
    · simp only [DeployCommand.residue]
      split
      · exact closeStage_eq _ _
      · exact ⟨_, _, rfl⟩

/-- The record `rollback` makes. -/
theorem recordDeploymentHistory_recovery (environment : DeployEnvironment) (plan : DeployPlan)
    (unrecorded : state.historyRecorded = false)
    (status : DeploymentStatus) (activeSlot : String) (exitCode : Nat) :
    ∃ request, request.status = status ∧
      (recordDeploymentHistory environment plan .recovery status activeSlot exitCode
        state).1.requests = state.requests ++ [request] ∧
      (recordDeploymentHistory environment plan .recovery status activeSlot exitCode
        state).1.outside = state.outside := by
  obtain ⟨durations, stage, finished⟩ :=
    managerDeploymentStageFinish_eq environment plan .recovery state
  refine ⟨historyRequest environment plan .recovery status activeSlot exitCode
    (managerDeploymentStageFinish environment plan .recovery state).1, rfl, ?_, ?_⟩
  · simp [recordDeploymentHistory, unrecorded, finished]
  · simp [recordDeploymentHistory, unrecorded, finished, Deployment.outside]

/-- The record of a success: it may stop before the append or at the message after it. -/
theorem recordDeploymentHistory_deployment (unrecorded : state.historyRecorded = false)
    (between : state.currentStage = none) (status : DeploymentStatus) (activeSlot : String)
    (exitCode : Nat) :
    recordDeploymentHistory environment plan .deployment status activeSlot exitCode state =
      if environment.passed .deployment .stageTimingJson then
        let requested := { state with
          requests := state.requests ++
            [historyRequest environment plan .deployment status activeSlot exitCode state] }
        if (recordProblem environment .deployment).all fun message =>
            environment.passed .deployment (.announce message) then
          ({ requested with historyRecorded := true }, true)
        else (requested, false)
      else (state, false) := by
  unfold recordDeploymentHistory managerDeploymentStageFinish
  simp only [unrecorded, between]
  cases timed : environment.passed .deployment .stageTimingJson with
  | false => simp
  | true =>
      cases announced : (recordProblem environment .deployment).all fun message =>
          environment.passed .deployment (.announce message) with
      | false => simp
      | true => simp

end Recording

section Recovering

/-- What a recorded outcome says of the end of a deployment. -/
def ReportedEnd (plan : DeployPlan) (start final : Deployment) : DeploymentStatus → Prop
  | .success =>
      final.route = some (upstreamForSlot plan.candidateSlot) ∧
      (∃ updatedAt, final.stateFile =
        some (stateText plan.candidateSlot plan.revision plan.version updatedAt)) ∧
      ∀ container ∈ plan.candidateSlot.containers,
        (.deployment, .sawHealthy container) ∈ final.events
  | .rolledBack =>
      final.route = some (upstreamForSlot plan.previousSlot) ∧
      (∀ container ∈ plan.previousSlot.containers,
        (.recovery, .sawHealthy container) ∈ final.events) ∧
      final.stateFile = start.stateFile ∧
      ∀ container ∈ plan.candidateSlot.containers, final.running container = false
  | .failedBeforeSwitch =>
      final.route = start.route ∧ final.stateFile = start.stateFile ∧
      ∀ event ∈ final.events, event.2.Harmless plan
  | .rollbackFailed =>
      ∀ container ∈ plan.candidateSlot.containers,
        (.recovery, .stopped container) ∉ final.events

private theorem ReportedEnd.of_outside {final other : Deployment} {status : DeploymentStatus}
    (reported : ReportedEnd plan start final status) (same : other.outside = final.outside) :
    ReportedEnd plan start other status := by
  obtain ⟨route, stateFile, running, events⟩ :
      other.route = final.route ∧ other.stateFile = final.stateFile ∧
        other.running = final.running ∧ other.events = final.events := by
    simpa only [Deployment.outside, Prod.mk.injEq] using same
  unfold ReportedEnd at *
  rw [route, stateFile, running, events]
  exact reported

/-- Stopping the candidate takes effect and leaves the rest alone. -/
theorem carryOn_stopSlot (slot : Slot) (state : Deployment) :
    carryOn (perform environment plan phase) (stopSlot slot) state =
      { state with
        running := Function.update (Function.update state.running (.backend slot) false)
          (.frontend slot) false
        events := state.events ++ [(phase, .stopped (.backend slot))] ++
          [(phase, .stopped (.frontend slot))] } := by
  have stops : ∀ container state, (perform environment plan phase (.dockerStop container) state).1 =
      (state.setRunning container false).observe phase (.stopped container) := by
    intro container state
    unfold perform
    split
    · rfl
    · rfl
  simp only [carryOn, stopSlot, List.foldl_cons, List.foldl_nil, stops]
  rfl

/-- What is recorded of a state from which the trap is done is its outcome. -/
theorem reported_of_recorded {stopped : Deployment} {status : DeploymentStatus}
    (unrecorded : stopped.historyRecorded = false) (requests : stopped.requests = state.requests)
    (reported : ReportedEnd plan start stopped status) (activeSlot : String) (exitCode : Nat) :
    ∃ request,
      (recordDeploymentHistory environment plan .recovery status activeSlot exitCode
        stopped).1.requests = state.requests ++ [request] ∧
      ReportedEnd plan start (recordDeploymentHistory environment plan .recovery status activeSlot
        exitCode stopped).1 request.status := by
  obtain ⟨request, isStatus, recorded, same⟩ :=
    recordDeploymentHistory_recovery environment plan unrecorded status activeSlot exitCode
  refine ⟨request, by rw [recorded, requests], ?_⟩
  rw [isStatus]
  exact reported.of_outside same

/-- A deployment that has turned nothing over ends so, also when the candidate is stopped. -/
theorem failedBeforeSwitch_reported (undisturbed : Undisturbed plan start state) :
    ∃ request, (finishRollback environment plan state).requests = state.requests ++ [request] ∧
      ReportedEnd plan start (finishRollback environment plan state) request.status := by
  have unrecorded : state.historyRecorded = false := congrArg Prod.fst undisturbed.memory
  have harmless : ∀ event ∈ state.events, event.2.Harmless plan :=
    fun event happened => (undisturbed.events event happened).2
  have apart : ∀ container ∈ plan.candidateSlot.containers,
      DeployEvent.Harmless plan (.stopped container) := by
    have differ := oppositeSlot_ne plan.previousSlot
    simp [Slot.containers, DeployEvent.Harmless, DeployPlan.candidateSlot, differ]
  unfold finishRollback
  simp only [undisturbed.switched, Bool.false_eq_true, if_false, Bool.not_false, Bool.true_or,
    Bool.and_true]
  split
  · apply reported_of_recorded
    · rw [carryOn_stopSlot]
      exact unrecorded
    · rw [carryOn_stopSlot]
    · rw [carryOn_stopSlot]
      refine ⟨undisturbed.route, undisturbed.stateFile, ?_⟩
      intro event happened
      simp only [List.append_assoc, List.mem_append, List.mem_singleton] at happened
      obtain before | rfl | rfl := happened
      · exact harmless event before
      · exact apart _ (by simp [Slot.containers])
      · exact apart _ (by simp [Slot.containers])
  · apply reported_of_recorded unrecorded rfl
    exact ⟨undisturbed.route, undisturbed.stateFile, harmless⟩

/-- The way back leaves what the script remembers, and stops no container. -/
structure WayBack (start state returned : Deployment) : Prop where
  memory : returned.memory = (false, start.stateFile.isSome, start.stateFile)
  requests : returned.requests = state.requests
  switched : returned.switched = true
  candidateStarted : returned.candidateStarted = true
  events : ∀ event ∈ returned.events, event.1 = .recovery → ∀ container, event.2 ≠ .stopped container

/-- The commands of the way back, whether or not there was a state file. -/
theorem returnCommands_subset : returnCommands plan state ⊆
    startExistingSlot plan.previousSlot ++ [.renderRoute plan.previousSlot,
      .waitTraefikRoute plan.previousSlot, .moveStateBackup, .removeStateFile] := by
  intro command inList
  unfold returnCommands restoreState at inList
  split at inList
  · simp only [List.mem_append, List.mem_cons, List.not_mem_nil, or_false] at inList ⊢
    tauto
  · simp only [List.mem_append, List.mem_cons, List.not_mem_nil, or_false] at inList ⊢
    tauto

private theorem wayBack_returnCommands (environment : DeployEnvironment) (plan : DeployPlan)
    (underway : Underway start state) :
    WayBack start state
      (errexit (perform environment plan .recovery) (returnCommands plan state) state).1 := by
  have keepsFlags : ∀ command ∈ returnCommands plan state, command.keepsFlags = true :=
    fun command inList => List.all_eq_true.mp rfl command (returnCommands_subset inList)
  have stopsNone : ∀ command ∈ returnCommands plan state, ∀ container,
      command.event? ≠ some (.stopped container) := by
    have stopsNone : ∀ command ∈ startExistingSlot plan.previousSlot ++
        [.renderRoute plan.previousSlot, .waitTraefikRoute plan.previousSlot, .moveStateBackup,
          .removeStateFile], ∀ container, command.event? ≠ some (.stopped container) := by
      simp [startExistingSlot, DeployCommand.event?]
    exact fun command inList => stopsNone command (returnCommands_subset inList)
  apply errexit_keeps (WayBack start state)
  · intro command inList current wayBack
    have keeps := keepsFlags command inList
    refine
      { memory := perform_memory.1.trans wayBack.memory
        requests := perform_memory.2.trans wayBack.requests
        switched := (perform_switched ?_).trans wayBack.switched
        candidateStarted := (perform_candidateStarted ?_).trans wayBack.candidateStarted
        events := ?_ }
    · intro isSwitch
      subst isSwitch
      cases keeps
    · intro isStart
      subst isStart
      cases keeps
    · intro event happened inRecovery container isStop
      obtain before | ⟨-, own⟩ := of_mem_events_perform happened
      · exact wayBack.events event before inRecovery container isStop
      · exact stopsNone command inList container (isStop ▸ own)
  · refine
      { memory := underway.memory
        requests := rfl
        switched := underway.switched
        candidateStarted := underway.candidateStarted
        events := ?_ }
    intro event happened inRecovery
    rw [underway.events event happened] at inRecovery
    cases inRecovery

/-- The state file once `restore_state` has passed. -/
theorem stateFile_returned (underway : Underway start state)
    (passed : (errexit (perform environment plan .recovery) (returnCommands plan state)
      state).2 = true) :
    (errexit (perform environment plan .recovery) (returnCommands plan state) state).1.stateFile =
      start.stateFile := by
  have remembered := (wayBack_returnCommands environment plan underway).memory
  have existed : state.stateExisted = start.stateFile.isSome :=
    congrArg (fun memory => memory.2.1) underway.memory
  unfold returnCommands restoreState at passed remembered ⊢
  cases before : start.stateFile with
  | none =>
      rw [existed, before] at passed ⊢
      exact errexit_establishes_last (fun current : Deployment => current.stateFile = none) _
        (fun current passes => by
          rw [perform_status] at passes
          rw [perform_of_passed passes]
          rfl) passed
  | some text =>
      rw [existed, before] at passed remembered ⊢
      have restored := errexit_establishes_last
        (fun current : Deployment => current.stateFile = current.stateBackup) _
        (fun current passes => by
          rw [perform_status] at passes
          rw [perform_of_passed passes]
          rfl) passed
      exact restored.trans (congrArg (fun memory => memory.2.2) remembered)

theorem WayBack.notified (environment : DeployEnvironment) {returned : Deployment}
    (wayBack : WayBack start state returned) :
    WayBack start state (notifyRollbackFailure environment returned) := by
  unfold notifyRollbackFailure
  split
  · exact { wayBack with }
  · exact { wayBack with }

/-- The state from which a way back that passed stops the candidate. -/
theorem returned_of_passed (underway : Underway start state)
    (passed : (errexit (perform environment plan .recovery) (returnCommands plan state)
      state).2 = true) :
    let returned := (errexit (perform environment plan .recovery) (returnCommands plan state) state).1
    returned.route = some (upstreamForSlot plan.previousSlot) ∧
      (∀ container ∈ plan.previousSlot.containers,
        (.recovery, .sawHealthy container) ∈ returned.events) ∧
      returned.stateFile = start.stateFile := by
  refine ⟨?_, ?_, stateFile_returned underway passed⟩
  · have writes : .renderRoute plan.previousSlot ∈ returnCommands plan state := by
      simp [returnCommands]
    have alone : ∀ other ∈ startExistingSlot plan.previousSlot ++
        [.renderRoute plan.previousSlot, .waitTraefikRoute plan.previousSlot, .moveStateBackup,
          .removeStateFile],
        other.event? = some .routeWritten → other = .renderRoute plan.previousSlot := by
      simp [startExistingSlot, DeployCommand.event?]
    apply view_deployed Deployment.route writes (fun _ _ _ _ _ => rfl) (fun _ => rfl) _ passed
    intro other inList isOther current
    exact perform_route fun own => isOther (alone other (returnCommands_subset inList) own)
  · intro container ofSlot
    have waits : .waitContainerHealthy container 0 ∈ returnCommands plan state := by
      simp only [Slot.containers, List.mem_cons, List.not_mem_nil, or_false] at ofSlot
      obtain rfl | rfl := ofSlot
      · simp [returnCommands, startExistingSlot]
      · simp [returnCommands, startExistingSlot]
    exact sawHealthy_deployed waits passed

/-- A deployment that had turned the route over ends so, whether or not the way back passes. -/
theorem returned_reported (underway : Underway start state) :
    ∃ request, (finishRollback environment plan state).requests = state.requests ++ [request] ∧
      ReportedEnd plan start (finishRollback environment plan state) request.status := by
  have wayBack := wayBack_returnCommands environment plan underway
  have unrecorded := congrArg Prod.fst wayBack.memory
  unfold finishRollback returnToPrevious
  simp only [underway.switched, if_true]
  cases passed : (errexit (perform environment plan .recovery) (returnCommands plan state)
      state).2 with
  | false =>
      have notified := wayBack.notified environment
      have unsettled : ¬DeploymentStatus.rollbackFailed = .rolledBack := nofun
      simp only [Bool.false_eq_true, if_false, notified.switched, unsettled, Bool.not_true,
        decide_false, Bool.or_false, Bool.and_false]
      apply reported_of_recorded (congrArg Prod.fst notified.memory) notified.requests
      intro container _ stopped
      exact notified.events _ stopped rfl container rfl
  | true =>
      obtain ⟨route, sawHealthy, stateFile⟩ := returned_of_passed underway passed
      simp only [if_true, wayBack.candidateStarted, decide_true, Bool.or_true, Bool.and_true]
      apply reported_of_recorded
      · rw [carryOn_stopSlot]
        exact unrecorded
      · rw [carryOn_stopSlot]
        exact wayBack.requests
      · rw [carryOn_stopSlot]
        refine ⟨route, ?_, stateFile, ?_⟩
        · intro container ofSlot
          exact List.mem_append_left _ (List.mem_append_left _ (sawHealthy container ofSlot))
        · simp [Slot.containers, Function.update_apply]

/-- The state in which `rollback` decides is the one in which the deployment stopped. -/
theorem stopProbeAnyway_keeps (environment : DeployEnvironment) (plan : DeployPlan)
    {stopped : Deployment} (holds : Deployment → Prop)
    (keeps : ∀ command current, command.isQuiet = true → command.keepsFlags = true →
      command.event? = none → holds current →
      holds (perform environment plan .recovery command current).1)
    (initially : holds state)
    (stops : stopProbeAnyway environment plan
      (managerDeploymentStageFinish environment plan .recovery state).1 = some stopped) :
    holds stopped := by
  have finished : holds (managerDeploymentStageFinish environment plan .recovery state).1 := by
    unfold managerDeploymentStageFinish
    split
    · exact initially
    · exact keeps _ _ rfl rfl rfl initially
  unfold stopProbeAnyway at stops
  split at stops
  · exact Option.some.inj stops ▸ finished
  · split at stops
    · rw [← Option.some.inj stops]
      apply carryOn_keeps holds _ finished
      intro command inList current held
      simp only [stopProbe, List.mem_cons, List.not_mem_nil, or_false] at inList
      obtain rfl | rfl := inList
      · exact keeps _ _ rfl rfl rfl held
      · exact keeps _ _ rfl rfl rfl held
    · cases stops

/-- `rollback` ends unless the probe runs on. -/
theorem isSome_rollback : (rollback environment plan state).isSome =
    (!state.probeRunning || environment.passed .recovery .touchStopFile || environment.probeEnds) := by
  obtain ⟨durations, stage, finished⟩ :=
    managerDeploymentStageFinish_eq environment plan .recovery state
  unfold rollback stopProbeAnyway
  rw [Option.isSome_map, finished]
  cases state.probeRunning with
  | false => rfl
  | true =>
      cases stops : environment.passed .recovery .touchStopFile || environment.probeEnds with
      | false => simp_all
      | true => simp_all

/-- Where `rollback` ends, it has recorded the outcome. -/
theorem rollback_reported {final : Deployment}
    (recoverable : Undisturbed plan start state ∨ Underway start state)
    (ends : rollback environment plan state = some final) :
    ∃ request, final.requests = state.requests ++ [request] ∧
      ReportedEnd plan start final request.status := by
  obtain ⟨stopped, stops, rfl⟩ := Option.map_eq_some_iff.mp ends
  have kept := stopProbeAnyway_keeps environment plan
    (fun current => (Undisturbed plan start current ∨ Underway start current) ∧
      current.requests = state.requests)
    (fun command current quiet keepsFlags silent holds =>
      ⟨holds.1.imp (fun undisturbed => undisturbed.perform quiet (.inr silent))
        fun underway => underway.perform keepsFlags (.inr silent),
        perform_memory.2.trans holds.2⟩) ⟨recoverable, rfl⟩ stops
  obtain ⟨undisturbed | underway, requests⟩ := kept
  · exact requests ▸ failedBeforeSwitch_reported undisturbed
  · exact requests ▸ returned_reported underway

end Recovering

section Outcome

/-- The deployment ended and recorded once how. -/
def EndsAsReported (plan : DeployPlan) (start final : Deployment) : Prop :=
  ∃ request, final.requests = [request] ∧ ReportedEnd plan start final request.status

/-- The deployment succeeds, the history or the alert does not, and the message that says so
cannot be written. -/
def AnnouncementLost (environment : DeployEnvironment) (plan : DeployPlan) : Prop :=
  (deploymentCommands plan).all (environment.passed .deployment) = true ∧
  environment.passed .deployment .stageTimingJson = true ∧
  ((recordProblem environment .deployment).all fun message =>
    environment.passed .deployment (.announce message)) = false

/-- The deployment fails while the probe runs, and `rollback` cannot stop the probe. -/
def ProbeUnstoppable (environment : DeployEnvironment) (plan : DeployPlan) : Prop :=
  (preparation plan).all (environment.passed .deployment) = true ∧
  (handover plan).all (environment.passed .deployment) = false ∧
  environment.passed .recovery .touchStopFile = false ∧ environment.probeEnds = false

private theorem deploymentCommands_all : (deploymentCommands plan).all (environment.passed phase) =
    ((preparation plan).all (environment.passed phase) &&
      (handover plan).all (environment.passed phase) &&
      (conclusion plan).all (environment.passed phase)) := by
  unfold deploymentCommands
  rw [List.all_append, List.all_append]

private theorem exists_rollback_iff
    (recoverable : Undisturbed plan start state ∨ Underway start state)
    (unrequested : state.requests = []) :
    (∃ final, rollback environment plan state = some final ∧ EndsAsReported plan start final) ↔
      (rollback environment plan state).isSome = true := by
  constructor
  · rintro ⟨final, ends, -⟩
    rw [ends]
    rfl
  · intro ends
    obtain ⟨final, ends⟩ := Option.isSome_iff_exists.mp ends
    obtain ⟨request, recorded, reported⟩ := rollback_reported recoverable ends
    rw [unrequested] at recorded
    exact ⟨final, ends, request, recorded, reported⟩

/-- Whichever commands fail, a blue-green deployment ends with one record and in the state the
record says, but for a message lost after the success was recorded and a probe that does not
stop. -/
theorem deploy_endsAsReported_iff (environment : DeployEnvironment) (plan : DeployPlan)
    (route stateFile : Option String) (running : Container → Bool) :
    (∃ final, deploy environment plan (.begin route stateFile running) = some final ∧
      EndsAsReported plan (.begin route stateFile running) final) ↔
    ¬AnnouncementLost environment plan ∧ ¬ProbeUnstoppable environment plan := by
  have undisturbed : Undisturbed plan (.begin route stateFile running)
      (.begin route stateFile running) :=
    { memory := rfl, switched := rfl, route := rfl, stateFile := rfl, events := nofun }
  have recoverable := undisturbed_or_underway environment undisturbed
  have noProbe : (Deployment.begin route stateFile running).probeRunning = false := rfl
  have probe := probeRunning_deployed environment plan noProbe
  have unrequested : (errexit (perform environment plan .deployment) (deploymentCommands plan)
      (.begin route stateFile running)).1.requests = [] :=
    errexit_keeps (fun current : Deployment => current.requests = [])
      (fun _ _ _ none => perform_memory.2.trans none) rfl
  have status : (errexit (perform environment plan .deployment) (deploymentCommands plan)
      (.begin route stateFile running)).2 =
        (deploymentCommands plan).all (environment.passed .deployment) := errexit_passed _ _
  have reached := @deployed_of_passed environment plan (.begin route stateFile running)
  unfold deploy runDeployment AnnouncementLost ProbeUnstoppable
  revert recoverable probe unrequested status reached
  cases errexit (perform environment plan .deployment) (deploymentCommands plan)
    (.begin route stateFile running) with
  | mk deployed passed =>
      intro recoverable probe unrequested status reached
      dsimp only at recoverable probe unrequested status reached ⊢
      rw [← status]
      cases passed with
      | false =>
          simp only [Bool.false_eq_true, if_false, false_and, not_false_eq_true, true_and]
          rw [exists_rollback_iff recoverable unrequested, isSome_rollback, probe]
          simp only [Bool.or_eq_true, Bool.not_eq_true', Bool.and_eq_false_iff, Bool.not_eq_false',
            not_and_or, Bool.not_eq_true, Bool.not_eq_false, or_assoc]
      | true =>
          have handed : (handover plan).all (environment.passed .deployment) = true := by
            rw [deploymentCommands_all] at status
            simp only [Bool.true_eq, Bool.and_eq_true] at status
            exact status.1.2
          rw [handed, Bool.not_true, Bool.and_false] at probe
          have underway : Underway (.begin route stateFile running) deployed := by
            apply recoverable.resolve_left
            intro untouched
            exact absurd ((reached rfl).switched.symm.trans untouched.switched) nofun
          have stops : ∀ requests, (rollback environment plan
              { deployed with requests := requests }).isSome = true := by
            intro requests
            rw [isSome_rollback, probe]
            rfl
          simp only [if_true, handed, Bool.true_eq_false, false_and, and_false, not_false_eq_true,
            and_true, true_and]
          rw [recordDeploymentHistory_deployment (congrArg Prod.fst underway.memory)
            (reached rfl).betweenStages]
          cases timed : environment.passed .deployment .stageTimingJson with
          | false =>
              simp only [Bool.false_eq_true, if_false, false_and, not_false_eq_true, iff_true]
              rw [exists_rollback_iff (.inr underway) unrequested]
              exact stops deployed.requests
          | true =>
              cases announced : (recordProblem environment .deployment).all fun message =>
                  environment.passed .deployment (.announce message) with
              | false =>
                  simp only [Bool.false_eq_true, if_false, if_true, and_self, not_true_eq_false,
                    iff_false]
                  -- The record of the success is followed by that of the rollback.
                  rintro ⟨final, ends, request, recorded, -⟩
                  have kept : Underway (.begin route stateFile running)
                      { deployed with requests := deployed.requests ++
                          [historyRequest environment plan .deployment .success
                            plan.candidateSlot.name 0 deployed] } := { underway with }
                  obtain ⟨second, both, -⟩ := rollback_reported (.inr kept) ends
                  rw [recorded, unrequested] at both
                  cases both
              | true =>
                  simp only [if_true, Bool.true_eq_false, and_false, not_false_eq_true, iff_true]
                  refine ⟨_, rfl, historyRequest environment plan .deployment .success
                    plan.candidateSlot.name 0 deployed, ?_, ?_⟩
                  · rw [unrequested]
                    rfl
                  · exact ⟨(reached rfl).route, ⟨_, (reached rfl).stateFile⟩,
                      (reached rfl).sawHealthy⟩

/-- Every command passes but for the append to the history and the message about it, as when
the disk that holds the history and the log is full. -/
def fullDisk : DeployEnvironment :=
  { passes := fun phase command =>
      phase = .recovery || command ≠ .appendHistory && command ≠ .announce .recordFailed
    takesEffect := fun _ _ => false
    polled := fun _ _ _ => ["starting", "healthy"]
    clockMs := fun _ _ => 0
    stateWrittenAt := "2026-07-16T00:01:00+00:00"
    completedAt := fun _ => "2026-07-16T00:01:01Z"
    probeEnds := false
    probeFileExists := fun _ => true
    probeSummary := fun _ => some (30, 0)
    exitCode := 1
    alertChannel := "anubis" }

/-- A deployment that was through is rolled back and recorded twice. -/
theorem success_recorded_twice :
    ¬∃ final,
      deploy fullDisk ⟨.blue, "v1.2.3", "abcdef", "2026-07-16T00:00:00Z"⟩
        (.begin (some (upstreamForSlot .blue)) none fun _ => true) = some final ∧
      EndsAsReported ⟨.blue, "v1.2.3", "abcdef", "2026-07-16T00:00:00Z"⟩
        (.begin (some (upstreamForSlot .blue)) none fun _ => true) final := by
  rintro ⟨final, ends, request, recorded, -⟩
  have twice : (deploy fullDisk ⟨.blue, "v1.2.3", "abcdef", "2026-07-16T00:00:00Z"⟩
      (.begin (some (upstreamForSlot .blue)) none fun _ => true)).map
        (fun final => final.requests.map HistoryRequest.status) =
      some [.success, .rolledBack] := by decide
  rw [ends, Option.map_some, recorded] at twice
  simp at twice

end Outcome

end TraefikManager.Scripts
