import TraefikManager.Update.ComposeImage
import TraefikManager.Update.Outcome

/-!
# Records of an update

The history of updates and the history of recreations are written inside the `try` that rolls
back. Most failures of the second become a check of the entry, but a time-out of docker does not,
and no failure of the first does.
-/

namespace TraefikManager.Update

open Foundation

section Bookkeeping

variable {environment : UpdateEnvironment} {config : RunnerConfig} {request : UpdateRequest}
  {host : Host} {found : Preflight}

/-- An update that works is reported as one, and so is a rollback that works. -/
structure KeepsOutcome (environment : UpdateEnvironment) (config : RunnerConfig)
    (request : UpdateRequest) (host : Host) (found : Preflight) : Prop where
  success : ReachesUpdate environment config request host →
    UpdateWorks environment config request.targetVersion →
      Reports environment config request host .success
  rolledBack : ReachesUpdate environment config request host →
    ¬UpdateWorks environment config request.targetVersion →
      RollbackWorks environment config found.currentVersion →
        Reports environment config request host .rolledBack

/-- The records leave the outcome alone exactly if docker answers the audit in time and the entry
of the outcome can be appended. -/
theorem keepsOutcome_iff
    (checked : preflight environment config request.targetVersion host = .ok found)
    (differs : found.currentVersion ≠ request.targetVersion) :
    KeepsOutcome environment config request host found ↔
      (ReachesUpdate environment config request host →
        (UpdateWorks environment config request.targetVersion →
          IsNoted environment .update .success) ∧
        (¬UpdateWorks environment config request.targetVersion →
          RollbackWorks environment config found.currentVersion →
            IsNoted environment .rollback .rollback)) := by
  constructor
  · intro keeps reaches
    constructor
    · intro works
      exact ((reports_success_iff checked differs).mp (keeps.success reaches works)).2.2
    · intro failed works
      have reports := keeps.rolledBack reaches failed works
      exact ((reports_rolledBack_iff checked differs).mp reports).2.2.2
  · intro noted
    constructor
    · intro reaches works
      exact (reports_success_iff checked differs).mpr ⟨reaches, works, (noted reaches).1 works⟩
    · intro reaches failed works
      have fails : ¬(UpdateWorks environment config request.targetVersion ∧
          IsNoted environment .update .success) := fun both => failed both.1
      exact (reports_rolledBack_iff checked differs).mpr
        ⟨reaches, fails, works, (noted reaches).2 failed works⟩

end Bookkeeping

section Samples

/-- A docker that runs the target image after an update and the previous one after a rollback. -/
def sampleRuns (pulls recreated : Completed) : Command → Completed
  | .inspect _ .running => .exited 0 "true" ""
  | .inspect _ .health => .exited 0 "healthy" ""
  | .inspect (.validation .update _) .versionLabel => .exited 0 "v3.5.2" ""
  | .inspect _ .versionLabel => .exited 0 "v3.5.1" ""
  | .inspect _ .image => .exited 0 "traefik:v3.5.1" ""
  | .inspect _ .networks => .exited 0 sampleNetworks.dumps ""
  | .inspect (.recreated .update) .identity => recreated
  | .composeServices => .exited 0 "traefik" ""
  | .composePull => pulls
  | _ => .exited 0 "" ""

def updateEnvironment (pulls recreated : Completed) : UpdateEnvironment where
  runs := sampleRuns pulls recreated

def sampleRequest : UpdateRequest where
  requestId := ⟨1⟩
  targetVersion := "v3.5.2"
  actor := "admin"
  requestedAt := "2026-01-01T00:00:00Z"
  targetValid := by decide
  actorValid := by decide

def sampleCompose : String := "services:\n  traefik:\n    image: traefik:v3.5.1\n"

variable {pulls recreated : Completed} {compose : String}

private theorem runCommand_sample {command : Command} {text : String}
    (runs : sampleRuns pulls recreated command = .exited 0 text "")
    (plain : Text.strip text = text) :
    runCommand (updateEnvironment pulls recreated) command = .ok text := by
  have isAnswer : (updateEnvironment pulls recreated).runs command = .exited 0 text "" := runs
  rw [runCommand, isAnswer]
  dsimp only
  rw [if_neg (by decide), plain]

private theorem networks_sample (moment : Moment) :
    dockerInspect (updateEnvironment pulls recreated) moment .networks =
      .ok sampleNetworks.dumps := by
  apply runCommand_sample
  · cases moment <;> rfl
  · decide

theorem answersChecks_update : AnswersChecks (updateEnvironment pulls recreated) where
  image := runCommand_sample rfl (by decide)
  networks := networks_sample .preflight
  services := runCommand_sample rfl (by decide)
  passes := rfl

theorem reachesUpdate_sample :
    ReachesUpdate (updateEnvironment pulls recreated) sampleConfig sampleRequest
      (sampleHost compose) where
  started := rfl
  saved := by
    refine ⟨rfl, ?_, fun _ _ => rfl, rfl⟩
    have differs : ("backups" == "compose.yml") = false ∧ ("backups" == "acme.json") = false := by
      decide
    simp [Host.holdsFile, sampleHost, backupDirectory, sampleConfig, List.isPrefixOf, differs]

private theorem safeInspect_sample {moment : Moment} {template : Template} {text : String}
    (runs : sampleRuns pulls recreated (.inspect moment template) = .exited 0 text "")
    (plain : Text.strip text = text) :
    safeInspect (updateEnvironment pulls recreated) moment template = some text := by
  rw [safeInspect, dockerInspect, runCommand_sample runs plain]
  rfl

private theorem validated_sample {stage : Stage} {version : String}
    (label : safeCurrentVersion (updateEnvironment pulls recreated) (.validation stage 0) =
      some version) :
    Validated (updateEnvironment pulls recreated) sampleConfig version stage := by
  refine ⟨0, by decide, ?_⟩
  have running : safeInspect (updateEnvironment pulls recreated) (.validation stage 0) .running =
      some "true" := safeInspect_sample rfl (by decide)
  have health : safeInspect (updateEnvironment pulls recreated) (.validation stage 0) .health =
      some "healthy" := safeInspect_sample rfl (by decide)
  have networks : (safeInspect (updateEnvironment pulls recreated) (.validation stage 0)
      .networks).bind jsonFields = some [("proxy", .object [])] := by
    have found : safeInspect (updateEnvironment pulls recreated) (.validation stage 0) .networks =
        some sampleNetworks.dumps := safeInspect_sample rfl (by decide)
    rw [found, Option.bind_some]
    exact jsonFields_sample.2
  have strip_empty : Text.strip "" = "" := by decide
  have route : runHealthCheck (updateEnvironment pulls recreated) stage 0 = true := by
    rw [runHealthCheck, runCommand_sample rfl strip_empty]
    rfl
  rw [runtimeChecks]
  simp [running, health, networks, route, label, allPassed, validation, hasNetwork, sampleConfig]

private theorem safeCurrentVersion_sample {moment : Moment} {version : String}
    (runs : sampleRuns pulls recreated (.inspect moment .versionLabel) = .exited 0 version "")
    (plain : Text.strip version = version) (valid : version ≠ "" ∧ isVersion version = true) :
    safeCurrentVersion (updateEnvironment pulls recreated) moment = some version := by
  rw [safeCurrentVersion, safeInspect_sample runs plain]
  exact if_pos valid

/-- A command that ends with status 0 and prints nothing. -/
abbrev silent : Completed := .exited 0 "" ""

private theorem updateWorks_sample :
    UpdateWorks (updateEnvironment silent recreated) sampleConfig "v3.5.2" where
  applies := {
    read := rfl
    written := rfl
    announced := rfl
    pulled := ⟨"", runCommand_sample rfl (by decide)⟩
    waited := fun _ _ => rfl
    recreated := ⟨"", runCommand_sample rfl (by decide)⟩ }
  validated := validated_sample (safeCurrentVersion_sample rfl (by decide) (by decide))

theorem rollbackWorks_sample :
    RollbackWorks (updateEnvironment pulls recreated) sampleConfig "v3.5.1" where
  restores := ⟨fun _ _ => rfl, fun _ _ => rfl⟩
  recreated := ⟨"", runCommand_sample rfl (by decide)⟩
  validated := validated_sample (safeCurrentVersion_sample rfl (by decide) (by decide))

theorem isNoted_rollback_sample :
    IsNoted (updateEnvironment pulls recreated) .rollback .rollback :=
  ⟨fun _ => nofun, rfl⟩

private theorem preflight_update_sample :
    preflight (updateEnvironment pulls recreated) sampleConfig sampleRequest.targetVersion
      (sampleHost sampleCompose) = .ok samplePreflight :=
  answersChecks_update.preflight_eq (by decide)

theorem keepsOutcome_iff_sample :
    Reports (updateEnvironment silent silent) sampleConfig sampleRequest
      (sampleHost sampleCompose) .success := by
  have noted : IsNoted (updateEnvironment silent silent) .update .success := ⟨fun _ => nofun, rfl⟩
  have keeps := (keepsOutcome_iff preflight_update_sample (by decide)).mpr
    fun _ => ⟨fun _ => noted, fun _ _ => isNoted_rollback_sample⟩
  exact keeps.success reachesUpdate_sample updateWorks_sample

/-- Docker does not answer the audit of the update in time. -/
abbrev lateEnvironment : UpdateEnvironment :=
  updateEnvironment silent (.timeoutExpired "Command 'docker inspect' timed out")

/-- An update that works is rolled back when docker answers its audit too late. -/
theorem late_answer_rolls_back :
    UpdateWorks lateEnvironment sampleConfig sampleRequest.targetVersion ∧
      Reports lateEnvironment sampleConfig sampleRequest (sampleHost sampleCompose) .rolledBack ∧
      ¬KeepsOutcome lateEnvironment sampleConfig sampleRequest (sampleHost sampleCompose)
        samplePreflight := by
  have late : ¬IsNoted lateEnvironment .update .success := fun noted => noted.answers _ rfl
  have reports : Reports lateEnvironment sampleConfig sampleRequest (sampleHost sampleCompose)
      .rolledBack :=
    (reports_rolledBack_iff preflight_update_sample (by decide)).mpr
      ⟨reachesUpdate_sample, fun both => late both.2, rollbackWorks_sample,
        isNoted_rollback_sample⟩
  refine ⟨updateWorks_sample, reports, fun keeps => ?_⟩
  obtain ⟨next, rolledBack⟩ := reports
  obtain ⟨other, success⟩ := keeps.success reachesUpdate_sample updateWorks_sample
  cases rolledBack.symm.trans success

end Samples

end TraefikManager.Update
