import TraefikManager.Update.Host

/-!
# The running container

What the runner asks docker about the container: its version, the checks after an update,
and its identity for the history of recreations.
-/

namespace TraefikManager.Update

open Foundation

section Versions

variable (environment : UpdateEnvironment)

/-- `_safe_current_version`. -/
def safeCurrentVersion (moment : Moment) : Option String :=
  let ofImage := (versionFromImage ((safeInspect environment moment .image).getD "")).toOption
  match safeInspect environment moment .versionLabel with
  | some label => if label ≠ "" ∧ isVersion label then some label else ofImage
  | none => ofImage

/-- The fields of the JSON object a text holds. -/
def jsonFields (text : String) : Option (List (String × Json)) :=
  match Json.loads text with
  | some (.object fields) => some fields
  | _ => none

/-- `isinstance(networks, dict) and config.network in networks`. -/
def hasNetwork (networks : Option (List (String × Json))) (network : String) : Bool :=
  (networks.getD []).any (·.1 = network)

/-- `_run_compose`. -/
def runCompose (command : Command) : Except UpdateError PUnit :=
  (runCommand environment command).map fun _ => ⟨⟩

end Versions

section Validation

variable (environment : UpdateEnvironment) (config : RunnerConfig) (expectedVersion : String)
  (stage : Stage)

/-- `_run_health_check`. -/
def runHealthCheck (round : Nat) : Bool :=
  (runCommand environment (.healthCheck stage round)).isOk

/-- A text docker printed, or what stands for none. -/
def orUnknown : Option String → String
  | some text => if text = "" then "확인 실패" else text
  | none => "확인 실패"

/-- `_runtime_checks`. -/
def runtimeChecks (round : Nat) : List Check :=
  let moment := Moment.validation stage round
  let running := safeInspect environment moment .running = some "true"
  let health := safeInspect environment moment .health
  let version := safeCurrentVersion environment moment
  let networks := (safeInspect environment moment .networks).bind jsonFields
  [validation "container_running" running "Traefik 컨테이너 실행 상태",
    validation "container_health" (health = some "healthy") ("컨테이너 health " ++ orUnknown health),
    validation "container_version" (version = some expectedVersion)
      ("컨테이너 버전 " ++ orUnknown version),
    validation "proxy_network" (hasNetwork networks config.network) (config.network ++ " 연결 상태")] ++
  if config.managerHealthUrl ≠ "" then
    [validation "manager_route" (runHealthCheck environment stage round)
      "Traefik 경유 Manager 공개 헬스 체크"]
  else []

/-- `all(check["status"] == "ok" for check in checks)`. -/
def allPassed (checks : List Check) : Bool := checks.all (·.status = .ok)

/-- The rounds of `_validate_runtime` that are left, after the checks of the last one. -/
def validateRounds : List Nat → List Check → Except UpdateError (List Check)
  | [], lastChecks =>
      .error (.validationError "업데이트 후 런타임 검증에 실패했습니다" lastChecks)
  | round :: rest, _ =>
      let checks := runtimeChecks environment config expectedVersion stage round
      if allPassed checks then .ok checks else validateRounds rest checks

/-- `_validate_runtime`. -/
def validateRuntime : Except UpdateError (List Check) :=
  validateRounds environment config expectedVersion stage (List.range 20) []

/-- `_validate_with_recreation_check`. -/
def validateWithRecreationCheck (recreateCheck : Check) : Except UpdateError (List Check) :=
  match validateRuntime environment config expectedVersion stage with
  | .ok checks => .ok (recreateCheck :: checks)
  | .error failure =>
      match failure with
      | .validationError text checks => .error (.validationError text (recreateCheck :: checks))
      | other => .error other

/-- Some round of the validation found the container running, healthy, in the expected
version, in its network and behind its route. -/
def Validated : Prop :=
  ∃ round < 20, allPassed (runtimeChecks environment config expectedVersion stage round) = true

variable {environment config expectedVersion stage}

theorem validateRounds_ok {rounds : List Nat} {lastChecks checks : List Check}
    (passed : validateRounds environment config expectedVersion stage rounds lastChecks =
      .ok checks) :
    ∃ round ∈ rounds, checks = runtimeChecks environment config expectedVersion stage round ∧
      allPassed checks = true := by
  induction rounds generalizing lastChecks with
  | nil => cases passed
  | cons round rest ih =>
      unfold validateRounds at passed
      dsimp only at passed
      split at passed
      · rename_i each
        cases passed
        exact ⟨round, by simp, rfl, each⟩
      · obtain ⟨later, member, isChecks, each⟩ := ih passed
        exact ⟨later, by simp [member], isChecks, each⟩

/-- The validation fails in no other way than with the checks of its last round. -/
theorem validateRounds_error {rounds : List Nat} {lastChecks : List Check} {failure : UpdateError}
    (failed : validateRounds environment config expectedVersion stage rounds lastChecks =
      .error failure) :
    ∃ checks, failure = .validationError "업데이트 후 런타임 검증에 실패했습니다" checks := by
  induction rounds generalizing lastChecks with
  | nil =>
      cases failed
      exact ⟨_, rfl⟩
  | cons round rest ih =>
      unfold validateRounds at failed
      dsimp only at failed
      split at failed
      · cases failed
      · exact ih failed

end Validation

end TraefikManager.Update
