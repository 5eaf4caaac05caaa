import TraefikManager.Foundation.DeliveryProtocol
import TraefikManager.Foundation.Substring

/-!
# Watchdogs of the host

The scripts that check Manager's public address, the storefront and the user's systemd units.
Each keeps what it knows in a state file, decides from it and from the check whether an alert
is due, and writes the file again after the alert was sent or not.
-/

namespace TraefikManager.Scripts

open Foundation

section StateFiles

/-- A state file: a line `key=value` for each entry. -/
abbrev StateFile := List (String × String)

/-- `read_state`: the value of the first line with the key, nothing without one. -/
def readState (file : Option StateFile) (key : String) : String :=
  ((file.getD []).lookup key).getD ""

inductive Status where
  | unknown
  | healthy
  | unhealthy
  deriving DecidableEq, Repr

def Status.text : Status → String
  | unknown => "unknown"
  | healthy => "healthy"
  | unhealthy => "unhealthy"

/-- Any other text than `healthy` and `unhealthy` is an unknown status. -/
def readStatus (text : String) : Status :=
  if text = "healthy" then .healthy else if text = "unhealthy" then .unhealthy else .unknown

/-- `^[01]$`, else `0`. -/
def readFlag (text : String) : Bool := text = "1"

/-- `^[0-9]+$`, else `0`. -/
def readNumber (text : String) : Nat := (Text.digitsValue text.toList).getD 0

def flagText (flag : Bool) : String := if flag then "1" else "0"

/-- What every watchdog remembers of the runs before. -/
structure AlertState where
  status : Status
  alertActive : Bool
  lastAlertAt : Nat
  consecutiveFailures : Nat
  deriving DecidableEq, Repr

def loadAlertState (file : Option StateFile) : AlertState :=
  { status := readStatus (readState file "status")
    alertActive := readFlag (readState file "alert_active")
    lastAlertAt := readNumber (readState file "last_alert_at")
    consecutiveFailures := readNumber (readState file "consecutive_failures") }

/-- The lines every `write_state` begins with. -/
def AlertState.lines (state : AlertState) : StateFile :=
  [("status", state.status.text),
    ("alert_active", flagText state.alertActive),
    ("last_alert_at", toString state.lastAlertAt),
    ("consecutive_failures", toString state.consecutiveFailures)]

/-- `current_consecutive_failures`. -/
def AlertState.countFailures (previous : AlertState) (healthy : Bool) : Nat :=
  if healthy then 0
  else if previous.status = .unhealthy then previous.consecutiveFailures + 1
  else 1

def currentStatus (healthy : Bool) : Status := if healthy then .healthy else .unhealthy

/-- An alert with the arguments it is sent with. -/
structure Attempt where
  event : AlertEvent
  arguments : List String
  deriving DecidableEq, Repr

/-- What a run leaves behind. -/
structure Dispatched where
  attempted : Option Attempt
  file : StateFile
  exitCode : Nat
  deriving DecidableEq, Repr

private theorem readNumber_toString (n : Nat) : readNumber (toString n) = n := by
  rw [readNumber, Nat.toString_eq_repr, Nat.toList_repr, Text.digitsValue_toDigits]
  rfl

private theorem readFlag_flagText (flag : Bool) : readFlag (flagText flag) = flag := by
  cases flag <;> rfl

private theorem readStatus_text (status : Status) : readStatus status.text = status := by
  cases status <;> decide

/-- What a watchdog writes is what the next run reads. -/
theorem loadAlertState_lines (state : AlertState) (rest : StateFile) :
    loadAlertState (some (state.lines ++ rest)) = state := by
  have status : readState (some (state.lines ++ rest)) "status" = state.status.text := rfl
  have active : readState (some (state.lines ++ rest)) "alert_active" =
      flagText state.alertActive := rfl
  have last : readState (some (state.lines ++ rest)) "last_alert_at" =
      toString state.lastAlertAt := rfl
  have failures : readState (some (state.lines ++ rest)) "consecutive_failures" =
      toString state.consecutiveFailures := rfl
  rw [loadAlertState, status, active, last, failures, readStatus_text, readFlag_flagText,
    readNumber_toString, readNumber_toString]

end StateFiles

section ManagerHealth

inductive HealthAction where
  | none
  | failure
  | failureRepeat
  | recovery
  deriving DecidableEq, Repr

/-- `decide_action`. -/
def decideAction (currentStatus previousStatus : Status) (alertActive : Bool)
    (lastAlertAt nowEpoch cooldownSeconds : Nat) : HealthAction :=
  if currentStatus = .healthy then
    if previousStatus = .unhealthy ∧ alertActive then .recovery else .none
  else if lastAlertAt = 0 ∨ (cooldownSeconds : Int) ≤ (nowEpoch : Int) - lastAlertAt then
    if previousStatus = .unhealthy ∧ alertActive then .failureRepeat else .failure
  else .none

/-- What the state file says about the last alert that was sent. -/
structure LastDispatch where
  event : String
  success : String
  sentAt : String
  channel : String
  runUrl : String
  history : String
  deriving DecidableEq, Repr

/-- `https://github.com/*/actions/runs/*` -/
def isRunUrl (text : String) : Bool :=
  let start := "https://github.com/".toList
  start.isPrefixOf text.toList ∧
    (Text.splitFirst "/actions/runs/".toList (text.toList.drop start.length)).isSome

def loadLastDispatch (file : Option StateFile) : LastDispatch :=
  let event := readState file "last_dispatch_event"
  let event := if event = "failure" ∨ event = "recovery" then event else ""
  let success := readState file "last_dispatch_success"
  let success := if success = "0" ∨ success = "1" then success else ""
  let sentAt := readState file "last_dispatch_at"
  let sentAt := if (Text.digitsValue sentAt.toList).isSome then sentAt else "0"
  let runUrl := readState file "last_dispatch_run_url"
  let runUrl := if isRunUrl runUrl then runUrl else ""
  let channel := readState file "last_dispatch_channel"
  let channel :=
    if channel = "anubis" ∨ channel = "github" then channel
    else if runUrl ≠ "" then "github" else ""
  let history := readState file "dispatch_history"
  let history :=
    if history = "" ∧ runUrl ≠ "" ∧ event ≠ "" ∧ sentAt ≠ "0" then
      event ++ "|" ++ sentAt ++ "|" ++ runUrl
    else history
  { event, success, sentAt, channel, runUrl, history }

/-- `write_state` of the health watchdog. -/
def writeHealthState (state : AlertState) (dispatch : LastDispatch) : StateFile :=
  state.lines ++
    [("last_dispatch_event", dispatch.event),
      ("last_dispatch_success", dispatch.success),
      ("last_dispatch_at", dispatch.sentAt),
      ("last_dispatch_channel", dispatch.channel),
      ("last_dispatch_run_url", dispatch.runUrl),
      ("dispatch_history", dispatch.history)]

/-- A run of the health watchdog: what the check finds, when, and whether an alert it sends is
delivered. -/
structure HealthRun where
  healthy : Bool
  healthDetail : String
  nowEpoch : Nat
  delivered : Bool
  deriving DecidableEq, Repr

/-- The action of a run after a state file. -/
def HealthRun.action (cooldownSeconds : Nat) (run : HealthRun) (file : Option StateFile) :
    HealthAction :=
  let previous := loadAlertState file
  decideAction (currentStatus run.healthy) previous.status previous.alertActive
    previous.lastAlertAt run.nowEpoch cooldownSeconds

/-- `manager-health-watchdog.sh` from the reading of its state file on. -/
def managerHealthWatchdog (cooldownSeconds : Nat) (run : HealthRun) (file : Option StateFile) :
    Dispatched :=
  let previous := loadAlertState file
  let last := loadLastDispatch file
  let currentFailures := previous.countFailures run.healthy
  let sent (event success : String) : LastDispatch :=
    { event, success, sentAt := toString run.nowEpoch, channel := "anubis", runUrl := "",
      history := last.history }
  let failed : Dispatched :=
    let attempted := some ⟨.alert, ["failure", run.healthDetail, toString currentFailures]⟩
    if run.delivered then
      { attempted
        file := writeHealthState ⟨.unhealthy, true, run.nowEpoch, currentFailures⟩
          (sent "failure" "1")
        exitCode := 0 }
    else
      { attempted
        file := writeHealthState ⟨.unhealthy, false, previous.lastAlertAt, currentFailures⟩
          (sent "failure" "0")
        exitCode := 1 }
  match run.action cooldownSeconds file with
  | .failure => failed
  | .failureRepeat => failed
  | .recovery =>
      let attempted :=
        some ⟨.recovered, ["recovery", run.healthDetail, toString previous.consecutiveFailures]⟩
      if run.delivered then
        { attempted
          file := writeHealthState ⟨.healthy, false, previous.lastAlertAt, 0⟩ (sent "recovery" "1")
          exitCode := 0 }
      else
        { attempted
          file := writeHealthState
            ⟨.unhealthy, true, previous.lastAlertAt, previous.consecutiveFailures⟩
            (sent "recovery" "0")
          exitCode := 1 }
  | .none =>
      { attempted := none
        file := writeHealthState
          ⟨currentStatus run.healthy, previous.alertActive, previous.lastAlertAt, currentFailures⟩
          last
        exitCode := 0 }

end ManagerHealth

section HostAlerts

/-- What the storefront and the unit watchdog are configured with. -/
structure WatchdogConfig where
  failureThreshold : Nat
  cooldownSeconds : Nat
  deriving DecidableEq, Repr

/-- The `action` of the storefront and the unit watchdog. -/
def hostAction (config : WatchdogConfig) (previous : AlertState) (healthy : Bool)
    (nowEpoch : Nat) : Option AlertEvent :=
  if healthy ∧ previous.status = .unhealthy ∧ previous.alertActive then some .recovered
  else if ¬healthy ∧ config.failureThreshold ≤ previous.countFailures healthy then
    if ¬previous.alertActive ∨
        (config.cooldownSeconds : Int) ≤ (nowEpoch : Int) - previous.lastAlertAt then
      some .alert
    else none
  else none

/-- What a run of these two watchdogs finds and says. -/
structure HostCheck where
  healthy : Bool
  detail : String
  failureMessage : String
  recoveryMessage : String
  nowEpoch : Nat
  delivered : Bool
  deriving DecidableEq, Repr

/-- The alert of a run and the state file after it. -/
def dispatchHostAlert (config : WatchdogConfig) (alertSource : String) (check : HostCheck)
    (previous : AlertState) (writeState : AlertState → String → StateFile) : Dispatched :=
  let unchanged : AlertState :=
    { previous with
      status := currentStatus check.healthy
      consecutiveFailures := previous.countFailures check.healthy }
  match hostAction config previous check.healthy check.nowEpoch with
  | some .alert =>
      let attempted := some ⟨.alert, [alertSource, check.failureMessage, "failure"]⟩
      if check.delivered then
        { attempted
          file := writeState { unchanged with alertActive := true, lastAlertAt := check.nowEpoch }
            check.detail
          exitCode := 0 }
      else { attempted, file := writeState unchanged check.detail, exitCode := 1 }
  | some .recovered =>
      let attempted := some ⟨.recovered, [alertSource, check.recoveryMessage, "recovery"]⟩
      if check.delivered then
        { attempted
          file := writeState { unchanged with alertActive := false } check.detail
          exitCode := 0 }
      else
        { attempted
          file := writeState { previous with status := .unhealthy, alertActive := true }
            "recovery-alert-failed"
          exitCode := 1 }
  | none => { attempted := none, file := writeState unchanged check.detail, exitCode := 0 }

end HostAlerts

section Storefront

/-- A run of the storefront watchdog. The probe is asked with or without the check of the login
providers and answers with its success and its output. -/
structure StorefrontRun where
  todayKst : String
  hourKst : Nat
  forceOauthProviderCheck : Bool
  probe : Bool → Bool × String
  nowEpoch : Nat
  delivered : Bool

/-- Whether a run asks the probe for the login providers. -/
def StorefrontRun.verifyProvider (run : StorefrontRun) (file : Option StateFile) : Bool :=
  run.forceOauthProviderCheck ∨ readFlag (readState file "provider_failure") ∨
    6 ≤ run.hourKst ∧ readState file "last_provider_check_date" ≠ run.todayKst

def StorefrontRun.healthy (run : StorefrontRun) (file : Option StateFile) : Bool :=
  (run.probe (run.verifyProvider file)).1

/-- The first 300 characters of the output, on one line. -/
def StorefrontRun.probeOutput (run : StorefrontRun) (file : Option StateFile) : String :=
  Text.takeChars 300 (Text.replaceChar '\n' ' ' (run.probe (run.verifyProvider file)).2)

/-- `write_state` of the storefront watchdog. -/
def writeStorefrontState (nowEpoch : Nat) (lastProviderCheckDate : String) (providerFailure : Bool)
    (state : AlertState) (detail : String) : StateFile :=
  state.lines ++
    [("last_check_at", toString nowEpoch),
      ("last_provider_check_date", lastProviderCheckDate),
      ("provider_failure", flagText providerFailure),
      ("detail", detail)]

/-- `last_provider_check_date` after a run. -/
def StorefrontRun.lastProviderCheckDate (run : StorefrontRun) (file : Option StateFile) : String :=
  if run.verifyProvider file then run.todayKst else readState file "last_provider_check_date"

/-- `current_provider_failure`. -/
def StorefrontRun.providerFailure (run : StorefrontRun) (file : Option StateFile) : Bool :=
  let before := readFlag (readState file "provider_failure")
  if run.verifyProvider file then
    if (Text.splitFirst "providerFailure=1".toList (run.probeOutput file).toList).isSome then true
    else if run.healthy file then false
    else before
  else before

/-- What a run of the storefront watchdog finds and says. -/
def StorefrontRun.check (run : StorefrontRun) (file : Option StateFile) : HostCheck :=
  let previous := loadAlertState file
  { healthy := run.healthy file
    detail := run.probeOutput file
    failureMessage :=
      "연속 실패 " ++ toString (previous.countFailures (run.healthy file)) ++ "회 · " ++
        run.probeOutput file
    recoveryMessage :=
      "정상 복구 · 장애 중 연속 실패 " ++ toString previous.consecutiveFailures ++ "회"
    nowEpoch := run.nowEpoch
    delivered := run.delivered }

/-- `tcg-storefront-watchdog.sh` from the reading of its state file on. -/
def tcgStorefrontWatchdog (config : WatchdogConfig) (run : StorefrontRun)
    (file : Option StateFile) : Dispatched :=
  dispatchHostAlert config "TCG 구매·SNS 로그인 외부 점검" (run.check file) (loadAlertState file)
    (writeStorefrontState run.nowEpoch (run.lastProviderCheckDate file) (run.providerFailure file))

end Storefront

section UserSystemdUnits

/-- A run of the unit watchdog: the issues of `check_units` and the units of the baseline. -/
structure UnitRun where
  issues : List String
  baselineUnits : Nat
  nowEpoch : Nat
  delivered : Bool
  deriving DecidableEq, Repr

def UnitRun.healthy (run : UnitRun) : Bool := run.issues.isEmpty

/-- `write_state` of the unit watchdog. -/
def writeUnitState (nowEpoch : Nat) (state : AlertState) (detail : String) : StateFile :=
  state.lines ++ [("last_check_at", toString nowEpoch), ("detail", detail)]

/-- What a run of the unit watchdog finds and says. -/
def UnitRun.check (run : UnitRun) (file : Option StateFile) : HostCheck :=
  let previous := loadAlertState file
  { healthy := run.healthy
    detail :=
      if run.healthy then "ok:" ++ toString run.baselineUnits ++ "-units"
      else Text.takeChars 500 (Text.join "," run.issues)
    failureMessage :=
      "연속 감지 " ++ toString (previous.countFailures run.healthy) ++ "회 · " ++
        run.issues.headD ""
    recoveryMessage :=
      "정상 복구 · 장애 중 연속 감지 " ++ toString previous.consecutiveFailures ++ "회"
    nowEpoch := run.nowEpoch
    delivered := run.delivered }

/-- `user-systemd-unit-watchdog.sh` from the reading of its state file on. -/
def userSystemdUnitWatchdog (config : WatchdogConfig) (run : UnitRun) (file : Option StateFile) :
    Dispatched :=
  dispatchHostAlert config "사용자 systemd 타이머·서비스 점검" (run.check file)
    (loadAlertState file) (writeUnitState run.nowEpoch)

end UserSystemdUnits

end TraefikManager.Scripts
