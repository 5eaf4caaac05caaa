import TraefikManager.Scripts.DeploymentHistory

/-!
# Alerts about slow deployments

After every deployment the host counts the slow deployments at the end of the history. Enough
of them in a row are announced once and recorded as an event, and another event follows when
they are over.
-/

namespace TraefikManager.Scripts

open Foundation

/-- A configuration that passes `validate_config`, with where its values come from. -/
structure BottleneckConfig where
  thresholdMs : Nat
  consecutiveCount : Nat
  eventRetentionDays : Nat
  thresholdSource : String
  consecutiveSource : String
  eventRetentionSource : String
  threshold_range : 1000 ≤ thresholdMs ∧ thresholdMs ≤ 900000
  consecutive_range : 0 < consecutiveCount ∧ consecutiveCount ≤ 20
  retention_range : 0 < eventRetentionDays ∧ eventRetentionDays ≤ 3650

section Streaks

/-- The slowest stage of a line and its duration. -/
def HistoryEntry.slowest (entry : HistoryEntry) : Nat × String :=
  entry.stageDurationsMs.foldl
    (fun slowest stage => if slowest.1 < stage.2 then (stage.2, stage.1.name) else slowest) (0, "")

/-- A line that counts: a success with a stage above the threshold. -/
def HistoryEntry.isSlow (thresholdMs : Nat) (entry : HistoryEntry) : Bool :=
  entry.status = .success ∧ thresholdMs < entry.slowest.1

/-- What `analyze_streak` prints. -/
structure Streak where
  count : Nat
  incidentKey : String
  latestVersion : String
  slowestStage : String
  slowestMs : Nat
  deriving DecidableEq, Repr

def Streak.empty : Streak :=
  { count := 0, incidentKey := "", latestVersion := "", slowestStage := "", slowestMs := 0 }

/-- One more line of the streak, older than those before it. -/
def Streak.add (streak : Streak) (line : HistoryEntry) : Streak :=
  { count := streak.count + 1
    incidentKey := line.revision
    latestVersion := if streak.count = 0 then line.version else streak.latestVersion
    slowestStage :=
      if streak.slowestMs < line.slowest.1 then line.slowest.2 else streak.slowestStage
    slowestMs := if streak.slowestMs < line.slowest.1 then line.slowest.1 else streak.slowestMs }

/-- The loop of `analyze_streak` over the lines from the newest on. -/
def analyzeLines (thresholdMs : Nat) : Streak → List HistoryEntry → Streak
  | streak, [] => streak
  | streak, line :: older =>
      if line.isSlow thresholdMs then analyzeLines thresholdMs (streak.add line) older else streak

/-- `analyze_streak`. -/
def analyzeStreak (thresholdMs : Nat) (history : List HistoryEntry) : Streak :=
  analyzeLines thresholdMs .empty history.reverse

end Streaks

section Files

/-- `write_alert_state`. -/
structure AlertRecord where
  incidentKey : String
  alertChannel : String
  runUrl : String
  alertedAt : Nat
  deriving DecidableEq, Repr

inductive BottleneckEventKind where
  | alerted
  | cleared
  deriving DecidableEq, Repr

/-- A line of the event file. -/
structure BottleneckEvent where
  event : BottleneckEventKind
  occurredAt : Nat
  thresholdMs : Nat
  requiredConsecutiveCount : Nat
  currentConsecutiveCount : Nat
  latestVersion : String
  slowestStage : String
  slowestMs : Nat
  alertChannel : String
  runUrl : String
  deriving DecidableEq, Repr

/-- `write_check_status`. -/
structure CheckStatus where
  status : String
  checkedAt : Nat
  effectiveThresholdMs : Nat
  effectiveConsecutiveCount : Nat
  effectiveEventRetentionDays : Nat
  thresholdSource : String
  consecutiveSource : String
  eventRetentionSource : String
  streak : Streak
  alertChannel : String
  runUrl : String
  alertedAt : Option Nat
  deriving DecidableEq, Repr

/-- The files of the alerts beside the history. -/
structure BottleneckFiles where
  state : Option AlertRecord
  status : Option CheckStatus
  events : Option (List BottleneckEvent)
  legacyEvents : Option (List BottleneckEvent)
  storageWarning : Option AlertRecord
  deriving DecidableEq, Repr

def BottleneckFiles.none : BottleneckFiles :=
  { state := Option.none, status := Option.none, events := Option.none,
    legacyEvents := Option.none, storageWarning := Option.none }

/-- `MAX_EVENT_LINES` -/
def maxEventLines : Nat := 100

/-- `EVENT_WARNING_COUNT` -/
def eventWarningCount : Nat := 80

/-- `migrate_legacy_alert_events`. -/
def migrateLegacyAlertEvents (files : BottleneckFiles) : BottleneckFiles :=
  match files.events, files.legacyEvents with
  | none, some legacy => { files with events := some (legacy.rtake maxEventLines) }
  | _, _ => files

/-- `prune_alert_events`. -/
def pruneAlertEvents (config : BottleneckConfig) (now : Nat) (files : BottleneckFiles) :
    BottleneckFiles :=
  let cutoff : Int := now - config.eventRetentionDays * 86400
  { files with
    events := files.events.map fun events =>
      (events.rtake maxEventLines).filter fun event => cutoff ≤ event.occurredAt }

/-- `append_alert_event`. -/
def appendAlertEvent (event : BottleneckEvent) (files : BottleneckFiles) : BottleneckFiles :=
  { files with events := some ((files.events.getD []).rtake (maxEventLines - 1) ++ [event]) }

end Files

/-- The time of a check, and what the requests for alerts return: the channel of the alert about
the streak when the request succeeds, and the channel of the one about the event file. -/
structure CheckInput where
  now : Nat
  alert : Option String
  storageAlert : Option String
  deriving DecidableEq, Repr

/-- What a check does: the files after it, the events it appended, whether it requested an alert
about the streak, and its exit code. -/
structure CheckResult where
  files : BottleneckFiles
  appended : List BottleneckEventKind
  requested : Bool
  exitCode : Nat
  deriving DecidableEq, Repr

/-- `check_event_storage_alert`. -/
def checkEventStorageAlert (input : CheckInput) (files : BottleneckFiles) : BottleneckFiles :=
  let eventCount := (files.events.getD []).length
  if eventWarningCount ≤ eventCount then
    match files.storageWarning, input.storageAlert with
    | none, some channel =>
        { files with
          storageWarning := some
            { incidentKey := toString eventCount, alertChannel := channel, runUrl := "",
              alertedAt := input.now } }
    | _, _ => files
  else
    match files.storageWarning, input.storageAlert with
    | some _, some _ => { files with storageWarning := none }
    | _, _ => files

section Checks

variable (config : BottleneckConfig) (input : CheckInput)

def checkStatus (status : String) (streak : Streak) (alertChannel runUrl : String)
    (alertedAt : Option Nat) : CheckStatus :=
  { status
    checkedAt := input.now
    effectiveThresholdMs := config.thresholdMs
    effectiveConsecutiveCount := config.consecutiveCount
    effectiveEventRetentionDays := config.eventRetentionDays
    thresholdSource := config.thresholdSource
    consecutiveSource := config.consecutiveSource
    eventRetentionSource := config.eventRetentionSource
    streak, alertChannel, runUrl, alertedAt }

def bottleneckEvent (event : BottleneckEventKind) (streak : Streak)
    (alertChannel runUrl : String) : BottleneckEvent :=
  { event
    occurredAt := input.now
    thresholdMs := config.thresholdMs
    requiredConsecutiveCount := config.consecutiveCount
    currentConsecutiveCount := streak.count
    latestVersion := streak.latestVersion
    slowestStage := streak.slowestStage
    slowestMs := streak.slowestMs
    alertChannel, runUrl }

/-- A streak that is too short ends what was announced. -/
def endIncident (status : String) (streak : Streak) (files : BottleneckFiles) : CheckResult :=
  let cleared :=
    match files.state with
    | some alerted =>
        { appendAlertEvent
            (bottleneckEvent config input .cleared streak alerted.alertChannel alerted.runUrl) files with
          state := none }
    | none => files
  { files := checkEventStorageAlert input
      { cleared with status := some (checkStatus config input status streak "" "" none) }
    appended := if files.state.isSome then [.cleared] else []
    requested := false
    exitCode := 0 }

/-- A streak that is long enough is announced unless it was before. -/
def announceIncident (streak : Streak) (files : BottleneckFiles) : CheckResult :=
  let known := files.state.filter fun alerted =>
    alerted.incidentKey ≠ "" ∧ alerted.incidentKey = streak.incidentKey
  match known with
  | some alerted =>
      { files := checkEventStorageAlert input
          { files with
            status := some (checkStatus config input "alerted" streak alerted.alertChannel
              alerted.runUrl (some alerted.alertedAt)) }
        appended := []
        requested := false
        exitCode := 0 }
  | none =>
      match input.alert with
      | none =>
          { files := checkEventStorageAlert input
              { files with
                status := some (checkStatus config input "request_failed" streak "" "" none) }
            appended := []
            requested := true
            exitCode := 1 }
      | some alertChannel =>
          let record : AlertRecord :=
            { incidentKey := streak.incidentKey, alertChannel, runUrl := "",
              alertedAt := input.now }
          let written : BottleneckFiles :=
            { files with
              state := some record
              status := some (checkStatus config input "alerted" streak alertChannel ""
                (some record.alertedAt)) }
          { files := checkEventStorageAlert input
              (appendAlertEvent (bottleneckEvent config input .alerted streak alertChannel "") written)
            appended := [.alerted]
            requested := true
            exitCode := 0 }

/-- `check_history`. -/
def checkHistory (history : Option (List HistoryEntry)) (files : BottleneckFiles) : CheckResult :=
  let files := pruneAlertEvents config input.now (migrateLegacyAlertEvents files)
  match history with
  | none => endIncident config input "no_history" .empty files
  | some lines =>
      let streak := analyzeStreak config.thresholdMs lines
      if streak.count < config.consecutiveCount then
        endIncident config input (if streak.count = 0 then "normal" else "pending") streak files
      else announceIncident config input streak files

end Checks

end TraefikManager.Scripts
