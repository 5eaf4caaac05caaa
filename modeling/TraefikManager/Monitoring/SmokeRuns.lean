import TraefikManager.Foundation.Substring
import TraefikManager.IsoDatetime
import Mathlib.Data.List.Sort

/-!
# Runs of the smoke workflow

The workflow runs GitHub lists are selected, filtered and divided into pages, each run is made
an item with the steps of its jobs, and the runs of the last days are counted. Times are in
microseconds.
-/

namespace TraefikManager.Monitoring

open Foundation

section Values

/-- A value of a run or a step as GitHub lists it; one that is missing is null. -/
inductive RawValue where
  | null
  | int (value : Int)
  | text (value : String)
  deriving DecidableEq, Repr

namespace RawValue

/-- `_clean_text`. -/
def cleanText : RawValue → Option String
  | .null => none
  | .int value => some (toString value)
  | .text value => if Text.strip value = "" then none else some (Text.strip value)

/-- `str(value or "")`. -/
def textOrEmpty : RawValue → String
  | .null | .int 0 => ""
  | .int value => toString value
  | .text value => value

/-- `value if isinstance(value, int) else None`. -/
def int? : RawValue → Option Int
  | .int value => some value
  | _ => none

def isText : RawValue → Bool
  | .text _ => true
  | _ => false

/-- `first or second`. -/
def orElse (first second : RawValue) : RawValue :=
  match first with
  | .null | .int 0 | .text "" => second
  | value => value

end RawValue

/-- `parse_run_timestamp`. -/
def parseRunTimestamp (text : String) : Option Int :=
  (Datetime.fromIsoformat (Datetime.spellZulu text)).map (·.normalizeUtc.micros)

/-- `_timestamp`. -/
def timestamp : RawValue → Option Int
  | .text value => parseRunTimestamp value
  | _ => none

/-- What is read of a workflow run. -/
structure RawRun where
  id : RawValue
  status : RawValue := .null
  conclusion : RawValue := .null
  displayTitle : RawValue := .null
  event : RawValue := .null
  runNumber : RawValue := .null
  headSha : RawValue := .null
  createdAt : RawValue := .null
  runStartedAt : RawValue := .null
  updatedAt : RawValue := .null
  deriving DecidableEq, Repr

structure JobStep where
  name : RawValue
  conclusion : RawValue
  deriving DecidableEq, Repr

structure SmokeArtifact where
  url : Option String
  expiresAt : Option String
  deriving DecidableEq, Repr

end Values

section Classification

inductive CancellationReason where
  | timeout
  | superseded
  | manualOrUnknown
  deriving DecidableEq, Repr

/-- `_CANCELLATION_REASON_LABELS`. -/
def CancellationReason.label : CancellationReason → String
  | .timeout => "시간 초과"
  | .superseded => "새 실행으로 대체 추정"
  | .manualOrUnknown => "수동 취소 또는 원인 미확인"

/-- `_CANCELLED_CONCLUSIONS`. -/
def cancelledConclusions : List String := ["cancelled", "timed_out"]

/-- A conclusion in `_CANCELLED_CONCLUSIONS`. -/
def isCancelledConclusion (conclusion : Option String) : Bool :=
  conclusion.any fun text => text ∈ cancelledConclusions

namespace RawRun

/-- `_run_started_at`. -/
def startedAt (run : RawRun) : Option Int :=
  (timestamp run.runStartedAt).orElse fun _ => timestamp run.createdAt

/-- `is_cancelled_smoke_run`. -/
def isCancelledSmokeRun (run : RawRun) : Bool := isCancelledConclusion run.conclusion.cleanText

/-- `is_failed_smoke_run`. -/
def isFailedSmokeRun (run : RawRun) : Bool :=
  !run.conclusion.cleanText.any fun text => text ∈ ["success", "skipped"] ++ cancelledConclusions

/-- `needs_job_details`. -/
def needsJobDetails (run : RawRun) : Bool :=
  if run.isCancelledSmokeRun then false
  else run.event = .text "schedule" ∨ run.conclusion ≠ .text "success"

/-- A candidate started after a run, and not later than the run was cancelled. -/
def supersededBy (run candidate : RawRun) : Bool :=
  match run.startedAt, timestamp run.updatedAt, candidate.startedAt with
  | some startedAt, some cancelledAt, some candidateStartedAt =>
      candidate.id ≠ run.id ∧ startedAt < candidateStartedAt ∧ candidateStartedAt ≤ cancelledAt
  | _, _, _ => false

end RawRun

/-- `classify_smoke_cancellation_reason`. -/
def classifySmokeCancellationReason (run : RawRun) (allRuns : List RawRun) :
    Option CancellationReason :=
  let conclusion := run.conclusion.cleanText
  if conclusion = some "timed_out" then some .timeout
  else if conclusion ≠ some "cancelled" then none
  else if allRuns.any run.supersededBy then some .superseded
  else some .manualOrUnknown

end Classification

section Item

inductive SmokeRunStatus where
  | success
  | failure
  | cancelled
  | skipped
  deriving DecidableEq, Repr

structure SmokeRunItem where
  runId : RawValue
  status : SmokeRunStatus
  completedAt : RawValue
  runUrl : String
  runNumber : Option Int
  commitSha : Option String
  summary : Option String
  cancellationReason : Option CancellationReason
  notificationSuppressed : Bool
  artifactUrl : Option String
  artifactExpiresAt : Option String
  deriving DecidableEq, Repr

/-- `_find_step`. -/
def findStep (steps : List JobStep) (name : String) : Option JobStep :=
  steps.find? fun step => step.name = .text name

/-- The step that logs in and looks at the pages was skipped. -/
def smokeStepSkipped (steps : List JobStep) : Bool :=
  (findStep steps "운영 로그인·화면 검사").any fun step => step.conclusion = .text "skipped"

/-- The name of the first step with one of these conclusions. -/
def stepNameOf (steps : List JobStep) (conclusions : List String) : Option String :=
  (steps.find? fun step => conclusions.any fun text => step.conclusion = .text text).bind
    (·.name.cleanText)

/-- The status of an item. -/
def smokeRunStatus (run : RawRun) (steps : List JobStep) : SmokeRunStatus :=
  let conclusion := run.conclusion.cleanText
  if isCancelledConclusion conclusion then .cancelled
  else if conclusion = some "skipped" ∨ smokeStepSkipped steps then .skipped
  else if conclusion = some "success" then .success
  else .failure

/-- The summary of an item; the reason is that of a cancelled run. -/
def smokeRunSummary (run : RawRun) (steps : List JobStep) (reason : CancellationReason) :
    SmokeRunStatus → Option String
  | .cancelled =>
      match stepNameOf steps cancelledConclusions with
      | some name => some ("GitHub " ++ reason.label ++ ": " ++ Text.takeChars 120 name ++
          " · 앱 실패율 제외")
      | none => some ("GitHub " ++ reason.label ++ " · 앱 실패율 제외")
  | .skipped => some "예약 설정에 따라 점검을 건너뜀"
  | .success => none
  | .failure =>
      match stepNameOf steps ["failure", "cancelled", "timed_out"] with
      | some name => some ("실패 단계: " ++ Text.takeChars 120 name)
      | none => some ("GitHub 결과: " ++ run.conclusion.cleanText.getD "알 수 없음")

/-- The failure was not announced again because of the cooldown. -/
def notificationSuppressed (steps : List JobStep) : Bool :=
  (findStep steps "반복 실패 알림 cooldown 확인").any (·.conclusion = .text "success") &&
    (findStep steps "Telegram 실패 알림").any (·.conclusion = .text "skipped")

def runUrl (publicUrl : String) (id : RawValue) : String :=
  publicUrl ++ "/actions/runs/" ++ (id.cleanText.getD "None")

/-- `build_smoke_run_item`. -/
def buildSmokeRunItem (run : RawRun) (steps : List JobStep) (publicUrl : String)
    (artifact : Option SmokeArtifact) (cancellationReason : Option CancellationReason) :
    SmokeRunItem :=
  let status := smokeRunStatus run steps
  -- A cancelled run has a reason also where none is given and no other run is looked at.
  let reason := (cancellationReason.orElse fun _ =>
    classifySmokeCancellationReason run []).getD .manualOrUnknown
  { runId := run.id
    status := status
    completedAt := run.updatedAt
    runUrl := runUrl publicUrl run.id
    runNumber := run.runNumber.int?
    commitSha := run.headSha.cleanText.map (Text.takeChars 7)
    summary := smokeRunSummary run steps reason status
    cancellationReason := if status = .cancelled then some reason else none
    notificationSuppressed := status = .failure ∧ notificationSuppressed steps
    artifactUrl := if status = .failure then artifact.bind (·.url) else none
    artifactExpiresAt := if status = .failure then artifact.bind (·.expiresAt) else none }

end Item

section Selection

inductive StatusFilter where
  | all
  | success
  | failure
  | cancelled
  deriving DecidableEq, Repr

/-- The runs of the last days, by the time of their last change. -/
def recentRuns (runs : List RawRun) (days now : Int) : List RawRun :=
  runs.filter fun run => (timestamp run.updatedAt).any (now - days * 86400000000 ≤ ·)

/-- `select_operational_smoke_runs`. -/
def selectOperationalSmokeRuns (rawRuns : List RawRun) (recentDays : Option Int) (now : Int) :
    Except String (List RawRun) :=
  let operationalRuns := rawRuns.filter fun run =>
    run.id.int?.isSome ∧ run.updatedAt.isText ∧ run.status = .text "completed" ∧
      ¬ Text.startsWith "[테스트]" run.displayTitle.textOrEmpty
  match recentDays with
  | none => .ok operationalRuns
  | some days =>
      if days ≤ 0 then .error "recent_days must be positive"
      else .ok (recentRuns operationalRuns days now)

def StatusFilter.admits : StatusFilter → RawRun → Bool
  | .all, _ => true
  | .success, run => run.conclusion = .text "success" ∨ run.conclusion = .text "skipped"
  | .failure, run => run.isFailedSmokeRun
  | .cancelled, run => run.isCancelledSmokeRun

/-- `normalize_history_search`. -/
def normalizeHistorySearch (value : String) : String := Text.takeChars 100 (Text.strip value)

variable (casefold : String → String)

/-- A run whose number or commit contains what is searched for. -/
def matchesSearch (search : String) (run : RawRun) : Bool :=
  let needle := casefold (normalizeHistorySearch search)
  needle = "" || [run.runNumber, run.headSha].any fun value =>
    (Text.splitFirst needle.toList (casefold value.textOrEmpty).toList).isSome

/-- `filter_smoke_runs`; no reason stands for `all`. -/
def filterSmokeRuns (runs : List RawRun) (search : String) (statusFilter : StatusFilter)
    (reasonFilter : Option CancellationReason) : List RawRun :=
  runs.filter fun run =>
    statusFilter.admits run &&
      (reasonFilter.isNone || classifySmokeCancellationReason run runs = reasonFilter) &&
      matchesSearch casefold search run

/-- `RECENT_RUN_LIMIT`. -/
def recentRunLimit : ℕ := 5

/-- `select_smoke_run_groups`: the runs to show and the latest failure. -/
def selectSmokeRunGroups (rawRuns : List RawRun) (recentDays : Option Int) (now : Int)
    (search : String) (statusFilter : StatusFilter) (reasonFilter : Option CancellationReason) :
    Except String (List RawRun × Option RawRun) := do
  let operationalRuns ← selectOperationalSmokeRuns rawRuns recentDays now
  let latestFailure := operationalRuns.find? (·.isFailedSmokeRun)
  let filteredRuns := filterSmokeRuns casefold operationalRuns search statusFilter reasonFilter
  return (if recentDays.isSome then filteredRuns else filteredRuns.take recentRunLimit,
    latestFailure)

/-- `paginate_smoke_runs`: the runs of a page, and how many runs and pages there are. -/
def paginateSmokeRuns (runs : List RawRun) (page : Int) : Except String (List RawRun × ℕ × ℕ) :=
  if page < 1 then .error "page must be positive"
  else
    let start := (page.toNat - 1) * recentRunLimit
    .ok ((runs.drop start).take recentRunLimit, runs.length,
      (runs.length + recentRunLimit - 1) / recentRunLimit)

end Selection

section Statistics

/-- `_run_status`. -/
def runStatus (run : RawRun) : SmokeRunStatus :=
  if run.isCancelledSmokeRun then .cancelled
  else if run.isFailedSmokeRun then .failure
  else if run.conclusion = .text "skipped" then .skipped
  else .success

/-- `_run_duration_seconds`. -/
def runDurationSeconds (run : RawRun) : Option ℕ :=
  match parseRunTimestamp (run.runStartedAt.orElse run.createdAt).textOrEmpty,
      parseRunTimestamp run.updatedAt.textOrEmpty with
  | some startedAt, some completedAt =>
      if completedAt < startedAt then none else some ((completedAt - startedAt).toNat / 1000000)
  | _, _ => none

/-- `round(total / count)`: halves go to the even neighbour. -/
def roundedAverage (total count : ℕ) : ℕ :=
  let whole := total / count
  let twice := 2 * (total % count)
  if twice < count ∨ (twice = count ∧ whole % 2 = 0) then whole else whole + 1

structure SlowRun where
  runId : RawValue
  runNumber : Option Int
  status : SmokeRunStatus
  completedAt : RawValue
  durationSeconds : ℕ
  commitSha : Option String
  runUrl : String
  deriving DecidableEq, Repr

/-- `_build_slow_run`. -/
def buildSlowRun (run : RawRun) (durationSeconds : ℕ) (publicUrl : String) : SlowRun where
  runId := run.id
  runNumber := run.runNumber.int?
  status := runStatus run
  completedAt := run.updatedAt
  durationSeconds := durationSeconds
  commitSha :=
    let headSha := Text.takeChars 7 (Text.strip run.headSha.textOrEmpty)
    if headSha = "" then none else some headSha
  runUrl := runUrl publicUrl run.id

structure WindowStatistics where
  windowDays : ℕ
  totalCount : ℕ
  successCount : ℕ
  failureCount : ℕ
  cancelledCount : ℕ
  skippedCount : ℕ
  durationRunCount : ℕ
  totalDurationSeconds : ℕ
  averageDurationSeconds : ℕ
  estimatedRunnerMinutes : ℕ
  slowestRuns : List SlowRun
  deriving DecidableEq, Repr

/-- `STATISTICS_WINDOWS`. -/
def statisticsWindows : List ℕ := [7, 30]

/-- `FAILURE_DETAIL_WINDOWS`. -/
def failureDetailWindows : List ℕ := [7, 14, 30]

/-- `SLOWEST_RUN_LIMIT`. -/
def slowestRunLimit : ℕ := 5

/-- `_build_window_statistics`. -/
def buildWindowStatistics (rawRuns : List RawRun) (days : ℕ) (now : Int) (publicUrl : String) :
    Except String WindowStatistics := do
  let runs ← selectOperationalSmokeRuns rawRuns (some days) now
  let count := fun status => runs.countP (runStatus · = status)
  let durations := runs.filterMap fun run => (runDurationSeconds run).map (·, run)
  let totalDuration := (durations.map (·.1)).sum
  return {
    windowDays := days
    totalCount := runs.length
    successCount := count .success
    failureCount := count .failure
    cancelledCount := count .cancelled
    skippedCount := count .skipped
    durationRunCount := durations.length
    totalDurationSeconds := totalDuration
    averageDurationSeconds :=
      if durations.isEmpty then 0 else roundedAverage totalDuration durations.length
    estimatedRunnerMinutes := (durations.map fun entry => max 1 ((entry.1 + 59) / 60)).sum
    slowestRuns := ((durations.mergeSort fun left right => right.1 ≤ left.1).take
      slowestRunLimit).map fun entry => buildSlowRun entry.2 entry.1 publicUrl }

/-- `build_smoke_run_statistics`. -/
def buildSmokeRunStatistics (rawRuns : List RawRun) (publicUrl : String) (now : Int) :
    Except String (List WindowStatistics) :=
  statisticsWindows.mapM fun days => buildWindowStatistics rawRuns days now publicUrl

structure FailureRun where
  runId : RawValue
  runNumber : Option Int
  completedAt : RawValue
  runUrl : String
  deriving DecidableEq, Repr

/-- The failures of one window. -/
def failureRunsOf (rawRuns : List RawRun) (publicUrl : String) (now : Int) (days : ℕ) :
    Except String (List FailureRun) := do
  let runs ← selectOperationalSmokeRuns rawRuns (some days) now
  return (runs.filter (·.isFailedSmokeRun)).map fun run =>
    { runId := run.id
      runNumber := run.runNumber.int?
      completedAt := run.updatedAt
      runUrl := runUrl publicUrl run.id }

/-- `build_smoke_failure_runs_by_window`. -/
def buildSmokeFailureRunsByWindow (rawRuns : List RawRun) (publicUrl : String) (now : Int) :
    Except String (List (ℕ × List FailureRun)) :=
  failureDetailWindows.mapM fun days => do
    return (days, ← failureRunsOf rawRuns publicUrl now days)

end Statistics

end TraefikManager.Monitoring
