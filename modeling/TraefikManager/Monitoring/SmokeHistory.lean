import TraefikManager.Monitoring.SmokeRuns

/-!
# The history of the smoke runs

A page of the history shows the runs a filter lets through, each by an item of its own, next to
the statistics of the last days. A run is classified in each of these places anew: with the
steps of its jobs in the item, and with different lists of other runs in the filter and in the
item.
-/

namespace TraefikManager.Monitoring

open Foundation

section History

/-- What a page of the history is asked for. -/
structure HistoryRequest where
  recentDays : Option Int := none
  page : Int := 1
  search : String := ""
  statusFilter : StatusFilter := .all
  cancellationReasonFilter : Option CancellationReason := none
  deriving DecidableEq, Repr

structure SmokeHistory where
  runs : List SmokeRunItem
  latestFailure : Option SmokeRunItem
  statistics : List WindowStatistics
  failureRunsByWindow : List (ℕ × List FailureRun)
  total : ℕ
  totalPages : ℕ
  request : HistoryRequest
  perPage : ℕ
  error : Option String
  deriving DecidableEq, Repr

/-- `build_smoke_history_error`. -/
def buildSmokeHistoryError (message : String) (request : HistoryRequest) : SmokeHistory where
  runs := []
  latestFailure := none
  statistics := []
  failureRunsByWindow := []
  total := 0
  totalPages := 0
  request := request
  perPage := recentRunLimit
  error := some message

/-- The runs of a page, the latest failure, and how many runs and pages there are. -/
structure SelectedPage where
  runs : List RawRun
  latestFailure : Option RawRun
  total : ℕ
  totalPages : ℕ

/-- The runs whose details are read: those of the page, and the latest failure. -/
def SelectedPage.detailRuns (selected : SelectedPage) : List RawRun :=
  match selected.latestFailure with
  | some failure =>
      if selected.runs.all (·.id ≠ failure.id) then selected.runs ++ [failure] else selected.runs
  | none => selected.runs

/-- Steps and items are kept by the number of their run; the last run of a number counts. -/
def lastWithId (runs : List RawRun) (run : RawRun) : RawRun :=
  (runs.reverse.find? fun other => other.id = run.id).getD run

/-- What GitHub answers about single runs. -/
structure RunDetails where
  readSmokeJobSteps : RawValue → List JobStep
  readSmokeArtifacts : List RawValue → RawValue → Option SmokeArtifact

variable (casefold : String → String) (rawRuns : List RawRun) (now : Int)

/-- The page of a request. -/
def selectPage (request : HistoryRequest) : Except String SelectedPage := do
  let (allRuns, latestFailure) ← selectSmokeRunGroups casefold rawRuns request.recentDays now
    request.search request.statusFilter request.cancellationReasonFilter
  let (runs, total, totalPages) ← paginateSmokeRuns allRuns request.page
  return ⟨runs, latestFailure, total, totalPages⟩

variable (details : RunDetails) (publicUrl : String)

/-- The item of a run among those whose details were read. -/
def historyItem (detailRuns : List RawRun) (run : RawRun) : SmokeRunItem :=
  let shown := lastWithId detailRuns run
  let steps := if shown.needsJobDetails then details.readSmokeJobSteps shown.id else []
  let artifactRunIds := (detailRuns.filter (·.isFailedSmokeRun)).map (·.id)
  let artifact :=
    if artifactRunIds.isEmpty then none else details.readSmokeArtifacts artifactRunIds shown.id
  buildSmokeRunItem shown steps publicUrl artifact (classifySmokeCancellationReason shown rawRuns)

/-- `fetch_smoke_run_history`, of the runs that were listed. -/
def fetchSmokeRunHistory (request : HistoryRequest) : Except String SmokeHistory :=
  match selectPage casefold rawRuns now request with
  | .error _ =>
      .ok (buildSmokeHistoryError "GitHub 실행 이력을 확인하지 못했습니다" request)
  | .ok selected => do
      let statistics ← buildSmokeRunStatistics rawRuns publicUrl now
      let failureRunsByWindow ← buildSmokeFailureRunsByWindow rawRuns publicUrl now
      let item := historyItem rawRuns details publicUrl selected.detailRuns
      return {
        runs := selected.runs.map item
        latestFailure := selected.latestFailure.map item
        statistics := statistics
        failureRunsByWindow := failureRunsByWindow
        total := selected.total
        totalPages := selected.totalPages
        request := request
        perPage := recentRunLimit
        error := none }

end History

section Items

variable {run : RawRun} {steps : List JobStep} {publicUrl : String}
  {artifact : Option SmokeArtifact} {reason : Option CancellationReason}

/-- The item of a run reports a failure or a cancellation exactly when the filters do. -/
def ItemAgrees (run : RawRun) (item : SmokeRunItem) : Prop :=
  (item.status = .failure ↔ run.isFailedSmokeRun) ∧
    (item.status = .cancelled ↔ run.isCancelledSmokeRun)

private theorem smokeRunStatus_cancelled_iff :
    smokeRunStatus run steps = .cancelled ↔ run.isCancelledSmokeRun := by
  unfold smokeRunStatus RawRun.isCancelledSmokeRun
  dsimp only
  split
  · simp_all
  · split
    · simp_all
    · split <;> simp_all

/-- A failed run is reported as one unless its smoke step was skipped. -/
theorem smokeRunStatus_failure_iff :
    smokeRunStatus run steps = .failure ↔ run.isFailedSmokeRun ∧ ¬ smokeStepSkipped steps := by
  unfold smokeRunStatus RawRun.isFailedSmokeRun isCancelledConclusion
  cases conclusion : run.conclusion.cleanText with
  | none => cases smokeStepSkipped steps <;> simp
  | some text =>
      simp only [Option.any_some, cancelledConclusions, List.cons_append, List.nil_append,
        List.mem_cons, List.not_mem_nil, or_false]
      by_cases skipped : smokeStepSkipped steps
      · simp only [skipped, or_true, ↓reduceIte]
        split <;> simp_all
      · simp only [skipped, Bool.false_eq_true, or_false]
        by_cases stopped : text = "cancelled" ∨ text = "timed_out"
        · simp [stopped]
        · by_cases passed : text = "success" <;> by_cases unscheduled : text = "skipped" <;>
            simp_all

private theorem itemAgrees_iff :
    ItemAgrees run (buildSmokeRunItem run steps publicUrl artifact reason) ↔
      ¬ (run.isFailedSmokeRun ∧ smokeStepSkipped steps) := by
  have status : (buildSmokeRunItem run steps publicUrl artifact reason).status =
      smokeRunStatus run steps := rfl
  unfold ItemAgrees
  rw [status, smokeRunStatus_failure_iff, smokeRunStatus_cancelled_iff]
  tauto

/-- A cancelled run is shown with the reason that is given. -/
theorem cancellationReason_of_cancelled (cancelled : run.isCancelledSmokeRun)
    (given : CancellationReason) :
    (buildSmokeRunItem run steps publicUrl artifact (some given)).cancellationReason =
      some given := by
  have status : smokeRunStatus run steps = .cancelled :=
    smokeRunStatus_cancelled_iff.mpr cancelled
  simp [buildSmokeRunItem, status]

end Items

section Reasons

variable {run : RawRun} {runs : List RawRun}

private theorem classify_timedOut (timedOut : run.conclusion.cleanText = some "timed_out") :
    classifySmokeCancellationReason run runs = some .timeout := by
  simp [classifySmokeCancellationReason, timedOut]

private theorem classify_cancelled (cancelled : run.conclusion.cleanText = some "cancelled") :
    classifySmokeCancellationReason run runs =
      some (if runs.any run.supersededBy then .superseded else .manualOrUnknown) := by
  by_cases found : runs.any run.supersededBy <;>
    simp [classifySmokeCancellationReason, cancelled, found]

/-- Only a cancelled run has a reason. -/
theorem conclusion_of_classify {reason : CancellationReason}
    (classified : classifySmokeCancellationReason run runs = some reason) :
    run.conclusion.cleanText = some "timed_out" ∨ run.conclusion.cleanText = some "cancelled" := by
  unfold classifySmokeCancellationReason at classified
  by_cases timedOut : run.conclusion.cleanText = some "timed_out"
  · exact .inl timedOut
  · by_cases cancelled : run.conclusion.cleanText = some "cancelled"
    · exact .inr cancelled
    · simp [timedOut, cancelled] at classified

private theorem isCancelled_of_classify {reason : CancellationReason}
    (classified : classifySmokeCancellationReason run runs = some reason) :
    run.isCancelledSmokeRun := by
  rcases conclusion_of_classify classified with timedOut | cancelled
  · simp [RawRun.isCancelledSmokeRun, isCancelledConclusion, cancelledConclusions, timedOut]
  · simp [RawRun.isCancelledSmokeRun, isCancelledConclusion, cancelledConclusions, cancelled]

/-- Among more runs a run has the same reason, unless it is only there that a newer run is
found. -/
theorem classify_superset_iff {more : List RawRun} (included : ∀ other ∈ runs, other ∈ more)
    {reason : CancellationReason}
    (classified : classifySmokeCancellationReason run runs = some reason) :
    classifySmokeCancellationReason run more = some reason ↔
      (reason = .manualOrUnknown → ¬ more.any run.supersededBy) := by
  rcases conclusion_of_classify classified with timedOut | cancelled
  · rw [classify_timedOut timedOut] at classified ⊢
    cases classified
    simp
  · rw [classify_cancelled cancelled] at classified ⊢
    by_cases found : runs.any run.supersededBy
    · obtain ⟨newer, inRuns, supersedes⟩ := List.any_eq_true.mp found
      have foundAgain : more.any run.supersededBy :=
        List.any_eq_true.mpr ⟨newer, included newer inRuns, supersedes⟩
      rw [if_pos found] at classified
      cases classified
      simp [foundAgain]
    · rw [if_neg found] at classified
      cases classified
      by_cases newer : more.any run.supersededBy <;> simp [newer]

end Reasons

section Pages

variable {casefold : String → String} {rawRuns : List RawRun} {now : Int}
  {request : HistoryRequest} {selected : SelectedPage} {run : RawRun}

private theorem mem_lastWithId {runs : List RawRun} (member : run ∈ runs) :
    lastWithId runs run ∈ runs := by
  unfold lastWithId
  cases found : runs.reverse.find? fun other => other.id = run.id with
  | none => exact member
  | some last => exact List.mem_reverse.mp (List.mem_of_find?_eq_some found)

/-- The latest failure is only added where no run of the page has its number. -/
theorem lastWithId_detailRuns (member : run ∈ selected.runs) :
    lastWithId selected.detailRuns run = lastWithId selected.runs run := by
  unfold SelectedPage.detailRuns
  cases selected.latestFailure with
  | none => rfl
  | some failure =>
      dsimp only
      split
      · rename_i apart
        have differs : failure.id ≠ run.id := by
          have := List.all_eq_true.mp apart run member
          exact fun same => (of_decide_eq_true this) same.symm
        simp [lastWithId, differs]
      · rfl

private theorem mem_of_selectOperational {recentDays : Option Int} {operational : List RawRun}
    (done : selectOperationalSmokeRuns rawRuns recentDays now = .ok operational) :
    ∀ run ∈ operational, run ∈ rawRuns := by
  intro run member
  unfold selectOperationalSmokeRuns at done
  dsimp only at done
  split at done
  · cases done
    exact (List.mem_filter.mp member).1
  · split at done
    · cases done
    · cases done
      exact (List.mem_filter.mp (List.mem_filter.mp member).1).1

/-- The runs of a page passed the filter, which compared them with runs among those listed. -/
theorem classified_of_selectPage (done : selectPage casefold rawRuns now request = .ok selected)
    {reason : CancellationReason} (asked : request.cancellationReasonFilter = some reason) :
    ∃ operational : List RawRun, (∀ other ∈ operational, other ∈ rawRuns) ∧
      ∀ run ∈ selected.runs, classifySmokeCancellationReason run operational = some reason := by
  unfold selectPage selectSmokeRunGroups at done
  cases isSelected : selectOperationalSmokeRuns rawRuns request.recentDays now with
  | error failure => simp [isSelected, bind, Except.bind] at done
  | ok operational =>
      refine ⟨operational, mem_of_selectOperational isSelected, fun run member => ?_⟩
      simp only [isSelected, bind, Except.bind, pure, Except.pure, paginateSmokeRuns] at done
      split at done
      · cases done
      · rename_i paged
        split at paged
        · cases paged
        · cases paged
          cases done
          have inFiltered := List.mem_of_mem_drop (List.mem_of_mem_take member)
          have passed : run ∈ filterSmokeRuns casefold operational request.search
              request.statusFilter request.cancellationReasonFilter := by
            split at inFiltered
            · exact inFiltered
            · exact List.mem_of_mem_take inFiltered
          have admitted := (List.mem_filter.mp passed).2
          simp only [asked, Option.isNone_some, Bool.false_or, Bool.and_eq_true,
            decide_eq_true_eq] at admitted
          exact admitted.1.2

/-- A page of the runs with one reason shows this reason at each run, unless a run without a
newer one among those the filter compares it with has one among all that were listed. -/
theorem reason_shown_iff (details : RunDetails) (publicUrl : String)
    (done : selectPage casefold rawRuns now request = .ok selected)
    {reason : CancellationReason} (asked : request.cancellationReasonFilter = some reason) :
    (∀ run ∈ selected.runs, (historyItem rawRuns details publicUrl selected.detailRuns
        run).cancellationReason = some reason) ↔
      (reason = .manualOrUnknown → ∀ run ∈ selected.runs,
        ¬ rawRuns.any (lastWithId selected.runs run).supersededBy) := by
  obtain ⟨operational, listed, classified⟩ := classified_of_selectPage done asked
  have each : ∀ run ∈ selected.runs,
      (historyItem rawRuns details publicUrl selected.detailRuns run).cancellationReason =
          some reason ↔
        (reason = .manualOrUnknown → ¬ rawRuns.any (lastWithId selected.runs run).supersededBy) := by
    intro run member
    have shown := classified _ (mem_lastWithId member)
    have cancelled := isCancelled_of_classify shown
    rw [← classify_superset_iff listed shown]
    unfold historyItem
    dsimp only
    rw [lastWithId_detailRuns member]
    rcases conclusion_of_classify shown with timedOut | isCancelled
    · rw [classify_timedOut timedOut, cancellationReason_of_cancelled cancelled]
    · rw [classify_cancelled isCancelled, cancellationReason_of_cancelled cancelled]
  constructor
  · intro shown isManual run member
    exact (each run member).mp (shown run member) isManual
  · intro unsuperseded run member
    exact (each run member).mpr fun isManual => unsuperseded isManual run member

end Pages

section Windows

variable {rawRuns : List RawRun} {now : Int} {publicUrl : String} {days : ℕ}

/-- The counts of a window and the failures listed for it. -/
def WindowAgrees (window : WindowStatistics) (failures : List FailureRun) : Prop :=
  window.successCount + window.failureCount + window.cancelledCount + window.skippedCount =
      window.totalCount ∧
    window.failureCount = failures.length

/-- Each run has exactly one of the four statuses. -/
theorem countP_runStatus (runs : List RawRun) :
    runs.countP (runStatus · = .success) + runs.countP (runStatus · = .failure) +
      runs.countP (runStatus · = .cancelled) + runs.countP (runStatus · = .skipped) =
        runs.length := by
  induction runs with
  | nil => rfl
  | cons run runs ih =>
      simp only [List.countP_cons, List.length_cons]
      cases runStatus run <;> simp <;> omega

private theorem not_failed_of_cancelled {run : RawRun} (cancelled : run.isCancelledSmokeRun) :
    ¬ run.isFailedSmokeRun := by
  unfold RawRun.isCancelledSmokeRun isCancelledConclusion at cancelled
  cases conclusion : run.conclusion.cleanText with
  | none => simp [conclusion] at cancelled
  | some text =>
      rw [conclusion, Option.any_some, decide_eq_true_eq] at cancelled
      have excluded := List.mem_append_right ["success", "skipped"] cancelled
      rw [RawRun.isFailedSmokeRun, conclusion, Option.any_some, decide_eq_true excluded]
      decide

private theorem runStatus_failure_iff (run : RawRun) :
    runStatus run = .failure ↔ run.isFailedSmokeRun := by
  unfold runStatus
  split
  · rename_i cancelled
    simp [not_failed_of_cancelled cancelled]
  · split
    · simp_all
    · split <;> simp_all

private theorem windowAgrees {window : WindowStatistics} {failures : List FailureRun}
    (counted : buildWindowStatistics rawRuns days now publicUrl = .ok window)
    (listed : failureRunsOf rawRuns publicUrl now days = .ok failures) :
    WindowAgrees window failures := by
  unfold buildWindowStatistics failureRunsOf at *
  cases isSelected : selectOperationalSmokeRuns rawRuns (some days) now with
  | error failure =>
      rw [isSelected] at counted
      cases counted
  | ok runs =>
      rw [isSelected] at counted listed
      cases counted
      cases listed
      refine ⟨countP_runStatus runs, ?_⟩
      rw [List.length_map, ← List.countP_eq_length_filter]
      exact List.countP_congr fun run _ => by simp [runStatus_failure_iff]

private theorem selectOperational_ok (days : ℕ) (positive : 0 < days) (rawRuns : List RawRun)
    (now : Int) : ∃ runs, selectOperationalSmokeRuns rawRuns (some days) now = .ok runs := by
  have notNegative : ¬ (days : Int) ≤ 0 := by omega
  simp only [selectOperationalSmokeRuns, notNegative, ↓reduceIte]
  exact ⟨_, rfl⟩

private theorem buildWindowStatistics_ok (days : ℕ) (positive : 0 < days) (rawRuns : List RawRun)
    (now : Int) (publicUrl : String) :
    ∃ window, buildWindowStatistics rawRuns days now publicUrl = .ok window ∧
      window.windowDays = days := by
  obtain ⟨runs, isSelected⟩ := selectOperational_ok days positive rawRuns now
  unfold buildWindowStatistics
  rw [isSelected]
  exact ⟨_, rfl, rfl⟩

private theorem failureRunsOf_ok (days : ℕ) (positive : 0 < days) (rawRuns : List RawRun)
    (now : Int)
    (publicUrl : String) : ∃ failures, failureRunsOf rawRuns publicUrl now days = .ok failures := by
  obtain ⟨runs, isSelected⟩ := selectOperational_ok days positive rawRuns now
  unfold failureRunsOf
  rw [isSelected]
  exact ⟨_, rfl⟩

end Windows

section Agreement

/-- The counts of each window add up, and its failures are those that are listed. -/
def WindowsAgree (history : SmokeHistory) : Prop :=
  ∀ window ∈ history.statistics, ∃ failures,
    history.failureRunsByWindow.lookup window.windowDays = some failures ∧
      WindowAgrees window failures

/-- All runs of a page are shown with one reason. -/
def ShowsReason (history : SmokeHistory) (reason : CancellationReason) : Prop :=
  ∀ item ∈ history.runs, item.cancellationReason = some reason

instance (history : SmokeHistory) (reason : CancellationReason) :
    Decidable (ShowsReason history reason) :=
  inferInstanceAs (Decidable (∀ item ∈ history.runs, item.cancellationReason = some reason))

private theorem windows_agree (rawRuns : List RawRun) (now : Int) (publicUrl : String) :
    ∃ statistics failureRuns, buildSmokeRunStatistics rawRuns publicUrl now = .ok statistics ∧
      buildSmokeFailureRunsByWindow rawRuns publicUrl now = .ok failureRuns ∧
      ∀ window ∈ statistics, ∃ failures,
        failureRuns.lookup window.windowDays = some failures ∧ WindowAgrees window failures := by
  obtain ⟨week, countedWeek, isWeek⟩ :=
    buildWindowStatistics_ok 7 (by decide) rawRuns now publicUrl
  obtain ⟨month, countedMonth, isMonth⟩ :=
    buildWindowStatistics_ok 30 (by decide) rawRuns now publicUrl
  obtain ⟨failuresOfWeek, listedWeek⟩ :=
    failureRunsOf_ok 7 (by decide) rawRuns now publicUrl
  obtain ⟨failuresBetween, listedBetween⟩ :=
    failureRunsOf_ok 14 (by decide) rawRuns now publicUrl
  obtain ⟨failuresOfMonth, listedMonth⟩ :=
    failureRunsOf_ok 30 (by decide) rawRuns now publicUrl
  refine ⟨[week, month], [(7, failuresOfWeek), (14, failuresBetween), (30, failuresOfMonth)],
    ?_, ?_, fun window member => ?_⟩
  · simp only [buildSmokeRunStatistics, statisticsWindows, List.mapM_cons, List.mapM_nil,
      countedWeek, countedMonth]
    rfl
  · simp only [buildSmokeFailureRunsByWindow, failureDetailWindows, List.mapM_cons, List.mapM_nil,
      listedWeek, listedBetween, listedMonth]
    rfl
  · rcases List.mem_pair.mp member with rfl | rfl
    · exact ⟨failuresOfWeek, by rw [isWeek]; rfl, windowAgrees countedWeek listedWeek⟩
    · exact ⟨failuresOfMonth, by rw [isMonth]; rfl, windowAgrees countedMonth listedMonth⟩

/-- **What is shown of the runs agrees with the filters and the statistics.** An item reports
failures and cancellations as the filters do unless the smoke step of a failed run was skipped.
The counts agree always. The reason shown is the one filtered for, unless a run that is shown
as cancelled by hand has a newer one among the runs that were listed. -/
theorem smoke_history_agrees (casefold : String → String) :
    (∀ run steps publicUrl artifact reason,
      ItemAgrees run (buildSmokeRunItem run steps publicUrl artifact reason) ↔
        ¬ (run.isFailedSmokeRun ∧ smokeStepSkipped steps)) ∧
    ∀ rawRuns now details publicUrl request, ∃ history,
      fetchSmokeRunHistory casefold rawRuns now details publicUrl request = .ok history ∧
      WindowsAgree history ∧
      ∀ reason, request.cancellationReasonFilter = some reason →
        (ShowsReason history reason ↔
          (reason = .manualOrUnknown →
            ∀ selected, selectPage casefold rawRuns now request = .ok selected →
              ∀ run ∈ selected.runs,
                ¬ rawRuns.any (lastWithId selected.runs run).supersededBy)) := by
  refine ⟨fun _ _ _ _ _ => itemAgrees_iff, fun rawRuns now details publicUrl request => ?_⟩
  unfold fetchSmokeRunHistory
  cases done : selectPage casefold rawRuns now request with
  | error failure =>
      refine ⟨_, rfl, fun window member => absurd member List.not_mem_nil, fun reason _ => ?_⟩
      simp [ShowsReason, buildSmokeHistoryError]
  | ok selected =>
      obtain ⟨statistics, failureRuns, counted, listed, agree⟩ :=
        windows_agree rawRuns now publicUrl
      dsimp only
      rw [counted, listed]
      refine ⟨_, rfl, agree, fun reason asked => ?_⟩
      have shown := reason_shown_iff details publicUrl done asked
      simpa [ShowsReason] using shown

/-- A run of the workflow that started at a minute of some hour and ended at another. -/
def smokeRun (id : Int) (status conclusion startedAt updatedAt : String) : RawRun where
  id := .int id
  status := .text status
  conclusion := .text conclusion
  runStartedAt := .text startedAt
  updatedAt := .text updatedAt

/-- A run that fails before its smoke step is shown as skipped. A run cancelled for a newer one
that is still going on passes the filter for manual cancellations and is shown as superseded. -/
theorem smoke_history_disagrees :
    (¬ ∀ run steps publicUrl artifact reason,
      ItemAgrees run (buildSmokeRunItem run steps publicUrl artifact reason)) ∧
    ¬ ∀ casefold rawRuns now details publicUrl request history reason,
      fetchSmokeRunHistory casefold rawRuns now details publicUrl request = .ok history →
      request.cancellationReasonFilter = some reason → ShowsReason history reason := by
  constructor
  · intro agrees
    have := agrees (smokeRun 20 "completed" "failure" "" "")
      [⟨.text "의존성 설치", .text "failure"⟩, ⟨.text "운영 로그인·화면 검사", .text "skipped"⟩] "" none none
    rw [itemAgrees_iff] at this
    revert this
    decide
  · intro shows
    let cancelled :=
      smokeRun 20 "completed" "cancelled" "2026-07-11T07:00:05Z" "2026-07-11T07:03:00Z"
    let newer := smokeRun 21 "in_progress" "" "2026-07-11T07:02:05Z" "2026-07-11T07:02:30Z"
    have := shows id [newer, cancelled] 0 ⟨fun _ => [], fun _ _ => none⟩ ""
      { cancellationReasonFilter := some .manualOrUnknown } _ .manualOrUnknown rfl rfl
    revert this
    decide +kernel

end Agreement

end TraefikManager.Monitoring
