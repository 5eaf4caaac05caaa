import TraefikManager.Foundation.IncidentProtocol
import TraefikManager.Scripts.BottleneckAlert

/-!
# One alert for each stretch of slow deployments

The alert state names the incident by the revision of its oldest line that is still in the
history, so an alert is known as long as the rotation of the history leaves this line, or its
revision, and enough of the streak. Then every stretch of slow deployments is announced at most
once, and the end of every announced one is recorded.
-/

namespace TraefikManager.Scripts

open Foundation

section Streaks

variable {thresholdMs : Nat} {streak : Streak} {lines history : List HistoryEntry}
  {line : HistoryEntry}

private theorem count_analyzeLines : (analyzeLines thresholdMs streak lines).count =
    streak.count + (analyzeLines thresholdMs .empty lines).count := by
  induction lines generalizing streak with
  | nil => rfl
  | cons line older ih =>
      by_cases slow : line.isSlow thresholdMs = true
      · have first : (analyzeLines thresholdMs (Streak.add .empty line) older).count =
            (Streak.add .empty line).count + (analyzeLines thresholdMs .empty older).count := ih
        rw [analyzeLines, if_pos slow, analyzeLines, if_pos slow, ih, first]
        simp only [Streak.add, Streak.empty]
        omega
      · rw [analyzeLines, if_neg slow, analyzeLines, if_neg slow]
        rfl

private theorem incidentKey_analyzeLines : (analyzeLines thresholdMs streak lines).incidentKey =
    if (analyzeLines thresholdMs .empty lines).count = 0 then streak.incidentKey
    else (analyzeLines thresholdMs .empty lines).incidentKey := by
  induction lines generalizing streak with
  | nil => rfl
  | cons line older ih =>
      by_cases slow : line.isSlow thresholdMs = true
      · have counted : (analyzeLines thresholdMs .empty (line :: older)).count ≠ 0 := by
          rw [analyzeLines, if_pos slow, count_analyzeLines]
          simp [Streak.add]
        have first : (analyzeLines thresholdMs (Streak.add .empty line) older).incidentKey =
            if (analyzeLines thresholdMs .empty older).count = 0 then line.revision
            else (analyzeLines thresholdMs .empty older).incidentKey := ih
        rw [if_neg counted, analyzeLines, if_pos slow, analyzeLines, if_pos slow, ih, first]
        rfl
      · rw [analyzeLines, if_neg slow, analyzeLines, if_neg slow]
        rfl

/-- A history that ends with a line that is not slow has no streak. -/
theorem analyzeStreak_of_last (isLast : history.getLast? = some line)
    (notSlow : line.isSlow thresholdMs = false) : analyzeStreak thresholdMs history = .empty := by
  obtain ⟨earlier, rfl⟩ := List.getLast?_eq_some_iff.mp isLast
  rw [analyzeStreak, List.reverse_append]
  show analyzeLines thresholdMs .empty (line :: earlier.reverse) = _
  rw [analyzeLines, notSlow]
  rfl

/-- A slow line makes the streak one longer and names it only when it is the first. -/
theorem analyzeStreak_append (history : List HistoryEntry) (slow : line.isSlow thresholdMs = true) :
    (analyzeStreak thresholdMs (history ++ [line])).count =
        (analyzeStreak thresholdMs history).count + 1 ∧
      (analyzeStreak thresholdMs (history ++ [line])).incidentKey =
        if (analyzeStreak thresholdMs history).count = 0 then line.revision
        else (analyzeStreak thresholdMs history).incidentKey := by
  unfold analyzeStreak
  rw [List.reverse_append]
  show (analyzeLines thresholdMs .empty (line :: history.reverse)).count = _ ∧
    (analyzeLines thresholdMs .empty (line :: history.reverse)).incidentKey = _
  rw [analyzeLines, if_pos slow, count_analyzeLines, incidentKey_analyzeLines]
  refine ⟨?_, rfl⟩
  simp only [Streak.add, Streak.empty]
  omega

/-- A streak is named by the revision of one of its lines. -/
theorem incidentKey_ne_empty (revised : ∀ line ∈ history, line.revision ≠ "")
    (counted : (analyzeStreak thresholdMs history).count ≠ 0) :
    (analyzeStreak thresholdMs history).incidentKey ≠ "" := by
  induction history using List.reverseRecOn with
  | nil => exact absurd rfl counted
  | append_singleton earlier line ih =>
      by_cases slow : line.isSlow thresholdMs = true
      · rw [(analyzeStreak_append earlier slow).2]
        split
        · exact revised line (by simp)
        · rename_i more
          exact ih (fun other member => revised other (by simp [member])) more
      · rw [Bool.not_eq_true] at slow
        rw [analyzeStreak_of_last (by simp) slow] at counted
        exact absurd rfl counted

end Streaks

/-- A deployment with the check that follows it. Its revision is what `git rev-parse` prints. -/
structure DeploymentStep where
  entry : HistoryEntry
  input : CheckInput
  revised : entry.revision ≠ ""

def BottleneckEventKind.event : BottleneckEventKind → AlertEvent
  | alerted => .alert
  | cleared => .recovered

/-- A deployment appends its line, with the rotation, and the check follows. -/
def observeDeployment (config : BottleneckConfig) (limits : HistoryLimits) (step : DeploymentStep)
    (state : HistoryFiles × BottleneckFiles) : (HistoryFiles × BottleneckFiles) × IncidentCheck :=
  let history := appendHistory limits step.entry state.1
  let result := checkHistory config step.input history.current state.2
  ((history, result.files),
    { active := step.entry.isSlow config.thresholdMs
      delivered := result.requested && step.input.alert.isSome
      events := result.appended.map BottleneckEventKind.event })

/-- While an alert is recorded, the rotation after the append leaves the streak its name and
enough lines. -/
def IncidentKept (config : BottleneckConfig) (limits : HistoryLimits) (step : DeploymentStep)
    (state : HistoryFiles × BottleneckFiles) : Prop :=
  state.2.state ≠ none →
    config.consecutiveCount ≤
        (analyzeStreak config.thresholdMs (state.1.current.getD [] ++ [step.entry])).count →
      config.consecutiveCount ≤ (analyzeStreak config.thresholdMs
          ((appendHistory limits step.entry state.1).current.getD [])).count ∧
        (analyzeStreak config.thresholdMs
            ((appendHistory limits step.entry state.1).current.getD [])).incidentKey =
          (analyzeStreak config.thresholdMs
            (state.1.current.getD [] ++ [step.entry])).incidentKey

section Checks

variable {config : BottleneckConfig} {limits : HistoryLimits} {input : CheckInput}
  {files : BottleneckFiles} {streak : Streak} {status : String}

@[simp] theorem state_checkEventStorageAlert :
    (checkEventStorageAlert input files).state = files.state := by
  unfold checkEventStorageAlert
  dsimp only
  split <;> split <;> rfl

@[simp] theorem state_pruned : (pruneAlertEvents config input.now
    (migrateLegacyAlertEvents files)).state = files.state := by
  unfold pruneAlertEvents migrateLegacyAlertEvents
  dsimp only
  split <;> rfl

/-- The end of an incident takes the alert state away and is recorded when there was one. -/
theorem endIncident_spec (config : BottleneckConfig) (input : CheckInput) (status : String)
    (streak : Streak) (files : BottleneckFiles) :
    (endIncident config input status streak files).files.state = none ∧
      (endIncident config input status streak files).requested = false ∧
      (endIncident config input status streak files).appended =
        if files.state.isSome then [.cleared] else [] := by
  unfold endIncident
  cases isState : files.state with
  | none => simp [isState]
  | some alerted => simp

/-- An incident that is known stays as it is. -/
theorem announceIncident_known (config : BottleneckConfig) (input : CheckInput)
    {alerted : AlertRecord} (isState : files.state = some alerted)
    (named : streak.incidentKey ≠ "") (same : alerted.incidentKey = streak.incidentKey) :
    (announceIncident config input streak files).files.state = files.state ∧
      (announceIncident config input streak files).requested = false ∧
      (announceIncident config input streak files).appended = [] := by
  have known : (files.state.filter fun alerted =>
      alerted.incidentKey ≠ "" ∧ alerted.incidentKey = streak.incidentKey) = some alerted := by
    rw [isState]
    simp [same, named]
  simp only [announceIncident, known, state_checkEventStorageAlert, and_self]

/-- A new incident is requested, and recorded when the request succeeds. -/
theorem announceIncident_new (config : BottleneckConfig) (input : CheckInput) (streak : Streak)
    (isState : files.state = none) :
    (announceIncident config input streak files).requested = true ∧
      (input.alert = none ∧
          (announceIncident config input streak files).files.state = none ∧
          (announceIncident config input streak files).appended = [] ∨
        input.alert.isSome = true ∧
          (∃ alerted, (announceIncident config input streak files).files.state = some alerted ∧
            alerted.incidentKey = streak.incidentKey) ∧
          (announceIncident config input streak files).appended = [.alerted]) := by
  unfold announceIncident
  rw [isState]
  cases input.alert with
  | none => simp
  | some channel => simp [appendAlertEvent]

end Checks

/-- What the files know of the incident. -/
structure KnowsIncident (config : BottleneckConfig) (state : HistoryFiles × BottleneckFiles)
    (announced : Bool) : Prop where
  revised : ∀ line ∈ state.1.current.getD [], line.revision ≠ ""
  recorded : state.2.state.isSome = announced
  named : ∀ alerted, state.2.state = some alerted →
    config.consecutiveCount ≤
        (analyzeStreak config.thresholdMs (state.1.current.getD [])).count ∧
      alerted.incidentKey =
        (analyzeStreak config.thresholdMs (state.1.current.getD [])).incidentKey

section Protocol

variable {config : BottleneckConfig} {limits : HistoryLimits} {step : DeploymentStep}
  {state : HistoryFiles × BottleneckFiles} {announced : Bool}

private theorem knowsIncident_fresh :
    KnowsIncident config (HistoryFiles.none, BottleneckFiles.none) false where
  revised := by
    intro line member
    cases member
  recorded := rfl
  named := by
    intro alerted isState
    cases isState

private theorem revised_append (revised : ∀ line ∈ state.1.current.getD [], line.revision ≠ "") :
    ∀ line ∈ (appendHistory limits step.entry state.1).current.getD [], line.revision ≠ "" := by
  have extended : ∀ line ∈ state.1.current.getD [] ++ [step.entry], line.revision ≠ "" := by
    intro line member
    rcases List.mem_append.mp member with earlier | last
    · exact revised line earlier
    · rw [List.mem_singleton.mp last]
      exact step.revised
  rw [current_appendHistory, Option.getD_some]
  split
  · exact extended
  · intro line member
    exact extended line (List.mem_of_mem_drop member)

/-- A check after which no alert is recorded knows nothing of an incident. -/
theorem knowsIncident_none {files : BottleneckFiles}
    (revised : ∀ line ∈ (appendHistory limits step.entry state.1).current.getD [],
      line.revision ≠ "") (noState : files.state = none) :
    KnowsIncident config (appendHistory limits step.entry state.1, files) false where
  revised := revised
  recorded := by
    rw [noState]
    rfl
  named := by
    intro alerted isState
    rw [noState] at isState
    cases isState

/-- The rotation leaves a recorded incident its lines and its name. -/
theorem KnowsIncident.kept (knows : KnowsIncident config state announced)
    (kept : IncidentKept config limits step state) (slow : step.entry.isSlow config.thresholdMs = true)
    {alerted : AlertRecord} (isState : state.2.state = some alerted) :
    config.consecutiveCount ≤ (analyzeStreak config.thresholdMs
        ((appendHistory limits step.entry state.1).current.getD [])).count ∧
      alerted.incidentKey = (analyzeStreak config.thresholdMs
        ((appendHistory limits step.entry state.1).current.getD [])).incidentKey := by
  obtain ⟨enough, isKey⟩ := knows.named alerted isState
  obtain ⟨longer, sameKey⟩ := analyzeStreak_append (state.1.current.getD []) slow
  have recorded : state.2.state ≠ none := by
    rw [isState]
    exact Option.some_ne_none alerted
  have counted : (analyzeStreak config.thresholdMs (state.1.current.getD [])).count ≠ 0 := by
    have positive := config.consecutive_range.1
    omega
  rw [if_neg counted] at sameKey
  obtain ⟨stillEnough, stillKey⟩ := kept recorded (by omega)
  refine ⟨stillEnough, ?_⟩
  rw [stillKey, sameKey, isKey]

/-- A deployment and its check are a step of the protocol while the incident is kept. -/
theorem observeDeployment_step (knows : KnowsIncident config state announced)
    (kept : IncidentKept config limits step state) :
    ∃ next, IncidentStep announced (observeDeployment config limits step state).2 next ∧
      KnowsIncident config (observeDeployment config limits step state).1 next := by
  have revised : ∀ line ∈ (appendHistory limits step.entry state.1).current.getD [],
      line.revision ≠ "" := revised_append knows.revised
  have isLast : ((appendHistory limits step.entry state.1).current.getD []).getLast? =
      some step.entry := getLast?_appendHistory
  have keeps {alerted : AlertRecord} (slow : step.entry.isSlow config.thresholdMs = true)
      (isState : state.2.state = some alerted) := knows.kept kept slow isState
  unfold observeDeployment
  dsimp only
  have recorded := knows.recorded
  have isSome : (appendHistory limits step.entry state.1).current = some
      ((appendHistory limits step.entry state.1).current.getD []) := by
    rw [current_appendHistory, Option.getD_some]
  generalize isHistory : (appendHistory limits step.entry state.1).current.getD [] = lines at *
  rw [isSome]
  unfold checkHistory
  dsimp only
  generalize isPruned : pruneAlertEvents config step.input.now (migrateLegacyAlertEvents state.2) =
    files
  have sameState : files.state = state.2.state := by rw [← isPruned, state_pruned]
  rw [← sameState] at recorded keeps
  split
  · rename_i short
    obtain ⟨noState, noRequest, appended⟩ := endIncident_spec config step.input
      (if (analyzeStreak config.thresholdMs lines).count = 0 then "normal" else "pending")
      (analyzeStreak config.thresholdMs lines) files
    refine ⟨false, ?_, knowsIncident_none (isHistory ▸ revised) noState⟩
    rw [noRequest, appended, recorded]
    cases announced with
    | false => exact .quiet
    | true =>
        cases slow : step.entry.isSlow config.thresholdMs with
        | false => exact .recovered
        | true =>
            obtain ⟨alerted, isState⟩ := Option.isSome_iff_exists.mp recorded
            have enough := (keeps slow isState).1
            omega
  · rename_i long
    have slow : step.entry.isSlow config.thresholdMs = true := by
      by_contra notSlow
      rw [Bool.not_eq_true] at notSlow
      rw [analyzeStreak_of_last isLast notSlow] at long
      exact long config.consecutive_range.1
    rw [slow]
    have counted : (analyzeStreak config.thresholdMs lines).count ≠ 0 := by
      have positive := config.consecutive_range.1
      omega
    cases announced with
    | false =>
        have noState : files.state = none := by
          cases isState : files.state with
          | none => rfl
          | some alerted => simp [isState] at recorded
        obtain ⟨requested, outcome⟩ := announceIncident_new config step.input
          (analyzeStreak config.thresholdMs lines) noState
        rcases outcome with ⟨refused, stillNone, appended⟩ |
          ⟨delivered, ⟨alerted, isAlerted, named⟩, appended⟩
        · refine ⟨false, ?_, knowsIncident_none (isHistory ▸ revised) stillNone⟩
          rw [requested, refused, appended]
          exact .quiet
        · refine ⟨true, ?_, isHistory ▸ revised, ?_, ?_⟩
          · rw [requested, delivered, appended]
            exact .alerted
          · rw [isAlerted]
            rfl
          · intro other isState
            rw [isAlerted] at isState
            cases isState
            rw [isHistory]
            exact ⟨Nat.not_lt.mp long, named⟩
    | true =>
        obtain ⟨alerted, isState⟩ := Option.isSome_iff_exists.mp recorded
        obtain ⟨enough, isKey⟩ := keeps slow isState
        obtain ⟨stillState, noRequest, appended⟩ := announceIncident_known config step.input
          isState (incidentKey_ne_empty revised counted) isKey
        refine ⟨true, ?_, isHistory ▸ revised, ?_, ?_⟩
        · rw [noRequest, appended]
          exact .lasting
        · rw [stillState, recorded]
        · intro other isOther
          rw [stillState, isState] at isOther
          cases isOther
          rw [isHistory]
          exact ⟨enough, isKey⟩

/-- **One alert for each stretch.** While the rotation keeps the incident, every sequence of
deployments, each followed by its check, keeps the protocol. -/
theorem bottleneck_protocol (config : BottleneckConfig) (limits : HistoryLimits)
    (steps : List DeploymentStep)
    (met : Throughout (observeDeployment config limits) (IncidentKept config limits)
      (HistoryFiles.none, BottleneckFiles.none) steps) :
    IncidentProtocol (observedRun (observeDeployment config limits)
      (HistoryFiles.none, BottleneckFiles.none) steps) := by
  obtain ⟨final, isRun⟩ := StepRun.of_simulation observeDeployment_step knowsIncident_fresh met
  exact .of_run isRun

/-- A deployment whose build takes some time. -/
def builtIn (durationMs : Nat) (revision : String) (revised : revision ≠ "") : DeploymentStep :=
  { entry :=
      { status := .success, fromSlot := "blue", toSlot := "green", activeSlot := "green",
        version := "v1.0.0", revision, startedAt := "2026-07-17T00:00:00Z",
        completedAt := "2026-07-17T00:02:00Z", probeTotal := 10, probeFailures := 0,
        failureStage := "", failureReason := "", alertRequestStatus := "not_needed",
        alertChannel := "", alertRunUrl := "", stageDurationsMs := [(.build, durationMs)] }
    input := { now := 1784246520, alert := some "anubis", storageAlert := none }
    revised }

/-- Two slow deployments in a row, of over a minute, are announced. -/
def twiceAMinute : BottleneckConfig :=
  { thresholdMs := 60000, consecutiveCount := 2, eventRetentionDays := 90,
    thresholdSource := "settings", consecutiveSource := "settings",
    eventRetentionSource := "settings", threshold_range := by decide,
    consecutive_range := by decide, retention_range := by decide }

/-- A history of at most three lines. -/
def shortHistory : HistoryLimits :=
  { maxEntries := 3, retainEntries := 2, dailyRetainEntries := 5, retains := by decide,
    retainsDaily := by decide, retain_lt_max := by decide }

theorem bottleneck_protocol_example :
    IncidentProtocol (observedRun (observeDeployment twiceAMinute shortHistory)
      (HistoryFiles.none, BottleneckFiles.none)
      [builtIn 70000 "1" (by decide), builtIn 70000 "2" (by decide), builtIn 1000 "3" (by decide)]) :=
  bottleneck_protocol twiceAMinute shortHistory _ (by
    unfold IncidentKept
    decide)

/-- When the rotation drops the line that names the incident, it is announced a second time. -/
theorem rotated_incident_repeated :
    ¬IncidentProtocol (observedRun (observeDeployment twiceAMinute shortHistory)
      (HistoryFiles.none, BottleneckFiles.none)
      [builtIn 70000 "1" (by decide), builtIn 70000 "2" (by decide), builtIn 70000 "3" (by decide),
        builtIn 70000 "4" (by decide)]) := by
  intro kept
  generalize isChecks : observedRun (observeDeployment twiceAMinute shortHistory)
    (HistoryFiles.none, BottleneckFiles.none)
    [builtIn 70000 "1" (by decide), builtIn 70000 "2" (by decide), builtIn 70000 "3" (by decide),
      builtIn 70000 "4" (by decide)] = checks at kept
  have observed : checks = [⟨true, false, []⟩, ⟨true, true, [.alert]⟩, ⟨true, false, []⟩,
      ⟨true, true, [.alert]⟩] := by
    rw [← isChecks]
    decide
  have isStretch : IsStretch checks [] checks [] :=
    ⟨(List.append_nil checks).symm, by simp [observed], by simp [observed], by simp, by simp⟩
  have once := kept.one_delivery [] checks [] isStretch
  rw [observed] at once
  exact absurd once (by decide)

end Protocol

end TraefikManager.Scripts
