import TraefikManager.Monitoring.ThresholdMonitors

/-!
# The monitor of the settings history

The monitor compares the latency of the settings history with a threshold, once there are
enough samples. Whether an alert is marked active follows the last measurement alone, also
when the samples are too few or the cooldown keeps the alert back.
-/

namespace TraefikManager.Monitoring

open Foundation

section Checking

/-- What the reader of the log reports; the numbers are kept for the status page. -/
structure LatencySummary where
  available : Bool
  ready : Bool
  breached : Bool
  sampleCount : Int
  p95Ms : Json
  exact : Json.Exact p95Ms

/-- What a check reads: the clock, the settings and the summary, none when reading fails. -/
structure LatencyInput where
  now : Datetime.Instant
  enabledValue : Option String
  cooldownValue : Option String
  cooldownSeconds : Option Int
  minimumIntervalSeconds : Int
  summary : Option LatencySummary

namespace LatencyInput

variable (input : LatencyInput)

def enabled : Bool := (readManagerHealthMonitoringValues input.enabledValue none).1

def effectiveCooldown : Int :=
  effectiveCooldownSeconds input.cooldownSeconds
    (readManagerHealthMonitoringValues none input.cooldownValue).2

/-- The summary, when the measurement is available. -/
def measurement : Option LatencySummary := input.summary.filter (·.available)

end LatencyInput

/-- `_checked_recently`. -/
def checkedRecently (state : MonitorState) (now intervalSeconds : Int) : Bool :=
  match state.get? "checked_at" with
  | some (.string value) =>
      match Datetime.fromIsoformat (Datetime.spellZulu value) with
      | some checkedAt => 0 < intervalSeconds ∧
          now - checkedAt.normalizeUtc.micros < intervalSeconds * 1000000
      | none => false
  | _ => false

/-- The event of a check with enough or too few samples, and whether an alert was kept back. -/
def latencyEvent (previous : MonitorState) (now cooldownSeconds : Int) (ready breached : Bool) :
    Option String × Nat :=
  if ready ∧ breached ∧ alertDue (previous.get? "last_alert_at") now cooldownSeconds then
    (some "manager_settings_history_latency_high", 0)
  else if ready ∧ breached then (none, 1)
  else if ready ∧ truthy (previous.get? "alert_active") then
    (some "manager_settings_history_latency_recovered", 0)
  else (none, 0)

/-- The state after a check that was measured. -/
def latencyState (previous : MonitorState) (now : Int) (summary : LatencySummary)
    (event : Option String) : MonitorState :=
  Dict.ofList [("available", .bool true), ("ready", .bool summary.ready),
    ("alert_active", .bool (summary.ready && summary.breached)),
    ("last_alert_at",
      lastAlertAt (event = some "manager_settings_history_latency_high") now previous),
    ("checked_at", .string (Datetime.utc now).isoformat),
    ("sample_count", .int summary.sampleCount), ("p95_ms", summary.p95Ms)]

/-- `check_manager_settings_history_latency_once`. -/
def checkManagerSettingsHistoryLatencyOnce (input : LatencyInput) (stored : Option String) :
    CheckResult :=
  let previous := parseState stored
  if ¬input.enabled then disabledResult stored
  else if checkedRecently previous input.now.micros input.minimumIntervalSeconds then
    ⟨stored, none, 0⟩
  else
    match input.summary with
    | none => ⟨stored, none, 0⟩
    | some summary =>
        if ¬summary.available then
          let state := (previous.set "available" (.bool false)).set "checked_at"
            (.string (Datetime.utc input.now.micros).isoformat)
          ⟨some (dumpState state), none, 0⟩
        else
          let (event, suppressedCount) := latencyEvent previous input.now.micros
            input.effectiveCooldown summary.ready summary.breached
          ⟨some (dumpState (latencyState previous input.now.micros summary event)), event,
            suppressedCount⟩

/-- What a check measures: nothing when it reads nothing, or when the samples are too few. -/
def LatencyInput.measured (input : LatencyInput) (stored : Option String) :
    Option (Option Unit) :=
  if checkedRecently (parseState stored) input.now.micros input.minimumIntervalSeconds then none
  else (input.measurement.filter (·.ready)).map fun summary =>
    if summary.breached then some () else none

/-- A check, with what is observed of it. -/
def latencyAct (input : LatencyInput) (stored : Option String) :
    Option String × AlertCheck Unit :=
  let result := checkManagerSettingsHistoryLatencyOnce input stored
  (result.stored, ⟨input.now.micros, input.effectiveCooldown * 1000000, input.measured stored,
    eventsOf "manager_settings_history_latency_high" result.event⟩)

/-- A check finds too few samples only while no alert is marked active, and a breach within the
cooldown only while one is. -/
def KeepsAlert (input : LatencyInput) (stored : Option String) : Prop :=
  let previous := parseState stored
  checkedRecently previous input.now.micros input.minimumIntervalSeconds = false →
    ∀ summary ∈ input.measurement,
      (summary.ready = false → truthy (previous.get? "alert_active") = false) ∧
      (summary.ready = true → summary.breached = true →
        alertDue (previous.get? "last_alert_at") input.now.micros input.effectiveCooldown = false →
          truthy (previous.get? "alert_active") = true)

end Checking

section Runs

variable {input : LatencyInput} {stored : Option String} {alert : Option (OpenAlert Unit)}

private theorem latencyEvent_notReady (previous : MonitorState) (now seconds : Int)
    (breached : Bool) : latencyEvent previous now seconds false breached = (none, 0) := by
  simp [latencyEvent]

/-- With enough samples the event is that of the other thresholds, unless the cooldown keeps back
the first alert. -/
theorem latencyEvent_ready {previous : MonitorState} {now seconds : Int} {breached : Bool}
    (kept : breached = true → alertDue (previous.get? "last_alert_at") now seconds = false →
      truthy (previous.get? "alert_active") = true) :
    latencyEvent previous now seconds true breached =
      thresholdEvent "manager_settings_history_latency_high"
        "manager_settings_history_latency_recovered" previous now seconds breached := by
  unfold latencyEvent thresholdEvent
  cases breached with
  | false => simp
  | true =>
      cases due : alertDue (previous.get? "last_alert_at") now seconds with
      | true => simp
      | false =>
          have active := kept rfl due
          simp [active]

private theorem exact_latencyState {previous : MonitorState} (exact : ExactState previous)
    (now : Int) (summary : LatencySummary) (event : Option String) :
    ExactState (latencyState previous now summary event) := by
  apply exactState_ofList
  simp only [List.forall_mem_cons]
  exact ⟨.bool _, .bool _, .bool _, exact.lastAlertAt _ _, .string _, .int _, summary.exact,
    by simp⟩

/-- The keys of the state are distinct, so that each has the value it is listed with. -/
theorem get?_latencyState {previous : MonitorState} {now : Int} {summary : LatencySummary}
    {event : Option String} {key : String} {value : Json}
    (listed : (key, value) ∈ [("available", Json.bool true), ("ready", .bool summary.ready),
      ("alert_active", .bool (summary.ready && summary.breached)),
      ("last_alert_at",
        lastAlertAt (event = some "manager_settings_history_latency_high") now previous),
      ("checked_at", .string (Datetime.utc now).isoformat),
      ("sample_count", .int summary.sampleCount), ("p95_ms", summary.p95Ms)]) :
    (latencyState previous now summary event).get? key = some value :=
  Dict.get?_ofList_of_mem (by simp) listed

private theorem active_latencyState (previous : MonitorState) (now : Int) (summary : LatencySummary)
    (event : Option String) : (latencyState previous now summary event).get? "alert_active" =
      some (.bool (summary.ready && summary.breached)) := get?_latencyState (by simp)

private theorem last_latencyState (previous : MonitorState) (now : Int) (summary : LatencySummary)
    (event : Option String) : (latencyState previous now summary event).get? "last_alert_at" =
      some (lastAlertAt (event = some "manager_settings_history_latency_high") now previous) :=
  get?_latencyState (by simp)

private theorem checkedRecently_latencyState (previous : MonitorState) (earlier : Datetime.Instant)
    (summary : LatencySummary) (event : Option String) (now interval : Int) :
    checkedRecently (latencyState previous earlier.micros summary event) now interval =
      decide (0 < interval ∧ now - earlier.micros < interval * 1000000) := by
  have isText : (latencyState previous earlier.micros summary event).get? "checked_at" =
      some (.string (Datetime.utc earlier.micros).isoformat) := get?_latencyState (by simp)
  unfold checkedRecently
  rw [isText]
  simp only [Datetime.spellZulu_isoformat, Datetime.fromIsoformat_isoformat earlier.inRange,
    Datetime.normalizeUtc_micros]
  rfl

private theorem latencyAct_unread (enabled : input.enabled = true)
    (unread : checkedRecently (parseState stored) input.now.micros input.minimumIntervalSeconds =
      true ∨ input.summary = none) :
    latencyAct input stored =
      (stored, ⟨input.now.micros, input.effectiveCooldown * 1000000, none, []⟩) := by
  unfold latencyAct checkManagerSettingsHistoryLatencyOnce LatencyInput.measured
    LatencyInput.measurement
  simp only [enabled, not_true, if_false]
  rcases unread with recent | failed
  · simp [recent, eventsOf]
  · rw [failed]
    split <;> rfl

variable {summary : LatencySummary}

private theorem latencyAct_unavailable (enabled : input.enabled = true)
    (due : checkedRecently (parseState stored) input.now.micros input.minimumIntervalSeconds = false)
    (isSummary : input.summary = some summary) (unavailable : summary.available = false) :
    latencyAct input stored =
      (some (dumpState (((parseState stored).set "available" (.bool false)).set "checked_at"
        (.string (Datetime.utc input.now.micros).isoformat))),
        ⟨input.now.micros, input.effectiveCooldown * 1000000, none, []⟩) := by
  unfold latencyAct checkManagerSettingsHistoryLatencyOnce LatencyInput.measured
    LatencyInput.measurement
  simp [enabled, due, isSummary, unavailable, Option.filter, eventsOf]

private theorem latencyAct_available (enabled : input.enabled = true)
    (due : checkedRecently (parseState stored) input.now.micros input.minimumIntervalSeconds = false)
    (isSummary : input.summary = some summary) (available : summary.available = true) :
    latencyAct input stored =
      (some (dumpState (latencyState (parseState stored) input.now.micros summary
          (latencyEvent (parseState stored) input.now.micros input.effectiveCooldown summary.ready
            summary.breached).1)),
        ⟨input.now.micros, input.effectiveCooldown * 1000000,
          if summary.ready then some (if summary.breached then some () else none) else none,
          eventsOf "manager_settings_history_latency_high"
            (latencyEvent (parseState stored) input.now.micros input.effectiveCooldown
              summary.ready summary.breached).1⟩) := by
  unfold latencyAct checkManagerSettingsHistoryLatencyOnce LatencyInput.measured
    LatencyInput.measurement
  cases ready : summary.ready <;>
    simp [enabled, due, isSummary, available, ready, Option.filter]

/-- The text that is kept tracks the open alert. -/
def TracksLatency (stored : Option String) (alert : Option (OpenAlert Unit)) : Prop :=
  Tracks Unmarked (parseState stored) alert

/-- A check that keeps the alert is a step of the protocol. -/
theorem latencyAct_step (tracked : TracksLatency stored alert)
    (kept : input.enabled = true ∧ KeepsAlert input stored) :
    ∃ next, AlertStep alert (latencyAct input stored).2 next ∧
      TracksLatency (latencyAct input stored).1 next := by
  obtain ⟨enabled, kept⟩ := kept
  unfold TracksLatency at tracked ⊢
  cases recent : checkedRecently (parseState stored) input.now.micros
      input.minimumIntervalSeconds with
  | true =>
      rw [latencyAct_unread enabled (.inl recent)]
      exact ⟨alert, .unavailable, tracked⟩
  | false =>
  cases isSummary : input.summary with
  | none =>
      rw [latencyAct_unread enabled (.inr isSummary)]
      exact ⟨alert, .unavailable, tracked⟩
  | some summary =>
  cases available : summary.available with
  | false =>
      have exact : ExactState (((parseState stored).set "available" (.bool false)).set
          "checked_at" (.string (Datetime.utc input.now.micros).isoformat)) :=
        (tracked.exact.set _ (.bool _)).set _ (.string _)
      rw [latencyAct_unavailable enabled recent isSummary available]
      refine ⟨alert, .unavailable, ?_⟩
      rw [parseState_dumpState exact]
      apply tracked.congr exact
      · simp [Dict.get?_set]
      · simp [Dict.get?_set]
      · exact fun _ _ => trivial
  | true =>
      have isMeasured : summary ∈ input.measurement := by
        simp [LatencyInput.measurement, isSummary, Option.filter, available]
      obtain ⟨few, held⟩ := kept recent summary isMeasured
      have exact := exact_latencyState tracked.exact input.now.micros summary
        (latencyEvent (parseState stored) input.now.micros input.effectiveCooldown summary.ready
          summary.breached).1
      rw [latencyAct_available enabled recent isSummary available, parseState_dumpState exact]
      cases ready : summary.ready with
      | false =>
          have inactive := few ready
          rw [tracked.active, Option.isSome_eq_false_iff, Option.isNone_iff_eq_none] at inactive
          subst inactive
          rw [ready, latencyEvent_notReady] at exact
          rw [latencyEvent_notReady]
          have notActive : truthy ((latencyState (parseState stored) input.now.micros summary
              none).get? "alert_active") = (none : Option (OpenAlert Unit)).isSome := by
            rw [active_latencyState, ready]
            rfl
          exact ⟨none, .unavailable, exact, notActive, by simp, by simp⟩
      | true =>
          rw [ready] at exact
          obtain ⟨⟨event, suppressedCount⟩, isEvent⟩ : ∃ decision, latencyEvent
              (parseState stored) input.now.micros input.effectiveCooldown true
              summary.breached = decision := ⟨_, rfl⟩
          rw [isEvent] at exact ⊢
          rw [latencyEvent_ready (held ready)] at isEvent
          have active : (latencyState (parseState stored) input.now.micros summary event).get?
              "alert_active" = some (.bool summary.breached) := by
            rw [active_latencyState, ready, Bool.true_and]
          exact thresholdEvent_step (by decide) tracked input.now isEvent exact active
            (last_latencyState _ _ _ _)

/-- In every run of checks that keep the alert, recoveries are announced exactly after alerts. -/
theorem recoveries_of_keptAlerts {inputs : List LatencyInput}
    (enabled : ∀ input ∈ inputs, input.enabled = true)
    (kept : Throughout latencyAct KeepsAlert none inputs) :
    RecoveryProtocol (observedRun latencyAct none inputs) := by
  have fresh : TracksLatency none none := tracks_empty
  obtain ⟨final, run⟩ := StepRun.of_simulation latencyAct_step fresh (kept.and_forall enabled)
  exact AlertRun.recoveries run

/-- A minute of the first hours of 1970. -/
def minuteInstant (minute : Fin 1000) : Datetime.Instant where
  micros := minute * 60000000
  inRange := by
    unfold Datetime.InRange Iso.minDay Iso.maxDay Datetime.utc
    dsimp only
    omega

/-- A check with the default settings. -/
def minuteCheck (minute : Fin 1000) (ready breached : Bool) : LatencyInput where
  now := minuteInstant minute
  enabledValue := none
  cooldownValue := none
  cooldownSeconds := none
  minimumIntervalSeconds := 300
  summary := some ⟨true, ready, breached, 5, .null, .null⟩

private theorem keepsAlert_first (minute : Fin 1000) :
    KeepsAlert (minuteCheck minute true true) none := by
  intro recent summary isSummary
  cases isSummary
  refine ⟨fun few => ?_, fun ready breached held => ?_⟩
  · cases few
  · cases held

private theorem keepsAlert_healthy (minute : Fin 1000) (stored : Option String) :
    KeepsAlert (minuteCheck minute true false) stored := by
  intro recent summary isSummary
  cases isSummary
  refine ⟨fun few => ?_, fun ready breached held => ?_⟩
  · cases few
  · cases breached

theorem recoveries_of_keptAlerts_example :
    RecoveryProtocol (observedRun latencyAct none
      [minuteCheck 0 true true, minuteCheck 10 true false]) := by
  have enabled : ∀ input ∈ [minuteCheck 0 true true, minuteCheck 10 true false],
      input.enabled = true := by
    intro input inInputs
    simp only [List.mem_cons, List.not_mem_nil, or_false] at inInputs
    rcases inInputs with rfl | rfl <;> rfl
  have kept : Throughout latencyAct KeepsAlert none
      [minuteCheck 0 true true, minuteCheck 10 true false] := by
    unfold Throughout
    refine ⟨keepsAlert_first 0, ?_⟩
    unfold Throughout
    exact ⟨keepsAlert_healthy 10 _, trivial⟩
  exact recoveries_of_keptAlerts enabled kept

/-- A check after a measured one, at least five minutes later. -/
theorem latencyAct_minuteCheck {previous : MonitorState} (exact : ExactState previous)
    {earlier minute : Fin 1000} {summary : LatencySummary} {event : Option String}
    {ready breached : Bool} (later : earlier.val + 5 ≤ minute.val) {state : MonitorState}
    (isState : state = latencyState previous (minuteInstant earlier).micros summary event) :
    latencyAct (minuteCheck minute ready breached) (some (dumpState state)) =
      (some (dumpState (latencyState state (minuteInstant minute).micros
          ⟨true, ready, breached, 5, .null, .null⟩
          (latencyEvent state (minuteInstant minute).micros 3600 ready breached).1)),
        ⟨(minuteInstant minute).micros, 3600000000,
          if ready then some (if breached then some () else none) else none,
          eventsOf "manager_settings_history_latency_high"
            (latencyEvent state (minuteInstant minute).micros 3600 ready breached).1⟩) := by
  subst isState
  have readBack := parseState_dumpState (exact_latencyState exact (minuteInstant earlier).micros
    summary event)
  rw [latencyAct_available rfl _ rfl rfl, readBack]
  · rfl
  · rw [readBack, checkedRecently_latencyState]
    apply decide_eq_false
    unfold minuteCheck minuteInstant
    dsimp only
    omega

/-- The latency is high, then there are too few samples, then it is low: the alert is announced,
the recovery is not. -/
theorem recovery_lost : ¬∀ inputs : List LatencyInput,
    (∀ input ∈ inputs, input.enabled = true) →
      inputs.Pairwise (fun first second => first.now.micros ≤ second.now.micros) →
        RecoveryProtocol (observedRun latencyAct none inputs) := by
  intro everyRun
  have enabled : ∀ input ∈ [minuteCheck 0 true true, minuteCheck 10 false false,
      minuteCheck 20 true false], input.enabled = true := by
    intro input inInputs
    simp only [List.mem_cons, List.not_mem_nil, or_false] at inInputs
    rcases inInputs with rfl | rfl | rfl <;> rfl
  have isDue : ∀ now seconds, latencyEvent (parseState none) now seconds true true =
      (some "manager_settings_history_latency_high", 0) := fun _ _ => rfl
  have first := @latencyAct_available (minuteCheck 0 true true) none _ rfl rfl rfl rfl
  rw [isDue] at first
  have second := @latencyAct_minuteCheck (parseState none) exactState_empty 0 10
    ⟨true, true, true, 5, .null, .null⟩ (some "manager_settings_history_latency_high") false false
    (by decide) _ rfl
  rw [latencyEvent_notReady] at second
  have few := exact_latencyState exactState_empty (minuteInstant 0).micros
    ⟨true, true, true, 5, .null, .null⟩ (some "manager_settings_history_latency_high")
  have third := @latencyAct_minuteCheck _ few 10 20 ⟨true, false, false, 5, .null, .null⟩ none true
    false (by decide) _ rfl
  have quiet : ∀ previous now seconds, latencyEvent (latencyState previous now
      ⟨true, false, false, 5, .null, .null⟩ none) (minuteInstant 20).micros seconds true false =
      (none, 0) := by
    intro previous now seconds
    unfold latencyEvent
    rw [active_latencyState]
    rfl
  rw [quiet] at third
  have observed : observedRun latencyAct none
      [minuteCheck 0 true true, minuteCheck 10 false false, minuteCheck 20 true false] =
      [⟨0, 3600000000, some (some ()), [.alert]⟩, ⟨600000000, 3600000000, none, []⟩,
        ⟨1200000000, 3600000000, some none, []⟩] := by
    unfold observedRun
    rw [first]
    unfold observedRun
    erw [second]
    unfold observedRun
    erw [third]
    rfl
  have recovers := (everyRun _ enabled (by decide)).recovers_when_healthy [] _ [_] _ [] observed
  simp at recovers

end Runs

end TraefikManager.Monitoring
