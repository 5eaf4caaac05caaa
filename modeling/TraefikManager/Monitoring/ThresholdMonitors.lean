import TraefikManager.Monitoring.MonitorState

/-!
# Monitors that count

The monitor of blocked encoded paths and the one of Manager HTTP errors compare counts with
thresholds. Both announce a breach, repeat the alert after the cooldown and announce the
recovery; they differ in what they do with a measurement that is not available.
-/

namespace TraefikManager.Monitoring

open Foundation

section Threshold

/-- The event of a check of counts against thresholds, and whether an alert was kept back. -/
def thresholdEvent (alertName recoveredName : String) (previous : MonitorState) (now : Int)
    (cooldownSeconds : Int) (breached : Bool) : Option String × Nat :=
  let wasActive := truthy (previous.get? "alert_active")
  if breached ∧ (¬wasActive ∨ alertDue (previous.get? "last_alert_at") now cooldownSeconds) then
    (some alertName, 0)
  else if breached then (none, 1)
  else if wasActive then (some recoveredName, 0)
  else (none, 0)

/-- A breach has no kind that the state would keep. -/
def Unmarked (_ : Unit) (_ : MonitorState) : Prop := True

variable {alertName recoveredName : String} {previous : MonitorState}
  {alert : Option (OpenAlert Unit)}

/-- A check of a threshold is a step of the protocol, and the state it leaves tracks the alert
that is open afterwards. -/
theorem thresholdEvent_step (distinct : recoveredName ≠ alertName)
    (tracked : Tracks Unmarked previous alert) (now : Datetime.Instant)
    {seconds : Int} {breached : Bool} {event : Option String} {suppressedCount : Nat}
    (isEvent : thresholdEvent alertName recoveredName previous now.micros seconds breached =
      (event, suppressedCount))
    {state : MonitorState} (exact : ExactState state)
    (active : state.get? "alert_active" = some (.bool breached))
    (last : state.get? "last_alert_at" =
      some (lastAlertAt (event = some alertName) now.micros previous)) :
    ∃ next, AlertStep alert ⟨now.micros, seconds * 1000000,
        some (if breached then some () else none), eventsOf alertName event⟩ next ∧
      Tracks Unmarked state next := by
  obtain rfl := (Prod.ext_iff.mp isEvent).1
  have tracksOpen : ∀ current : OpenAlert Unit, breached = true →
      ((Datetime.utc current.lastAlert).InRange ∧ state.get? "last_alert_at" =
        some (.string (Datetime.utc current.lastAlert).isoformat)) →
      Tracks Unmarked state (some current) := by
    intro current isBreached isLast
    refine ⟨exact, ?_, ?_, fun _ _ => trivial⟩
    · rw [active, isBreached]
      rfl
    · rintro found ⟨⟩
      exact isLast
  have tracksNone : breached = false → Tracks Unmarked state none := by
    intro healthy
    refine ⟨exact, ?_, by simp, by simp⟩
    rw [active, healthy]
    rfl
  unfold thresholdEvent at last ⊢
  rw [tracked.active] at last ⊢
  cases breached with
  | false =>
      cases alert with
      | none => exact ⟨none, .healthy, tracksNone rfl⟩
      | some current =>
          refine ⟨none, ?_, tracksNone rfl⟩
          simpa [eventsOf, distinct] using AlertStep.recovered
  | true =>
      cases alert with
      | none =>
          refine ⟨some ⟨now.micros, ()⟩, ?_, tracksOpen _ rfl ⟨now.inRange, ?_⟩⟩
          · simpa [eventsOf] using AlertStep.alerted
          · simpa [lastAlertAt] using last
      | some current =>
          rw [tracked.alertDue] at last ⊢
          by_cases due : seconds * 1000000 ≤ now.micros - current.lastAlert
          · refine ⟨some ⟨now.micros, ()⟩, ?_, tracksOpen _ rfl ⟨now.inRange, ?_⟩⟩
            · simpa [eventsOf, due] using AlertStep.repeated (.inr due)
            · simpa [lastAlertAt, due] using last
          · refine ⟨some ⟨current.lastAlert, ()⟩, ?_, tracksOpen _ rfl ?_⟩
            · simpa [eventsOf, due] using AlertStep.suppressed
            · obtain ⟨inRange, isText⟩ := tracked.lastAlert current rfl
              simpa [lastAlertAt, due, isText, inRange] using last

end Threshold

section EncodedPathBlocks

/-- What a check of blocked encoded paths reads: the clock, the settings and the history. -/
structure EncodedPathBlockInput where
  now : Datetime.Instant
  enabledValue : Option String
  thresholdValue : Option String
  cooldownValue : Option String
  cooldownSeconds : Option Int
  available : Bool
  collectionAvailable : Bool
  blockedRequestCount : Option Int

namespace EncodedPathBlockInput

variable (input : EncodedPathBlockInput)

def enabled : Bool := readEnabled input.enabledValue true

def threshold : Int := boundedInt input.thresholdValue 20 1 10000

def effectiveCooldown : Int :=
  effectiveCooldownSeconds input.cooldownSeconds
    (readManagerHealthMonitoringValues none input.cooldownValue).2

/-- Whether the blocked requests reach the threshold, when they can be counted. -/
def measured : Option (Option Unit) :=
  if input.available ∧ input.collectionAvailable then
    input.blockedRequestCount.map fun count => if input.threshold ≤ count then some () else none
  else none

end EncodedPathBlockInput

/-- `check_encoded_path_blocks_once`: a measurement that is not available changes nothing. -/
def checkEncodedPathBlocksOnce (input : EncodedPathBlockInput) (stored : Option String) :
    CheckResult :=
  let previous := parseState stored
  if ¬input.enabled then disabledResult stored
  else if ¬input.available ∨ ¬input.collectionAvailable then ⟨stored, none, 0⟩
  else
    match input.blockedRequestCount with
    | none => ⟨stored, none, 0⟩
    | some blockedCount =>
        let breached : Bool := input.threshold ≤ blockedCount
        let (event, suppressedCount) := thresholdEvent "traefik_encoded_path_blocks_high"
          "traefik_encoded_path_blocks_recovered" previous input.now.micros
          input.effectiveCooldown breached
        let state := Dict.ofList [("alert_active", Json.bool breached),
          ("last_alert_at", lastAlertAt (event = some "traefik_encoded_path_blocks_high")
            input.now.micros previous),
          ("blocked_request_count", .int blockedCount)]
        ⟨some (dumpState state), event, suppressedCount⟩

/-- The monitor of blocked encoded paths, on the text it keeps. -/
def encodedPathBlockMonitor : Monitor (Option String) EncodedPathBlockInput Unit where
  check input stored :=
    let result := checkEncodedPathBlocksOnce input stored
    (result.stored, eventsOf "traefik_encoded_path_blocks_high" result.event)
  time input := input.now.micros
  cooldown input := input.effectiveCooldown * 1000000
  measured := EncodedPathBlockInput.measured

theorem checkEncodedPathBlocksOnce_step {input : EncodedPathBlockInput} {stored : Option String}
    {alert : Option (OpenAlert Unit)} (tracked : Tracks Unmarked (parseState stored) alert)
    (enabled : input.enabled = true) :
    ∃ next, AlertStep alert ⟨input.now.micros, input.effectiveCooldown * 1000000, input.measured,
        (encodedPathBlockMonitor.check input stored).2⟩ next ∧
      Tracks Unmarked (parseState (encodedPathBlockMonitor.check input stored).1) next := by
  unfold encodedPathBlockMonitor checkEncodedPathBlocksOnce EncodedPathBlockInput.measured
  simp only [enabled, not_true, if_false, ← not_and_or]
  by_cases available : input.available = true ∧ input.collectionAvailable = true
  · rw [if_neg (not_not_intro available), if_pos available]
    cases input.blockedRequestCount with
    | none => exact ⟨alert, .unavailable, tracked⟩
    | some blockedCount =>
        simp only
        obtain ⟨⟨event, suppressedCount⟩, isEvent⟩ : ∃ decision, thresholdEvent
            "traefik_encoded_path_blocks_high" "traefik_encoded_path_blocks_recovered"
            (parseState stored) input.now.micros input.effectiveCooldown
            (decide (input.threshold ≤ blockedCount)) = decision := ⟨_, rfl⟩
        simp only [isEvent]
        have exact : ExactState (Dict.ofList [
            ("alert_active", Json.bool (input.threshold ≤ blockedCount)),
            ("last_alert_at", lastAlertAt (event = some "traefik_encoded_path_blocks_high")
              input.now.micros (parseState stored)),
            ("blocked_request_count", .int blockedCount)]) := by
          apply exactState_ofList
          simp only [List.forall_mem_cons]
          exact ⟨.bool _, tracked.exact_lastAlertAt _ _, .int _, by simp⟩
        rw [parseState_dumpState exact]
        simpa using thresholdEvent_step (by decide) tracked input.now isEvent exact rfl rfl
  · rw [if_pos available, if_neg available]
    exact ⟨alert, .unavailable, tracked⟩

end EncodedPathBlocks

section ManagerHttpErrors

/-- The counts of failed requests; `none` stands for a failed or empty answer of the client. -/
structure HttpErrorCounts where
  available : Bool
  notFoundCount : Int
  serverErrorCount : Int

/-- What a check of Manager HTTP errors reads: the clock, the settings and the counts. -/
structure ManagerHttpErrorInput where
  now : Datetime.Instant
  enabledValue : Option String
  notFoundThresholdValue : Option String
  serverErrorThresholdValue : Option String
  cooldownValue : Option String
  cooldownSeconds : Option Int
  counts : Option HttpErrorCounts

namespace ManagerHttpErrorInput

variable (input : ManagerHttpErrorInput)

def enabled : Bool := readEnabled input.enabledValue false

def notFoundThreshold : Int := boundedInt input.notFoundThresholdValue 20 1 10000

def serverErrorThreshold : Int := boundedInt input.serverErrorThresholdValue 1 1 10000

def effectiveCooldown : Int :=
  effectiveCooldownSeconds input.cooldownSeconds
    (readManagerHealthMonitoringValues none input.cooldownValue).2

def breached (counts : HttpErrorCounts) : Bool :=
  input.notFoundThreshold ≤ counts.notFoundCount ∨
    input.serverErrorThreshold ≤ counts.serverErrorCount

/-- Whether a count reaches its threshold, when the counts are available. -/
def measured : Option (Option Unit) :=
  (input.counts.filter (·.available)).map fun counts =>
    if input.breached counts then some () else none

end ManagerHttpErrorInput

/-- `check_manager_http_errors_once`: that the counts are not available is kept in the state. -/
def checkManagerHttpErrorsOnce (input : ManagerHttpErrorInput) (stored : Option String) :
    CheckResult :=
  let previous := parseState stored
  if ¬input.enabled then disabledResult stored
  else
    match input.counts.filter (·.available) with
    | none =>
        let state := (previous.set "available" (.bool false)).set "checked_at"
          (.string (Datetime.utc input.now.micros).isoformat)
        ⟨some (dumpState state), none, 0⟩
    | some counts =>
        let breached := input.breached counts
        let (event, suppressedCount) := thresholdEvent "manager_http_errors_high"
          "manager_http_errors_recovered" previous input.now.micros input.effectiveCooldown breached
        let state := Dict.ofList [("available", Json.bool true), ("alert_active", .bool breached),
          ("last_alert_at", lastAlertAt (event = some "manager_http_errors_high")
            input.now.micros previous),
          ("checked_at", .string (Datetime.utc input.now.micros).isoformat),
          ("not_found_count", .int counts.notFoundCount),
          ("server_error_count", .int counts.serverErrorCount)]
        ⟨some (dumpState state), event, suppressedCount⟩

/-- The monitor of Manager HTTP errors, on the text it keeps. -/
def managerHttpErrorMonitor : Monitor (Option String) ManagerHttpErrorInput Unit where
  check input stored :=
    let result := checkManagerHttpErrorsOnce input stored
    (result.stored, eventsOf "manager_http_errors_high" result.event)
  time input := input.now.micros
  cooldown input := input.effectiveCooldown * 1000000
  measured := ManagerHttpErrorInput.measured

theorem checkManagerHttpErrorsOnce_step {input : ManagerHttpErrorInput} {stored : Option String}
    {alert : Option (OpenAlert Unit)} (tracked : Tracks Unmarked (parseState stored) alert)
    (enabled : input.enabled = true) :
    ∃ next, AlertStep alert ⟨input.now.micros, input.effectiveCooldown * 1000000, input.measured,
        (managerHttpErrorMonitor.check input stored).2⟩ next ∧
      Tracks Unmarked (parseState (managerHttpErrorMonitor.check input stored).1) next := by
  unfold managerHttpErrorMonitor checkManagerHttpErrorsOnce ManagerHttpErrorInput.measured
  simp only [enabled, not_true, if_false]
  cases input.counts.filter (·.available) with
  | none =>
      have exact : ExactState (((parseState stored).set "available" (.bool false)).set "checked_at"
          (.string (Datetime.utc input.now.micros).isoformat)) :=
        (tracked.exact.set _ (.bool _)).set _ (.string _)
      refine ⟨alert, .unavailable, ?_⟩
      rw [parseState_dumpState exact]
      apply tracked.congr exact
      · simp [Dict.get?_set]
      · simp [Dict.get?_set]
      · exact fun _ _ => trivial
  | some counts =>
      simp only
      obtain ⟨⟨event, suppressedCount⟩, isEvent⟩ : ∃ decision, thresholdEvent
          "manager_http_errors_high" "manager_http_errors_recovered" (parseState stored)
          input.now.micros input.effectiveCooldown (input.breached counts) = decision := ⟨_, rfl⟩
      simp only [isEvent]
      have exact : ExactState (Dict.ofList [("available", Json.bool true),
          ("alert_active", .bool (input.breached counts)),
          ("last_alert_at", lastAlertAt (event = some "manager_http_errors_high")
            input.now.micros (parseState stored)),
          ("checked_at", .string (Datetime.utc input.now.micros).isoformat),
          ("not_found_count", .int counts.notFoundCount),
          ("server_error_count", .int counts.serverErrorCount)]) := by
        apply exactState_ofList
        simp only [List.forall_mem_cons]
        exact ⟨.bool _, .bool _, tracked.exact_lastAlertAt _ _, .string _, .int _, .int _, by simp⟩
      rw [parseState_dumpState exact]
      exact thresholdEvent_step (by decide) tracked input.now isEvent exact rfl rfl

end ManagerHttpErrors

end TraefikManager.Monitoring
