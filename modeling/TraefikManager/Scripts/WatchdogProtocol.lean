import TraefikManager.Scripts.Watchdogs

/-!
# The alerts of the host watchdogs

The state file of the storefront and of the unit watchdog always knows whether an alert is
outstanding, so their alerts keep the protocol of deliveries. The health watchdog forgets an
alert when it cannot repeat it; as long as every repetition is delivered it keeps the protocol
as well.
-/

namespace TraefikManager.Scripts

open Foundation

section Tracking

/-- The state file knows what was delivered. -/
structure Tracks (state : AlertState) (known : DeliveryState) : Prop where
  active : state.alertActive = known.outstanding
  unhealthy : known.outstanding = true → state.status = .unhealthy
  lastAlert : state.lastAlertAt = known.lastAlert.getD 0
  failures : 0 < known.failures →
    state.status = .unhealthy ∧ known.failures ≤ state.consecutiveFailures

/-- What a state file holds knows what was delivered. -/
def FileTracks (file : Option StateFile) (known : DeliveryState) : Prop :=
  Tracks (loadAlertState file) known

variable {previous : AlertState} {known : DeliveryState}

private theorem tracks_fresh : FileTracks none .fresh where
  active := rfl
  unhealthy := by
    intro outstanding
    cases outstanding
  lastAlert := rfl
  failures := by
    intro counted
    cases counted

/-- A watchdog counts at least the unhealthy runs in a row. -/
theorem Tracks.counted (tracked : Tracks previous known) :
    known.failures + 1 ≤ previous.countFailures false := by
  rw [AlertState.countFailures, if_neg Bool.false_ne_true]
  by_cases counted : 0 < known.failures
  · obtain ⟨unhealthy, atLeast⟩ := tracked.failures counted
    rw [if_pos unhealthy]
    omega
  · split <;> omega

private theorem no_delivery {check : DeliveryCheck} (notDelivered : check.delivered = false)
    (event : AlertEvent) : ¬check.Delivers event := by
  intro delivers
  cases notDelivered.symm.trans delivers.2

private theorem no_delivery_of_none {check : DeliveryCheck} (attempts : check.attempted = none)
    (event : AlertEvent) : ¬check.Delivers event := by
  intro delivers
  cases attempts.symm.trans delivers.1

/-- A run that delivers nothing and keeps what is active is tracked. -/
theorem Tracks.quiet {check : DeliveryCheck} (tracked : Tracks previous known)
    (noDelivery : ∀ event, ¬check.Delivers event)
    (notRecovered : check.healthy = true → known.outstanding = false) :
    Tracks ⟨currentStatus check.healthy, previous.alertActive, previous.lastAlertAt,
      previous.countFailures check.healthy⟩ (known.next check) := by
  obtain ⟨sameOutstanding, sameLast⟩ := known.next_of_none (noDelivery _) (noDelivery _)
  constructor
  · rw [sameOutstanding]
    exact tracked.active
  · rw [sameOutstanding]
    intro outstanding
    cases healthy : check.healthy with
    | true =>
        rw [notRecovered healthy] at outstanding
        cases outstanding
    | false => rfl
  · rw [sameLast]
    exact tracked.lastAlert
  · cases healthy : check.healthy with
    | true => simp [DeliveryState.next, healthy]
    | false =>
        intro _
        refine ⟨rfl, ?_⟩
        simp only [DeliveryState.next, healthy, Bool.false_eq_true, if_false]
        exact tracked.counted

/-- A delivered alert becomes active. -/
theorem Tracks.alerted {check : DeliveryCheck} (tracked : Tracks previous known)
    (isUnhealthy : check.healthy = false) (delivers : check.Delivers .alert) :
    Tracks ⟨currentStatus check.healthy, true, check.time, previous.countFailures check.healthy⟩
      (known.next check) := by
  rw [isUnhealthy]
  obtain ⟨outstanding, isLast⟩ := known.next_of_alert delivers
  constructor
  · exact outstanding.symm
  · intro _
    rfl
  · rw [isLast]
    rfl
  · intro _
    refine ⟨rfl, ?_⟩
    simp only [DeliveryState.next, isUnhealthy, Bool.false_eq_true, if_false]
    exact tracked.counted

/-- A delivered recovery ends what was active. -/
theorem Tracks.recovered {check : DeliveryCheck} {status : Status} {failures : Nat}
    (tracked : Tracks previous known) (isHealthy : check.healthy = true)
    (delivers : check.Delivers .recovered) :
    Tracks ⟨status, false, previous.lastAlertAt, failures⟩ (known.next check) := by
  obtain ⟨notOutstanding, sameLast⟩ := known.next_of_recovery delivers
  constructor
  · exact notOutstanding.symm
  · rw [notOutstanding]
    intro outstanding
    cases outstanding
  · rw [sameLast]
    exact tracked.lastAlert
  · simp [DeliveryState.next, isHealthy]

/-- A recovery that is not delivered leaves what was active. -/
theorem Tracks.notRecovered {check : DeliveryCheck} (tracked : Tracks previous known)
    (isHealthy : check.healthy = true) (noDelivery : ∀ event, ¬check.Delivers event)
    (active : previous.alertActive = true) :
    Tracks { previous with status := .unhealthy, alertActive := true } (known.next check) := by
  obtain ⟨sameOutstanding, sameLast⟩ := known.next_of_none (noDelivery _) (noDelivery _)
  constructor
  · rw [sameOutstanding, ← tracked.active, active]
  · intro _
    rfl
  · rw [sameLast]
    exact tracked.lastAlert
  · simp [DeliveryState.next, isHealthy]

end Tracking

section Permission

variable {previous : AlertState} {known : DeliveryState} {threshold cooldown : Nat}
  {check : DeliveryCheck}

private theorem Tracks.permits_recovery (tracked : Tracks previous known)
    (isHealthy : check.healthy = true)
    (attempts : check.attempted = some .recovered) (active : previous.alertActive = true) :
    Permitted threshold cooldown known check where
  recovers := by
    intro _
    rw [← tracked.active, active]
  attemptsRecovery := by
    intro _ _
    exact attempts
  apart := by
    intro alert
    cases alert.symm.trans attempts
  attemptsAlert := by
    intro _ unhealthy
    cases unhealthy.symm.trans isHealthy

private theorem Tracks.permits_alert (tracked : Tracks previous known)
    (unhealthy : check.healthy = false) (attempts : check.attempted = some .alert)
    (due : previous.alertActive = true →
      ∀ time, known.lastAlert = some time → time + cooldown ≤ check.time) :
    Permitted threshold cooldown known check where
  recovers := by
    intro recovery
    cases recovery.symm.trans attempts
  attemptsRecovery := by
    intro _ isHealthy
    cases unhealthy.symm.trans isHealthy
  apart := by
    intro _ outstanding
    exact due (tracked.active.trans outstanding)
  attemptsAlert := by
    intro _ _ _ _
    exact attempts

private theorem Tracks.permits_none (tracked : Tracks previous known)
    (attempts : check.attempted = none)
    (noRecovery : check.healthy = true → previous.status = .unhealthy →
      previous.alertActive = false)
    (noAlert : check.healthy = false → threshold ≤ previous.countFailures false →
      (∀ time, known.lastAlert = some time → time + cooldown ≤ check.time) →
      previous.alertActive = true) :
    Permitted threshold cooldown known check where
  recovers := by
    intro recovery
    cases recovery.symm.trans attempts
  attemptsRecovery := by
    intro outstanding isHealthy
    have inactive := noRecovery isHealthy (tracked.unhealthy outstanding)
    cases (tracked.active.trans outstanding).symm.trans inactive
  apart := by
    intro alert
    cases alert.symm.trans attempts
  attemptsAlert := by
    intro notOutstanding unhealthy reached due
    have active := noAlert unhealthy (reached.trans tracked.counted) due
    cases (tracked.active.trans notOutstanding).symm.trans active

end Permission

section HostAlerts

variable {config : WatchdogConfig} {previous : AlertState} {known : DeliveryState}

/-- What the storefront and the unit watchdog decide, and why. -/
theorem hostAction_cases (config : WatchdogConfig) (previous : AlertState) (healthy : Bool)
    (now : Nat) :
    hostAction config previous healthy now = some .recovered ∧ healthy = true ∧
        previous.alertActive = true ∨
      hostAction config previous healthy now = some .alert ∧ healthy = false ∧
        (previous.alertActive = true →
          (config.cooldownSeconds : Int) ≤ (now : Int) - previous.lastAlertAt) ∨
      hostAction config previous healthy now = none ∧
        (healthy = true → previous.status = .unhealthy → previous.alertActive = false) ∧
        (healthy = false → config.failureThreshold ≤ previous.countFailures healthy →
          previous.alertActive = true) := by
  unfold hostAction
  split
  · rename_i recovers
    exact .inl ⟨rfl, recovers.1, recovers.2.2⟩
  · rename_i stays
    split
    · rename_i fails
      have unhealthy : healthy = false := by simpa using fails.1
      split
      · rename_i due
        refine .inr (.inl ⟨rfl, unhealthy, fun active => ?_⟩)
        exact due.resolve_left (not_not.mpr active)
      · rename_i notDue
        rw [not_or, not_not] at notDue
        refine .inr (.inr ⟨rfl, ?_, fun _ _ => notDue.1⟩)
        intro healthy'
        rw [unhealthy] at healthy'
        cases healthy'
    · rename_i fine
      refine .inr (.inr ⟨rfl, ?_, ?_⟩)
      · intro isHealthy unhealthy
        by_contra active
        rw [Bool.not_eq_false] at active
        exact stays ⟨isHealthy, unhealthy, active⟩
      · intro isUnhealthy reached
        exact absurd ⟨by simp [isUnhealthy], reached⟩ fine

/-- The alert state after an action, whatever else the state file holds. -/
def AlertState.afterAction (previous : AlertState) (action : Option AlertEvent)
    (healthy delivered : Bool) (nowEpoch : Nat) : AlertState :=
  match action, delivered with
  | some .alert, true => ⟨currentStatus healthy, true, nowEpoch, previous.countFailures healthy⟩
  | some .recovered, true =>
      ⟨currentStatus healthy, false, previous.lastAlertAt, previous.countFailures healthy⟩
  | some .recovered, false => { previous with status := .unhealthy, alertActive := true }
  | _, _ =>
      ⟨currentStatus healthy, previous.alertActive, previous.lastAlertAt,
        previous.countFailures healthy⟩

/-- A run of the storefront or the unit watchdog attempts its action and writes the state after it. -/
theorem dispatchHostAlert_spec {alertSource : String} {check : HostCheck}
    {writeState : AlertState → String → StateFile}
    (writes : ∀ state detail, loadAlertState (some (writeState state detail)) = state) :
    (dispatchHostAlert config alertSource check previous writeState).attempted.map Attempt.event =
        hostAction config previous check.healthy check.nowEpoch ∧
      loadAlertState (some (dispatchHostAlert config alertSource check previous writeState).file) =
        previous.afterAction (hostAction config previous check.healthy check.nowEpoch) check.healthy
          check.delivered check.nowEpoch := by
  unfold dispatchHostAlert
  dsimp only
  cases hostAction config previous check.healthy check.nowEpoch with
  | none => exact ⟨rfl, writes _ _⟩
  | some event =>
      cases event with
      | alert => cases delivered : check.delivered <;> exact ⟨rfl, writes _ _⟩
      | recovered => cases delivered : check.delivered <;> exact ⟨rfl, writes _ _⟩

/-- A check that attempts the action after the tracked state is a step of the protocol, and the
state after the action is tracked. -/
theorem Tracks.hostStep {check : DeliveryCheck} (tracked : Tracks previous known)
    (attempts : check.attempted = hostAction config previous check.healthy check.time) :
    Permitted config.failureThreshold config.cooldownSeconds known check ∧
      Tracks (previous.afterAction check.attempted check.healthy check.delivered check.time)
        (known.next check) := by
  rcases hostAction_cases config previous check.healthy check.time with
    ⟨isAction, isHealthy, active⟩ | ⟨isAction, unhealthy, due⟩ | ⟨isAction, noRecovery, noAlert⟩
  · rw [isAction] at attempts
    refine ⟨tracked.permits_recovery isHealthy attempts active, ?_⟩
    rw [attempts]
    cases delivered : check.delivered with
    | true => exact tracked.recovered isHealthy ⟨attempts, delivered⟩
    | false => exact tracked.notRecovered isHealthy (no_delivery delivered) active
  · rw [isAction] at attempts
    constructor
    · apply tracked.permits_alert unhealthy attempts
      intro active time isLast
      have isTime : previous.lastAlertAt = time := by rw [tracked.lastAlert, isLast, Option.getD_some]
      have passed := due active
      rw [isTime] at passed
      omega
    · rw [attempts]
      cases delivered : check.delivered with
      | true => exact tracked.alerted unhealthy ⟨attempts, delivered⟩
      | false =>
          apply tracked.quiet (no_delivery delivered)
          intro isHealthy
          cases unhealthy.symm.trans isHealthy
  · rw [isAction] at attempts
    constructor
    · apply tracked.permits_none attempts noRecovery
      intro unhealthy reached _
      apply noAlert unhealthy
      rw [unhealthy]
      exact reached
    · rw [attempts]
      apply tracked.quiet (no_delivery_of_none attempts)
      intro isHealthy
      by_contra outstanding
      rw [Bool.not_eq_false] at outstanding
      have inactive := noRecovery isHealthy (tracked.unhealthy outstanding)
      cases (tracked.active.trans outstanding).symm.trans inactive

/-- What is observed of a run. -/
def observe (run : Dispatched) (healthy : Bool) (nowEpoch : Nat) (delivered : Bool) :
    Option StateFile × DeliveryCheck :=
  (some run.file,
    { time := nowEpoch, healthy, attempted := run.attempted.map Attempt.event, delivered })

def observeStorefront (config : WatchdogConfig) (run : StorefrontRun) (file : Option StateFile) :
    Option StateFile × DeliveryCheck :=
  observe (tcgStorefrontWatchdog config run file) (run.healthy file) run.nowEpoch run.delivered

def observeUnits (config : WatchdogConfig) (run : UnitRun) (file : Option StateFile) :
    Option StateFile × DeliveryCheck :=
  observe (userSystemdUnitWatchdog config run file) run.healthy run.nowEpoch run.delivered

/-- Observing a run of either watchdog is a step of the protocol, and its file is tracked. -/
theorem observe_step {alertSource : String} {check : HostCheck} {file : Option StateFile}
    {writeState : AlertState → String → StateFile}
    (writes : ∀ state detail, loadAlertState (some (writeState state detail)) = state)
    (tracked : Tracks (loadAlertState file) known) :
    let observed := observe
      (dispatchHostAlert config alertSource check (loadAlertState file) writeState)
      check.healthy check.nowEpoch check.delivered
    ∃ next, DeliveryStep config.failureThreshold config.cooldownSeconds known observed.2 next ∧
      Tracks (loadAlertState observed.1) next := by
  intro observed
  obtain ⟨attempts, isState⟩ := dispatchHostAlert_spec writes
  have isAttempt : observed.2.attempted =
      hostAction config (loadAlertState file) observed.2.healthy observed.2.time := attempts
  have isAfter : loadAlertState observed.1 = (loadAlertState file).afterAction
      (hostAction config (loadAlertState file) observed.2.healthy observed.2.time)
      observed.2.healthy observed.2.delivered observed.2.time := isState
  obtain ⟨permitted, after⟩ := tracked.hostStep isAttempt
  rw [isAttempt, ← isAfter] at after
  exact ⟨_, ⟨permitted, rfl⟩, after⟩

private theorem observeStorefront_step {run : StorefrontRun} {file : Option StateFile}
    (tracked : FileTracks file known) :
    ∃ next, DeliveryStep config.failureThreshold config.cooldownSeconds known
        (observeStorefront config run file).2 next ∧
      FileTracks (observeStorefront config run file).1 next := by
  have writes (state : AlertState) (detail : String) : loadAlertState (some (writeStorefrontState
      run.nowEpoch (run.lastProviderCheckDate file) (run.providerFailure file) state detail)) =
      state := loadAlertState_lines _ _
  exact observe_step writes tracked

private theorem observeUnits_step {run : UnitRun} {file : Option StateFile}
    (tracked : FileTracks file known) :
    ∃ next, DeliveryStep config.failureThreshold config.cooldownSeconds known
        (observeUnits config run file).2 next ∧
      FileTracks (observeUnits config run file).1 next := by
  have writes (state : AlertState) (detail : String) :
      loadAlertState (some (writeUnitState run.nowEpoch state detail)) = state :=
    loadAlertState_lines _ _
  exact observe_step writes tracked

end HostAlerts

section ManagerHealth

variable {cooldownSeconds : Nat} {run : HealthRun} {file : Option StateFile}
  {known : DeliveryState}

def observeHealth (cooldownSeconds : Nat) (run : HealthRun) (file : Option StateFile) :
    Option StateFile × DeliveryCheck :=
  observe (managerHealthWatchdog cooldownSeconds run file) run.healthy run.nowEpoch run.delivered

/-- Every repeated alert is delivered, and no alert in the first second of the epoch, which
stands for none in the state file. -/
def RepeatsDelivered (cooldownSeconds : Nat) (run : HealthRun) (file : Option StateFile) : Prop :=
  (run.action cooldownSeconds file = .failureRepeat → run.delivered = true) ∧
    (run.action cooldownSeconds file = .failure ∨ run.action cooldownSeconds file = .failureRepeat →
      run.delivered = true → 0 < run.nowEpoch)

/-- The state file of the health watchdog knows what was delivered, and when. -/
structure HealthTracks (state : AlertState) (known : DeliveryState) : Prop
    extends Tracks state known where
  dated : known.lastAlert ≠ some 0

def HealthFileTracks (file : Option StateFile) (known : DeliveryState) : Prop :=
  HealthTracks (loadAlertState file) known

/-- What the health watchdog decides, and why. -/
theorem decideAction_cases (healthy : Bool) (previous : AlertState) (now cooldownSeconds : Nat) :
    let action := decideAction (currentStatus healthy) previous.status previous.alertActive
      previous.lastAlertAt now cooldownSeconds
    action = .recovery ∧ healthy = true ∧ previous.alertActive = true ∨
      (action = .failure ∧ (previous.status = .unhealthy → previous.alertActive = false) ∨
          action = .failureRepeat) ∧ healthy = false ∧
        (previous.lastAlertAt = 0 ∨
          (cooldownSeconds : Int) ≤ (now : Int) - previous.lastAlertAt) ∨
      action = .none ∧
        (healthy = true → previous.status = .unhealthy → previous.alertActive = false) ∧
        (healthy = false → previous.lastAlertAt ≠ 0 ∧
          (now : Int) - previous.lastAlertAt < cooldownSeconds) := by
  cases healthy with
  | true =>
      by_cases recovers : previous.status = .unhealthy ∧ previous.alertActive
      · exact .inl ⟨if_pos recovers, rfl, recovers.2⟩
      · refine .inr (.inr ⟨if_neg recovers, fun _ unhealthy => ?_, fun isFalse => by cases isFalse⟩)
        by_contra active
        rw [Bool.not_eq_false] at active
        exact recovers ⟨unhealthy, active⟩
  | false =>
      by_cases due : previous.lastAlertAt = 0 ∨
          (cooldownSeconds : Int) ≤ (now : Int) - previous.lastAlertAt
      · refine .inr (.inl ⟨?_, rfl, due⟩)
        by_cases repeats : previous.status = .unhealthy ∧ previous.alertActive
        · exact .inr (by simp [decideAction, currentStatus, due, repeats])
        · refine .inl ⟨by simp [decideAction, currentStatus, due, repeats], fun unhealthy => ?_⟩
          by_contra active
          rw [Bool.not_eq_false] at active
          exact repeats ⟨unhealthy, active⟩
      · have notDue := due
        rw [not_or, Int.not_le] at notDue
        exact .inr (.inr ⟨if_neg due, fun isTrue _ => absurd isTrue Bool.false_ne_true,
          fun _ => notDue⟩)

/-- The alert an action sends. -/
def HealthAction.event : HealthAction → Option AlertEvent
  | none => Option.none
  | failure => some .alert
  | failureRepeat => some .alert
  | recovery => some .recovered

/-- The alert state after an action of the health watchdog. -/
def AlertState.afterHealthAction (previous : AlertState) (action : HealthAction)
    (healthy delivered : Bool) (nowEpoch : Nat) : AlertState :=
  match action, delivered with
  | .recovery, true => ⟨.healthy, false, previous.lastAlertAt, 0⟩
  | .recovery, false => { previous with status := .unhealthy, alertActive := true }
  | .none, _ =>
      ⟨currentStatus healthy, previous.alertActive, previous.lastAlertAt,
        previous.countFailures healthy⟩
  | _, true => ⟨.unhealthy, true, nowEpoch, previous.countFailures healthy⟩
  | _, false => ⟨.unhealthy, false, previous.lastAlertAt, previous.countFailures healthy⟩

/-- A run of the health watchdog sends the alert of its action and writes the state after it. -/
theorem managerHealthWatchdog_spec (cooldownSeconds : Nat) (run : HealthRun)
    (file : Option StateFile) :
    (managerHealthWatchdog cooldownSeconds run file).attempted.map Attempt.event =
        (run.action cooldownSeconds file).event ∧
      loadAlertState (some (managerHealthWatchdog cooldownSeconds run file).file) =
        (loadAlertState file).afterHealthAction (run.action cooldownSeconds file) run.healthy
          run.delivered run.nowEpoch := by
  unfold managerHealthWatchdog
  dsimp only
  cases run.action cooldownSeconds file <;> cases run.delivered <;>
    exact ⟨rfl, loadAlertState_lines _ _⟩

/-- A check that attempts the action after the tracked state is a step of the protocol when
repetitions are delivered, and the state after it is tracked. -/
theorem HealthTracks.step {previous : AlertState} {check : DeliveryCheck} {action : HealthAction}
    (tracked : HealthTracks previous known)
    (isAction : action = decideAction (currentStatus check.healthy) previous.status
      previous.alertActive previous.lastAlertAt check.time cooldownSeconds)
    (attempts : check.attempted = action.event)
    (repeats : action = .failureRepeat → check.delivered = true)
    (dated : action = .failure ∨ action = .failureRepeat → check.delivered = true → 0 < check.time) :
    Permitted 1 cooldownSeconds known check ∧
      HealthTracks (previous.afterHealthAction action check.healthy check.delivered check.time)
        (known.next check) := by
  have outcome := decideAction_cases check.healthy previous check.time cooldownSeconds
  dsimp only at outcome
  rw [← isAction] at outcome
  rcases outcome with ⟨rfl, isHealthy, active⟩ | ⟨fails, unhealthy, due⟩ | ⟨rfl, noRecovery, noAlert⟩
  · refine ⟨tracked.permits_recovery isHealthy attempts active, ?_⟩
    cases delivered : check.delivered with
    | true =>
        have delivers : check.Delivers .recovered := ⟨attempts, delivered⟩
        refine ⟨tracked.recovered isHealthy delivers, ?_⟩
        rw [(known.next_of_recovery delivers).2]
        exact tracked.dated
    | false =>
        refine ⟨tracked.notRecovered isHealthy (no_delivery delivered) active, ?_⟩
        rw [(known.next_of_none (no_delivery delivered _) (no_delivery delivered _)).2]
        exact tracked.dated
  · have isAlert : check.attempted = some .alert := by
      rcases fails with ⟨rfl, -⟩ | rfl <;> exact attempts
    constructor
    · apply tracked.permits_alert unhealthy isAlert
      intro _ time isLast
      have isTime : previous.lastAlertAt = time := by rw [tracked.lastAlert, isLast, Option.getD_some]
      have positive : time ≠ 0 := by
        rintro rfl
        exact tracked.dated isLast
      rw [isTime] at due
      have passed := due.resolve_left positive
      omega
    · cases delivered : check.delivered with
      | true =>
          have delivers : check.Delivers .alert := ⟨isAlert, delivered⟩
          have after := tracked.alerted unhealthy delivers
          rw [unhealthy] at after ⊢
          have positive : 0 < check.time := by
            apply dated _ delivered
            exact fails.imp_left And.left
          refine ⟨?_, ?_⟩
          · rcases fails with ⟨rfl, -⟩ | rfl <;> exact after
          · rw [(known.next_of_alert delivers).2]
            intro same
            exact positive.ne' (Option.some.inj same)
      | false =>
          -- An alert that could not be sent was no repetition, so none was active.
          obtain ⟨rfl, inactive⟩ : action = .failure ∧
              (previous.status = .unhealthy → previous.alertActive = false) := by
            rcases fails with first | repeated
            · exact first
            · cases (repeats repeated).symm.trans delivered
          have isInactive : previous.alertActive = false := by
            by_contra active
            rw [Bool.not_eq_false] at active
            have isUnhealthy := tracked.unhealthy (tracked.active ▸ active)
            cases (inactive isUnhealthy).symm.trans active
          have after := tracked.quiet (no_delivery delivered) fun isHealthy => by
            cases unhealthy.symm.trans isHealthy
          rw [unhealthy, isInactive] at after
          rw [unhealthy]
          refine ⟨after, ?_⟩
          rw [(known.next_of_none (no_delivery delivered _) (no_delivery delivered _)).2]
          exact tracked.dated
  · have noDelivery := no_delivery_of_none attempts
    constructor
    · apply tracked.permits_none attempts noRecovery
      intro unhealthy _ due
      obtain ⟨isDated, early⟩ := noAlert unhealthy
      by_contra inactive
      cases isLast : known.lastAlert with
      | none => exact isDated (by rw [tracked.lastAlert, isLast]; rfl)
      | some time =>
          have isTime : previous.lastAlertAt = time := by
            rw [tracked.lastAlert, isLast, Option.getD_some]
          have passed := due time isLast
          rw [isTime] at early
          omega
    · refine ⟨?_, ?_⟩
      · apply tracked.quiet noDelivery
        intro isHealthy
        by_contra outstanding
        rw [Bool.not_eq_false] at outstanding
        have inactive := noRecovery isHealthy (tracked.unhealthy outstanding)
        cases (tracked.active.trans outstanding).symm.trans inactive
      · rw [(known.next_of_none (noDelivery _) (noDelivery _)).2]
        exact tracked.dated

/-- Observing a run that meets the condition is a step of the protocol, and its file is tracked. -/
theorem observeHealth_step (tracked : HealthFileTracks file known)
    (met : RepeatsDelivered cooldownSeconds run file) :
    ∃ next, DeliveryStep 1 cooldownSeconds known (observeHealth cooldownSeconds run file).2 next ∧
      HealthFileTracks (observeHealth cooldownSeconds run file).1 next := by
  obtain ⟨attempts, isAfter⟩ := managerHealthWatchdog_spec cooldownSeconds run file
  have attempted : (observeHealth cooldownSeconds run file).2.attempted =
      (run.action cooldownSeconds file).event := attempts
  obtain ⟨permitted, after⟩ := tracked.step rfl attempted met.1 met.2
  refine ⟨_, ⟨permitted, rfl⟩, ?_⟩
  show HealthTracks (loadAlertState (some (managerHealthWatchdog cooldownSeconds run file).file)) _
  rw [isAfter]
  exact after

end ManagerHealth

section Protocol

/-- Runs of the storefront watchdog keep the protocol. -/
theorem storefront_protocol (config : WatchdogConfig) {runs : List StorefrontRun}
    (ordered : runs.Pairwise fun first second => first.nowEpoch ≤ second.nowEpoch) :
    DeliveryProtocol config.failureThreshold config.cooldownSeconds
      (observedRun (observeStorefront config) none runs) := by
  have anyRun : Throughout (observeStorefront config) (fun _ _ => True) none runs :=
    throughout_of_forall _ (fun _ _ => trivial) none
  obtain ⟨final, isRun⟩ :=
    StepRun.of_simulation (fun tracked _ => observeStorefront_step tracked) tracks_fresh anyRun
  apply DeliveryProtocol.of_run isRun
  apply pairwise_observedRun _ ordered
  intro first second before after notAfter
  exact notAfter

/-- Runs of the unit watchdog keep the protocol. -/
theorem units_protocol (config : WatchdogConfig) {runs : List UnitRun}
    (ordered : runs.Pairwise fun first second => first.nowEpoch ≤ second.nowEpoch) :
    DeliveryProtocol config.failureThreshold config.cooldownSeconds
      (observedRun (observeUnits config) none runs) := by
  have anyRun : Throughout (observeUnits config) (fun _ _ => True) none runs :=
    throughout_of_forall _ (fun _ _ => trivial) none
  obtain ⟨final, isRun⟩ :=
    StepRun.of_simulation (fun tracked _ => observeUnits_step tracked) tracks_fresh anyRun
  apply DeliveryProtocol.of_run isRun
  apply pairwise_observedRun _ ordered
  intro first second before after notAfter
  exact notAfter

/-- Runs of the health watchdog keep the protocol while its repetitions are delivered. -/
theorem health_protocol (cooldownSeconds : Nat) {runs : List HealthRun}
    (ordered : runs.Pairwise fun first second => first.nowEpoch ≤ second.nowEpoch)
    (met : Throughout (observeHealth cooldownSeconds) (RepeatsDelivered cooldownSeconds) none runs) :
    DeliveryProtocol 1 cooldownSeconds (observedRun (observeHealth cooldownSeconds) none runs) := by
  have fresh : HealthFileTracks none .fresh := ⟨tracks_fresh, by simp [DeliveryState.fresh]⟩
  obtain ⟨final, isRun⟩ := StepRun.of_simulation observeHealth_step fresh met
  apply DeliveryProtocol.of_run isRun
  apply pairwise_observedRun _ ordered
  intro first second before after notAfter
  exact notAfter

/-- **The alerts of the host watchdogs.** The storefront and the unit watchdog keep the protocol
in all their runs, the health watchdog in those that deliver every repeated alert. -/
theorem watchdogs_keep_protocol (cooldownSeconds : Nat) (storefront units : WatchdogConfig)
    (healthRuns : List HealthRun) (storefrontRuns : List StorefrontRun) (unitRuns : List UnitRun)
    (healthOrdered : healthRuns.Pairwise fun first second => first.nowEpoch ≤ second.nowEpoch)
    (storefrontOrdered : storefrontRuns.Pairwise fun first second =>
      first.nowEpoch ≤ second.nowEpoch)
    (unitsOrdered : unitRuns.Pairwise fun first second => first.nowEpoch ≤ second.nowEpoch)
    (met : Throughout (observeHealth cooldownSeconds) (RepeatsDelivered cooldownSeconds) none
      healthRuns) :
    DeliveryProtocol 1 cooldownSeconds
        (observedRun (observeHealth cooldownSeconds) none healthRuns) ∧
      DeliveryProtocol storefront.failureThreshold storefront.cooldownSeconds
        (observedRun (observeStorefront storefront) none storefrontRuns) ∧
      DeliveryProtocol units.failureThreshold units.cooldownSeconds
        (observedRun (observeUnits units) none unitRuns) :=
  ⟨health_protocol cooldownSeconds healthOrdered met, storefront_protocol storefront storefrontOrdered,
    units_protocol units unitsOrdered⟩

/-- An hour of trouble with a repeated alert, and the recovery. -/
def sampleHealthRuns : List HealthRun :=
  [⟨false, "HTTP 502", 1000, true⟩, ⟨false, "HTTP 502", 4600, true⟩, ⟨true, "HTTP 200", 4660, true⟩]

/-- Three failed probes of the storefront, of which the second cannot deliver its alert. -/
def sampleStorefrontRuns : List StorefrontRun :=
  [(false, 1000, true), (false, 1060, false), (false, 1120, true), (true, 1180, true)].map
    fun (healthy, nowEpoch, delivered) =>
      ⟨"2026-07-01", 5, false, fun _ => (healthy, "HTTP 502"), nowEpoch, delivered⟩

/-- A unit that fails for a while, and a recovery that is announced at the second attempt. -/
def sampleUnitRuns : List UnitRun :=
  [⟨["a.service failed"], 3, 1000, true⟩, ⟨["a.service failed"], 3, 1300, true⟩,
    ⟨[], 3, 1600, false⟩, ⟨[], 3, 1900, true⟩]

theorem watchdogs_keep_protocol_example :
    (DeliveryProtocol 1 3600 (observedRun (observeHealth 3600) none sampleHealthRuns) ∧
      DeliveryProtocol 2 3600
        (observedRun (observeStorefront ⟨2, 3600⟩) none sampleStorefrontRuns) ∧
      DeliveryProtocol 2 21600 (observedRun (observeUnits ⟨2, 21600⟩) none sampleUnitRuns)) ∧
    (observedRun (observeHealth 3600) none sampleHealthRuns).map DeliveryCheck.attempted =
      [some .alert, some .alert, some .recovered] ∧
    (observedRun (observeStorefront ⟨2, 3600⟩) none sampleStorefrontRuns).map
      DeliveryCheck.attempted = [none, some .alert, some .alert, some .recovered] ∧
    (observedRun (observeUnits ⟨2, 21600⟩) none sampleUnitRuns).map DeliveryCheck.attempted =
      [none, some .alert, some .recovered, some .recovered] := by
  have met : Throughout (observeHealth 3600) (RepeatsDelivered 3600) none sampleHealthRuns := by
    unfold RepeatsDelivered
    decide
  exact ⟨watchdogs_keep_protocol 3600 ⟨2, 3600⟩ ⟨2, 21600⟩ sampleHealthRuns sampleStorefrontRuns
    sampleUnitRuns (by decide) (by decide) (by decide) met, by decide +kernel, by decide +kernel,
    by decide +kernel⟩

/-- When a repeated alert is not delivered, the health watchdog never announces the recovery. -/
theorem repeated_alert_forgotten :
    ¬DeliveryProtocol 1 3600 (observedRun (observeHealth 3600) none
      [⟨false, "HTTP 502", 1000, true⟩, ⟨false, "HTTP 502", 4600, false⟩,
        ⟨true, "HTTP 200", 4660, true⟩]) := by
  have checks : observedRun (observeHealth 3600) none
      [⟨false, "HTTP 502", 1000, true⟩, ⟨false, "HTTP 502", 4600, false⟩,
        ⟨true, "HTTP 200", 4660, true⟩] =
      [⟨1000, false, some .alert, true⟩, ⟨4600, false, some .alert, false⟩,
        ⟨4660, true, none, true⟩] := by decide
  rw [checks]
  intro kept
  have outstanding : Outstanding
      [⟨1000, false, some .alert, true⟩, ⟨4600, false, some .alert, false⟩] := by
    refine ⟨[], _, _, rfl, ⟨rfl, rfl⟩, ?_⟩
    simp [DeliveryCheck.Delivers]
  cases kept.attempts_recovery _ _ [] rfl outstanding rfl

end Protocol

end TraefikManager.Scripts
