import TraefikManager.Monitoring.StorageMonitor

/-!
# The monitor of the manager's containers

One state holds an entry for each component. An unhealthy component is announced once, unless
the cooldown of an earlier alert still runs; it is announced again only after a recovery.
-/

namespace TraefikManager.Monitoring

open Foundation

section Components

/-- A container of the manager with the health docker reports. -/
structure ManagerComponent where
  name : String
  healthStatus : Option String
  deriving DecidableEq, Repr

/-- What docker answers about the containers of the manager. -/
structure HealthInspection where
  readEnabled : Bool
  backend : Option String
  frontend : Option String
  deriving DecidableEq, Repr

/-- `inspect_manager_components`. -/
def inspectManagerComponents (inspection : HealthInspection) : List ManagerComponent :=
  if inspection.readEnabled then [⟨"backend", inspection.backend⟩, ⟨"frontend", inspection.frontend⟩]
  else []

private theorem nodup_inspectManagerComponents (inspection : HealthInspection) :
    ((inspectManagerComponents inspection).map (·.name)).Nodup := by
  unfold inspectManagerComponents
  split <;> simp

/-- The health of a component, when it is one a check looks at. -/
def ManagerComponent.health (component : ManagerComponent) : Option String :=
  component.healthStatus.filter (· ∈ ["healthy", "unhealthy"])

/-- The health a check finds for a component of this name. -/
def healthOf (name : String) (components : List ManagerComponent) : Option String :=
  (components.find? (·.name = name)).bind (·.health)

end Components

section Checking

/-- `_parse_datetime`. -/
def parseDatetime (value : Option Json) : Option Int :=
  match value with
  | some (.string text) =>
      if Text.strip text = "" then none
      else (Datetime.fromIsoformat (Datetime.spellZulu text)).map (·.normalizeUtc.micros)
  | _ => none

/-- `_alert_due`. -/
def healthAlertDue (previous : MonitorState) (now cooldownSeconds : Int) : Bool :=
  match parseDatetime (previous.get? "last_unhealthy_alert_at") with
  | none => true
  | some lastAlertAt => cooldownSeconds * 1000000 ≤ now - lastAlertAt

/-- What a check finds out about one component. -/
structure ComponentCheck where
  entry : MonitorState
  event : Option String
  suppressed : Bool

/-- The body of the loop of `check_manager_health_once`. -/
def checkComponent (previous : MonitorState) (now cooldownSeconds : Int) (healthStatus : String) :
    ComponentCheck :=
  let transitioned : Bool := ¬isText (previous.get? "status") healthStatus
  let wasActive := truthy (previous.get? "alert_active")
  let unhealthy : Bool := healthStatus = "unhealthy"
  let alerted : Bool := unhealthy ∧ (transitioned ∨ ¬wasActive) ∧
    healthAlertDue previous now cooldownSeconds
  let suppressed : Bool := unhealthy ∧ ¬alerted ∧ transitioned
  let recovered : Bool :=
    ¬unhealthy ∧ isText (previous.get? "status") "unhealthy" ∧ wasActive
  let alertActive : Bool := unhealthy ∧ (alerted ∨ (¬transitioned ∧ wasActive))
  let current := Json.string (Datetime.utc now).isoformat
  { entry := Dict.ofList [("status", .string healthStatus), ("alert_active", .bool alertActive),
      ("status_changed_at",
        if transitioned then current
        else if truthy (previous.get? "status_changed_at") then
          (previous.get? "status_changed_at").getD .null
        else current),
      ("last_unhealthy_alert_at",
        if alerted then current else (previous.get? "last_unhealthy_alert_at").getD .null),
      ("checked_at", current)]
    event :=
      if alerted then some "manager_docker_unhealthy"
      else if recovered then some "manager_docker_recovered"
      else none
    suppressed }

/-- The state and the events, with the component each is about, after the components so far. -/
structure HealthRound where
  nextState : EntryState
  events : List (String × String)
  suppressedCount : Nat
  unhealthyCount : Nat

/-- One component of a round: its entry is compared with the state before the round. -/
def HealthRound.visit (previousState : EntryState) (now cooldownSeconds : Int)
    (round : HealthRound) (component : ManagerComponent) : HealthRound :=
  match component.health with
  | none => round
  | some healthStatus =>
      let checked :=
        checkComponent (previousState.entry component.name) now cooldownSeconds healthStatus
      { nextState := round.nextState.set component.name checked.entry
        events := round.events ++ (checked.event.map fun event => (component.name, event)).toList
        suppressedCount := round.suppressedCount + if checked.suppressed then 1 else 0
        unhealthyCount := round.unhealthyCount + if healthStatus = "unhealthy" then 1 else 0 }

/-- What a check of the containers reads; no inspection stands for a failed one. -/
structure ManagerHealthInput where
  now : Datetime.Instant
  enabledValue : Option String
  cooldownValue : Option String
  cooldownSeconds : Option Int
  inspection : Option HealthInspection

namespace ManagerHealthInput

variable (input : ManagerHealthInput)

def enabled : Bool := (readManagerHealthMonitoringValues input.enabledValue input.cooldownValue).1

def effectiveCooldown : Int :=
  effectiveCooldownSeconds input.cooldownSeconds
    (readManagerHealthMonitoringValues input.enabledValue input.cooldownValue).2

/-- Whether a component is unhealthy, when docker reports its health. -/
def measured (name : String) : Option (Option Unit) :=
  (input.inspection.bind fun inspection => healthOf name (inspectManagerComponents inspection)).map
    fun health => if health = "unhealthy" then some () else none

end ManagerHealthInput

/-- `check_manager_health_once`: the text that is kept, and the events of the components. -/
def checkManagerHealthOnce (input : ManagerHealthInput) (stored : Option String) :
    Option String × List (String × String) :=
  let previousState := deserializeState stored
  if ¬input.enabled then (if previousState.entries.isEmpty then stored else none, [])
  else
    match input.inspection with
    | none => (stored, [])
    | some inspection =>
        let round := (inspectManagerComponents inspection).foldl
          (HealthRound.visit previousState input.now.micros input.effectiveCooldown)
          ⟨previousState, [], 0, 0⟩
        (some (dumpState (serializeState round.nextState)), round.events)

/-- The events of a round that are about one component. -/
def eventsAbout (name : String) (events : List (String × String)) : List AlertEvent :=
  (events.filter (·.1 = name)).flatMap fun event =>
    eventsOf "manager_docker_unhealthy" (some event.2)

/-- The monitor of one component, on the text kept for all of them. -/
def managerHealthMonitor (name : String) : Monitor (Option String) ManagerHealthInput Unit where
  check input stored :=
    ((checkManagerHealthOnce input stored).1, eventsAbout name (checkManagerHealthOnce input stored).2)
  time input := input.now.micros
  cooldown input := input.effectiveCooldown * 1000000
  measured input := input.measured name

end Checking

section Steps

/-- The entry of a component holds the alert that is open about it. -/
structure TracksComponent (entry : MonitorState) (alert : Option (OpenAlert Unit)) : Prop where
  active : truthy (entry.get? "alert_active") = alert.isSome
  status : alert.isSome → isText (entry.get? "status") "unhealthy" = true

private theorem exactState_checkComponent {previous : MonitorState} (exact : ExactState previous)
    (now seconds : Int) (healthStatus : String) :
    ExactState (checkComponent previous now seconds healthStatus).entry := by
  have exactField : ∀ key, Json.Exact ((previous.get? key).getD .null) := by
    intro key
    cases found : previous.get? key with
    | none => exact .null
    | some value => exact exact _ (Dict.get?_eq_some_iff.mp found)
  apply exactState_ofList
  simp only [List.forall_mem_cons]
  refine ⟨.string _, .bool _, ?_, ?_, .string _, by simp⟩
  · split
    · exact .string _
    · split
      · exact exactField _
      · exact .string _
  · split
    · exact .string _
    · exact exactField _

/-- A check of one component is a step of the protocol. -/
theorem checkComponent_step {previous : MonitorState} {alert : Option (OpenAlert Unit)}
    (tracked : TracksComponent previous alert) (now seconds : Int) {healthStatus : String}
    (known : healthStatus = "healthy" ∨ healthStatus = "unhealthy") :
    ∃ next, AlertStep alert ⟨now, seconds * 1000000,
        some (if healthStatus = "unhealthy" then some () else none),
        eventsOf "manager_docker_unhealthy"
          (checkComponent previous now seconds healthStatus).event⟩ next ∧
      TracksComponent (checkComponent previous now seconds healthStatus).entry next := by
  have active : ∀ flag : Bool,
      (checkComponent previous now seconds healthStatus).entry.get? "alert_active" =
        some (.bool flag) → ∀ next : Option (OpenAlert Unit), next.isSome = flag →
      (flag = true → healthStatus = "unhealthy") →
      TracksComponent (checkComponent previous now seconds healthStatus).entry next := by
    intro flag isFlag next isNext unhealthy
    refine ⟨by rw [isFlag, isNext]; rfl, ?_⟩
    intro isOpen
    have status : (checkComponent previous now seconds healthStatus).entry.get? "status" =
        some (.string healthStatus) := rfl
    rw [status, unhealthy (isNext.symm.trans isOpen)]
    rfl
  have isActive := tracked.active
  obtain rfl | rfl := known
  · have quiet : (checkComponent previous now seconds "healthy").entry.get? "alert_active" =
        some (.bool false) := by simp [checkComponent, Dict.get?_ofList]
    refine ⟨none, ?_, active false quiet none rfl (by simp)⟩
    cases alert with
    | none => simpa [checkComponent, eventsOf, isActive] using AlertStep.healthy
    | some current =>
        simpa [checkComponent, eventsOf, isActive, tracked.status rfl] using AlertStep.recovered
  · cases alert with
    | none =>
        have isAlerted : (checkComponent previous now seconds "unhealthy").entry.get?
            "alert_active" = some (.bool (healthAlertDue previous now seconds)) := by
          simp [checkComponent, Dict.get?_ofList, isActive]
        cases due : healthAlertDue previous now seconds with
        | false =>
            refine ⟨none, ?_, active false (by rw [isAlerted, due]) none rfl (by simp)⟩
            simpa [checkComponent, eventsOf, isActive, due] using AlertStep.held
        | true =>
            refine ⟨some ⟨now, ()⟩, ?_, active true (by rw [isAlerted, due]) _ rfl fun _ => rfl⟩
            simpa [checkComponent, eventsOf, isActive, due] using AlertStep.alerted
    | some current =>
        have unhealthy := tracked.status rfl
        have stays : (checkComponent previous now seconds "unhealthy").entry.get?
            "alert_active" = some (.bool true) := by
          simp [checkComponent, Dict.get?_ofList, isActive, unhealthy]
        refine ⟨some ⟨current.lastAlert, ()⟩, ?_, active true stays _ rfl fun _ => rfl⟩
        simpa [checkComponent, eventsOf, isActive, unhealthy] using AlertStep.suppressed

end Steps

section Rounds

private theorem healthOf_cons (name : String) (component : ManagerComponent)
    (components : List ManagerComponent) :
    healthOf name (component :: components) =
      if component.name = name then component.health else healthOf name components := by
  unfold healthOf
  by_cases same : component.name = name <;> simp [same]

private theorem healthOf_of_notMem {name : String} {components : List ManagerComponent}
    (absent : name ∉ components.map (·.name)) : healthOf name components = none := by
  have noneFound : components.find? (·.name = name) = none := by
    rw [List.find?_eq_none]
    intro component inComponents same
    exact absent (List.mem_map.mpr ⟨component, inComponents, by simpa using same⟩)
  rw [healthOf, noneFound]
  rfl

private theorem health_cases {name health : String} {components : List ManagerComponent}
    (found : healthOf name components = some health) :
    health = "healthy" ∨ health = "unhealthy" := by
  obtain ⟨component, -, isHealth⟩ := Option.bind_eq_some_iff.mp found
  have known := (Option.filter_eq_some_iff.mp isHealth).2
  simpa using known

private theorem eventsAbout_append (name : String) (first second : List (String × String)) :
    eventsAbout name (first ++ second) = eventsAbout name first ++ eventsAbout name second := by
  simp [eventsAbout]

private theorem eventsAbout_event (name : String) (about : String) (event : Option String) :
    eventsAbout name (event.map fun event => (about, event)).toList =
      if about = name then eventsOf "manager_docker_unhealthy" event else [] := by
  cases event with
  | none => simp [eventsAbout, eventsOf]
  | some event => by_cases same : about = name <;> simp [eventsAbout, same]

variable (previousState : EntryState) (now seconds : Int)

private theorem exact_visit {round : HealthRound} (exactBefore : ExactEntries previousState)
    (exact : ExactEntries round.nextState) (component : ManagerComponent) :
    ExactEntries (round.visit previousState now seconds component).nextState := by
  unfold HealthRound.visit
  cases component.health with
  | none => exact exact
  | some health =>
      intro entry inEntries
      have found := Dict.get?_eq_some_iff.mpr inEntries
      rw [Dict.get?_set] at found
      split at found
      · rw [← Option.some.inj found]
        exact exactState_checkComponent (exactState_entry exactBefore _) now seconds health
      · exact exact entry (Dict.get?_eq_some_iff.mp found)

private theorem exact_round (components : List ManagerComponent) (round : HealthRound)
    (exactBefore : ExactEntries previousState) (exact : ExactEntries round.nextState) :
    ExactEntries
      (components.foldl (HealthRound.visit previousState now seconds) round).nextState := by
  induction components generalizing round with
  | nil => exact exact
  | cons component components ih => exact ih _ (exact_visit previousState now seconds exactBefore exact component)

/-- After a round, the entry of a component and the events about it are those of its own check;
a component that is not looked at keeps its entry. -/
theorem round_eq (name : String) {components : List ManagerComponent}
    (distinct : (components.map (·.name)).Nodup) (round : HealthRound) :
    (components.foldl (HealthRound.visit previousState now seconds) round).nextState.get? name =
        (match healthOf name components with
          | none => round.nextState.get? name
          | some health => some (checkComponent (previousState.entry name) now seconds health).entry) ∧
      eventsAbout name
          (components.foldl (HealthRound.visit previousState now seconds) round).events =
        eventsAbout name round.events ++
          (match healthOf name components with
            | none => []
            | some health => eventsOf "manager_docker_unhealthy"
                (checkComponent (previousState.entry name) now seconds health).event) := by
  induction components generalizing round with
  | nil => simp [healthOf]
  | cons component components ih =>
      obtain ⟨fresh, distinctRest⟩ := List.nodup_cons.mp distinct
      obtain ⟨isEntry, isEvents⟩ := ih distinctRest (round.visit previousState now seconds component)
      rw [List.foldl_cons, isEntry, isEvents, healthOf_cons]
      by_cases same : component.name = name
      · have notLater : healthOf name components = none := healthOf_of_notMem (same ▸ fresh)
        rw [if_pos same, notLater, ← same]
        cases health : component.health with
        | none => simp [HealthRound.visit, health]
        | some health' =>
            simp [HealthRound.visit, health, Dict.get?_set, eventsAbout_append, eventsAbout_event]
      · rw [if_neg same]
        cases health : component.health with
        | none => simp [HealthRound.visit, health]
        | some health' =>
            simp [HealthRound.visit, health, Dict.get?_set, eventsAbout_append, eventsAbout_event,
              same, Ne.symm same]

/-- The state tracks the alert that is open about a component. -/
structure TracksHealth (name : String) (stored : Option String)
    (alert : Option (OpenAlert Unit)) : Prop where
  exact : ExactEntries (deserializeState stored)
  component : TracksComponent ((deserializeState stored).entry name) alert

theorem checkManagerHealthOnce_step {name : String} {input : ManagerHealthInput}
    {stored : Option String} {alert : Option (OpenAlert Unit)}
    (tracked : TracksHealth name stored alert) (enabled : input.enabled = true) :
    ∃ next, AlertStep alert ⟨input.now.micros, input.effectiveCooldown * 1000000,
        input.measured name, ((managerHealthMonitor name).check input stored).2⟩ next ∧
      TracksHealth name ((managerHealthMonitor name).check input stored).1 next := by
  unfold managerHealthMonitor checkManagerHealthOnce ManagerHealthInput.measured
  simp only [enabled, not_true, if_false]
  cases input.inspection with
  | none => exact ⟨alert, .unavailable, tracked⟩
  | some inspection =>
      obtain ⟨isEntry, isEvents⟩ := round_eq (deserializeState stored) input.now.micros
        input.effectiveCooldown name (nodup_inspectManagerComponents inspection)
        ⟨deserializeState stored, [], 0, 0⟩
      have exact := exact_round (deserializeState stored) input.now.micros input.effectiveCooldown
        (inspectManagerComponents inspection) ⟨deserializeState stored, [], 0, 0⟩
        tracked.exact tracked.exact
      simp only [Option.bind_some]
      rw [isEvents]
      have tracksNext : ∀ next, TracksComponent (EntryState.entry ((inspectManagerComponents
            inspection).foldl (HealthRound.visit (deserializeState stored) input.now.micros
              input.effectiveCooldown) ⟨deserializeState stored, [], 0, 0⟩).nextState name) next →
          TracksHealth name (some (dumpState (serializeState ((inspectManagerComponents
            inspection).foldl (HealthRound.visit (deserializeState stored) input.now.micros
              input.effectiveCooldown) ⟨deserializeState stored, [], 0, 0⟩).nextState))) next := by
        intro next component
        have readBack := deserializeState_dump exact
        exact ⟨by rwa [readBack], by rwa [readBack]⟩
      cases found : healthOf name (inspectManagerComponents inspection) with
      | none =>
          rw [found] at isEntry
          refine ⟨alert, .unavailable, tracksNext alert ?_⟩
          rw [EntryState.entry, isEntry]
          exact tracked.component
      | some health =>
          rw [found] at isEntry
          obtain ⟨next, isStep, component⟩ := checkComponent_step tracked.component
            input.now.micros input.effectiveCooldown (health_cases found)
          refine ⟨next, isStep, tracksNext next ?_⟩
          rw [EntryState.entry, isEntry]
          exact component

end Rounds

end TraefikManager.Monitoring
