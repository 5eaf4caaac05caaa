import TraefikManager.Monitoring.MonitorState

/-!
# The monitor of the request-log storage

The storage is healthy or in one of three conditions. A change of the condition is announced
at once; that requests are not kept by the manager is announced again after the cooldown, that
the storage is nearly full is not.
-/

namespace TraefikManager.Monitoring

open Foundation

section Storage

/-- `_count`: a number that is not negative, else zero. -/
def countOf : Option Json → Nat
  | some (.int value) => value.toNat
  | _ => 0

/-- Whether a stored value is this text. -/
def isText (value : Option Json) (text : String) : Bool :=
  match value with
  | some (.string stored) => stored = text
  | _ => false

@[simp] theorem isText_string (stored text : String) :
    isText (some (.string stored)) text = decide (stored = text) := rfl

@[simp] theorem isText_null (text : String) : isText (some .null) text = false := rfl

@[simp] theorem isText_none (text : String) : isText none text = false := rfl

/-- What is recorded of the storage. -/
structure StorageDetail where
  status : String
  source : String
  sizeBytes : Nat
  capacityBytes : Nat
  fileCount : Nat
  maxFileCount : Nat
  rotatedFileCount : Nat
  deriving DecidableEq, Repr

/-- `_normalize_storage`. The comparison of `size_bytes / capacity_bytes * 100` with the warning
percentage is one of floating point numbers. -/
def normalizeStorage (reachesWarning : Nat → Nat → Bool) (storage : Dict String Json) :
    StorageDetail :=
  let source := match storage.get? "source" with
    | some (.string source) =>
        if source ∈ ["persistent", "docker", "unavailable"] then source else "unavailable"
    | _ => "unavailable"
  let sizeBytes := countOf (storage.get? "size_bytes")
  let capacityBytes := countOf (storage.get? "capacity_bytes")
  let status :=
    if source ∈ ["docker", "unavailable"] then source
    else if 0 < capacityBytes ∧ reachesWarning sizeBytes capacityBytes then "capacity"
    else "healthy"
  { status, source, sizeBytes, capacityBytes
    fileCount := countOf (storage.get? "file_count")
    maxFileCount := countOf (storage.get? "max_file_count")
    rotatedFileCount := countOf (storage.get? "rotated_file_count") }

/-- What a check of the storage reads; no storage stands for a failed answer of the client. -/
structure HttpLogStorageInput where
  now : Datetime.Instant
  enabledValue : Option String
  cooldownValue : Option String
  cooldownSeconds : Option Int
  storage : Option (Dict String Json)

namespace HttpLogStorageInput

variable (reachesWarning : Nat → Nat → Bool) (input : HttpLogStorageInput)

def enabled : Bool := (readManagerHealthMonitoringValues input.enabledValue input.cooldownValue).1

def effectiveCooldown : Int :=
  effectiveCooldownSeconds input.cooldownSeconds
    (readManagerHealthMonitoringValues input.enabledValue input.cooldownValue).2

/-- The condition of the storage, when it could be inspected. -/
def measured : Option (Option String) :=
  input.storage.map fun storage =>
    let status := (normalizeStorage reachesWarning storage).status
    if status = "healthy" then none else some status

end HttpLogStorageInput

/-- The event of a check that finds the storage in this status. -/
def storageEvent (previous : MonitorState) (now cooldownSeconds : Int) (status : String) :
    Option String :=
  let warningActive : Bool := status ≠ "healthy"
  let wasActive := truthy (previous.get? "alert_active")
  let repeatableWarning : Bool := status ∈ ["docker", "unavailable"]
  if warningActive ∧ (¬wasActive ∨ ¬isText (previous.get? "status") status ∨
      (repeatableWarning ∧ alertDue (previous.get? "last_alert_at") now cooldownSeconds)) then
    some "manager_http_log_storage_warning"
  else if ¬warningActive ∧ wasActive then some "manager_http_log_storage_recovered"
  else none

/-- `check_manager_http_log_storage_once`. -/
def checkManagerHttpLogStorageOnce (reachesWarning : Nat → Nat → Bool)
    (input : HttpLogStorageInput) (stored : Option String) : CheckResult :=
  let previous := parseState stored
  if ¬input.enabled then disabledResult stored
  else
    match input.storage with
    | none => ⟨stored, none, 0⟩
    | some storage =>
        let status := (normalizeStorage reachesWarning storage).status
        let event := storageEvent previous input.now.micros input.effectiveCooldown status
        let state := Dict.ofList [("available", Json.bool true),
          ("alert_active", .bool (status ≠ "healthy")), ("status", .string status),
          ("last_alert_at", lastAlertAt (event = some "manager_http_log_storage_warning")
            input.now.micros previous),
          ("checked_at", .string (Datetime.utc input.now.micros).isoformat)]
        ⟨some (dumpState state), event, if status ≠ "healthy" ∧ event = none then 1 else 0⟩

/-- The monitor of the request-log storage, on the text it keeps. -/
def httpLogStorageMonitor (reachesWarning : Nat → Nat → Bool) :
    Monitor (Option String) HttpLogStorageInput String where
  check input stored :=
    let result := checkManagerHttpLogStorageOnce reachesWarning input stored
    (result.stored, eventsOf "manager_http_log_storage_warning" result.event)
  time input := input.now.micros
  cooldown input := input.effectiveCooldown * 1000000
  measured := HttpLogStorageInput.measured reachesWarning

end Storage

section Steps

/-- The condition of an open alert is the status that stands in the state. -/
def MarkedBy (status : String) (state : MonitorState) : Prop :=
  state.get? "status" = some (.string status)

variable {previous state : MonitorState} {alert : Option (OpenAlert String)}

private theorem storageEvent_step (tracked : Tracks MarkedBy previous alert)
    (now : Datetime.Instant) {seconds : Int} {status : String} {event : Option String}
    (isEvent : storageEvent previous now.micros seconds status = event)
    (exact : ExactState state)
    (active : state.get? "alert_active" = some (.bool (status ≠ "healthy")))
    (marked : MarkedBy status state)
    (last : state.get? "last_alert_at" = some (lastAlertAt
      (event = some "manager_http_log_storage_warning") now.micros previous)) :
    ∃ next, AlertStep alert ⟨now.micros, seconds * 1000000,
        some (if status = "healthy" then none else some status),
        eventsOf "manager_http_log_storage_warning" event⟩ next ∧ Tracks MarkedBy state next := by
  have tracksOpen : ∀ lastAlert : Int, status ≠ "healthy" →
      ((Datetime.utc lastAlert).InRange ∧ state.get? "last_alert_at" =
        some (.string (Datetime.utc lastAlert).isoformat)) →
      Tracks MarkedBy state (some ⟨lastAlert, status⟩) := by
    intro lastAlert warning isLast
    refine ⟨exact, ?_, ?_, ?_⟩
    · rw [active, decide_eq_true warning]
      rfl
    · rintro found ⟨⟩
      exact isLast
    · rintro found ⟨⟩
      exact marked
  have tracksNone : status = "healthy" → Tracks MarkedBy state none := by
    intro healthy
    refine ⟨exact, ?_, by simp, by simp⟩
    rw [active, healthy]
    rfl
  subst isEvent
  unfold storageEvent at last ⊢
  rw [tracked.active] at last ⊢
  by_cases healthy : status = "healthy"
  · cases alert with
    | none =>
        refine ⟨none, ?_, tracksNone healthy⟩
        simpa [healthy, eventsOf] using AlertStep.healthy
    | some current =>
        refine ⟨none, ?_, tracksNone healthy⟩
        simpa [healthy, eventsOf] using AlertStep.recovered
  · cases alert with
    | none =>
        refine ⟨some ⟨now.micros, status⟩, ?_, tracksOpen _ healthy ⟨now.inRange, ?_⟩⟩
        · simpa [healthy, eventsOf] using AlertStep.alerted
        · simpa [healthy, lastAlertAt] using last
    | some current =>
        have before : previous.get? "status" = some (.string current.condition) :=
          tracked.condition current rfl
        rw [tracked.alertDue, before] at last ⊢
        simp only [isText_string, healthy, ne_eq, not_false_eq_true, decide_true, Option.isSome_some,
          not_true, false_or, true_and, decide_eq_true_eq, false_and, if_false] at last ⊢
        by_cases announced : ¬current.condition = status ∨ status ∈ ["docker", "unavailable"] ∧
            seconds * 1000000 ≤ now.micros - current.lastAlert
        · rw [if_pos announced] at last ⊢
          refine ⟨some ⟨now.micros, status⟩, .repeated ?_, tracksOpen _ healthy ⟨now.inRange, last⟩⟩
          obtain changed | ⟨-, due⟩ := announced
          · exact .inl (Ne.symm changed)
          · exact .inr due
        · rw [if_neg announced] at last ⊢
          obtain ⟨inRange, isLast⟩ := tracked.lastAlert current rfl
          refine ⟨some ⟨current.lastAlert, status⟩, .suppressed,
            tracksOpen _ healthy ⟨inRange, ?_⟩⟩
          simpa [lastAlertAt, isLast] using last

/-- A check of the storage is a step of the protocol. -/
theorem checkManagerHttpLogStorageOnce_step {reachesWarning : Nat → Nat → Bool}
    {input : HttpLogStorageInput} {stored : Option String}
    (tracked : Tracks MarkedBy (parseState stored) alert) (enabled : input.enabled = true) :
    ∃ next, AlertStep alert ⟨input.now.micros, input.effectiveCooldown * 1000000,
        input.measured reachesWarning, ((httpLogStorageMonitor reachesWarning).check input stored).2⟩
        next ∧
      Tracks MarkedBy (parseState ((httpLogStorageMonitor reachesWarning).check input stored).1)
        next := by
  unfold httpLogStorageMonitor checkManagerHttpLogStorageOnce HttpLogStorageInput.measured
  simp only [enabled, not_true, if_false]
  cases input.storage with
  | none => exact ⟨alert, .unavailable, tracked⟩
  | some storage =>
      simp only [Option.map_some]
      generalize (normalizeStorage reachesWarning storage).status = status
      obtain ⟨event, isEvent⟩ : ∃ event, storageEvent (parseState stored) input.now.micros
          input.effectiveCooldown status = event := ⟨_, rfl⟩
      simp only [isEvent]
      have exact : ExactState (Dict.ofList [("available", Json.bool true),
          ("alert_active", .bool (status ≠ "healthy")), ("status", .string status),
          ("last_alert_at", lastAlertAt (event = some "manager_http_log_storage_warning")
            input.now.micros (parseState stored)),
          ("checked_at", .string (Datetime.utc input.now.micros).isoformat)]) := by
        apply exactState_ofList
        simp only [List.forall_mem_cons]
        exact ⟨.bool _, .bool _, .string _, tracked.exact_lastAlertAt _ _, .string _, by simp⟩
      rw [parseState_dumpState exact]
      exact storageEvent_step tracked input.now isEvent exact rfl rfl rfl

end Steps

end TraefikManager.Monitoring
