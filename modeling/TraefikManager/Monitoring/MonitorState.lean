import TraefikManager.IsoDatetime
import TraefikManager.Foundation.AlertProtocol
import TraefikManager.Foundation.Dict
import TraefikManager.Foundation.Json

/-!
# The state of a monitor

A monitor keeps a JSON object in the settings table between its checks: whether an alert is
open and when it was last announced. Texts that are no object read as no state.
-/

namespace TraefikManager.Monitoring

open Foundation

section Settings

/-- A setting read as a number within bounds. -/
def boundedInt (value : Option String) (default minimum maximum : Int) : Int :=
  let parsed := match value with
    | none => default
    | some text => (Text.parseInt text).getD default
  max minimum (min maximum parsed)

/-- A setting that turns a monitor on. -/
def readEnabled (value : Option String) (default : Bool) : Bool :=
  match value with
  | none => default
  | some text => (Text.strip text).toLower = "true"

/-- `read_manager_health_monitoring_values`: whether the monitor is on, and the cooldown in
minutes, which the other monitors use too. -/
def readManagerHealthMonitoringValues (enabledValue cooldownValue : Option String) : Bool × Int :=
  (readEnabled enabledValue true, boundedInt cooldownValue 60 5 1440)

/-- The cooldown in seconds: an argument of the check, else the setting. -/
def effectiveCooldownSeconds (cooldownSeconds : Option Int) (cooldownMinutes : Int) : Int :=
  cooldownSeconds.getD (cooldownMinutes * 60)

end Settings

section State

/-- `bool(value)`; a missing value is `None`. -/
def truthy : Option Json → Bool
  | none | some .null => false
  | some (.bool value) => value
  | some (.int value) => value ≠ 0
  | some (.real literal) =>
      (literal.toList.takeWhile fun c => c ≠ 'e' ∧ c ≠ 'E').any fun c => '1' ≤ c ∧ c ≤ '9'
  | some (.string value) => value ≠ ""
  | some (.array items) => !items.isEmpty
  | some (.object fields) => !fields.isEmpty

abbrev MonitorState := Dict String Json

/-- `parse_encoded_path_block_monitor_state`, `parse_manager_http_error_state` and
`_parse_state`. -/
def parseState (raw : Option String) : MonitorState :=
  match raw with
  | none => ∅
  | some text =>
      match Json.loads text with
      | some (.object fields) => Dict.ofList fields
      | _ => ∅

/-- `json.dumps(state)`; the order of the keys does not matter to the reader. -/
def dumpState (state : MonitorState) : String := (Json.object state.entries).dumps

def ExactState (state : MonitorState) : Prop := ∀ entry ∈ state.entries, Json.Exact entry.2

theorem exactState_empty : ExactState ∅ := by
  intro entry inEntries
  cases inEntries

theorem exactState_ofList {entries : List (String × Json)}
    (each : ∀ entry ∈ entries, Json.Exact entry.2) : ExactState (Dict.ofList entries) :=
  fun entry inEntries => each entry (Dict.mem_entries_ofList inEntries)

theorem ExactState.set {state : MonitorState} (exact : ExactState state) (key : String)
    {value : Json} (exactValue : Json.Exact value) : ExactState (state.set key value) := by
  intro entry inEntries
  have found := Dict.get?_eq_some_iff.mpr inEntries
  rw [Dict.get?_set] at found
  split at found
  · cases found
    exact exactValue
  · exact exact entry (Dict.get?_eq_some_iff.mp found)

/-- A state is read back from what is written of it. -/
theorem parseState_dumpState {state : MonitorState} (exact : ExactState state) :
    parseState (some (dumpState state)) = state := by
  unfold parseState dumpState
  simp only [Json.loads_dumps (.object exact)]
  exact Dict.ofList_entries state

/-- `_alert_due` of the stored time of the last alert; a text that is no time counts as due. -/
def alertDue (lastAlertAt : Option Json) (now : Int) (cooldownSeconds : Int) : Bool :=
  match lastAlertAt with
  | some (.string value) =>
      match Datetime.fromIsoformat (Datetime.spellZulu value) with
      | some last => cooldownSeconds * 1000000 ≤ now - last.normalizeUtc.micros
      | none => true
  | _ => true

private theorem alertDue_isoformat {moment : Datetime} (inRange : moment.InRange)
    (now seconds : Int) : alertDue (some (.string moment.isoformat)) now seconds =
      decide (seconds * 1000000 ≤ now - moment.micros) := by
  unfold alertDue
  simp only [Datetime.spellZulu_isoformat, Datetime.fromIsoformat_isoformat inRange,
    Datetime.normalizeUtc_micros]
  rfl

end State

section EntryStates

/-- A state with an entry for each of several subjects. -/
abbrev EntryState := Dict String MonitorState

/-- `_deserialize_state` of the health and certificate monitors: values that are no objects are
dropped. -/
def deserializeState (raw : Option String) : EntryState :=
  Dict.ofList ((parseState raw).entries.filterMap fun (name, value) =>
    match value with
    | .object fields => some (name, Dict.ofList fields)
    | _ => none)

/-- The object that is written of a state. -/
def serializeState (state : EntryState) : MonitorState where
  entries := state.entries.map fun entry => (entry.1, .object entry.2.entries)
  distinct := by
    rw [List.map_map]
    exact state.distinct

def ExactEntries (state : EntryState) : Prop := ∀ entry ∈ state.entries, ExactState entry.2

theorem deserializeState_dump {state : EntryState} (exact : ExactEntries state) :
    deserializeState (some (dumpState (serializeState state))) = state := by
  have exactObject : ExactState (serializeState state) := by
    intro entry inEntries
    obtain ⟨component, inState, rfl⟩ := List.mem_map.mp inEntries
    exact .object (exact component inState)
  rw [deserializeState, parseState_dumpState exactObject, serializeState, List.filterMap_map]
  have each : (state.entries.filterMap fun entry => some (entry.1, Dict.ofList entry.2.entries)) =
      state.entries := by
    simp [Dict.ofList_entries]
  exact (congrArg Dict.ofList each).trans (Dict.ofList_entries state)

/-- `previous_state.get(name, {})`. -/
def EntryState.entry (state : EntryState) (name : String) : MonitorState :=
  (state.get? name).getD ∅

theorem exactState_entry {state : EntryState} (exact : ExactEntries state) (name : String) :
    ExactState (state.entry name) := by
  unfold EntryState.entry
  cases found : state.get? name with
  | none => exact exactState_empty
  | some entry => exact exact _ (Dict.get?_eq_some_iff.mp found)

end EntryStates

section Protocol

/-- What a check returns: the text it leaves in the settings table, the event it records, and
how many alerts it kept back. -/
structure CheckResult where
  stored : Option String
  event : Option String
  suppressedCount : Nat
  deriving DecidableEq, Repr

/-- A monitor that is turned off forgets its state. -/
def disabledResult (stored : Option String) : CheckResult :=
  { stored := if (parseState stored).entries.isEmpty then stored else none
    event := none, suppressedCount := 0 }

/-- `state["last_alert_at"]` after a check. -/
def lastAlertAt (alerted : Bool) (now : Int) (previous : MonitorState) : Json :=
  if alerted then .string (Datetime.utc now).isoformat
  else (previous.get? "last_alert_at").getD .null

/-- The event a monitor records, as one of the protocol. -/
def eventsOf (alertName : String) (event : Option String) : List AlertEvent :=
  match event with
  | none => []
  | some name => if name = alertName then [.alert] else [.recovered]

/-- A state holds the alert that is open: it is marked active, and the time of the last
announcement and the condition stand in it. -/
structure Tracks {κ : Type} (describes : κ → MonitorState → Prop) (previous : MonitorState)
    (alert : Option (OpenAlert κ)) : Prop where
  exact : ExactState previous
  active : truthy (previous.get? "alert_active") = alert.isSome
  lastAlert : ∀ current ∈ alert, (Datetime.utc current.lastAlert).InRange ∧
    previous.get? "last_alert_at" = some (.string (Datetime.utc current.lastAlert).isoformat)
  condition : ∀ current ∈ alert, describes current.condition previous

variable {κ : Type} {describes : κ → MonitorState → Prop} {previous : MonitorState}

theorem tracks_empty : Tracks describes ∅ none where
  exact := exactState_empty
  active := rfl
  lastAlert := by simp
  condition := by simp

/-- Other keys may be set without the alert being lost. -/
theorem Tracks.congr {alert : Option (OpenAlert κ)} {state : MonitorState}
    (tracked : Tracks describes previous alert) (exact : ExactState state)
    (active : state.get? "alert_active" = previous.get? "alert_active")
    (last : state.get? "last_alert_at" = previous.get? "last_alert_at")
    (condition : ∀ kind, describes kind previous → describes kind state) :
    Tracks describes state alert where
  exact := exact
  active := by rw [active, tracked.active]
  lastAlert := by
    rw [last]
    exact tracked.lastAlert
  condition current isOpen := condition _ (tracked.condition current isOpen)

/-- Whether an alert is due, in terms of the alert that is open. -/
theorem Tracks.alertDue {alert : OpenAlert κ} (tracked : Tracks describes previous (some alert))
    (now seconds : Int) :
    alertDue (previous.get? "last_alert_at") now seconds =
      decide (seconds * 1000000 ≤ now - alert.lastAlert) := by
  obtain ⟨inRange, isText⟩ := tracked.lastAlert alert rfl
  rw [isText]
  exact alertDue_isoformat inRange now seconds

theorem ExactState.lastAlertAt (exact : ExactState previous) (alerted : Bool) (now : Int) :
    Json.Exact (lastAlertAt alerted now previous) := by
  unfold Monitoring.lastAlertAt
  split
  · exact .string _
  · cases found : previous.get? "last_alert_at" with
    | none => exact .null
    | some value => exact exact _ (Dict.get?_eq_some_iff.mp found)

theorem Tracks.exact_lastAlertAt {alert : Option (OpenAlert κ)}
    (tracked : Tracks describes previous alert) (alerted : Bool) (now : Int) :
    Json.Exact (lastAlertAt alerted now previous) := tracked.exact.lastAlertAt alerted now

end Protocol

end TraefikManager.Monitoring
