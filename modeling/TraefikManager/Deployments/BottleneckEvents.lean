import Mathlib.Data.List.MinMax
import TraefikManager.Deployments.Records
import TraefikManager.Foundation.IntText

/-!
# The events of the deployment bottleneck monitor

A file of lines keeps the alerts of the monitor, the latest at its end. The backend reads the lines
that are events, and a clean-up writes those back that are young enough.
-/

namespace TraefikManager.Deployments

open Foundation

section Constants

/-- `MAX_EVENTS_BYTES` -/
def maxEventsBytes : Nat := 128 * 1024

/-- `MAX_RETAINED_EVENTS` -/
def maxRetainedEvents : Nat := 100

/-- `MIN_EVENT_RETENTION_DAYS` and `MAX_EVENT_RETENTION_DAYS`. -/
def minEventRetentionDays : Int := 1
def maxEventRetentionDays : Int := 3650

/-- `ALERT_EVENTS` -/
def alertEvents : List String := ["alerted", "cleared"]

/-- `DEPLOYMENT_STAGES` -/
def deploymentStages : List String :=
  ["prepare", "build", "migration_preflight", "candidate_health", "route_switch",
    "leader_handover", "public_probe", "state_write"]

end Constants

/-- Why an operation on the file fails. -/
inductive EventsFailure where
  | retentionOutOfRange
  | fileTooLarge
  | unicodeError
  | overflowError
  deriving DecidableEq

section Codec

/-- An event as the backend shows it. An escaped surrogate that is alone stays in the texts of the
backend, though it is no character: here U+FFFD stands for it, and the event says so. -/
structure BottleneckEvent where
  event : String
  occurredAt : String
  thresholdMs : Int
  requiredConsecutiveCount : Int
  currentConsecutiveCount : Int
  latestVersion : Option String
  slowestStage : Option String
  slowestMs : Int
  alertChannel : Option String
  runUrl : Option String
  loneSurrogate : Bool := false
  deriving DecidableEq

/-- `parse_datetime`, in microseconds. The point in time has to stay in range in UTC. -/
def parseDatetime (value : Option String) : Except EventsFailure (Option Int) :=
  match value with
  | none => .ok none
  | some text =>
      if text = "" then .ok none
      else
        match Datetime.fromIsoformat (Datetime.spellZulu text) with
        | none => .ok none
        | some parsed =>
            if (Datetime.utc parsed.micros).InRange then .ok (some parsed.micros)
            else .error .overflowError

/-- `iso_datetime` -/
def isoDatetime (value : Option String) : Except EventsFailure (Option String) :=
  (parseDatetime value).map fun parsed => if parsed.isSome then value else none

/-- `bounded_int` -/
def boundedInt (value : Option Json) (default minimum maximum : Int) : Int :=
  let parsed := match value with
    | some (.int number) => some number
    | some (.string text) => Text.intOf? text
    | _ => none
  match parsed with
  | some number => if minimum ≤ number ∧ number ≤ maximum then number else default
  | none => default

/-- `string_value(value) or None` -/
def nonemptyText (value : Option Json) : Option String := (stringOf? value).filter (· ≠ "")

/-- `normalize_event` -/
def normalizeEvent : Json → Except EventsFailure (Option BottleneckEvent)
  | .object value =>
      match stringOf? (Json.get? value "event") with
      | none => .ok none
      | some eventName =>
          if eventName ∉ alertEvents then .ok none
          else do
            let occurredAt ← isoDatetime (stringOf? (Json.get? value "occurred_at"))
            match occurredAt with
            | none => pure none
            | some occurredAt =>
                let (alertChannel, runUrl) :=
                  (normalizeAlertDelivery (Json.get? value "alert_channel")
                    (Json.get? value "run_url")).getD (none, none)
                pure (some
                  { event := eventName
                    occurredAt := occurredAt
                    thresholdMs :=
                      boundedInt (Json.get? value "threshold_ms") 60000 1000 900000
                    requiredConsecutiveCount :=
                      boundedInt (Json.get? value "required_consecutive_count") 3 1 20
                    currentConsecutiveCount :=
                      boundedInt (Json.get? value "current_consecutive_count") 0 0 10000
                    latestVersion :=
                      (nonemptyText (Json.get? value "latest_version")).filter fun version =>
                        version.length ≤ 100 && !Text.containsChar '\x00' version
                    slowestStage :=
                      (nonemptyText (Json.get? value "slowest_stage")).filter (· ∈ deploymentStages)
                    slowestMs :=
                      boundedInt (Json.get? value "slowest_ms") 0 0 (24 * 60 * 60 * 1000)
                    alertChannel := alertChannel
                    runUrl := runUrl })
  | _ => .ok none

/-- The event of a line, with that character for a surrogate that is alone. -/
def readEvent (lone : Char) (line : String) : Except EventsFailure (Option BottleneckEvent) :=
  match Json.loadsWith lone line with
  | some value => normalizeEvent value
  | none => .ok none

/-- The event of a line, if the line is one. It has a surrogate that is alone when another stand-in
makes it another event. -/
def lineEvent (line : String) : Except EventsFailure (Option BottleneckEvent) := do
  let event ← readEvent '\uFFFD' line
  let other ← readEvent '\uFFFC' line
  pure (event.map fun event => { event with loneSurrogate := some event ≠ other })

/-- `normalize_event_lines`: the latest event first. -/
def normalizeEventLines (lines : List String) : Except EventsFailure (List BottleneckEvent) :=
  (lines.reverse.mapM lineEvent).map List.reduceOption

/-- `event_timestamp` of an event, in microseconds. Its date was read before, so that the reading
does not fail here. -/
def BottleneckEvent.timestamp (event : BottleneckEvent) : Int :=
  match Datetime.fromIsoformat (Datetime.spellZulu event.occurredAt) with
  | some parsed => parsed.micros
  | none => Iso.minDay * 86400000000

/-- The value that is written for an event. -/
def BottleneckEvent.toJson (event : BottleneckEvent) : Json :=
  .object [
    ("event", .string event.event),
    ("occurred_at", .string event.occurredAt),
    ("threshold_ms", .int event.thresholdMs),
    ("required_consecutive_count", .int event.requiredConsecutiveCount),
    ("current_consecutive_count", .int event.currentConsecutiveCount),
    ("latest_version", Json.ofOption event.latestVersion),
    ("slowest_stage", Json.ofOption event.slowestStage),
    ("slowest_ms", .int event.slowestMs),
    ("alert_channel", Json.ofOption event.alertChannel),
    ("run_url", Json.ofOption event.runUrl)]

end Codec

section Storage

/-- `read_event_lines` of what a file holds; `none` stands for a file that is missing. -/
def readEventLines (strict : Bool) (file : Option Bytes) : Except EventsFailure (List String) :=
  match file with
  | none => .ok []
  | some content =>
      if maxEventsBytes < content.length then
        if strict then .error .fileTooLarge else .ok []
      else
        match Bytes.decode content with
        | some text => .ok (Text.splitLines text)
        | none => if strict then .error .unicodeError else .ok []

/-- The lines of events, the latest at the end. -/
def eventsContent (events : List BottleneckEvent) : Bytes :=
  contentOf (events.reverse.map fun event => event.toJson.write)

/-- What `write_events` leaves in the file. A surrogate that is alone cannot be encoded: the file
that is to replace the other is given up. -/
def writeEvents (events : List BottleneckEvent) : Except EventsFailure Bytes :=
  if events.any (·.loneSurrogate) then .error .unicodeError else .ok (eventsContent events)

end Storage

section Operations

/-- `_event_storage_summary`: `min` and `max` take the first of several. -/
structure StorageSummary where
  retainedEventCount : Nat
  oldestEventAt : Option String
  newestEventAt : Option String
  deriving DecidableEq

/-- Times are compared in the linear order of the integers, which computes. -/
local instance preorderInt : Preorder Int := Int.instLinearOrder.toPreorder

def eventStorageSummary (events : List BottleneckEvent) : StorageSummary where
  retainedEventCount := events.length
  oldestEventAt := (events.argmin BottleneckEvent.timestamp).map (·.occurredAt)
  newestEventAt := (events.argmax BottleneckEvent.timestamp).map (·.occurredAt)

/-- What a clean-up reports. -/
structure CleanupResult where
  retentionDays : Int
  deletedCount : Int
  summary : StorageSummary
  deriving DecidableEq

/-- `_calculate_event_cleanup`: the events that stay, and the report. A time without a zone is
taken to be in UTC. -/
def calculateEventCleanup (lines : List String) (retentionDays : Int) (now : Datetime) :
    Except EventsFailure (List BottleneckEvent × CleanupResult) := do
  let cutoff := now.micros - retentionDays * 86400000000
  if (Datetime.utc now.micros).InRange ∧ (Datetime.utc cutoff).InRange then
    let events ← normalizeEventLines lines
    let retained := (events.filter fun event => cutoff ≤ event.timestamp).take maxRetainedEvents
    pure (retained,
      { retentionDays
        deletedCount := (lines.length : Int) - retained.length
        summary := eventStorageSummary retained })
  else .error .overflowError

/-- `_validate_event_retention_days` -/
def validateEventRetentionDays (retentionDays : Int) : Except EventsFailure Unit :=
  if minEventRetentionDays ≤ retentionDays ∧ retentionDays ≤ maxEventRetentionDays then .ok ()
  else .error .retentionOutOfRange

/-- `preview_manager_deployment_bottleneck_event_cleanup` -/
def previewEventCleanup (retentionDays : Int) (file : Option Bytes) (now : Datetime) :
    Except EventsFailure CleanupResult := do
  let _ ← validateEventRetentionDays retentionDays
  let lines ← readEventLines true file
  let (_, result) ← calculateEventCleanup lines retentionDays now
  pure result

/-- `prune_manager_deployment_bottleneck_events`: the report, and what the file holds after it. -/
def pruneEvents (retentionDays : Int) (file : Option Bytes) (now : Datetime) :
    Except EventsFailure (CleanupResult × Bytes) := do
  let _ ← validateEventRetentionDays retentionDays
  let lines ← readEventLines true file
  let (retained, result) ← calculateEventCleanup lines retentionDays now
  let content ← writeEvents retained
  pure (result, content)

/-- `_read_normalized_events` -/
def readNormalizedEvents (file : Option Bytes) : Except EventsFailure (List BottleneckEvent) := do
  let lines ← readEventLines false file
  let events ← normalizeEventLines lines
  pure (events.take maxRetainedEvents)

end Operations

end TraefikManager.Deployments
