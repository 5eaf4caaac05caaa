import TraefikManager.Monitoring.EncodedPathBlocks

/-!
# The history of refused requests

A file keeps, for every minute of the last day, how many requests the access log showed and
how many of them were refused. The log is read again and again with overlaps: a cursor, the
time of the last line, and hashes of the lines at that time tell which requests are new.
-/

namespace TraefikManager.Monitoring

open Foundation

variable (tools : LogTools)

section Values

/-- `MAX_CURSOR_FINGERPRINTS`, `MAX_TARGET_KEYS_PER_MINUTE` and `MAX_PATTERN_KEYS_PER_MINUTE`. -/
def maxCursorFingerprints : Nat := 100
def maxTargetKeysPerMinute : Nat := 5
def maxPatternKeysPerMinute : Nat := 5

/-- `timedelta(hours=HISTORY_WINDOW_HOURS)` in microseconds. -/
def historyWindow : Int := 24 * 3600000000

/-- `MAX_HISTORY_BYTES`. -/
def maxHistoryBytes : Nat := 1024 * 1024

abbrev HistoryState := Dict String Json

/-- `moment.isoformat()` of a point in time in UTC. -/
def isoMoment (micros : Int) : Json := .string (Datetime.utc micros).isoformat

/-- `occurred_at.replace(second=0, microsecond=0)`. -/
def minuteStart (micros : Int) : Int := micros / 60000000 * 60000000

def minuteKey (micros : Int) : String := (Datetime.utc (minuteStart micros)).isoformat

/-- `str(value or "")`. -/
def LogTools.textOf (value : Option Json) : String :=
  if truthy value then
    match value with
    | some (.string text) => text
    | some other => tools.str other
    | none => ""
  else ""

/-- `parse_datetime(str(state.get(key) or ""))`. -/
def LogTools.storedMoment (state : HistoryState) (key : String) : Option Int :=
  tools.parseDatetime (tools.textOf (state.get? key))

/-- `int(value)`. -/
def LogTools.intOf : Json → Except PyException Int
  | .int value => .ok value
  | .bool value => .ok (if value then 1 else 0)
  | .string text =>
      match Text.parseInt text with
      | some value => .ok value
      | none => .error (.valueError "invalid literal for int() with base 10")
  | .real literal => tools.truncate literal
  | .null | .array _ | .object _ =>
      .error (.typeError "int() argument must be a string, a bytes-like object or a real number")

/-- `counts[key] = int(counts.get(key, 0)) + 1`. -/
def LogTools.bump (counts : Dict String Json) (key : String) :
    Except PyException (Dict String Json) :=
  (tools.intOf ((counts.get? key).getD (.int 0))).map fun count => counts.set key (.int (count + 1))

/-- A change of the object under a key: `setdefault(key, {})`, and nothing where another value
stands. -/
def within (fields : Dict String Json) (key : String)
    (change : Dict String Json → Except PyException (Dict String Json)) :
    Except PyException (Dict String Json) :=
  match (fields.get? key).getD (.object []) with
  | .object inner =>
      (change (Dict.ofList inner)).map fun changed => fields.set key (.object changed.entries)
  | _ => .ok fields

/-- A key, or the one for the rest once there are enough keys. -/
def boundedKey (limit : Nat) (rest : String) (counts : Dict String Json) (key : String) : String :=
  if key ∉ counts.keys ∧ limit ≤ counts.keys.length then rest else key

end Values

section Minutes

/-- A router of Traefik itself. -/
def LogEvent.isInternal (event : LogEvent) : Bool :=
  match event.routerName with
  | some (.string name) => Text.endsWith "@internal" name
  | _ => false

/-- The key of the router a refused request was for. -/
def LogEvent.routerKey (event : LogEvent) : String :=
  match event.requestHostHash, event.routerName with
  | some hash, _ => "host:" ++ hash
  | none, some (.string name) => name
  | none, _ => "unknown"

/-- What a minute holds before its first request. -/
def newMinute : Dict String Json :=
  Dict.ofList [("total_request_count", .int 0), ("blocked_request_count", .int 0),
    ("encoded_characters", .object []), ("request_methods", .object []),
    ("encoded_patterns", .object []), ("router_counts", .object []), ("last_blocked_at", .null)]

/-- What a refused request adds to its minute besides the number of requests. -/
def countBlock (minute : Dict String Json) (event : LogEvent) (occurredAt : Int) :
    Except PyException (Dict String Json) := do
  let minute ← tools.bump minute "blocked_request_count"
  let minute ← within minute "encoded_characters" fun counts =>
    event.encodedCharacters.foldlM tools.bump counts
  let minute ← within minute "request_methods" fun counts => tools.bump counts event.requestMethod
  let minute ← within minute "encoded_patterns" fun counts =>
    tools.bump counts (boundedKey maxPatternKeysPerMinute "OTHER" counts
      (Text.join "+" (event.encodedCharacters.map upper)))
  let minute ← within minute "router_counts" fun counts =>
    tools.bump counts (boundedKey maxTargetKeysPerMinute "unknown" counts event.routerKey)
  let previous := tools.storedMoment minute "last_blocked_at"
  .ok (minute.set "last_blocked_at" (isoMoment (max (previous.getD occurredAt) occurredAt)))

/-- What a request adds to its minute. -/
def countRequest (minute : Dict String Json) (event : LogEvent) (occurredAt : Int) :
    Except PyException (Dict String Json) := do
  let minute ← tools.bump minute "total_request_count"
  if event.encodedCharacters = [] then .ok minute else countBlock tools minute event occurredAt

/-- `state.setdefault("minutes", {})`; a value that is no object is replaced. -/
def minutesOf (state : HistoryState) : Dict String Json :=
  match state.get? "minutes" with
  | some (.object fields) => Dict.ofList fields
  | _ => ∅

/-- `_add_request_to_minute`. -/
def addRequestToMinute (state : HistoryState) (event : LogEvent) (occurredAt : Int) :
    Except PyException HistoryState :=
  if event.isInternal then .ok state
  else
    let observedSince := tools.storedMoment state "request_count_observed_since"
    let state := state.set "request_count_observed_since"
      (isoMoment (min (observedSince.getD occurredAt) occurredAt))
    let minutes := minutesOf state
    match (minutes.get? (minuteKey occurredAt)).getD (.object newMinute.entries) with
    | .object fields =>
        (countRequest tools (Dict.ofList fields) event occurredAt).map fun minute =>
          state.set "minutes"
            (.object (minutes.set (minuteKey occurredAt) (.object minute.entries)).entries)
    | value => .ok (state.set "minutes" (.object (minutes.set (minuteKey occurredAt) value).entries))

end Minutes

section Merging

/-- The hashes that stand in the state. -/
def cursorFingerprints (state : HistoryState) : List String :=
  match state.get? "cursor_fingerprints" with
  | some (.array items) => items.filterMap fun
      | .string text => some text
      | _ => none
  | _ => []

/-- Whether a request is in the window and behind the cursor. -/
def isNewEvent (cursorAt : Option Int) (fingerprints : List String) (checkedAt : Int)
    (event : LogEvent) (occurredAt : Int) : Bool :=
  (checkedAt - historyWindow ≤ occurredAt ∧ occurredAt ≤ checkedAt) ∧
    ¬cursorAt.any fun cursor => occurredAt < cursor ∨
      (occurredAt = cursor ∧ event.fingerprint ∈ fingerprints)

/-- The body of the loop of `merge_log_events`. -/
def mergeEvent (cursorAt : Option Int) (fingerprints : List String) (checkedAt : Int)
    (state : HistoryState) (event : LogEvent) : Except PyException HistoryState :=
  match event.occurredAt with
  | none => .ok state
  | some occurredAt =>
      if isNewEvent cursorAt fingerprints checkedAt event occurredAt then
        addRequestToMinute tools state event occurredAt
      else .ok state

/-- The hashes of the requests at a time. -/
def fingerprintsAt (events : List LogEvent) (moment : Int) : List String :=
  (events.filter (·.occurredAt = some moment)).map (·.fingerprint)

def fingerprintArray (fingerprints : List String) : Json :=
  .array ((fingerprints.take maxCursorFingerprints).map .string)

/-- The cursor after a text whose last line is from `latest`. -/
def advanceCursor (state : HistoryState) (events : List LogEvent) (cursorAt : Option Int)
    (fingerprints : List String) (latest : Int) : HistoryState :=
  if cursorAt.all (· < latest) then
    (state.set "cursor_at" (isoMoment latest)).set "cursor_fingerprints"
      (fingerprintArray (fingerprintsAt events latest))
  else if cursorAt = some latest then
    state.set "cursor_fingerprints" (fingerprintArray
      ((fingerprints ++ fingerprintsAt events latest).dedup.insertionSort (· ≤ ·)))
  else state

/-- The end of `merge_log_events`: the cursor, and since when the log is watched. -/
def recordBounds (state : HistoryState) (events : List LogEvent) (cursorAt : Option Int)
    (fingerprints : List String) (logTimestamps : List Int) (checkedAt : Int) : HistoryState :=
  match logTimestamps.max?, logTimestamps.min? with
  | some latest, some earliest =>
      let state := advanceCursor state events cursorAt fingerprints latest
      state.set "observed_since"
        (isoMoment (min ((tools.storedMoment state "observed_since").getD earliest) earliest))
  | _, _ =>
      if truthy (state.get? "observed_since") then state
      else state.set "observed_since" (isoMoment checkedAt)

/-- `merge_log_events`. -/
def mergeLogEvents (state : HistoryState) (rawText : String) (checkedAt : Int) :
    Except PyException HistoryState := do
  let events ← parseAccessLogEvents tools (some rawText)
  let logTimestamps := (Text.splitLines rawText).filterMap tools.timestamp
  let cursorAt := tools.storedMoment state "cursor_at"
  let fingerprints := cursorFingerprints state
  let state ← events.foldlM (mergeEvent tools cursorAt fingerprints checkedAt) state
  .ok (recordBounds tools state events cursorAt fingerprints logTimestamps checkedAt)

/-- `prune_minutes`. -/
def pruneMinutes (state : HistoryState) (checkedAt : Int) : HistoryState :=
  state.set "minutes" (.object ((minutesOf state).filter fun entry =>
    (tools.parseDatetime entry.1).any (checkedAt - historyWindow ≤ ·)).entries)

end Merging

section Files

/-- The state before there is a file. -/
def newHistory : HistoryState :=
  Dict.ofList [("minutes", .object []), ("cursor_fingerprints", .array [])]

/-- `_read_state` of the text of the file, when there is one. -/
def readHistoryState : Option String → Except PyException HistoryState
  | none => .ok newHistory
  | some text =>
      if maxHistoryBytes < text.utf8ByteSize then
        .error (.valueError "encoded path block history is too large")
      else
        match Json.loads (String.ofList (Text.universalNewlines text.toList)) with
        | some (.object fields) => .ok (Dict.ofList fields)
        | some _ => .error (.valueError "encoded path block history is invalid")
        | none => .error (.valueError "no JSON")

/-- `update_encoded_path_block_history`: the file after it; `_write_state` replaces it as a
whole. The summary that is returned is built from the state that is written. -/
def updateEncodedPathBlockHistory (file rawText : Option String) (checkedAt : Int) :
    Except PyException (Option String) := do
  let state ← readHistoryState file
  match rawText with
  | none =>
      if file.isNone then .ok none
      else .ok (some (dumpState (pruneMinutes tools state checkedAt)))
  | some text => do
      let state ← mergeLogEvents tools state text checkedAt
      let state := state.set "last_observed_log_lines" (.int (Text.splitLines text).length)
      .ok (some (dumpState (pruneMinutes tools state checkedAt)))

end Files

end TraefikManager.Monitoring
