import TraefikManager.Foundation.Substring
import TraefikManager.Monitoring.MonitorState

/-!
# Requests in the access log

A line of the access log stands behind the timestamp docker puts before it and is JSON or in
the common log format. A request that was answered with 400 and names a reserved character in
encoded form was blocked by the router.
-/

namespace TraefikManager.Monitoring

open Foundation

/-- What the standard library supplies: dates as mails write them, hashes, the host of a URL,
the character classes of Unicode, and how numbers that are no integers are read and shown. -/
structure LogTools where
  parsedateToDatetime : String → Option Datetime
  sha256 : String → String
  hostname : String → Option String
  isDecimal : Char → Bool
  isWord : Char → Bool
  str : Json → String
  truncate : String → Except PyException Int

variable (tools : LogTools)

section Scanning

variable {α : Type}

/-- A class with `+`: as many characters of the class as there are, at least one. -/
def scanClass (inClass : Char → Bool) (chars : List Char) : Option (List Char × List Char) :=
  match chars.takeWhile inClass with
  | [] => none
  | first => some (first, chars.dropWhile inClass)

/-- What follows a text. -/
def scanText (text chars : List Char) : Option (List Char) :=
  if text.isPrefixOf chars then some (chars.drop text.length) else none

/-- `"[^"]*"`. -/
def scanQuoted (chars : List Char) : Option (List Char × List Char) := do
  let rest ← scanText ['"'] chars
  let after ← scanText ['"'] (rest.dropWhile (· ≠ '"'))
  some (rest.takeWhile (· ≠ '"'), after)

/-- `re.search`: the leftmost place at which a pattern matches. -/
def search (pattern : List Char → Option α) : List Char → Option α
  | [] => pattern []
  | c :: rest =>
      match pattern (c :: rest) with
      | some found => some found
      | none => search pattern rest

/-- The method, the target and the status of a request, and what follows it in the line. -/
structure RequestMatch where
  method : String
  target : String
  status : String
  rest : List Char

/-- `ACCESS_LOG_REQUEST_RE` at the beginning of a text; neighbouring classes have no character
in common, so that nothing is ever given back. -/
def accessLogRequest (chars : List Char) : Option RequestMatch := do
  let rest ← scanText ['"'] chars
  let (method, rest) ← scanClass (fun c => 'A' ≤ c ∧ c ≤ 'Z') rest
  let (_, rest) ← scanClass Text.isSpace rest
  let (target, rest) ← scanClass (!Text.isSpace ·) rest
  let (_, rest) ← scanClass Text.isSpace rest
  let rest ← scanText ['H', 'T', 'T', 'P', '/'] rest
  let (_, rest) ← scanClass (fun c => Text.isDigit c ∨ c = '.') rest
  let rest ← scanText ['"'] rest
  let (_, rest) ← scanClass Text.isSpace rest
  let status := rest.take 3
  if status.length = 3 ∧ status.all Text.isDigit ∧ ¬(rest.drop 3).head?.any tools.isWord then
    some ⟨String.ofList method, String.ofList target, String.ofList status, rest.drop 3⟩
  else none

/-- `ACCESS_LOG_ROUTER_RE` at the beginning of a text. -/
def accessLogRouter (chars : List Char) : Option String := do
  let (_, rest) ← scanClass Text.isSpace chars
  let (_, rest) ← scanClass tools.isDecimal rest
  let (_, rest) ← scanClass Text.isSpace rest
  let (router, rest) ← scanQuoted rest
  let (_, rest) ← scanClass Text.isSpace rest
  let (_, rest) ← scanQuoted rest
  let (_, rest) ← scanClass Text.isSpace rest
  let (_, rest) ← scanClass (!Text.isSpace ·) rest
  if rest.all Text.isSpace then some (String.ofList router) else none

end Scanning

section Reading

/-- `parse_datetime` of a text, in microseconds: a time without a zone is in UTC. -/
def LogTools.parseDatetime (value : String) : Option Int :=
  if Text.strip value = "" then none
  else
    match Datetime.fromIsoformat (Datetime.spellZulu (Text.strip value)) with
    | some moment => some moment.normalizeUtc.micros
    | none => (tools.parsedateToDatetime (Text.strip value)).map (·.normalizeUtc.micros)

/-- The time of a line: `parse_datetime(line.split(" ", 1)[0])`. -/
def LogTools.timestamp (line : String) : Option Int :=
  tools.parseDatetime (String.ofList (line.toList.takeWhile (· ≠ ' ')))

/-- `hash_request_host`. -/
def hashRequestHost (value : Option Json) : Option String :=
  match value with
  | some (.string text) =>
      if Text.strip text = "" then none
      else
        (tools.hostname (Text.strip text)).bind fun hostname =>
          let normalized := Text.rstripChar '.' (Text.lower hostname)
          if normalized = "" then none else some (tools.sha256 normalized)
  | _ => none

/-- What a line says of a request. A value of the JSON form may have any type. -/
structure AccessLogEntry where
  method : Option Json
  target : String
  status : String
  routerName : Option Json
  requestHostHash : Option String

/-- `str(status)` of a value that passes `isinstance(status, int)`, as truth values do too. -/
def statusText : Option Json → Option String
  | some (.int status) => some (toString status)
  | some (.bool status) => some (if status then "True" else "False")
  | _ => none

/-- `_parse_json_access_log`. -/
def parseJsonAccessLog (line : String) : Option AccessLogEntry :=
  match line.toList.dropWhile (· ≠ ' ') with
  | ' ' :: '\x7b' :: payload =>
      match Json.loads (String.ofList ('\x7b' :: payload)) with
      | some (.object fields) =>
          match Json.get? fields "RequestPath", statusText (Json.get? fields "DownstreamStatus") with
          | some (.string target), some status =>
              some { method := Json.get? fields "RequestMethod", target, status
                     routerName := Json.get? fields "RouterName"
                     requestHostHash := hashRequestHost tools (Json.get? fields "RequestHost") }
          | _, _ => none
      | _ => none
  | _ => none

/-- A line in the common log format. -/
def parseCommonAccessLog (line : String) : Option AccessLogEntry :=
  (search (accessLogRequest tools) line.toList).map fun found =>
    { method := some (.string found.method), target := found.target, status := found.status
      routerName := (search (accessLogRouter tools) found.rest).map .string
      requestHostHash := none }

end Reading

section Events

/-- `ENCODED_RESERVED_CHARACTERS`. -/
def encodedReservedCharacters : List String := ["%2F", "%5C", "%00", "%3B", "%25", "%3F", "%23"]

/-- `KNOWN_HTTP_METHODS`. -/
def knownHttpMethods : List String :=
  ["GET", "HEAD", "POST", "PUT", "PATCH", "DELETE", "OPTIONS", "CONNECT", "TRACE"]

/-- `str.upper` on one character. Outside ASCII only the characters that become ASCII letters
are treated; the others cannot make a text one of a few ASCII texts. -/
def upperChar (c : Char) : List Char :=
  match c.toNat with
  | 0xdf => ['S', 'S']
  | 0x131 => ['I']
  | 0x17f => ['S']
  | 0xfb00 => ['F', 'F']
  | 0xfb01 => ['F', 'I']
  | 0xfb02 => ['F', 'L']
  | 0xfb03 => ['F', 'F', 'I']
  | 0xfb04 => ['F', 'F', 'L']
  | 0xfb05 => ['S', 'T']
  | 0xfb06 => ['S', 'T']
  | _ => [c.toUpper]

def upper (text : String) : String := String.ofList (text.toList.flatMap upperChar)

/-- `_normalize_method`. -/
def normalizeMethod : Option Json → String
  | some (.string value) => if upper value ∈ knownHttpMethods then upper value else "OTHER"
  | _ => "OTHER"

/-- `router_name if router_name not in {None, "", "-"} else None`; a list or an object has no
hash. -/
def normalizeRouterName : Option Json → Except PyException (Option Json)
  | none | some .null => .ok none
  | some (.string name) => .ok (if name = "" ∨ name = "-" then none else some (.string name))
  | some (.array _) => .error (.typeError "unhashable type: 'list'")
  | some (.object _) => .error (.typeError "unhashable type: 'dict'")
  | some value => .ok (some value)

/-- The reserved characters the path names in encoded form, when the request was refused. -/
def matchedEncodings (target status : String) : List String :=
  if status = "400" then
    let encodedPath := (Text.lower (String.ofList (target.toList.takeWhile (· ≠ '?')))).toList
    encodedReservedCharacters.filter fun encoded =>
      (Text.splitFirst (Text.lower encoded).toList encodedPath).isSome
  else []

structure LogEvent where
  fingerprint : String
  occurredAt : Option Int
  encodedCharacters : List String
  requestMethod : String
  routerName : Option Json
  requestHostHash : Option String

/-- The body of the loop of `parse_access_log_events`. -/
def parseAccessLogLine (line : String) : Except PyException (Option LogEvent) :=
  match (parseJsonAccessLog tools line).or (parseCommonAccessLog tools line) with
  | none => .ok none
  | some entry =>
      (normalizeRouterName entry.routerName).map fun routerName =>
        some { fingerprint := tools.sha256 line
               occurredAt := tools.timestamp line
               encodedCharacters := matchedEncodings entry.target entry.status
               requestMethod := normalizeMethod entry.method
               routerName
               requestHostHash := entry.requestHostHash }

/-- `parse_access_log_events`. -/
def parseAccessLogEvents (rawText : Option String) : Except PyException (List LogEvent) :=
  (((rawText.map Text.splitLines).getD []).mapM (parseAccessLogLine tools)).map List.reduceOption

/-- The request of a line, if there is one. -/
def eventOf (line : String) : Option LogEvent := (parseAccessLogLine tools line).toOption.join

variable {tools}

/-- The event of a line that can be read. -/
theorem eventOf_of_parse {line : String} {event : Option LogEvent}
    (isOk : parseAccessLogLine tools line = .ok event) : eventOf tools line = event := by
  unfold eventOf
  rw [isOk]
  rfl

theorem fingerprint_of_parse {line : String} {event : LogEvent}
    (isOk : parseAccessLogLine tools line = .ok (some event)) :
    event.fingerprint = tools.sha256 line ∧ event.occurredAt = tools.timestamp line := by
  unfold parseAccessLogLine at isOk
  split at isOk
  · cases isOk
  · obtain ⟨routerName, -, isEvent⟩ := map_eq_ok.mp isOk
    have same := Option.some.inj isEvent
    subst same
    simp only [and_self]

/-- An event carries the hash and the time of its line. -/
theorem fingerprint_of_eventOf {line : String} {event : LogEvent}
    (isEvent : eventOf tools line = some event) :
    event.fingerprint = tools.sha256 line ∧ event.occurredAt = tools.timestamp line := by
  cases isParsed : parseAccessLogLine tools line with
  | error failure =>
      unfold eventOf at isEvent
      rw [isParsed] at isEvent
      cases isEvent
  | ok parsed =>
      rw [eventOf_of_parse isParsed] at isEvent
      rw [isEvent] at isParsed
      exact fingerprint_of_parse isParsed

private theorem reduceOption_of_mapM {lines : List String} {parsed : List (Option LogEvent)}
    (isOk : lines.mapM (parseAccessLogLine tools) = .ok parsed) :
    parsed.reduceOption = lines.filterMap (eventOf tools) := by
  induction lines generalizing parsed with
  | nil =>
      cases isOk
      rfl
  | cons line lines ih =>
      rw [List.mapM_cons] at isOk
      obtain ⟨first, isFirst, isRest⟩ := bind_eq_ok.mp isOk
      obtain ⟨rest, restParsed, isAll⟩ := bind_eq_ok.mp isRest
      cases isAll
      rw [List.filterMap_cons, eventOf_of_parse isFirst, ← ih restParsed]
      cases first <;> rfl

/-- When a text can be read, its events are those of its lines. -/
theorem parseAccessLogEvents_eq_ok {rawText : String} {events : List LogEvent}
    (isOk : parseAccessLogEvents tools (some rawText) = .ok events) :
    events = (Text.splitLines rawText).filterMap (eventOf tools) := by
  obtain ⟨parsed, isParsed, rfl⟩ := map_eq_ok.mp isOk
  exact reduceOption_of_mapM isParsed

end Events

end TraefikManager.Monitoring
