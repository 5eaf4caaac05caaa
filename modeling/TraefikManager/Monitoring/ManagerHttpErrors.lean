import Mathlib.Data.List.MinMax
import Mathlib.Data.List.ReduceOption
import Mathlib.Data.Prod.Lex
import Mathlib.Data.String.Basic
import TraefikManager.Deployments.Records
import TraefikManager.Foundation.Collect
import TraefikManager.Foundation.SlidingWindow

/-!
# The failed requests of the manager

The backend reads its own request log, in which each line ends in a JSON object. The monitor counts
the failed requests of the last minutes and compares them with thresholds; a preview looks at the
last day and recommends thresholds that would not have been reached.
-/

namespace TraefikManager.Monitoring

open Foundation

section Settings

/-- `MANAGER_HTTP_ERROR_WINDOW_HOURS` -/
def managerHttpErrorWindowHours : Int := 24

/-- `MIN_MANAGER_HTTP_ERROR_WINDOW_MINUTES` and `MAX_MANAGER_HTTP_ERROR_WINDOW_MINUTES`. -/
def minManagerHttpErrorWindowMinutes : Int := 5
def maxManagerHttpErrorWindowMinutes : Int := 60

/-- `MAX_MANAGER_HTTP_ERROR_THRESHOLD` -/
def maxManagerHttpErrorThreshold : Nat := 10000

/-- `DEFAULT_MANAGER_HTTP_NOT_FOUND_THRESHOLD` and
`DEFAULT_MANAGER_HTTP_SERVER_ERROR_THRESHOLD`. -/
def defaultManagerHttpNotFoundThreshold : Nat := 20
def defaultManagerHttpServerErrorThreshold : Nat := 1

/-- Whether the settings refuse a path as one to exclude. -/
def isRefusedPath (path : String) : Bool :=
  !Text.startsWith "/api/" path || path = "/api/" || 200 < path.length ||
    path.toList.any Text.isSpace || Text.containsChar '?' path || Text.containsChar '#' path

/-- One value of `normalize_manager_http_excluded_paths`: a slash at the end is dropped. -/
def addExcludedPath (paths : List String) (value : String) : Except PyException (List String) :=
  let path := Text.strip value
  if path = "" then .ok paths
  else if isRefusedPath path then
    .error (.valueError "제외 경로는 공백·쿼리 없이 /api/로 시작해야 합니다")
  else .ok (appendNew paths (Text.rstripChar '/' path))

/-- `normalize_manager_http_excluded_paths` -/
def normalizeManagerHttpExcludedPaths (values : List String) :
    Except PyException (List String) := do
  let paths ← values.foldlM addExcludedPath []
  if 50 < paths.length then
    .error (.valueError "제외 경로는 최대 50개까지 입력할 수 있습니다")
  else pure paths

end Settings

section Parsing

/-- Why a log is not counted. -/
inductive HttpLogFailure where
  | overflowError
  | keyError (path : String)
  deriving DecidableEq

/-- A request of the log. Its duration, which nothing here reads, is left out. -/
structure RequestLog where
  occurredAt : Int
  path : String
  statusCode : Int
  deriving DecidableEq

/-- `_parse_timestamp`, in microseconds. -/
def parseRequestTimestamp (value : Option Json) : Except HttpLogFailure (Option Int) :=
  match value with
  | some (.string text) =>
      match Datetime.fromIsoformat (Datetime.spellZulu text) with
      | none => .ok none
      | some parsed =>
          if (Datetime.utc parsed.micros).InRange then .ok (some parsed.micros)
          else .error .overflowError
  | _ => .ok none

/-- `float(duration_value)` fails for an integer beyond the range of `float`. -/
def durationFits (value : Option Json) : Bool :=
  match value with
  | some (.int duration) => duration < 2 ^ 1024 - 2 ^ 970
  | _ => true

/-- `parse_manager_http_request_log` -/
def parseManagerHttpRequestLog (line : String) : Except HttpLogFailure (Option RequestLog) :=
  match Json.loads (String.ofList (line.toList.dropWhile (· ≠ '\x7b'))) with
  | some (.object payload) =>
      if Deployments.stringOf? (Json.get? payload "message") ≠ some "요청 완료" then .ok none
      else do
        let occurredAt ← parseRequestTimestamp (Json.get? payload "time")
        match occurredAt, Deployments.stringOf? (Json.get? payload "path"),
            Deployments.intOf? (Json.get? payload "status_code") with
        | some occurredAt, some path, some statusCode =>
            if !Text.startsWith "/api/" path then pure none
            else if !durationFits (Json.get? payload "duration_ms") then .error .overflowError
            else pure (some ⟨occurredAt, path, statusCode⟩)
        | _, _, _ => pure none
  | _ => .ok none

/-- The requests of a log; a log that is missing has none. -/
def requestsOf (logText : Option String) : Except HttpLogFailure (List RequestLog) :=
  (((logText.map Text.splitLines).getD []).mapM parseManagerHttpRequestLog).map List.reduceOption

end Parsing

section Counting

/-- `_match_excluded_path`: the longest of the prefixes, the first of several. -/
def matchExcludedPath (path : String) (excludedPaths : List String) : Option String :=
  (excludedPaths.filterMap fun excludedPath =>
    let start := Text.rstripChar '/' excludedPath
    if start ≠ "" ∧ (path = start ∨ Text.startsWith (start ++ "/") path = true) then some start
    else none).argmax String.length

/-- The failures of requests that are counted. -/
inductive HttpErrorKind where
  | notFound | serverError
  deriving DecidableEq

/-- The kind of failure that a status stands for. -/
def httpErrorKind? (statusCode : Int) : Option HttpErrorKind :=
  if statusCode = 404 then some .notFound
  else if 500 ≤ statusCode ∧ statusCode ≤ 599 then some .serverError
  else none

/-- The failures of one path. -/
structure PathCount where
  notFoundCount : Nat := 0
  serverErrorCount : Nat := 0
  lastSeenAt : Int
  deriving DecidableEq

/-- One more failure. -/
def PathCount.bump (count : PathCount) (kind : HttpErrorKind) (occurredAt : Int) : PathCount :=
  match kind with
  | .notFound =>
      { count with
        notFoundCount := count.notFoundCount + 1
        lastSeenAt := max count.lastSeenAt occurredAt }
  | .serverError =>
      { count with
        serverErrorCount := count.serverErrorCount + 1
        lastSeenAt := max count.lastSeenAt occurredAt }

/-- What `_build_top_paths` sorts by: the number of failures, then the latest one, then the path. -/
def topPathRank (entry : String × PathCount) : Int ×ₗ Int ×ₗ String :=
  toLex (-(entry.2.notFoundCount : Int) - entry.2.serverErrorCount,
    toLex (-entry.2.lastSeenAt, entry.1))

/-- `_build_top_paths`: the five paths with the most failures. -/
def buildTopPaths (pathCounts : Dict String PathCount) : List (String × PathCount) :=
  (pathCounts.entries.mergeSort fun first second =>
    decide (topPathRank first ≤ topPathRank second)).take 5

/-- What `count_manager_http_errors` counts while it reads. -/
structure HttpErrorTally where
  notFoundCount : Nat := 0
  serverErrorCount : Nat := 0
  pathCounts : Dict String PathCount := Dict.empty

/-- A request is counted that lies in the window, fails and is not excluded. -/
def HttpErrorTally.add (windowStart current : Int) (excludedPaths : List String)
    (tally : HttpErrorTally) (request : RequestLog) : HttpErrorTally :=
  if request.occurredAt < windowStart ∨ current < request.occurredAt then tally
  else if (matchExcludedPath request.path excludedPaths).isSome then tally
  else
    match httpErrorKind? request.statusCode with
    | none => tally
    | some kind =>
        let count := (tally.pathCounts.get? request.path).getD { lastSeenAt := windowStart }
        { notFoundCount := tally.notFoundCount + if kind = .notFound then 1 else 0
          serverErrorCount := tally.serverErrorCount + if kind = .serverError then 1 else 0
          pathCounts := tally.pathCounts.set request.path (count.bump kind request.occurredAt) }

/-- What `count_manager_http_errors` returns. -/
structure HttpErrorReport where
  available : Bool
  checkedAt : Int
  windowMinutes : Int
  notFoundCount : Nat
  serverErrorCount : Nat
  topPaths : List (String × PathCount)

/-- `count_manager_http_errors` -/
def countManagerHttpErrors (logText : Option String) (checkedAt : Datetime.Instant)
    (windowMinutes : Int) (excludedPaths : List String) :
    Except HttpLogFailure HttpErrorReport := do
  let current := checkedAt.micros
  let windowStart := current - Timedelta.minutes (max 1 windowMinutes)
  if (Datetime.utc windowStart).InRange then
    let requests ← requestsOf logText
    let tally := requests.foldl (HttpErrorTally.add windowStart current excludedPaths) {}
    pure
      { available := logText.isSome
        checkedAt := current
        windowMinutes := max 1 windowMinutes
        notFoundCount := tally.notFoundCount
        serverErrorCount := tally.serverErrorCount
        topPaths := buildTopPaths tally.pathCounts }
  else .error .overflowError

end Counting

section Preview

/-- The failures that an excluded path hides. -/
structure ExcludedCount where
  path : String
  notFoundCount : Nat := 0
  serverErrorCount : Nat := 0
  lastSeenAt : Option Int := none
  deriving DecidableEq

/-- One more hidden failure. -/
def ExcludedCount.bump (count : ExcludedCount) (kind : HttpErrorKind) (occurredAt : Int) :
    ExcludedCount :=
  { count with
    notFoundCount := count.notFoundCount + if kind = .notFound then 1 else 0
    serverErrorCount := count.serverErrorCount + if kind = .serverError then 1 else 0
    lastSeenAt := match count.lastSeenAt with
      | none => some occurredAt
      | some lastSeenAt => some (max lastSeenAt occurredAt) }

/-- What `build_manager_http_error_preview` collects while it reads. -/
structure HttpErrorSample where
  observedSince : Option Int := none
  notFoundTimes : List Int := []
  serverErrorTimes : List Int := []
  excludedCounts : Dict String ExcludedCount

/-- A failure of the last day is collected with its time, or counted for the excluded path. -/
def HttpErrorSample.add (windowStart current : Int) (excludedPaths : List String)
    (sample : HttpErrorSample) (request : RequestLog) : Except HttpLogFailure HttpErrorSample :=
  if current < request.occurredAt then .ok sample
  else
    let sample := { sample with
      observedSince := match sample.observedSince with
        | none => some request.occurredAt
        | some observedSince => some (min observedSince request.occurredAt) }
    if request.occurredAt < windowStart then .ok sample
    else
      match httpErrorKind? request.statusCode, matchExcludedPath request.path excludedPaths with
      | none, _ => .ok sample
      | some kind, some excludedPath =>
          match sample.excludedCounts.get? excludedPath with
          | none => .error (.keyError excludedPath)
          | some count =>
              .ok { sample with
                excludedCounts :=
                  sample.excludedCounts.set excludedPath (count.bump kind request.occurredAt) }
      | some .notFound, none =>
          .ok { sample with notFoundTimes := sample.notFoundTimes ++ [request.occurredAt] }
      | some .serverError, none =>
          .ok { sample with serverErrorTimes := sample.serverErrorTimes ++ [request.occurredAt] }

/-- `_max_window_count` -/
def maxWindowCount (occurredAtValues : List Int) (windowMinutes : Int) : Nat :=
  SlidingWindow.peak (Timedelta.minutes windowMinutes) (occurredAtValues.insertionSort (· ≤ ·))

/-- `_recommend_threshold` -/
def recommendThreshold (peak default : Nat) : Nat :=
  let margin := max 1 ((peak + 4) / 5)
  min maxManagerHttpErrorThreshold (max default (peak + margin))

/-- What `build_manager_http_error_preview` returns. The share of the day that the log covers, a
float, is left out. -/
structure HttpErrorPreview where
  available : Bool
  message : String
  windowHours : Int
  windowMinutes : Int
  checkedAt : Int
  observedSince : Option Int
  peakNotFoundCount : Nat
  peakServerErrorCount : Nat
  recommendedNotFoundThreshold : Nat
  recommendedServerErrorThreshold : Nat
  excludedPaths : List ExcludedCount

/-- `build_manager_http_error_preview` -/
def buildManagerHttpErrorPreview (logText : Option String) (checkedAt : Datetime.Instant)
    (windowMinutes : Int) (excludedPaths : List String) :
    Except HttpLogFailure HttpErrorPreview := do
  let current := checkedAt.micros
  let effectiveWindowMinutes :=
    max minManagerHttpErrorWindowMinutes (min maxManagerHttpErrorWindowMinutes windowMinutes)
  let windowStart := current - Timedelta.minutes (managerHttpErrorWindowHours * 60)
  if (Datetime.utc windowStart).InRange then
    let requests ← requestsOf logText
    let excludedCounts := Dict.ofList (excludedPaths.map fun path => (path, { path }))
    let sample ← requests.foldlM (HttpErrorSample.add windowStart current excludedPaths)
      { excludedCounts }
    let peakNotFoundCount := maxWindowCount sample.notFoundTimes effectiveWindowMinutes
    let peakServerErrorCount := maxWindowCount sample.serverErrorTimes effectiveWindowMinutes
    pure
      { available := logText.isSome
        message :=
          if logText.isSome then "최근 24시간 로그의 구간별 최고치에 20% 여유를 적용했습니다"
          else "backend 컨테이너 요청 로그를 읽지 못했습니다"
        windowHours := managerHttpErrorWindowHours
        windowMinutes := effectiveWindowMinutes
        checkedAt := current
        observedSince := sample.observedSince
        peakNotFoundCount
        peakServerErrorCount
        recommendedNotFoundThreshold :=
          recommendThreshold peakNotFoundCount defaultManagerHttpNotFoundThreshold
        recommendedServerErrorThreshold :=
          recommendThreshold peakServerErrorCount defaultManagerHttpServerErrorThreshold
        excludedPaths := sample.excludedCounts.values }
  else .error .overflowError

end Preview

end TraefikManager.Monitoring
