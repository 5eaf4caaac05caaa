import Mathlib.Data.Prod.Lex
import Mathlib.Data.String.Basic
import TraefikManager.Foundation.Tallies
import TraefikManager.Monitoring.EncodedPathHistory

/-!
# Summaries of the refused requests

The history is summed up twice: over the last minutes, for the alert and its threshold, and over
the last day, in buckets of an hour, for the page. The shares in percent, which are floats, are
left out.
-/

namespace TraefikManager.Monitoring

open Foundation

variable (tools : LogTools)

section Counts

/-- `int(fields.get(key, 0))`. -/
def LogTools.intField (fields : Dict String Json) (key : String) : Except PyException Int :=
  tools.intOf ((fields.get? key).getD (.int 0))

/-- `_merge_counts`; `summarize_recent_blocks` merges the counts of the routers alike. -/
def mergeCounts (target : Dict String Int) (value : Option Json) :
    Except PyException (Dict String Int) :=
  match value with
  | some (.object fields) =>
      (Dict.ofList fields).entries.foldlM (fun target entry =>
        (tools.intOf entry.2).map (target.add entry.1)) target
  | _ => .ok target

/-- What counts are ranked by: the most first, then by name. -/
def countRank (entry : String × Int) : Int ×ₗ String := toLex (-entry.2, entry.1)

/-- `_rank_counts`, without a limit. -/
def rankCounts (counts : Dict String Int) : List (String × Int) :=
  counts.entries.mergeSort fun first second => decide (countRank first ≤ countRank second)

/-- `MAX_PATTERN_RESULTS` -/
def maxPatternResults : Nat := 5

/-- Whether a minute lies between two points in time, both included. -/
def LogTools.isBetween (first last : Int) (minuteKey : String) : Bool :=
  (tools.parseDatetime minuteKey).any fun startedAt => first ≤ startedAt ∧ startedAt ≤ last

end Counts

section Recent

/-- The counts of the minutes that `summarize_recent_blocks` has read. -/
structure RecentCounts where
  blockedRequestCount : Int := 0
  totalRequestCount : Int := 0
  routerCounts : Dict String Int := ∅
  methodCounts : Dict String Int := ∅
  patternCounts : Dict String Int := ∅

/-- The body of the loop of `summarize_recent_blocks`. -/
def addRecentMinute (cutoff checkedAt : Int) (counts : RecentCounts) (entry : String × Json) :
    Except PyException RecentCounts :=
  match entry.2 with
  | .object fields =>
      if tools.isBetween cutoff checkedAt entry.1 then do
        let minute := Dict.ofList fields
        let blocked ← tools.intField minute "blocked_request_count"
        let total ← tools.intField minute "total_request_count"
        let routerCounts ← mergeCounts tools counts.routerCounts (minute.get? "router_counts")
        let methodCounts ← mergeCounts tools counts.methodCounts (minute.get? "request_methods")
        let patternCounts ←
          mergeCounts tools counts.patternCounts (minute.get? "encoded_patterns")
        .ok
          { blockedRequestCount := counts.blockedRequestCount + blocked
            totalRequestCount := counts.totalRequestCount + total
            routerCounts, methodCounts, patternCounts }
      else .ok counts
  | _ => .ok counts

/-- What `summarize_recent_blocks` returns. -/
structure RecentSummary where
  blockedRequestCount : Int
  totalRequestCount : Int
  requestCountComplete : Bool
  targetRouters : List (String × Int)
  requestMethods : List (String × Int)
  encodedPatterns : List (String × Int)

/-- The first minute of the window of `summarize_recent_blocks`. -/
def recentCutoff (checkedAt windowMinutes : Int) : Int :=
  minuteStart (checkedAt - Timedelta.minutes windowMinutes)

/-- `summarize_recent_blocks` -/
def summarizeRecentBlocks (state : HistoryState) (checkedAt windowMinutes : Int) :
    Except PyException RecentSummary := do
  let cutoff := recentCutoff checkedAt windowMinutes
  let counts ← (minutesOf state).entries.foldlM (addRecentMinute tools cutoff checkedAt) {}
  .ok
    { blockedRequestCount := counts.blockedRequestCount
      totalRequestCount := counts.totalRequestCount
      requestCountComplete :=
        (tools.storedMoment state "request_count_observed_since").any (· ≤ cutoff)
      targetRouters := rankCounts counts.routerCounts
      requestMethods := rankCounts counts.methodCounts
      encodedPatterns := (rankCounts counts.patternCounts).take maxPatternResults }

end Recent

section Day

/-- `HISTORY_WINDOW_HOURS` -/
def historyWindowHours : Nat := 24

/-- The hour of the last day that a point in time lies in. Its seconds are exact in a float, up to
far less than what the division can tell apart. -/
def bucketIndex (windowStart startedAt : Int) : Nat :=
  min ((startedAt - windowStart) / 3600000000).toNat (historyWindowHours - 1)

/-- The refused requests of an hour. -/
structure BlockBucket where
  startedAt : Int
  blockedRequestCount : Int := 0
  deriving DecidableEq, Repr

def BlockBucket.add (bucket : BlockBucket) (blocked : Int) : BlockBucket :=
  { bucket with blockedRequestCount := bucket.blockedRequestCount + blocked }

/-- The hours of the last day, before the minutes are read. -/
def emptyBuckets (windowStart : Int) : List BlockBucket :=
  (List.range historyWindowHours).map fun (index : Nat) =>
    { startedAt := windowStart + (index : Int) * 3600000000 }

/-- The counts of the minutes that `build_summary` has read. -/
structure DayCounts where
  buckets : List BlockBucket
  encodedCounts : Dict String Int := Dict.ofList (encodedReservedCharacters.map (·, 0))
  methodCounts : Dict String Int := ∅
  patternCounts : Dict String Int := ∅
  lastBlockedAt : Option Int := none

/-- The requests by the characters they name, when the minute has them. -/
def addEncodedCounts (encodedCounts : Dict String Int) (value : Option Json) :
    Except PyException (Dict String Int) :=
  match value with
  | some (.object fields) =>
      encodedReservedCharacters.foldlM (fun counts encoded =>
        (tools.intField (Dict.ofList fields) encoded).map (counts.add encoded)) encodedCounts
  | _ => .ok encodedCounts

/-- The later of the two, when there are two. -/
def laterMoment (lastBlockedAt occurredAt : Option Int) : Option Int :=
  match occurredAt with
  | none => lastBlockedAt
  | some occurredAt => some (max (lastBlockedAt.getD occurredAt) occurredAt)

/-- The body of the loop of `build_summary`. -/
def addDayMinute (windowStart checkedAt : Int) (counts : DayCounts) (entry : String × Json) :
    Except PyException DayCounts :=
  match tools.parseDatetime entry.1, entry.2 with
  | some startedAt, .object fields =>
      if windowStart ≤ startedAt ∧ startedAt ≤ checkedAt then do
        let minute := Dict.ofList fields
        let blocked ← tools.intField minute "blocked_request_count"
        let buckets := counts.buckets.modify (bucketIndex windowStart startedAt) (·.add blocked)
        let encodedCounts ←
          addEncodedCounts tools counts.encodedCounts (minute.get? "encoded_characters")
        let methodCounts ← mergeCounts tools counts.methodCounts (minute.get? "request_methods")
        let patternCounts ←
          mergeCounts tools counts.patternCounts (minute.get? "encoded_patterns")
        let lastBlockedAt :=
          laterMoment counts.lastBlockedAt (tools.storedMoment minute "last_blocked_at")
        .ok { buckets, encodedCounts, methodCounts, patternCounts, lastBlockedAt }
      else .ok counts
  | _, _ => .ok counts

/-- The texts that `ENCODED_RESERVED_CHARACTERS` has for the characters. -/
def encodedLabels : List String :=
  ["슬래시 (/)", "백슬래시 (\\)", "NUL", "세미콜론 (;)", "퍼센트 (%)", "물음표 (?)", "해시 (#)"]

/-- The requests that name a character. -/
structure EncodedCount where
  encoded : String
  label : String
  requestCount : Int

/-- What `build_summary` returns. -/
structure DaySummary where
  available : Bool := true
  collectionAvailable : Bool
  message : String
  checkedAt : Int
  windowHours : Nat := historyWindowHours
  observedSince : Option Int
  tailLines : Int
  observedLogLines : Int
  blockedRequestCount : Int
  lastBlockedAt : Option Int
  encodedCharacters : List EncodedCount
  requestMethods : List (String × Int)
  encodedPatterns : List (String × Int)
  buckets : List BlockBucket

def summaryMessage (collectionAvailable : Bool) (blockedRequestCount : Int) : String :=
  if !collectionAvailable then
    "현재 Traefik 로그 연결은 끊겼지만 저장된 최근 24시간 이력을 표시합니다"
  else if blockedRequestCount ≠ 0 then
    "최근 24시간 동안 인코딩된 예약 문자 경로 " ++ toString blockedRequestCount ++
      "건을 차단했습니다"
  else "최근 24시간 동안 인코딩된 예약 문자 경로 차단이 없습니다"

/-- `build_summary` -/
def buildSummary (state : HistoryState) (checkedAt : Int) (collectionAvailable : Bool)
    (tailLines : Int) : Except PyException DaySummary := do
  let windowStart := checkedAt - historyWindow
  let counts ← (minutesOf state).entries.foldlM (addDayMinute tools windowStart checkedAt)
    { buckets := emptyBuckets windowStart }
  let blockedRequestCount := (counts.buckets.map (·.blockedRequestCount)).sum
  let observedLogLines ← tools.intField state "last_observed_log_lines"
  .ok
    { collectionAvailable
      message := summaryMessage collectionAvailable blockedRequestCount
      checkedAt
      observedSince := tools.storedMoment state "observed_since"
      tailLines
      observedLogLines
      blockedRequestCount
      lastBlockedAt := counts.lastBlockedAt
      encodedCharacters := (encodedReservedCharacters.zip encodedLabels).map fun (encoded, label) =>
        { encoded, label, requestCount := counts.encodedCounts.count encoded }
      requestMethods := rankCounts counts.methodCounts
      encodedPatterns := (rankCounts counts.patternCounts).take maxPatternResults
      buckets := counts.buckets }

end Day

end TraefikManager.Monitoring
