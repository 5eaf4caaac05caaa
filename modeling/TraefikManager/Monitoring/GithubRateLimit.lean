import Mathlib.Data.Prod.Lex
import TraefikManager.Foundation.IntText
import TraefikManager.Foundation.Substring
import TraefikManager.Foundation.Topmost
import TraefikManager.IsoDatetime

/-!
# The request limit of the GitHub API

Every response tells how many requests are left until when, and a refused one when to try again.
The module keeps what it was told last, as far as the rules below let it, and locks the manual
refresh by it.
-/

namespace TraefikManager.Monitoring

open Foundation

section Headers

/-- The headers of a response, by their names in lower case. -/
abbrev Headers := String → Option String

/-- `int(headers.get(name, ""))`. -/
def headerInt? (headers : Headers) (name : String) : Option Int :=
  Text.intOf? ((headers name).getD "")

/-- `datetime.fromtimestamp(seconds, tz=timezone.utc).isoformat()`. -/
def timestampText? (seconds : Int) : Option String :=
  let moment := Datetime.utc (seconds * 1000000)
  if moment.InRange then some moment.isoformat else none

/-- `(remaining, limit, reset_at)`. -/
structure RateLimit where
  remaining : Int
  limit : Int
  resetAt : String
  deriving DecidableEq, Repr

/-- `_parse_rate_limit_headers`. -/
def parseRateLimitHeaders (headers : Headers) : Option RateLimit := do
  let remaining ← headerInt? headers "x-ratelimit-remaining"
  let limit ← headerInt? headers "x-ratelimit-limit"
  let resetAt ← timestampText? (← headerInt? headers "x-ratelimit-reset")
  if remaining < 0 ∨ limit < 1 ∨ limit < remaining then none
  else some { remaining, limit, resetAt }

/-- `_parse_iso_datetime`. -/
def parseIsoDatetime (value : String) : Option Datetime :=
  (Datetime.fromIsoformat value).map Datetime.normalizeUtc

/-- What `OverflowError` says of a date. -/
inductive OverflowError where
  | dateOutOfRange
  deriving DecidableEq, Repr

/-- `(now + timedelta(seconds=seconds)).isoformat()`. -/
def laterText (now : Datetime) (seconds : Int) : Except OverflowError String :=
  let moment := now.add (seconds * 1000000)
  if moment.InRange then .ok moment.isoformat else .error .dateOutOfRange

/-- `_secondary_retry_at`. -/
def secondaryRetryAt (headers : Headers) (now : Datetime) : Except OverflowError String :=
  let retryAfter := (headerInt? headers "retry-after").getD (-1)
  if 0 ≤ retryAfter then laterText now retryAfter
  else
    match parseRateLimitHeaders headers with
    | some parsed => if parsed.remaining = 0 then .ok parsed.resetAt else laterText now 60
    | none => laterText now 60

end Headers

section State

/-- A limit that a response ran into. -/
structure RateLimitEvent where
  kind : String
  occurredAt : String
  retryAt : Option String
  sequence : Nat
  deriving DecidableEq, Repr

/-- What the module keeps. -/
structure GithubLimits where
  latestRateLimit : Option RateLimit := none
  latestSecondaryRetryAt : Option String := none
  refreshRequestEstimate : Option Nat := none
  latestRateLimitEvent : Option RateLimitEvent := none
  rateLimitEventSequence : Nat := 0
  deriving DecidableEq, Repr

def defaultRefreshReserve : Nat := 10
def minRefreshReserve : Nat := 3
def refreshSafetyBuffer : Nat := 2

variable (limits : GithubLimits)

/-- The end of `track_github_api_requests`, after `total` requests. -/
def leaveTracking (total : Nat) : GithubLimits :=
  if limits.refreshRequestEstimate.getD 0 < total then
    { limits with refreshRequestEstimate := some total }
  else limits

/-- `_update_github_api_rate_limit`; all that `record_github_api_rate_limit` does, but for the
requests it counts. -/
def updateRateLimit (headers : Headers) : GithubLimits :=
  match parseRateLimitHeaders headers with
  | none => limits
  | some parsed =>
      match limits.latestRateLimit with
      | some latest =>
          if latest.resetAt = parsed.resetAt ∧ latest.remaining < parsed.remaining then limits
          else { limits with latestRateLimit := some parsed }
      | none => { limits with latestRateLimit := some parsed }

/-- `_record_rate_limit_occurrence`. -/
def recordOccurrence (kind : String) (occurredAt : Datetime) (retryAt : Option String) :
    GithubLimits :=
  { limits with
    rateLimitEventSequence := limits.rateLimitEventSequence + 1
    latestRateLimitEvent := some {
      kind
      occurredAt := occurredAt.isoformat
      retryAt
      sequence := limits.rateLimitEventSequence + 1 } }

/-- `_github_api_refresh_reserve`. -/
def refreshReserve : Nat :=
  match limits.refreshRequestEstimate with
  | none | some 0 => defaultRefreshReserve
  | some estimate => max minRefreshReserve (estimate + refreshSafetyBuffer)

/-- `github_api_manual_refresh_block_message`. -/
def manualRefreshBlockMessage (now : Datetime) : Option String :=
  let locked := limits.latestSecondaryRetryAt.filter fun retryAt =>
    (parseIsoDatetime retryAt).any fun retryTime => now.micros < retryTime.micros
  match locked with
  | some retryAt =>
      some ("GitHub API 보조 제한으로 수동 새로고침을 잠갔습니다. 재시도 시각: " ++ retryAt)
  | none =>
      match limits.latestRateLimit with
      | none => none
      | some latest =>
          if refreshReserve limits < latest.remaining then none
          else if (parseIsoDatetime latest.resetAt).any fun resetTime =>
              now.micros < resetTime.micros then
            some ("GitHub API 잔여량 보호를 위해 수동 새로고침을 잠갔습니다. 초기화 시각: " ++
              latest.resetAt)
          else none

end State

section Responses

/-- A response the module is asked to explain. -/
structure ErrorResponse where
  statusCode : Int
  headers : Headers
  responseBody : String
  now : Datetime.Instant
  recordOccurrence : Bool := true

variable (casefold : String → String)

/-- Whether a text stands in another. -/
def hasText (needle text : String) : Bool := (Text.splitFirst needle.toList text.toList).isSome

namespace ErrorResponse

variable (response : ErrorResponse)

def moment : Datetime := .utc response.now.micros

def isLimit : Bool := response.statusCode = 403 ∨ response.statusCode = 429

def isSecondary : Bool :=
  (response.headers "retry-after").isSome ∨
    hasText "secondary rate limit" (casefold response.responseBody) ∨
    hasText "abuse detection" (casefold response.responseBody) ∨
    (response.statusCode = 429 ∧ response.headers "x-ratelimit-remaining" ≠ some "0")

end ErrorResponse

/-- `github_api_rate_limit_error_message`. -/
def rateLimitErrorMessage (response : ErrorResponse) (limits : GithubLimits) :
    GithubLimits × Except OverflowError (Option String) :=
  if ¬response.isLimit then (limits, .ok none)
  else
    let limits := updateRateLimit limits response.headers
    if response.isSecondary casefold then
      match secondaryRetryAt response.headers response.moment with
      | .error failure => (limits, .error failure)
      | .ok retryAt =>
          let limits := { limits with latestSecondaryRetryAt := some retryAt }
          let limits :=
            if response.recordOccurrence then
              recordOccurrence limits "secondary" response.moment (some retryAt)
            else limits
          (limits, .ok (some ("GitHub API 보조 요청 제한에 걸렸습니다. " ++
            "짧은 시간 요청을 줄이고 재시도 시각 이후 다시 확인하세요: " ++ retryAt)))
    else if response.headers "x-ratelimit-remaining" ≠ some "0" then (limits, .ok none)
    else
      let resetAt := limits.latestRateLimit.map (·.resetAt)
      let limits :=
        if response.recordOccurrence then
          recordOccurrence limits "primary" response.moment resetAt
        else limits
      (limits, .ok (some (match resetAt with
        | some resetAt => "GitHub API 요청 한도가 소진되었습니다. 초기화 시각: " ++ resetAt
        | none => "GitHub API 요청 한도가 소진되었습니다")))

/-- What reaches the module: the headers of a response, an error response that is explained,
and the end of a refresh whose requests were counted. -/
inductive LimitCall where
  | record (headers : Headers)
  | error (response : ErrorResponse)
  | leaveTracking (total : Nat)

/-- What the module keeps after a call. -/
def GithubLimits.after (limits : GithubLimits) : LimitCall → GithubLimits
  | .record headers => updateRateLimit limits headers
  | .error response => (rateLimitErrorMessage casefold response limits).1
  | .leaveTracking total => Monitoring.leaveTracking limits total

/-- What the module keeps after some calls, from its start. -/
def limitsAfter (calls : List LimitCall) : GithubLimits :=
  calls.foldl (·.after casefold) {}

end Responses

section Order

variable {casefold : String → String} {limits : GithubLimits} {call : LimitCall}
  {calls calls' : List LimitCall} {text text' : String} {headers : Headers} {parsed : RateLimit}

/-- The point in time of a text. -/
def momentOf (text : String) : Int := ((parseIsoDatetime text).map (·.micros)).getD 0

namespace LimitCall

/-- The quota a call reports. -/
def rateLimit? : LimitCall → Option RateLimit
  | .record headers => parseRateLimitHeaders headers
  | .error response => if response.isLimit then parseRateLimitHeaders response.headers else none
  | .leaveTracking _ => none

/-- When to try again, as a secondary limit announces it. -/
def retryText? (casefold : String → String) : LimitCall → Option (Except OverflowError String)
  | .error response =>
      if response.isLimit ∧ response.isSecondary casefold then
        some (secondaryRetryAt response.headers response.moment)
      else none
  | _ => none

/-- The requests of a refresh, if it made any. -/
def tracked? : LimitCall → Option Nat
  | .leaveTracking total => if total = 0 then none else some total
  | _ => none

end LimitCall

/-- The call comes after those whose windows and retry times it replaces. -/
structure ComesAfter (casefold : String → String) (limits : GithubLimits) (call : LimitCall) :
    Prop where
  window : ∀ parsed latest, call.rateLimit? = some parsed → limits.latestRateLimit = some latest →
    momentOf latest.resetAt ≤ momentOf parsed.resetAt
  limit : ∀ parsed latest, call.rateLimit? = some parsed → limits.latestRateLimit = some latest →
    latest.resetAt = parsed.resetAt → latest.remaining = parsed.remaining →
    latest.limit = parsed.limit
  retry : ∀ retryAt stored, call.retryText? casefold = some (.ok retryAt) →
    limits.latestSecondaryRetryAt = some stored → momentOf stored ≤ momentOf retryAt
  dated : ∀ outcome, call.retryText? casefold = some outcome → ∃ retryAt, outcome = .ok retryAt

/-- Every call of a run comes after those before it. -/
def ComeInOrder (casefold : String → String) : GithubLimits → List LimitCall → Prop
  | _, [] => True
  | limits, call :: calls =>
      ComesAfter casefold limits call ∧ ComeInOrder casefold (limits.after casefold call) calls

/-- The text of a point in time. -/
def IsMomentText (text : String) : Prop :=
  (Datetime.utc (momentOf text)).InRange ∧ text = (Datetime.utc (momentOf text)).isoformat

private theorem isMomentText_isoformat {micros : Int} (inRange : (Datetime.utc micros).InRange) :
    IsMomentText (Datetime.utc micros).isoformat := by
  have same : momentOf (Datetime.utc micros).isoformat = micros := by
    rw [momentOf, parseIsoDatetime, Datetime.fromIsoformat_isoformat inRange]
    rfl
  rw [IsMomentText, same]
  exact ⟨inRange, rfl⟩

private theorem IsMomentText.parseIsoDatetime_eq (isMoment : IsMomentText text) :
    parseIsoDatetime text = some (.utc (momentOf text)) := by
  have read := Datetime.fromIsoformat_isoformat isMoment.1
  rw [← isMoment.2] at read
  rw [parseIsoDatetime, read]
  rfl

private theorem IsMomentText.eq (isMoment : IsMomentText text) (isMoment' : IsMomentText text')
    (same : momentOf text = momentOf text') : text = text' := by
  rw [isMoment.2, isMoment'.2, same]

private theorem isMomentText_of_parseRateLimitHeaders
    (isParsed : parseRateLimitHeaders headers = some parsed) : IsMomentText parsed.resetAt := by
  simp only [parseRateLimitHeaders, Option.bind_eq_bind, Option.bind_eq_some_iff] at isParsed
  obtain ⟨remaining, -, limit, -, seconds, -, resetAt, isReset, isParsed⟩ := isParsed
  split at isParsed
  · cases isParsed
  · cases isParsed
    rw [timestampText?] at isReset
    split at isReset
    · rename_i inRange
      rw [← Option.some.inj isReset]
      exact isMomentText_isoformat inRange
    · cases isReset

private theorem isMomentText_of_rateLimit? (isReported : call.rateLimit? = some parsed) :
    IsMomentText parsed.resetAt := by
  cases call with
  | record headers => exact isMomentText_of_parseRateLimitHeaders isReported
  | error response =>
      rw [LimitCall.rateLimit?] at isReported
      split at isReported
      · exact isMomentText_of_parseRateLimitHeaders isReported
      · cases isReported
  | leaveTracking total => cases isReported

private theorem isMomentText_of_laterText {micros seconds : Int}
    (isLater : laterText (.utc micros) seconds = .ok text) : IsMomentText text := by
  rw [laterText] at isLater
  split at isLater
  · rename_i inRange
    rw [← Except.ok.inj isLater]
    exact isMomentText_isoformat inRange
  · cases isLater

private theorem isMomentText_of_secondaryRetryAt {micros : Int}
    (isRetry : secondaryRetryAt headers (.utc micros) = .ok text) : IsMomentText text := by
  rw [secondaryRetryAt] at isRetry
  split at isRetry
  · exact isMomentText_of_laterText isRetry
  · split at isRetry
    · rename_i parsed isParsed
      split at isRetry
      · cases isRetry
        exact isMomentText_of_parseRateLimitHeaders isParsed
      · exact isMomentText_of_laterText isRetry
    · exact isMomentText_of_laterText isRetry

private theorem isMomentText_of_isRetry (isRetry : call.retryText? casefold = some (.ok text)) :
    IsMomentText text := by
  cases call with
  | record headers => cases isRetry
  | error response =>
      rw [LimitCall.retryText?] at isRetry
      split at isRetry
      · exact isMomentText_of_secondaryRetryAt (Option.some.inj isRetry)
      · cases isRetry
  | leaveTracking total => cases isRetry

end Order

section Updates

variable {casefold : String → String} (limits : GithubLimits)

/-- The quota that is kept of the one kept so far and a new one. -/
def keptLimit (latest? : Option RateLimit) (parsed : RateLimit) : RateLimit :=
  match latest? with
  | some latest =>
      if latest.resetAt = parsed.resetAt ∧ latest.remaining < parsed.remaining then latest
      else parsed
  | none => parsed

private theorem latestRateLimit_updateRateLimit (headers : Headers) :
    (updateRateLimit limits headers).latestRateLimit =
      (parseRateLimitHeaders headers).elim limits.latestRateLimit
        fun parsed => some (keptLimit limits.latestRateLimit parsed) := by
  rw [updateRateLimit]
  cases parseRateLimitHeaders headers with
  | none => rfl
  | some parsed =>
      cases isLatest : limits.latestRateLimit with
      | none => rfl
      | some latest =>
          simp only [Option.elim_some, keptLimit]
          split
          · exact isLatest
          · rfl

@[simp] theorem latestSecondaryRetryAt_updateRateLimit (headers : Headers) :
    (updateRateLimit limits headers).latestSecondaryRetryAt = limits.latestSecondaryRetryAt := by
  rw [updateRateLimit]
  split
  · rfl
  · split
    · split <;> rfl
    · rfl

@[simp] theorem refreshRequestEstimate_updateRateLimit (headers : Headers) :
    (updateRateLimit limits headers).refreshRequestEstimate = limits.refreshRequestEstimate := by
  rw [updateRateLimit]
  split
  · rfl
  · split
    · split <;> rfl
    · rfl

private theorem latestRateLimit_after (call : LimitCall) :
    (limits.after casefold call).latestRateLimit =
      call.rateLimit?.elim limits.latestRateLimit
        fun parsed => some (keptLimit limits.latestRateLimit parsed) := by
  cases call with
  | record headers => exact latestRateLimit_updateRateLimit limits headers
  | error response =>
      simp only [GithubLimits.after, rateLimitErrorMessage, LimitCall.rateLimit?]
      by_cases isLimit : response.isLimit = true
      · have updated := latestRateLimit_updateRateLimit limits response.headers
        rw [if_neg (not_not.mpr isLimit), if_pos isLimit, ← updated]
        by_cases isSecondary : response.isSecondary casefold = true
        · rw [if_pos isSecondary]
          cases secondaryRetryAt response.headers response.moment with
          | error failure => rfl
          | ok retryAt =>
              simp only
              split <;> rfl
        · rw [if_neg isSecondary]
          split_ifs
          · rfl
          · simp only
            rfl
          · rfl
      · rw [if_pos isLimit, if_neg isLimit]
        rfl
  | leaveTracking total =>
      simp only [GithubLimits.after, leaveTracking]
      split <;> rfl

/-- The retry time that is kept after an announcement. -/
theorem latestSecondaryRetryAt_after (call : LimitCall) :
    (limits.after casefold call).latestSecondaryRetryAt =
      match call.retryText? casefold with
      | some (.ok retryAt) => some retryAt
      | _ => limits.latestSecondaryRetryAt := by
  cases call with
  | record headers => exact latestSecondaryRetryAt_updateRateLimit limits headers
  | error response =>
      simp only [GithubLimits.after, rateLimitErrorMessage, LimitCall.retryText?]
      by_cases isLimit : response.isLimit = true
      · rw [if_neg (not_not.mpr isLimit)]
        by_cases isSecondary : response.isSecondary casefold = true
        · rw [if_pos isSecondary, if_pos ⟨isLimit, isSecondary⟩]
          cases secondaryRetryAt response.headers response.moment with
          | error failure => exact latestSecondaryRetryAt_updateRateLimit limits response.headers
          | ok retryAt =>
              simp only
              split <;> rfl
        · have updated := latestSecondaryRetryAt_updateRateLimit limits response.headers
          have noRetry : ¬(response.isLimit = true ∧ response.isSecondary casefold = true) :=
            fun both => isSecondary both.2
          rw [if_neg isSecondary, if_neg noRetry]
          split_ifs <;> exact updated
      · rw [if_pos isLimit, if_neg fun both => isLimit both.1]
  | leaveTracking total =>
      simp only [GithubLimits.after, leaveTracking, LimitCall.retryText?]
      split <;> rfl

private theorem refreshRequestEstimate_error (response : ErrorResponse) :
    (limits.after casefold (.error response)).refreshRequestEstimate =
      limits.refreshRequestEstimate := by
  simp only [GithubLimits.after, rateLimitErrorMessage]
  have updated := refreshRequestEstimate_updateRateLimit limits response.headers
  by_cases isLimit : response.isLimit = true
  · rw [if_neg (not_not.mpr isLimit)]
    by_cases isSecondary : response.isSecondary casefold = true
    · rw [if_pos isSecondary]
      cases secondaryRetryAt response.headers response.moment with
      | error failure => exact updated
      | ok retryAt =>
          simp only
          split <;> exact updated
    · rw [if_neg isSecondary]
      split_ifs <;> exact updated
  · rw [if_pos isLimit]

private theorem refreshRequestEstimate_after (call : LimitCall) :
    (limits.after casefold call).refreshRequestEstimate =
      match call.tracked? with
      | some total =>
          if limits.refreshRequestEstimate.getD 0 < total then some total
          else limits.refreshRequestEstimate
      | none => limits.refreshRequestEstimate := by
  cases call with
  | record headers => exact refreshRequestEstimate_updateRateLimit limits headers
  | error response => exact refreshRequestEstimate_error limits response
  | leaveTracking total =>
      simp only [GithubLimits.after, leaveTracking, LimitCall.tracked?]
      by_cases none : total = 0
      · rw [if_pos none, if_neg (by omega)]
      · rw [if_neg none]
        simp only
        split
        · rfl
        · rfl

end Updates

section Runs

variable {casefold : String → String} {limits : GithubLimits} {call : LimitCall}
  {calls calls' : List LimitCall}

/-- The order of the quotas: first those of a later window, then those with less remaining. -/
def quotaRank (limit : RateLimit) : Int ×ₗ Intᵒᵈ :=
  toLex (momentOf limit.resetAt, OrderDual.toDual limit.remaining)

/-- The retry times that calls announce. -/
def retryTexts (casefold : String → String) (calls : List LimitCall) : List String :=
  calls.filterMap fun call => (call.retryText? casefold).bind Except.toOption

/-- What is kept is the topmost of what the calls told. -/
structure Remembers (casefold : String → String) (limits : GithubLimits)
    (calls : List LimitCall) : Prop where
  rateLimit : IsTopmost quotaRank limits.latestRateLimit (calls.filterMap LimitCall.rateLimit?)
  retry : IsTopmost momentOf limits.latestSecondaryRetryAt (retryTexts casefold calls)
  estimate : IsTopmost id limits.refreshRequestEstimate (calls.filterMap LimitCall.tracked?)

/-- A quota replaces one of an older window, and of its own window one with as much remaining. -/
theorem isTopmost_keptLimit {latest? : Option RateLimit} {parsed : RateLimit}
    {reported : List RateLimit} (isTopmost : IsTopmost quotaRank latest? reported)
    (dated : ∀ limit ∈ reported, IsMomentText limit.resetAt) (isMoment : IsMomentText parsed.resetAt)
    (window : ∀ latest, latest? = some latest → momentOf latest.resetAt ≤ momentOf parsed.resetAt)
    (limit : ∀ latest, latest? = some latest → latest.resetAt = parsed.resetAt →
      latest.remaining = parsed.remaining → latest.limit = parsed.limit) :
    IsTopmost quotaRank (some (keptLimit latest? parsed)) (reported ++ [parsed]) := by
  cases latest? with
  | none => exact isTopmost.replace nofun
  | some latest =>
      have later := window latest rfl
      have sameText : momentOf latest.resetAt = momentOf parsed.resetAt →
          latest.resetAt = parsed.resetAt := (dated latest isTopmost.1).eq isMoment
      simp only [keptLimit]
      split
      · rename_i less
        apply isTopmost.drop
        right
        rw [quotaRank, quotaRank, Prod.Lex.toLex_lt_toLex, less.1]
        exact .inr ⟨rfl, OrderDual.toDual_lt_toDual.mpr less.2⟩
      · rename_i notLess
        apply isTopmost.replace
        intro top isTop
        cases isTop
        obtain older | same := later.lt_or_eq
        · exact .inr (Prod.Lex.toLex_lt_toLex.mpr (.inl older))
        · have sameWindow := sameText same
          have more : parsed.remaining ≤ latest.remaining :=
            not_lt.mp fun less => notLess ⟨sameWindow, less⟩
          obtain fewer | equal := more.lt_or_eq
          · exact .inr (Prod.Lex.toLex_lt_toLex.mpr
              (.inr ⟨same, OrderDual.toDual_lt_toDual.mpr fewer⟩))
          · left
            have sameLimit := limit latest rfl sameWindow equal.symm
            cases latest
            cases parsed
            simp_all

/-- A refresh with more requests than any before it replaces the estimate. -/
theorem isTopmost_estimate {estimate : Option Nat} {totals : List Nat} {total : Nat}
    (isTopmost : IsTopmost id estimate totals) (positive : 0 < total) :
    IsTopmost id (if estimate.getD 0 < total then some total else estimate)
      (totals ++ [total]) := by
  cases estimate with
  | none =>
      rw [if_pos (by simpa using positive)]
      exact isTopmost.replace nofun
  | some highest =>
      simp only [Option.getD_some]
      split
      · rename_i less
        apply isTopmost.replace
        intro top isTop
        cases isTop
        exact .inr less
      · rename_i notLess
        apply isTopmost.drop
        obtain lower | same := (not_lt.mp notLess).lt_or_eq
        · exact .inr lower
        · exact .inl same

private theorem pos_of_tracked? {total : Nat} (isTracked : call.tracked? = some total) :
    0 < total := by
  cases call with
  | record headers => cases isTracked
  | error response => cases isTracked
  | leaveTracking count =>
      rw [LimitCall.tracked?] at isTracked
      split at isTracked
      · cases isTracked
      · cases isTracked
        omega

private theorem isMomentText_of_toOption {text : String}
    (isText : (call.retryText? casefold).bind Except.toOption = some text) : IsMomentText text := by
  obtain ⟨outcome, isRetry, isOk⟩ := Option.bind_eq_some_iff.mp isText
  cases outcome with
  | error failure => cases isOk
  | ok retryAt =>
      cases isOk
      exact isMomentText_of_isRetry isRetry

theorem Remembers.after (remembers : Remembers casefold limits calls)
    (comesAfter : ComesAfter casefold limits call) :
    Remembers casefold (limits.after casefold call) (calls ++ [call]) := by
  constructor
  · rw [latestRateLimit_after, List.filterMap_append]
    cases isReported : call.rateLimit? with
    | none => simpa [isReported] using remembers.rateLimit
    | some parsed =>
        have dated : ∀ limit ∈ calls.filterMap LimitCall.rateLimit?,
            IsMomentText limit.resetAt := by
          intro limit listed
          obtain ⟨other, -, isOther⟩ := List.mem_filterMap.mp listed
          exact isMomentText_of_rateLimit? isOther
        have kept := isTopmost_keptLimit remembers.rateLimit dated
          (isMomentText_of_rateLimit? isReported)
          (fun latest => comesAfter.window parsed latest isReported)
          (fun latest => comesAfter.limit parsed latest isReported)
        simpa [isReported] using kept
  · have dated : ∀ text ∈ retryTexts casefold calls, IsMomentText text := by
      intro text listed
      obtain ⟨other, -, isText⟩ := List.mem_filterMap.mp listed
      exact isMomentText_of_toOption isText
    rw [latestSecondaryRetryAt_after, retryTexts, List.filterMap_append, ← retryTexts]
    cases isRetry : call.retryText? casefold with
    | none => simpa [isRetry] using remembers.retry
    | some outcome =>
        obtain ⟨retryAt, rfl⟩ := comesAfter.dated outcome isRetry
        have kept : IsTopmost momentOf (some retryAt) (retryTexts casefold calls ++ [retryAt]) := by
          apply remembers.retry.replace
          intro stored isStored
          obtain earlier | same := (comesAfter.retry retryAt stored isRetry isStored).lt_or_eq
          · exact .inr earlier
          · left
            have isTopmost := remembers.retry
            rw [isStored] at isTopmost
            exact (dated stored isTopmost.1).eq (isMomentText_of_isRetry isRetry) same
        simpa [isRetry, Except.toOption] using kept
  · rw [refreshRequestEstimate_after, List.filterMap_append]
    cases isTracked : call.tracked? with
    | none => simpa [isTracked] using remembers.estimate
    | some total =>
        have positive := pos_of_tracked? isTracked
        have kept := isTopmost_estimate remembers.estimate positive
        simpa [isTracked] using kept

theorem Remembers.foldl (remembers : Remembers casefold limits calls)
    (inOrder : ComeInOrder casefold limits calls') :
    Remembers casefold (calls'.foldl (·.after casefold) limits) (calls ++ calls') := by
  induction calls' generalizing limits calls with
  | nil => simpa using remembers
  | cons call calls' ih =>
      have later := ih (remembers.after inOrder.1) inOrder.2
      simpa using later

/-- **Runs.** A run in order leaves the topmost of what its calls told. -/
theorem remembers_limitsAfter (inOrder : ComeInOrder casefold {} calls) :
    Remembers casefold (limitsAfter casefold calls) calls := by
  have start : Remembers casefold {} [] := ⟨isTopmost_nil, isTopmost_nil, isTopmost_nil⟩
  exact start.foldl inOrder

/-- The quota that is kept is the smallest that was reported of the latest window. A manual
refresh is locked before every announced retry time, and before the reset while no more than the
reserve remains. -/
structure Guards (casefold : String → String) (limits : GithubLimits) (calls : List LimitCall) :
    Prop where
  reported : ∀ latest, limits.latestRateLimit = some latest →
    ∃ call ∈ calls, call.rateLimit? = some latest
  smallest : ∀ call ∈ calls, ∀ parsed, call.rateLimit? = some parsed →
    ∃ latest, limits.latestRateLimit = some latest ∧
      momentOf parsed.resetAt ≤ momentOf latest.resetAt ∧
      (parsed.resetAt = latest.resetAt → latest.remaining ≤ parsed.remaining)
  retry : ∀ call ∈ calls, ∀ outcome, call.retryText? casefold = some outcome →
    ∃ retryAt retryTime, outcome = .ok retryAt ∧ parseIsoDatetime retryAt = some retryTime ∧
      ∀ now : Datetime, now.micros < retryTime.micros →
        (manualRefreshBlockMessage limits now).isSome = true
  reserve : ∀ latest resetTime, limits.latestRateLimit = some latest →
    latest.remaining ≤ refreshReserve limits → parseIsoDatetime latest.resetAt = some resetTime →
      ∀ now : Datetime, now.micros < resetTime.micros →
        (manualRefreshBlockMessage limits now).isSome = true

/-- A secondary limit locks the refresh until its retry time. -/
theorem isSome_blockMessage_of_retry {retryAt : String} {retryTime now : Datetime}
    (isKept : limits.latestSecondaryRetryAt = some retryAt)
    (isTime : parseIsoDatetime retryAt = some retryTime) (before : now.micros < retryTime.micros) :
    (manualRefreshBlockMessage limits now).isSome = true := by
  have locked : limits.latestSecondaryRetryAt.filter (fun retryAt =>
      (parseIsoDatetime retryAt).any fun retryTime => now.micros < retryTime.micros) =
        some retryAt := by
    rw [isKept, Option.filter_some, isTime]
    simp [before]
  simp only [manualRefreshBlockMessage, locked, Option.isSome_some]

/-- A quota within the reserve locks the refresh until its reset. -/
theorem isSome_blockMessage_of_reserve {latest : RateLimit} {resetTime now : Datetime}
    (isKept : limits.latestRateLimit = some latest)
    (few : latest.remaining ≤ refreshReserve limits)
    (isTime : parseIsoDatetime latest.resetAt = some resetTime)
    (before : now.micros < resetTime.micros) :
    (manualRefreshBlockMessage limits now).isSome = true := by
  rw [manualRefreshBlockMessage]
  split
  · rfl
  · rw [isKept]
    simp only
    rw [if_neg (not_lt.mpr few), isTime, if_pos (by simpa using before)]
    rfl

theorem Remembers.guards (remembers : Remembers casefold limits calls)
    (dated : ∀ call ∈ calls, ∀ outcome, call.retryText? casefold = some outcome →
      ∃ retryAt, outcome = .ok retryAt) : Guards casefold limits calls := by
  constructor
  · intro latest isLatest
    have isTopmost := remembers.rateLimit
    rw [isLatest] at isTopmost
    exact List.mem_filterMap.mp isTopmost.1
  · intro call listed parsed isReported
    have isTopmost := remembers.rateLimit
    have inReported := List.mem_filterMap.mpr ⟨call, listed, isReported⟩
    obtain ⟨latest, isLatest⟩ := isTopmost.exists_of_mem inReported
    rw [isLatest] at isTopmost
    have below := isTopmost.le inReported
    rw [quotaRank, quotaRank, Prod.Lex.toLex_le_toLex] at below
    refine ⟨latest, isLatest, ?_, fun same => ?_⟩
    · obtain older | ⟨same, -⟩ := below
      · exact older.le
      · exact same.le
    · obtain older | ⟨-, fewer⟩ := below
      · rw [same] at older
        exact absurd older (lt_irrefl _)
      · exact OrderDual.toDual_le_toDual.mp fewer
  · intro call listed outcome isRetry
    obtain ⟨retryAt, rfl⟩ := dated call listed outcome isRetry
    have isTopmost := remembers.retry
    have inTexts : retryAt ∈ retryTexts casefold calls :=
      List.mem_filterMap.mpr ⟨call, listed, by simp [isRetry, Except.toOption]⟩
    obtain ⟨stored, isStored⟩ := isTopmost.exists_of_mem inTexts
    rw [isStored] at isTopmost
    obtain ⟨other, -, isText⟩ := List.mem_filterMap.mp isTopmost.1
    have later : momentOf retryAt ≤ momentOf stored := isTopmost.le inTexts
    refine ⟨retryAt, _, rfl, (isMomentText_of_isRetry isRetry).parseIsoDatetime_eq, ?_⟩
    intro now before
    rw [Datetime.micros_utc] at before
    apply isSome_blockMessage_of_retry isStored
      (isMomentText_of_toOption isText).parseIsoDatetime_eq
    exact before.trans_le later
  · intro latest resetTime isLatest few isTime now before
    exact isSome_blockMessage_of_reserve isLatest few isTime before

private theorem dated_of_comeInOrder (inOrder : ComeInOrder casefold limits calls) :
    ∀ call ∈ calls, ∀ outcome, call.retryText? casefold = some outcome →
      ∃ retryAt, outcome = .ok retryAt := by
  induction calls generalizing limits with
  | nil =>
      intro call listed
      cases listed
  | cons call calls ih => exact List.forall_mem_cons.mpr ⟨inOrder.1.dated, ih inOrder.2⟩

/-- A run in order keeps the smallest quota of the latest window and the latest retry time, and
so does every other order of its calls in which they come in order: what is kept and what is
locked is the same. -/
theorem limits_of_comeInOrder (casefold : String → String) (calls : List LimitCall)
    (inOrder : ComeInOrder casefold {} calls) :
    Guards casefold (limitsAfter casefold calls) calls ∧
      ∀ calls', calls.Perm calls' → ComeInOrder casefold {} calls' →
        (limitsAfter casefold calls').latestRateLimit =
            (limitsAfter casefold calls).latestRateLimit ∧
          (limitsAfter casefold calls').latestSecondaryRetryAt =
            (limitsAfter casefold calls).latestSecondaryRetryAt ∧
          ∀ now, manualRefreshBlockMessage (limitsAfter casefold calls') now =
            manualRefreshBlockMessage (limitsAfter casefold calls) now := by
  have remembers := remembers_limitsAfter inOrder
  refine ⟨remembers.guards (dated_of_comeInOrder inOrder), fun calls' same inOrder' => ?_⟩
  have remembers' := remembers_limitsAfter inOrder'
  have listed : ∀ {α : Type} (f : LimitCall → Option α) (value : α),
      value ∈ calls'.filterMap f ↔ value ∈ calls.filterMap f :=
    fun f value => (same.filterMap f).mem_iff.symm
  have rateLimit := remembers'.rateLimit.unique remembers.rateLimit (listed _)
  have retry := remembers'.retry.unique remembers.retry (listed _)
  have estimate := remembers'.estimate.unique remembers.estimate (listed _)
  refine ⟨rateLimit, retry, fun now => ?_⟩
  rw [manualRefreshBlockMessage, manualRefreshBlockMessage, refreshReserve, refreshReserve,
    rateLimit, retry, estimate]

end Runs

section Samples

/-- The headers of a response that leaves some of 60 requests. -/
def sampleHeaders (remaining reset : String) : Headers
  | "x-ratelimit-remaining" => some remaining
  | "x-ratelimit-limit" => some "60"
  | "x-ratelimit-reset" => some reset
  | _ => none

/-- A refused response that names the seconds to wait. -/
def sampleRefusal (retryAfter : String) : ErrorResponse where
  statusCode := 403
  headers
    | "retry-after" => some retryAfter
    | _ => none
  responseBody := ""
  now := ⟨1800000000000000, by decide⟩

private theorem parse_sampleHeaders :
    parseRateLimitHeaders (sampleHeaders "42" "1800000000") =
        some ⟨42, 60, "2027-01-15T08:00:00+00:00"⟩ ∧
      parseRateLimitHeaders (sampleHeaders "40" "1800000000") =
        some ⟨40, 60, "2027-01-15T08:00:00+00:00"⟩ ∧
      parseRateLimitHeaders (sampleHeaders "0" "1800003600") =
        some ⟨0, 60, "2027-01-15T09:00:00+00:00"⟩ := by
  decide +kernel

/-- Two responses of a window, a refusal, and a refresh of three requests. -/
def sampleCalls : List LimitCall :=
  [.record (sampleHeaders "42" "1800000000"), .record (sampleHeaders "40" "1800000000"),
    .error (sampleRefusal "120"), .leaveTracking 3]

private theorem comeInOrder_sample : ComeInOrder id {} sampleCalls := by
  have kept : (GithubLimits.after id {}
      (.record (sampleHeaders "42" "1800000000"))).latestRateLimit =
        some ⟨42, 60, "2027-01-15T08:00:00+00:00"⟩ := by decide +kernel
  have refusal : (LimitCall.error (sampleRefusal "120")).rateLimit? = none ∧
      (LimitCall.error (sampleRefusal "120")).retryText? id =
        some (.ok "2027-01-15T08:02:00+00:00") := by
    decide +kernel
  have unannounced : (limitsAfter id (sampleCalls.take 2)).latestSecondaryRetryAt = none := by
    decide +kernel
  refine ⟨⟨nofun, nofun, nofun, nofun⟩, ⟨?_, ?_, nofun, nofun⟩, ⟨?_, ?_, ?_, ?_⟩,
    ⟨nofun, nofun, nofun, nofun⟩, trivial⟩
  · intro parsed latest isReported isLatest
    obtain rfl := Option.some.inj (isReported.symm.trans parse_sampleHeaders.2.1)
    obtain rfl := Option.some.inj (isLatest.symm.trans kept)
    exact le_refl _
  · intro parsed latest isReported isLatest sameWindow sameRemaining
    obtain rfl := Option.some.inj (isReported.symm.trans parse_sampleHeaders.2.1)
    obtain rfl := Option.some.inj (isLatest.symm.trans kept)
    rfl
  · intro parsed latest isReported
    cases refusal.1.symm.trans isReported
  · intro parsed latest isReported
    cases refusal.1.symm.trans isReported
  · intro retryAt stored isAnnounced isStored
    cases unannounced.symm.trans isStored
  · intro outcome isAnnounced
    exact ⟨_, (Option.some.inj (refusal.2.symm.trans isAnnounced)).symm⟩

theorem limits_of_comeInOrder_sample :
    Guards id (limitsAfter id sampleCalls) sampleCalls ∧
      (limitsAfter id sampleCalls).latestRateLimit = some ⟨40, 60, "2027-01-15T08:00:00+00:00"⟩ ∧
      (limitsAfter id sampleCalls).latestSecondaryRetryAt = some "2027-01-15T08:02:00+00:00" :=
  ⟨(limits_of_comeInOrder id sampleCalls comeInOrder_sample).1, by decide +kernel,
    by decide +kernel⟩

/-- A response of an older window that arrives late replaces the exhausted quota of the newer
window, and an announcement that ends earlier replaces a longer one. -/
theorem late_response_unlocks :
    (let newer := LimitCall.record (sampleHeaders "0" "1800003600")
     let older := LimitCall.record (sampleHeaders "42" "1800000000")
     let now := Datetime.utc 1800001800000000
     (limitsAfter id [older, newer]).latestRateLimit =
         some ⟨0, 60, "2027-01-15T09:00:00+00:00"⟩ ∧
       (limitsAfter id [newer, older]).latestRateLimit =
         some ⟨42, 60, "2027-01-15T08:00:00+00:00"⟩ ∧
       (manualRefreshBlockMessage (limitsAfter id [older, newer]) now).isSome = true ∧
       manualRefreshBlockMessage (limitsAfter id [newer, older]) now = none) ∧
    (let long := LimitCall.error (sampleRefusal "120")
     let short := LimitCall.error (sampleRefusal "5")
     let now := Datetime.utc 1800000060000000
     (manualRefreshBlockMessage (limitsAfter id [short, long]) now).isSome = true ∧
       manualRefreshBlockMessage (limitsAfter id [long, short]) now = none) := by
  decide +kernel

end Samples

end TraefikManager.Monitoring
