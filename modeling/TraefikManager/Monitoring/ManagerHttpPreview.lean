import TraefikManager.Monitoring.ManagerHttpErrors

/-!
# The thresholds that a preview recommends

The preview collects the failures of the last day that the monitor would count and slides a window
over their times. Its peaks are the most that the monitor reports for any window of the day, and
the thresholds lie above them.
-/

namespace TraefikManager.Monitoring

open Foundation

section Kinds

/-- The failures of a kind. -/
def HttpErrorTally.count (tally : HttpErrorTally) : HttpErrorKind → Nat
  | .notFound => tally.notFoundCount
  | .serverError => tally.serverErrorCount

def HttpErrorReport.count (report : HttpErrorReport) : HttpErrorKind → Nat
  | .notFound => report.notFoundCount
  | .serverError => report.serverErrorCount

def HttpErrorSample.times (sample : HttpErrorSample) : HttpErrorKind → List Int
  | .notFound => sample.notFoundTimes
  | .serverError => sample.serverErrorTimes

def HttpErrorPreview.peak (preview : HttpErrorPreview) : HttpErrorKind → Nat
  | .notFound => preview.peakNotFoundCount
  | .serverError => preview.peakServerErrorCount

def HttpErrorPreview.recommendedThreshold (preview : HttpErrorPreview) : HttpErrorKind → Nat
  | .notFound => preview.recommendedNotFoundThreshold
  | .serverError => preview.recommendedServerErrorThreshold

/-- A request that failed in a way, under no excluded path. -/
def RequestLog.isFailure (excludedPaths : List String) (kind : HttpErrorKind)
    (request : RequestLog) : Bool :=
  httpErrorKind? request.statusCode = some kind ∧
    (matchExcludedPath request.path excludedPaths).isNone = true

/-- The times of the failures of a kind, in the order of the log. -/
def failureTimes (excludedPaths : List String) (kind : HttpErrorKind)
    (requests : List RequestLog) : List Int :=
  (requests.filter (RequestLog.isFailure excludedPaths kind)).map RequestLog.occurredAt

variable {excludedPaths : List String} {kind : HttpErrorKind} {request : RequestLog}

private theorem failureTimes_cons (requests : List RequestLog) :
    failureTimes excludedPaths kind (request :: requests) =
      (if request.isFailure excludedPaths kind then [request.occurredAt] else []) ++
        failureTimes excludedPaths kind requests := by
  by_cases fails : request.isFailure excludedPaths kind = true
  · rw [failureTimes, List.filter_cons_of_pos fails, if_pos fails]
    rfl
  · rw [failureTimes, List.filter_cons_of_neg fails, if_neg fails]
    rfl

private theorem not_isFailure_of_other (other : httpErrorKind? request.statusCode ≠ some kind) :
    request.isFailure excludedPaths kind = false :=
  decide_eq_false fun fails => other fails.1

private theorem not_isFailure_of_excluded {excludedPath : String}
    (excluded : matchExcludedPath request.path excludedPaths = some excludedPath) :
    request.isFailure excludedPaths kind = false := by
  apply decide_eq_false
  intro fails
  rw [excluded] at fails
  exact Bool.false_ne_true fails.2

private theorem isFailure_of_matches (isKind : httpErrorKind? request.statusCode = some kind)
    (shown : matchExcludedPath request.path excludedPaths = none) :
    request.isFailure excludedPaths kind = true :=
  decide_eq_true ⟨isKind, by rw [shown, Option.isNone_none]⟩

end Kinds

section Paths

variable {values excludedPaths : List String} {path excludedPath : String}

/-- A path that the settings keep does not end in a slash. -/
theorem rstripChar_of_normalized
    (admitted : normalizeManagerHttpExcludedPaths values = .ok excludedPaths) :
    ∀ path ∈ excludedPaths, Text.rstripChar '/' path = path := by
  obtain ⟨paths, collected, admitted⟩ := bind_eq_ok.mp admitted
  have isPaths : paths = excludedPaths := by
    split at admitted
    · cases admitted
    · exact Except.ok.inj admitted
  subst isPaths
  have keeps : ∀ paths value next, (∀ path ∈ paths, Text.rstripChar '/' path = path) →
      addExcludedPath paths value = .ok next → ∀ path ∈ next, Text.rstripChar '/' path = path := by
    intro paths value next stripped added
    rw [addExcludedPath] at added
    split at added
    · exact Except.ok.inj added ▸ stripped
    split at added
    · cases added
    rw [← Except.ok.inj added, appendNew]
    split
    · exact stripped
    · rw [List.forall_mem_append, List.forall_mem_singleton]
      exact ⟨stripped, Text.rstripChar_rstripChar '/' _⟩
  exact foldlM_invariant keeps (List.forall_mem_nil _) collected

/-- The path that hides a request is one of the settings. -/
theorem mem_of_matchExcludedPath
    (stripped : ∀ path ∈ excludedPaths, Text.rstripChar '/' path = path)
    (isMatch : matchExcludedPath path excludedPaths = some excludedPath) :
    excludedPath ∈ excludedPaths := by
  have found := List.argmax_mem isMatch
  obtain ⟨listed, inPaths, isStart⟩ := List.mem_filterMap.mp found
  obtain ⟨-, isStart⟩ := Option.ite_none_right_eq_some.mp isStart
  rw [stripped listed inPaths] at isStart
  exact Option.some.inj isStart ▸ inPaths

end Paths

section Counting

variable {excludedPaths : List String} {windowStart current : Int} {kind : HttpErrorKind}

/-- One more request is counted when it is a failure in the window. -/
theorem count_add (tally : HttpErrorTally) (request : RequestLog) :
    (tally.add windowStart current excludedPaths request).count kind = tally.count kind +
      if request.isFailure excludedPaths kind = true ∧ windowStart ≤ request.occurredAt ∧
        request.occurredAt ≤ current then 1 else 0 := by
  by_cases outside : request.occurredAt < windowStart ∨ current < request.occurredAt
  · rw [HttpErrorTally.add, if_pos outside, if_neg (by omega), Nat.add_zero]
  · have inside : windowStart ≤ request.occurredAt ∧ request.occurredAt ≤ current := by omega
    simp only [HttpErrorTally.add, outside, inside, and_self, and_true, ↓reduceIte]
    cases isMatch : matchExcludedPath request.path excludedPaths with
    | some excludedPath =>
        rw [not_isFailure_of_excluded isMatch]
        rfl
    | none =>
        cases isKind : httpErrorKind? request.statusCode with
        | none =>
            rw [not_isFailure_of_other (by simp [isKind])]
            rfl
        | some counted =>
            by_cases same : counted = kind
            · subst same
              rw [isFailure_of_matches isKind isMatch]
              cases counted <;> rfl
            · rw [not_isFailure_of_other (by simpa [isKind] using same)]
              cases counted <;> cases kind <;> first | rfl | exact absurd rfl same

private theorem count_foldl (tally : HttpErrorTally) (requests : List RequestLog) :
    (requests.foldl (HttpErrorTally.add windowStart current excludedPaths) tally).count kind =
      tally.count kind + (failureTimes excludedPaths kind requests).countP fun time =>
        windowStart ≤ time ∧ time ≤ current := by
  induction requests generalizing tally with
  | nil => rfl
  | cons request requests ih =>
      rw [List.foldl_cons, ih, count_add, failureTimes_cons, List.countP_append, Nat.add_assoc]
      by_cases fails : request.isFailure excludedPaths kind = true
      · simp only [fails, true_and, ↓reduceIte, List.countP_singleton, decide_eq_true_eq]
      · simp only [fails, false_and, ↓reduceIte, List.countP_nil, Bool.false_eq_true]

end Counting

section Sampling

variable {excludedPaths : List String} {windowStart current : Int} {kind : HttpErrorKind}
  {sample later : HttpErrorSample} {requests : List RequestLog} {request : RequestLog}

/-- What is known of the sample once some requests are read. -/
structure Sampled (windowStart current : Int) (excludedPaths : List String)
    (requests : List RequestLog) (sample : HttpErrorSample) : Prop where
  listed : ∀ path ∈ excludedPaths, path ∈ sample.excludedCounts.keys
  times : ∀ kind, sample.times kind = (failureTimes excludedPaths kind requests).filter fun time =>
    windowStart ≤ time ∧ time ≤ current

theorem Sampled.next (sampled : Sampled windowStart current excludedPaths requests sample)
    (listed : ∀ path ∈ excludedPaths, path ∈ later.excludedCounts.keys)
    (times : ∀ kind, later.times kind = sample.times kind ++
      if request.isFailure excludedPaths kind = true ∧ windowStart ≤ request.occurredAt ∧
        request.occurredAt ≤ current then [request.occurredAt] else []) :
    Sampled windowStart current excludedPaths (requests ++ [request]) later where
  listed := listed
  times := by
    intro kind
    have parts : failureTimes excludedPaths kind (requests ++ [request]) =
        failureTimes excludedPaths kind requests ++
          if request.isFailure excludedPaths kind then [request.occurredAt] else [] := by
      rw [failureTimes, List.filter_append, List.map_append]
      exact congrArg _ ((failureTimes_cons []).trans (List.append_nil _))
    rw [times, sampled.times, parts, List.filter_append]
    by_cases fails : request.isFailure excludedPaths kind = true
    · simp only [fails, true_and, ↓reduceIte, List.filter_singleton, Bool.cond_decide]
    · simp only [fails, false_and, ↓reduceIte, List.filter_nil, Bool.false_eq_true]

/-- One more request is read; an excluded path that hides it is listed. -/
theorem sampled_add (stripped : ∀ path ∈ excludedPaths, Text.rstripChar '/' path = path)
    (sampled : Sampled windowStart current excludedPaths requests sample) (request : RequestLog) :
    ∃ later, sample.add windowStart current excludedPaths request = .ok later ∧
      Sampled windowStart current excludedPaths (requests ++ [request]) later := by
  have same : ∀ {sample later : HttpErrorSample}, later.notFoundTimes = sample.notFoundTimes →
      later.serverErrorTimes = sample.serverErrorTimes →
      ∀ kind, later.times kind = sample.times kind ++ [] := by
    intro sample later isNotFound isServerError kind
    rw [List.append_nil]
    cases kind with
    | notFound => exact isNotFound
    | serverError => exact isServerError
  by_cases future : current < request.occurredAt
  · refine ⟨sample, by rw [HttpErrorSample.add, if_pos future], sampled.next sampled.listed ?_⟩
    intro kind
    rw [if_neg (by omega)]
    exact same rfl rfl kind
  by_cases past : request.occurredAt < windowStart
  · simp only [HttpErrorSample.add, future, past, ↓reduceIte]
    refine ⟨_, rfl, sampled.next sampled.listed ?_⟩
    intro kind
    rw [if_neg (by omega)]
    exact same rfl rfl kind
  have inside : windowStart ≤ request.occurredAt ∧ request.occurredAt ≤ current := by omega
  simp only [HttpErrorSample.add, future, past, ↓reduceIte]
  cases isKind : httpErrorKind? request.statusCode with
  | none =>
      refine ⟨_, rfl, sampled.next sampled.listed ?_⟩
      intro kind
      rw [not_isFailure_of_other (by simp [isKind]), if_neg (by simp)]
      exact same rfl rfl kind
  | some failed =>
      cases isMatch : matchExcludedPath request.path excludedPaths with
      | some excludedPath =>
          have isListed := sampled.listed _ (mem_of_matchExcludedPath stripped isMatch)
          obtain ⟨count, isCount⟩ := Dict.mem_keys_iff.mp isListed
          simp only [isCount]
          refine ⟨_, rfl, sampled.next ?_ ?_⟩
          · intro path inPaths
            exact Dict.mem_keys_set.mpr (.inl (sampled.listed path inPaths))
          · intro kind
            rw [not_isFailure_of_excluded isMatch, if_neg (by simp)]
            exact same rfl rfl kind
      | none =>
          have fails : ∀ kind, request.isFailure excludedPaths kind = decide (failed = kind) := by
            intro kind
            rw [RequestLog.isFailure, isKind, isMatch]
            simp
          cases failed with
          | notFound =>
              refine ⟨_, rfl, sampled.next sampled.listed ?_⟩
              intro kind
              cases kind <;> simp [fails, inside, HttpErrorSample.times]
          | serverError =>
              refine ⟨_, rfl, sampled.next sampled.listed ?_⟩
              intro kind
              cases kind <;> simp [fails, inside, HttpErrorSample.times]

private theorem sampled_foldlM (stripped : ∀ path ∈ excludedPaths, Text.rstripChar '/' path = path)
    (sampled : Sampled windowStart current excludedPaths requests sample) (rest : List RequestLog) :
    ∃ next, rest.foldlM (HttpErrorSample.add windowStart current excludedPaths) sample = .ok next ∧
      Sampled windowStart current excludedPaths (requests ++ rest) next := by
  induction rest generalizing requests sample with
  | nil => exact ⟨sample, rfl, by rwa [List.append_nil]⟩
  | cons request rest ih =>
      obtain ⟨next, isNext, sampledNext⟩ := sampled_add stripped sampled request
      obtain ⟨last, isLast, sampledLast⟩ := ih sampledNext
      rw [List.append_assoc, List.singleton_append] at sampledLast
      refine ⟨last, ?_, sampledLast⟩
      rw [List.foldlM_cons, isNext]
      exact isLast

end Sampling

section Preview

variable {logText : Option String} {current checkedAt : Datetime.Instant} {windowMinutes : Int}
  {values excludedPaths : List String} {requests : List RequestLog} {kind : HttpErrorKind}

/-- A time of a check whose window lies in the last day. -/
structure InLastDay (current : Datetime.Instant) (windowMinutes : Int)
    (checkedAt : Datetime.Instant) : Prop where
  starts : current.micros - Timedelta.minutes (managerHttpErrorWindowHours * 60) ≤
    checkedAt.micros - Timedelta.minutes windowMinutes
  ends : checkedAt.micros ≤ current.micros

/-- What the monitor reports of a readable log. -/
theorem exists_countManagerHttpErrors (readable : requestsOf logText = .ok requests)
    (positive : 1 ≤ windowMinutes)
    (inRange : (Datetime.utc (checkedAt.micros - Timedelta.minutes windowMinutes)).InRange) :
    ∃ report, countManagerHttpErrors logText checkedAt windowMinutes excludedPaths = .ok report ∧
      ∀ kind, report.count kind = SlidingWindow.within (failureTimes excludedPaths kind requests)
        (Timedelta.minutes windowMinutes) checkedAt.micros := by
  rw [countManagerHttpErrors, max_eq_right positive, if_pos inRange, readable]
  refine ⟨_, rfl, ?_⟩
  intro kind
  have counted := @count_foldl excludedPaths
    (checkedAt.micros - Timedelta.minutes windowMinutes) checkedAt.micros kind {} requests
  cases kind with
  | notFound => exact counted.trans (Nat.zero_add _)
  | serverError => exact counted.trans (Nat.zero_add _)

/-- Unless the maximum cuts it, a recommended threshold is above the peak. -/
theorem lt_recommendThreshold {peak : Nat} (below : peak < maxManagerHttpErrorThreshold)
    (default : Nat) : peak < recommendThreshold peak default := by
  rw [recommendThreshold]
  omega

/-- What the preview collects of a readable log. -/
theorem exists_buildManagerHttpErrorPreview (readable : requestsOf logText = .ok requests)
    (admitted : normalizeManagerHttpExcludedPaths values = .ok excludedPaths)
    (low : minManagerHttpErrorWindowMinutes ≤ windowMinutes)
    (high : windowMinutes ≤ maxManagerHttpErrorWindowMinutes)
    (inRange : (Datetime.utc
      (current.micros - Timedelta.minutes (managerHttpErrorWindowHours * 60))).InRange) :
    ∃ preview sample,
      buildManagerHttpErrorPreview logText current windowMinutes excludedPaths = .ok preview ∧
      Sampled (current.micros - Timedelta.minutes (managerHttpErrorWindowHours * 60))
        current.micros excludedPaths requests sample ∧
      ∀ kind, preview.peak kind = maxWindowCount (sample.times kind) windowMinutes ∧
        (preview.peak kind < maxManagerHttpErrorThreshold →
          preview.peak kind < preview.recommendedThreshold kind) := by
  have effective : max minManagerHttpErrorWindowMinutes
      (min maxManagerHttpErrorWindowMinutes windowMinutes) = windowMinutes := by
    rw [min_eq_right high, max_eq_right low]
  have listed : ∀ path ∈ excludedPaths, path ∈
      (Dict.ofList (excludedPaths.map fun path => (path, ({ path } : ExcludedCount)))).keys := by
    intro path inPaths
    rw [Dict.mem_keys_ofList, List.map_map]
    exact List.mem_map.mpr ⟨path, inPaths, rfl⟩
  have begins : Sampled (current.micros - Timedelta.minutes (managerHttpErrorWindowHours * 60))
      current.micros excludedPaths []
      { excludedCounts := Dict.ofList (excludedPaths.map fun path => (path, { path })) } :=
    ⟨listed, fun kind => by cases kind <;> rfl⟩
  obtain ⟨sample, isSample, sampled⟩ :=
    sampled_foldlM (rstripChar_of_normalized admitted) begins requests
  rw [buildManagerHttpErrorPreview, effective, if_pos inRange, readable]
  refine ⟨_, sample, congrArg (Except.map _) isSample, sampled, ?_⟩
  intro kind
  cases kind with
  | notFound => exact ⟨rfl, fun below => lt_recommendThreshold below _⟩
  | serverError => exact ⟨rfl, fun below => lt_recommendThreshold below _⟩

/-- Among the failures of the day, a window of the day holds as many as among all. -/
theorem within_filter {times : List Int} {window low high last : Int} (starts : low ≤ last - window)
    (ends : last ≤ high) :
    SlidingWindow.within (times.filter fun time => low ≤ time ∧ time ≤ high) window last =
      SlidingWindow.within times window last := by
  rw [SlidingWindow.within, List.countP_filter]
  apply List.countP_congr
  intro time _
  rw [Bool.and_eq_true, decide_eq_true_eq, decide_eq_true_eq, and_iff_left_iff_imp]
  intro held
  exact ⟨starts.trans held.1, held.2.trans ends⟩

/-- A check in the last day has a window that a clock can name. -/
theorem InLastDay.inRange (inLastDay : InLastDay current windowMinutes checkedAt)
    (positive : 0 ≤ windowMinutes)
    (dayInRange : (Datetime.utc
      (current.micros - Timedelta.minutes (managerHttpErrorWindowHours * 60))).InRange) :
    (Datetime.utc (checkedAt.micros - Timedelta.minutes windowMinutes)).InRange := by
  constructor
  · exact dayInRange.1.trans inLastDay.starts
  · refine lt_of_le_of_lt ?_ checkedAt.inRange.2
    exact sub_le_self _ (Int.mul_nonneg positive (by decide))

/-- The counts that the monitor reports for the windows of the last day. -/
def countsOfLastDay (logText : Option String) (current : Datetime.Instant) (windowMinutes : Int)
    (excludedPaths : List String) (kind : HttpErrorKind) : Set Nat :=
  {count | ∃ checkedAt report, InLastDay current windowMinutes checkedAt ∧
    countManagerHttpErrors logText checkedAt windowMinutes excludedPaths = .ok report ∧
    count = report.count kind}

/-- They are those of the windows over the failures of the day. -/
theorem countsOfLastDay_eq (readable : requestsOf logText = .ok requests)
    (positive : 1 ≤ windowMinutes)
    (dayInRange : (Datetime.utc
      (current.micros - Timedelta.minutes (managerHttpErrorWindowHours * 60))).InRange) :
    countsOfLastDay logText current windowMinutes excludedPaths kind =
      {count | ∃ last,
        current.micros - Timedelta.minutes (managerHttpErrorWindowHours * 60) ≤
          last - Timedelta.minutes windowMinutes ∧
        last ≤ current.micros ∧
        count = SlidingWindow.within ((failureTimes excludedPaths kind requests).filter fun time =>
          current.micros - Timedelta.minutes (managerHttpErrorWindowHours * 60) ≤ time ∧
            time ≤ current.micros) (Timedelta.minutes windowMinutes) last} := by
  have nonneg : 0 ≤ windowMinutes := by omega
  ext count
  constructor
  · rintro ⟨checkedAt, report, inLastDay, isReport, rfl⟩
    refine ⟨checkedAt.micros, inLastDay.starts, inLastDay.ends, ?_⟩
    obtain ⟨other, isOther, counts⟩ := exists_countManagerHttpErrors
      readable positive (inLastDay.inRange nonneg dayInRange)
    rw [isReport] at isOther
    cases isOther
    rw [within_filter inLastDay.starts inLastDay.ends, counts]
  · rintro ⟨last, starts, ends, rfl⟩
    have lastInRange : (Datetime.utc last).InRange := by
      constructor
      · apply dayInRange.1.trans
        apply starts.trans
        exact sub_le_self _ (Int.mul_nonneg nonneg (by decide))
      · exact ends.trans_lt current.inRange.2
    have inLastDay : InLastDay current windowMinutes ⟨last, lastInRange⟩ := ⟨starts, ends⟩
    obtain ⟨report, isReport, counts⟩ := exists_countManagerHttpErrors
      readable positive (inLastDay.inRange nonneg dayInRange)
    refine ⟨⟨last, lastInRange⟩, report, inLastDay, isReport, ?_⟩
    rw [within_filter starts ends, counts]

/-- The peak of the sample is the most that a window of the day holds. -/
theorem isGreatest_maxWindowCount {sample : HttpErrorSample} (nonneg : 0 ≤ windowMinutes)
    (high : windowMinutes ≤ maxManagerHttpErrorWindowMinutes)
    (sampled : Sampled (current.micros - Timedelta.minutes (managerHttpErrorWindowHours * 60))
      current.micros excludedPaths requests sample) (kind : HttpErrorKind) :
    IsGreatest {count | ∃ last,
      current.micros - Timedelta.minutes (managerHttpErrorWindowHours * 60) ≤
        last - Timedelta.minutes windowMinutes ∧
      last ≤ current.micros ∧
      count = SlidingWindow.within (sample.times kind) (Timedelta.minutes windowMinutes) last}
      (maxWindowCount (sample.times kind) windowMinutes) := by
  apply SlidingWindow.isGreatest_peak
  · exact Int.mul_nonneg nonneg (by decide)
  · have short : Timedelta.minutes windowMinutes ≤
        Timedelta.minutes (managerHttpErrorWindowHours * 60) :=
      Int.mul_le_mul_of_nonneg_right (high.trans (by decide)) (by decide)
    rw [sub_add]
    exact sub_le_self _ (sub_nonneg.mpr short)
  · intro time listed
    rw [sampled.times kind] at listed
    exact of_decide_eq_true (List.mem_filter.mp listed).2
  · exact List.pairwise_insertionSort _ _
  · exact List.perm_insertionSort _ _

/-- A line that is not readable has a point in time or a number beyond what Python can hold. -/
theorem overflow_of_parse {line : String} {failure : HttpLogFailure}
    (unreadable : parseManagerHttpRequestLog line = .error failure) :
    failure = .overflowError := by
  have ofTime : ∀ {value : Option Json}, parseRequestTimestamp value = .error failure →
      failure = .overflowError := by
    intro value failed
    unfold parseRequestTimestamp at failed
    split at failed
    · split at failed
      · cases failed
      · split at failed
        · cases failed
        · exact (Except.error.inj failed).symm
    · cases failed
  unfold parseManagerHttpRequestLog at unreadable
  split at unreadable
  · rename_i payload _
    by_cases other : Deployments.stringOf? (Json.get? payload "message") ≠ some "요청 완료"
    · rw [if_pos other] at unreadable
      cases unreadable
    · rw [if_neg other] at unreadable
      cases isTime : parseRequestTimestamp (Json.get? payload "time") with
      | error other =>
          rw [isTime] at unreadable
          cases unreadable
          exact ofTime isTime
      | ok occurredAt =>
          simp only [isTime, bind, Except.bind] at unreadable
          split at unreadable
          · split at unreadable
            · cases unreadable
            · split at unreadable
              · exact (Except.error.inj unreadable).symm
              · cases unreadable
          · cases unreadable
  · cases unreadable

private theorem overflow_of_requestsOf {failure : HttpLogFailure}
    (unreadable : requestsOf logText = .error failure) : failure = .overflowError := by
  rw [requestsOf] at unreadable
  cases read : ((logText.map Text.splitLines).getD []).mapM parseManagerHttpRequestLog with
  | ok parsed =>
      rw [read] at unreadable
      cases unreadable
  | error other =>
      rw [read] at unreadable
      cases unreadable
      obtain ⟨line, -, failed⟩ := exists_of_mapM_error read
      exact overflow_of_parse failed

/-- The preview fails only for a point in time or a number beyond what Python can hold. Its peaks
are the most that the monitor reports for a window of the last day, and a threshold that the
maximum does not cut is above all that it reports. -/
theorem preview_exceeds_counts
    (admitted : normalizeManagerHttpExcludedPaths values = .ok excludedPaths)
    (low : minManagerHttpErrorWindowMinutes ≤ windowMinutes)
    (high : windowMinutes ≤ maxManagerHttpErrorWindowMinutes) :
    buildManagerHttpErrorPreview logText current windowMinutes excludedPaths =
        .error .overflowError ∨
      ∃ preview,
        buildManagerHttpErrorPreview logText current windowMinutes excludedPaths = .ok preview ∧
        ∀ kind,
          IsGreatest (countsOfLastDay logText current windowMinutes excludedPaths kind)
            (preview.peak kind) ∧
          ∀ checkedAt, InLastDay current windowMinutes checkedAt →
            ∃ report,
              countManagerHttpErrors logText checkedAt windowMinutes excludedPaths = .ok report ∧
              (preview.peak kind < maxManagerHttpErrorThreshold →
                report.count kind < preview.recommendedThreshold kind) := by
  by_cases dayInRange : (Datetime.utc
      (current.micros - Timedelta.minutes (managerHttpErrorWindowHours * 60))).InRange
  · cases readable : requestsOf logText with
    | error failure =>
        rw [buildManagerHttpErrorPreview, if_pos dayInRange, readable,
          overflow_of_requestsOf readable]
        exact .inl rfl
    | ok requests =>
        right
        have positive : 1 ≤ windowMinutes := Int.le_trans (by decide) low
        have nonneg : 0 ≤ windowMinutes := Int.le_trans (by decide) low
        obtain ⟨preview, sample, isPreview, sampled, peaks⟩ :=
          exists_buildManagerHttpErrorPreview readable admitted low high dayInRange
        refine ⟨preview, isPreview, ?_⟩
        intro kind
        obtain ⟨isPeak, above⟩ := peaks kind
        have isGreatest : IsGreatest
            (countsOfLastDay logText current windowMinutes excludedPaths kind)
            (preview.peak kind) := by
          rw [countsOfLastDay_eq readable positive dayInRange, isPeak, ← sampled.times kind]
          exact isGreatest_maxWindowCount nonneg high sampled kind
        refine ⟨isGreatest, ?_⟩
        intro checkedAt inLastDay
        obtain ⟨report, isReport, -⟩ := exists_countManagerHttpErrors readable positive
          (inLastDay.inRange nonneg dayInRange)
        refine ⟨report, isReport, ?_⟩
        intro below
        exact (isGreatest.2 ⟨checkedAt, report, inLastDay, isReport, rfl⟩).trans_lt (above below)
  · rw [buildManagerHttpErrorPreview, if_neg dayInRange]
    exact .inl rfl

/-- Two requests failed, the second one under a path that is excluded. -/
def sampleRequestLog : String :=
  "\x7b\"message\": \"요청 완료\", \"time\": \"2026-11-02T03:04:05Z\", \"path\": \"/api/a\", " ++
    "\"status_code\": 404\x7d\n" ++
  "\x7b\"message\": \"요청 완료\", \"time\": \"2026-11-02T03:04:05Z\", \"path\": \"/api/b/c\", " ++
    "\"status_code\": 404\x7d\n"

def sampleInstant : Datetime.Instant := ⟨1793588645250000, by decide⟩

private theorem peak_sampleRequestLog :
    (buildManagerHttpErrorPreview (some sampleRequestLog) sampleInstant 15 ["/api/b"]).map
      (·.peak .notFound) = .ok 1 := by
  decide +kernel

theorem preview_exceeds_counts_sample :
    ∃ preview,
      buildManagerHttpErrorPreview (some sampleRequestLog) sampleInstant 15 ["/api/b"] =
        .ok preview ∧
      ∀ kind,
        IsGreatest (countsOfLastDay (some sampleRequestLog) sampleInstant 15 ["/api/b"] kind)
          (preview.peak kind) ∧
        ∀ checkedAt, InLastDay sampleInstant 15 checkedAt →
          ∃ report,
            countManagerHttpErrors (some sampleRequestLog) checkedAt 15 ["/api/b"] = .ok report ∧
            (preview.peak kind < maxManagerHttpErrorThreshold →
              report.count kind < preview.recommendedThreshold kind) := by
  have admitted : normalizeManagerHttpExcludedPaths ["/api/b/"] = .ok ["/api/b"] := by
    decide +kernel
  obtain failed | built := @preview_exceeds_counts (some sampleRequestLog) sampleInstant 15
    ["/api/b/"] _ admitted (by decide) (by decide)
  · have isPeak := peak_sampleRequestLog
    rw [failed] at isPeak
    cases isPeak
  · exact built

end Preview

end TraefikManager.Monitoring
