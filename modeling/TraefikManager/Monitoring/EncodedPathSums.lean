import TraefikManager.Monitoring.EncodedPathConservation
import TraefikManager.Monitoring.EncodedPathRuns

/-!
# What the summaries add up

Each summary is a sum over the minutes of its window: the totals, the buckets of an hour, and the
routers, of which the counts of a minute sum up to its refused requests.
-/

namespace TraefikManager.Monitoring

open Foundation

variable {tools : LogTools}

section Merging

variable {fields minute : Dict String Json} {key : String}

private theorem intField_eq (isCount : IsCount (fields.get? key)) :
    tools.intField fields key = .ok (countAt fields key) := by
  unfold LogTools.intField countAt
  cases found : fields.get? key with
  | none => rfl
  | some stored =>
      obtain ⟨count, rfl⟩ := isCount stored found
      rfl

/-- The counts of a part are added under their keys. -/
theorem mergeCounts_eq (holds : HoldsCounts (minute.get? key)) (target : Dict String Int) :
    mergeCounts tools target (minute.get? key) =
      .ok (Dict.addAll intValue target (partOf minute key).entries) := by
  unfold mergeCounts partOf
  cases found : minute.get? key with
  | none => rfl
  | some stored =>
      obtain ⟨counts, rfl, isCounts⟩ := holds stored found
      dsimp only
      rw [Dict.ofList_entries]
      have each : ∀ entry ∈ counts.entries, ∃ count, entry.2 = .int count := fun entry listed =>
        isCounts entry.1 entry.2 (Dict.get?_eq_some_iff.mpr listed)
      generalize counts.entries = entries at each
      clear found isCounts
      induction entries generalizing target with
      | nil => rfl
      | cons entry entries ih =>
          obtain ⟨⟨count, isCount⟩, others⟩ := List.forall_mem_cons.mp each
          rw [List.foldlM_cons, isCount]
          refine (ih _ others).trans ?_
          rw [Dict.addAll, Dict.addAll, List.foldl_cons, isCount]
          rfl

/-- What is ranked is the same, in another order. -/
theorem sum_rankCounts (counts : Dict String Int) :
    ((rankCounts counts).map Prod.snd).sum = counts.total id := by
  rw [rankCounts, Dict.total, Dict.values, List.map_id]
  exact ((List.mergeSort_perm _ _).map _).sum_eq

private theorem count_of_mem_rankCounts {counts : Dict String Int} {entry : String × Int}
    (listed : entry ∈ rankCounts counts) : entry.2 = counts.count entry.1 := by
  have inCounts := (List.mergeSort_perm _ _).mem_iff.mp listed
  have found := Dict.get?_eq_some_iff.mpr inCounts
  rw [Dict.count, found, Option.getD_some]

end Merging

section Window

/-- A minute as it is stored. -/
def storedMinute : Json → Dict String Json
  | .object fields => Dict.ofList fields
  | _ => ∅

/-- The sum over the minutes that start between two points in time, both included. -/
def LogTools.windowSum (tools : LogTools) (state : HistoryState) (first last : Int)
    (weight : Dict String Json → Int) : Int :=
  (((minutesOf state).entries.filter fun entry => tools.isBetween first last entry.1).map
    fun entry => weight (storedMinute entry.2)).sum

def blockedOf (minute : Dict String Json) : Int := countAt minute Tally.blocked.field

def totalOf (minute : Dict String Json) : Int := countAt minute Tally.total.field

def routerSumOf (minute : Dict String Json) : Int :=
  (partOf minute "router_counts").total intValue

def routerOf (name : String) (minute : Dict String Json) : Int :=
  countAt (partOf minute "router_counts") name

variable {state : HistoryState}

private theorem windowSum_eq (state : HistoryState) (first last : Int)
    (weight : Dict String Json → Int) :
    tools.windowSum state first last weight =
      ((minutesOf state).entries.map fun entry =>
        if tools.isBetween first last entry.1 then weight (storedMinute entry.2) else 0).sum :=
  sum_map_filter _ _ _

/-- The minutes of a window have as many requests by router as refused requests. -/
theorem windowSum_routers (isConserved : IsConservedHistory state) (first last : Int) :
    tools.windowSum state first last routerSumOf = tools.windowSum state first last blockedOf := by
  unfold LogTools.windowSum
  apply congrArg List.sum
  apply List.map_congr_left
  intro entry inWindow
  have listed := (List.mem_filter.mp inWindow).1
  obtain ⟨minute, isMinute, conserved⟩ :=
    isConserved.each entry.1 entry.2 (Dict.get?_eq_some_iff.mpr listed)
  rw [isMinute, storedMinute, Dict.ofList_entries]
  exact conserved.sums _ (by decide)

end Window

section Recent

variable {state : HistoryState} {cutoff checkedAt : Int}

/-- What is counted over the last minutes. -/
inductive RecentMeasure where
  | blocked
  | total
  | routers
  | router (name : String)

def RecentMeasure.ofCounts (counts : RecentCounts) : RecentMeasure → Int
  | .blocked => counts.blockedRequestCount
  | .total => counts.totalRequestCount
  | .routers => counts.routerCounts.total id
  | .router name => counts.routerCounts.count name

def RecentMeasure.ofMinute (minute : Dict String Json) : RecentMeasure → Int
  | .blocked => blockedOf minute
  | .total => totalOf minute
  | .routers => routerSumOf minute
  | .router name => routerOf name minute

private theorem exists_addRecentMinute (isConserved : IsConservedHistory state)
    (counts : RecentCounts) {entry : String × Json} (listed : entry ∈ (minutesOf state).entries) :
    ∃ next, addRecentMinute tools cutoff checkedAt counts entry = .ok next ∧
      ∀ measure : RecentMeasure, measure.ofCounts next = measure.ofCounts counts +
        if tools.isBetween cutoff checkedAt entry.1 then measure.ofMinute (storedMinute entry.2)
        else 0 := by
  obtain ⟨minute, isMinute, conserved⟩ :=
    isConserved.each entry.1 entry.2 (Dict.get?_eq_some_iff.mpr listed)
  unfold addRecentMinute
  rw [isMinute]
  dsimp only [storedMinute]
  rw [Dict.ofList_entries]
  by_cases inWindow : tools.isBetween cutoff checkedAt entry.1 = true
  · have blocked := @intField_eq tools _ _ (conserved.form.tallies .blocked)
    have total := @intField_eq tools _ _ (conserved.form.tallies .total)
    have parts := fun key isPart target =>
      @mergeCounts_eq tools _ _ (conserved.form.parts key isPart) target
    rw [if_pos inWindow]
    refine ⟨_, bind_eq_ok.mpr ⟨_, blocked, bind_eq_ok.mpr ⟨_, total,
      bind_eq_ok.mpr ⟨_, parts _ (by decide) _, bind_eq_ok.mpr ⟨_, parts _ (by decide) _,
      bind_eq_ok.mpr ⟨_, parts _ (by decide) _, rfl⟩⟩⟩⟩⟩, ?_⟩
    intro measure
    rw [if_pos inWindow]
    cases measure with
    | blocked => rfl
    | total => rfl
    | routers =>
        exact Dict.total_addAll intValue counts.routerCounts (partOf minute "router_counts")
    | router name =>
        have added := Dict.count_addAll intValue counts.routerCounts
          (partOf minute "router_counts") name
        rw [← countAt_eq_getD] at added
        exact added
  · rw [if_neg inWindow]
    refine ⟨counts, rfl, ?_⟩
    intro measure
    rw [if_neg inWindow, Int.add_zero]

/-- The sums that `summarize_recent_blocks` reports. -/
structure RecentSums (tools : LogTools) (state : HistoryState) (checkedAt windowMinutes : Int)
    (summary : RecentSummary) : Prop where
  blocked : summary.blockedRequestCount =
    tools.windowSum state (recentCutoff checkedAt windowMinutes) checkedAt blockedOf
  total : summary.totalRequestCount =
    tools.windowSum state (recentCutoff checkedAt windowMinutes) checkedAt totalOf
  router : ∀ router ∈ summary.targetRouters, router.2 =
    tools.windowSum state (recentCutoff checkedAt windowMinutes) checkedAt (routerOf router.1)
  routers : (summary.targetRouters.map Prod.snd).sum =
    tools.windowSum state (recentCutoff checkedAt windowMinutes) checkedAt routerSumOf

private theorem exists_summarizeRecentBlocks (isConserved : IsConservedHistory state)
    (checkedAt windowMinutes : Int) :
    ∃ summary, summarizeRecentBlocks tools state checkedAt windowMinutes = .ok summary ∧
      RecentSums tools state checkedAt windowMinutes summary := by
  obtain ⟨counts, isCounts, -, added⟩ := @foldlM_adds _ _ _ _
    (addRecentMinute tools (recentCutoff checkedAt windowMinutes) checkedAt) (fun _ => True)
    (fun measure counts => RecentMeasure.ofCounts counts measure)
    (fun measure entry => if tools.isBetween (recentCutoff checkedAt windowMinutes) checkedAt
      entry.1 then RecentMeasure.ofMinute (storedMinute entry.2) measure else 0)
    (minutesOf state).entries {} (by
      intro counts entry listed _
      obtain ⟨next, isNext, added⟩ := exists_addRecentMinute isConserved counts listed
      exact ⟨next, isNext, trivial, added⟩) trivial
  have sums : ∀ measure : RecentMeasure, measure.ofCounts counts =
      tools.windowSum state (recentCutoff checkedAt windowMinutes) checkedAt
        (fun minute => measure.ofMinute minute) := by
    intro measure
    rw [windowSum_eq, added]
    cases measure <;> exact Int.zero_add _
  refine ⟨_, bind_eq_ok.mpr ⟨counts, isCounts, rfl⟩, sums .blocked, sums .total, ?_, ?_⟩
  · intro router listed
    rw [count_of_mem_rankCounts listed]
    exact sums (.router router.1)
  · rw [sum_rankCounts]
    exact sums .routers

end Recent

section Day

variable {state : HistoryState} {windowStart checkedAt : Int}

/-- What is counted over the last day. -/
inductive DayMeasure where
  | blocked
  | bucket (index : Nat)

def DayMeasure.ofCounts (counts : DayCounts) : DayMeasure → Int
  | .blocked => (counts.buckets.map (·.blockedRequestCount)).sum
  | .bucket index => (counts.buckets[index]?.map (·.blockedRequestCount)).getD 0

/-- The minutes that a measure counts, by their keys. -/
def LogTools.isMeasured (tools : LogTools) (windowStart checkedAt : Int) (minuteKey : String) :
    DayMeasure → Bool
  | .blocked => tools.isBetween windowStart checkedAt minuteKey
  | .bucket index => (tools.parseDatetime minuteKey).any fun startedAt =>
      (windowStart ≤ startedAt ∧ startedAt ≤ checkedAt) ∧ bucketIndex windowStart startedAt = index

/-- The hours of the last day. -/
def hourStarts (windowStart : Int) : List Int :=
  (List.range historyWindowHours).map fun (index : Nat) => windowStart + (index : Int) * 3600000000

private theorem addEncodedCounts_ok {minute : Dict String Json} {key : String}
    (holds : HoldsCounts (minute.get? key)) (encodedCounts : Dict String Int) :
    ∃ added, addEncodedCounts tools encodedCounts (minute.get? key) = .ok added := by
  unfold addEncodedCounts
  cases found : minute.get? key with
  | none => exact ⟨_, rfl⟩
  | some stored =>
      obtain ⟨counts, rfl, isCounts⟩ := holds stored found
      dsimp only
      rw [Dict.ofList_entries]
      generalize encodedReservedCharacters = characters
      induction characters generalizing encodedCounts with
      | nil => exact ⟨_, rfl⟩
      | cons encoded characters ih =>
          obtain ⟨added, isAdded⟩ := ih (encodedCounts.add encoded (countAt counts encoded))
          refine ⟨added, ?_⟩
          rw [List.foldlM_cons, intField_eq (isCounts encoded)]
          exact isAdded

private theorem exists_addDayMinute (isConserved : IsConservedHistory state) {counts : DayCounts}
    (hours : counts.buckets.map (·.startedAt) = hourStarts windowStart)
    {entry : String × Json} (listed : entry ∈ (minutesOf state).entries) :
    ∃ next, addDayMinute tools windowStart checkedAt counts entry = .ok next ∧
      next.buckets.map (·.startedAt) = hourStarts windowStart ∧
      ∀ measure : DayMeasure, measure.ofCounts next = measure.ofCounts counts +
        if tools.isMeasured windowStart checkedAt entry.1 measure then
          blockedOf (storedMinute entry.2) else 0 := by
  obtain ⟨minute, isMinute, conserved⟩ :=
    isConserved.each entry.1 entry.2 (Dict.get?_eq_some_iff.mpr listed)
  unfold addDayMinute
  rw [isMinute]
  dsimp only [storedMinute]
  rw [Dict.ofList_entries]
  cases isStart : tools.parseDatetime entry.1 with
  | none =>
      refine ⟨counts, rfl, hours, ?_⟩
      intro measure
      cases measure <;> simp [LogTools.isMeasured, LogTools.isBetween, isStart]
  | some startedAt =>
      dsimp only
      rw [Dict.ofList_entries]
      by_cases inWindow : windowStart ≤ startedAt ∧ startedAt ≤ checkedAt
      · have blocked := @intField_eq tools _ _ (conserved.form.tallies .blocked)
        have parts := fun key isPart target =>
          @mergeCounts_eq tools _ _ (conserved.form.parts key isPart) target
        obtain ⟨encodedCounts, isEncoded⟩ := @addEncodedCounts_ok tools _ _
          (conserved.form.parts "encoded_characters" (by decide)) counts.encodedCounts
        have inside : bucketIndex windowStart startedAt < counts.buckets.length := by
          have length := congrArg List.length hours
          rw [List.length_map, hourStarts, List.length_map, List.length_range] at length
          rw [length]
          exact Nat.lt_of_le_of_lt (Nat.min_le_right _ _) (by decide)
        rw [if_pos inWindow]
        refine ⟨_, bind_eq_ok.mpr ⟨_, blocked, bind_eq_ok.mpr ⟨_, isEncoded,
          bind_eq_ok.mpr ⟨_, parts _ (by decide) _, bind_eq_ok.mpr ⟨_, parts _ (by decide) _,
          rfl⟩⟩⟩⟩, ?_, ?_⟩
        · rw [← hours]
          have same : ∀ bucket : BlockBucket,
              (bucket.add (countAt minute Tally.blocked.field)).startedAt = bucket.startedAt :=
            fun _ => rfl
          exact map_modify_of_same same _ _
        · intro measure
          cases measure with
          | blocked =>
              have isMeasured :
                  tools.isMeasured windowStart checkedAt entry.1 .blocked = true := by
                simp [LogTools.isMeasured, LogTools.isBetween, isStart, inWindow]
              rw [if_pos isMeasured]
              exact sum_map_modify (fun _ => rfl) inside
          | bucket index =>
              have isMeasured : tools.isMeasured windowStart checkedAt entry.1 (.bucket index) =
                  decide (bucketIndex windowStart startedAt = index) := by
                simp [LogTools.isMeasured, isStart, inWindow]
              simp only [isMeasured, decide_eq_true_eq]
              exact getD_modify (fun _ => rfl) inside index
      · rw [if_neg inWindow]
        refine ⟨counts, rfl, hours, ?_⟩
        intro measure
        cases measure <;> simp [LogTools.isMeasured, LogTools.isBetween, isStart, inWindow]

/-- Where the hour of the last day ends that starts at an index. -/
def hourEnd (windowStart : Int) (index : Nat) : Int :=
  windowStart + (index : Int) * 3600000000 + if index + 1 = historyWindowHours then 3600000000
    else 3599999999

/-- A minute is counted in the bucket whose hour it starts in; the last one has its end as well. -/
theorem isMeasured_bucket {index : Nat} (small : index < historyWindowHours)
    (minuteKey : String) :
    tools.isMeasured windowStart (windowStart + historyWindow) minuteKey (.bucket index) =
      tools.isBetween (windowStart + (index : Int) * 3600000000) (hourEnd windowStart index)
        minuteKey := by
  unfold LogTools.isMeasured LogTools.isBetween
  dsimp only
  cases tools.parseDatetime minuteKey with
  | none => rfl
  | some startedAt =>
      rw [Option.any_some, Option.any_some, decide_eq_decide]
      unfold bucketIndex hourEnd historyWindow historyWindowHours at *
      split <;> omega

private theorem hours_emptyBuckets (windowStart : Int) :
    (emptyBuckets windowStart).map (·.startedAt) = hourStarts windowStart := by
  rw [emptyBuckets, List.map_map]
  rfl

private theorem ofCounts_emptyBuckets (windowStart : Int) (measure : DayMeasure) :
    measure.ofCounts { buckets := emptyBuckets windowStart } = 0 := by
  cases measure with
  | blocked => rfl
  | bucket index =>
      rw [DayMeasure.ofCounts, emptyBuckets, List.getElem?_map, Option.map_map]
      cases (List.range historyWindowHours)[index]? <;> rfl

/-- The sums that `build_summary` reports. -/
structure DaySums (tools : LogTools) (state : HistoryState) (checkedAt : Int)
    (summary : DaySummary) : Prop where
  hours : summary.buckets.map (·.startedAt) = hourStarts (checkedAt - historyWindow)
  bucket : ∀ index bucket, summary.buckets[index]? = some bucket → bucket.blockedRequestCount =
    tools.windowSum state bucket.startedAt (hourEnd (checkedAt - historyWindow) index) blockedOf
  blocked : summary.blockedRequestCount =
    tools.windowSum state (checkedAt - historyWindow) checkedAt blockedOf
  buckets : (summary.buckets.map (·.blockedRequestCount)).sum = summary.blockedRequestCount

private theorem exists_buildSummary (isConserved : IsConservedHistory state) (checkedAt : Int)
    (collectionAvailable : Bool) (tailLines : Int) :
    ∃ summary, buildSummary tools state checkedAt collectionAvailable tailLines = .ok summary ∧
      DaySums tools state checkedAt summary := by
  obtain ⟨counts, isCounts, hours, added⟩ := @foldlM_adds _ _ _ _
    (addDayMinute tools (checkedAt - historyWindow) checkedAt)
    (fun counts => counts.buckets.map (·.startedAt) = hourStarts (checkedAt - historyWindow))
    (fun measure counts => DayMeasure.ofCounts counts measure)
    (fun measure entry => if tools.isMeasured (checkedAt - historyWindow) checkedAt entry.1 measure
      then blockedOf (storedMinute entry.2) else 0)
    (minutesOf state).entries { buckets := emptyBuckets (checkedAt - historyWindow) }
    (fun counts entry listed hours => exists_addDayMinute isConserved hours listed)
    (hours_emptyBuckets _)
  have lines := @intField_eq tools _ _ isConserved.lines
  refine ⟨_, bind_eq_ok.mpr ⟨counts, isCounts, bind_eq_ok.mpr ⟨_, lines, rfl⟩⟩, hours, ?_, ?_, rfl⟩
  · intro index bucket found
    have small : index < historyWindowHours := by
      have length := congrArg List.length hours
      rw [List.length_map, hourStarts, List.length_map, List.length_range] at length
      rw [← length]
      exact (List.getElem?_eq_some_iff.mp found).1
    have isStart : bucket.startedAt =
        checkedAt - historyWindow + (index : Int) * 3600000000 := by
      have start := congrArg (fun starts => starts[index]?) hours
      dsimp only at start found
      rw [List.getElem?_map, found, hourStarts, List.getElem?_map,
        List.getElem?_range small] at start
      exact Option.some.inj start
    have sum := added (.bucket index)
    rw [ofCounts_emptyBuckets, Int.zero_add] at sum
    dsimp only [DayMeasure.ofCounts] at sum found
    rw [found, Option.map_some, Option.getD_some] at sum
    rw [sum, windowSum_eq, isStart]
    have isDay : checkedAt - historyWindow + historyWindow = checkedAt := by omega
    have measured := fun key => @isMeasured_bucket tools (checkedAt - historyWindow) index small key
    rw [isDay] at measured
    simp only [measured]
  · have sum := added .blocked
    rw [ofCounts_emptyBuckets, Int.zero_add] at sum
    exact sum.trans (windowSum_eq state _ _ blockedOf).symm

end Day

section Conservation

/-- What holds of a minute as it is stored. -/
structure BlocksConserved (minute : Dict String Json) : Prop where
  form : IsMinute minute
  routers : (partOf minute "router_counts").total intValue = blockedOf minute
  methods : (partOf minute "request_methods").total intValue = blockedOf minute
  patterns : (partOf minute "encoded_patterns").total intValue = blockedOf minute
  blocked : blockedOf minute ≤ totalOf minute
  routerKeys : (partOf minute "router_counts").keys.length ≤ maxTargetKeysPerMinute + 1
  patternKeys : (partOf minute "encoded_patterns").keys.length ≤ maxPatternKeysPerMinute + 1

private theorem IsConserved.blocksConserved {minute : Dict String Json}
    (isConserved : IsConserved minute) : BlocksConserved minute where
  form := isConserved.form
  routers := isConserved.sums _ (by decide)
  methods := isConserved.sums _ (by decide)
  patterns := isConserved.sums _ (by decide)
  blocked := isConserved.blocked
  routerKeys := isConserved.routers.length_le
  patternKeys := isConserved.patterns.length_le

/-- What holds of a state: its minutes are conserved, and both summaries are sums over them. -/
structure HistoryConserved (tools : LogTools) (state : HistoryState) : Prop where
  minutes : ∀ entry ∈ (minutesOf state).entries,
    ∃ minute : Dict String Json, entry.2 = .object minute.entries ∧ BlocksConserved minute
  recent : ∀ checkedAt windowMinutes,
    ∃ summary, summarizeRecentBlocks tools state checkedAt windowMinutes = .ok summary ∧
      RecentSums tools state checkedAt windowMinutes summary ∧
      (summary.targetRouters.map Prod.snd).sum = summary.blockedRequestCount
  day : ∀ checkedAt collectionAvailable tailLines,
    ∃ summary, buildSummary tools state checkedAt collectionAvailable tailLines = .ok summary ∧
      DaySums tools state checkedAt summary

/-- In every state that merging and pruning lead to, the counts of each minute are conserved and
the summaries report their sums. -/
theorem historyConserved_of_run (tools : LogTools) {changes : List HistoryChange}
    {state : HistoryState} (run : StepRun (HistoryStep tools) newHistory changes state) :
    HistoryConserved tools state := by
  have isConserved := isConservedHistory_of_run run isConservedHistory_newHistory
  constructor
  · intro entry listed
    obtain ⟨minute, isMinute, conserved⟩ :=
      isConserved.each entry.1 entry.2 (Dict.get?_eq_some_iff.mpr listed)
    exact ⟨minute, isMinute, conserved.blocksConserved⟩
  · intro checkedAt windowMinutes
    obtain ⟨summary, isSummary, sums⟩ :=
      @exists_summarizeRecentBlocks tools _ isConserved checkedAt windowMinutes
    refine ⟨summary, isSummary, sums, ?_⟩
    rw [sums.routers, sums.blocked, windowSum_routers isConserved]
  · intro checkedAt collectionAvailable tailLines
    exact exists_buildSummary isConserved checkedAt collectionAvailable tailLines

def refusedText : String :=
  "2026-07-01T00:00:00Z 10.0.0.1 - - [01/Jul/2026:00:00:00 +0000] " ++
    "\"GET /a%2Fb HTTP/1.1\" 400 0 \"-\" \"-\" 1 \"app@docker\" \"http://10.0.0.2\" 3ms"

private theorem counts_refusedText :
    ((mergeLogEvents exampleTools newHistory refusedText midnight).bind fun state =>
      (summarizeRecentBlocks exampleTools state midnight 5).map fun summary =>
        (summary.blockedRequestCount, summary.totalRequestCount)) = .ok (1, 1) := by
  decide +kernel

theorem historyConserved_of_run_sample : ∃ state,
    StepRun (HistoryStep exampleTools) newHistory
      [.merge refusedText midnight, .observeLines 1, .prune midnight] state ∧
    HistoryConserved exampleTools state := by
  obtain ⟨merged, isMerged, -⟩ := bind_eq_ok.mp counts_refusedText
  have run : StepRun (HistoryStep exampleTools) newHistory
      [.merge refusedText midnight, .observeLines 1, .prune midnight]
      (pruneMinutes exampleTools (merged.set "last_observed_log_lines" (.int 1)) midnight) :=
    .cons isMerged (.cons rfl (.cons rfl .nil))
  exact ⟨_, run, historyConserved_of_run exampleTools run⟩

end Conservation

end TraefikManager.Monitoring
