import TraefikManager.Monitoring.EncodedPathHistory

/-!
# What merging a request does to the counts

A state that the history writes itself is always accepted by the next merge, and each request
that is merged adds one to the counts it belongs to and leaves the others alone.
-/

namespace TraefikManager.Monitoring

open Foundation

variable {tools : LogTools}

section Counts

/-- The whole number under a key; a key that is missing counts as zero. -/
def countAt (counts : Dict String Json) (key : String) : Int :=
  match counts.get? key with
  | some (.int count) => count
  | _ => 0

/-- A whole number, or nothing yet. -/
def IsCount (value : Option Json) : Prop := ∀ stored, value = some stored → ∃ count, stored = .int count

def IsCounts (counts : Dict String Json) : Prop := ∀ key, IsCount (counts.get? key)

theorem countAt_set (counts : Dict String Json) (key other : String) (count : Int) :
    countAt (counts.set key (.int count)) other =
      if other = key then count else countAt counts other := by
  unfold countAt
  rw [Dict.get?_set]
  by_cases same : other = key
  · rw [if_pos same, if_pos same]
  · rw [if_neg same, if_neg same]

theorem bump_eq {counts : Dict String Json} {key : String} (isCount : IsCount (counts.get? key)) :
    tools.bump counts key = .ok (counts.set key (.int (countAt counts key + 1))) := by
  unfold LogTools.bump countAt
  cases found : counts.get? key with
  | none => rfl
  | some stored =>
      obtain ⟨count, rfl⟩ := isCount stored found
      rfl

theorem IsCounts.set {counts : Dict String Json} (isCounts : IsCounts counts) (key : String)
    (count : Int) : IsCounts (counts.set key (.int count)) := by
  intro other stored found
  rw [Dict.get?_set] at found
  split at found
  · exact ⟨count, (Option.some.inj found).symm⟩
  · exact isCounts other stored found

theorem isCounts_empty : IsCounts ∅ := by
  intro key stored found
  cases found

theorem IsCounts.exact {counts : Dict String Json} (isCounts : IsCounts counts) :
    ExactState counts := by
  intro entry inCounts
  obtain ⟨count, isInt⟩ := isCounts entry.1 entry.2 (Dict.get?_eq_some_iff.mpr inCounts)
  rw [isInt]
  exact .int count

/-- A change that keeps whole numbers under their keys and does not fail on them. -/
def KeepsCounts (change : Dict String Json → Except PyException (Dict String Json)) : Prop :=
  ∀ counts, IsCounts counts → ∃ changed, change counts = .ok changed ∧ IsCounts changed

private theorem keepsCounts_bump (keyOf : Dict String Json → String) :
    KeepsCounts fun counts => tools.bump counts (keyOf counts) := by
  intro counts isCounts
  exact ⟨_, bump_eq (isCounts _), isCounts.set _ _⟩

private theorem keepsCounts_foldlM (keys : List String) :
    KeepsCounts fun counts => keys.foldlM tools.bump counts := by
  induction keys with
  | nil =>
      intro counts isCounts
      exact ⟨counts, rfl, isCounts⟩
  | cons key keys ih =>
      intro counts isCounts
      obtain ⟨changed, isOk, isChanged⟩ := ih _ (isCounts.set key (countAt counts key + 1))
      refine ⟨changed, ?_, isChanged⟩
      simp only [List.foldlM_cons, bump_eq (isCounts key)]
      exact isOk

/-- An object of whole numbers, or nothing yet. -/
def HoldsCounts (value : Option Json) : Prop :=
  ∀ stored, value = some stored →
    ∃ counts : Dict String Json, stored = .object counts.entries ∧ IsCounts counts

private theorem within_eq {fields : Dict String Json} {key : String}
    {change : Dict String Json → Except PyException (Dict String Json)}
    (holds : HoldsCounts (fields.get? key)) (keeps : KeepsCounts change) :
    ∃ changed, IsCounts changed ∧
      within fields key change = .ok (fields.set key (.object changed.entries)) := by
  unfold within
  cases found : fields.get? key with
  | none =>
      obtain ⟨changed, isOk, isChanged⟩ := keeps ∅ isCounts_empty
      refine ⟨changed, isChanged, ?_⟩
      have start : Dict.ofList ([] : List (String × Json)) = ∅ := rfl
      rw [Option.getD_none]
      simp only [start, isOk]
      rfl
  | some stored =>
      obtain ⟨counts, rfl, isCounts⟩ := holds stored found
      obtain ⟨changed, isOk, isChanged⟩ := keeps counts isCounts
      refine ⟨changed, isChanged, ?_⟩
      rw [Option.getD_some]
      simp only [Dict.ofList_entries, isOk]
      rfl

end Counts

section Minutes

/-- The two counts of a minute. -/
inductive Tally where
  | total
  | blocked
  deriving DecidableEq, Repr

def Tally.field : Tally → String
  | .total => "total_request_count"
  | .blocked => "blocked_request_count"

/-- Whether a request that belongs to a minute belongs to the count. -/
def Tally.applies : Tally → LogEvent → Bool
  | .total, _ => true
  | .blocked, event => !event.encodedCharacters.isEmpty

/-- Whether a request belongs to the count: requests for Traefik itself belong to none. -/
def Tally.counts (tally : Tally) (event : LogEvent) : Bool :=
  !event.isInternal && tally.applies event

def partKeys : List String :=
  ["encoded_characters", "request_methods", "encoded_patterns", "router_counts"]

/-- The form of a minute. -/
structure IsMinute (minute : Dict String Json) : Prop where
  exact : ExactState minute
  tallies : ∀ tally : Tally, IsCount (minute.get? tally.field)
  parts : ∀ key ∈ partKeys, HoldsCounts (minute.get? key)

theorem Tally.field_notMem_partKeys (tally : Tally) : tally.field ∉ partKeys := by
  cases tally <;> decide

private theorem Tally.field_injective : Function.Injective Tally.field := by
  intro first second same
  cases first <;> cases second <;> first | rfl | exact absurd same (by decide)

theorem isMinute_newMinute : IsMinute newMinute := by
  have distinct : newMinute.keys.Nodup := newMinute.distinct
  refine ⟨?_, ?_, ?_⟩
  · apply exactState_ofList
    simp only [List.forall_mem_cons, List.not_mem_nil, false_implies, implies_true, and_true]
    exact ⟨.int 0, .int 0, .object (by simp), .object (by simp), .object (by simp),
      .object (by simp), .null⟩
  · intro tally stored found
    cases tally <;> exact ⟨0, (Option.some.inj found).symm⟩
  · intro key isPart stored found
    refine ⟨∅, ?_, isCounts_empty⟩
    simp only [partKeys, List.mem_cons, List.not_mem_nil, or_false] at isPart
    rcases isPart with rfl | rfl | rfl | rfl <;> exact (Option.some.inj found).symm

theorem IsMinute.setTally {minute : Dict String Json} (isMinute : IsMinute minute) (tally : Tally)
    (count : Int) : IsMinute (minute.set tally.field (.int count)) where
  exact := isMinute.exact.set _ (.int count)
  tallies other stored found := by
    rw [Dict.get?_set] at found
    split at found
    · exact ⟨count, (Option.some.inj found).symm⟩
    · exact isMinute.tallies other stored found
  parts key isPart := by
    rw [Dict.get?_set, if_neg]
    · exact isMinute.parts key isPart
    · intro same
      exact tally.field_notMem_partKeys (same ▸ isPart)

/-- What is neither a count nor a part may change. -/
theorem IsMinute.setOther {minute : Dict String Json} (isMinute : IsMinute minute) {key : String}
    {value : Json} (exact : Json.Exact value) (noTally : ∀ tally : Tally, tally.field ≠ key)
    (noPart : key ∉ partKeys) : IsMinute (minute.set key value) where
  exact := isMinute.exact.set key exact
  tallies tally := by
    rw [Dict.get?_set, if_neg (noTally tally)]
    exact isMinute.tallies tally
  parts part isPart := by
    rw [Dict.get?_set, if_neg]
    · exact isMinute.parts part isPart
    · intro same
      exact noPart (same ▸ isPart)

private theorem IsMinute.setPart {minute counts : Dict String Json} (isMinute : IsMinute minute)
    {key : String} (isPart : key ∈ partKeys) (isCounts : IsCounts counts) :
    IsMinute (minute.set key (.object counts.entries)) where
  exact := isMinute.exact.set key (.object isCounts.exact)
  tallies tally := by
    rw [Dict.get?_set, if_neg]
    · exact isMinute.tallies tally
    · intro same
      exact tally.field_notMem_partKeys (same ▸ isPart)
  parts part otherPart := by
    intro stored found
    rw [Dict.get?_set] at found
    split at found
    · exact ⟨counts, (Option.some.inj found).symm, isCounts⟩
    · exact isMinute.parts part otherPart stored found

theorem countAt_setOther (minute : Dict String Json) {key : String} (value : Json) {tally : Tally}
    (other : tally.field ≠ key) :
    countAt (minute.set key value) tally.field = countAt minute tally.field := by
  unfold countAt
  rw [Dict.get?_set, if_neg other]

/-- A change that succeeds and adds to the counts of a minute. -/
def AddsTo (minute : Dict String Json) (change : Except PyException (Dict String Json))
    (added : Tally → Int) : Prop :=
  ∃ changed, change = .ok changed ∧ IsMinute changed ∧
    ∀ tally : Tally, countAt changed tally.field = countAt minute tally.field + added tally

theorem AddsTo.bind {minute : Dict String Json} {change : Except PyException (Dict String Json)}
    {first rest : Tally → Int} {next : Dict String Json → Except PyException (Dict String Json)}
    (adds : AddsTo minute change first)
    (later : ∀ changed, IsMinute changed → AddsTo changed (next changed) rest) :
    AddsTo minute (change >>= next) fun tally => first tally + rest tally := by
  obtain ⟨middle, rfl, isMiddle, counted⟩ := adds
  obtain ⟨changed, isOk, isMinute, countedRest⟩ := later middle isMiddle
  refine ⟨changed, isOk, isMinute, fun tally => ?_⟩
  rw [countedRest, counted, Int.add_assoc]

private theorem addsTo_tally {minute : Dict String Json} (isMinute : IsMinute minute)
    (tally : Tally) :
    AddsTo minute (tools.bump minute tally.field) fun other => if other = tally then 1 else 0 := by
  refine ⟨_, bump_eq (isMinute.tallies tally), isMinute.setTally tally _, fun other => ?_⟩
  beta_reduce
  rw [countAt_set]
  by_cases same : other = tally
  · rw [same, if_pos rfl, if_pos rfl]
  · rw [if_neg (Tally.field_injective.ne same), if_neg same, Int.add_zero]

/-- A change of one of the parts leaves the counts of the minute alone. -/
theorem addsTo_part {minute : Dict String Json} (isMinute : IsMinute minute) {key : String}
    (isPart : key ∈ partKeys) {change : Dict String Json → Except PyException (Dict String Json)}
    (keeps : KeepsCounts change) : AddsTo minute (within minute key change) fun _ => 0 := by
  obtain ⟨counts, isCounts, isOk⟩ := within_eq (isMinute.parts key isPart) keeps
  refine ⟨_, isOk, isMinute.setPart isPart isCounts, fun tally => ?_⟩
  rw [Int.add_zero]
  apply countAt_setOther
  intro same
  exact tally.field_notMem_partKeys (same ▸ isPart)

theorem addsTo_countBlock {minute : Dict String Json} (isMinute : IsMinute minute)
    (event : LogEvent) (occurredAt : Int) :
    AddsTo minute (countBlock tools minute event occurredAt)
      fun tally => if tally = .blocked then 1 else 0 := by
  have added : (fun tally : Tally => if tally = .blocked then (1 : Int) else 0) = fun tally =>
      (if tally = .blocked then 1 else 0) + (0 + (0 + (0 + (0 + 0)))) := by
    funext tally
    simp
  rw [added]
  apply (addsTo_tally isMinute .blocked).bind
  intro afterBlocked isBlocked
  apply (addsTo_part isBlocked (by decide) (keepsCounts_foldlM _)).bind
  intro afterCharacters isCharacters
  apply (addsTo_part isCharacters (by decide) (keepsCounts_bump fun _ => _)).bind
  intro afterMethods isMethods
  apply (addsTo_part isMethods (by decide) (keepsCounts_bump _)).bind
  intro afterPatterns isPatterns
  apply (addsTo_part isPatterns (by decide) (keepsCounts_bump _)).bind
  intro afterRouters isRouters
  have noTally : ∀ tally : Tally, tally.field ≠ "last_blocked_at" := by
    intro tally
    cases tally <;> decide
  refine ⟨_, rfl, isRouters.setOther (.string _) noTally (by decide), fun tally => ?_⟩
  rw [Int.add_zero]
  exact countAt_setOther _ _ (noTally tally)

theorem addsTo_countRequest {minute : Dict String Json} (isMinute : IsMinute minute)
    (event : LogEvent) (occurredAt : Int) :
    AddsTo minute (countRequest tools minute event occurredAt)
      fun tally => if tally.applies event then 1 else 0 := by
  have added : (fun tally : Tally => if tally.applies event then (1 : Int) else 0) = fun tally =>
      (if tally = .total then 1 else 0) +
        if tally = .blocked ∧ event.encodedCharacters ≠ [] then 1 else 0 := by
    funext tally
    cases tally <;> simp [Tally.applies]
  rw [added]
  apply (addsTo_tally isMinute .total).bind
  intro counted isCounted
  split
  · rename_i unblocked
    refine ⟨counted, rfl, isCounted, fun tally => ?_⟩
    simp [unblocked]
  · rename_i blocked
    have same : (fun tally : Tally => if tally = .blocked ∧ event.encodedCharacters ≠ [] then
        (1 : Int) else 0) = fun tally => if tally = .blocked then 1 else 0 := by
      funext tally
      simp [blocked]
    rw [same]
    exact addsTo_countBlock isCounted event occurredAt

end Minutes

section States

/-- The form of a state that the history writes. -/
structure IsHistory (state : HistoryState) : Prop where
  exact : ExactState state
  minutes : state.get? "minutes" = some (.object (minutesOf state).entries)
  each : ∀ key stored, (minutesOf state).get? key = some stored →
    ∃ minute : Dict String Json, stored = .object minute.entries ∧ IsMinute minute

theorem isHistory_newHistory : IsHistory newHistory := by
  refine ⟨?_, rfl, ?_⟩
  · apply exactState_ofList
    simp only [List.forall_mem_cons, List.not_mem_nil, false_implies, implies_true, and_true]
    exact ⟨.object (by simp), .array (by simp)⟩
  · intro key stored found
    cases found

/-- The count of a minute in the state; a minute without requests has no entry. -/
def storedCount (tally : Tally) (state : HistoryState) (key : String) : Int :=
  match (minutesOf state).get? key with
  | some (.object fields) => countAt (Dict.ofList fields) tally.field
  | _ => 0

variable {state : HistoryState}

theorem minutesOf_set (state : HistoryState) (minutes : Dict String Json) :
    minutesOf (state.set "minutes" (.object minutes.entries)) = minutes := by
  unfold minutesOf
  rw [Dict.get?_set, if_pos rfl]
  exact Dict.ofList_entries minutes

theorem minutesOf_setOther (state : HistoryState) {key : String} (value : Json)
    (other : key ≠ "minutes") : minutesOf (state.set key value) = minutesOf state := by
  unfold minutesOf
  rw [Dict.get?_set, if_neg (Ne.symm other)]

private theorem storedCount_setOther (tally : Tally) (state : HistoryState) {key : String}
    (value : Json) (other : key ≠ "minutes") (minute : String) :
    storedCount tally (state.set key value) minute = storedCount tally state minute := by
  unfold storedCount
  rw [minutesOf_setOther state value other]

theorem IsHistory.setOther (isHistory : IsHistory state) {key : String} {value : Json}
    (exact : Json.Exact value) (other : key ≠ "minutes") : IsHistory (state.set key value) where
  exact := isHistory.exact.set key exact
  minutes := by
    rw [minutesOf_setOther state value other, Dict.get?_set, if_neg (Ne.symm other)]
    exact isHistory.minutes
  each := by
    rw [minutesOf_setOther state value other]
    exact isHistory.each

theorem IsHistory.setMinutes (isHistory : IsHistory state) {minutes : Dict String Json}
    (each : ∀ key stored, minutes.get? key = some stored →
      ∃ minute : Dict String Json, stored = .object minute.entries ∧ IsMinute minute) :
    IsHistory (state.set "minutes" (.object minutes.entries)) where
  exact := by
    apply isHistory.exact.set
    apply Json.Exact.object
    intro entry inMinutes
    obtain ⟨minute, isObject, isMinute⟩ :=
      each entry.1 entry.2 (Dict.get?_eq_some_iff.mpr inMinutes)
    rw [isObject]
    exact .object isMinute.exact
  minutes := by
    rw [minutesOf_set, Dict.get?_set, if_pos rfl]
  each := by
    rw [minutesOf_set]
    exact each

/-- A change of the state that succeeds, adds to the counts, and leaves the cursor alone. -/
def Counts (state : HistoryState) (change : Except PyException HistoryState)
    (added : Tally → String → Int) : Prop :=
  ∃ changed, change = .ok changed ∧ IsHistory changed ∧
    (∀ tally key, storedCount tally changed key = storedCount tally state key + added tally key) ∧
    ∀ key, key ≠ "minutes" → key ≠ "request_count_observed_since" →
      changed.get? key = state.get? key

private theorem counts_self (isHistory : IsHistory state) : Counts state (.ok state) fun _ _ => 0 :=
  ⟨state, rfl, isHistory, fun _ _ => (Int.add_zero _).symm, fun _ _ _ => rfl⟩

theorem Counts.bind {change : Except PyException HistoryState} {first rest : Tally → String → Int}
    {next : HistoryState → Except PyException HistoryState} (counts : Counts state change first)
    (later : ∀ changed, IsHistory changed → Counts changed (next changed) rest) :
    Counts state (change >>= next) fun tally key => first tally key + rest tally key := by
  obtain ⟨middle, rfl, isMiddle, counted, same⟩ := counts
  obtain ⟨changed, isOk, isHistory, countedRest, sameRest⟩ := later middle isMiddle
  refine ⟨changed, isOk, isHistory, fun tally key => ?_, fun key notMinutes notSince => ?_⟩
  · rw [countedRest, counted, Int.add_assoc]
  · rw [sameRest key notMinutes notSince, same key notMinutes notSince]

/-- The minute a request belongs to: the one in the state, or a new one. -/
theorem isMinute_stored (isHistory : IsHistory state) (key : String) :
    ∃ minute : Dict String Json, IsMinute minute ∧
      ((minutesOf state).get? key).getD (.object newMinute.entries) = .object minute.entries ∧
      ∀ tally : Tally, countAt minute tally.field = storedCount tally state key := by
  unfold storedCount
  cases found : (minutesOf state).get? key with
  | none =>
      refine ⟨newMinute, isMinute_newMinute, rfl, fun tally => ?_⟩
      cases tally <;> rfl
  | some stored =>
      obtain ⟨minute, rfl, isMinute⟩ := isHistory.each key stored found
      refine ⟨minute, isMinute, rfl, fun tally => ?_⟩
      simp only [Dict.ofList_entries]

private theorem storedCount_setMinute (tally : Tally) (state : HistoryState) (key : String)
    (minute : Dict String Json) (other : String) :
    storedCount tally (state.set "minutes"
        (.object ((minutesOf state).set key (.object minute.entries)).entries)) other =
      if other = key then countAt minute tally.field else storedCount tally state other := by
  unfold storedCount
  rw [minutesOf_set, Dict.get?_set]
  by_cases same : other = key
  · rw [if_pos same, if_pos same]
    simp only [Dict.ofList_entries]
  · rw [if_neg same, if_neg same]

/-- A request that is no internal one is counted in its minute. -/
theorem exists_countRequest (isHistory : IsHistory state) (event : LogEvent) (occurredAt : Int) :
    ∃ minute minute' : Dict String Json,
      ((minutesOf state).get? (minuteKey occurredAt)).getD (.object newMinute.entries) =
        .object minute.entries ∧
      countRequest tools minute event occurredAt = .ok minute' ∧ IsMinute minute' ∧
      ∀ tally : Tally, countAt minute' tally.field =
        storedCount tally state (minuteKey occurredAt) + if tally.applies event then 1 else 0 := by
  obtain ⟨minute, isMinute, isStored, counted⟩ := isMinute_stored isHistory (minuteKey occurredAt)
  obtain ⟨minute', isOk, isMinute', added⟩ :=
    @addsTo_countRequest tools _ isMinute event occurredAt
  refine ⟨minute, minute', isStored, isOk, isMinute', fun tally => ?_⟩
  rw [added, counted]

private theorem counts_addRequestToMinute (isHistory : IsHistory state) (event : LogEvent)
    (occurredAt : Int) :
    Counts state (addRequestToMinute tools state event occurredAt) fun tally key =>
      if tally.counts event ∧ key = minuteKey occurredAt then 1 else 0 := by
  unfold addRequestToMinute Tally.counts
  cases isInternal : event.isInternal with
  | true =>
      simp only [if_true, Bool.not_true, Bool.false_and, Bool.false_eq_true, false_and, if_false]
      exact counts_self isHistory
  | false =>
      simp only [Bool.false_eq_true, if_false, Bool.not_false, Bool.true_and]
      obtain ⟨since, isSince⟩ : ∃ since : String, isoMoment (min
          ((tools.storedMoment state "request_count_observed_since").getD occurredAt) occurredAt) =
          .string since := ⟨_, rfl⟩
      rw [isSince]
      have notMinutes : "request_count_observed_since" ≠ "minutes" := by decide
      have watched := isHistory.setOther (.string since) notMinutes
      obtain ⟨minute, minute', isStored, isOk, isMinute', counted⟩ :=
        @exists_countRequest tools _ watched event occurredAt
      rw [isStored]
      simp only [Dict.ofList_entries, isOk]
      refine ⟨_, rfl, watched.setMinutes ?_, fun tally key => ?_, fun key isOther notSince => ?_⟩
      · intro key stored found
        rw [Dict.get?_set] at found
        split at found
        · exact ⟨minute', (Option.some.inj found).symm, isMinute'⟩
        · exact watched.each key stored found
      · rw [storedCount_setMinute]
        by_cases same : key = minuteKey occurredAt
        · rw [if_pos same, counted, storedCount_setOther tally state _ notMinutes, same]
          simp
        · rw [if_neg same, storedCount_setOther tally state _ notMinutes]
          simp [same]
      · rw [Dict.get?_set, if_neg isOther, Dict.get?_set, if_neg notSince]

/-- Whether the merge of a text counts a request in a minute. -/
def isMerged (cursorAt : Option Int) (fingerprints : List String) (checkedAt : Int)
    (tally : Tally) (key : String) (event : LogEvent) : Bool :=
  event.occurredAt.any fun occurredAt =>
    isNewEvent cursorAt fingerprints checkedAt event occurredAt ∧ tally.counts event ∧
      key = minuteKey occurredAt

private theorem counts_mergeEvent (isHistory : IsHistory state) (cursorAt : Option Int)
    (fingerprints : List String) (checkedAt : Int) (event : LogEvent) :
    Counts state (mergeEvent tools cursorAt fingerprints checkedAt state event) fun tally key =>
      if isMerged cursorAt fingerprints checkedAt tally key event then 1 else 0 := by
  unfold mergeEvent isMerged
  cases event.occurredAt with
  | none =>
      simp only [Option.any_none, Bool.false_eq_true, if_false]
      exact counts_self isHistory
  | some occurredAt =>
      simp only [Option.any_some, decide_eq_true_eq]
      by_cases isNew : isNewEvent cursorAt fingerprints checkedAt event occurredAt = true
      · simp only [isNew, if_true, true_and]
        exact counts_addRequestToMinute isHistory event occurredAt
      · simp only [isNew]
        exact counts_self isHistory

theorem counts_foldlM (isHistory : IsHistory state) (cursorAt : Option Int)
    (fingerprints : List String) (checkedAt : Int) (events : List LogEvent) :
    Counts state (events.foldlM (mergeEvent tools cursorAt fingerprints checkedAt) state)
      fun tally key => (events.countP (isMerged cursorAt fingerprints checkedAt tally key) : Int) := by
  induction events generalizing state with
  | nil => exact counts_self isHistory
  | cons event events ih =>
      have added : (fun tally key => ((event :: events).countP
          (isMerged cursorAt fingerprints checkedAt tally key) : Int)) = fun tally key =>
          (if isMerged cursorAt fingerprints checkedAt tally key event then 1 else 0) +
            (events.countP (isMerged cursorAt fingerprints checkedAt tally key) : Int) := by
        funext tally key
        rw [List.countP_cons, Int.natCast_add, Int.add_comm]
        split <;> rfl
      rw [added, List.foldlM_cons]
      exact (counts_mergeEvent isHistory cursorAt fingerprints checkedAt event).bind
        fun changed isChanged => ih isChanged

end States

section Moments

theorem parseDatetime_isoformat {micros : Int} (inRange : (Datetime.utc micros).InRange) :
    tools.parseDatetime (Datetime.utc micros).isoformat = some micros := by
  have read := Datetime.fromIsoformat_isoformat inRange
  have nonempty : (Datetime.utc micros).isoformat ≠ "" := by
    intro isEmpty
    rw [isEmpty] at read
    cases read
  unfold LogTools.parseDatetime
  rw [Datetime.strip_isoformat, if_neg nonempty, Datetime.spellZulu_isoformat, read]
  rfl

variable {state : HistoryState}

theorem storedMoment_of_get? {key : String} {micros : Int}
    (found : state.get? key = some (isoMoment micros)) (inRange : (Datetime.utc micros).InRange) :
    tools.storedMoment state key = some micros := by
  have read := @parseDatetime_isoformat tools _ inRange
  have nonempty : (Datetime.utc micros).isoformat ≠ "" := by
    intro isEmpty
    rw [isEmpty] at read
    cases read
  unfold LogTools.storedMoment LogTools.textOf
  rw [found, isoMoment, if_pos (by simpa [truthy] using nonempty)]
  exact read

theorem storedMoment_of_missing {key : String} (missing : state.get? key = none) :
    tools.storedMoment state key = none := by
  unfold LogTools.storedMoment LogTools.textOf
  rw [missing]
  rfl

/-- The hashes that are read back from those that are kept. -/
theorem cursorFingerprints_of_get? {fingerprints : List String}
    (found : state.get? "cursor_fingerprints" = some (fingerprintArray fingerprints)) :
    cursorFingerprints state = fingerprints.take maxCursorFingerprints := by
  unfold cursorFingerprints fingerprintArray at *
  simp only [found]
  rw [List.filterMap_map]
  exact List.filterMap_some

theorem exact_fingerprintArray (fingerprints : List String) :
    Json.Exact (fingerprintArray fingerprints) := by
  apply Json.Exact.array
  intro item inItems
  obtain ⟨fingerprint, -, rfl⟩ := List.mem_map.mp inItems
  exact .string fingerprint

end Moments

section Writing

variable {state : HistoryState}

/-- A change of the state that leaves the minutes alone. -/
def KeepsMinutes (state changed : HistoryState) : Prop :=
  IsHistory changed ∧ ∀ tally key, storedCount tally changed key = storedCount tally state key

private theorem keepsMinutes_self (isHistory : IsHistory state) : KeepsMinutes state state :=
  ⟨isHistory, fun _ _ => rfl⟩

theorem KeepsMinutes.set {changed : HistoryState} (keeps : KeepsMinutes state changed)
    {key : String} {value : Json} (exact : Json.Exact value) (other : key ≠ "minutes") :
    KeepsMinutes state (changed.set key value) := by
  refine ⟨keeps.1.setOther exact other, fun tally minute => ?_⟩
  rw [storedCount_setOther tally changed value other, keeps.2]

private theorem keepsMinutes_advanceCursor (isHistory : IsHistory state) (events : List LogEvent)
    (cursorAt : Option Int) (fingerprints : List String) (latest : Int) :
    KeepsMinutes state (advanceCursor state events cursorAt fingerprints latest) := by
  have kept := keepsMinutes_self isHistory
  unfold advanceCursor
  split
  · exact (kept.set (.string _) (by decide)).set (exact_fingerprintArray _) (by decide)
  · split
    · exact kept.set (exact_fingerprintArray _) (by decide)
    · exact kept

theorem keepsMinutes_recordBounds (isHistory : IsHistory state) (events : List LogEvent)
    (cursorAt : Option Int) (fingerprints : List String) (logTimestamps : List Int)
    (checkedAt : Int) :
    KeepsMinutes state
      (recordBounds tools state events cursorAt fingerprints logTimestamps checkedAt) := by
  unfold recordBounds
  split
  · exact (keepsMinutes_advanceCursor isHistory _ _ _ _).set (.string _) (by decide)
  · split
    · exact keepsMinutes_self isHistory
    · exact (keepsMinutes_self isHistory).set (.string _) (by decide)

theorem isHistory_pruneMinutes (isHistory : IsHistory state) (checkedAt : Int) :
    IsHistory (pruneMinutes tools state checkedAt) := by
  apply isHistory.setMinutes
  intro key stored found
  exact isHistory.each key stored (Dict.get?_of_get?_filter found)

/-- A minute of the window keeps its counts. -/
theorem storedCount_pruneMinutes (tally : Tally) (state : HistoryState) {checkedAt start : Int}
    (inRange : (Datetime.utc start).InRange) (recent : checkedAt - historyWindow ≤ start) :
    storedCount tally (pruneMinutes tools state checkedAt) (Datetime.utc start).isoformat =
      storedCount tally state (Datetime.utc start).isoformat := by
  unfold storedCount pruneMinutes
  rw [minutesOf_set, Dict.get?_filter_of_keep]
  intro value
  rw [parseDatetime_isoformat inRange]
  exact decide_eq_true recent

private theorem universalNewlines_dumpState (isHistory : IsHistory state) :
    Text.universalNewlines (dumpState state).toList = (dumpState state).toList := by
  apply Text.universalNewlines_eq_self.mpr
  intro inText
  rw [dumpState, Json.dumps, String.toList_ofList] at inText
  exact absurd (Json.printable_write (.object isHistory.exact) '\r' inText) (by decide)

private theorem utf8ByteSize_ofList_le (chars : List Char) :
    (String.ofList chars).utf8ByteSize ≤ 4 * chars.length := by
  induction chars with
  | nil => simp
  | cons c rest ih =>
      have size := c.utf8Size_le_four
      rw [String.ofList_cons, String.utf8ByteSize_append, String.utf8ByteSize_singleton,
        List.length_cons]
      omega

/-- What the history writes it reads back, while it is not too large. -/
theorem readHistoryState_of_length (isHistory : IsHistory state)
    (short : 4 * (Json.object state.entries).write.length ≤ maxHistoryBytes) :
    readHistoryState (some (dumpState state)) = .ok state := by
  have exact : Json.Exact (.object state.entries) := .object isHistory.exact
  have fits : ¬maxHistoryBytes < (dumpState state).utf8ByteSize :=
    not_lt.mpr ((utf8ByteSize_ofList_le _).trans short)
  unfold readHistoryState
  simp only [if_neg fits, universalNewlines_dumpState isHistory, String.ofList_toList]
  simp only [dumpState, Json.loads_dumps exact, Dict.ofList_entries]

/-- What the history writes it reads back, unless it has become too large. -/
theorem readHistoryState_dumpState (isHistory : IsHistory state) {read : HistoryState}
    (isOk : readHistoryState (some (dumpState state)) = .ok read) : read = state := by
  have exact : Json.Exact (.object state.entries) := .object isHistory.exact
  unfold readHistoryState at isOk
  simp only [universalNewlines_dumpState isHistory, String.ofList_toList] at isOk
  simp only [dumpState, Json.loads_dumps exact] at isOk
  split at isOk
  · cases isOk
  · exact (Except.ok.inj isOk).symm.trans (Dict.ofList_entries state)

end Writing

end TraefikManager.Monitoring
