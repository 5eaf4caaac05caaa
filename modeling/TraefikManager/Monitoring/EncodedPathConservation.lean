import TraefikManager.Foundation.StepRun
import TraefikManager.Monitoring.EncodedPathCounts
import TraefikManager.Monitoring.EncodedPathSummary

/-!
# What the counts of a minute have in common

A refused request adds one to the count of its minute and, under one key each, to the counts by
router, by method and by pattern, also where the key is the one for the rest. So the three have the
same sum, in every minute of every state that merging and pruning lead to.
-/

namespace TraefikManager.Monitoring

open Foundation

variable {tools : LogTools}

section Parts

variable {minute counts : Dict String Json} {key other : String}

/-- A whole number; any other value counts as zero. -/
def intValue : Json → Int
  | .int value => value
  | _ => 0

/-- The counts that stand under a key of a minute. -/
def partOf (minute : Dict String Json) (key : String) : Dict String Json :=
  match minute.get? key with
  | some (.object counts) => Dict.ofList counts
  | _ => ∅

/-- The counts with one more under a key. -/
def bumped (counts : Dict String Json) (key : String) : Dict String Json :=
  counts.set key (.int (countAt counts key + 1))

theorem countAt_eq_getD (counts : Dict String Json) (key : String) :
    countAt counts key = ((counts.get? key).map intValue).getD 0 := by
  unfold countAt
  cases found : counts.get? key with
  | none => rfl
  | some stored => cases stored <;> rfl

private theorem total_bumped (counts : Dict String Json) (key : String) :
    (bumped counts key).total intValue = counts.total intValue + 1 := by
  rw [bumped, Dict.total_set, countAt_eq_getD, intValue]
  omega

private theorem partOf_set_self (minute counts : Dict String Json) (key : String) :
    partOf (minute.set key (.object counts.entries)) key = counts := by
  unfold partOf
  rw [Dict.get?_set, if_pos rfl]
  exact Dict.ofList_entries counts

private theorem partOf_set_other (minute : Dict String Json) {key other : String} (value : Json)
    (differs : key ≠ other) : partOf (minute.set other value) key = partOf minute key := by
  unfold partOf
  rw [Dict.get?_set, if_neg differs]

private theorem isCounts_partOf (holds : HoldsCounts (minute.get? key)) :
    IsCounts (partOf minute key) := by
  unfold partOf
  cases found : minute.get? key with
  | none => exact isCounts_empty
  | some stored =>
      obtain ⟨counts, rfl, isCounts⟩ := holds stored found
      dsimp only
      rw [Dict.ofList_entries]
      exact isCounts

/-- One more under a key of a part, where the key may depend on the keys that are there. -/
theorem within_bump (holds : HoldsCounts (minute.get? key))
    (keyOf : Dict String Json → String) :
    (within minute key fun counts => tools.bump counts (keyOf counts)) =
      .ok (minute.set key
        (.object (bumped (partOf minute key) (keyOf (partOf minute key))).entries)) := by
  have isCount := isCounts_partOf holds (keyOf (partOf minute key))
  unfold within
  unfold partOf at isCount ⊢
  cases found : minute.get? key with
  | none =>
      rw [found] at isCount
      have added := @bump_eq tools _ _ isCount
      exact congrArg (Except.map _) added
  | some stored =>
      obtain ⟨counts, rfl, -⟩ := holds stored found
      rw [found] at isCount
      have added := @bump_eq tools _ _ isCount
      exact congrArg (Except.map _) added

/-- A change below one key leaves the others alone. -/
theorem get?_of_within {changed : Dict String Json}
    {change : Dict String Json → Except PyException (Dict String Json)}
    (done : within minute key change = .ok changed) (differs : other ≠ key) :
    changed.get? other = minute.get? other := by
  unfold within at done
  split at done
  · obtain ⟨inner, -, rfl⟩ := map_eq_ok.mp done
    rw [Dict.get?_set, if_neg differs]
  · rw [Except.ok.inj done]

private theorem get?_of_bump {changed : Dict String Json}
    (done : tools.bump counts key = .ok changed)
    (differs : other ≠ key) : changed.get? other = counts.get? other := by
  obtain ⟨count, -, rfl⟩ := map_eq_ok.mp done
  rw [Dict.get?_set, if_neg differs]

/-- One more under a key of a part, in a minute that has changed elsewhere before. -/
theorem partOf_of_within {before changed : Dict String Json} {keyOf : Dict String Json → String}
    (holds : HoldsCounts (minute.get? key)) (kept : before.get? key = minute.get? key)
    (done : (within before key fun counts => tools.bump counts (keyOf counts)) = .ok changed) :
    partOf changed key = bumped (partOf minute key) (keyOf (partOf minute key)) := by
  have samePart : partOf before key = partOf minute key := by
    unfold partOf
    rw [kept]
  rw [within_bump (kept ▸ holds)] at done
  rw [← Except.ok.inj done, partOf_set_self, samePart]

end Parts

section Minutes

variable {minute changed : Dict String Json} {event : LogEvent} {occurredAt : Int}

/-- What a refused request leaves of the counts that are summed. -/
structure BlockParts (minute : Dict String Json) (event : LogEvent) (changed : Dict String Json) :
    Prop where
  methods : partOf changed "request_methods" =
    bumped (partOf minute "request_methods") event.requestMethod
  patterns : ∃ pattern, partOf changed "encoded_patterns" =
    bumped (partOf minute "encoded_patterns")
      (boundedKey maxPatternKeysPerMinute "OTHER" (partOf minute "encoded_patterns") pattern)
  routers : partOf changed "router_counts" =
    bumped (partOf minute "router_counts")
      (boundedKey maxTargetKeysPerMinute "unknown" (partOf minute "router_counts") event.routerKey)

private theorem blockParts_of_countBlock (isMinute : IsMinute minute)
    (done : countBlock tools minute event occurredAt = .ok changed) :
    BlockParts minute event changed := by
  obtain ⟨blocked, isBlocked, done⟩ := bind_eq_ok.mp done
  obtain ⟨characters, isCharacters, done⟩ := bind_eq_ok.mp done
  obtain ⟨methods, isMethods, done⟩ := bind_eq_ok.mp done
  obtain ⟨patterns, isPatterns, done⟩ := bind_eq_ok.mp done
  obtain ⟨routers, isRouters, done⟩ := bind_eq_ok.mp done
  cases done
  have kept : ∀ key, key ≠ "blocked_request_count" → key ≠ "encoded_characters" →
      characters.get? key = minute.get? key := fun key notBlocked notCharacters =>
    (get?_of_within isCharacters notCharacters).trans (get?_of_bump isBlocked notBlocked)
  constructor
  · rw [partOf_set_other _ _ (by decide)]
    have later : partOf routers "request_methods" = partOf methods "request_methods" := by
      unfold partOf
      rw [get?_of_within isRouters (by decide), get?_of_within isPatterns (by decide)]
    rw [later]
    exact partOf_of_within (isMinute.parts _ (by decide)) (kept _ (by decide) (by decide)) isMethods
  · refine ⟨Text.join "+" (event.encodedCharacters.map upper), ?_⟩
    rw [partOf_set_other _ _ (by decide)]
    have later : partOf routers "encoded_patterns" = partOf patterns "encoded_patterns" := by
      unfold partOf
      rw [get?_of_within isRouters (by decide)]
    rw [later]
    apply partOf_of_within (isMinute.parts _ (by decide)) _ isPatterns
    rw [get?_of_within isMethods (by decide), kept _ (by decide) (by decide)]
  · rw [partOf_set_other _ _ (by decide)]
    apply partOf_of_within (isMinute.parts _ (by decide)) _ isRouters
    rw [get?_of_within isPatterns (by decide), get?_of_within isMethods (by decide),
      kept _ (by decide) (by decide)]

/-- The counts of which each refused request adds to exactly one. -/
def summedKeys : List String := ["router_counts", "request_methods", "encoded_patterns"]

private theorem summedKeys_subset : summedKeys ⊆ partKeys := by decide

/-- What holds of the counts of a minute. -/
structure IsConserved (minute : Dict String Json) : Prop where
  form : IsMinute minute
  sums : ∀ key ∈ summedKeys, (partOf minute key).total intValue = countAt minute Tally.blocked.field
  blocked : countAt minute Tally.blocked.field ≤ countAt minute Tally.total.field
  routers : Dict.Spills maxTargetKeysPerMinute "unknown" (partOf minute "router_counts")
  patterns : Dict.Spills maxPatternKeysPerMinute "OTHER" (partOf minute "encoded_patterns")

private theorem isConserved_newMinute : IsConserved newMinute where
  form := isMinute_newMinute
  sums := by decide
  blocked := by decide
  routers := Dict.spills_empty
  patterns := Dict.spills_empty

private theorem countAt_setTotal (minute : Dict String Json) (total : Int) :
    countAt (minute.set Tally.total.field (.int total)) Tally.total.field = total ∧
      countAt (minute.set Tally.total.field (.int total)) Tally.blocked.field =
        countAt minute Tally.blocked.field := by
  rw [countAt_set, if_pos rfl]
  exact ⟨rfl, countAt_setOther _ _ (by decide)⟩

theorem IsConserved.setTotal (isConserved : IsConserved minute) {total : Int}
    (enough : countAt minute Tally.blocked.field ≤ total) :
    IsConserved (minute.set Tally.total.field (.int total)) := by
  obtain ⟨isTotal, sameBlocked⟩ := countAt_setTotal minute total
  have sameParts : ∀ key ∈ partKeys,
      partOf (minute.set Tally.total.field (.int total)) key = partOf minute key := by
    intro key isPart
    apply partOf_set_other
    rintro rfl
    exact Tally.total.field_notMem_partKeys isPart
  refine ⟨isConserved.form.setTally .total total, ?_, ?_, ?_, ?_⟩
  · intro key summed
    rw [sameParts key (summedKeys_subset summed), sameBlocked, isConserved.sums key summed]
  · rw [isTotal, sameBlocked]
    exact enough
  · rw [sameParts _ (by decide)]
    exact isConserved.routers
  · rw [sameParts _ (by decide)]
    exact isConserved.patterns

/-- A refused request is counted once more in each of the sums. -/
theorem isConserved_of_countBlock (isConserved : IsConserved minute)
    (below : countAt minute Tally.blocked.field < countAt minute Tally.total.field)
    (done : countBlock tools minute event occurredAt = .ok changed) : IsConserved changed := by
  obtain ⟨other, isOther, isChanged, added⟩ :=
    @addsTo_countBlock tools _ isConserved.form event occurredAt
  cases isOther.symm.trans done
  have parts := blockParts_of_countBlock isConserved.form done
  obtain ⟨pattern, isPattern⟩ := parts.patterns
  have addedBlocked : countAt changed Tally.blocked.field =
      countAt minute Tally.blocked.field + 1 := added .blocked
  have addedTotal : countAt changed Tally.total.field =
      countAt minute Tally.total.field + 0 := added .total
  refine ⟨isChanged, ?_, by omega, ?_, ?_⟩
  · intro key summed
    rw [addedBlocked]
    simp only [summedKeys, List.mem_cons, List.not_mem_nil, or_false] at summed
    obtain rfl | rfl | rfl := summed
    · rw [parts.routers, total_bumped, isConserved.sums _ (by decide)]
    · rw [parts.methods, total_bumped, isConserved.sums _ (by decide)]
    · rw [isPattern, total_bumped, isConserved.sums _ (by decide)]
  · rw [parts.routers]
    exact isConserved.routers.set _ _
  · rw [isPattern]
    exact isConserved.patterns.set _ _

/-- A request keeps what holds of its minute. -/
theorem exists_countRequest_conserved (isConserved : IsConserved minute) (event : LogEvent)
    (occurredAt : Int) :
    ∃ changed, countRequest tools minute event occurredAt = .ok changed ∧
      IsConserved changed := by
  obtain ⟨changed, isOk, -⟩ :=
    @addsTo_countRequest tools _ isConserved.form event occurredAt
  refine ⟨changed, isOk, ?_⟩
  obtain ⟨counted, isCounted, done⟩ := bind_eq_ok.mp isOk
  cases (bump_eq (isConserved.form.tallies .total)).symm.trans isCounted
  have notLess := isConserved.blocked
  have isCounted := isConserved.setTotal (Int.le_add_one notLess)
  obtain ⟨isTotal, sameBlocked⟩ :=
    countAt_setTotal minute (countAt minute Tally.total.field + 1)
  split at done
  · cases done
    exact isCounted
  · apply isConserved_of_countBlock isCounted _ done
    rw [isTotal, sameBlocked]
    omega

end Minutes

section States

variable {state next : HistoryState}

/-- What holds of the states that the history reaches: every minute is conserved. -/
structure IsConservedHistory (state : HistoryState) : Prop where
  history : IsHistory state
  each : ∀ key stored, (minutesOf state).get? key = some stored →
    ∃ minute : Dict String Json, stored = .object minute.entries ∧ IsConserved minute
  lines : IsCount (state.get? "last_observed_log_lines")

theorem IsConservedHistory.set (isConserved : IsConservedHistory state) {key : String}
    {value : Json} (exact : Json.Exact value) (notMinutes : key ≠ "minutes")
    (notLines : key ≠ "last_observed_log_lines") : IsConservedHistory (state.set key value) where
  history := isConserved.history.setOther exact notMinutes
  each := by
    rw [minutesOf_setOther state value notMinutes]
    exact isConserved.each
  lines := by
    rw [Dict.get?_set, if_neg (Ne.symm notLines)]
    exact isConserved.lines

theorem IsConservedHistory.setMinutes (isConserved : IsConservedHistory state)
    {minutes : Dict String Json}
    (each : ∀ key stored, minutes.get? key = some stored →
      ∃ minute : Dict String Json, stored = .object minute.entries ∧ IsConserved minute) :
    IsConservedHistory (state.set "minutes" (.object minutes.entries)) where
  history := by
    apply isConserved.history.setMinutes
    intro key stored found
    obtain ⟨minute, isMinute, conserved⟩ := each key stored found
    exact ⟨minute, isMinute, conserved.form⟩
  each := by
    rw [minutesOf_set]
    exact each
  lines := by
    rw [Dict.get?_set, if_neg (by decide)]
    exact isConserved.lines

theorem isConservedHistory_newHistory : IsConservedHistory newHistory :=
  ⟨isHistory_newHistory, nofun, nofun⟩

/-- The minute that a request belongs to: the one in the state, or a new one. -/
theorem exists_storedMinute (isConserved : IsConservedHistory state) (key : String) :
    ∃ minute : Dict String Json, IsConserved minute ∧
      ((minutesOf state).get? key).getD (.object newMinute.entries) = .object minute.entries := by
  cases found : (minutesOf state).get? key with
  | none => exact ⟨newMinute, isConserved_newMinute, rfl⟩
  | some stored =>
      obtain ⟨minute, rfl, conserved⟩ := isConserved.each key stored found
      exact ⟨minute, conserved, rfl⟩

/-- A request that is merged keeps what holds of the minutes. -/
theorem exists_addRequestToMinute (isConserved : IsConservedHistory state) (event : LogEvent)
    (occurredAt : Int) :
    ∃ next, addRequestToMinute tools state event occurredAt = .ok next ∧
      IsConservedHistory next := by
  unfold addRequestToMinute
  cases isInternal : event.isInternal with
  | true => exact ⟨state, rfl, isConserved⟩
  | false =>
      have watched := fun since => isConserved.set (.string since)
        (by decide : "request_count_observed_since" ≠ "minutes") (by decide)
      obtain ⟨since, isSince⟩ : ∃ since : String, isoMoment (min
          ((tools.storedMoment state "request_count_observed_since").getD occurredAt) occurredAt) =
          .string since := ⟨_, rfl⟩
      rw [if_neg Bool.false_ne_true]
      dsimp only
      rw [isSince]
      obtain ⟨minute, conserved, isStored⟩ :=
        exists_storedMinute (watched since) (minuteKey occurredAt)
      obtain ⟨changed, isOk, isChanged⟩ :=
        @exists_countRequest_conserved tools _ conserved event occurredAt
      simp only [isStored, Dict.ofList_entries, isOk]
      refine ⟨_, rfl, (watched since).setMinutes ?_⟩
      intro key stored found
      rw [Dict.get?_set] at found
      split at found
      · exact ⟨changed, (Option.some.inj found).symm, isChanged⟩
      · exact (watched since).each key stored found

/-- What every merge of a text does to the minutes, it does through single requests. -/
theorem exists_foldlM_mergeEvent (isConserved : IsConservedHistory state)
    (cursorAt : Option Int) (fingerprints : List String) (checkedAt : Int)
    (events : List LogEvent) :
    ∃ next, events.foldlM (mergeEvent tools cursorAt fingerprints checkedAt) state = .ok next ∧
      IsConservedHistory next := by
  induction events generalizing state with
  | nil => exact ⟨state, rfl, isConserved⟩
  | cons event events ih =>
      have merged : ∃ next, mergeEvent tools cursorAt fingerprints checkedAt state event =
          .ok next ∧ IsConservedHistory next := by
        unfold mergeEvent
        split
        · exact ⟨state, rfl, isConserved⟩
        · split
          · exact exists_addRequestToMinute isConserved event _
          · exact ⟨state, rfl, isConserved⟩
      obtain ⟨next, isNext, isConservedNext⟩ := merged
      rw [List.foldlM_cons, isNext]
      exact ih isConservedNext

private theorem isConservedHistory_recordBounds (isConserved : IsConservedHistory state)
    (events : List LogEvent) (cursorAt : Option Int) (fingerprints : List String)
    (logTimestamps : List Int) (checkedAt : Int) :
    IsConservedHistory
      (recordBounds tools state events cursorAt fingerprints logTimestamps checkedAt) := by
  have advanced : ∀ latest, IsConservedHistory
      (advanceCursor state events cursorAt fingerprints latest) := by
    intro latest
    unfold advanceCursor
    split
    · apply (isConserved.set (.string _) (by decide) (by decide)).set _ (by decide) (by decide)
      exact exact_fingerprintArray _
    · split
      · exact isConserved.set (exact_fingerprintArray _) (by decide) (by decide)
      · exact isConserved
  unfold recordBounds
  split
  · exact (advanced _).set (.string _) (by decide) (by decide)
  · split
    · exact isConserved
    · exact isConserved.set (.string _) (by decide) (by decide)

private theorem isConservedHistory_mergeLogEvents (isConserved : IsConservedHistory state)
    {rawText : String} {checkedAt : Int}
    (merged : mergeLogEvents tools state rawText checkedAt = .ok next) :
    IsConservedHistory next := by
  obtain ⟨events, -, merged⟩ := bind_eq_ok.mp merged
  obtain ⟨folded, isFolded, merged⟩ := bind_eq_ok.mp merged
  obtain ⟨other, isOther, isConservedOther⟩ := @exists_foldlM_mergeEvent tools _ isConserved
    (tools.storedMoment state "cursor_at") (cursorFingerprints state) checkedAt events
  cases isOther.symm.trans isFolded
  cases merged
  exact isConservedHistory_recordBounds isConservedOther _ _ _ _ _

private theorem isConservedHistory_pruneMinutes (isConserved : IsConservedHistory state)
    (checkedAt : Int) : IsConservedHistory (pruneMinutes tools state checkedAt) := by
  apply isConserved.setMinutes
  intro key stored found
  exact isConserved.each key stored (Dict.get?_of_get?_filter found)

/-- The number of lines of the last text is kept for the summary. -/
theorem isConservedHistory_lines (isConserved : IsConservedHistory state) (count : Int) :
    IsConservedHistory (state.set "last_observed_log_lines" (.int count)) where
  history := isConserved.history.setOther (.int count) (by decide)
  each := by
    rw [minutesOf_setOther state _ (by decide)]
    exact isConserved.each
  lines := by
    intro stored found
    rw [Dict.get?_set, if_pos rfl] at found
    exact ⟨count, (Option.some.inj found).symm⟩

end States

section Runs

variable {state final : HistoryState}

/-- What `update_encoded_path_block_history` does to a state, part by part. -/
inductive HistoryChange where
  | merge (rawText : String) (checkedAt : Int)
  | observeLines (count : Int)
  | prune (checkedAt : Int)

/-- One change of the state. A merge that fails leaves none. -/
def HistoryStep (tools : LogTools) (state : HistoryState) :
    HistoryChange → HistoryState → Prop
  | .merge rawText checkedAt, next => mergeLogEvents tools state rawText checkedAt = .ok next
  | .observeLines count, next => next = state.set "last_observed_log_lines" (.int count)
  | .prune checkedAt, next => next = pruneMinutes tools state checkedAt

theorem isConservedHistory_of_run {changes : List HistoryChange}
    (run : StepRun (HistoryStep tools) state changes final)
    (isConserved : IsConservedHistory state) : IsConservedHistory final := by
  apply run.preserves _ isConserved
  intro before change after isConserved step
  cases change with
  | merge rawText checkedAt => exact isConservedHistory_mergeLogEvents isConserved step
  | observeLines count =>
      cases step
      exact isConservedHistory_lines isConserved count
  | prune checkedAt =>
      cases step
      exact isConservedHistory_pruneMinutes isConserved checkedAt

/-- An update of the file is a run of such changes, from the state that it reads to the one that it
writes. -/
theorem historyRun_of_update {file rawText : Option String} {checkedAt : Int} {content : String}
    (isRead : readHistoryState file = .ok state)
    (updated : updateEncodedPathBlockHistory tools file rawText checkedAt = .ok (some content)) :
    ∃ changes final, StepRun (HistoryStep tools) state changes final ∧ content = dumpState final := by
  unfold updateEncodedPathBlockHistory at updated
  obtain ⟨read, sameRead, updated⟩ := bind_eq_ok.mp updated
  cases isRead.symm.trans sameRead
  cases rawText with
  | none =>
      dsimp only at updated
      split at updated
      · cases updated
      · cases updated
        exact ⟨[.prune checkedAt], _, .cons rfl .nil, rfl⟩
  | some text =>
      obtain ⟨merged, isMerged, updated⟩ := bind_eq_ok.mp updated
      cases updated
      exact ⟨[.merge text checkedAt, .observeLines _, .prune checkedAt], _,
        .cons isMerged (.cons rfl (.cons rfl .nil)), rfl⟩

end Runs

end TraefikManager.Monitoring
