import TraefikManager.Foundation.StepRun
import TraefikManager.Monitoring.EncodedPathCounts

/-!
# Polls of the access log

The log only grows, and each poll merges what docker shows of its end. The counts of the last
day are those of the lines that some poll has read, as long as the cursor tells the lines that
are read again from those that are read for the first time.
-/

namespace TraefikManager.Monitoring

open Foundation

section Logs

/-- A line with the time docker puts before it. -/
structure LogLine (tools : LogTools) where
  text : String
  micros : Int
  stamped : tools.timestamp text = some micros
  inRange : (Datetime.utc micros).InRange

/-- An access log: its lines in the order of their times. -/
structure AccessLog (tools : LogTools) where
  lines : List (LogLine tools)
  ordered : lines.Pairwise fun first second => first.micros ≤ second.micros

/-- A poll: which lines of the log it reads, as a text, and when. -/
structure Poll where
  start : Nat
  stop : Nat
  rawText : String
  checkedAt : Int

def Poll.covers (poll : Poll) (index : Nat) : Bool := poll.start ≤ index ∧ index < poll.stop

/-- Some poll has read the line with this index. -/
def covered (polls : List Poll) (index : Nat) : Bool := polls.any (·.covers index)

variable {tools : LogTools}

/-- The lines of a log with their indices. -/
def AccessLog.indexed (log : AccessLog tools) : List (LogLine tools × Nat) := log.lines.zipIdx

def LogLine.isEvent (line : LogLine tools) : Bool := (eventOf tools line.text).isSome

/-- The line is a request that belongs to the count of the minute that begins at `start`. -/
def LogLine.belongs (line : LogLine tools) (tally : Tally) (start : Int) : Bool :=
  (eventOf tools line.text).any fun event => tally.counts event && minuteStart line.micros = start

/-- How many requests that some poll has read belong to the count of a minute. -/
def AccessLog.coveredCount (log : AccessLog tools) (polls : List Poll) (tally : Tally)
    (start : Int) : Nat :=
  log.indexed.countP fun entry => covered polls entry.2 && entry.1.belongs tally start

/-- The history at some point: the polls so far, and the file. -/
structure PolledHistory where
  polls : List Poll
  file : Option String

/-- The count of a minute in the file; a minute without requests has no entry. -/
def PolledHistory.count (history : PolledHistory) (tally : Tally) (start : Int) : Int :=
  storedCount tally (parseState history.file) (Datetime.utc start).isoformat

/-- A poll merges the end of the log at its time, which reaches back at least to the last line
of the poll before it. -/
structure PollStep (log : AccessLog tools) (before : PolledHistory) (poll : Poll)
    (after : PolledHistory) : Prop where
  isPart : poll.start ≤ poll.stop ∧ poll.stop ≤ log.lines.length
  grows : ∀ earlier ∈ before.polls, earlier.stop ≤ poll.stop
  reachesBack : ∀ earlier ∈ before.polls.getLast?,
    earlier.start < earlier.stop → poll.start < earlier.stop
  reads : Text.splitLines poll.rawText =
    (log.indexed.filter (poll.covers ·.2)).map (·.1.text)
  notBefore : ∀ last ∈ log.indexed, poll.covers last.2 → last.2 + 1 = poll.stop →
    last.1.micros ≤ poll.checkedAt
  merges : updateEncodedPathBlockHistory tools before.file (some poll.rawText) poll.checkedAt =
    .ok after.file
  polled : after.polls = before.polls ++ [poll]

/-- The requests that were read and carry a time. -/
def AccessLog.readAt (log : AccessLog tools) (polls : List Poll) (moment : Int) :
    List (LogLine tools × Nat) :=
  log.indexed.filter fun entry =>
    covered polls entry.2 && entry.1.isEvent && entry.1.micros = moment

/-- The cursor tells the lines a poll reads again from those it reads for the first time: not too
many requests carry the time of the last line read so far, and a request that is new in the
window is not older than a line read so far and unlike the requests read so far that carry the
same time. -/
structure TellsApart (log : AccessLog tools) (polls : List Poll) (poll : Poll) : Prop where
  clock : ∀ earlier ∈ polls, earlier.checkedAt ≤ poll.checkedAt
  few : ∀ last ∈ log.indexed, covered polls last.2 →
    (∀ entry ∈ log.indexed, covered polls entry.2 → entry.1.micros ≤ last.1.micros) →
      (log.readAt polls last.1.micros).length ≤ maxCursorFingerprints
  fresh : ∀ entry ∈ log.indexed, poll.covers entry.2 → covered polls entry.2 = false →
    (∃ start, poll.checkedAt - historyWindow ≤ start ∧ entry.1.belongs .total start) →
      ∀ old ∈ log.indexed, covered polls old.2 → old.1.micros ≤ entry.1.micros ∧
        (old.1.micros = entry.1.micros → old.1.isEvent →
          tools.sha256 old.1.text ≠ tools.sha256 entry.1.text)

end Logs

section Counting

variable {tools : LogTools}

private theorem minuteStart_le (micros : Int) : minuteStart micros ≤ micros := by
  unfold minuteStart
  omega

private theorem inRange_minuteStart {micros : Int} (inRange : (Datetime.utc micros).InRange) :
    (Datetime.utc (minuteStart micros)).InRange := by
  unfold Datetime.InRange Datetime.utc minuteStart at *
  simp only at *
  unfold Iso.minDay Iso.maxDay at *
  omega

/-- The key of a minute tells when it begins. -/
theorem eq_minuteKey_iff {start micros : Int} (startInRange : (Datetime.utc start).InRange)
    (inRange : (Datetime.utc micros).InRange) :
    (Datetime.utc start).isoformat = minuteKey micros ↔ minuteStart micros = start := by
  constructor
  · intro same
    have read := Datetime.fromIsoformat_isoformat (inRange_minuteStart inRange)
    unfold minuteKey at same
    rw [← same, Datetime.fromIsoformat_isoformat startInRange] at read
    exact (congrArg Datetime.micros (Option.some.inj read)).symm
  · intro same
    rw [← same]
    rfl

/-- Two conditions that exclude each other count apart. -/
theorem countP_eq_add {α : Type} {either first second : α → Bool} {entries : List α}
    (each : ∀ entry ∈ entries,
      (either entry).toNat = (first entry).toNat + (second entry).toNat) :
    entries.countP either = entries.countP first + entries.countP second := by
  induction entries with
  | nil => rfl
  | cons entry entries ih =>
      have here := each entry List.mem_cons_self
      have later := ih fun other inEntries => each other (List.mem_cons_of_mem _ inEntries)
      rw [List.countP_cons, List.countP_cons, List.countP_cons, later]
      cases isEither : either entry <;> cases isFirst : first entry <;>
        cases isSecond : second entry <;> rw [isEither, isFirst, isSecond] at here <;> simp at here ⊢ <;> omega

end Counting

section Cursor

variable {tools : LogTools} {log : AccessLog tools} {polls : List Poll}

/-- The cursor stands at the last line that was read, with the hashes of the requests that carry
the same time, unless there are too many of them. -/
structure AtCursor (log : AccessLog tools) (polls : List Poll) (cursorAt : Option Int)
    (fingerprints : List String) : Prop where
  unread : cursorAt = none → ∀ entry ∈ log.indexed, covered polls entry.2 = false
  attained : ∀ cursor ∈ cursorAt, ∃ entry ∈ log.indexed, covered polls entry.2 ∧
    entry.1.micros = cursor
  latest : ∀ cursor ∈ cursorAt, ∀ entry ∈ log.indexed, covered polls entry.2 →
    entry.1.micros ≤ cursor
  remembered : ∀ cursor ∈ cursorAt, (log.readAt polls cursor).length ≤ maxCursorFingerprints →
    ∀ fingerprint, fingerprint ∈ fingerprints ↔
      fingerprint ∈ (log.readAt polls cursor).map fun entry => tools.sha256 entry.1.text

/-- The cursor after a text with these requests and times. -/
def nextCursor (events : List LogEvent) (logTimestamps : List Int) (cursorAt : Option Int)
    (fingerprints : List String) : Option Int × List String :=
  match logTimestamps.max? with
  | none => (cursorAt, fingerprints)
  | some latest =>
      if cursorAt.all (· < latest) then
        (some latest, (fingerprintsAt events latest).take maxCursorFingerprints)
      else if cursorAt = some latest then
        (cursorAt, ((fingerprints ++ fingerprintsAt events latest).dedup.insertionSort
          (· ≤ ·)).take maxCursorFingerprints)
      else (cursorAt, fingerprints)

/-- The lines a poll reads, with their indices. -/
def AccessLog.readBy (log : AccessLog tools) (poll : Poll) : List (LogLine tools × Nat) :=
  log.indexed.filter (poll.covers ·.2)

private theorem covered_append (polls : List Poll) (poll : Poll) (index : Nat) :
    covered (polls ++ [poll]) index = (covered polls index || poll.covers index) := by
  unfold covered
  rw [List.any_append, List.any_cons, List.any_nil, Bool.or_false]

private theorem timestamps_readBy (poll : Poll) :
    ((log.readBy poll).map (·.1.text)).filterMap tools.timestamp =
      (log.readBy poll).map (·.1.micros) := by
  rw [List.filterMap_map]
  induction log.readBy poll with
  | nil => rfl
  | cons entry entries ih =>
      rw [List.filterMap_cons, Function.comp_apply, entry.1.stamped, ih]
      rfl

/-- The hashes at a time are those of the requests that were read and carry it. -/
theorem fingerprintsAt_readBy (poll : Poll) (moment : Int) :
    fingerprintsAt (((log.readBy poll).map (·.1.text)).filterMap (eventOf tools)) moment =
      ((log.readBy poll).filter fun entry =>
        entry.1.isEvent && entry.1.micros = moment).map fun entry => tools.sha256 entry.1.text := by
  unfold fingerprintsAt
  induction log.readBy poll with
  | nil => rfl
  | cons entry entries ih =>
      rw [List.map_cons, List.filterMap_cons]
      unfold LogLine.isEvent at *
      cases isEvent : eventOf tools entry.1.text with
      | none => simpa [isEvent] using ih
      | some event =>
          obtain ⟨isHash, isTime⟩ := fingerprint_of_eventOf isEvent
          rw [entry.1.stamped] at isTime
          by_cases same : entry.1.micros = moment
          · simpa [isEvent, isTime, isHash, same] using ih
          · simpa [isEvent, isTime, same] using ih

/-- At a time no line of which was read before, the lines that were read are those of the poll. -/
theorem readAt_append_of_unread {poll : Poll} {moment : Int}
    (unread : ∀ entry ∈ log.indexed, covered polls entry.2 → entry.1.micros ≠ moment) :
    log.readAt (polls ++ [poll]) moment =
      (log.readBy poll).filter fun entry => entry.1.isEvent && entry.1.micros = moment := by
  unfold AccessLog.readAt AccessLog.readBy
  rw [List.filter_filter]
  apply List.filter_congr
  intro entry inLog
  rw [covered_append]
  by_cases before : covered polls entry.2 = true
  · simp [before, unread entry inLog before]
  · rw [Bool.not_eq_true] at before
    rw [before, Bool.false_or, Bool.and_assoc, Bool.and_comm]

/-- What is read at a time after a poll was read before or is read by it. -/
theorem mem_readAt_append {poll : Poll} {moment : Int} {entry : LogLine tools × Nat} :
    entry ∈ log.readAt (polls ++ [poll]) moment ↔ entry ∈ log.readAt polls moment ∨
      entry ∈ (log.readBy poll).filter fun entry =>
        entry.1.isEvent && entry.1.micros = moment := by
  unfold AccessLog.readAt AccessLog.readBy
  simp only [List.mem_filter, covered_append, Bool.and_eq_true, Bool.or_eq_true]
  tauto

private theorem length_readAt_le (polls : List Poll) (poll : Poll) (moment : Int) :
    (log.readAt polls moment).length ≤ (log.readAt (polls ++ [poll]) moment).length := by
  unfold AccessLog.readAt
  rw [← List.countP_eq_length_filter, ← List.countP_eq_length_filter]
  apply List.countP_mono_left
  intro entry inLog isRead
  simp only [covered_append, Bool.and_eq_true, Bool.or_eq_true] at isRead ⊢
  exact ⟨⟨.inl isRead.1.1, isRead.1.2⟩, isRead.2⟩

variable {poll : Poll} {cursorAt : Option Int} {fingerprints : List String} {latest : Int}

/-- The time of the last line of a poll. -/
structure LatestOf (log : AccessLog tools) (poll : Poll) (latest : Int) : Prop where
  attained : ∃ entry ∈ log.indexed, poll.covers entry.2 ∧ entry.1.micros = latest
  highest : ∀ entry ∈ log.indexed, poll.covers entry.2 → entry.1.micros ≤ latest

private theorem latestOf_of_max? (isMax : ((log.readBy poll).map (·.1.micros)).max? = some latest) :
    LatestOf log poll latest := by
  obtain ⟨isTime, highest⟩ := List.max?_eq_some_iff.mp isMax
  constructor
  · obtain ⟨entry, isRead, same⟩ := List.mem_map.mp isTime
    obtain ⟨inLog, covers⟩ := List.mem_filter.mp isRead
    exact ⟨entry, inLog, covers, same⟩
  · intro entry inLog covers
    exact highest _ (List.mem_map.mpr ⟨entry, List.mem_filter.mpr ⟨inLog, covers⟩, rfl⟩)

theorem AtCursor.skip (isAt : AtCursor log polls cursorAt fingerprints)
    (isEmpty : log.readBy poll = []) :
    AtCursor log (polls ++ [poll]) cursorAt fingerprints := by
  have same : ∀ entry ∈ log.indexed, covered (polls ++ [poll]) entry.2 = covered polls entry.2 := by
    intro entry inLog
    have notCovers : poll.covers entry.2 = false := by
      rw [← Bool.not_eq_true]
      intro covers
      have isRead : entry ∈ log.readBy poll := List.mem_filter.mpr ⟨inLog, covers⟩
      rw [isEmpty] at isRead
      cases isRead
    rw [covered_append, notCovers, Bool.or_false]
  have sameRead : ∀ moment, log.readAt (polls ++ [poll]) moment = log.readAt polls moment := by
    intro moment
    apply List.filter_congr
    intro entry inLog
    rw [same entry inLog]
  constructor
  · intro isNone entry inLog
    rw [same entry inLog]
    exact isAt.unread isNone entry inLog
  · intro cursor isCursor
    obtain ⟨entry, inLog, isCovered, isTime⟩ := isAt.attained cursor isCursor
    exact ⟨entry, inLog, (same entry inLog).trans isCovered, isTime⟩
  · intro cursor isCursor entry inLog isCovered
    exact isAt.latest cursor isCursor entry inLog ((same entry inLog).symm.trans isCovered)
  · intro cursor isCursor
    rw [sameRead]
    exact isAt.remembered cursor isCursor

/-- A poll that shows later lines moves the cursor. -/
theorem AtCursor.advance (isAt : AtCursor log polls cursorAt fingerprints)
    (isLatest : LatestOf log poll latest) (later : cursorAt.all (· < latest) = true) :
    AtCursor log (polls ++ [poll]) (some latest)
      ((fingerprintsAt (((log.readBy poll).map (·.1.text)).filterMap (eventOf tools)) latest).take
        maxCursorFingerprints) := by
  have earlier : ∀ entry ∈ log.indexed, covered polls entry.2 → entry.1.micros < latest := by
    intro entry inLog isCovered
    cases isCursor : cursorAt with
    | none =>
        rw [isAt.unread isCursor entry inLog] at isCovered
        cases isCovered
    | some cursor =>
        rw [isCursor, Option.all_some, decide_eq_true_eq] at later
        exact lt_of_le_of_lt (isAt.latest cursor isCursor entry inLog isCovered) later
  constructor
  · intro isNone
    cases isNone
  · intro cursor isCursor
    cases isCursor
    obtain ⟨entry, inLog, covers, isTime⟩ := isLatest.attained
    refine ⟨entry, inLog, ?_, isTime⟩
    rw [covered_append, covers, Bool.or_true]
  · intro cursor isCursor entry inLog isCovered
    cases isCursor
    rw [covered_append, Bool.or_eq_true] at isCovered
    rcases isCovered with before | covers
    · exact (earlier entry inLog before).le
    · exact isLatest.highest entry inLog covers
  · intro cursor isCursor few fingerprint
    cases isCursor
    have unread : ∀ entry ∈ log.indexed, covered polls entry.2 → entry.1.micros ≠ latest :=
      fun entry inLog isCovered => (earlier entry inLog isCovered).ne
    rw [readAt_append_of_unread unread] at few ⊢
    rw [fingerprintsAt_readBy, List.take_of_length_le (by rwa [List.length_map])]

/-- A poll that ends at the cursor adds to the hashes. -/
theorem AtCursor.extend (isAt : AtCursor log polls (some latest) fingerprints)
    (isLatest : LatestOf log poll latest) :
    AtCursor log (polls ++ [poll]) (some latest)
      (((fingerprints ++ fingerprintsAt
        (((log.readBy poll).map (·.1.text)).filterMap (eventOf tools)) latest).dedup.insertionSort
          (· ≤ ·)).take maxCursorFingerprints) := by
  constructor
  · intro isNone
    cases isNone
  · intro cursor isCursor
    obtain ⟨entry, inLog, isCovered, isTime⟩ := isAt.attained cursor isCursor
    refine ⟨entry, inLog, ?_, isTime⟩
    rw [covered_append, isCovered, Bool.true_or]
  · intro cursor isCursor entry inLog isCovered
    rw [covered_append, Bool.or_eq_true] at isCovered
    cases isCursor
    rcases isCovered with before | covers
    · exact isAt.latest latest rfl entry inLog before
    · exact isLatest.highest entry inLog covers
  · intro cursor isCursor few fingerprint
    cases isCursor
    have remembered := isAt.remembered latest rfl ((length_readAt_le polls poll latest).trans few)
    have members : ∀ text, text ∈ fingerprints ++ fingerprintsAt
        (((log.readBy poll).map (·.1.text)).filterMap (eventOf tools)) latest ↔
        text ∈ (log.readAt (polls ++ [poll]) latest).map fun entry => tools.sha256 entry.1.text := by
      intro text
      rw [List.mem_append, remembered, fingerprintsAt_readBy, List.mem_map, List.mem_map,
        List.mem_map]
      simp only [mem_readAt_append, or_and_right, exists_or]
    have short : (fingerprints ++ fingerprintsAt
        (((log.readBy poll).map (·.1.text)).filterMap (eventOf tools)) latest).dedup.length ≤
        maxCursorFingerprints := by
      have within : (fingerprints ++ fingerprintsAt
          (((log.readBy poll).map (·.1.text)).filterMap (eventOf tools)) latest).dedup ⊆
          (log.readAt (polls ++ [poll]) latest).map fun entry => tools.sha256 entry.1.text :=
        fun text inDedup => (members text).mp (List.mem_dedup.mp inDedup)
      apply ((List.nodup_dedup _).subperm within).length_le.trans
      rwa [List.length_map]
    rw [List.take_of_length_le (by rwa [List.length_insertionSort]),
      (List.perm_insertionSort _ _).mem_iff, List.mem_dedup]
    exact members fingerprint

/-- A poll that only shows earlier lines leaves the cursor. -/
theorem AtCursor.stay {cursor : Int} (isAt : AtCursor log polls (some cursor) fingerprints)
    (isLatest : LatestOf log poll latest) (earlier : latest < cursor) :
    AtCursor log (polls ++ [poll]) (some cursor) fingerprints := by
  constructor
  · intro isNone
    cases isNone
  · intro same isCursor
    obtain ⟨entry, inLog, isCovered, isTime⟩ := isAt.attained same isCursor
    refine ⟨entry, inLog, ?_, isTime⟩
    rw [covered_append, isCovered, Bool.true_or]
  · intro same isCursor entry inLog isCovered
    cases isCursor
    rw [covered_append, Bool.or_eq_true] at isCovered
    rcases isCovered with before | covers
    · exact isAt.latest cursor rfl entry inLog before
    · exact (isLatest.highest entry inLog covers).trans earlier.le
  · intro same isCursor
    cases isCursor
    have unchanged : log.readAt (polls ++ [poll]) cursor = log.readAt polls cursor := by
      apply List.filter_congr
      intro entry inLog
      cases covers : poll.covers entry.2 with
      | false => rw [covered_append, covers, Bool.or_false]
      | true =>
          have other : entry.1.micros ≠ cursor :=
            (lt_of_le_of_lt (isLatest.highest entry inLog covers) earlier).ne
          simp [other]
    rw [unchanged]
    exact isAt.remembered cursor rfl

theorem AtCursor.next (isAt : AtCursor log polls cursorAt fingerprints) (poll : Poll) :
    AtCursor log (polls ++ [poll])
      (nextCursor (((log.readBy poll).map (·.1.text)).filterMap (eventOf tools))
        ((log.readBy poll).map (·.1.micros)) cursorAt fingerprints).1
      (nextCursor (((log.readBy poll).map (·.1.text)).filterMap (eventOf tools))
        ((log.readBy poll).map (·.1.micros)) cursorAt fingerprints).2 := by
  unfold nextCursor
  cases isMax : ((log.readBy poll).map (·.1.micros)).max? with
  | none => exact isAt.skip (List.map_eq_nil_iff.mp (List.max?_eq_none_iff.mp isMax))
  | some latest =>
      have isLatest := latestOf_of_max? isMax
      dsimp only
      split
      · rename_i later
        exact isAt.advance isLatest later
      · rename_i notLater
        split
        · rename_i same
          subst same
          exact isAt.extend isLatest
        · rename_i other
          cases isCursor : cursorAt with
          | none => exact absurd (by rw [isCursor]; rfl) notLater
          | some cursor =>
              rw [isCursor] at isAt notLater other
              have earlier : latest < cursor := by
                simp only [Option.all_some, decide_eq_true_eq, Option.some.injEq] at notLater other
                omega
              exact isAt.stay isLatest earlier

end Cursor

section Merging

variable {tools : LogTools} {state : HistoryState} {cursorAt : Option Int}
  {fingerprints : List String}

/-- The cursor that stands in a state. -/
def HasCursor (tools : LogTools) (state : HistoryState) (cursorAt : Option Int)
    (fingerprints : List String) : Prop :=
  tools.storedMoment state "cursor_at" = cursorAt ∧ cursorFingerprints state = fingerprints

theorem HasCursor.congr {changed : HistoryState}
    (hasCursor : HasCursor tools state cursorAt fingerprints)
    (sameAt : changed.get? "cursor_at" = state.get? "cursor_at")
    (sameFingerprints : changed.get? "cursor_fingerprints" = state.get? "cursor_fingerprints") :
    HasCursor tools changed cursorAt fingerprints := by
  unfold HasCursor LogTools.storedMoment cursorFingerprints at *
  rw [sameAt, sameFingerprints]
  exact hasCursor

theorem HasCursor.set (hasCursor : HasCursor tools state cursorAt fingerprints) {key : String}
    (value : Json) (notAt : "cursor_at" ≠ key) (notFingerprints : "cursor_fingerprints" ≠ key) :
    HasCursor tools (state.set key value) cursorAt fingerprints := by
  apply hasCursor.congr
  · rw [Dict.get?_set, if_neg notAt]
  · rw [Dict.get?_set, if_neg notFingerprints]

private theorem hasCursor_recordBounds (hasCursor : HasCursor tools state cursorAt fingerprints)
    (events : List LogEvent) {logTimestamps : List Int} (checkedAt : Int)
    (inRange : ∀ moment ∈ logTimestamps, (Datetime.utc moment).InRange) :
    HasCursor tools
      (recordBounds tools state events cursorAt fingerprints logTimestamps checkedAt)
      (nextCursor events logTimestamps cursorAt fingerprints).1
      (nextCursor events logTimestamps cursorAt fingerprints).2 := by
  unfold recordBounds nextCursor
  cases isMax : logTimestamps.max? with
  | none =>
      dsimp only
      split
      · exact hasCursor
      · exact hasCursor.set _ (by decide) (by decide)
  | some latest =>
      obtain ⟨earliest, isMin⟩ : ∃ earliest, logTimestamps.min? = some earliest := by
        cases isMin : logTimestamps.min? with
        | none =>
            rw [List.min?_eq_none_iff.mp isMin] at isMax
            cases isMax
        | some earliest => exact ⟨earliest, rfl⟩
      rw [isMin]
      dsimp only
      have latestInRange := inRange latest (List.max?_eq_some_iff.mp isMax).1
      unfold advanceCursor
      split
      · refine HasCursor.set ⟨?_, ?_⟩ _ (by decide) (by decide)
        · apply storedMoment_of_get? _ latestInRange
          rw [Dict.get?_set, if_neg (by decide), Dict.get?_set, if_pos rfl]
        · apply cursorFingerprints_of_get?
          rw [Dict.get?_set, if_pos rfl]
      · split
        · refine HasCursor.set ⟨?_, ?_⟩ _ (by decide) (by decide)
          · rw [← hasCursor.1]
            unfold LogTools.storedMoment
            rw [Dict.get?_set, if_neg (by decide)]
          · apply cursorFingerprints_of_get?
            rw [Dict.get?_set, if_pos rfl]
        · exact hasCursor.set _ (by decide) (by decide)

/-- What an update leaves of a state that the history wrote: the counts of the requests that are
merged are added, and the cursor moves. -/
structure UpdateOf (tools : LogTools) (state : HistoryState) (rawText : String) (checkedAt : Int)
    (cursorAt : Option Int) (fingerprints : List String) (final : HistoryState) : Prop where
  history : IsHistory final
  counts : ∀ tally start, (Datetime.utc start).InRange → checkedAt - historyWindow ≤ start →
    storedCount tally final (Datetime.utc start).isoformat =
      storedCount tally state (Datetime.utc start).isoformat +
        ((Text.splitLines rawText).filterMap (eventOf tools)).countP
          (isMerged cursorAt fingerprints checkedAt tally (Datetime.utc start).isoformat)
  cursor : HasCursor tools final
    (nextCursor ((Text.splitLines rawText).filterMap (eventOf tools))
      ((Text.splitLines rawText).filterMap tools.timestamp) cursorAt fingerprints).1
    (nextCursor ((Text.splitLines rawText).filterMap (eventOf tools))
      ((Text.splitLines rawText).filterMap tools.timestamp) cursorAt fingerprints).2

private theorem updateOf_mergeLogEvents (isHistory : IsHistory state)
    (hasCursor : HasCursor tools state cursorAt fingerprints) {rawText : String} {checkedAt : Int}
    (inRange : ∀ moment ∈ (Text.splitLines rawText).filterMap tools.timestamp,
      (Datetime.utc moment).InRange) {merged : HistoryState}
    (isOk : mergeLogEvents tools state rawText checkedAt = .ok merged) (count : Int) :
    UpdateOf tools state rawText checkedAt cursorAt fingerprints
      (pruneMinutes tools (merged.set "last_observed_log_lines" (.int count)) checkedAt) := by
  unfold mergeLogEvents at isOk
  obtain ⟨events, isParsed, isOk⟩ := bind_eq_ok.mp isOk
  obtain ⟨folded, isFolded, isOk⟩ := bind_eq_ok.mp isOk
  rw [hasCursor.1, hasCursor.2] at isFolded
  obtain ⟨changed, isChanged, isChangedHistory, counted, same⟩ :=
    @counts_foldlM tools _ isHistory cursorAt fingerprints checkedAt events
  rw [isChanged] at isFolded
  cases isFolded
  cases isOk
  rw [parseAccessLogEvents_eq_ok isParsed] at counted ⊢
  rw [hasCursor.1, hasCursor.2]
  have folded := hasCursor.congr (same "cursor_at" (by decide) (by decide))
    (same "cursor_fingerprints" (by decide) (by decide))
  have bounded := @keepsMinutes_recordBounds tools _ isChangedHistory
    ((Text.splitLines rawText).filterMap (eventOf tools)) cursorAt fingerprints
    ((Text.splitLines rawText).filterMap tools.timestamp) checkedAt
  have notMinutes : "last_observed_log_lines" ≠ "minutes" := by decide
  have observed := bounded.set (.int count) notMinutes
  constructor
  · exact isHistory_pruneMinutes observed.1 checkedAt
  · intro tally start startInRange recent
    rw [storedCount_pruneMinutes tally _ startInRange recent, observed.2, counted]
  · have moved := hasCursor_recordBounds folded
      ((Text.splitLines rawText).filterMap (eventOf tools)) checkedAt inRange
    exact (moved.set _ (by decide) (by decide)).set _ (by decide) (by decide)

/-- An update of a state that the history wrote fails only where the text cannot be read. -/
theorem exists_updateOf (isHistory : IsHistory state)
    (hasCursor : HasCursor tools state cursorAt fingerprints) {file : Option String}
    (isRead : readHistoryState file = .ok state) {rawText : String} {checkedAt : Int}
    (inRange : ∀ moment ∈ (Text.splitLines rawText).filterMap tools.timestamp,
      (Datetime.utc moment).InRange) {events : List LogEvent}
    (isParsed : parseAccessLogEvents tools (some rawText) = .ok events) :
    ∃ final, updateEncodedPathBlockHistory tools file (some rawText) checkedAt =
        .ok (some (dumpState final)) ∧
      UpdateOf tools state rawText checkedAt cursorAt fingerprints final := by
  obtain ⟨folded, isFolded, -⟩ := @counts_foldlM tools _ isHistory
    (tools.storedMoment state "cursor_at") (cursorFingerprints state) checkedAt events
  obtain ⟨merged, isMerged⟩ : ∃ merged,
      mergeLogEvents tools state rawText checkedAt = .ok merged := by
    unfold mergeLogEvents
    exact ⟨_, bind_eq_ok.mpr ⟨events, isParsed, bind_eq_ok.mpr ⟨folded, isFolded, rfl⟩⟩⟩
  refine ⟨_, ?_, updateOf_mergeLogEvents isHistory hasCursor inRange isMerged
    (Text.splitLines rawText).length⟩
  unfold updateEncodedPathBlockHistory
  exact bind_eq_ok.mpr ⟨state, isRead, bind_eq_ok.mpr ⟨merged, isMerged, rfl⟩⟩

end Merging

section Polling

variable {tools : LogTools} {log : AccessLog tools} {polls : List Poll}

/-- The line is in the window and behind the cursor. -/
def LogLine.IsNew (line : LogLine tools) (cursorAt : Option Int) (fingerprints : List String)
    (checkedAt : Int) : Prop :=
  checkedAt - historyWindow ≤ line.micros ∧ line.micros ≤ checkedAt ∧ ∀ cursor ∈ cursorAt,
    cursor ≤ line.micros ∧ (line.micros = cursor → tools.sha256 line.text ∉ fingerprints)

private theorem LogLine.isMerged_iff (line : LogLine tools) (cursorAt : Option Int)
    (fingerprints : List String) (checkedAt : Int) (tally : Tally) {start : Int}
    (inRange : (Datetime.utc start).InRange) :
    (eventOf tools line.text).any
        (isMerged cursorAt fingerprints checkedAt tally (Datetime.utc start).isoformat) = true ↔
      line.IsNew cursorAt fingerprints checkedAt ∧ line.belongs tally start = true := by
  unfold LogLine.belongs LogLine.IsNew
  cases isEvent : eventOf tools line.text with
  | none => simp
  | some event =>
      obtain ⟨isHash, isTime⟩ := fingerprint_of_eventOf isEvent
      rw [line.stamped] at isTime
      unfold isMerged isNewEvent
      simp only [isTime, isHash, Option.any_some, decide_eq_true_eq, Bool.and_eq_true,
        eq_minuteKey_iff inRange line.inRange, and_assoc]
      cases cursorAt with
      | none => simp
      | some cursor =>
          have behind : (¬(line.micros < cursor ∨
              line.micros = cursor ∧ tools.sha256 line.text ∈ fingerprints)) ↔
              cursor ≤ line.micros ∧
                (line.micros = cursor → tools.sha256 line.text ∉ fingerprints) := by
            rw [not_or, not_lt, not_and]
          simp [behind]

private theorem countP_readBy (poll : Poll) (counts : LogEvent → Bool) :
    (((log.readBy poll).map (·.1.text)).filterMap (eventOf tools)).countP counts =
      log.indexed.countP fun entry =>
        (eventOf tools entry.1.text).any counts && poll.covers entry.2 := by
  unfold AccessLog.readBy
  rw [List.countP_filterMap, List.countP_map, List.countP_filter]
  apply List.countP_congr
  intro entry inLog
  simp only [Function.comp_apply]
  cases eventOf tools entry.1.text <;> simp

private theorem LogLine.belongs_total {line : LogLine tools} {tally : Tally} {start : Int}
    (belongs : line.belongs tally start = true) : line.belongs .total start = true := by
  unfold LogLine.belongs Tally.counts at *
  cases isEvent : eventOf tools line.text with
  | none =>
      rw [isEvent] at belongs
      cases belongs
  | some event =>
      rw [isEvent] at belongs
      simp only [Option.any_some, Bool.and_eq_true, Tally.applies] at belongs ⊢
      exact ⟨⟨belongs.1.1, trivial⟩, belongs.2⟩

private theorem LogLine.minuteStart_of_belongs {line : LogLine tools} {tally : Tally} {start : Int}
    (belongs : line.belongs tally start = true) :
    line.isEvent = true ∧ minuteStart line.micros = start := by
  unfold LogLine.belongs at belongs
  unfold LogLine.isEvent
  cases isEvent : eventOf tools line.text with
  | none =>
      rw [isEvent] at belongs
      cases belongs
  | some event =>
      rw [isEvent] at belongs
      simp only [Option.any_some, Bool.and_eq_true, decide_eq_true_eq] at belongs
      exact ⟨rfl, belongs.2⟩

/-- The last line of a poll is its latest. -/
theorem PollStep.le_checkedAt {poll : Poll} {before after : PolledHistory}
    (step : PollStep log before poll after) {entry : LogLine tools × Nat}
    (inLog : entry ∈ log.indexed) (covers : poll.covers entry.2 = true) :
    entry.1.micros ≤ poll.checkedAt := by
  obtain ⟨line, index⟩ := entry
  obtain ⟨inList, isLine⟩ := List.getElem?_eq_some_iff.mp (List.mem_zipIdx_iff_getElem?.mp inLog)
  obtain ⟨first, behind⟩ := of_decide_eq_true covers
  have inList' : poll.stop - 1 < log.lines.length := by
    have bound := step.isPart.2
    omega
  have lastInLog : (log.lines[poll.stop - 1], poll.stop - 1) ∈ log.indexed :=
    List.mem_zipIdx_iff_getElem?.mpr (List.getElem?_eq_getElem inList')
  have atEnd : log.lines[poll.stop - 1].micros ≤ poll.checkedAt := by
    apply step.notBefore _ lastInLog
    · exact decide_eq_true ⟨by omega, by omega⟩
    · omega
  rcases Nat.lt_or_eq_of_le (Nat.le_sub_one_of_lt behind) with earlier | same
  · have ordered := List.pairwise_iff_getElem.mp log.ordered index (poll.stop - 1) inList inList' earlier
    rw [isLine] at ordered
    exact ordered.trans atEnd
  · subst same
    rw [isLine] at atEnd
    exact atEnd

variable {cursorAt : Option Int} {fingerprints : List String}

/-- A line that is read again is not counted again. -/
theorem not_isNew_of_covered {poll : Poll} (isAt : AtCursor log polls cursorAt fingerprints)
    (apart : TellsApart log polls poll) {entry : LogLine tools × Nat} (inLog : entry ∈ log.indexed)
    (isCovered : covered polls entry.2 = true) (isEvent : entry.1.isEvent = true) :
    ¬entry.1.IsNew cursorAt fingerprints poll.checkedAt := by
  cases isCursor : cursorAt with
  | none =>
      rw [isAt.unread isCursor entry inLog] at isCovered
      cases isCovered
  | some cursor =>
      rintro ⟨-, -, behind⟩
      obtain ⟨notBefore, unlike⟩ := behind cursor rfl
      have same : entry.1.micros = cursor :=
        le_antisymm (isAt.latest cursor isCursor entry inLog isCovered) notBefore
      obtain ⟨last, lastInLog, lastCovered, isTime⟩ := isAt.attained cursor isCursor
      have few : (log.readAt polls cursor).length ≤ maxCursorFingerprints := by
        have latest := isAt.latest cursor isCursor
        rw [← isTime] at latest ⊢
        exact apart.few last lastInLog lastCovered latest
      apply unlike same
      rw [isAt.remembered cursor isCursor few, List.mem_map]
      refine ⟨entry, ?_, rfl⟩
      rw [AccessLog.readAt, List.mem_filter]
      simp [inLog, isCovered, isEvent, same]

/-- A request that is read for the first time is counted. -/
theorem isNew_of_fresh {poll : Poll} (isAt : AtCursor log polls cursorAt fingerprints)
    (apart : TellsApart log polls poll) {entry : LogLine tools × Nat} (inLog : entry ∈ log.indexed)
    (covers : poll.covers entry.2 = true) (isFresh : covered polls entry.2 = false)
    (notAfter : entry.1.micros ≤ poll.checkedAt) {tally : Tally} {start : Int}
    (recent : poll.checkedAt - historyWindow ≤ start) (belongs : entry.1.belongs tally start = true) :
    entry.1.IsNew cursorAt fingerprints poll.checkedAt := by
  have inMinute := minuteStart_le entry.1.micros
  rw [(LogLine.minuteStart_of_belongs belongs).2] at inMinute
  refine ⟨recent.trans inMinute, notAfter, fun cursor isCursor => ?_⟩
  have unlike := apart.fresh entry inLog covers isFresh
    ⟨start, recent, LogLine.belongs_total belongs⟩
  obtain ⟨last, lastInLog, lastCovered, isTime⟩ := isAt.attained cursor isCursor
  have few : (log.readAt polls cursor).length ≤ maxCursorFingerprints := by
    have latest := isAt.latest cursor isCursor
    rw [← isTime] at latest ⊢
    exact apart.few last lastInLog lastCovered latest
  constructor
  · rw [← isTime]
    exact (unlike last lastInLog lastCovered).1
  · intro same isKnown
    rw [isAt.remembered cursor isCursor few, List.mem_map] at isKnown
    obtain ⟨old, isRead, sameHash⟩ := isKnown
    rw [AccessLog.readAt, List.mem_filter] at isRead
    simp only [Bool.and_eq_true, decide_eq_true_eq] at isRead
    obtain ⟨oldInLog, ⟨oldCovered, oldEvent⟩, oldTime⟩ := isRead
    exact (unlike old oldInLog oldCovered).2 (oldTime.trans same.symm) oldEvent sameHash

/-- A state holds the counts of the lines that were read, and its cursor stands where reading
ended. -/
structure TracksLog (log : AccessLog tools) (polls : List Poll) (state : HistoryState) : Prop where
  history : IsHistory state
  counts : ∀ tally start, (Datetime.utc start).InRange →
    (∀ poll ∈ polls, poll.checkedAt - historyWindow ≤ start) →
      storedCount tally state (Datetime.utc start).isoformat = log.coveredCount polls tally start
  cursor : ∃ cursorAt fingerprints, HasCursor tools state cursorAt fingerprints ∧
    AtCursor log polls cursorAt fingerprints

/-- The requests a poll merges are those that are read for the first time. -/
theorem coveredCount_append {before after : PolledHistory} {poll : Poll}
    (step : PollStep log before poll after) (isAt : AtCursor log before.polls cursorAt fingerprints)
    (apart : TellsApart log before.polls poll) (tally : Tally) {start : Int}
    (inRange : (Datetime.utc start).InRange) (recent : poll.checkedAt - historyWindow ≤ start) :
    log.coveredCount (before.polls ++ [poll]) tally start =
      log.coveredCount before.polls tally start +
        ((Text.splitLines poll.rawText).filterMap (eventOf tools)).countP
          (isMerged cursorAt fingerprints poll.checkedAt tally (Datetime.utc start).isoformat) := by
  have isText : Text.splitLines poll.rawText = (log.readBy poll).map (·.1.text) := step.reads
  rw [isText, countP_readBy]
  unfold AccessLog.coveredCount
  apply countP_eq_add
  intro entry inLog
  have isMerged := entry.1.isMerged_iff cursorAt fingerprints poll.checkedAt tally inRange
  rw [covered_append]
  cases belongs : entry.1.belongs tally start with
  | false =>
      rw [belongs] at isMerged
      have notMerged := Bool.not_eq_true _ ▸ mt isMerged.mp (by simp)
      simp [notMerged]
  | true =>
      cases covers : poll.covers entry.2 with
      | false => simp
      | true =>
          cases isCovered : covered before.polls entry.2 with
          | true =>
              have isEvent := (LogLine.minuteStart_of_belongs belongs).1
              have notMerged := Bool.not_eq_true _ ▸ mt isMerged.mp fun both =>
                not_isNew_of_covered isAt apart inLog isCovered isEvent both.1
              simp [notMerged]
          | false =>
              have merged := isMerged.mpr ⟨isNew_of_fresh isAt apart inLog covers isCovered
                (step.le_checkedAt inLog covers) recent belongs, belongs⟩
              simp [merged]

theorem TracksLog.next {before after : PolledHistory} {poll : Poll} {state : HistoryState}
    (tracks : TracksLog log before.polls state) (isRead : readHistoryState before.file = .ok state)
    (step : PollStep log before poll after) (apart : TellsApart log before.polls poll) :
    ∃ final, after.file = some (dumpState final) ∧ TracksLog log after.polls final := by
  obtain ⟨cursorAt, fingerprints, hasCursor, isAt⟩ := tracks.cursor
  have isText : Text.splitLines poll.rawText = (log.readBy poll).map (·.1.text) := step.reads
  have isOk := step.merges
  unfold updateEncodedPathBlockHistory at isOk
  obtain ⟨read, sameRead, isOk⟩ := bind_eq_ok.mp isOk
  rw [isRead] at sameRead
  cases sameRead
  obtain ⟨merged, isMerged, isOk⟩ := bind_eq_ok.mp isOk
  have inRange : ∀ moment ∈ (Text.splitLines poll.rawText).filterMap tools.timestamp,
      (Datetime.utc moment).InRange := by
    rw [isText, timestamps_readBy]
    intro moment isTime
    obtain ⟨entry, -, rfl⟩ := List.mem_map.mp isTime
    exact entry.1.inRange
  have update := updateOf_mergeLogEvents tracks.history hasCursor inRange isMerged
    (Text.splitLines poll.rawText).length
  refine ⟨_, (Except.ok.inj isOk).symm, update.history, ?_, ?_⟩
  · intro tally start startInRange recent
    rw [step.polled] at recent ⊢
    have recentHere := recent poll (by simp)
    rw [update.counts tally start startInRange recentHere, tracks.counts tally start startInRange
      (fun earlier isEarlier => recent earlier (List.mem_append_left _ isEarlier)),
      coveredCount_append step isAt apart tally startInRange recentHere, Int.natCast_add]
  · rw [step.polled]
    refine ⟨_, _, update.cursor, ?_⟩
    rw [isText, timestamps_readBy]
    exact isAt.next poll

end Polling

section Runs

variable {tools : LogTools} {log : AccessLog tools}

/-- Before the first poll there is no file. -/
def PolledHistory.start : PolledHistory := ⟨[], none⟩

/-- A poll of the log whose new lines the cursor tells from the others. -/
def ApartStep (log : AccessLog tools) (before : PolledHistory) (poll : Poll)
    (after : PolledHistory) : Prop :=
  PollStep log before poll after ∧ TellsApart log before.polls poll

private theorem tracksLog_start {state : HistoryState}
    (isRead : readHistoryState PolledHistory.start.file = .ok state) :
    TracksLog log PolledHistory.start.polls state := by
  cases isRead
  constructor
  · exact isHistory_newHistory
  · intro tally start startInRange recent
    unfold AccessLog.coveredCount
    rw [List.countP_eq_zero.mpr (fun entry inLog => by simp [covered, PolledHistory.start])]
    rfl
  · refine ⟨none, [], ⟨storedMoment_of_missing rfl, rfl⟩, ?_⟩
    constructor
    · intro isNone entry inLog
      rfl
    · intro cursor isCursor
      cases isCursor
    · intro cursor isCursor
      cases isCursor
    · intro cursor isCursor
      cases isCursor

/-- Whatever is read of the file tracks the log. -/
def FileTracks (log : AccessLog tools) (history : PolledHistory) : Prop :=
  ∀ state, readHistoryState history.file = .ok state → TracksLog log history.polls state

theorem PollStep.tracks {before after : PolledHistory} {poll : Poll}
    (tracks : FileTracks log before) (step : ApartStep log before poll after) :
    ∃ final, after.file = some (dumpState final) ∧ TracksLog log after.polls final := by
  obtain ⟨state, isRead, -⟩ := bind_eq_ok.mp step.1.merges
  exact (tracks state isRead).next isRead step.1 step.2

private theorem PollStep.fileTracks {before after : PolledHistory} {poll : Poll}
    (tracks : FileTracks log before) (step : ApartStep log before poll after) :
    FileTracks log after := by
  obtain ⟨final, isFile, tracksFinal⟩ := PollStep.tracks tracks step
  intro state isRead
  rw [isFile] at isRead
  rw [readHistoryState_dumpState tracksFinal.history isRead]
  exact tracksFinal

private theorem polls_of_run {before final : PolledHistory} {polls : List Poll}
    (run : StepRun (ApartStep log) before polls final) : final.polls = before.polls ++ polls := by
  induction run with
  | nil => rw [List.append_nil]
  | cons first rest ih => rw [ih, first.1.polled, List.append_assoc, List.singleton_append]

/-- After any sequence of polls the file holds, for each minute of the last day, as many requests
and as many refused requests as the lines have that some poll has read. -/
theorem covered_requests_counted (log : AccessLog tools) {polls : List Poll} {last : Poll}
    {final : PolledHistory}
    (run : StepRun (ApartStep log) PolledHistory.start (polls ++ [last]) final) (tally : Tally)
    {start : Int} (inRange : (Datetime.utc start).InRange)
    (recent : last.checkedAt - historyWindow ≤ start) :
    final.count tally start = log.coveredCount (polls ++ [last]) tally start := by
  obtain ⟨before, after, earlier, step, rest⟩ := run.at_split
  cases rest
  have kept : ∀ history poll next, FileTracks log history → ApartStep log history poll next →
      FileTracks log next := fun _ _ _ tracked step => PollStep.fileTracks tracked step
  have tracks : FileTracks log before := earlier.preserves kept fun _ => tracksLog_start
  obtain ⟨state, isFile, tracked⟩ := PollStep.tracks tracks step
  have isPolls : before.polls = polls := by
    rw [polls_of_run earlier]
    rfl
  rw [step.1.polled, isPolls] at tracked
  unfold PolledHistory.count
  rw [isFile, parseState_dumpState tracked.history.exact]
  apply tracked.counts tally start inRange
  intro poll isPoll
  rcases List.mem_append.mp isPoll with isEarlier | isLast
  · rw [← isPolls] at isEarlier
    have clock := step.2.clock poll isEarlier
    omega
  · rw [List.mem_singleton.mp isLast]
    exact recent

end Runs

section TwoRequests

/-- Tools with a hash that differs for different texts. -/
def exampleTools : LogTools where
  parsedateToDatetime _ := none
  sha256 text := text
  hostname := some
  isDecimal := Text.isDigit
  isWord c := Text.isDigit c || Text.isLetter c || c = '_'
  str _ := ""
  truncate _ := .error (.valueError "no number")

def midnight : Int := 1782864000000000

def firstText : String :=
  "2026-07-01T00:00:00Z \x7b\"DownstreamStatus\":200,\"RequestPath\":\"/a\"\x7d"

def secondText : String :=
  "2026-07-01T00:00:00Z \x7b\"DownstreamStatus\":200,\"RequestPath\":\"/b\"\x7d"

/-- A line at midnight with a request that was not refused. -/
def isPlainRequest (text : String) : Bool :=
  match parseAccessLogLine exampleTools text with
  | .ok (some event) => !event.isInternal && event.encodedCharacters.isEmpty
  | _ => false

private theorem exists_event {text : String} (isPlain : isPlainRequest text = true) :
    ∃ event, parseAccessLogLine exampleTools text = .ok (some event) ∧
      event.isInternal = false ∧ event.encodedCharacters = [] := by
  unfold isPlainRequest at isPlain
  split at isPlain
  · rename_i event isParsed
    rw [Bool.and_eq_true, Bool.not_eq_true', List.isEmpty_iff] at isPlain
    exact ⟨event, isParsed, isPlain.1, isPlain.2⟩
  · cases isPlain

private theorem isPlainRequest_firstText : isPlainRequest firstText = true := by decide +kernel

private theorem isPlainRequest_secondText : isPlainRequest secondText = true := by decide +kernel

private theorem timestamp_firstText :
    exampleTools.timestamp firstText = some midnight := by decide +kernel

def firstLine : LogLine exampleTools where
  text := firstText
  micros := midnight
  stamped := timestamp_firstText
  inRange := by decide

def secondLine : LogLine exampleTools where
  text := secondText
  micros := midnight
  stamped := by decide +kernel
  inRange := by decide

/-- Two requests at the same time. -/
def differentLog : AccessLog exampleTools := ⟨[firstLine, secondLine], by simp [firstLine, secondLine]⟩

/-- The same request twice at the same time. -/
def repeatedLog : AccessLog exampleTools := ⟨[firstLine, firstLine], by simp⟩

def firstPoll : Poll := ⟨0, 1, firstText, midnight⟩

def differentPoll : Poll where
  start := 0
  stop := 2
  rawText := "2026-07-01T00:00:00Z \x7b\"DownstreamStatus\":200,\"RequestPath\":\"/a\"\x7d\n2026-07-01T00:00:00Z \x7b\"DownstreamStatus\":200,\"RequestPath\":\"/b\"\x7d"
  checkedAt := midnight

def repeatedPoll : Poll where
  start := 0
  stop := 2
  rawText := "2026-07-01T00:00:00Z \x7b\"DownstreamStatus\":200,\"RequestPath\":\"/a\"\x7d\n2026-07-01T00:00:00Z \x7b\"DownstreamStatus\":200,\"RequestPath\":\"/a\"\x7d"
  checkedAt := midnight

/-- A minute with one request. -/
def plainMinute : Dict String Json :=
  Dict.ofList [("total_request_count", .int 1), ("blocked_request_count", .int 0),
    ("encoded_characters", .object []), ("request_methods", .object []),
    ("encoded_patterns", .object []), ("router_counts", .object []), ("last_blocked_at", .null)]

/-- The state after the first poll. -/
def firstState : HistoryState :=
  Dict.ofList [("minutes", .object [(minuteKey midnight, .object plainMinute.entries)]),
    ("cursor_fingerprints", .array [.string firstText]),
    ("request_count_observed_since", isoMoment midnight), ("cursor_at", isoMoment midnight),
    ("observed_since", isoMoment midnight), ("last_observed_log_lines", .int 1)]

private theorem isoformat_midnight :
    (Datetime.utc midnight).isoformat = "2026-07-01T00:00:00+00:00" := by
  rw [Datetime.isoformat_eq]
  decide +kernel

private theorem minuteKey_midnight :
    minuteKey midnight = "2026-07-01T00:00:00+00:00" := isoformat_midnight

/-- The state with the request and without the cursor. -/
def countedState : HistoryState :=
  Dict.ofList [("minutes", .object [(minuteKey midnight, .object plainMinute.entries)]),
    ("cursor_fingerprints", .array []), ("request_count_observed_since", isoMoment midnight)]

private theorem addRequest_newHistory {event : LogEvent} (isExternal : event.isInternal = false)
    (accepted : event.encodedCharacters = []) :
    addRequestToMinute exampleTools newHistory event midnight = .ok countedState := by
  have isNewMinute : (minutesOf (newHistory.set "request_count_observed_since"
      (isoMoment midnight))).get? (minuteKey midnight) = none := rfl
  have newEntries : Dict.ofList newMinute.entries = newMinute := Dict.ofList_entries _
  have counted : countRequest exampleTools newMinute event midnight = .ok plainMinute := by
    unfold countRequest
    rw [accepted]
    rfl
  unfold addRequestToMinute
  rw [isExternal, storedMoment_of_missing rfl]
  simp only [Bool.false_eq_true, if_false, Option.getD_none, min_self, isNewMinute, newEntries,
    counted]
  rfl

private theorem splitLines_firstText : Text.splitLines firstText = [firstText] := by decide +kernel

/-- The first poll starts the file. -/
theorem update_newHistory :
    updateEncodedPathBlockHistory exampleTools none (some firstText) midnight =
      .ok (some (dumpState firstState)) := by
  obtain ⟨event, isParsed, isExternal, accepted⟩ := exists_event isPlainRequest_firstText
  obtain ⟨isHash, isTime⟩ := fingerprint_of_parse isParsed
  rw [timestamp_firstText] at isTime
  have noCursor : exampleTools.storedMoment newHistory "cursor_at" = none :=
    storedMoment_of_missing rfl
  have unwatched : exampleTools.storedMoment (advanceCursor countedState [event] none [] midnight)
      "observed_since" = none := storedMoment_of_missing rfl
  have isEvents : parseAccessLogEvents exampleTools (some firstText) = .ok [event] := by
    unfold parseAccessLogEvents
    rw [Option.map_some, Option.getD_some, splitLines_firstText, List.mapM_cons, isParsed]
    rfl
  have isTimes : [firstText].filterMap exampleTools.timestamp = [midnight] := by
    rw [List.filterMap_cons, timestamp_firstText]
    rfl
  have isFolded : [event].foldlM (mergeEvent exampleTools none [] midnight) newHistory =
      .ok countedState := by
    rw [List.foldlM_cons]
    unfold mergeEvent
    rw [isTime]
    exact bind_eq_ok.mpr ⟨countedState, addRequest_newHistory isExternal accepted, rfl⟩
  have isHashes : fingerprintsAt [event] midnight = [firstText] := by
    simp [fingerprintsAt, isTime, isHash, exampleTools]
  have isMinute : exampleTools.parseDatetime (minuteKey midnight) = some midnight :=
    parseDatetime_isoformat (by decide)
  unfold updateEncodedPathBlockHistory mergeLogEvents
  refine bind_eq_ok.mpr ⟨newHistory, rfl, bind_eq_ok.mpr ⟨_, bind_eq_ok.mpr ⟨[event], isEvents,
    bind_eq_ok.mpr ⟨countedState, ?_, rfl⟩⟩, ?_⟩⟩
  · rw [noCursor]
    exact isFolded
  · rw [noCursor, splitLines_firstText, isTimes]
    unfold recordBounds
    simp only [List.max?_singleton, List.min?_singleton]
    have noFingerprints : cursorFingerprints newHistory = [] := rfl
    rw [noFingerprints, unwatched]
    unfold advanceCursor
    simp only [Option.all_none, if_true, isHashes]
    apply congrArg fun state => Except.ok (some (dumpState state))
    have isRecent : (some midnight).any (midnight - historyWindow ≤ ·) = true := by decide
    unfold pruneMinutes Dict.filter
    have kept : [(minuteKey midnight, Json.object plainMinute.entries)].filter (fun entry =>
        (exampleTools.parseDatetime entry.1).any (midnight - historyWindow ≤ ·)) =
        [(minuteKey midnight, Json.object plainMinute.entries)] := by
      rw [List.filter_cons, isMinute, isRecent]
      rfl
    exact congrArg (fun entries => Dict.ofList [("minutes", Json.object entries),
      ("cursor_fingerprints", .array [.string firstText]),
      ("request_count_observed_since", isoMoment midnight), ("cursor_at", isoMoment midnight),
      ("observed_since", isoMoment midnight), ("last_observed_log_lines", .int 1)]) kept

private theorem isMinute_plainMinute : IsMinute plainMinute := isMinute_newMinute.setTally .total 1

private theorem isHistory_firstState : IsHistory firstState := by
  have isMinutes : minutesOf firstState =
      Dict.ofList [(minuteKey midnight, .object plainMinute.entries)] := rfl
  refine ⟨?_, rfl, ?_⟩
  · apply exactState_ofList
    simp only [List.forall_mem_cons, List.not_mem_nil, false_implies, implies_true, and_true]
    refine ⟨.object ?_, .array ?_, .string _, .string _, .string _, .int 1⟩
    · simpa using Json.Exact.object isMinute_plainMinute.exact
    · simpa using Json.Exact.string firstText
  · intro key stored found
    rw [isMinutes] at found
    have inMinutes := Dict.mem_entries_ofList (Dict.get?_eq_some_iff.mp found)
    rw [List.mem_singleton] at inMinutes
    cases inMinutes
    exact ⟨plainMinute, rfl, isMinute_plainMinute⟩

private theorem readHistoryState_firstState :
    readHistoryState (some (dumpState firstState)) = .ok firstState := by
  apply readHistoryState_of_length isHistory_firstState
  unfold firstState isoMoment
  rw [minuteKey_midnight, isoformat_midnight]
  decide +kernel

variable {second : LogLine exampleTools}
  {ordered : [firstLine, second].Pairwise fun first second => first.micros ≤ second.micros}

private theorem firstStep : PollStep ⟨[firstLine, second], ordered⟩ PolledHistory.start firstPoll
    ⟨[firstPoll], some (dumpState firstState)⟩ where
  isPart := ⟨Nat.zero_le _, by simp [firstPoll]⟩
  grows earlier isEarlier := by cases isEarlier
  reachesBack earlier isEarlier := by cases isEarlier
  reads := splitLines_firstText
  notBefore := by
    intro last inLog covers isLast
    simp only [AccessLog.indexed, List.zipIdx_cons, List.zipIdx_nil, List.mem_cons,
      List.not_mem_nil, or_false] at inLog
    rcases inLog with rfl | rfl
    · exact le_refl midnight
    · cases covers
  merges := update_newHistory
  polled := rfl

private theorem exists_secondStep (atMidnight : second.micros = midnight)
    (isPlain : isPlainRequest second.text = true) {poll : Poll} (isStart : poll.start = 0)
    (isStop : poll.stop = 2) (isTime : poll.checkedAt = midnight)
    (isText : Text.splitLines poll.rawText = [firstText, second.text]) :
    ∃ final, PollStep ⟨[firstLine, second], ordered⟩ ⟨[firstPoll], some (dumpState firstState)⟩ poll
        ⟨[firstPoll, poll], some (dumpState final)⟩ ∧
      UpdateOf exampleTools firstState poll.rawText midnight (some midnight) [firstText] final := by
  obtain ⟨event, isParsed, -, -⟩ := exists_event isPlainRequest_firstText
  obtain ⟨other, otherParsed, -, -⟩ := exists_event isPlain
  have isEvents : parseAccessLogEvents exampleTools (some poll.rawText) = .ok [event, other] := by
    unfold parseAccessLogEvents
    rw [Option.map_some, Option.getD_some, isText, List.mapM_cons, isParsed, List.mapM_cons,
      otherParsed]
    rfl
  have hasCursor : HasCursor exampleTools firstState (some midnight) [firstText] :=
    ⟨storedMoment_of_get? rfl (by decide), rfl⟩
  have inRange : ∀ moment ∈ (Text.splitLines poll.rawText).filterMap exampleTools.timestamp,
      (Datetime.utc moment).InRange := by
    intro moment isMoment
    rw [isText, List.filterMap_cons, timestamp_firstText, List.filterMap_cons, second.stamped,
      atMidnight] at isMoment
    simp only [List.filterMap_nil, List.mem_cons, List.not_mem_nil, or_false, or_self] at isMoment
    rw [isMoment]
    decide
  obtain ⟨final, isOk, update⟩ := exists_updateOf isHistory_firstState hasCursor
    readHistoryState_firstState inRange isEvents
  refine ⟨final, ?_, update⟩
  constructor
  · rw [isStart, isStop]
    exact ⟨Nat.zero_le 2, le_refl 2⟩
  · intro earlier isEarlier
    rw [List.mem_singleton.mp isEarlier, isStop]
    decide
  · intro earlier isEarlier
    cases isEarlier
    rw [isStart]
    decide
  · rw [isText]
    unfold AccessLog.indexed Poll.covers
    rw [isStart, isStop]
    rfl
  · intro last inLog covers isLast
    rw [isTime]
    simp only [AccessLog.indexed, List.zipIdx_cons, List.zipIdx_nil, List.mem_cons,
      List.not_mem_nil, or_false] at inLog
    rcases inLog with rfl | rfl
    · exact le_refl midnight
    · exact atMidnight.le
  · rw [isTime]
    exact isOk
  · rfl

private theorem splitLines_differentPoll :
    Text.splitLines differentPoll.rawText = [firstText, secondText] := by decide +kernel

private theorem splitLines_repeatedPoll :
    Text.splitLines repeatedPoll.rawText = [firstText, firstText] := by decide +kernel

private theorem belongs_firstLine : firstLine.belongs .total midnight = true := by decide +kernel

private theorem belongs_secondLine : secondLine.belongs .total midnight = true := by decide +kernel

private theorem apart_first (log : AccessLog exampleTools) : TellsApart log [] firstPoll where
  clock earlier isEarlier := by cases isEarlier
  few last inLog isCovered := by cases isCovered
  fresh entry inLog covers isFresh isCounted old oldInLog isCovered := by cases isCovered

private theorem apart_different : TellsApart differentLog [firstPoll] differentPoll where
  clock earlier isEarlier := by
    rw [List.mem_singleton.mp isEarlier]
    exact le_refl midnight
  few last inLog isCovered latest := (List.length_filter_le _ _).trans (by decide)
  fresh := by
    intro entry inLog covers isFresh isCounted old oldInLog isCovered
    simp only [differentLog, AccessLog.indexed, List.zipIdx_cons, List.zipIdx_nil, List.mem_cons,
      List.not_mem_nil, or_false] at inLog oldInLog
    rcases inLog with rfl | rfl
    · cases isFresh
    · rcases oldInLog with rfl | rfl
      · refine ⟨le_refl midnight, fun same isEvent => ?_⟩
        decide +kernel
      · cases isCovered

/-- A request that is read again beside a new one is not counted again. -/
theorem covered_requests_counted_example : ∃ final,
    StepRun (ApartStep differentLog) PolledHistory.start ([firstPoll] ++ [differentPoll]) final ∧
      final.count .total midnight = 2 := by
  obtain ⟨state, step, -⟩ := @exists_secondStep secondLine _ rfl isPlainRequest_secondText
    differentPoll rfl rfl rfl splitLines_differentPoll
  have run : StepRun (ApartStep differentLog) PolledHistory.start ([firstPoll] ++ [differentPoll])
      ⟨[firstPoll, differentPoll], some (dumpState state)⟩ :=
    .cons ⟨firstStep, apart_first differentLog⟩ (.cons ⟨step, apart_different⟩ .nil)
  have inRange : (Datetime.utc midnight).InRange := by decide
  have counted := covered_requests_counted differentLog run .total inRange (by decide)
  have isTwo : differentLog.coveredCount ([firstPoll] ++ [differentPoll]) .total midnight = 2 := by
    simp [AccessLog.coveredCount, AccessLog.indexed, differentLog, covered, Poll.covers, firstPoll,
      differentPoll, belongs_firstLine, belongs_secondLine]
  refine ⟨_, run, ?_⟩
  rw [counted, isTwo]
  rfl

private theorem repeated_not_merged :
    ([firstText, firstText].filterMap (eventOf exampleTools)).countP (isMerged (some midnight)
      [firstText] midnight .total (Datetime.utc midnight).isoformat) = 0 := by
  have inRange : (Datetime.utc midnight).InRange := by decide
  have notMerged := mt (firstLine.isMerged_iff (some midnight) [firstText] midnight .total inRange).mp
    fun both => (both.1.2.2 midnight rfl).2 rfl (List.mem_singleton.mpr rfl)
  apply List.countP_eq_zero.mpr
  intro event isEvent merged
  obtain ⟨text, isText, isEvent⟩ := List.mem_filterMap.mp isEvent
  have same : text = firstLine.text := by simpa [firstLine] using isText
  rw [same] at isEvent
  rw [isEvent] at notMerged
  exact notMerged merged

/-- A request that is like one read before at the same time is not counted. -/
theorem not_covered_requests_counted : ¬∀ (tools : LogTools) (log : AccessLog tools)
    (polls : List Poll) (last : Poll) (final : PolledHistory),
    StepRun (PollStep log) PolledHistory.start (polls ++ [last]) final → ∀ tally start,
      (Datetime.utc start).InRange → last.checkedAt - historyWindow ≤ start →
        final.count tally start = log.coveredCount (polls ++ [last]) tally start := by
  intro counts
  obtain ⟨state, step, update⟩ := @exists_secondStep firstLine _ rfl isPlainRequest_firstText
    repeatedPoll rfl rfl rfl splitLines_repeatedPoll
  have run : StepRun (PollStep repeatedLog) PolledHistory.start ([firstPoll] ++ [repeatedPoll])
      ⟨[firstPoll, repeatedPoll], some (dumpState state)⟩ := .cons firstStep (.cons step .nil)
  have counted := counts exampleTools repeatedLog _ _ _ run .total midnight (by decide) (by decide)
  have isTwo : repeatedLog.coveredCount ([firstPoll] ++ [repeatedPoll]) .total midnight = 2 := by
    simp [AccessLog.coveredCount, AccessLog.indexed, repeatedLog, covered, Poll.covers, firstPoll,
      repeatedPoll, belongs_firstLine]
  have stored := update.counts .total midnight (by decide) (by decide)
  unfold PolledHistory.count at counted
  rw [parseState_dumpState update.history.exact, isTwo, stored, splitLines_repeatedPoll,
    repeated_not_merged] at counted
  have isOne : storedCount .total firstState (minuteKey midnight) = 1 := rfl
  rw [minuteKey_midnight, ← isoformat_midnight] at isOne
  rw [isOne] at counted
  cases counted

end TwoRequests

end TraefikManager.Monitoring
