import Mathlib.Algebra.Order.BigOperators.Group.List
import Mathlib.Data.List.ReduceOption
import TraefikManager.Deployments.BottleneckEvents
import TraefikManager.Foundation.Collect

/-!
# The clean-up of the bottleneck events

What the clean-up writes is read back as the events it kept, unless a text of one of them holds a
character at which the reader breaks a line and which the writer does not escape, or a surrogate
that is alone and cannot be written, or the file grows beyond what the reader takes.
-/

namespace TraefikManager.Deployments

open Foundation

section Codec

variable {event : BottleneckEvent}

/-- The deliveries that there are: none, one by Anubis, or one by a run on GitHub. -/
inductive IsDelivery : Option String → Option String → Prop where
  | none : IsDelivery none none
  | anubis : IsDelivery (some "anubis") none
  | github {runUrl : String} (nonempty : runUrl ≠ "") (isRun : isActionsRunUrl runUrl = true) :
      IsDelivery (some "github") (some runUrl)

/-- What `normalize_event` returns. -/
structure IsEvent (event : BottleneckEvent) : Prop where
  name : event.event ∈ alertEvents
  dated : isoDatetime (some event.occurredAt) = .ok (some event.occurredAt)
  threshold : 1000 ≤ event.thresholdMs ∧ event.thresholdMs ≤ 900000
  required : 1 ≤ event.requiredConsecutiveCount ∧ event.requiredConsecutiveCount ≤ 20
  current : 0 ≤ event.currentConsecutiveCount ∧ event.currentConsecutiveCount ≤ 10000
  slowest : 0 ≤ event.slowestMs ∧ event.slowestMs ≤ 24 * 60 * 60 * 1000
  version : ∀ version ∈ event.latestVersion,
    version ≠ "" ∧ (version.length ≤ 100 && !Text.containsChar '\x00' version) = true
  stage : ∀ stage ∈ event.slowestStage, stage ≠ "" ∧ stage ∈ deploymentStages
  delivery : IsDelivery event.alertChannel event.runUrl

private theorem boundedInt_bounds {default minimum maximum : Int} (value : Option Json)
    (inBounds : minimum ≤ default ∧ default ≤ maximum) :
    minimum ≤ boundedInt value default minimum maximum ∧
      boundedInt value default minimum maximum ≤ maximum := by
  unfold boundedInt
  dsimp only
  split
  · split
    · assumption
    · exact inBounds
  · exact inBounds

private theorem boundedInt_int {number default minimum maximum : Int}
    (inBounds : minimum ≤ number ∧ number ≤ maximum) :
    boundedInt (some (.int number)) default minimum maximum = number :=
  if_pos inBounds

/-- A text that is kept is read back. -/
theorem filter_nonemptyText {text : Option String} {valid : String → Bool}
    (each : ∀ value ∈ text, value ≠ "" ∧ valid value = true) :
    (nonemptyText (some (Json.ofOption text))).filter valid = text := by
  cases text with
  | none => rfl
  | some value =>
      obtain ⟨nonempty, isValid⟩ := each value rfl
      simp [nonemptyText, Json.ofOption, stringOf?, nonempty, isValid]

private theorem ne_of_mem_nonemptyText {value : Option Json} {text : String}
    (isText : text ∈ nonemptyText value) : text ≠ "" := by
  rw [nonemptyText, Option.mem_def, Option.filter_eq_some_iff] at isText
  exact of_decide_eq_true isText.2

/-- The delivery for a run that was accepted. -/
theorem isDelivery_of_channel {url channel runUrl : Option String}
    (isUrl : ∀ text ∈ url, text ≠ "" ∧ isActionsRunUrl text = true)
    {name : Option String}
    (isName : name = url.map (fun _ => "github") ∨ ∃ text ∈ alertChannels, name = some text)
    (isDelivery : (if name = some "github" ∧ url = none then none
      else if name = some "anubis" ∧ url ≠ none then none
      else some (name, url)) = some (channel, runUrl)) : IsDelivery channel runUrl := by
  split at isDelivery
  · cases isDelivery
  rename_i notBare
  split at isDelivery
  · cases isDelivery
  rename_i notRun
  cases isDelivery
  cases url with
  | none =>
      obtain rfl | ⟨text, listed, rfl⟩ := isName
      · exact .none
      · simp only [alertChannels, List.mem_cons, List.not_mem_nil, or_false] at listed
        obtain rfl | rfl := listed
        · exact .anubis
        · exact absurd ⟨rfl, rfl⟩ notBare
  | some text =>
      obtain ⟨nonempty, isRun⟩ := isUrl text rfl
      obtain rfl | ⟨text, listed, rfl⟩ := isName
      · exact .github nonempty isRun
      · simp only [alertChannels, List.mem_cons, List.not_mem_nil, or_false] at listed
        obtain rfl | rfl := listed
        · exact absurd ⟨rfl, nofun⟩ notRun
        · exact .github nonempty isRun

/-- What the rest of the check makes of a URL that is missing or that of a run. -/
theorem isDelivery_of_url {rawChannel : Option Json} {url channel runUrl : Option String}
    (isUrl : ∀ text ∈ url, text ≠ "" ∧ isActionsRunUrl text = true)
    (isDelivery : (do
      let channel ← match rawChannel with
        | none | some .null => some (url.map fun _ => "github")
        | some (.string channel) =>
            if channel = "" then some (url.map fun _ => "github")
            else if channel ∈ alertChannels then some (some channel)
            else none
        | some _ => none
      if channel = some "github" ∧ url = none then none
      else if channel = some "anubis" ∧ url ≠ none then none
      else some (channel, url)) = some (channel, runUrl)) :
    IsDelivery channel runUrl := by
  split at isDelivery
  · exact isDelivery_of_channel isUrl (.inl rfl) isDelivery
  · exact isDelivery_of_channel isUrl (.inl rfl) isDelivery
  · split at isDelivery
    · exact isDelivery_of_channel isUrl (.inl rfl) isDelivery
    · split at isDelivery
      · exact isDelivery_of_channel isUrl (.inr ⟨_, ‹_›, rfl⟩) isDelivery
      · cases isDelivery
  · cases isDelivery

private theorem isDelivery_of_normalizeAlertDelivery {rawChannel rawRunUrl : Option Json}
    {channel runUrl : Option String}
    (isDelivery : normalizeAlertDelivery rawChannel rawRunUrl = some (channel, runUrl)) :
    IsDelivery channel runUrl := by
  have absent : ∀ text ∈ (none : Option String), text ≠ "" ∧ isActionsRunUrl text = true := by
    simp
  unfold normalizeAlertDelivery at isDelivery
  cases rawRunUrl with
  | none => exact isDelivery_of_url absent isDelivery
  | some raw =>
      cases raw with
      | null => exact isDelivery_of_url absent isDelivery
      | string url =>
          by_cases empty : url = ""
          · rw [empty] at isDelivery
            exact isDelivery_of_url absent isDelivery
          · by_cases isRun : isActionsRunUrl url = true
            · dsimp only at isDelivery
              rw [if_neg empty, if_pos isRun] at isDelivery
              have given : ∀ text ∈ some url, text ≠ "" ∧ isActionsRunUrl text = true := by
                simp [empty, isRun]
              exact isDelivery_of_url given isDelivery
            · dsimp only at isDelivery
              rw [if_neg empty, if_neg isRun] at isDelivery
              cases isDelivery
      | _ => cases isDelivery

/-- A delivery is normalized to itself. -/
theorem normalizeAlertDelivery_ofOption {channel runUrl : Option String}
    (isDelivery : IsDelivery channel runUrl) :
    normalizeAlertDelivery (some (Json.ofOption channel)) (some (Json.ofOption runUrl)) =
      some (channel, runUrl) := by
  cases isDelivery with
  | none => decide
  | anubis => decide
  | github nonempty isRun =>
      unfold normalizeAlertDelivery
      simp [Json.ofOption, nonempty, isRun, alertChannels]

private theorem isoDatetime_eq_some {value : Option String} {text : String}
    (isDate : isoDatetime value = .ok (some text)) : value = some text := by
  obtain ⟨parsed, -, isText⟩ := map_eq_ok.mp isDate
  split at isText
  · exact isText
  · cases isText

/-- What is normalized has the form that is normalized to itself. -/
theorem isEvent_of_normalizeEvent {value : Json}
    (isNormal : normalizeEvent value = .ok (some event)) : IsEvent event := by
  cases value with
  | object fields =>
      rw [normalizeEvent] at isNormal
      split at isNormal
      · cases isNormal
      · split at isNormal
        · cases isNormal
        · rename_i known
          obtain ⟨occurredAt, isDate, isNormal⟩ := bind_eq_ok.mp isNormal
          split at isNormal
          · cases isNormal
          · rename_i text
            cases isNormal
            constructor
            · exact not_not.mp known
            · rw [isoDatetime_eq_some isDate] at isDate
              exact isDate
            · exact boundedInt_bounds _ (by decide)
            · exact boundedInt_bounds _ (by decide)
            · exact boundedInt_bounds _ (by decide)
            · exact boundedInt_bounds _ (by decide)
            · intro version isVersion
              obtain ⟨isText, short⟩ := Option.filter_eq_some_iff.mp isVersion
              exact ⟨ne_of_mem_nonemptyText isText, short⟩
            · intro stage isStage
              obtain ⟨isText, known⟩ := Option.filter_eq_some_iff.mp isStage
              exact ⟨ne_of_mem_nonemptyText isText, of_decide_eq_true known⟩
            · cases sent : normalizeAlertDelivery (Json.get? fields "alert_channel")
                (Json.get? fields "run_url") with
              | none => exact .none
              | some delivery => exact isDelivery_of_normalizeAlertDelivery sent
  | _ => cases isNormal

private theorem normalizeEvent_toJson (isEvent : IsEvent event)
    (encodable : event.loneSurrogate = false) : normalizeEvent event.toJson = .ok (some event) := by
  have delivery : (normalizeAlertDelivery (some (Json.ofOption event.alertChannel))
      (some (Json.ofOption event.runUrl))).getD (none, none) =
        (event.alertChannel, event.runUrl) := by
    rw [normalizeAlertDelivery_ofOption isEvent.delivery]
    rfl
  have version := filter_nonemptyText isEvent.version
  have stage : (nonemptyText (some (Json.ofOption event.slowestStage))).filter
      (· ∈ deploymentStages) = event.slowestStage :=
    filter_nonemptyText fun stage isStage =>
      ⟨(isEvent.stage stage isStage).1, decide_eq_true (isEvent.stage stage isStage).2⟩
  obtain ⟨fields, isObject, name, dated, threshold, required, current, isVersion, isStage, slowest,
      channel, runUrl⟩ : ∃ fields, event.toJson = .object fields ∧
      Json.get? fields "event" = some (.string event.event) ∧
      Json.get? fields "occurred_at" = some (.string event.occurredAt) ∧
      Json.get? fields "threshold_ms" = some (.int event.thresholdMs) ∧
      Json.get? fields "required_consecutive_count" =
        some (.int event.requiredConsecutiveCount) ∧
      Json.get? fields "current_consecutive_count" =
        some (.int event.currentConsecutiveCount) ∧
      Json.get? fields "latest_version" = some (Json.ofOption event.latestVersion) ∧
      Json.get? fields "slowest_stage" = some (Json.ofOption event.slowestStage) ∧
      Json.get? fields "slowest_ms" = some (.int event.slowestMs) ∧
      Json.get? fields "alert_channel" = some (Json.ofOption event.alertChannel) ∧
      Json.get? fields "run_url" = some (Json.ofOption event.runUrl) :=
    ⟨_, rfl, rfl, rfl, rfl, rfl, rfl, rfl, rfl, rfl, rfl, rfl⟩
  rw [isObject, normalizeEvent]
  simp only [name, dated, threshold, required, current, isVersion, isStage, slowest, channel,
    runUrl, stringOf?, version, stage, delivery, isEvent.dated, boundedInt_int isEvent.threshold,
    boundedInt_int isEvent.required, boundedInt_int isEvent.current, boundedInt_int isEvent.slowest,
    if_neg (not_not.mpr isEvent.name), ← encodable]
  rfl

end Codec

section Lines

variable {event : BottleneckEvent} {events : List BottleneckEvent}

/-- The texts of an event. -/
def BottleneckEvent.texts (event : BottleneckEvent) : List String :=
  [event.event, event.occurredAt] ++ event.latestVersion.toList ++ event.slowestStage.toList ++
    event.alertChannel.toList ++ event.runUrl.toList

/-- The characters that break a line and are no control characters: they are written as they are. -/
def breaksRaw (c : Char) : Bool := c.toNat ∈ [0x85, 0x2028, 0x2029]

theorem exact_toJson (event : BottleneckEvent) : Json.Exact event.toJson := by
  have option : ∀ text : Option String, Json.Exact (Json.ofOption text) := by
    intro text
    cases text with
    | none => exact .null
    | some value => exact .string value
  apply Json.Exact.object
  simp only [List.forall_mem_cons]
  exact ⟨.string _, .string _, .int _, .int _, .int _, option _, option _, .int _, option _,
    option _, nofun⟩

/-- A written event is read back. -/
theorem lineEvent_dumps (isEvent : IsEvent event) (encodable : event.loneSurrogate = false) :
    lineEvent event.toJson.dumps = .ok (some event) := by
  have isRead : ∀ lone, readEvent lone event.toJson.dumps = .ok (some event) := by
    intro lone
    rw [readEvent, Json.loadsWith_dumps lone (exact_toJson event)]
    exact normalizeEvent_toJson isEvent encodable
  rw [lineEvent, isRead, isRead]
  cases event
  cases encodable
  simp [bind, Except.bind, pure, Except.pure]

private theorem mapM_dumps (areEvents : ∀ event ∈ events, IsEvent event)
    (encodable : ∀ event ∈ events, event.loneSurrogate = false) :
    (events.map fun event => event.toJson.dumps).mapM lineEvent = .ok (events.map some) := by
  induction events with
  | nil => rfl
  | cons event events ih =>
      obtain ⟨isEvent, areEvents⟩ := List.forall_mem_cons.mp areEvents
      obtain ⟨isEncodable, encodable⟩ := List.forall_mem_cons.mp encodable
      rw [List.map_cons, List.mapM_cons, lineEvent_dumps isEvent isEncodable,
        ih areEvents encodable]
      rfl

private theorem normalizeEventLines_dumps (areEvents : ∀ event ∈ events, IsEvent event)
    (encodable : ∀ event ∈ events, event.loneSurrogate = false) :
    normalizeEventLines (events.reverse.map fun event => event.toJson.dumps) = .ok events := by
  have kept : (events.map some).reduceOption = events := by
    rw [List.reduceOption, List.filterMap_map]
    exact List.filterMap_some
  rw [normalizeEventLines, ← List.map_reverse, List.reverse_reverse,
    mapM_dumps areEvents encodable]
  exact congrArg Except.ok kept

private theorem isEvent_of_readEvent {lone : Char} {line : String}
    (isRead : readEvent lone line = .ok (some event)) : IsEvent event := by
  rw [readEvent] at isRead
  split at isRead
  · exact isEvent_of_normalizeEvent isRead
  · cases isRead

private theorem isEvent_of_lineEvent {line : String} (isLine : lineEvent line = .ok (some event)) :
    IsEvent event := by
  obtain ⟨first, isFirst, isLine⟩ := bind_eq_ok.mp isLine
  obtain ⟨other, -, isLine⟩ := bind_eq_ok.mp isLine
  obtain ⟨read, rfl, rfl⟩ := Option.map_eq_some_iff.mp (Except.ok.inj isLine)
  obtain ⟨name, dated, threshold, required, current, slowest, version, stage, delivery⟩ :=
    isEvent_of_readEvent isFirst
  exact ⟨name, dated, threshold, required, current, slowest, version, stage, delivery⟩

private theorem isEvent_of_mem {lines : List String}
    (isNormal : normalizeEventLines lines = .ok events) : ∀ event ∈ events, IsEvent event := by
  obtain ⟨read, isRead, rfl⟩ := map_eq_ok.mp isNormal
  intro event listed
  rw [List.reduceOption_mem_iff] at listed
  obtain ⟨line, -, isLine⟩ := exists_of_mem_mapM isRead listed
  exact isEvent_of_lineEvent isLine

/-- A character beyond ASCII stands in what is written of an event when it stands in a text. -/
theorem mem_write_toJson_iff (event : BottleneckEvent) {c : Char} (beyond : 128 ≤ c.toNat) :
    c ∈ event.toJson.write ↔ ∃ text ∈ event.texts, c ∈ text.toList := by
  have isString : ∀ text, c ∈ Json.write (.string text) ↔ c ∈ text.toList := fun _ =>
    Json.mem_quote_iff beyond
  have isOption : ∀ text : Option String,
      c ∈ Json.write (Json.ofOption text) ↔ ∃ value ∈ text, c ∈ value.toList := by
    intro text
    cases text with
    | none =>
        have ascii : ∀ other ∈ Json.write .null, other.toNat < 128 := by decide
        simpa [Json.ofOption] using fun listed => absurd (ascii c listed) (Nat.not_lt.mpr beyond)
    | some value => simpa [Json.ofOption] using isString value
  have notKey : ∀ key ∈ ["event", "occurred_at", "threshold_ms", "required_consecutive_count",
      "current_consecutive_count", "latest_version", "slowest_stage", "slowest_ms",
      "alert_channel", "run_url"], c ∉ key.toList := by
    have ascii : ∀ key ∈ ["event", "occurred_at", "threshold_ms", "required_consecutive_count",
        "current_consecutive_count", "latest_version", "slowest_stage", "slowest_ms",
        "alert_channel", "run_url"], ∀ other ∈ key.toList, other.toNat < 128 := by
      decide
    intro key listed inKey
    exact absurd (ascii key listed c inKey) (Nat.not_lt.mpr beyond)
  have notInt := Json.notMem_write_int beyond
  rw [BottleneckEvent.toJson, Json.mem_write_object_iff beyond]
  simp only [List.forall_mem_cons] at notKey
  simp only [List.exists_mem_cons_iff, notKey, isString, isOption, notInt, BottleneckEvent.texts,
    List.mem_append, or_and_right, exists_or, Option.mem_toList, Option.mem_def, false_or,
    List.not_mem_nil, false_and, exists_false, or_false, or_assoc]

/-- A character that breaks a line stands in the line of an event when it stands in one of its
texts. -/
theorem exists_isLineBreak_iff (event : BottleneckEvent) :
    (∃ c ∈ event.toJson.write, Text.isLineBreak c = true) ↔
      ∃ text ∈ event.texts, ∃ c ∈ text.toList, breaksRaw c = true := by
  have breaks : ∀ c ∈ event.toJson.write, Text.isLineBreak c = true → breaksRaw c = true := by
    intro c listed isBreak
    have visible := Json.printable_write (exact_toJson event) c listed
    simp only [Text.isLineBreak, breaksRaw, List.mem_cons, List.not_mem_nil, or_false,
      decide_eq_true_eq] at isBreak ⊢
    omega
  have raw : ∀ c, breaksRaw c = true → Text.isLineBreak c = true ∧ 128 ≤ c.toNat := by
    intro c isRaw
    simp only [Text.isLineBreak, breaksRaw, List.mem_cons, List.not_mem_nil, or_false,
      decide_eq_true_eq] at isRaw ⊢
    omega
  constructor
  · intro ⟨c, listed, isBreak⟩
    have isRaw := breaks c listed isBreak
    obtain ⟨text, inTexts, inText⟩ := (mem_write_toJson_iff event (raw c isRaw).2).mp listed
    exact ⟨text, inTexts, c, inText, isRaw⟩
  · intro ⟨text, inTexts, c, inText, isRaw⟩
    exact ⟨c, (mem_write_toJson_iff event (raw c isRaw).2).mpr ⟨text, inTexts, inText⟩,
      (raw c isRaw).1⟩

/-- What the reader makes of what was written. -/
theorem readEventLines_eventsContent (strict : Bool)
    (small : (eventsContent events).length ≤ maxEventsBytes) :
    readEventLines strict (some (eventsContent events)) = .ok (Text.splitLines (String.ofList
      ((events.reverse.map fun event => event.toJson.write).flatMap (· ++ ['\n'])))) := by
  have decoded : Bytes.decode (eventsContent events) = some (String.ofList
      ((events.reverse.map fun event => event.toJson.write).flatMap (· ++ ['\n']))) := by
    rw [eventsContent, contentOf_eq, Bytes.decode_encode]
  rw [readEventLines, if_neg (Nat.not_lt.mpr small), decoded]

/-- The lines that were written, when no text breaks them. -/
theorem splitLines_eventsContent
    (oneLine : ∀ event ∈ events, ∀ text ∈ event.texts, ∀ c ∈ text.toList, breaksRaw c = false) :
    Text.splitLines (String.ofList
      ((events.reverse.map fun event => event.toJson.write).flatMap (· ++ ['\n']))) =
        events.reverse.map fun event => event.toJson.dumps := by
  rw [Text.splitLines_lines, List.map_map]
  · rfl
  · intro line listed c inLine
    obtain ⟨event, inEvents, rfl⟩ := List.mem_map.mp listed
    by_contra isBreak
    rw [Bool.not_eq_false] at isBreak
    obtain ⟨text, inTexts, c, inText, isRaw⟩ :=
      (exists_isLineBreak_iff event).mp ⟨c, inLine, isBreak⟩
    rw [oneLine event (List.mem_reverse.mp inEvents) text inTexts c inText] at isRaw
    cases isRaw

/-- A text that breaks its line gives more lines than there are events. -/
theorem length_lt_splitLines_eventsContent (inEvents : event ∈ events) {text : String}
    (inTexts : text ∈ event.texts) {c : Char} (inText : c ∈ text.toList)
    (isRaw : breaksRaw c = true) :
    events.length < (Text.splitLines (String.ofList ((events.reverse.map fun event =>
      event.toJson.write).flatMap (· ++ ['\n'])))).length := by
  have noReturn : ∀ line ∈ events.reverse.map (fun event => event.toJson.write), '\r' ∉ line := by
    intro line listed inLine
    obtain ⟨other, -, rfl⟩ := List.mem_map.mp listed
    exact absurd (Json.printable_write (exact_toJson other) '\r' inLine) (by decide)
  obtain ⟨other, inLine, isBreak⟩ :=
    (exists_isLineBreak_iff event).mpr ⟨text, inTexts, c, inText, isRaw⟩
  have positive : 0 < event.toJson.write.countP Text.isLineBreak :=
    List.countP_pos_iff.mpr ⟨other, inLine, isBreak⟩
  have listed : event.toJson.write.countP Text.isLineBreak ∈
      (events.reverse.map fun event => event.toJson.write).map (·.countP Text.isLineBreak) := by
    refine List.mem_map_of_mem (List.mem_map.mpr ⟨event, List.mem_reverse.mpr inEvents, rfl⟩)
  have sum := List.single_le_sum (fun _ _ => Nat.zero_le _) _ listed
  rw [Text.length_splitLines noReturn, List.length_map, List.length_reverse]
  omega

end Lines

section Cleanup

variable {retentionDays : Int} {file : Option Bytes} {now : Datetime} {events : List BottleneckEvent}
  {result : CleanupResult} {after : Bytes}

/-- The events of a file that the retention keeps, the latest first. -/
def keptEvents (retentionDays : Int) (file : Option Bytes) (now : Datetime) :
    List BottleneckEvent :=
  match (readEventLines true file).bind normalizeEventLines with
  | .ok events =>
      (events.filter fun event =>
        now.micros - retentionDays * 86400000000 ≤ event.timestamp).take maxRetainedEvents
  | .error _ => []

/-- Events that can be written and read back: no text has a surrogate that is alone or breaks its
line, and the file stays small. -/
structure Storable (events : List BottleneckEvent) : Prop where
  encodable : ∀ event ∈ events, event.loneSurrogate = false
  oneLine : ∀ event ∈ events, ∀ text ∈ event.texts, ∀ c ∈ text.toList, breaksRaw c = false
  small : (eventsContent events).length ≤ maxEventsBytes

/-- The clean-up of a file leaves the events it kept: they are read from it, every other line is
counted as deleted, the bounds are theirs, and cleaning up again deletes nothing. -/
structure CleansUp (retentionDays : Int) (file : Option Bytes) (now : Datetime)
    (result : CleanupResult) (after : Bytes) : Prop where
  reads : readNormalizedEvents (some after) = .ok (keptEvents retentionDays file now)
  counts : ∃ lines events, readEventLines true file = .ok lines ∧
    readNormalizedEvents (some after) = .ok events ∧
    result.deletedCount + events.length = lines.length ∧ result.summary = eventStorageSummary events
  again : (pruneEvents retentionDays (some after) now).map (·.1.deletedCount) = .ok 0

private theorem calculateEventCleanup_eq_ok {lines : List String} :
    calculateEventCleanup lines retentionDays now = .ok (events, result) ↔
      ((Datetime.utc now.micros).InRange ∧
        (Datetime.utc (now.micros - retentionDays * 86400000000)).InRange) ∧
      ∃ read, normalizeEventLines lines = .ok read ∧
        events = (read.filter fun event =>
          now.micros - retentionDays * 86400000000 ≤ event.timestamp).take maxRetainedEvents ∧
        result = ⟨retentionDays, (lines.length : Int) - events.length,
          eventStorageSummary events⟩ := by
  rw [calculateEventCleanup]
  dsimp only
  split
  · rename_i inRange
    constructor
    · intro isCleanup
      obtain ⟨read, isNormal, isRetained⟩ := bind_eq_ok.mp isCleanup
      cases isRetained
      exact ⟨inRange, read, isNormal, rfl, rfl⟩
    · rintro ⟨-, read, isNormal, rfl, rfl⟩
      rw [isNormal]
      rfl
  · rename_i outOfRange
    exact iff_of_false nofun fun isCleanup => outOfRange isCleanup.1

/-- What a preview says of the file. -/
theorem previewEventCleanup_eq_ok (isPreview : previewEventCleanup retentionDays file now = .ok result) :
    ∃ lines, readEventLines true file = .ok lines ∧
      calculateEventCleanup lines retentionDays now =
        .ok (keptEvents retentionDays file now, result) := by
  simp only [previewEventCleanup, bind_eq_ok] at isPreview
  obtain ⟨-, -, lines, isRead, ⟨retained, report⟩, isCleanup, isResult⟩ := isPreview
  cases isResult
  obtain ⟨-, read, isNormal, isRetained, -⟩ := calculateEventCleanup_eq_ok.mp isCleanup
  have kept : keptEvents retentionDays file now = retained := by
    rw [keptEvents, isRead, isRetained]
    change (match normalizeEventLines lines with | .ok _ => _ | .error _ => _) = _
    rw [isNormal]
  rw [kept]
  exact ⟨lines, isRead, isCleanup⟩

/-- A clean-up writes the events that it keeps, and reports what the preview does. -/
theorem pruneEvents_eq (retentionDays : Int) (file : Option Bytes) (now : Datetime) :
    pruneEvents retentionDays file now =
      (previewEventCleanup retentionDays file now).bind fun result =>
        (writeEvents (keptEvents retentionDays file now)).map (result, ·) := by
  cases isPreview : previewEventCleanup retentionDays file now with
  | error failure =>
      simp only [previewEventCleanup, pruneEvents] at isPreview ⊢
      cases valid : validateEventRetentionDays retentionDays with
      | error failure =>
          rw [valid] at isPreview
          cases isPreview
          rfl
      | ok =>
          rw [valid] at isPreview
          cases isRead : readEventLines true file with
          | error failure =>
              rw [isRead] at isPreview
              cases isPreview
              rfl
          | ok lines =>
              rw [isRead] at isPreview
              change (calculateEventCleanup lines retentionDays now >>= _) = _ at isPreview
              change (calculateEventCleanup lines retentionDays now >>= _) = _
              cases isCleanup : calculateEventCleanup lines retentionDays now with
              | error failure =>
                  rw [isCleanup] at isPreview
                  cases isPreview
                  rfl
              | ok cleanup =>
                  rw [isCleanup] at isPreview
                  cases isPreview
  | ok result =>
      obtain ⟨lines, isRead, isCleanup⟩ := previewEventCleanup_eq_ok isPreview
      simp only [previewEventCleanup, bind_eq_ok] at isPreview
      obtain ⟨⟨⟩, valid, -⟩ := isPreview
      rw [pruneEvents, valid, isRead]
      change (calculateEventCleanup lines retentionDays now >>= _) = _
      rw [isCleanup]
      change (writeEvents (keptEvents retentionDays file now) >>= _) = _
      cases writeEvents (keptEvents retentionDays file now) <;> rfl

/-- A clean-up that does not fail was previewed, and has written its events. -/
theorem pruneEvents_eq_ok (done : pruneEvents retentionDays file now = .ok (result, after)) :
    previewEventCleanup retentionDays file now = .ok result ∧
      (∀ event ∈ keptEvents retentionDays file now, event.loneSurrogate = false) ∧
      after = eventsContent (keptEvents retentionDays file now) := by
  rw [pruneEvents_eq] at done
  obtain ⟨report, isPreview, isWritten⟩ := bind_eq_ok.mp done
  obtain ⟨content, isContent, isResult⟩ := map_eq_ok.mp isWritten
  cases isResult
  rw [writeEvents] at isContent
  split at isContent
  · cases isContent
  · rename_i encodable
    cases isContent
    simp only [List.any_eq_true, not_exists, not_and, Bool.not_eq_true] at encodable
    exact ⟨isPreview, encodable, rfl⟩

/-- Events that can be written are. -/
theorem pruneEvents_of_preview
    (isPreview : previewEventCleanup retentionDays file now = .ok result)
    (encodable : ∀ event ∈ keptEvents retentionDays file now, event.loneSurrogate = false) :
    pruneEvents retentionDays file now =
      .ok (result, eventsContent (keptEvents retentionDays file now)) := by
  have noneLone : (keptEvents retentionDays file now).any (·.loneSurrogate) = false := by
    simpa using encodable
  rw [pruneEvents_eq, isPreview, writeEvents, noneLone]
  rfl

/-- The events that are kept are events, young enough, and not too many. -/
theorem keptEvents_spec (isPreview : previewEventCleanup retentionDays file now = .ok result) :
    (∀ event ∈ keptEvents retentionDays file now, IsEvent event ∧
      now.micros - retentionDays * 86400000000 ≤ event.timestamp) ∧
      (keptEvents retentionDays file now).length ≤ maxRetainedEvents := by
  obtain ⟨lines, -, isCleanup⟩ := previewEventCleanup_eq_ok isPreview
  obtain ⟨-, read, isNormal, isKept, -⟩ := calculateEventCleanup_eq_ok.mp isCleanup
  rw [isKept]
  refine ⟨fun event listed => ?_, List.length_take_le _ _⟩
  obtain ⟨inEvents, young⟩ := List.mem_filter.mp (List.mem_of_mem_take listed)
  exact ⟨isEvent_of_mem isNormal event inEvents, of_decide_eq_true young⟩

/-- When one file can be previewed, so can any other whose lines can be read. -/
theorem previewEventCleanup_of_read
    (isPreview : previewEventCleanup retentionDays file now = .ok result)
    {other : Option Bytes} {lines : List String} (isRead : readEventLines true other = .ok lines)
    (isNormal : normalizeEventLines lines = .ok events) :
    keptEvents retentionDays other now = (events.filter fun event =>
        now.micros - retentionDays * 86400000000 ≤ event.timestamp).take maxRetainedEvents ∧
      ∃ report, previewEventCleanup retentionDays other now = .ok report ∧
        report.deletedCount = (lines.length : Int) - (keptEvents retentionDays other now).length := by
  obtain ⟨_, -, isCleanup⟩ := previewEventCleanup_eq_ok isPreview
  obtain ⟨inRange, -⟩ := calculateEventCleanup_eq_ok.mp isCleanup
  simp only [previewEventCleanup, bind_eq_ok] at isPreview
  obtain ⟨⟨⟩, valid, -⟩ := isPreview
  obtain ⟨kept, report, isCleanup⟩ : ∃ kept report,
      calculateEventCleanup lines retentionDays now = .ok (kept, report) :=
    ⟨_, _, calculateEventCleanup_eq_ok.mpr ⟨inRange, events, isNormal, rfl, rfl⟩⟩
  have previewed : previewEventCleanup retentionDays other now = .ok report := by
    rw [previewEventCleanup, valid, isRead]
    change (calculateEventCleanup lines retentionDays now >>= _) = _
    rw [isCleanup]
    rfl
  obtain ⟨_, sameRead, sameCleanup⟩ := previewEventCleanup_eq_ok previewed
  cases isRead.symm.trans sameRead
  obtain ⟨-, _, sameNormal, isKept, isReport⟩ := calculateEventCleanup_eq_ok.mp sameCleanup
  cases isNormal.symm.trans sameNormal
  exact ⟨isKept, report, previewed, by rw [isReport]⟩

private theorem readNormalizedEvents_of_read {lines : List String}
    (isRead : readEventLines false file = .ok lines)
    (isNormal : normalizeEventLines lines = .ok events) :
    readNormalizedEvents file = .ok (events.take maxRetainedEvents) := by
  rw [readNormalizedEvents, isRead]
  change (normalizeEventLines lines >>= _) = _
  rw [isNormal]
  rfl

private theorem cleansUp_of_storable
    (isPreview : previewEventCleanup retentionDays file now = .ok result)
    (storable : Storable (keptEvents retentionDays file now)) :
    CleansUp retentionDays file now result (eventsContent (keptEvents retentionDays file now)) := by
  obtain ⟨lines, isRead, isCleanup⟩ := previewEventCleanup_eq_ok isPreview
  obtain ⟨-, -, -, -, rfl⟩ := calculateEventCleanup_eq_ok.mp isCleanup
  obtain ⟨kept, few⟩ := keptEvents_spec isPreview
  have read : ∀ strict, readEventLines strict
      (some (eventsContent (keptEvents retentionDays file now))) =
        .ok ((keptEvents retentionDays file now).reverse.map fun event => event.toJson.dumps) := by
    intro strict
    rw [readEventLines_eventsContent strict storable.small,
      splitLines_eventsContent storable.oneLine]
  have isNormal := normalizeEventLines_dumps (fun event listed => (kept event listed).1)
    storable.encodable
  have young : (keptEvents retentionDays file now).filter (fun event =>
      now.micros - retentionDays * 86400000000 ≤ event.timestamp) =
        keptEvents retentionDays file now :=
    List.filter_eq_self.mpr fun event listed => decide_eq_true (kept event listed).2
  have reads : readNormalizedEvents (some (eventsContent (keptEvents retentionDays file now))) =
      .ok (keptEvents retentionDays file now) := by
    rw [readNormalizedEvents_of_read (read false) isNormal, List.take_of_length_le few]
  refine ⟨reads, ⟨lines, _, isRead, reads, by dsimp only; omega, rfl⟩, ?_⟩
  -- What was written is kept as a whole, so that every line counts.
  obtain ⟨keptAgain, report, previewed, count⟩ :=
    previewEventCleanup_of_read isPreview (read true) isNormal
  rw [young, List.take_of_length_le few] at keptAgain
  have done := pruneEvents_of_preview previewed (by rw [keptAgain]; exact storable.encodable)
  rw [keptAgain, List.length_map, List.length_reverse, Int.sub_self] at count
  rw [done, Except.map, count]

private theorem storable_of_cleansUp
    (done : pruneEvents retentionDays file now = .ok (result, after))
    (cleansUp : CleansUp retentionDays file now result after) :
    Storable (keptEvents retentionDays file now) := by
  obtain ⟨isPreview, encodable, rfl⟩ := pruneEvents_eq_ok done
  obtain ⟨-, few⟩ := keptEvents_spec isPreview
  have small : (eventsContent (keptEvents retentionDays file now)).length ≤ maxEventsBytes := by
    by_contra large
    have unread : readEventLines false
        (some (eventsContent (keptEvents retentionDays file now))) = .ok [] :=
      if_pos (Nat.lt_of_not_le large)
    have none : keptEvents retentionDays file now = [] := by
      have reads := cleansUp.reads
      rw [readNormalizedEvents_of_read unread rfl] at reads
      exact (Except.ok.inj reads).symm
    rw [none] at large
    exact large (Nat.zero_le _)
  refine ⟨encodable, ?_, small⟩
  intro event inEvents text inTexts c inText
  by_contra isRaw
  rw [Bool.not_eq_false] at isRaw
  have more := length_lt_splitLines_eventsContent inEvents inTexts inText isRaw
  obtain ⟨⟨again, rest⟩, isAgain, nothing⟩ := map_eq_ok.mp cleansUp.again
  obtain ⟨lines, isRead, isCleanup⟩ := previewEventCleanup_eq_ok (pruneEvents_eq_ok isAgain).1
  obtain ⟨-, events, isNormal, isKept, rfl⟩ := calculateEventCleanup_eq_ok.mp isCleanup
  rw [readEventLines_eventsContent true small] at isRead
  cases isRead
  have reads := cleansUp.reads
  rw [readNormalizedEvents_of_read (readEventLines_eventsContent false small) isNormal,
    Except.ok.injEq] at reads
  have fewer : (keptEvents retentionDays
      (some (eventsContent (keptEvents retentionDays file now))) now).length ≤
        (keptEvents retentionDays file now).length := by
    rw [isKept, ← reads, List.length_take, List.length_take]
    have := List.length_filter_le (fun event : BottleneckEvent =>
      now.micros - retentionDays * 86400000000 ≤ event.timestamp) events
    omega
  dsimp only at nothing
  omega

/-- A clean-up fails as its preview does, and reports what that has. A clean-up that was previewed
is carried out, and is faithful, exactly when the events it keeps can be stored. -/
theorem cleansUp_iff (retentionDays : Int) (file : Option Bytes) (now : Datetime) :
    (∀ failure, previewEventCleanup retentionDays file now = .error failure →
      pruneEvents retentionDays file now = .error failure) ∧
    (∀ result after, pruneEvents retentionDays file now = .ok (result, after) →
      previewEventCleanup retentionDays file now = .ok result) ∧
    ∀ result, previewEventCleanup retentionDays file now = .ok result →
      ((∃ after, pruneEvents retentionDays file now = .ok (result, after) ∧
        CleansUp retentionDays file now result after) ↔
          Storable (keptEvents retentionDays file now)) := by
  refine ⟨fun failure failed => ?_, fun result after done => (pruneEvents_eq_ok done).1,
    fun result isPreview => ⟨?_, fun storable => ?_⟩⟩
  · rw [pruneEvents_eq, failed]
    rfl
  · rintro ⟨after, done, cleansUp⟩
    exact storable_of_cleansUp done cleansUp
  · exact ⟨_, pruneEvents_of_preview isPreview storable.encodable,
      cleansUp_of_storable isPreview storable⟩

/-- The line of an event of a version, as another program may write it. -/
def clearedLine (version : String) : Bytes :=
  Bytes.encode ("\x7b\"event\":\"cleared\",\"occurred_at\":\"2026-07-01\",\"latest_version\":\"" ++
    version ++ "\"\x7d").toList

/-- The event of that line. -/
def clearedEvent (version : String) : BottleneckEvent where
  event := "cleared"
  occurredAt := "2026-07-01"
  thresholdMs := 60000
  requiredConsecutiveCount := 3
  currentConsecutiveCount := 0
  latestVersion := some version
  slowestStage := none
  slowestMs := 0
  alertChannel := none
  runUrl := none

theorem cleansUp_iff_sample :
    ∃ after, pruneEvents 90 (some (clearedLine "1.4.0")) (.utc 1785000000000000) =
        .ok (⟨90, 0, ⟨1, some "2026-07-01", some "2026-07-01"⟩⟩, after) ∧
      CleansUp 90 (some (clearedLine "1.4.0")) (.utc 1785000000000000)
        ⟨90, 0, ⟨1, some "2026-07-01", some "2026-07-01"⟩⟩ after := by
  have previewed : previewEventCleanup 90 (some (clearedLine "1.4.0")) (.utc 1785000000000000) =
      .ok ⟨90, 0, ⟨1, some "2026-07-01", some "2026-07-01"⟩⟩ := by
    decide +kernel
  have kept : keptEvents 90 (some (clearedLine "1.4.0")) (.utc 1785000000000000) =
      [clearedEvent "1.4.0"] := by
    decide +kernel
  have encodable : ∀ event ∈ [clearedEvent "1.4.0"], event.loneSurrogate = false := by decide
  have oneLine : ∀ event ∈ [clearedEvent "1.4.0"], ∀ text ∈ event.texts, ∀ c ∈ text.toList,
      breaksRaw c = false := by
    decide +kernel
  have small : (eventsContent [clearedEvent "1.4.0"]).length ≤ maxEventsBytes := by decide +kernel
  apply ((cleansUp_iff _ _ _).2.2 _ previewed).mpr
  rw [kept]
  exact ⟨encodable, oneLine, small⟩

/-- A line separator, escaped in the line it comes from, breaks the line that is written; a
surrogate that is alone, previewed as kept, makes the clean-up fail. -/
theorem line_separator_breaks_line :
    (∃ result after, pruneEvents 90 (some (clearedLine "1.4.0\\u2028")) (.utc 1785000000000000) =
        .ok (result, after) ∧ result.deletedCount = 0 ∧
      ¬ CleansUp 90 (some (clearedLine "1.4.0\\u2028")) (.utc 1785000000000000) result after) ∧
    previewEventCleanup 90 (some (clearedLine "1.4.0\\ud800")) (.utc 1785000000000000) =
      .ok ⟨90, 0, ⟨1, some "2026-07-01", some "2026-07-01"⟩⟩ ∧
    pruneEvents 90 (some (clearedLine "1.4.0\\ud800")) (.utc 1785000000000000) =
      .error .unicodeError := by
  have done : pruneEvents 90 (some (clearedLine "1.4.0\\u2028")) (.utc 1785000000000000) =
      .ok (⟨90, 0, ⟨1, some "2026-07-01", some "2026-07-01"⟩⟩,
        eventsContent [clearedEvent "1.4.0\u2028"]) := by
    decide +kernel
  have kept : keptEvents 90 (some (clearedLine "1.4.0\\u2028")) (.utc 1785000000000000) =
      [clearedEvent "1.4.0\u2028"] := by
    decide +kernel
  refine ⟨⟨_, _, done, rfl, fun cleansUp => ?_⟩, by decide +kernel, by decide +kernel⟩
  have oneLine := (storable_of_cleansUp done cleansUp).oneLine
  rw [kept] at oneLine
  have breaks := oneLine _ List.mem_cons_self "1.4.0\u2028" (by decide +kernel) '\u2028'
    (by decide +kernel)
  exact absurd breaks (by decide +kernel)

end Cleanup

end TraefikManager.Deployments
