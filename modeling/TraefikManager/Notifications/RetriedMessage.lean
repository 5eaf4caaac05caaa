import TraefikManager.Notifications.KeptTexts

/-!
# What a retried alert says

A retried alert is built from what the record of the failed delivery kept, so it says what the
first one said exactly where the dropped values put nothing into the provider's request.
-/

namespace TraefikManager.Notifications

open Foundation Monitoring

section Requests

variable {python : PyValues} {keep : Char → Bool} {log : AuditLogModel} {event provider : String}
  {category : AlertCategory} {settings : SystemSettings}

/-- The row a retry builds its alert from, with the actor and the time of the first one. -/
def retriedLog (log : AuditLogModel) (event : String) : AuditLogModel :=
  { log with detail := some (keptDetail event log.detailOrEmpty) }

@[simp] theorem detailOrEmpty_retriedLog :
    (retriedLog log event).detailOrEmpty = keptDetail event log.detailOrEmpty := rfl

@[simp] theorem get_keptDetail_clientIp {detail : Detail} :
    (keptDetail event detail).get "client_ip" = detail.get "client_ip" := by
  simp [Detail.get]

/-- The headline is kept where no special title was used. -/
theorem headline_retriedLog (noTitle : failureTitle python event log.detailOrEmpty = none) :
    headline python (retriedLog log event) event category = headline python log event category := by
  have bareTitle : failureTitle python event (keptDetail event log.detailOrEmpty) = none :=
    bare_keptDetail.failureTitle_eq
  simp only [headline, buildMessage, detailOrEmpty_retriedLog, get_keptDetail_clientIp, noTitle,
    bareTitle]
  rfl

private theorem buildMessage_smokeRotationFailed {resourceName : String} {clientIp : Json}
    {detail : Detail} :
    buildMessage python "smoke_rotation_failed" resourceName clientIp .change detail =
      (failureTitle python "smoke_rotation_failed" detail).getD "스모크 계정 비밀번호 회전 실패" ++
        (": " ++ resourceName) := by
  have label : eventLabels.lookup "smoke_rotation_failed" = some "스모크 계정 비밀번호 회전 실패" := by
    decide
  unfold buildMessage
  rw [if_neg (by decide), if_neg (by decide), if_neg (by decide), if_neg (by decide),
    if_neg (by decide), if_neg (by decide), label]
  cases failureTitle python "smoke_rotation_failed" detail with
  | none => exact String.append_assoc
  | some title => exact String.append_assoc

/-- A special title is lost, whatever follows the headlines. -/
theorem headline_ne_of_title (keeps : ∀ c, c ≠ '*' → keep c = true) {title : String}
    (isTitle : failureTitle python event log.detailOrEmpty = some title)
    (isChange : event = "smoke_rotation_failed" → category = .change) (rest rest' : List Char) :
    (headline python (retriedLog log event) event category).toList.filter keep ++ rest ≠
      (headline python log event category).toList.filter keep ++ rest' := by
  have bareTitle : failureTitle python event (keptDetail event log.detailOrEmpty) = none :=
    bare_keptDetail.failureTitle_eq
  have special := isTitle
  unfold failureTitle at special
  split at special
  · rename_i named
    obtain ⟨rfl, -⟩ := named
    obtain rfl := isChange rfl
    simp only [headline, detailOrEmpty_retriedLog, buildMessage_smokeRotationFailed, bareTitle,
      isTitle, Option.getD_none, Option.getD_some]
    simp only [String.toList_append, List.filter_append]
    have known : title = "스모크 계정 비밀번호 변경 실패" ∨ title = "스모크 로그인·API·화면 검증 실패" ∨
        title = "스모크 계정 운영 점검 실행 실패" := by
      simp only [smokeRotationFailureTitles, List.lookup_cons, List.lookup_nil] at special
      split at special
      · exact .inl (Option.some.inj special).symm
      split at special
      · exact .inr (.inl (Option.some.inj special).symm)
      split at special
      · exact .inr (.inr (Option.some.inj special).symm)
      · cases special
    obtain rfl | rfl | rfl := known
    all_goals
      simp (disch := decide) only [filter_literal keeps]
      simp
  · cases special

private theorem headLines_eq (log : AuditLogModel) : ∃ others : List String,
    headLines python log event category = headline python log event category :: others ∧
      headLines python (retriedLog log event) event category =
        headline python (retriedLog log event) event category :: others := by
  refine ⟨(headLines python log event category).tail, rfl, ?_⟩
  simp only [headLines, headline, detailOrEmpty_retriedLog, get_keptDetail_clientIp, List.tail_cons]
  rfl

/-- The text of the retry, and when it is that of the first alert. -/
theorem multilineMessage_iff (keeps : ∀ c, c ≠ '*' → keep c = true)
    (isSecurity : isEncodedPathEvent event = true → category = .security)
    (isChange : event = "smoke_rotation_failed" → category = .change) {text : String}
    (built : buildMultilineMessage python log event category = .ok text) :
    ∃ retried, buildMultilineMessage python (retriedLog log event) event category = .ok retried ∧
      (retried.toList.filter keep = text.toList.filter keep ↔
        failureTitle python event log.detailOrEmpty = none ∧
          TextSilent python keep log.detailOrEmpty event category) := by
  obtain ⟨lines, read, rfl⟩ := map_eq_ok.mp built
  obtain ⟨bareLines, bareRead, silent⟩ := detailLines_iff keeps
    (@bare_keptDetail log.detailOrEmpty event) isSecurity read
  obtain ⟨others, first, again⟩ := @headLines_eq python event category log
  refine ⟨Text.join "\n" (headLines python (retriedLog log event) event category ++ bareLines), ?_, ?_⟩
  · unfold buildMultilineMessage
    rw [detailOrEmpty_retriedLog, bareRead]
    rfl
  rw [first, again, List.cons_append, List.cons_append, toList_join_cons _ _ (keeps _ (by decide)),
    toList_join_cons _ _ (keeps _ (by decide))]
  cases isTitle : failureTitle python event log.detailOrEmpty with
  | some title =>
      have differs := headline_ne_of_title keeps isTitle isChange
        (lineChars keep (others ++ bareLines)) (lineChars keep (others ++ lines))
      exact iff_of_false differs fun impossible => by cases impossible.1
  | none =>
      rw [headline_retriedLog isTitle, List.append_right_inj, lineChars_append, lineChars_append,
        List.append_right_inj, ← silent]
      simp [eq_comm]

end Requests

section Payloads

variable {python : PyValues} {log : AuditLogModel} {event provider : String}
  {category : AlertCategory} {settings : SystemSettings}

private theorem perm_detailMembers (detail : Detail) : (detailMembers detail).Perm detail.entries :=
  List.perm_insertionSort _ _

/-- Details are sent alike exactly when they have the same values. -/
theorem detailMembers_eq_iff {first second : Detail} :
    detailMembers first = detailMembers second ↔ ∀ key, first.get? key = second.get? key := by
  constructor
  · intro same key
    refine Option.ext fun value => ?_
    rw [Dict.get?_eq_some_iff, Dict.get?_eq_some_iff, ← (perm_detailMembers first).mem_iff, same,
      (perm_detailMembers second).mem_iff]
  · intro same
    have nodup : ∀ detail : Detail, detail.entries.Nodup := fun detail =>
      List.Nodup.of_map _ detail.distinct
    have perm : first.entries.Perm second.entries := by
      refine (List.perm_ext_iff_of_nodup (nodup first) (nodup second)).mpr fun entry => ?_
      rw [← Dict.get?_eq_some_iff, ← Dict.get?_eq_some_iff, same]
    have sorted : ∀ detail : Detail,
        (detailMembers detail).Pairwise fun first second => first.1 ≤ second.1 := by
      intro detail
      have total : Std.Total fun first second : String × Json => first.1 ≤ second.1 :=
        ⟨fun first second => String.le_total first.1 second.1⟩
      have trans : IsTrans (String × Json) fun first second => first.1 ≤ second.1 :=
        ⟨fun _ _ _ below above => String.le_trans below above⟩
      exact List.pairwise_insertionSort _ _
    have members := ((perm_detailMembers first).trans perm).trans (perm_detailMembers second).symm
    refine members.eq_of_pairwise ?_ (sorted first) (sorted second)
    intro entry other listed listed' below above
    have inFirst := (perm_detailMembers first).mem_iff.mp listed
    have inFirst' := perm.mem_iff.mpr ((perm_detailMembers second).mem_iff.mp listed')
    exact List.inj_on_of_nodup_map first.distinct inFirst inFirst' (String.le_antisymm below above)

/-- The kept detail is the whole one exactly when there was nothing else in it. -/
theorem keptDetail_iff {detail : Detail} (named : detail.get? "event" = some (.string event)) :
    (∀ key, (keptDetail event detail).get? key = detail.get? key) ↔
      ∀ key, key ∈ detail.keys ↔ key = "event" ∨ key = "client_ip" := by
  constructor
  · intro same key
    rw [Dict.mem_keys_iff, ← same, get?_keptDetail]
    by_cases isIp : key = "client_ip"
    · simp [isIp]
    · by_cases isEvent : key = "event"
      · simp [isEvent]
      · simp [isIp, isEvent]
  · intro only key
    rw [get?_keptDetail]
    split
    · rename_i isIp
      subst isIp
      obtain ⟨value, found⟩ := Dict.mem_keys_iff.mp ((only "client_ip").mpr (.inr rfl))
      rw [Detail.get, found]
      rfl
    · rename_i notIp
      split
      · rename_i isEvent
        rw [isEvent, named]
      · rename_i notEvent
        refine (Dict.get?_eq_none_iff.mpr fun listed => ?_).symm
        obtain isEvent | isIp := (only key).mp listed
        · exact notEvent isEvent
        · exact notIp isIp

private theorem get?_event (named : getEvent log = some event) :
    log.detailOrEmpty.get? "event" = some (.string event) := by
  unfold getEvent Detail.get at named
  cases found : log.detailOrEmpty.get? "event" with
  | none =>
      rw [found] at named
      cases named
  | some value =>
      rw [found] at named
      cases value with
      | string text =>
          cases named
          rfl
      | _ => cases named

private theorem buildPayload_iff (named : getEvent log = some event) :
    buildPayload python (retriedLog log event) event category =
        buildPayload python log event category ↔
      ∀ key, key ∈ log.detailOrEmpty.keys ↔ key = "event" ∨ key = "client_ip" := by
  rw [← keptDetail_iff (get?_event named)]
  constructor
  · intro same
    refine detailMembers_eq_iff.mp ?_
    simp only [buildPayload, Json.object.injEq, List.cons.injEq, Prod.mk.injEq] at same
    tauto
  · intro same
    have members := detailMembers_eq_iff.mpr same
    have noTitle : failureTitle python event log.detailOrEmpty = none := by
      refine Bare.failureTitle_eq fun key notEvent notIp => ?_
      rw [← same, get?_keptDetail, if_neg notIp, if_neg notEvent]
    simp only [buildPayload, headline_retriedLog noTitle, detailOrEmpty_retriedLog, members,
      get_keptDetail_clientIp]
    rfl

end Payloads

section Retries

variable {python : PyValues} {log : AuditLogModel} {event provider : String}
  {category : AlertCategory} {settings : SystemSettings} {smokeUsernames : List String}

/-- What a row whose alert is tried says about its event. -/
theorem alertToDeliver_spec
    (tried : alertToDeliver settings smokeUsernames log = some (event, category, provider)) :
    getEvent log = some event ∧ ∃ group, getAlertCategoryAndGroup event = some (category, group) := by
  unfold alertToDeliver at tried
  split at tried
  · cases tried
  · rename_i event' named
    split at tried
    · cases tried
    · obtain ⟨context, found, same⟩ := Option.map_eq_some_iff.mp tried
      cases same
      refine ⟨named, ?_⟩
      unfold getAlertContext at found
      cases inGroup : getAlertCategoryAndGroup event with
      | none =>
          rw [inGroup] at found
          cases found
      | some grouped =>
          obtain ⟨category', group⟩ := grouped
          rw [inGroup] at found
          simp only [Option.ite_none_left_eq_some] at found
          obtain ⟨-, -, found⟩ := found
          refine ⟨group, ?_⟩
          split at found
          · rw [(Prod.mk.inj (Option.some.inj found)).1]
          · rw [(Prod.mk.inj (Option.some.inj found)).1]

private theorem security_of_encoded {group : String}
    (grouped : getAlertCategoryAndGroup event = some (category, group))
    (isEncoded : isEncodedPathEvent event = true) : category = .security := by
  unfold getAlertCategoryAndGroup at grouped
  rw [if_pos isEncoded] at grouped
  cases grouped
  rfl

private theorem change_of_smokeRotation {group : String}
    (grouped : getAlertCategoryAndGroup event = some (category, group))
    (named : event = "smoke_rotation_failed") : category = .change := by
  subst named
  have settled : getAlertCategoryAndGroup "smoke_rotation_failed" =
      some (.change, "settings_change") := by decide
  rw [settled] at grouped
  cases grouped
  rfl

private theorem nonemptyText_eq_some {value : Json} {text : String}
    (isText : nonemptyText value = some text) : value = .string text := by
  cases value with
  | string other =>
      unfold nonemptyText at isText
      dsimp only at isText
      split at isText
      · cases isText
      · cases isText
        rfl
  | _ => cases isText

/-- What a retry reads from the record of a failed delivery. -/
def recordedContext (log : AuditLogModel) (event : String) (category : AlertCategory)
    (provider : String) (id : Uuid) (later : Int) : RetryDeliveryContext where
  provider := provider
  sourceEvent := event
  category := category
  sourceLog := {
    id := id
    actor := "system"
    action := log.action
    resourceType := log.resourceType
    resourceId := log.resourceId
    resourceName := log.resourceName
    detail := some (keptDetail event log.detailOrEmpty)
    createdAt := .utc later }

variable {deliveryDetail : String} {id : Uuid} {now later : Int}

private theorem get_deliveryFields {key : String} {value : Json} (listed : (key, value) ∈
    deliveryFields python log event category provider false deliveryDetail) :
    Detail.get (Dict.ofList
      (deliveryFields python log event category provider false deliveryDetail)) key = value := by
  have distinct : ((deliveryFields python log event category provider false deliveryDetail).map
      Prod.fst).Nodup := by
    unfold deliveryFields
    simp
  unfold Detail.get
  rw [Dict.get?_ofList_of_mem distinct listed]
  rfl

private theorem buildRetryDeliveryContext_record :
    buildRetryDeliveryContext (recordDeliveryResult python log event category provider
      false deliveryDetail [] id now) later =
      match nonemptyText (.string provider), nonemptyText (.string event),
          nonemptyText (.string log.action), nonemptyText (.string log.resourceType),
          nonemptyText (.string log.resourceId), nonemptyText (.string log.resourceName) with
      | some _, some _, some _, some _, some _, some _ =>
          .ok (recordedContext log event category provider id later)
      | _, _, _, _, _, _ => .error (.valueError "재시도에 필요한 원본 알림 정보가 부족합니다") := by
  have isFailure : ¬deliveryEvent category false ∉ failureEvents := by
    cases category with
    | security => decide
    | change => decide
  have sameCategory : (if Text.startsWith "security_" (deliveryEvent category false) = true
      then AlertCategory.security else .change) = category := by
    cases category with
    | security => rfl
    | change => rfl
  unfold buildRetryDeliveryContext getEvent
  simp only [recordDeliveryResult, AuditLogModel.detailOrEmpty, Option.getD_some, Dict.setAll_nil]
  rw [@get_deliveryFields _ _ _ _ _ _ "event" (.string (deliveryEvent category false))
      (by simp [deliveryFields]),
    @get_deliveryFields _ _ _ _ _ _ "provider" (.string provider) (by simp [deliveryFields]),
    @get_deliveryFields _ _ _ _ _ _ "source_event" (.string event) (by simp [deliveryFields]),
    @get_deliveryFields _ _ _ _ _ _ "source_action" (.string log.action)
      (by simp [deliveryFields]),
    @get_deliveryFields _ _ _ _ _ _ "source_resource_type" (.string log.resourceType)
      (by simp [deliveryFields]),
    @get_deliveryFields _ _ _ _ _ _ "source_resource_id" (.string log.resourceId)
      (by simp [deliveryFields]),
    @get_deliveryFields _ _ _ _ _ _ "source_resource_name" (.string log.resourceName)
      (by simp [deliveryFields]),
    @get_deliveryFields _ _ _ _ _ _ "client_ip" (log.detailOrEmpty.get "client_ip")
      (by simp [deliveryFields])]
  dsimp only
  rw [if_neg isFailure, sameCategory]
  -- the texts are looked at one after the other, and the first empty one refuses
  rcases isProvider : nonemptyText (.string provider) with _ | _
  · rfl
  cases nonemptyText_eq_some isProvider
  rcases isSource : nonemptyText (.string event) with _ | _
  · rfl
  cases nonemptyText_eq_some isSource
  rcases isAction : nonemptyText (.string log.action) with _ | _
  · rfl
  cases nonemptyText_eq_some isAction
  rcases isType : nonemptyText (.string log.resourceType) with _ | _
  · rfl
  cases nonemptyText_eq_some isType
  rcases isId : nonemptyText (.string log.resourceId) with _ | _
  · rfl
  cases nonemptyText_eq_some isId
  rcases isName : nonemptyText (.string log.resourceName) with _ | _
  · rfl
  cases nonemptyText_eq_some isName
  rfl

/-- The record of a failed delivery gives the retry back what it kept. -/
theorem retryContext_eq {context : RetryDeliveryContext}
    (rebuilt : buildRetryDeliveryContext (recordDeliveryResult python log event category provider
      false deliveryDetail [] id now) later = .ok context) :
    context = recordedContext log event category provider id later := by
  rw [buildRetryDeliveryContext_record] at rebuilt
  split at rebuilt
  · exact (Except.ok.inj rebuilt).symm
  · cases rebuilt

/-- The providers that get the whole text. -/
theorem wholeText_iff (isSecurity : isEncodedPathEvent event = true → category = .security)
    (isChange : event = "smoke_rotation_failed" → category = .change) {text : String}
    (built : buildMultilineMessage python log event category = .ok text) :
    ∃ retried, buildMultilineMessage python (retriedLog log event) event category = .ok retried ∧
      (headline python (retriedLog log event) event category = headline python log event category ∧
          retried = text ↔
        failureTitle python event log.detailOrEmpty = none ∧
          TextSilent python (fun _ => true) log.detailOrEmpty event category) := by
  obtain ⟨retried, retriedBuilt, same⟩ :=
    @multilineMessage_iff python (fun _ => true) log event category (fun _ _ => rfl) isSecurity
      isChange text built
  refine ⟨retried, retriedBuilt, ?_⟩
  rw [← same, List.filter_true, List.filter_true, String.toList_inj]
  constructor
  · exact fun both => both.2
  · intro sameText
    have filtered := same.mp (by rw [sameText])
    exact ⟨headline_retriedLog filtered.1, sameText⟩

@[simp] theorem clientIpText_retriedLog {fallback : String} :
    clientIpText python (retriedLog log event) fallback = clientIpText python log fallback := by
  simp only [clientIpText, detailOrEmpty_retriedLog, get_keptDetail_clientIp]

private theorem headline_retriedLog_iff
    (isChange : event = "smoke_rotation_failed" → category = .change) :
    headline python (retriedLog log event) event category = headline python log event category ↔
      failureTitle python event log.detailOrEmpty = none := by
  cases isTitle : failureTitle python event log.detailOrEmpty with
  | none => exact iff_of_true (headline_retriedLog isTitle) rfl
  | some title =>
      have differs := @headline_ne_of_title python (fun _ => true) log event category
        (fun _ _ => rfl) title isTitle isChange [] []
      refine iff_of_false (fun same => differs ?_) (by simp)
      rw [same]

/-- The condition on the providers that get the whole text. -/
def WholeTextKept (python : PyValues) (detail : Detail) (event : String)
    (category : AlertCategory) : Prop :=
  failureTitle python event detail = none ∧
    TextSilent python (fun _ => true) detail event category

section Built

variable (isSecurity : isEncodedPathEvent event = true → category = .security)
  (isChange : event = "smoke_rotation_failed" → category = .change)
include isSecurity isChange

private theorem buildEmail_iff {request : AlertRequest}
    (built : buildEmail python settings log event category = .ok (some request)) :
    buildEmail python settings (retriedLog log event) event category = .ok (some request) ↔
      WholeTextKept python log.detailOrEmpty event category := by
  unfold buildEmail at built ⊢
  dsimp only at built ⊢
  split at built
  · cases built
  · rename_i complete
    rw [if_neg complete]
    obtain ⟨text, textBuilt, same⟩ := map_eq_ok.mp built
    cases same
    obtain ⟨retried, retriedBuilt, whole⟩ := wholeText_iff isSecurity isChange textBuilt
    rw [retriedBuilt, WholeTextKept, ← whole]
    simp [Except.map]

private theorem buildSlackPayload_iff {payload : Json}
    (built : buildSlackPayload python log event category = .ok payload) :
    buildSlackPayload python (retriedLog log event) event category = .ok payload ↔
      WholeTextKept python log.detailOrEmpty event category := by
  obtain ⟨text, textBuilt, rfl⟩ := map_eq_ok.mp built
  obtain ⟨retried, retriedBuilt, whole⟩ := wholeText_iff isSecurity isChange textBuilt
  rw [buildSlackPayload, retriedBuilt, WholeTextKept, ← whole]
  simp [Except.map]

private theorem buildDiscordPayload_iff {payload : Json}
    (built : buildDiscordPayload python log event category = .ok payload) :
    buildDiscordPayload python (retriedLog log event) event category = .ok payload ↔
      WholeTextKept python log.detailOrEmpty event category := by
  obtain ⟨text, textBuilt, rfl⟩ := map_eq_ok.mp built
  obtain ⟨retried, retriedBuilt, whole⟩ := wholeText_iff isSecurity isChange textBuilt
  have sameName : (retriedLog log event).resourceName = log.resourceName := rfl
  rw [buildDiscordPayload, retriedBuilt, WholeTextKept, ← whole, sameName, clientIpText_retriedLog]
  simp [Except.map]

private theorem buildTelegramMessage_iff {message : String}
    (built : buildTelegramMessage python log event category = .ok message) :
    buildTelegramMessage python (retriedLog log event) event category = .ok message ↔
      failureTitle python event log.detailOrEmpty = none ∧
        TextSilent python (fun c => c ≠ '*') log.detailOrEmpty event category := by
  obtain ⟨text, textBuilt, rfl⟩ := map_eq_ok.mp built
  obtain ⟨retried, retriedBuilt, starless⟩ :=
    @multilineMessage_iff python (fun c => c ≠ '*') log event category
      (fun c other => decide_eq_true other) isSecurity isChange text textBuilt
  rw [← starless, buildTelegramMessage, retriedBuilt]
  simp only [Except.map, Except.ok.injEq, String.ofList_inj]

omit isSecurity in
private theorem buildTeamsPayload_iff :
    buildTeamsPayload python (retriedLog log event) event category =
        buildTeamsPayload python log event category ↔
      failureTitle python event log.detailOrEmpty = none := by
  have sameName : (retriedLog log event).resourceName = log.resourceName := rfl
  have sameTime : (retriedLog log event).createdAt = log.createdAt := rfl
  rw [← headline_retriedLog_iff isChange, buildTeamsPayload, buildTeamsPayload, sameName, sameTime,
    clientIpText_retriedLog]
  simp

end Built

private theorem buildPagerdutyPayload_iff (named : getEvent log = some event)
    {routingKey : String} :
    buildPagerdutyPayload python (retriedLog log event) event routingKey category =
        buildPagerdutyPayload python log event routingKey category ↔
      ∀ key, key ∈ log.detailOrEmpty.keys ↔ key = "event" ∨ key = "client_ip" := by
  rw [← @buildPayload_iff python log event category named]
  constructor
  · intro same
    simp only [buildPagerdutyPayload, Json.object.injEq, List.cons.injEq, Prod.mk.injEq] at same
    tauto
  · intro same
    have sameHeadline : headline python (retriedLog log event) event category =
        headline python log event category := by
      simp only [buildPayload, Json.object.injEq, List.cons.injEq, Prod.mk.injEq,
        Json.string.injEq] at same
      tauto
    have sameName : (retriedLog log event).resourceName = log.resourceName := rfl
    rw [buildPagerdutyPayload, buildPagerdutyPayload, same, sameHeadline, sameName,
      clientIpText_retriedLog]

/-- The condition by provider. -/
theorem dropsNothing_whole {detail : Detail}
    (whole : provider = "email" ∨ provider = "slack" ∨ provider = "discord") :
    DropsNothing python detail event provider category =
      WholeTextKept python detail event category := by
  unfold DropsNothing sentChar WholeTextKept
  obtain rfl | rfl | rfl := whole
  all_goals rw [if_neg (by decide), if_pos (by decide), if_neg (by decide)]

private theorem dropsNothing_telegram {detail : Detail} :
    DropsNothing python detail event "telegram" category =
      (failureTitle python event detail = none ∧
        TextSilent python (fun c => c ≠ '*') detail event category) := by
  unfold DropsNothing sentChar
  rw [if_neg (by decide), if_pos (by decide), if_pos rfl]

private theorem dropsNothing_row {detail : Detail} (notTeams : provider ≠ "teams")
    (noText : provider ∉ ["email", "telegram", "slack", "discord"]) :
    DropsNothing python detail event provider category =
      ∀ key, key ∈ detail.keys ↔ key = "event" ∨ key = "client_ip" := by
  unfold DropsNothing
  rw [if_neg notTeams, if_neg noText]

private theorem map_eq_ok_of_injective {ε α β : Type} {result : Except ε α} {f : α → β}
    (injective : Function.Injective f) {value : α} :
    result.map f = .ok (f value) ↔ result = .ok value := by
  cases result with
  | error failure => simp [Except.map]
  | ok other => simp [Except.map, injective.eq_iff]

/-- The request of a retry, with the actor and the time of the first one. -/
theorem buildAlertRequest_iff (named : getEvent log = some event)
    (isSecurity : isEncodedPathEvent event = true → category = .security)
    (isChange : event = "smoke_rotation_failed" → category = .change) {request : AlertRequest}
    (built : buildAlertRequest python settings log event provider category = .ok (some request)) :
    buildAlertRequest python settings (retriedLog log event) event provider category =
        .ok (some request) ↔
      DropsNothing python log.detailOrEmpty event provider category := by
  unfold buildAlertRequest at built ⊢
  by_cases isEmail : provider = "email"
  · rw [dropsNothing_whole (.inl isEmail)]
    rw [if_pos isEmail] at built ⊢
    exact buildEmail_iff isSecurity isChange built
  rw [if_neg isEmail] at built ⊢
  by_cases isTelegram : provider = "telegram"
  · subst isTelegram
    rw [if_pos rfl] at built ⊢
    rw [dropsNothing_telegram]
    dsimp only at built ⊢
    split at built
    · cases built
    · rename_i complete
      rw [if_neg complete]
      obtain ⟨message, messageBuilt, same⟩ := map_eq_ok.mp built
      cases same
      refine Iff.trans ?_ (buildTelegramMessage_iff isSecurity isChange messageBuilt)
      exact map_eq_ok_of_injective fun first second same => by simpa using same
  rw [if_neg isTelegram] at built ⊢
  by_cases isPagerduty : provider = "pagerduty"
  · rw [dropsNothing_row (by simp [isPagerduty]) (by simp [isPagerduty])]
    rw [if_pos isPagerduty] at built ⊢
    dsimp only at built ⊢
    split at built
    · cases built
    · rename_i complete
      rw [if_neg complete]
      cases built
      refine Iff.trans ?_ (@buildPagerdutyPayload_iff python log event category named
        (settings.stripped "security_alert_pagerduty_routing_key"))
      simp
  rw [if_neg isPagerduty] at built ⊢
  dsimp only at built ⊢
  split at built
  · cases built
  rename_i complete
  rw [if_neg complete]
  by_cases isSlack : provider = "slack"
  · rw [dropsNothing_whole (.inr (.inl isSlack))]
    rw [if_pos isSlack] at built ⊢
    obtain ⟨payload, payloadBuilt, same⟩ := map_eq_ok.mp built
    cases same
    refine Iff.trans ?_ (buildSlackPayload_iff isSecurity isChange payloadBuilt)
    exact map_eq_ok_of_injective fun first second same => by simpa using same
  rw [if_neg isSlack] at built ⊢
  by_cases isDiscord : provider = "discord"
  · rw [dropsNothing_whole (.inr (.inr isDiscord))]
    rw [if_pos isDiscord] at built ⊢
    obtain ⟨payload, payloadBuilt, same⟩ := map_eq_ok.mp built
    cases same
    refine Iff.trans ?_ (buildDiscordPayload_iff isSecurity isChange payloadBuilt)
    exact map_eq_ok_of_injective fun first second same => by simpa using same
  rw [if_neg isDiscord] at built ⊢
  by_cases isTeams : provider = "teams"
  · rw [DropsNothing, if_pos isTeams]
    rw [if_pos isTeams] at built ⊢
    cases built
    refine Iff.trans ?_ (buildTeamsPayload_iff isChange)
    simp
  rw [if_neg isTeams] at built ⊢
  cases built
  rw [dropsNothing_row isTeams (by simp [isEmail, isTelegram, isSlack, isDiscord]),
    ← @buildPayload_iff python log event category named]
  simp

/-- **A retried alert.** For every row whose alert is tried and every failed delivery that is
recorded, the request of the retry, with the actor and the time of the first alert, is the
request that failed exactly when the record drops nothing the request says. -/
theorem retriedRequest_iff {request : AlertRequest} {context : RetryDeliveryContext}
    (tried : alertToDeliver settings smokeUsernames log = some (event, category, provider))
    (built : buildAlertRequest python settings log event provider category = .ok (some request))
    (rebuilt : buildRetryDeliveryContext (recordDeliveryResult python log event category provider
      false deliveryDetail [] id now) later = .ok context) :
    buildAlertRequest python settings
        { context.sourceLog with actor := log.actor, createdAt := log.createdAt }
        context.sourceEvent context.provider context.category = .ok (some request) ↔
      DropsNothing python log.detailOrEmpty event provider category := by
  obtain ⟨named, group, grouped⟩ := alertToDeliver_spec tried
  rw [retryContext_eq rebuilt, ← buildAlertRequest_iff named (security_of_encoded grouped)
    (change_of_smokeRotation grouped) built]
  rfl

end Retries

section Example

/-- Security alerts go to a web hook of Slack. -/
def slackSettings : SystemSettings := fun key =>
  [("security_alerts_enabled", "true"), ("security_alert_provider", "slack"),
    ("security_alert_webhook_url", "https://hooks.slack.com/services/A/B/C")].lookup key

/-- The row about a blocked address, with what else its detail says. -/
def blockedAddress (others : List (String × Json))
    (distinct : ((("event", Json.string "login_blocked_ip") ::
      ("client_ip", Json.string "203.0.113.9") :: others).map Prod.fst).Nodup) : AuditLogModel where
  id := ⟨1⟩
  actor := "system"
  action := "block"
  resourceType := "security"
  resourceId := "203.0.113.9"
  resourceName := "203.0.113.9"
  detail := some ⟨("event", .string "login_blocked_ip") ::
    ("client_ip", .string "203.0.113.9") :: others, distinct⟩
  createdAt := .utc 0

/-- A row about an address that was blocked, with a field that neither its record nor its alert
has. -/
def blockedBrowser : AuditLogModel :=
  blockedAddress [("user_agent", .string "curl/8.5")] (by decide)

/-- A row whose record drops a field that its alert does not say is retried with the same
request. -/
theorem retriedRequest_iff_example : ∃ request,
    buildAlertRequest noRepr slackSettings blockedBrowser "login_blocked_ip" "slack" .security =
      .ok (some request) ∧
    ∃ context, buildRetryDeliveryContext (recordDeliveryResult noRepr blockedBrowser
        "login_blocked_ip" .security "slack" false "ReadTimeout" [] ⟨2⟩ 5) 300 = .ok context ∧
      (context.sourceLog.detailOrEmpty.get? "user_agent").isNone = true ∧
      buildAlertRequest noRepr slackSettings
        { context.sourceLog with actor := "system", createdAt := .utc 0 }
        context.sourceEvent context.provider context.category = .ok (some request) := by
  have rebuilt : buildRetryDeliveryContext (recordDeliveryResult noRepr blockedBrowser
      "login_blocked_ip" .security "slack" false "ReadTimeout" [] ⟨2⟩ 5) 300 =
        .ok (recordedContext blockedBrowser "login_blocked_ip" .security "slack" ⟨2⟩ 300) :=
    buildRetryDeliveryContext_record
  refine ⟨_, rfl, _, rebuilt, rfl, (@retriedRequest_iff noRepr blockedBrowser
    "login_blocked_ip" "slack" .security slackSettings [] "ReadTimeout" ⟨2⟩ 5 300 _ _ (by decide) rfl
    rebuilt).mpr ?_⟩
  refine ⟨rfl, ?_, ?_⟩
  · intro key listed
    obtain rfl | rfl : key = "block_minutes" ∨ key = "repeat_count" := by simpa using listed
    · rfl
    · rfl
  · intro key listed
    obtain rfl : key = "blocked_until" := by simpa using listed
    rfl

/-- The alert about a blocked address says for how many minutes, and its retry does not. -/
theorem not_retriedRequest :
    ¬ ∀ (python : PyValues) (settings : SystemSettings) (smokeUsernames : List String)
      (log : AuditLogModel) (event : String) (category : AlertCategory) (provider : String)
      (request : AlertRequest) (deliveryDetail : String) (id : Uuid) (now later : Int)
      (context : RetryDeliveryContext),
      alertToDeliver settings smokeUsernames log = some (event, category, provider) →
      buildAlertRequest python settings log event provider category = .ok (some request) →
      buildRetryDeliveryContext (recordDeliveryResult python log event category provider false
        deliveryDetail [] id now) later = .ok context →
      buildAlertRequest python settings
        { context.sourceLog with actor := log.actor, createdAt := log.createdAt }
        context.sourceEvent context.provider context.category = .ok (some request) := by
  intro always
  have same := always noRepr slackSettings []
    (blockedAddress [("block_minutes", .int 30)] (by decide)) "login_blocked_ip" .security "slack"
    _ "ReadTimeout" ⟨2⟩ 5 300 _ (by decide) rfl buildRetryDeliveryContext_record
  have dropped := (@buildAlertRequest_iff noRepr
    (blockedAddress [("block_minutes", .int 30)] (by decide)) "login_blocked_ip" "slack" .security
    slackSettings rfl (fun _ => rfl) (fun other => absurd other (by decide)) _ rfl).mp same
  have absent := dropped.2.1 "block_minutes" List.mem_cons_self
  cases absent

end Example

end TraefikManager.Notifications
