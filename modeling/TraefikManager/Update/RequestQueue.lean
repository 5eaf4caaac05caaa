import TraefikManager.Foundation.ByteLines
import TraefikManager.IsoDatetime
import TraefikManager.Update.Models
import TraefikManager.UuidText

/-!
# The queue of update requests

The backend publishes a request for the host runner as a file in a directory that both share: it
fills a file of its own and links it to the name that the runner looks for. What the runner reads
there is the request that the backend was asked to queue, or is refused.
-/

namespace TraefikManager.Update

open Foundation

section Requests

/-- The operations of a request. -/
inductive RequestOperation where
  | patchUpdate
  | rollbackAlertRetry
  deriving DecidableEq, Repr

/-- `PATCH_UPDATE_OPERATION` and `ALERT_RETRY_OPERATION`. -/
def RequestOperation.text : RequestOperation → String
  | patchUpdate => "traefik_patch_update"
  | rollbackAlertRetry => "traefik_rollback_alert_retry"

/-- `parse_datetime`: the point in time of a text that names a time zone. -/
def parseDatetime (value : String) : Option Datetime :=
  match Datetime.fromIsoformat (Datetime.spellZulu value) with
  | some parsed => if parsed.aware then some parsed else none
  | none => none

/-- Whether an actor may be recorded. -/
def IsActor (actor : String) : Prop :=
  actor ≠ "" ∧ actor.length ≤ 100 ∧ ∀ c ∈ actor.toList, 32 ≤ c.toNat

instance (actor : String) : Decidable (IsActor actor) := by unfold IsActor; infer_instance

/-- The update request whose alert a request asks for again: an alert retry names another request,
a patch update names none. -/
def IsSource (requestId : Uuid) : RequestOperation → Option Uuid → Prop
  | .patchUpdate, source => source = none
  | .rollbackAlertRetry, source => ∃ id, source = some id ∧ id ≠ requestId

/-- `UpdateRequest` as `read_request` returns it, with its operation. -/
structure QueuedRequest extends UpdateRequest where
  operation : RequestOperation
  sourceRequestId : Option Uuid
  requestedAtValid : (parseDatetime requestedAt).isSome = true
  sourceValid : IsSource requestId operation sourceRequestId

end Requests

section Reading

/-- `MAX_REQUEST_BYTES`. -/
def maxRequestBytes : Nat := 4096

/-- The operation of a request. What cannot be hashed is in no set. -/
def readOperation : Option Json → Except PyException RequestOperation
  | some (.string text) =>
      if text = RequestOperation.patchUpdate.text then .ok .patchUpdate
      else if text = RequestOperation.rollbackAlertRetry.text then .ok .rollbackAlertRetry
      else .error (.valueError "지원하지 않는 업데이트 요청입니다")
  | some (.array _) => .error (.typeError "unhashable type: 'list'")
  | some (.object _) => .error (.typeError "unhashable type: 'dict'")
  | _ => .error (.valueError "지원하지 않는 업데이트 요청입니다")

/-- A text that is the one of a `UUID`: `str(UUID(value)) == value`. -/
def readUuid (message : String) : Option Json → Except PyException Uuid
  | some (.string text) =>
      match Uuid.parse text with
      | none => .error (.valueError "badly formed hexadecimal UUID string")
      | some id => if id.text = text then .ok id else .error (.valueError message)
  | _ => .error (.valueError message)

/-- A text that satisfies a condition. -/
def readTextThat (condition : String → Prop) [DecidablePred condition] (message : String) :
    Option Json → Except PyException { text : String // condition text }
  | some (.string text) =>
      if holds : condition text then .ok ⟨text, holds⟩ else .error (.valueError message)
  | _ => .error (.valueError message)

/-- The source of a request that asks for an alert again, or none. -/
def readSource (requestId : Uuid) (value : Option Json) : (operation : RequestOperation) →
    Except PyException { source : Option Uuid // IsSource requestId operation source }
  | .rollbackAlertRetry => do
      let id ← readUuid "알림 재시도 원본 요청 ID가 올바르지 않습니다" value
      if differs : id ≠ requestId then .ok ⟨some id, id, rfl, differs⟩
      else .error (.valueError "알림 재시도 원본 요청 ID가 올바르지 않습니다")
  | .patchUpdate =>
      match value with
      | none | some .null => .ok ⟨none, rfl⟩
      | _ => .error (.valueError "패치 업데이트 요청에는 원본 요청 ID를 지정할 수 없습니다")

/-- The fields of a request. -/
def readFields (raw : List (String × Json)) : Except PyException QueuedRequest := do
  let operation ← readOperation (Json.get? raw "operation")
  let requestId ← readUuid "요청 ID가 올바르지 않습니다" (Json.get? raw "request_id")
  let targetVersion ← readTextThat (fun text => isVersion text = true)
    "대상 버전이 올바르지 않습니다" (Json.get? raw "target_version")
  let actor ← readTextThat IsActor "요청자가 올바르지 않습니다" (Json.get? raw "actor")
  let requestedAt ← readTextThat (fun text => (parseDatetime text).isSome = true)
    "요청 시각이 올바르지 않습니다" (Json.get? raw "requested_at")
  let source ← readSource requestId (Json.get? raw "source_request_id") operation
  .ok
    { requestId
      targetVersion := targetVersion.1
      actor := actor.1
      requestedAt := requestedAt.1
      targetValid := targetVersion.2
      actorValid := actor.2
      operation
      sourceRequestId := source.1
      requestedAtValid := requestedAt.2
      sourceValid := source.2 }

/-- `read_request`, given the file when its size is looked up and when it is read. -/
def readRequest (measured content : Bytes) : Except PyException QueuedRequest :=
  if maxRequestBytes < measured.length then
    .error (.valueError "요청 파일 형식이 올바르지 않습니다")
  else
    match Bytes.decode content with
    | none => .error (.valueError "invalid start byte")
    | some text =>
        match Json.loads text with
        | some (.object raw) =>
            if isSchemaOne (Json.get? raw "schema_version") then readFields raw
            else .error (.valueError "지원하지 않는 업데이트 요청입니다")
        | some _ => .error (.valueError "지원하지 않는 업데이트 요청입니다")
        | none => .error (.valueError "Expecting value")

end Reading

section Publishing

/-- `_normalize_version`. -/
def normalizeVersion (value : String) :
    Except PyException { version : String // isVersion version = true } :=
  let stripped := Text.strip value
  let normalized := if Text.startsWith "v" stripped then stripped else "v" ++ stripped
  if valid : isVersion normalized = true then .ok ⟨normalized, valid⟩
  else .error (.valueError "Traefik 대상 버전은 v3.7.8 형식이어야 합니다")

/-- `_normalize_actor`. -/
def normalizeActor (value : String) : Except PyException { actor : String // IsActor actor } :=
  let normalized := Text.strip value
  if valid : IsActor normalized then .ok ⟨normalized, valid⟩
  else .error (.valueError "유효하지 않은 업데이트 요청자입니다")

/-- `_normalize_request_id`. -/
def normalizeRequestId (value : String) : Except PyException Uuid :=
  match Uuid.parse value with
  | none => .error (.valueError "유효하지 않은 원본 업데이트 요청 ID입니다")
  | some id =>
      if id.text = value then .ok id
      else .error (.valueError "유효하지 않은 원본 업데이트 요청 ID입니다")

/-- The payload of a request. It names a source when it asks for an alert again. -/
structure RequestPayload where
  requestId : Uuid
  sourceRequestId : Option Uuid
  targetVersion : { version : String // isVersion version = true }
  actor : { actor : String // IsActor actor }
  requestedAt : { moment : Datetime // moment.InRange }

variable (requestId : Uuid) (now : { moment : Datetime // moment.InRange })

/-- `queue_traefik_patch_update` up to the publication, with the identifier that it draws. -/
def queueTraefikPatchUpdate (targetVersion actor : String) : Except PyException RequestPayload := do
  let targetVersion ← normalizeVersion targetVersion
  let actor ← normalizeActor actor
  .ok { requestId, sourceRequestId := none, targetVersion, actor, requestedAt := now }

/-- `queue_traefik_alert_retry` up to the publication. -/
def queueTraefikAlertRetry (sourceRequestId targetVersion actor : String) :
    Except PyException RequestPayload := do
  let sourceRequestId ← normalizeRequestId sourceRequestId
  let targetVersion ← normalizeVersion targetVersion
  let actor ← normalizeActor actor
  .ok { requestId, sourceRequestId := some sourceRequestId, targetVersion, actor, requestedAt := now }

namespace RequestPayload

def operation (payload : RequestPayload) : RequestOperation :=
  if payload.sourceRequestId.isSome then .rollbackAlertRetry else .patchUpdate

/-- The fields of the document. -/
def fields (payload : RequestPayload) : List (String × Json) :=
  [("schema_version", .int 1), ("operation", .string payload.operation.text),
    ("request_id", .string payload.requestId.text)] ++
  (payload.sourceRequestId.toList.map fun source => ("source_request_id", .string source.text)) ++
  [("target_version", .string payload.targetVersion.1), ("actor", .string payload.actor.1),
    ("requested_at", .string payload.requestedAt.1.isoformatZulu)]

/-- What `_publish_request` writes. -/
def content (payload : RequestPayload) : Bytes :=
  Bytes.encode ((Json.object payload.fields).dumps.toList ++ ['\n'])

end RequestPayload

end Publishing

section RoundTrip

variable {payload : RequestPayload} {request : QueuedRequest}

/-- The request of the runner is the one of the backend. -/
structure QueuedRequest.Describes (request : QueuedRequest) (payload : RequestPayload) : Prop where
  operation : request.operation = payload.operation
  requestId : request.requestId = payload.requestId
  sourceRequestId : request.sourceRequestId = payload.sourceRequestId
  targetVersion : request.targetVersion = payload.targetVersion.1
  actor : request.actor = payload.actor.1
  requestedAt : request.requestedAt = payload.requestedAt.1.isoformatZulu

/-- What the runner asks of a request beyond what the backend has checked. -/
structure RequestPayload.Fits (payload : RequestPayload) : Prop where
  small : payload.content.length ≤ maxRequestBytes
  aware : payload.requestedAt.1.aware = true
  other : payload.sourceRequestId ≠ some payload.requestId

/-- A patch update that is small fits, for the clock of the backend names its zone. -/
theorem fits_of_queueTraefikPatchUpdate {requestId : Uuid}
    {now : { moment : Datetime // moment.InRange }} {targetVersion actor : String}
    (queued : queueTraefikPatchUpdate requestId now targetVersion actor = .ok payload)
    (aware : now.1.aware = true) : payload.Fits ↔ payload.content.length ≤ maxRequestBytes := by
  simp only [queueTraefikPatchUpdate, bind_eq_ok] at queued
  obtain ⟨_, -, _, -, ⟨⟩⟩ := queued
  exact ⟨RequestPayload.Fits.small, fun small => ⟨small, aware, nofun⟩⟩

/-- An alert retry that is small fits when it draws another identifier than that of its source. -/
theorem fits_of_queueTraefikAlertRetry {requestId : Uuid}
    {now : { moment : Datetime // moment.InRange }} {sourceRequestId targetVersion actor : String}
    (queued : queueTraefikAlertRetry requestId now sourceRequestId targetVersion actor = .ok payload)
    (aware : now.1.aware = true) :
    payload.Fits ↔ payload.content.length ≤ maxRequestBytes ∧
      normalizeRequestId sourceRequestId ≠ .ok requestId := by
  simp only [queueTraefikAlertRetry, bind_eq_ok] at queued
  obtain ⟨source, isSource, _, -, _, -, ⟨⟩⟩ := queued
  rw [isSource]
  constructor
  · intro fits
    exact ⟨fits.small, fun same => fits.other (congrArg some (Except.ok.inj same))⟩
  · rintro ⟨small, other⟩
    exact ⟨small, aware, fun same => other (congrArg Except.ok (Option.some.inj same))⟩

theorem exact_fields (payload : RequestPayload) : (Json.object payload.fields).Exact := by
  apply Json.Exact.object
  intro field listed
  simp only [RequestPayload.fields, List.mem_append, List.mem_cons, List.not_mem_nil, or_false,
    List.mem_map] at listed
  obtain ((rfl | rfl | rfl) | ⟨source, -, rfl⟩) | rfl | rfl | rfl := listed
  · exact .int 1
  all_goals exact .string _

private theorem loads_content (payload : RequestPayload) :
    (Bytes.decode payload.content).bind Json.loads = some (.object payload.fields) := by
  rw [RequestPayload.content, Bytes.decode_encode, Option.bind_some, Json.dumps,
    String.toList_ofList]
  exact Json.loads_write_append (exact_fields payload) (by decide)

private theorem get?_fields (payload : RequestPayload) :
    Json.get? payload.fields "schema_version" = some (.int 1) ∧
      Json.get? payload.fields "operation" = some (.string payload.operation.text) ∧
      Json.get? payload.fields "request_id" = some (.string payload.requestId.text) ∧
      Json.get? payload.fields "target_version" = some (.string payload.targetVersion.1) ∧
      Json.get? payload.fields "actor" = some (.string payload.actor.1) ∧
      Json.get? payload.fields "requested_at" =
        some (.string payload.requestedAt.1.isoformatZulu) ∧
      Json.get? payload.fields "source_request_id" =
        payload.sourceRequestId.map fun source => .string source.text := by
  cases isSource : payload.sourceRequestId <;> simp [Json.get?, RequestPayload.fields, isSource]

@[simp] theorem readOperation_text (operation : RequestOperation) :
    readOperation (some (.string operation.text)) = .ok operation := by
  cases operation <;> decide

@[simp] theorem readUuid_text (message : String) (id : Uuid) :
    readUuid message (some (.string id.text)) = .ok id := by
  simp [readUuid, Uuid.parse_text]

private theorem readTextThat_eq_ok {condition : String → Prop} [DecidablePred condition]
    {message text : String} {value : { text : String // condition text }} :
    readTextThat condition message (some (.string text)) = .ok value ↔ text = value.1 := by
  rw [readTextThat]
  split
  · rename_i holds
    constructor
    · rintro ⟨⟩
      rfl
    · intro same
      exact congrArg Except.ok (Subtype.ext same)
  · rename_i fails
    refine iff_of_false nofun ?_
    rintro rfl
    exact fails value.2

/-- The time of a request is read exactly when it names its zone. -/
theorem isSome_parseDatetime {moment : Datetime} (inRange : moment.InRange) :
    (parseDatetime moment.isoformatZulu).isSome = true ↔ moment.aware = true := by
  cases aware : moment.aware with
  | true => simp [parseDatetime, Datetime.fromIsoformat_spellZulu aware inRange, aware]
  | false =>
      have unchanged : moment.isoformatZulu = moment.isoformat := by
        rw [Datetime.isoformatZulu, aware]
        rfl
      simp [parseDatetime, unchanged, Datetime.spellZulu_isoformat,
        Datetime.fromIsoformat_isoformat inRange, aware]

/-- The source is read when the request names another request. -/
theorem readSource_fields {operation : RequestOperation} (isOperation : payload.operation = operation) :
    (∀ source, readSource payload.requestId
        (payload.sourceRequestId.map fun source => .string source.text) operation = .ok source →
      source.1 = payload.sourceRequestId ∧ payload.sourceRequestId ≠ some payload.requestId) ∧
    (payload.sourceRequestId ≠ some payload.requestId → ∃ source, readSource payload.requestId
        (payload.sourceRequestId.map fun source => .string source.text) operation = .ok source) := by
  subst isOperation
  obtain ⟨requestId, sourceRequestId, targetVersion, actor, requestedAt⟩ := payload
  cases sourceRequestId with
  | none =>
      refine ⟨?_, fun _ => ⟨⟨none, rfl⟩, rfl⟩⟩
      rintro source ⟨⟩
      exact ⟨rfl, nofun⟩
  | some id =>
      show (∀ source, readSource requestId (some (.string id.text)) .rollbackAlertRetry = .ok source →
          source.1 = some id ∧ some id ≠ some requestId) ∧
        (some id ≠ some requestId →
          ∃ source, readSource requestId (some (.string id.text)) .rollbackAlertRetry = .ok source)
      have isRead : readSource requestId (some (.string id.text)) .rollbackAlertRetry =
          if differs : id ≠ requestId then .ok ⟨some id, id, rfl, differs⟩
          else .error (.valueError "알림 재시도 원본 요청 ID가 올바르지 않습니다") := by
        rw [readSource, readUuid_text]
        rfl
      rw [isRead]
      split
      · rename_i differs
        refine ⟨?_, fun _ => ⟨_, rfl⟩⟩
        rintro source ⟨⟩
        exact ⟨rfl, fun same => differs (Option.some.inj same)⟩
      · rename_i same
        exact ⟨nofun, fun differs => absurd (congrArg some (not_not.mp same)) differs⟩

private theorem describes_of_readFields (isRead : readFields payload.fields = .ok request) :
    payload.requestedAt.1.aware = true ∧ payload.sourceRequestId ≠ some payload.requestId ∧
      request.Describes payload := by
  obtain ⟨-, operation, requestId, targetVersion, actor, requestedAt, source⟩ := get?_fields payload
  simp only [readFields, bind_eq_ok, operation, requestId, targetVersion, actor, requestedAt, source,
    readOperation_text, readUuid_text, readTextThat_eq_ok, Except.ok.injEq] at isRead
  obtain ⟨_, rfl, _, rfl, version, isVersion, actor, isActor, requestedAt, isRequestedAt, source,
    isSource, rfl⟩ := isRead
  obtain ⟨same, other⟩ := (readSource_fields rfl).1 source isSource
  refine ⟨?_, other, ⟨rfl, rfl, same, isVersion.symm, isActor.symm, isRequestedAt.symm⟩⟩
  have valid := requestedAt.2
  rw [← isRequestedAt] at valid
  exact (isSome_parseDatetime payload.requestedAt.2).mp valid

private theorem exists_readFields (aware : payload.requestedAt.1.aware = true)
    (other : payload.sourceRequestId ≠ some payload.requestId) :
    ∃ request, readFields payload.fields = .ok request := by
  obtain ⟨-, operation, requestId, targetVersion, actor, requestedAt, source⟩ := get?_fields payload
  obtain ⟨isSource, readsSource⟩ := (readSource_fields rfl).2 other
  have valid := (isSome_parseDatetime payload.requestedAt.2).mpr aware
  simp only [readFields, bind_eq_ok, operation, requestId, targetVersion, actor, requestedAt, source,
    readOperation_text, readUuid_text, readTextThat_eq_ok, Except.ok.injEq]
  exact ⟨_, _, rfl, _, rfl, payload.targetVersion, rfl, payload.actor, rfl, ⟨_, valid⟩, rfl,
    isSource, readsSource, rfl⟩

private theorem readRequest_eq (small : payload.content.length ≤ maxRequestBytes) :
    readRequest payload.content payload.content = readFields payload.fields := by
  obtain ⟨text, isText, isJson⟩ := Option.bind_eq_some_iff.mp (loads_content payload)
  have schema : isSchemaOne (Json.get? payload.fields "schema_version") = true := by
    rw [(get?_fields payload).1]
    rfl
  simp only [readRequest, if_neg (Nat.not_lt.mpr small), isText, isJson, schema, if_true]

/-- **What the runner reads.** The runner accepts what the backend has published exactly when it
fits, and what it then reads is the request that was published. -/
theorem readRequest_content (payload : RequestPayload) :
    ((∃ request, readRequest payload.content payload.content = .ok request) ↔ payload.Fits) ∧
      ∀ request, readRequest payload.content payload.content = .ok request →
        request.Describes payload := by
  by_cases small : payload.content.length ≤ maxRequestBytes
  · rw [readRequest_eq small]
    refine ⟨⟨?_, fun fits => exists_readFields fits.aware fits.other⟩, fun request isRead => ?_⟩
    · rintro ⟨request, isRead⟩
      obtain ⟨aware, other, -⟩ := describes_of_readFields isRead
      exact ⟨small, aware, other⟩
    · exact (describes_of_readFields isRead).2.2
  · have refused : ∀ request, readRequest payload.content payload.content ≠ .ok request := by
      intro request isRead
      rw [readRequest, if_pos (Nat.not_le.mp small)] at isRead
      cases isRead
    exact ⟨iff_of_false (fun ⟨request, isRead⟩ => refused request isRead) fun fits =>
      small fits.small, fun request isRead => absurd isRead (refused request)⟩

end RoundTrip

end TraefikManager.Update
