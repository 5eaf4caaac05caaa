import TraefikManager.Update.Runtime

/-!
# The history of recreations

After each recreation the runner compares the container with the one before it, records
the change and remembers the new one.
-/

namespace TraefikManager.Update

open Foundation

section Identity

/-- The container as docker identifies it. -/
structure Container where
  containerId : String
  createdAt : String
  image : String
  deriving DecidableEq, Repr

def Container.fields (container : Container) : List (String × Json) :=
  [("container_id", .string container.containerId), ("created_at", .string container.createdAt),
    ("image", .string container.image)]

/-- `CONTAINER_ID_PATTERN.fullmatch`. -/
def isContainerId (text : String) : Bool :=
  text.toList.length = 64 ∧
    text.toList.all fun c => Text.isDigit c || decide ('a' ≤ c ∧ c ≤ 'f')

/-- `_is_valid_image`. -/
def isValidImage (text : String) : Bool :=
  text ≠ "" ∧ text.toList.length ≤ 200 ∧ text.toList.all fun c => decide (32 ≤ c.toNat)

/-- `raw.split("|", 2)`, when there are three parts. -/
def splitBars (text : String) : Option (String × String × String) := do
  let (containerId, rest) ← Text.splitFirst ['|'] text.toList
  let (createdAt, image) ← Text.splitFirst ['|'] rest
  some (String.ofList containerId, String.ofList createdAt, String.ofList image)

variable (environment : UpdateEnvironment)

/-- `current_container`. -/
def currentContainer (moment : Moment) : Except UpdateError Container := do
  let raw ← dockerInspect environment moment .identity
  match splitBars raw with
  | none => .error (.valueError "Traefik 컨테이너 식별 정보를 확인할 수 없습니다")
  | some (containerId, createdAt, image) =>
      if ¬isContainerId containerId then
        .error (.valueError "Traefik 컨테이너 ID가 올바르지 않습니다")
      else if (environment.parseDatetime createdAt).isNone then
        .error (.valueError "Traefik 컨테이너 생성 시각이 올바르지 않습니다")
      else if ¬isValidImage image then
        .error (.valueError "Traefik 컨테이너 이미지가 올바르지 않습니다")
      else .ok { containerId, createdAt, image }

/-- `safe_current_container_id`. -/
def safeCurrentContainerId (moment : Moment) : Option String :=
  (currentContainer environment moment).toOption.map (·.containerId)

end Identity

section State

variable (environment : UpdateEnvironment)

def maxStateBytes : Nat := 4096

/-- The container a state file holds, when its fields are as `_read_state` wants them. -/
def containerOf (fields : List (String × Json)) : Option Container :=
  match Json.get? fields "container_id", Json.get? fields "created_at", Json.get? fields "image" with
  | some (.string containerId), some (.string createdAt), some (.string image) =>
      if isContainerId containerId ∧ (environment.parseDatetime createdAt).isSome ∧
          isValidImage image then
        some { containerId, createdAt, image }
      else none
  | _, _, _ => none

/-- `_read_state`. -/
def readRecreateState (stage : Stage) (state : Option String) :
    Except UpdateError (Option Container) :=
  match state with
  | none => .ok none
  | some text => do
      reached environment (.readRecreateState stage)
      if maxStateBytes < text.utf8ByteSize then
        .error (.valueError "Traefik 재생성 기준 상태 파일이 올바르지 않습니다")
      else
        match Json.loads text with
        | none => .error (.valueError (environment.decodeErrorText text))
        | some (.object fields) =>
            match containerOf environment fields with
            | some container => .ok (some container)
            | none => .error (.valueError "Traefik 재생성 기준 상태가 올바르지 않습니다")
        | some _ => .error (.valueError "Traefik 재생성 기준 상태가 올바르지 않습니다")

/-- `_write_state`. -/
def writeRecreateState (stage : Stage) (container : Container) : Runner PUnit := do
  reach environment (.writeRecreateState stage)
  modify ({ · with recreateState := some ((Json.object container.fields).dumps ++ "\n") })

end State

section Recording

variable (environment : UpdateEnvironment) (stage : Stage) (request : UpdateRequest)

/-- The recreation a stage is recorded with. -/
def recreationSource : Stage → String
  | .rollback => "rollback"
  | _ => "patch_update"

/-- `_history_entry` of the recreation history, for a managed recreation. -/
def recreationEntry (current : Container) (previousContainerId : Option String) : Json :=
  .object <| [("schema_version", .int 1)] ++ current.fields ++
    [("previous_container_id", .ofOption previousContainerId), ("status", .string "managed"),
      ("source", .string (recreationSource stage)), ("request_id", .string request.requestId.text),
      ("actor", .string request.actor), ("alert_request_status", .string "not_needed"),
      ("alert_channel", .null),
      ("observed_at", .string (environment.observedAt stage).isoformatZulu)]

/-- `record_managed_recreation`. The request is a valid one, as `read_request` leaves it. -/
def recordManagedRecreation (previousContainerId : Option String) : Runner Bool := do
  let current ← Program.ofExcept (currentContainer environment (.recreated stage))
  let host ← get
  let previous ← Program.ofExcept <|
    match previousContainerId with
    | some previous => .ok (some previous)
    | none => (readRecreateState environment stage host.recreateState).map
        (Option.map (·.containerId))
  if previous = some current.containerId then
    writeRecreateState environment stage current
    return false
  else
    appendTo (environment.recreateHistoryFails stage)
      (fun change host => { host with recreateHistory := change host.recreateHistory })
      (recreationEntry environment stage request current previous).dumps
    writeRecreateState environment stage current
    return true

/-- `_record_recreation_check`: a time-out of docker is not caught. -/
def recordRecreationCheck (previousContainerId : Option String) : Runner Check := do
  let recorded ← Program.attempt
    (recordManagedRecreation environment stage request previousContainerId)
  match recorded with
  | .ok true => return validation "recreation_audit" true "Traefik 컨테이너 재생성 이력 기록"
  | .ok false => return validation "recreation_audit" true "컨테이너 재생성 없음"
  | .error failure =>
      if failure.isTimeout then throw failure
      else
        return validation "recreation_audit" false
          ("Traefik 재생성 이력 기록 실패: " ++ message failure.text)

end Recording

end TraefikManager.Update
