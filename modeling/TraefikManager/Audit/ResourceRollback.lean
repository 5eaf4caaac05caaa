import TraefikManager.Foundation.SessionParts
import TraefikManager.Runtime

/-!
# Taking recorded changes back

The routes of redirect hosts, middleware templates and users record a change in the same
way, with what the resource was before and after it and, where the change can be taken
back, with a request that asks for the old values of what changed. The rollback sends
this request through the schema of the update and through its use case.
-/

namespace TraefikManager.Audit

open Foundation

section Definitions

/-- The keys on which two summaries differ. -/
def changedKeys (compared : List (String × Bool)) : List String :=
  compared.filterMap fun (key, same) => if same then none else some key

/-- A field validator on a field that may be absent. -/
def validatePresent {α β : Type} (validate : α → Except PyException β) :
    Option α → Except PyException (Option β)
  | none => .ok none
  | some value => (validate value).map some

/-- What an audit record says of its event. -/
inductive ChangeDetail (σ π : Type) where
  | event (event : String)
  | change (event : String) (changedKeys : List String) (before after : σ)
      (rollbackPayload : Option π)

/-- What a route passes as the name of a resource. The column takes a text and no `DomainName`. -/
inductive ResourceName where
  | text (value : String)
  | domainName (value : String)
  deriving DecidableEq, Repr

/-- An audit record, with summaries `σ` and update requests `π`. -/
structure ChangeLog (σ π : Type) where
  id : String
  action : String
  resourceType : String
  resourceId : Uuid
  resourceName : ResourceName
  detail : ChangeDetail σ π

/-- What the routes of a kind of resource `ρ` record, and their messages. The summary after an
update may tell what was submitted. -/
structure AuditedKind (ρ σ π : Type) where
  resourceType : String
  updateEvent : String
  rollbackEvent : String
  logNotFound : String
  otherLog : String
  unsupported : String
  notFound : String
  updateNotFound : String
  id : ρ → Uuid
  updateName : ρ → ResourceName
  rollbackName : ρ → ResourceName
  summary : ρ → σ
  updatedSummary : π → ρ → σ
  changedKeys : σ → σ → List String
  rollbackPayload : π → σ → σ → Option π
  validate : π → Except PyException π

/-- The steps of a route on the audit log and the transaction. -/
inductive RouteStep where
  | findAuditLog
  | flushAuditLog
  | commit
  deriving DecidableEq, Repr

/-- The use cases of a kind, and what reaching a step of the route may raise. -/
structure ResourceUseCases (D X ρ π : Type) where
  get : Uuid → Program PyException (Session D X) (Option ρ)
  update : Uuid → π → Program PyException (Session D X) (Option ρ)
  reach : RouteStep → Program PyException (Session D X) PUnit

/-- A session on the tables and the audit log. -/
abbrev AuditedSession (D X σ π : Type) := Session (D × List (ChangeLog σ π)) X

variable {D X ρ σ π : Type}

/-- `audit_service.record`. An error of its flush is swallowed where it occurs, and so is that of a
name that is no text; it leaves the transaction unusable, so that the call fails at its commit. -/
def recordChange (useCases : ResourceUseCases D X ρ π) (log : ChangeLog σ π) :
    Program PyException (AuditedSession D X σ π) PUnit := do
  Session.onFirst (useCases.reach .flushAuditLog)
  match log.resourceName with
  | .domainName _ => throw (.databaseError "PendingRollbackError")
  | .text _ =>
      modify fun session =>
        { session with working := (session.working.1, session.working.2 ++ [log]) }

/-- `except ValueError` of the routes. -/
def reportingValueErrors {S α : Type} (body : Program PyException S α) : Program PyException S α :=
  tryCatch body fun failure =>
    match failure with
    | .valueError message => throw (.httpException 400 message)
    | other => throw other

namespace AuditedKind

variable (kind : AuditedKind ρ σ π) (useCases : ResourceUseCases D X ρ π)

/-- The record of an update. -/
def updateLog (newLogId : String) (data : π) (before after : ρ) : ChangeLog σ π :=
  let beforeSummary := kind.summary before
  let afterSummary := kind.updatedSummary data after
  { id := newLogId, action := "update", resourceType := kind.resourceType
    resourceId := kind.id after, resourceName := kind.updateName after
    detail := .change kind.updateEvent (kind.changedKeys beforeSummary afterSummary)
      beforeSummary afterSummary (kind.rollbackPayload data beforeSummary afterSummary) }

/-- The record of a rollback; it cannot be taken back itself. -/
def rollbackLog (newLogId : String) (before after : ρ) : ChangeLog σ π :=
  let beforeSummary := kind.summary before
  let afterSummary := kind.summary after
  { id := newLogId, action := "rollback", resourceType := kind.resourceType
    resourceId := kind.id after, resourceName := kind.rollbackName after
    detail := .change kind.rollbackEvent (kind.changedKeys beforeSummary afterSummary)
      beforeSummary afterSummary none }

/-- The update route. -/
def updateAction (newLogId : String) (resourceId : Uuid) (data : π) :
    Program PyException (AuditedSession D X σ π) ρ := do
  let updated ← reportingValueErrors do
    let before ← Session.onFirst (useCases.get resourceId)
    let after ← Session.onFirst (useCases.update resourceId data)
    match before, after with
    | some before, some after =>
        recordChange useCases (kind.updateLog newLogId data before after)
        pure (some after)
    | _, after => pure after
  match updated with
  | none => throw (.httpException 404 kind.updateNotFound)
  | some after => pure after

/-- `_get_…_update_audit_log`. -/
def getUpdateAuditLog (auditLogId : String) :
    Program PyException (AuditedSession D X σ π) (ChangeLog σ π) := do
  Session.onFirst (useCases.reach .findAuditLog)
  let session ← get
  match session.working.2.find? (·.id = auditLogId) with
  | none => throw (.httpException 404 kind.logNotFound)
  | some auditLog =>
      if auditLog.resourceType ≠ kind.resourceType ∨ auditLog.action ≠ "update" then
        throw (.httpException 422 kind.otherLog)
      else pure auditLog

/-- `_get_supported_…_rollback_payload`. -/
def getSupportedRollbackPayload (auditLog : ChangeLog σ π) : Except PyException π :=
  match auditLog.detail with
  | .change event _ _ _ (some payload) =>
      if event ≠ kind.updateEvent then .error (.httpException 422 kind.unsupported)
      else .ok payload
  | _ => .error (.httpException 422 kind.unsupported)

/-- `rollback_…_change_action`. What the use case raises is not reported here. -/
def rollbackAction (auditLogId newLogId : String) :
    Program PyException (AuditedSession D X σ π) ρ := do
  let auditLog ← kind.getUpdateAuditLog useCases auditLogId
  let rollbackPayload ← Program.ofExcept (kind.getSupportedRollbackPayload auditLog)
  match ← Session.onFirst (useCases.get auditLog.resourceId) with
  | none => throw (.httpException 404 kind.notFound)
  | some current =>
      let payload ← Program.ofExcept (kind.validate rollbackPayload)
      match ← Session.onFirst (useCases.update auditLog.resourceId payload) with
      | none => throw (.httpException 404 kind.notFound)
      | some updated =>
          recordChange useCases (kind.rollbackLog newLogId current updated)
          pure updated

end AuditedKind

/-- A route in the transaction of its request. -/
def inTransaction {α : Type} (useCases : ResourceUseCases D X ρ π)
    (body : Program PyException (AuditedSession D X σ π) α) :
    Program PyException (AuditedSession D X σ π) α :=
  Session.transaction
    (do
      Session.onFirst (useCases.reach .commit)
      modify fun session => { session with stored := session.working })
    body

end Definitions

section Laws

/-- What a rollback makes of one field: the recorded value where the change had changed it,
and the current one where it had not. -/
def Restored {α : Type} (same : Prop) (before current restored : α) : Prop :=
  (¬same → restored = before) ∧ (same → restored = current)

/-- What the routes of a kind rest on. The tables are sound when every stored resource is
valid and the resources are apart from each other as the kind demands. -/
structure Specification (D ρ σ π : Type) where
  lookup : D → Uuid → Option ρ
  Sound : D → Prop
  Valid : ρ → Prop
  Updated : ρ → π → ρ → Prop
  Restores : σ → σ → σ → σ → Prop

variable {D X ρ σ π : Type}

/-- The use cases of a kind do what its specification says. -/
structure Lawful (kind : AuditedKind ρ σ π) (useCases : ResourceUseCases D X ρ π)
    (spec : Specification D ρ σ π) : Prop where
  valid : ∀ tables id resource, spec.Sound tables → spec.lookup tables id = some resource →
    spec.Valid resource
  get : ∀ id, Session.Transacts (useCases.get id) (fun before found after =>
    found = spec.lookup before.1 id ∧ after.1 = before.1)
  update : ∀ id data, Session.Transacts (useCases.update id data) (fun before result after =>
    (result = none ∧ after.1 = before.1) ∨
      ∃ current next, spec.lookup before.1 id = some current ∧ spec.Updated current data next ∧
        result = some next ∧ spec.lookup after.1 id = some next ∧
          (spec.Sound before.1 → spec.Sound after.1))
  reach : ∀ step, Session.Transacts (useCases.reach step) (fun before _ after =>
    after.1 = before.1)
  restores : ∀ data before after payload request current restored,
    spec.Valid before → spec.Valid after → spec.Valid current →
      kind.rollbackPayload data (kind.summary before) (kind.updatedSummary data after) =
        some payload →
        kind.validate payload = .ok request → spec.Updated current request restored →
          spec.Restores (kind.summary before) (kind.updatedSummary data after)
            (kind.summary current) (kind.summary restored)

/-- A record whose rollback is supported is one of an update of a valid resource. -/
def Genuine (kind : AuditedKind ρ σ π) (spec : Specification D ρ σ π) (log : ChangeLog σ π) :
    Prop :=
  ∀ keys beforeSummary afterSummary payload,
    log.detail = .change kind.updateEvent keys beforeSummary afterSummary (some payload) →
      ∃ data before after, spec.Valid before ∧ spec.Valid after ∧
        beforeSummary = kind.summary before ∧ afterSummary = kind.updatedSummary data after ∧
          kind.rollbackPayload data beforeSummary afterSummary = some payload

/-- The stored resources are sound and the records genuine. -/
structure Traceable (kind : AuditedKind ρ σ π) (spec : Specification D ρ σ π)
    (database : D × List (ChangeLog σ π)) : Prop where
  sound : spec.Sound database.1
  genuine : ∀ log ∈ database.2, Genuine kind spec log

end Laws

section Actions

variable {D X ρ σ π : Type} {kind : AuditedKind ρ σ π} {useCases : ResourceUseCases D X ρ π}
  {spec : Specification D ρ σ π}

private theorem transacts_recordChange (lawful : Lawful kind useCases spec) (log : ChangeLog σ π) :
    Session.Transacts (recordChange useCases log) (fun before _ after =>
      after.1 = (before.1.1, before.1.2 ++ [log]) ∧
        ∃ name, log.resourceName = .text name) := by
  unfold recordChange
  refine (lawful.reach .flushAuditLog).onFirst.bind fun _ => ?_
  cases log.resourceName with
  | domainName value => exact Session.transacts_throw _
  | text name =>
      have modifies : Session.Transacts (modify fun session : AuditedSession D X σ π =>
          { session with working := (session.working.1, session.working.2 ++ [log]) } :
            Program PyException (AuditedSession D X σ π) PUnit)
          (fun before _ after => after.1 = (before.1.1, before.1.2 ++ [log])) := by
        constructor
        intro session
        simp [Session.contents]
      refine modifies.mono ?_
      intro middle _ after recorded before same
      exact ⟨by rw [recorded, same.1, same.2], name, rfl⟩

private theorem transacts_reportingValueErrors {D X α : Type}
    {body : Program PyException (Session D X) α} {relation : D × X → α → D × X → Prop}
    (transacts : Session.Transacts body relation) :
    Session.Transacts (reportingValueErrors body) relation :=
  transacts.tryCatch fun failure => by cases failure <;> exact Session.transacts_throw _

/-- What an update changes: one resource, and the record of it, for which it has a text as its
name. -/
def UpdateEffect (kind : AuditedKind ρ σ π) (spec : Specification D ρ σ π) (newLogId : String)
    (resourceId : Uuid) (data : π) (before : D × List (ChangeLog σ π)) (result : ρ)
    (after : D × List (ChangeLog σ π)) : Prop :=
  ∃ current, spec.lookup before.1 resourceId = some current ∧
    spec.lookup after.1 resourceId = some result ∧ (spec.Sound before.1 → spec.Sound after.1) ∧
      after.2 = before.2 ++ [kind.updateLog newLogId data current result] ∧
        ∃ name, kind.updateName result = .text name

/-- What a rollback changes: the stored resource, by the validated request of the record. -/
def RollbackEffect (kind : AuditedKind ρ σ π) (spec : Specification D ρ σ π)
    (auditLogId newLogId : String) (before : D × List (ChangeLog σ π)) (result : ρ)
    (after : D × List (ChangeLog σ π)) : Prop :=
  ∃ log raw payload current, before.2.find? (·.id = auditLogId) = some log ∧
    kind.getSupportedRollbackPayload log = .ok raw ∧ kind.validate raw = .ok payload ∧
      spec.lookup before.1 log.resourceId = some current ∧ spec.Updated current payload result ∧
        spec.lookup after.1 log.resourceId = some result ∧
          (spec.Sound before.1 → spec.Sound after.1) ∧
            after.2 = before.2 ++ [kind.rollbackLog newLogId current result]

theorem transacts_updateAction (lawful : Lawful kind useCases spec) (newLogId : String)
    (resourceId : Uuid) (data : π) :
    Session.Transacts (kind.updateAction useCases newLogId resourceId data)
      (fun before result after =>
        UpdateEffect kind spec newLogId resourceId data before.1 result after.1) := by
  have body : Session.Transacts (do
      let before ← Session.onFirst (useCases.get resourceId)
      let after ← Session.onFirst (useCases.update resourceId data)
      match before, after with
      | some before, some after =>
          recordChange useCases (kind.updateLog newLogId data before after)
          pure (some after)
      | _, after => pure after : Program PyException (AuditedSession D X σ π) (Option ρ))
      (fun before result after => ∀ next, result = some next →
        UpdateEffect kind spec newLogId resourceId data before.1 next after.1) := by
    refine (lawful.get resourceId).onFirst.bind fun found => ?_
    refine (lawful.update resourceId data).onFirst.bind fun result => ?_
    cases result with
    | none =>
        have nothing : Session.Transacts (pure none : Program PyException
            (AuditedSession D X σ π) (Option ρ)) (fun _ result _ => result = none) :=
          (Session.transacts_pure none).mono fun _ _ _ same => same.1
        cases found <;>
        · refine nothing.mono ?_
          intro second last after isNone first _ before _ next isNext
          rw [isNone] at isNext
          cases isNext
    | some next =>
        cases found with
        | none =>
            -- What the use case updates is what the route found before.
            refine (Session.transacts_pure (some next)).mono ?_
            rintro second last after - first ⟨updated, -⟩ before ⟨⟨isNone, same⟩, -⟩
            rcases updated with ⟨impossible, -⟩ | ⟨current, _, isCurrent, -⟩
            · cases impossible
            · rw [same, ← isNone] at isCurrent
              cases isCurrent
        | some current =>
            refine (transacts_recordChange lawful _).bind fun _ => ?_
            refine (Session.transacts_pure (some next)).mono ?_
            rintro third last after ⟨rfl, rfl⟩ second ⟨recorded, isName⟩ first ⟨updated, sameLogs⟩
              before ⟨⟨isCurrent, same⟩, sameLogs'⟩ final isFinal
            cases isFinal
            rcases updated with ⟨impossible, -⟩ | ⟨other, _, -, -, isNext, stored, sound⟩
            · cases impossible
            · cases isNext
              rw [recorded]
              refine ⟨current, isCurrent.symm, stored, ?_, ?_, isName⟩
              · rw [← same]
                exact sound
              · rw [sameLogs, sameLogs']
  unfold AuditedKind.updateAction
  refine (transacts_reportingValueErrors body).bind fun updated => ?_
  cases updated with
  | none => exact Session.transacts_throw _
  | some next =>
      refine (Session.transacts_pure next).mono ?_
      rintro middle result after ⟨rfl, rfl⟩ before implies
      exact implies _ rfl

private theorem transacts_getUpdateAuditLog (lawful : Lawful kind useCases spec)
    (auditLogId : String) :
    Session.Transacts (kind.getUpdateAuditLog useCases auditLogId) (fun before log after =>
      before.1.2.find? (·.id = auditLogId) = some log ∧ after.1 = before.1) := by
  unfold AuditedKind.getUpdateAuditLog
  refine (lawful.reach .findAuditLog).onFirst.bind fun _ => ?_
  refine Session.transacts_get.bind fun session => ?_
  cases found : session.working.2.find? (·.id = auditLogId) with
  | none => exact Session.transacts_throw _
  | some auditLog =>
      refine .ite (fun _ => Session.transacts_throw _) fun _ => ?_
      refine (Session.transacts_pure auditLog).mono ?_
      rintro second log after ⟨rfl, rfl⟩ first ⟨rfl, rfl⟩ before ⟨sameTables, sameLogs⟩
      have same : session.contents.1 = before.1 := Prod.ext sameTables sameLogs
      exact ⟨by rw [← same]; exact found, same⟩

private theorem supported_ok {log : ChangeLog σ π} {payload : π}
    (supported : kind.getSupportedRollbackPayload log = .ok payload) :
    ∃ keys before after, log.detail = .change kind.updateEvent keys before after (some payload) := by
  unfold AuditedKind.getSupportedRollbackPayload at supported
  split at supported
  · rename_i event keys before after other isDetail
    split at supported
    · cases supported
    · rename_i sameEvent
      cases supported
      rw [not_not] at sameEvent
      exact ⟨keys, before, after, by rw [isDetail, sameEvent]⟩
  · cases supported

private theorem transacts_rollbackAction (lawful : Lawful kind useCases spec)
    (auditLogId newLogId : String) :
    Session.Transacts (kind.rollbackAction useCases auditLogId newLogId)
      (fun before result after =>
        RollbackEffect kind spec auditLogId newLogId before.1 result after.1) := by
  unfold AuditedKind.rollbackAction
  refine (transacts_getUpdateAuditLog lawful auditLogId).bind fun log => ?_
  refine (Session.transacts_ofExcept _).bind fun raw => ?_
  refine (lawful.get log.resourceId).onFirst.bind fun found => ?_
  cases found with
  | none => exact Session.transacts_throw _
  | some current =>
      refine (Session.transacts_ofExcept _).bind fun payload => ?_
      refine (lawful.update log.resourceId payload).onFirst.bind fun result => ?_
      cases result with
      | none => exact Session.transacts_throw _
      | some updated =>
          refine (transacts_recordChange lawful _).bind fun _ => ?_
          refine (Session.transacts_pure updated).mono ?_
          rintro last result after ⟨rfl, rfl⟩ fifth ⟨recorded, -⟩ fourth ⟨isUpdated, sameLogs⟩ third
            ⟨accepted, rfl⟩ second ⟨⟨isCurrent, same⟩, sameLogs'⟩ first ⟨supported, rfl⟩ before
            ⟨isLog, sameTables⟩
          rcases isUpdated with ⟨impossible, -⟩ | ⟨other, _, isOther, change, isResult, stored, sound⟩
          · cases impossible
          · cases isResult
            rw [same, ← isCurrent] at isOther
            cases isOther
            rw [recorded]
            rw [← sameTables] at isLog ⊢
            refine ⟨log, raw, payload, current, isLog, supported, accepted, isCurrent.symm, change,
              stored, ?_, ?_⟩
            · rw [← same]
              exact sound
            · rw [sameLogs, sameLogs']

/-- A route whose body transacts stores what the body left, or nothing. -/
theorem ensures_inTransaction {α : Type} (lawful : Lawful kind useCases spec)
    {body : Program PyException (AuditedSession D X σ π) α}
    {relation : D × List (ChangeLog σ π) → α → D × List (ChangeLog σ π) → Prop}
    (transacts : Session.Transacts body (fun before value after => relation before.1 value after.1))
    (session : AuditedSession D X σ π) :
    Program.Ensures (inTransaction useCases body)
      (fun value next => relation session.stored value next.stored)
      (fun _ next => next.stored = session.stored) session := by
  unfold inTransaction
  rw [Session.ensures_transaction]
  refine (transacts.ensures session.rolledBack).mono ?_ ?_
  · rintro value next ⟨same, related⟩
    rw [Program.ensures_bind]
    refine ((lawful.reach .commit).onFirst.ensures next).mono ?_ ?_
    · rintro _ closed ⟨-, sameTables, sameLogs⟩
      rw [Program.ensures_modify]
      have left : closed.working = next.working := Prod.ext sameTables sameLogs
      show relation session.stored value closed.working
      rw [left]
      exact related
    · intro _ failed sameStored
      exact sameStored.trans same
  · exact fun _ _ same => same

end Actions

section Runs

variable {D X ρ σ π E : Type}

/-- The sessions that a run of the routes of a kind reaches. Other routes change the tables as
`others` allows, and record what is no update of the kind. -/
inductive AuditedRun (kind : AuditedKind ρ σ π) (useCases : E → ResourceUseCases D X ρ π)
    (starts : D → Prop) (others : Session D X → Session D X → Prop) :
    AuditedSession D X σ π → Prop where
  | start {session : AuditedSession D X σ π} (begins : starts session.stored.1)
      (noLogs : session.stored.2 = []) : AuditedRun kind useCases starts others session
  | update {session : AuditedSession D X σ π}
      (reached : AuditedRun kind useCases starts others session) (environment : E)
      (newLogId : String) (resourceId : Uuid) (data : π) :
      AuditedRun kind useCases starts others (Program.finalState
        (inTransaction (useCases environment)
          (kind.updateAction (useCases environment) newLogId resourceId data)) session)
  | rollback {session : AuditedSession D X σ π}
      (reached : AuditedRun kind useCases starts others session) (environment : E)
      (auditLogId newLogId : String) :
      AuditedRun kind useCases starts others (Program.finalState
        (inTransaction (useCases environment)
          (kind.rollbackAction (useCases environment) auditLogId newLogId)) session)
  | elsewhere {session : AuditedSession D X σ π}
      (reached : AuditedRun kind useCases starts others session) {next : Session D X}
      (changed : others session.first next) {logs : List (ChangeLog σ π)}
      (foreign : ∀ log ∈ logs, ∀ keys before after payload,
        log.detail ≠ .change kind.updateEvent keys before after payload) :
      AuditedRun kind useCases starts others
        ⟨(next.stored, session.stored.2 ++ logs), (next.working, session.working.2),
          next.outside⟩

/-- Rolling a recorded change back either raises and stores nothing, or stores a resource whose
changed fields are as recorded and whose other fields are as they were, in sound tables. -/
def RollbackRestores (kind : AuditedKind ρ σ π) (useCases : E → ResourceUseCases D X ρ π)
    (spec : Specification D ρ σ π) (session : AuditedSession D X σ π) : Prop :=
  ∀ environment auditLogId newLogId log keys before after payload,
    session.stored.2.find? (·.id = auditLogId) = some log →
      log.detail = .change kind.updateEvent keys before after (some payload) →
        Program.Ensures
          (inTransaction (useCases environment)
            (kind.rollbackAction (useCases environment) auditLogId newLogId))
          (fun restored next => ∃ current,
            spec.lookup session.stored.1 log.resourceId = some current ∧
              spec.lookup next.stored.1 log.resourceId = some restored ∧
                spec.Restores before after (kind.summary current) (kind.summary restored) ∧
                  spec.Sound next.stored.1)
          (fun _ next => next.stored = session.stored) session

variable {kind : AuditedKind ρ σ π} {useCases : E → ResourceUseCases D X ρ π}
  {spec : Specification D ρ σ π} {session : AuditedSession D X σ π}

private theorem genuine_updateLog {before after : ρ} (validBefore : spec.Valid before)
    (validAfter : spec.Valid after) (newLogId : String) (data : π) :
    Genuine kind spec (kind.updateLog newLogId data before after) := by
  intro keys beforeSummary afterSummary payload isDetail
  obtain ⟨-, -, rfl, rfl, isPayload⟩ := ChangeDetail.change.inj isDetail
  exact ⟨data, before, after, validBefore, validAfter, rfl, rfl, isPayload⟩

private theorem genuine_rollbackLog (newLogId : String) (before after : ρ) :
    Genuine kind spec (kind.rollbackLog newLogId before after) := by
  intro keys beforeSummary afterSummary payload isDetail
  simp [AuditedKind.rollbackLog] at isDetail

theorem Traceable.append {tables next : D} {logs : List (ChangeLog σ π)}
    (traceable : Traceable kind spec (tables, logs)) (sound : spec.Sound next)
    {added : List (ChangeLog σ π)} (genuine : ∀ log ∈ added, Genuine kind spec log) :
    Traceable kind spec (next, logs ++ added) := by
  refine ⟨sound, ?_⟩
  intro log listed
  rcases List.mem_append.mp listed with old | new
  · exact traceable.genuine log old
  · exact genuine log new

/-- An update keeps the stored data traceable. -/
theorem traceable_update (lawful : ∀ environment, Lawful kind (useCases environment) spec)
    (traceable : Traceable kind spec session.stored) (environment : E) (newLogId : String)
    (resourceId : Uuid) (data : π) :
    Traceable kind spec (Program.finalState (inTransaction (useCases environment)
      (kind.updateAction (useCases environment) newLogId resourceId data)) session).stored := by
  apply Program.Ensures.finalState
    (fun next : AuditedSession D X σ π => Traceable kind spec next.stored)
  refine (ensures_inTransaction (lawful environment)
    (transacts_updateAction (lawful environment) newLogId resourceId data) session).mono ?_ ?_
  · rintro result next ⟨current, isCurrent, isResult, sound, logs, -⟩
    have isSound := sound traceable.sound
    have genuine : ∀ log ∈ [kind.updateLog newLogId data current result],
        Genuine kind spec log := by
      intro log listed
      rw [List.mem_singleton.mp listed]
      exact genuine_updateLog
        ((lawful environment).valid _ _ _ traceable.sound isCurrent)
        ((lawful environment).valid _ _ _ isSound isResult) newLogId data
    have appended := traceable.append isSound genuine
    rw [← logs] at appended
    exact appended
  · intro _ next same
    rw [same]
    exact traceable

/-- A rollback keeps the stored data traceable. -/
theorem traceable_rollback (lawful : ∀ environment, Lawful kind (useCases environment) spec)
    (traceable : Traceable kind spec session.stored) (environment : E)
    (auditLogId newLogId : String) :
    Traceable kind spec (Program.finalState (inTransaction (useCases environment)
      (kind.rollbackAction (useCases environment) auditLogId newLogId)) session).stored := by
  apply Program.Ensures.finalState
    (fun next : AuditedSession D X σ π => Traceable kind spec next.stored)
  refine (ensures_inTransaction (lawful environment)
    (transacts_rollbackAction (lawful environment) auditLogId newLogId) session).mono ?_ ?_
  · rintro result next ⟨log, raw, payload, current, -, -, -, -, -, -, sound, logs⟩
    have genuine : ∀ log ∈ [kind.rollbackLog newLogId current result],
        Genuine kind spec log := by
      intro log listed
      rw [List.mem_singleton.mp listed]
      exact genuine_rollbackLog newLogId current result
    have appended := traceable.append (sound traceable.sound) genuine
    rw [← logs] at appended
    exact appended
  · intro _ next same
    rw [same]
    exact traceable

/-- Every run keeps the stored data traceable. -/
theorem traceable_of_run {starts : D → Prop} {others : Session D X → Session D X → Prop}
    (lawful : ∀ environment, Lawful kind (useCases environment) spec)
    (begins : ∀ tables, starts tables → spec.Sound tables)
    (keeps : ∀ before after, others before after → spec.Sound before.stored →
      spec.Sound after.stored)
    (run : AuditedRun kind useCases starts others session) :
    Traceable kind spec session.stored := by
  induction run with
  | start isStart noLogs =>
      refine ⟨begins _ isStart, ?_⟩
      rw [noLogs]
      simp
  | update _ environment newLogId resourceId data ih =>
      exact traceable_update lawful ih environment newLogId resourceId data
  | rollback _ environment auditLogId newLogId ih =>
      exact traceable_rollback lawful ih environment auditLogId newLogId
  | elsewhere _ changed foreign ih =>
      apply ih.append (keeps _ _ changed ih.sound)
      intro log listed keys before after payload isDetail
      exact absurd isDetail (foreign log listed keys before after (some payload))

/-- **A rollback restores what was recorded.** In every session that a run of the routes of a
lawful kind reaches, from sound tables and beside routes that keep them sound. -/
theorem rollbackRestores_of_run {starts : D → Prop} {others : Session D X → Session D X → Prop}
    (lawful : ∀ environment, Lawful kind (useCases environment) spec)
    (begins : ∀ tables, starts tables → spec.Sound tables)
    (keeps : ∀ before after, others before after → spec.Sound before.stored →
      spec.Sound after.stored)
    (run : AuditedRun kind useCases starts others session) :
    RollbackRestores kind useCases spec session := by
  intro environment auditLogId newLogId log keys before after payload isLog isDetail
  have traceable := traceable_of_run lawful begins keeps run
  have lawfulHere := lawful environment
  refine (ensures_inTransaction lawfulHere
    (transacts_rollbackAction lawfulHere auditLogId newLogId) session).mono ?_
      (fun _ _ same => same)
  rintro restored next ⟨other, raw, request, current, isOther, supported, accepted, isCurrent, change,
    stored, sound, -⟩
  rw [isLog] at isOther
  cases isOther
  obtain ⟨keys', before', after', isDetail'⟩ := supported_ok supported
  rw [isDetail] at isDetail'
  cases isDetail'
  obtain ⟨data, source, target, validSource, validTarget, rfl, rfl, isPayload⟩ :=
    traceable.genuine log (List.mem_of_find?_eq_some isLog) _ _ _ _ isDetail
  refine ⟨current, isCurrent, stored, ?_, sound traceable.sound⟩
  exact lawfulHere.restores data source target _ request current restored validSource validTarget
    (lawfulHere.valid _ _ _ traceable.sound isCurrent) isPayload accepted change

end Runs

end TraefikManager.Audit
