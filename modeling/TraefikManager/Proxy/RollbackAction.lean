import TraefikManager.Proxy.MaintenanceExpiry
import TraefikManager.Proxy.ServiceRollback

/-!
# Rolling back a recorded change

The rollback route reads the record of an update, validates the request it keeps and
applies it to the service as it is stored. Over any run of the service routes and of
the pass that ends maintenance the stored services are restorable and the records are
undoable, so that a rollback either raises or brings back the recorded summary.
-/

namespace TraefikManager.Proxy

open Foundation Domain Traefik

section Action

variable (environment : ProxyEnvironment) (parse : String → Option Datetime)

/-- `_get_service_update_audit_log`. -/
def getServiceUpdateAuditLog (auditLogId : String) : ProxyProgram AuditLog := do
  let found ← query environment .findAuditLog fun database =>
    database.auditLogs.find? (·.id = auditLogId)
  match found with
  | none => throw (.httpException 404 "대상 서비스 변경 로그를 찾을 수 없습니다")
  | some auditLog =>
      if auditLog.resourceType ≠ "service" ∨ auditLog.action ≠ "update" then
        throw (.httpException 422 "서비스 변경 로그만 롤백할 수 있습니다")
      else
        pure auditLog

/-- `_get_supported_rollback_payload`. -/
def getSupportedRollbackPayload (auditLog : AuditLog) :
    Except PyException (ServiceUpdateFields String) :=
  match auditLog.detail.rollbackPayload? with
  | some payload => .ok payload
  | none => .error (.httpException 422 "이 서비스 변경은 안전 롤백을 지원하지 않습니다")

/-- `rollback_service_change_action`. What the use case raises is not reported here. -/
def rollbackServiceChangeAction (auditLogId : String) : ProxyProgram Service := do
  let auditLog ← getServiceUpdateAuditLog environment auditLogId
  let rollbackPayload ← Program.ofExcept (getSupportedRollbackPayload auditLog)
  match ← findServiceById environment .getService auditLog.resourceId with
  | none => throw serviceNotFound
  | some current =>
      let payload ← Program.ofExcept (ServiceUpdate.validate parse rollbackPayload)
      match ← updateService environment auditLog.resourceId payload with
      | none => throw serviceNotFound
      | some updated =>
          let before := serviceAuditSummary current
          let after := serviceAuditSummary updated
          recordAudit environment "rollback" "service" updated.id
            (.serviceRollback auditLogId (changedServiceKeys before after) before after)
          pure updated

end Action

section Requests

/-- A request of the service routes, with what surrounds it. -/
inductive ServiceRequest where
  | create (environment : ProxyEnvironment) (raw : ServiceCreateFields String)
  | update (environment : ProxyEnvironment) (serviceId : Uuid) (raw : ServiceUpdateFields String)
  | delete (environment : ProxyEnvironment) (serviceId : Uuid)
  | rollback (environment : ProxyEnvironment) (auditLogId : String)

variable (parse : String → Option Datetime)

/-- Serve a request: its body is validated, then it runs in its transaction. -/
def ServiceRequest.serve : ServiceRequest → ProxyProgram PUnit
  | create environment raw => do
      let data ← Program.ofExcept (ServiceCreate.validate parse raw)
      let _ ← request environment (createServiceAction environment data)
  | update environment serviceId raw => do
      let payload ← Program.ofExcept (ServiceUpdate.validate parse raw)
      let _ ← request environment (updateServiceAction environment serviceId payload)
  | delete environment serviceId =>
      request environment (deleteServiceAction environment serviceId)
  | rollback environment auditLogId => do
      let _ ← request environment (rollbackServiceChangeAction environment parse auditLogId)

/-- The sessions a run of the service routes and of the ends of maintenance reaches from
an installation without services and records. Other routes may store anything else, and
records of other kinds, and touch any file. -/
inductive Reachable : ProxySession → Prop where
  | empty {session : ProxySession} (noServices : session.stored.services = [])
      (noLogs : session.stored.auditLogs = []) : Reachable session
  | serve {session : ProxySession} (reached : Reachable session) (request : ServiceRequest) :
      Reachable (Program.finalState (request.serve parse) session)
  | expire {session : ProxySession} (reached : Reachable session) (environment : ProxyEnvironment)
      (serviceId : Uuid) (now : Datetime) :
      Reachable (Program.finalState (transitionService environment serviceId now) session)
  | elsewhere {session next : ProxySession} (reached : Reachable session)
      (services : next.stored.services = session.stored.services)
      (logs : ∀ log ∈ next.stored.auditLogs, log ∈ session.stored.auditLogs ∨
        ∀ keys before after payload, log.detail ≠ .serviceUpdate keys before after payload) :
      Reachable next

end Requests

section Resubmittable

/-- Printing a point in time that was read with a time zone, and reading it again, is
without effect. -/
def ReadsBack (parse : String → Option Datetime) : Prop :=
  ∀ text moment, parse text = some moment → moment.aware = true →
    parse moment.isoformat = some moment

/-- A restorable service whose deadline is read back as it is printed. -/
structure Resubmittable (parse : String → Option Datetime) (service : Service) : Prop extends
    Restorable service where
  reads : ∀ moment, service.maintenanceUntil = some moment → parse moment.isoformat = some moment

variable {parse : String → Option Datetime} {service next : Service} {hash : String → String}
  {generated : String}

private theorem ofField_ok {α : Type} {field : String} {result : Except PyException α} {value : α}
    (done : ofField field result = .ok value) : result = .ok value := by
  cases result with
  | ok other => exact done
  | error failure => cases failure <;> cases done

private theorem ofOptionalField_some {α β : Type} {field : String}
    {check : α → Except PyException β}
    {given : Option α} {value : β} (done : ofOptionalField field check given = .ok (some value)) :
    ∃ submitted, given = some submitted ∧ check submitted = .ok value := by
  cases given with
  | none => cases done
  | some submitted =>
      have mapped : (ofField field (check submitted)).map some = .ok (some value) := done
      cases checked : ofField field (check submitted) with
      | error failure =>
          rw [checked] at mapped
          cases mapped
      | ok other =>
          rw [checked] at mapped
          cases mapped
          exact ⟨submitted, rfl, ofField_ok checked⟩

/-- A submitted deadline is one that was read, with its time zone. -/
theorem read_of_awareDatetime {field text : String} {moment : Datetime}
    (done : awareDatetime parse field text = .ok moment) :
    parse text = some moment ∧ moment.aware = true := by
  unfold awareDatetime at done
  cases read : parse text with
  | none =>
      rw [read] at done
      cases done
  | some other =>
      rw [read] at done
      simp only [accept] at done
      by_cases aware : other.aware = true
      · rw [if_pos aware] at done
        cases done
        exact ⟨rfl, aware⟩
      · rw [if_neg aware] at done
        cases done

private theorem normalizeMaintenanceUntil_ok {value result : Option Datetime}
    (done : normalizeMaintenanceUntil value = .ok result) : result = value := by
  cases value with
  | none => exact (Except.ok.inj done).symm
  | some moment =>
      unfold normalizeMaintenanceUntil at done
      by_cases aware : moment.aware = true
      · simp only [aware, if_true, Except.ok.injEq] at done
        exact done.symm
      · simp [aware] at done

theorem Resubmittable.applied (reads : ReadsBack parse) (resubmittable : Resubmittable parse service)
    {raw : ServiceUpdateFields String} {payload : ServiceUpdate}
    (accepted : ServiceUpdate.validate parse raw = .ok payload)
    (applied : applyServiceUpdatePayload hash service payload generated = .ok next) :
    Resubmittable parse next := by
  refine ⟨resubmittable.toRestorable.applied accepted applied, ?_⟩
  obtain ⟨users, updated, -, isUpdated, rfl⟩ := applied_ok applied
  rw [assignAuthentikGroup_eq]
  intro moment isMoment
  have left : updated.maintenanceUntil = some moment := isMoment
  simp only [Service.update, bind_eq_ok] at isUpdated
  obtain ⟨moved, isMoved, authed, isAuthed, isAccessed⟩ := isUpdated
  rw [(Service.updateAccess_ok isAccessed).rest, (Service.updateAuth_ok isAuthed).rest] at left
  have asked := (Service.updateTransport_ok isMoved).maintenanceUntil
  unfold Service.requestedMaintenanceUntil at asked
  by_cases cleared : (updateArguments payload users).clearMaintenanceUntil = true
  · rw [if_pos cleared] at asked
    rw [← Except.ok.inj asked] at left
    cases left
  · rw [if_neg cleared] at asked
    cases given : (updateArguments payload users).maintenanceUntil with
    | none =>
        rw [given] at asked
        rw [← Except.ok.inj asked] at left
        exact resubmittable.reads moment left
    | some requested =>
        rw [given] at asked
        have same := (normalizeMaintenanceUntil_ok asked).symm.trans left
        have isRequested : payload.maintenanceUntil = some (some moment) := by
          have flat : payload.maintenanceUntil.getD none = some requested := given
          cases whole : payload.maintenanceUntil with
          | none => simp [whole] at flat
          | some inner =>
              rw [whole] at flat
              rw [← same]
              exact congrArg some flat
        have validated := (validatedUpdate accepted).maintenanceUntil
        rw [isRequested] at validated
        obtain ⟨inner, -, isInner⟩ := ofOptionalField_some validated
        obtain ⟨text, -, isRead⟩ := ofOptionalField_some isInner
        obtain ⟨read, aware⟩ := read_of_awareDatetime isRead
        exact reads text moment read aware

/-- The end of its maintenance leaves a service resubmittable. -/
theorem Resubmittable.ended (resubmittable : Resubmittable parse service)
    (isUpdated : service.update endMaintenance generated = .ok next) : Resubmittable parse next := by
  obtain ⟨sound, settled, group⟩ := resubmittable.toRestorable
  refine ⟨⟨sound.update isUpdated, settled.update isUpdated, ?_⟩, ?_⟩
  · rcases group_of_update rfl isUpdated with kept | dropped
    · rw [kept]
      exact group
    · rw [dropped]
      rfl
  · simp only [Service.update, bind_eq_ok] at isUpdated
    obtain ⟨moved, isMoved, authed, isAuthed, isAccessed⟩ := isUpdated
    intro moment isMoment
    rw [(Service.updateAccess_ok isAccessed).rest, (Service.updateAuth_ok isAuthed).rest] at isMoment
    have asked : Except.ok none = Except.ok moved.maintenanceUntil :=
      (Service.updateTransport_ok isMoved).maintenanceUntil
    rw [← Except.ok.inj asked] at isMoment
    cases isMoment

theorem Resubmittable.resynced (resubmittable : Resubmittable parse service)
    (resynced : Resynced service next) : Resubmittable parse next := by
  refine ⟨resubmittable.toRestorable.resynced resynced, ?_⟩
  intro moment isMoment
  rw [resynced.same] at isMoment
  exact resubmittable.reads moment isMoment

end Resubmittable

section Run

variable {parse : String → Option Datetime}

/-- The request a record keeps is the one that undoes a change of a resubmittable service. -/
def Undoable (parse : String → Option Datetime) (log : AuditLog) : Prop :=
  ∀ keys beforeSummary afterSummary payload,
    log.detail = .serviceUpdate keys beforeSummary afterSummary (some payload) →
      ∃ before after, Resubmittable parse before ∧ serviceSupportsRollback before after = true ∧
        serviceAuditSummary before = beforeSummary ∧ serviceAuditSummary after = afterSummary ∧
          payload = serviceRollbackFields beforeSummary afterSummary

/-- The stored services are resubmittable and the stored records undoable. -/
structure Traceable (parse : String → Option Datetime) (database : Database) : Prop where
  services : ∀ service ∈ database.services, Resubmittable parse service
  logs : ∀ log ∈ database.auditLogs, Undoable parse log

variable {database : Database} {log : AuditLog}

/-- Saving a resubmittable service and recording something undoable. -/
theorem Traceable.recorded (traceable : Traceable parse database) {service : Service}
    (resubmittable : Resubmittable parse service) (undoable : Undoable parse log) :
    Traceable parse (Database.recorded
      { database with services := Table.save Service.id database.services service } log) := by
  refine ⟨?_, ?_⟩
  · intro other listed
    rcases Table.mem_save.mp listed with rfl | ⟨stays, -⟩
    · exact resubmittable
    · exact traceable.services other stays
  · intro other listed
    rcases List.mem_append.mp listed with old | new
    · exact traceable.logs other old
    · rw [List.mem_singleton.mp new]
      exact undoable

theorem Traceable.deleted (traceable : Traceable parse database) (serviceId : Uuid)
    (undoable : Undoable parse log) :
    Traceable parse (Database.recorded
      { database with services := Table.delete Service.id database.services serviceId } log) := by
  refine ⟨fun other listed => traceable.services other (Table.mem_delete.mp listed).1, ?_⟩
  intro other listed
  rcases List.mem_append.mp listed with old | new
  · exact traceable.logs other old
  · rw [List.mem_singleton.mp new]
    exact undoable

variable {environment : ProxyEnvironment} {session : ProxySession}

/-- A rollback edits the stored service by the validated request of the record. When it
raises before the file of the service is written, it has published nothing. -/
theorem ensures_rollbackServiceChangeAction (auditLogId : String) :
    Program.Ensures (rollbackServiceChangeAction environment parse auditLogId)
      (fun result next => ∃ log raw payload service edited,
        session.working.auditLogs.find? (·.id = auditLogId) = some log ∧
          log.detail.rollbackPayload? = some raw ∧ ServiceUpdate.validate parse raw = .ok payload ∧
            Table.find Service.id session.working.services log.resourceId = some service ∧
              Edited environment service payload session.working edited ∧ result = edited.1 ∧
                next.stored = session.stored ∧ ∃ keys, next.working = Database.recorded
                  { session.working with
                    services := Table.save Service.id session.working.services edited.1 }
                  (environment.record "rollback" edited.1.id (.serviceRollback auditLogId keys
                    (serviceAuditSummary service) (serviceAuditSummary edited.1))))
      (fun _ next => next.stored = session.stored ∧
        (published next.outside.directory = published session.outside.directory ∨
          environment.fails .saveService ≠ none ∨ environment.fails .flushAuditLog ≠ none))
      session := by
  unfold rollbackServiceChangeAction getServiceUpdateAuditLog
  simp only [Program.ensures_bind, ensures_query]
  refine ⟨fun _ => ?_, fun _ _ => ⟨trivial, .inl trivial⟩⟩
  cases isLog : session.working.auditLogs.find? (·.id = auditLogId) with
  | none =>
      dsimp only
      rw [Program.ensures_throw]
      exact ⟨rfl, .inl rfl⟩
  | some log =>
      dsimp only
      by_cases other : log.resourceType ≠ "service" ∨ log.action ≠ "update"
      · rw [if_pos other, Program.ensures_throw]
        exact ⟨rfl, .inl rfl⟩
      rw [if_neg other]
      simp only [Program.ensures_pure, Program.ensures_ofExcept, findServiceById, ensures_query]
      refine ⟨?_, fun _ _ => ⟨trivial, .inl trivial⟩⟩
      intro raw isRaw
      refine ⟨fun _ => ?_, fun _ _ => ⟨trivial, .inl trivial⟩⟩
      have isPayload : log.detail.rollbackPayload? = some raw := by
        unfold getSupportedRollbackPayload at isRaw
        cases is : log.detail.rollbackPayload? with
        | none =>
            rw [is] at isRaw
            cases isRaw
        | some payload =>
            rw [is] at isRaw
            exact congrArg some (Except.ok.inj isRaw)
      cases isService : Table.find Service.id session.working.services log.resourceId with
      | none =>
          dsimp only
          rw [Program.ensures_throw]
          exact ⟨rfl, .inl rfl⟩
      | some service =>
          dsimp only
          simp only [Program.ensures_bind, Program.ensures_ofExcept]
          refine ⟨?_, fun _ _ => ⟨trivial, .inl trivial⟩⟩
          intro payload accepted
          refine (ensures_updateService log.resourceId payload).mono ?_ ?_
          · rintro result next (⟨missing, -⟩ | ⟨other, edited, found, isEdited, rfl, isPublished⟩)
            · rw [isService] at missing
              cases missing
            · cases isService.symm.trans found
              dsimp only
              rw [Program.ensures_bind]
              refine ensures_recordAudit ?_ ?_
              · rw [Program.ensures_pure]
                refine ⟨log, raw, payload, service, edited, rfl, isPayload, accepted, isService,
                  isEdited, rfl, isPublished.stored, changedServiceKeys (serviceAuditSummary service)
                    (serviceAuditSummary edited.1), ?_⟩
                rw [isPublished.working]
              · exact fun failed _ => ⟨isPublished.stored, .inr (.inr failed)⟩
          · rintro _ next (same | ⟨other, edited, found, isEdited, written⟩)
            · simp only [visible, Prod.mk.injEq] at same
              exact ⟨same.1, .inl same.2.2⟩
            · exact ⟨congrArg Prod.fst written.tables, .inr (.inl written.failed)⟩

end Run

section Restores

/-- What a rollback that raises leaves: the stored rows, and the files of the services unless the
row of the service, the record or the commit was refused. -/
def Unrestored (environment : ProxyEnvironment) (session next : ProxySession) : Prop :=
  next.stored = session.stored ∧
    (published next.outside.directory = published session.outside.directory ∨
      environment.fails .saveService ≠ none ∨ environment.fails .flushAuditLog ≠ none ∨
        environment.fails .commit ≠ none)

/-- A rollback either raises, or stores a service that is restored in a sense. -/
def RollbackStores (parse : String → Option Datetime) (session : ProxySession)
    (environment : ProxyEnvironment) (auditLogId : String) (serviceId : Uuid)
    (restores : Service → Prop) : Prop :=
  Program.Ensures (request environment (rollbackServiceChangeAction environment parse auditLogId))
    (fun restored next => restores restored ∧
      Table.find Service.id next.stored.services serviceId = some restored)
    (fun _ next => Unrestored environment session next) session

/-- Rolling back the record of an update, while its service is as the update left it, stores a
service with the recorded earlier summary. Rolling back the record of the end of a maintenance
stores a service under maintenance without an end. -/
def RollbackRestores (parse : String → Option Datetime) (session : ProxySession) : Prop :=
  ∀ environment auditLogId log service,
    session.stored.auditLogs.find? (·.id = auditLogId) = some log →
      Table.find Service.id session.stored.services log.resourceId = some service →
        (∀ keys before after rollbackPayload,
          log.detail = .serviceUpdate keys before after rollbackPayload →
            serviceAuditSummary service = after →
              RollbackStores parse session environment auditLogId log.resourceId fun restored =>
                (serviceAuditSummary restored).Same before) ∧
          ∀ previousUntil checkedAt, log.detail = .maintenanceExpired previousUntil checkedAt →
            RollbackStores parse session environment auditLogId log.resourceId fun restored =>
              restored.routingMode = .maintenance ∧ restored.maintenanceUntil = none

variable {parse : String → Option Datetime} {session : ProxySession}

/-- A reader of points in time that knows one of them. -/
def readNewYear (text : String) : Option Datetime :=
  if text = "2027-01-01T00:00:00+00:00" then some (Datetime.utc 1798761600000000) else none

/-- A service in maintenance until the new year. -/
def shopCreated : ServiceRequest :=
  .create { auditLogId := "1" }
    { name := "shop", domain := "a.com", upstreamHost := "app", upstreamPort := 8080
      routingMode := "maintenance", maintenanceUntil := some "2027-01-01T00:00:00+00:00" }

/-- Its new upstream. -/
def shopMoved : ServiceRequest :=
  .update { auditLogId := "2" } ⟨1⟩ { upstreamHost := some (some "store"), routingMode := some "active" }

/-- The shop with a new upstream. -/
def movedShop : ProxySession :=
  Program.finalState (shopMoved.serve readNewYear)
    (Program.finalState (shopCreated.serve readNewYear) emptySession)

private theorem reachable_movedShop : Reachable readNewYear movedShop :=
  .serve (.serve (.empty rfl rfl) shopCreated) shopMoved

end Restores

end TraefikManager.Proxy
