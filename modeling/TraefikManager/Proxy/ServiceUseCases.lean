import TraefikManager.Domain.ServiceUpdate
import TraefikManager.Proxy.AuthentikLifecycle
import TraefikManager.Proxy.Templates

/-!
# Use cases of services

Creating, updating and deleting a service change Authentik, the DNS records, the
configuration files and the database in this order, and the database only when the
request commits. Creating undoes some of its effects when its last part fails.
-/

namespace TraefikManager.Proxy

open Foundation Domain Traefik

variable (environment : ProxyEnvironment)

section CloudflareRecords

/-- `upsert_service_record`. -/
def upsertServiceRecord (domain fallbackTarget : String) : ProxyProgram (Option String) := do
  if environment.zoneConfigs = [] then pure none
  else
    perform environment .upsertServiceRecord
    match findMatchingZone environment.zoneConfigs domain with
    | none => pure none
    | some zone =>
        let payload ← Program.ofExcept (buildServiceRecordPayload domain fallbackTarget zone)
        let session ← get
        let (recordId, dnsRecords) := upsertServiceDnsRecord session.outside.dnsRecords zone.zoneId
          environment.dnsRecordId payload
        set { session with outside := { session.outside with dnsRecords } }
        pure (some recordId)

/-- `delete_service_record`. -/
def deleteServiceRecord (domain : String) (recordId : Option String) : ProxyProgram PUnit := do
  if environment.zoneConfigs = [] then pure ⟨⟩
  else
    match findMatchingZone environment.zoneConfigs domain with
    | none => perform environment .deleteServiceRecord
    | some zone =>
        touch environment .deleteServiceRecord fun outside =>
          { outside with
            dnsRecords := deleteServiceDnsRecord outside.dnsRecords zone.zoneId domain recordId }

/-- `sync_cloudflare_record`. -/
def syncCloudflareRecord (service : Service) (requireEnabled : Bool) : ProxyProgram Service := do
  if requireEnabled ∧ environment.zoneConfigs = [] then pure service
  else
    let recordId ← upsertServiceRecord environment service.domain.value service.upstream.host
    pure { service with cloudflareRecordId := recordId }

/-- `delete_cloudflare_record`. -/
def deleteCloudflareRecord (service : Service) : ProxyProgram PUnit :=
  deleteServiceRecord environment service.domain.value service.cloudflareRecordId

/-- `rollback_cloudflare_record`. -/
def rollbackCloudflareRecord (service : Service) : ProxyProgram PUnit := do
  match orText service.cloudflareRecordId none with
  | none => pure ⟨⟩
  | some recordId =>
      try deleteServiceRecord environment service.domain.value (some recordId)
      catch _ => pure ⟨⟩

end CloudflareRecords

section Repository

/-- `find_by_id`. -/
def findServiceById (step : Step) (serviceId : Uuid) : ProxyProgram (Option Service) :=
  query environment step fun database => Table.find Service.id database.services serviceId

/-- `find_by_domain`. -/
def findServiceByDomain (domain : String) : ProxyProgram (Option Service) :=
  query environment .findServiceByDomain fun database =>
    database.services.find? (·.domain.value = domain)

/-- `save`. -/
def saveService (service : Service) : ProxyProgram PUnit :=
  write environment .saveService fun database =>
    { database with services := Table.save Service.id database.services service }

/-- `delete`. -/
def deleteServiceRow (serviceId : Uuid) : ProxyProgram PUnit :=
  write environment .deleteServiceRow fun database =>
    { database with services := Table.delete Service.id database.services serviceId }

end Repository

section UseCases

/-- `_sync_shared_middleware_templates`. -/
def syncSharedMiddlewareTemplates : ProxyProgram PUnit := do
  let templates ← query environment .findAllTemplates Database.middlewareTemplates
  touchFile environment .writeSharedTemplates (·.writeSharedMiddlewareTemplates templates)

/-- The file of a service, written or removed. -/
def writeServiceFile (service : Service) (templates : List MiddlewareTemplate) :
    ProxyProgram PUnit :=
  touchFile environment .writeServiceFile (·.writeService environment.settings service templates)

/-- The part of `create_service` whose failure is compensated. -/
def publishCreatedService (service : Service) (templates : List MiddlewareTemplate) :
    ProxyProgram PUnit := do
  syncSharedMiddlewareTemplates environment
  writeServiceFile environment service templates
  saveService environment service

/-- What `create_service` does about a failure of its last part. -/
def undoCreatedService (service : Service) : ProxyProgram PUnit := do
  try touchFile environment .deleteServiceFile (·.deleteService service)
  catch _ => pure ⟨⟩
  rollbackCloudflareRecord environment service

/-- `create_service` up to its first change outside the database. -/
def prepareCreatedService (data : ServiceCreate) :
    ProxyProgram (Service × List MiddlewareTemplate) := do
  let existing ← findServiceByDomain environment data.domain
  if existing.isSome then
    throw (.valueError ("이미 등록된 도메인입니다: " ++ data.domain))
  perform environment .ensureSafe
  let service ← Program.ofExcept (createServiceFromPayload environment.hashBasicAuthPassword data
    environment.newId environment.generatedKey)
  let templates ← resolve environment service.middlewareTemplateIds
  Program.ofExcept (validateAuthConflict service templates)
  pure (service, templates)

/-- `create_service`. -/
def createService (data : ServiceCreate) : ProxyProgram Service := do
  let (service, templates) ← prepareCreatedService environment data
  let service ← setupCreatedService environment service
  let service ← syncCloudflareRecord environment service false
  try
    publishCreatedService environment service templates
  catch failure =>
    undoCreatedService environment service
    throw failure
  pure service

/-- `update_service` of a service that was found, up to its own file. -/
def editService (service : Service) (payload : ServiceUpdate) :
    ProxyProgram (Service × List MiddlewareTemplate) := do
  match payload.upstreamHost with
  | some _ => perform environment .ensureSafe
  | none => pure ⟨⟩
  let edited ← Program.ofExcept (applyServiceUpdatePayload environment.hashBasicAuthPassword service
    payload environment.generatedKey)
  let templates ← resolve environment edited.middlewareTemplateIds
  Program.ofExcept (validateAuthConflict edited templates)
  let edited ← syncUpdatedService environment edited service.authMode service.authentikGroupId
  let edited ← syncCloudflareRecord environment edited true
  syncSharedMiddlewareTemplates environment
  pure (edited, templates)

/-- `update_service`. -/
def updateService (serviceId : Uuid) (payload : ServiceUpdate) : ProxyProgram (Option Service) := do
  match ← findServiceById environment .findServiceById serviceId with
  | none => pure none
  | some service =>
      let (edited, templates) ← editService environment service payload
      writeServiceFile environment edited templates
      saveService environment edited
      pure (some edited)

/-- `delete_service`. -/
def deleteService (serviceId : Uuid) : ProxyProgram PUnit := do
  match ← findServiceById environment .findServiceById serviceId with
  | none => pure ⟨⟩
  | some service =>
      -- The cleanup after the deletion looks at the mode, which tearing down keeps.
      let service ← teardownDeletedService environment service
      deleteCloudflareRecord environment service
      touchFile environment .deleteServiceFile (·.deleteService service)
      deleteServiceRow environment serviceId
      cleanupDeletedService environment service

end UseCases

section Actions

/-- How the service routes report what a use case raises. -/
def reported : PyException → PyException
  | .valueError message => .httpException 400 message
  | .validationError field => .httpException 400 field
  | .httpError _ => .httpException 502 "Authentik 연동 처리 중 오류가 발생했습니다"
  | .cloudflareClientError message => .httpException 502 message
  | failure => failure

/-- A body whose errors are reported. -/
def reporting {α : Type} (body : ProxyProgram α) : ProxyProgram α :=
  try body catch failure => throw (reported failure)

def serviceNotFound : PyException := .httpException 404 "서비스를 찾을 수 없습니다"

/-- `create_service_action`. -/
def createServiceAction (data : ServiceCreate) : ProxyProgram Service := do
  let service ← reporting (createService environment data)
  recordAudit environment "create" "service" service.id (.event "service_create")
  pure service

/-- What the record of an update keeps. -/
def updateDetail (before after : Service) : AuditDetail :=
  let beforeSummary := serviceAuditSummary before
  let afterSummary := serviceAuditSummary after
  .serviceUpdate (changedServiceKeys beforeSummary afterSummary) beforeSummary afterSummary
    (buildServiceRollbackPayload before after)

/-- `update_service_action`. -/
def updateServiceAction (serviceId : Uuid) (payload : ServiceUpdate) : ProxyProgram Service := do
  let (before, after) ← reporting (do
    let before ← findServiceById environment .getService serviceId
    let after ← updateService environment serviceId payload
    pure (before, after))
  match after with
  | none => throw serviceNotFound
  | some after =>
      match before with
      | none => pure after
      | some before =>
          recordAudit environment "update" "service" after.id (updateDetail before after)
          pure after

/-- `delete_service_action`. -/
def deleteServiceAction (serviceId : Uuid) : ProxyProgram PUnit := do
  match ← findServiceById environment .getService serviceId with
  | none => throw serviceNotFound
  | some _ =>
      -- This route reports no `ValueError`, and deleting raises none.
      reporting (deleteService environment serviceId)
      recordAudit environment "delete" "service" serviceId (.event "service_delete")

end Actions

section Spec

/-- The three parts of the update of an update request. -/
theorem applied_ok {hash : String → String} {service next : Service} {payload : ServiceUpdate}
    {generated : String} (applied : applyServiceUpdatePayload hash service payload generated = .ok next) :
    ∃ users updated, resolveBasicAuthUsers hash service payload = .ok users ∧
      service.update (updateArguments payload users) generated = .ok updated ∧
      next = assignAuthentikGroup updated payload := by
  simp only [applyServiceUpdatePayload, bind_eq_ok] at applied
  obtain ⟨_, -, users, isUsers, updated, isUpdated, isNext⟩ := applied
  exact ⟨users, updated, isUsers, isUpdated, (Except.ok.inj isNext).symm⟩

theorem assignAuthentikGroup_eq (service : Service) (payload : ServiceUpdate) :
    assignAuthentikGroup service payload =
      { service with
        authentikGroupId := (assignAuthentikGroup service payload).authentikGroupId } := by
  unfold assignAuthentikGroup
  cases payload.authentikGroupId <;> rfl

/-- What identifies a created service. -/
theorem identity_of_create {arguments : ServiceCreateArguments} {id : Uuid} {generated : String}
    {service : Service} (created : Service.create arguments id generated = .ok service) :
    service.id = id ∧ service.domain.value = arguments.domain := by
  simp only [Service.create, bind_eq_ok] at created
  obtain ⟨_, -, authState, -, transportState, -, ⟨average, burst⟩, -, domain, isDomain, upstream, -,
    routingMode, -, message, -, moment, -, allowedIps, -, blockedPaths, -, customHeaders, -,
    basicAuthUsers, -, templateIds, -, framePolicy, -, path, -, timeout, -, statuses, -,
    isService⟩ := created
  cases isService
  exact ⟨rfl, DomainName.make_ok isDomain⟩

theorem identity_of_created {hash : String → String} {data : ServiceCreate} {id : Uuid}
    {generated : String} {service : Service}
    (created : createServiceFromPayload hash data id generated = .ok service) :
    service.id = id ∧ service.domain.value = data.domain := by
  simp only [createServiceFromPayload, bind_eq_ok] at created
  obtain ⟨users, -, isCreated⟩ := created
  exact identity_of_create isCreated

/-- Updating keeps what identifies a service. -/
theorem identity_of_update {service next : Service} {arguments : ServiceUpdateArguments}
    {generated : String} (updated : service.update arguments generated = .ok next) :
    next.id = service.id ∧ next.domain = service.domain := by
  simp only [Service.update, bind_eq_ok] at updated
  obtain ⟨moved, isMoved, authed, isAuthed, isAccessed⟩ := updated
  rw [(Service.updateAccess_ok isAccessed).rest, (Service.updateAuth_ok isAuthed).rest,
    (Service.updateTransport_ok isMoved).rest]
  exact ⟨rfl, rfl⟩

theorem identity_of_applied {hash : String → String} {service next : Service}
    {payload : ServiceUpdate} {generated : String}
    (applied : applyServiceUpdatePayload hash service payload generated = .ok next) :
    next.id = service.id ∧ next.domain = service.domain := by
  obtain ⟨users, updated, -, isUpdated, rfl⟩ := applied_ok applied
  have kept := identity_of_update isUpdated
  rw [assignAuthentikGroup_eq]
  exact kept

variable {environment}

private theorem keeps_upsertServiceRecord (domain fallbackTarget : String) :
    Program.Keeps onDisk (upsertServiceRecord environment domain fallbackTarget)
      (fun _ _ => True) := by
  unfold upsertServiceRecord
  refine .ite (fun _ => (Program.keeps_pure _).mono fun _ _ _ => trivial) (fun _ => ?_)
  refine (keeps_perform _).bind fun _ => ?_
  cases findMatchingZone environment.zoneConfigs domain with
  | none => exact (Program.keeps_pure _).mono fun _ _ _ _ => trivial
  | some zone =>
      refine (Program.keeps_ofExcept _).bind fun payload => ?_
      constructor
      intro session
      simp [onDisk]

private theorem keeps_deleteServiceRecord (domain : String) (recordId : Option String) :
    Program.Keeps onDisk (deleteServiceRecord environment domain recordId) (fun _ _ => True) := by
  unfold deleteServiceRecord
  refine .ite (fun _ => (Program.keeps_pure _).mono fun _ _ _ => trivial) (fun _ => ?_)
  cases findMatchingZone environment.zoneConfigs domain with
  | none => exact keeps_perform _
  | some zone => exact keeps_touch _ fun _ => rfl

theorem keeps_syncCloudflareRecord (service : Service) (requireEnabled : Bool) :
    Program.Keeps onDisk (syncCloudflareRecord environment service requireEnabled) (fun _ next =>
      Resynced service next) := by
  unfold syncCloudflareRecord
  refine .ite (fun _ => ?_) (fun _ => ?_)
  · refine (Program.keeps_pure _).mono ?_
    rintro _ next rfl
    exact Resynced.refl _
  · refine (keeps_upsertServiceRecord _ _).bind fun recordId => ?_
    refine (Program.keeps_pure _).mono ?_
    rintro _ next rfl _
    exact ⟨rfl, .inl rfl⟩

theorem keeps_deleteCloudflareRecord (service : Service) :
    Program.Keeps onDisk (deleteCloudflareRecord environment service) (fun _ _ => True) :=
  keeps_deleteServiceRecord _ _

theorem keeps_rollbackCloudflareRecord (service : Service) :
    Program.Keeps onDisk (rollbackCloudflareRecord environment service) (fun _ _ => True) := by
  unfold rollbackCloudflareRecord
  cases orText service.cloudflareRecordId none with
  | none => exact (Program.keeps_pure _).mono fun _ _ _ => trivial
  | some recordId =>
      exact (keeps_deleteServiceRecord _ _).tryCatch
        fun _ => (Program.keeps_pure _).mono fun _ _ _ => trivial

theorem keeps_syncSharedMiddlewareTemplates :
    Program.Keeps visible (syncSharedMiddlewareTemplates environment) (fun _ _ => True) := by
  unfold syncSharedMiddlewareTemplates
  refine (keeps_visible (fun _ _ => True)
    ((keeps_query _ _).mono fun _ _ _ => trivial)).bind fun templates => ?_
  refine (keeps_touchFile _ (published_writeSharedMiddlewareTemplates · templates)).mono ?_
  exact fun _ _ _ _ => trivial

/-- What a service prepared by `create_service` is. -/
structure Prepared (environment : ProxyEnvironment) (data : ServiceCreate) (database : Database)
    (prepared : Service × List MiddlewareTemplate) : Prop where
  available : ∀ service ∈ database.services, service.domain.value ≠ data.domain
  created : createServiceFromPayload environment.hashBasicAuthPassword data environment.newId
    environment.generatedKey = .ok prepared.1
  templates : resolvedTemplates database prepared.1.middlewareTemplateIds = .ok prepared.2
  allowed : validateAuthConflict prepared.1 prepared.2 = .ok ()

theorem keeps_prepareCreatedService (data : ServiceCreate) :
    Program.Keeps onDisk (prepareCreatedService environment data) (fun seen prepared =>
      Prepared environment data seen.2.1 prepared) := by
  unfold prepareCreatedService
  refine (keeps_query _ _).bind fun existing => ?_
  refine .ite (fun _ => Program.keeps_throw _) (fun missing => ?_)
  refine (keeps_perform _).bind fun _ => ?_
  refine (Program.keeps_ofExcept _).bind fun service => ?_
  refine (keeps_resolve _ _).bind fun templates => ?_
  refine (Program.keeps_ofExcept _).bind fun _ => ?_
  refine (Program.keeps_pure _).mono ?_
  rintro seen _ rfl allowed resolved created _ found
  refine ⟨?_, created, resolved, allowed⟩
  rw [found] at missing
  simpa using missing

/-- What a service edited by `update_service` is. -/
structure Edited (environment : ProxyEnvironment) (service : Service) (payload : ServiceUpdate)
    (database : Database) (edited : Service × List MiddlewareTemplate) : Prop where
  applied : ∃ applied, applyServiceUpdatePayload environment.hashBasicAuthPassword service payload
    environment.generatedKey = .ok applied ∧ Resynced applied edited.1
  templates : resolvedTemplates database edited.1.middlewareTemplateIds = .ok edited.2
  allowed : validateAuthConflict edited.1 edited.2 = .ok ()

/-- The check of an update that submits a host. -/
def ensureUpstreamSafe (environment : ProxyEnvironment) (payload : ServiceUpdate) :
    ProxyProgram PUnit :=
  match payload.upstreamHost with
  | some _ => perform environment .ensureSafe
  | none => pure ⟨⟩

private theorem keeps_ensureUpstreamSafe (payload : ServiceUpdate) :
    Program.Keeps visible (ensureUpstreamSafe environment payload) (fun _ _ => True) := by
  unfold ensureUpstreamSafe
  cases payload.upstreamHost with
  | none => exact (Program.keeps_pure _).mono fun _ _ _ => trivial
  | some _ => exact keeps_perform _

/-- `update_service` of a service that was found, with its first check as a step. -/
theorem editService_eq (service : Service) (payload : ServiceUpdate) :
    editService environment service payload = (do
      ensureUpstreamSafe environment payload
      let edited ← Program.ofExcept (applyServiceUpdatePayload environment.hashBasicAuthPassword
        service payload environment.generatedKey)
      let templates ← resolve environment edited.middlewareTemplateIds
      Program.ofExcept (validateAuthConflict edited templates)
      let edited ← syncUpdatedService environment edited service.authMode service.authentikGroupId
      let edited ← syncCloudflareRecord environment edited true
      syncSharedMiddlewareTemplates environment
      pure (edited, templates)) := by
  unfold editService ensureUpstreamSafe
  cases payload.upstreamHost <;> rfl

theorem keeps_editService (service : Service) (payload : ServiceUpdate) :
    Program.Keeps visible (editService environment service payload) (fun seen edited =>
      Edited environment service payload seen.2.1 edited) := by
  rw [editService_eq]
  refine (keeps_ensureUpstreamSafe _).bind fun _ => ?_
  refine (Program.keeps_ofExcept _).bind fun applied => ?_
  refine (keeps_visible (fun database templates =>
    resolvedTemplates database applied.middlewareTemplateIds = .ok templates)
    (keeps_resolve _ _)).bind fun templates => ?_
  refine (Program.keeps_ofExcept _).bind fun _ => ?_
  refine (keeps_syncUpdatedService _ _ _).bind fun synced => ?_
  refine (keeps_visible (fun _ next => Resynced synced next)
    (keeps_syncCloudflareRecord _ _)).bind fun edited => ?_
  refine keeps_syncSharedMiddlewareTemplates.bind fun _ => ?_
  refine (Program.keeps_pure _).mono ?_
  rintro seen _ rfl _ resynced synced allowed resolved isApplied _
  have whole := synced.trans resynced
  refine ⟨⟨applied, isApplied, whole⟩, ?_, ?_⟩
  · rw [whole.same.middlewareTemplateIds]
    exact resolved
  · unfold validateAuthConflict at allowed ⊢
    rw [whole.same.authEnabled]
    exact allowed

theorem keeps_reporting {γ α : Type} {view : ProxySession → γ} {body : ProxyProgram α}
    {post : γ → α → Prop} (keeps : Program.Keeps view body post) :
    Program.Keeps view (reporting body) post :=
  keeps.tryCatch fun _ => Program.keeps_throw _

end Spec

end TraefikManager.Proxy
