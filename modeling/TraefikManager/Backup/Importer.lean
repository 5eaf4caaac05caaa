import TraefikManager.Proxy.RedirectUseCases

/-!
# Backup documents and their import

The export lists the fields of every service and redirect host. The import goes
through the entries one by one: each is created, or updates what is stored for its
domain, its file is written and its row saved. In overwrite mode everything stored
is removed first.
-/

namespace TraefikManager.Backup

open Foundation Domain Traefik Proxy

/-- `BackupServiceItem`. -/
structure BackupServiceItem where
  name : String
  domain : String
  upstreamHost : String
  upstreamPort : Int
  routingMode : String := "active"
  maintenanceMessage : String := ""
  maintenanceUntil : Option Datetime := none
  upstreamScheme : String := "http"
  skipTlsVerify : Bool := false
  tlsEnabled : Bool := true
  httpsRedirectEnabled : Bool := true
  authEnabled : Bool
  allowedIps : List String := []
  blockedPaths : List String := []
  rateLimitAverage : Option Int := none
  rateLimitBurst : Option Int := none
  customHeaders : Dict String String := Dict.empty
  framePolicy : String := "deny"
  healthcheckEnabled : Bool := true
  healthcheckPath : String := "/"
  healthcheckTimeoutMs : Int := 3000
  healthcheckExpectedStatuses : List Int := []
  basicAuthUsers : List String := []
  middlewareTemplateIds : List String := []
  authentikProviderId : Option String := none
  authentikAppSlug : Option String := none
  authentikGroupId : Option String := none
  authentikGroupName : Option String := none
  authentikPolicyId : Option String := none
  authentikPolicyBindingId : Option String := none
  cloudflareRecordId : Option String := none
  deriving DecidableEq, Repr

/-- `BackupRedirectHostItem`. -/
structure BackupRedirectHostItem where
  domain : String
  targetUrl : String
  permanent : Bool := true
  tlsEnabled : Bool := true
  deriving DecidableEq, Repr

/-- `BackupPayload`. -/
structure BackupPayload where
  services : List BackupServiceItem := []
  redirectHosts : List BackupRedirectHostItem := []
  deriving DecidableEq, Repr

inductive ImportMode where
  | merge
  | overwrite
  deriving DecidableEq, Repr

section Entities

/-- `_assign_service_external_ids`. -/
def assignServiceExternalIds (service : Service) (item : BackupServiceItem) : Service :=
  { service with
    authentikProviderId := item.authentikProviderId
    authentikAppSlug := item.authentikAppSlug
    authentikGroupId := item.authentikGroupId
    authentikGroupName := item.authentikGroupName
    authentikPolicyId := item.authentikPolicyId
    authentikPolicyBindingId := item.authentikPolicyBindingId
    cloudflareRecordId := item.cloudflareRecordId }

/-- The call of `Service.update` an entry makes. -/
def importUpdateArguments (item : BackupServiceItem) : ServiceUpdateArguments :=
  { name := some item.name
    upstreamHost := some item.upstreamHost
    upstreamPort := some item.upstreamPort
    routingMode := some item.routingMode
    maintenanceMessage := some item.maintenanceMessage
    maintenanceUntil := item.maintenanceUntil
    clearMaintenanceUntil := item.maintenanceUntil = none
    upstreamScheme := some item.upstreamScheme
    skipTlsVerify := some item.skipTlsVerify
    tlsEnabled := some item.tlsEnabled
    authEnabled := some item.authEnabled
    httpsRedirectEnabled := some item.httpsRedirectEnabled
    allowedIps := some item.allowedIps
    blockedPaths := some item.blockedPaths
    rateLimitAverage := item.rateLimitAverage
    rateLimitBurst := item.rateLimitBurst
    customHeaders := some item.customHeaders
    framePolicy := some item.framePolicy
    healthcheckEnabled := some item.healthcheckEnabled
    healthcheckPath := some item.healthcheckPath
    healthcheckTimeoutMs := some item.healthcheckTimeoutMs
    healthcheckExpectedStatuses := some item.healthcheckExpectedStatuses
    basicAuthUsers := some item.basicAuthUsers
    middlewareTemplateIds := some item.middlewareTemplateIds
    clearRateLimit := item.rateLimitAverage = none ∧ item.rateLimitBurst = none }

/-- `_update_service`. -/
def updateImportedService (service : Service) (item : BackupServiceItem) :
    Except PyException Service :=
  -- The mode an entry asks for is never `token`, so no key is drawn.
  (service.update (importUpdateArguments item) "").map (assignServiceExternalIds · item)

/-- The call of `Service.create` an entry makes. -/
def importCreateArguments (item : BackupServiceItem) : ServiceCreateArguments :=
  { name := item.name
    domain := item.domain
    upstreamHost := item.upstreamHost
    upstreamPort := item.upstreamPort
    routingMode := item.routingMode
    maintenanceMessage := item.maintenanceMessage
    maintenanceUntil := item.maintenanceUntil
    upstreamScheme := item.upstreamScheme
    skipTlsVerify := item.skipTlsVerify
    tlsEnabled := item.tlsEnabled
    authEnabled := some item.authEnabled
    httpsRedirectEnabled := item.httpsRedirectEnabled
    allowedIps := some item.allowedIps
    blockedPaths := some item.blockedPaths
    rateLimitAverage := item.rateLimitAverage
    rateLimitBurst := item.rateLimitBurst
    customHeaders := some item.customHeaders
    framePolicy := item.framePolicy
    healthcheckEnabled := item.healthcheckEnabled
    healthcheckPath := item.healthcheckPath
    healthcheckTimeoutMs := item.healthcheckTimeoutMs
    healthcheckExpectedStatuses := some item.healthcheckExpectedStatuses
    basicAuthUsers := some item.basicAuthUsers
    middlewareTemplateIds := some item.middlewareTemplateIds
    authentikGroupId := item.authentikGroupId }

/-- `_create_service`. -/
def createImportedService (item : BackupServiceItem) (id : Uuid) : Except PyException Service :=
  (Service.create (importCreateArguments item) id "").map (assignServiceExternalIds · item)

end Entities

section Import

variable (environment : ProxyEnvironment)

/-- `_write_service`. -/
def writeImportedService (service : Service) : ProxyProgram PUnit := do
  let templates ← resolve environment service.middlewareTemplateIds
  writeServiceFile environment service templates
  saveService environment service

/-- `_upsert_service`: whether a stored service was updated. -/
def upsertService (item : BackupServiceItem) : ProxyProgram Bool := do
  match ← findServiceByDomain environment item.domain with
  | some existing =>
      let updated ← Program.ofExcept (updateImportedService existing item)
      writeImportedService environment updated
      pure true
  | none =>
      let created ← Program.ofExcept (createImportedService item environment.newId)
      writeImportedService environment created
      pure false

/-- `_upsert_redirect`: whether a stored redirect host was updated. -/
def upsertRedirect (item : BackupRedirectHostItem) : ProxyProgram Bool := do
  match ← findRedirectHostByDomain environment item.domain with
  | some existing =>
      let updated ← Program.ofExcept (existing.update (some item.domain) (some item.targetUrl)
        (some item.permanent) (some item.tlsEnabled))
      if existing.domain.value ≠ updated.domain.value then
        deleteRedirectFile environment existing.domain
      writeRedirectFile environment updated
      saveRedirectHost environment updated
      pure true
  | none =>
      let created ← Program.ofExcept (RedirectHost.create item.domain item.targetUrl item.permanent
        item.tlsEnabled environment.newId)
      writeRedirectFile environment created
      saveRedirectHost environment created
      pure false

/-- A loop over the entries; each round counts as an update or not. -/
def importEach {α : Type} (loop : Loop) (upsert : ProxyEnvironment → α → ProxyProgram Bool) :
    Nat → List α → ProxyProgram Nat
  | _, [] => pure 0
  | round, item :: rest => do
      let updated ← upsert (environment.inRound loop round) item
      let count ← importEach loop upsert (round + 1) rest
      pure (if updated then count + 1 else count)

/-- The first loop of `_delete_existing`. -/
def deleteEachService : Nat → List Service → ProxyProgram PUnit
  | _, [] => pure ⟨⟩
  | round, service :: rest => do
      let during := environment.inRound .deleteServices round
      touchFile during .deleteServiceFile (·.deleteService service)
      deleteServiceRow during service.id
      deleteEachService (round + 1) rest

/-- The second loop of `_delete_existing`. -/
def deleteEachRedirectHost : Nat → List RedirectHost → ProxyProgram PUnit
  | _, [] => pure ⟨⟩
  | round, redirectHost :: rest => do
      let during := environment.inRound .deleteRedirectHosts round
      deleteRedirectFile during redirectHost.domain
      deleteRedirectHostRow during redirectHost.id
      deleteEachRedirectHost (round + 1) rest

/-- `_delete_existing`: how many services and redirect hosts were removed. -/
def deleteExisting : ProxyProgram (Nat × Nat) := do
  let services ← query environment .findAllServices Database.services
  deleteEachService environment 0 services
  let redirectHosts ← query environment .findAllRedirectHosts Database.redirectHosts
  deleteEachRedirectHost environment 0 redirectHosts
  pure (services.length, redirectHosts.length)

/-- `BackupImportResultResponse`. -/
structure BackupImportResult where
  mode : ImportMode
  createdServices : Nat
  updatedServices : Nat
  deletedServices : Nat
  createdRedirects : Nat
  updatedRedirects : Nat
  deletedRedirects : Nat
  deriving DecidableEq, Repr

/-- `import_all`. -/
def importAll (mode : ImportMode) (payload : BackupPayload) : ProxyProgram BackupImportResult := do
  let (deletedServices, deletedRedirects) ←
    if mode = .overwrite then deleteExisting environment else pure (0, 0)
  let updatedServices ← importEach environment .importServices upsertService 0 payload.services
  let updatedRedirects ←
    importEach environment .importRedirectHosts upsertRedirect 0 payload.redirectHosts
  syncSharedMiddlewareTemplates environment
  pure
    { mode, updatedServices, updatedRedirects, deletedServices, deletedRedirects
      createdServices := payload.services.length - updatedServices
      createdRedirects := payload.redirectHosts.length - updatedRedirects }

/-- `import_backup`, up to the end of its transaction. -/
def importBackup (mode : ImportMode) (payload : BackupPayload) : ProxyProgram BackupImportResult :=
  request environment (do
    try importAll environment mode payload
    catch failure =>
      match failure with
      | .valueError message => throw (.httpException 400 message)
      | other => throw other)

end Import

end TraefikManager.Backup
