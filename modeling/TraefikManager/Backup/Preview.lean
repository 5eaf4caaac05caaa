import Mathlib.Data.List.Sort
import TraefikManager.Backup.Importer

/-!
# The preview of an import

The validator goes through a backup document once: it collects warnings and resolves the
template references of every service entry. The preview then lists the domains of the
entries as creations or updates, against what is stored when it is computed.
-/

namespace TraefikManager.Backup

open Foundation Domain Traefik Proxy

/-- `BackupValidateResponse`. -/
structure BackupValidation where
  valid : Bool
  serviceCount : Nat
  redirectCount : Nat
  warningCount : Nat
  warnings : List String
  deriving DecidableEq, Repr

/-- `BackupPreviewItem`. -/
structure BackupPreviewItem where
  domain : String
  name : Option String := none
  deriving DecidableEq, Repr

/-- `BackupPreviewGroup`. -/
structure BackupPreviewGroup where
  creates : List BackupPreviewItem := []
  updates : List BackupPreviewItem := []
  deletes : List BackupPreviewItem := []
  deriving DecidableEq, Repr

/-- `BackupPreviewResponse`. -/
structure BackupPreview where
  mode : ImportMode
  serviceCount : Nat
  redirectCount : Nat
  warningCount : Nat
  warnings : List String
  services : BackupPreviewGroup
  redirectHosts : BackupPreviewGroup
  deriving DecidableEq, Repr

section Validator

/-- The warnings about one service entry, after entries of the domains `seen`. -/
def serviceWarnings (seen : List String) (domain : String) : List String :=
  if domain ∈ seen then ["중복 서비스 도메인: " ++ domain] else []

/-- The warnings about one redirect entry. -/
def redirectWarnings (seenServices seen : List String) (domain : String) : List String :=
  (if domain ∈ seen then ["중복 리다이렉트 도메인: " ++ domain] else []) ++
    if domain ∈ seenServices then ["서비스와 리다이렉트가 같은 도메인을 사용합니다: " ++ domain] else []

/-- The loop over the service entries: its warnings. -/
def validateServices (environment : ProxyEnvironment) :
    List String → List BackupServiceItem → ProxyProgram (List String)
  | _, [] => pure []
  | seen, item :: rest => do
      let _ ← resolve environment item.middlewareTemplateIds
      let warnings ← validateServices environment (item.domain :: seen) rest
      pure (serviceWarnings seen item.domain ++ warnings)

/-- The loop over the redirect entries: its warnings. -/
def validateRedirects (seenServices : List String) :
    List String → List BackupRedirectHostItem → List String
  | _, [] => []
  | seen, item :: rest =>
      redirectWarnings seenServices seen item.domain ++
        validateRedirects seenServices (item.domain :: seen) rest

/-- `validate_backup_payload`. -/
def validateBackupPayload (environment : ProxyEnvironment) (payload : BackupPayload) :
    ProxyProgram BackupValidation := do
  let fromServices ← validateServices environment [] payload.services
  let warnings := fromServices ++
    validateRedirects (payload.services.map (·.domain)) [] payload.redirectHosts
  pure
    { valid := true
      serviceCount := payload.services.length
      redirectCount := payload.redirectHosts.length
      warningCount := warnings.length
      warnings }

end Validator

section Serializers

def serializePreviewServiceItem (item : BackupServiceItem) : BackupPreviewItem :=
  { domain := item.domain, name := some item.name }

def serializePreviewRedirectItem (item : BackupRedirectHostItem) : BackupPreviewItem :=
  { domain := item.domain, name := none }

def sortPreviewItems (items : List BackupPreviewItem) : List BackupPreviewItem :=
  items.insertionSort fun first second => first.domain ≤ second.domain

end Serializers

section Preview

/-- The changes of one kind: what the entries `items` do to what is stored. -/
def previewGroup (mode : ImportMode) (items existing : List BackupPreviewItem) :
    BackupPreviewGroup :=
  let existingDomains := existing.map (·.domain)
  match mode with
  | .overwrite => { creates := sortPreviewItems items, deletes := sortPreviewItems existing }
  | .merge =>
      { creates := sortPreviewItems (items.filter (·.domain ∉ existingDomains))
        updates := sortPreviewItems (items.filter (·.domain ∈ existingDomains)) }

/-- The response to `payload` when `services` and `redirectHosts` are stored. -/
def buildPreview (mode : ImportMode) (payload : BackupPayload) (validation : BackupValidation)
    (services : List Service) (redirectHosts : List RedirectHost) : BackupPreview :=
  { mode
    serviceCount := validation.serviceCount
    redirectCount := validation.redirectCount
    warningCount := validation.warningCount
    warnings := validation.warnings
    services := previewGroup mode (payload.services.map serializePreviewServiceItem)
      (services.map fun service => { domain := service.domain.value, name := some service.name })
    redirectHosts := previewGroup mode (payload.redirectHosts.map serializePreviewRedirectItem)
      (redirectHosts.map fun redirectHost => { domain := redirectHost.domain.value }) }

/-- `preview_backup_import`. -/
def previewBackupImport (environment : ProxyEnvironment) (mode : ImportMode)
    (payload : BackupPayload) : ProxyProgram BackupPreview := do
  let validation ← validateBackupPayload environment payload
  let existingServices ← query environment .findAllServices Database.services
  let existingRedirects ← query environment .findAllRedirectHosts Database.redirectHosts
  pure (buildPreview mode payload validation existingServices existingRedirects)

/-- `preview_backup`, up to the end of its transaction. -/
def previewBackup (environment : ProxyEnvironment) (mode : ImportMode) (payload : BackupPayload) :
    ProxyProgram BackupPreview :=
  request environment (do
    try previewBackupImport environment mode payload
    catch failure =>
      match failure with
      | .valueError message => throw (.httpException 400 message)
      | other => throw other)

end Preview

end TraefikManager.Backup
