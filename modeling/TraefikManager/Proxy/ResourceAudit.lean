import TraefikManager.Audit.ResourceRollback
import TraefikManager.Proxy.RedirectUseCases
import TraefikManager.Proxy.TemplateUseCases

/-!
# Audit records of redirect hosts and middleware templates

The summaries the records keep, the requests that undo a recorded change, and the schemas
these requests pass before their use case.
-/

namespace TraefikManager.Proxy

open Foundation Domain Audit

/-- The use cases of a kind reach the steps of the proxy calls. -/
def reachAudited (environment : ProxyEnvironment) : RouteStep → ProxyProgram PUnit
  | .findAuditLog => perform environment .findAuditLog
  | .flushAuditLog => perform environment .flushAuditLog
  | .commit => perform environment .commit

section RedirectHosts

/-- `redirect_audit_summary`. -/
structure RedirectAuditSummary where
  domain : String
  targetUrl : String
  permanent : Bool
  tlsEnabled : Bool
  deriving DecidableEq, Repr

def redirectAuditSummary (redirectHost : RedirectHost) : RedirectAuditSummary :=
  { domain := redirectHost.domain.value
    targetUrl := redirectHost.targetUrl
    permanent := redirectHost.permanent
    tlsEnabled := redirectHost.tlsEnabled }

/-- `changed_redirect_keys`. -/
def changedRedirectKeys (before after : RedirectAuditSummary) : List String :=
  changedKeys
    [("domain", before.domain = after.domain),
     ("permanent", before.permanent = after.permanent),
     ("target_url", before.targetUrl = after.targetUrl),
     ("tls_enabled", before.tlsEnabled = after.tlsEnabled)]

/-- `build_redirect_rollback_payload`. -/
def buildRedirectRollbackPayload (before after : RedirectAuditSummary) : RedirectHostUpdate :=
  { domain := copied (before.domain = after.domain) before.domain
    targetUrl := copied (before.targetUrl = after.targetUrl) before.targetUrl
    permanent := copied (before.permanent = after.permanent) before.permanent
    tlsEnabled := copied (before.tlsEnabled = after.tlsEnabled) before.tlsEnabled }

/-- `validate_domain` of the schema. -/
def validateRedirectDomain (value : String) : Except PyException String :=
  if matchesDomainPattern value then .ok value else .error (.validationError "domain")

/-- `validate_target_url` of the schema. -/
def validateTargetUrl (value : String) : Except PyException String :=
  let target := Text.strip value
  if target = "" then .error (.validationError "target_url")
  else
    match Url.urlsplit target.toList with
    | .error _ => .error (.validationError "target_url")
    | .ok parsed =>
        if parsed.scheme ≠ [] ∧ ¬isWebScheme parsed.scheme then
          .error (.validationError "target_url")
        else .ok target

/-- The validators of `RedirectHostUpdate`. -/
def RedirectHostUpdate.validate (data : RedirectHostUpdate) :
    Except PyException RedirectHostUpdate := do
  let domain ← validatePresent validateRedirectDomain data.domain
  let targetUrl ← validatePresent validateTargetUrl data.targetUrl
  pure { data with domain, targetUrl }

/-- Redirect hosts, as their routes record and take back their changes. -/
def redirectKind : AuditedKind RedirectHost RedirectAuditSummary RedirectHostUpdate :=
  { resourceType := "redirect"
    updateEvent := "redirect_update"
    rollbackEvent := "redirect_rollback"
    logNotFound := "대상 리다이렉트 변경 로그를 찾을 수 없습니다"
    otherLog := "리다이렉트 변경 로그만 롤백할 수 있습니다"
    unsupported := "이 리다이렉트 변경은 안전 롤백을 지원하지 않습니다"
    notFound := "리다이렉트를 찾을 수 없습니다"
    updateNotFound := "리다이렉트를 찾을  수 없습니다"
    id := RedirectHost.id
    updateName := fun redirectHost => .domainName redirectHost.domain.value
    rollbackName := fun redirectHost => .text redirectHost.domain.value
    summary := redirectAuditSummary
    updatedSummary := fun _ => redirectAuditSummary
    changedKeys := changedRedirectKeys
    rollbackPayload := fun _ before after => some (buildRedirectRollbackPayload before after)
    validate := RedirectHostUpdate.validate }

/-- `get_redirect_host`. -/
def getRedirectHost (environment : ProxyEnvironment) (redirectId : Uuid) :
    ProxyProgram (Option RedirectHost) :=
  query environment .getRedirectHost fun database =>
    Table.find RedirectHost.id database.redirectHosts redirectId

/-- `RedirectHostUseCases`, as far as the routes use them. -/
def redirectUseCases (environment : ProxyEnvironment) :
    ResourceUseCases Database Outside RedirectHost RedirectHostUpdate :=
  { get := getRedirectHost environment
    update := updateRedirectHost environment
    reach := reachAudited environment }

end RedirectHosts

section Templates

/-- `middleware_audit_summary`. -/
structure MiddlewareAuditSummary where
  name : String
  type : MiddlewareTemplateType
  config : TemplateConfig
  deriving DecidableEq, Repr

def middlewareAuditSummary (template : MiddlewareTemplate) : MiddlewareAuditSummary :=
  { name := template.name, type := template.config.type, config := template.config }

/-- Equality of configurations: the headers are a mapping, without an order of its entries. -/
def sameConfig : TemplateConfig → TemplateConfig → Bool
  | .headers first, .headers second => sameHeaders first second
  | first, second => first = second

/-- `changed_middleware_keys`. -/
def changedMiddlewareKeys (before after : MiddlewareAuditSummary) : List String :=
  changedKeys
    [("config", sameConfig before.config after.config),
     ("name", before.name = after.name),
     ("type", before.type = after.type)]

/-- `build_middleware_rollback_payload`. -/
def buildMiddlewareRollbackPayload (before after : MiddlewareAuditSummary) :
    MiddlewareTemplateUpdate :=
  { name := copied (before.name = after.name) before.name
    type := copied (before.type = after.type) before.type
    config := copied (sameConfig before.config after.config) before.config.raw }

/-- `validate_name` of the schema. -/
def validateTemplateName (value : String) : Except PyException String :=
  let normalized := Text.strip value
  if normalized = "" then .error (.validationError "name") else .ok normalized

/-- One header of `_validate_template_config`. -/
def validTemplateHeader (entry : String × String) : Bool :=
  let key := Text.strip entry.1
  let value := Text.strip entry.2
  key ≠ "" ∧ isHeaderToken key ∧ ¬hasLineEnd key ∧ ¬hasLineEnd value

/-- `_validate_template_config`. -/
def validTemplateConfig (type : MiddlewareTemplateType) (config : RawTemplateConfig) : Bool :=
  match type with
  | .ipAllowList => config.sourceRange.any fun sourceRange =>
      sourceRange ≠ [] ∧ sourceRange.all fun item => (Ip.ipNetwork (Text.strip item)).isSome
  | .rateLimit => config.average.any (0 < ·) ∧ config.burst.any (0 < ·)
  | .basicAuth => config.users.any fun users =>
      users ≠ [] ∧ users.all fun item =>
        Text.containsChar ':' (Text.strip item) ∧ ¬hasLineEnd (Text.strip item)
  | .headers => config.customResponseHeaders.any fun headers =>
      headers.entries ≠ [] ∧ headers.entries.all validTemplateHeader

/-- The validators of `MiddlewareTemplateUpdate`. -/
def MiddlewareTemplateUpdate.validate (data : MiddlewareTemplateUpdate) :
    Except PyException MiddlewareTemplateUpdate := do
  let name ← validatePresent validateTemplateName data.name
  match data.type, data.config with
  | some type, some config =>
      if validTemplateConfig type config then pure { data with name }
      else throw (.validationError "")
  | _, _ => pure { data with name }

/-- Middleware templates, as their routes record and take back their changes. -/
def middlewareKind :
    AuditedKind MiddlewareTemplate MiddlewareAuditSummary MiddlewareTemplateUpdate :=
  { resourceType := "middleware"
    updateEvent := "middleware_update"
    rollbackEvent := "middleware_rollback"
    logNotFound := "대상 미들웨어 변경 로그를 찾을 수 없습니다"
    otherLog := "미들웨어 변경 로그만 롤백할 수 있습니다"
    unsupported := "이 미들웨어 변경은 안전 롤백을 지원하지 않습니다"
    notFound := "미들웨어 템플릿을 찾을 수 없습니다"
    updateNotFound := "미들웨어 템플릿을  찾을 수 없습니다"
    id := MiddlewareTemplate.id
    updateName := fun template => .text template.name
    rollbackName := fun template => .text template.name
    summary := middlewareAuditSummary
    updatedSummary := fun _ => middlewareAuditSummary
    changedKeys := changedMiddlewareKeys
    rollbackPayload := fun _ before after => some (buildMiddlewareRollbackPayload before after)
    validate := MiddlewareTemplateUpdate.validate }

/-- `get_template`. -/
def getTemplate (environment : ProxyEnvironment) (templateId : Uuid) :
    ProxyProgram (Option MiddlewareTemplate) :=
  query environment .getTemplate fun database =>
    Table.find MiddlewareTemplate.id database.middlewareTemplates templateId

/-- `MiddlewareTemplateUseCases`, as far as the routes use them. -/
def middlewareUseCases (environment : ProxyEnvironment) :
    ResourceUseCases Database Outside MiddlewareTemplate MiddlewareTemplateUpdate :=
  { get := getTemplate environment
    update := updateTemplate environment
    reach := reachAudited environment }

end Templates

end TraefikManager.Proxy
