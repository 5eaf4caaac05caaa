import TraefikManager.Proxy.ServiceRequests

/-!
# Audit records of service changes

The summary of a service that its audit records keep, and the request that undoes
a recorded change.
-/

namespace TraefikManager.Proxy

open Foundation Domain

/-- `service_audit_summary`. -/
structure ServiceAuditSummary where
  name : String
  upstreamHost : String
  upstreamPort : Int
  routingMode : RoutingMode
  maintenanceMessage : String
  maintenanceUntil : Option String
  upstreamScheme : UpstreamScheme
  skipTlsVerify : Bool
  tlsEnabled : Bool
  httpsRedirectEnabled : Bool
  authMode : AuthMode
  apiKeyConfigured : Bool
  allowedIps : List String
  blockedPaths : List String
  middlewareTemplateIds : List String
  rateLimitEnabled : Bool
  rateLimitAverage : Option Int
  rateLimitBurst : Option Int
  customHeaders : Dict String String
  framePolicy : FramePolicy
  healthcheckEnabled : Bool
  healthcheckPath : String
  healthcheckTimeoutMs : Int
  healthcheckExpectedStatuses : List Int
  basicAuthEnabled : Bool
  basicAuthUserCount : Nat
  authentikGroupId : Option String
  deriving DecidableEq, Repr

def serviceAuditSummary (service : Service) : ServiceAuditSummary :=
  { name := service.name
    upstreamHost := service.upstream.host
    upstreamPort := service.upstream.port
    routingMode := service.routingMode
    maintenanceMessage := service.maintenanceMessage
    maintenanceUntil := service.maintenanceUntil.map Datetime.isoformat
    upstreamScheme := service.upstreamScheme
    skipTlsVerify := service.skipTlsVerify
    tlsEnabled := service.tlsEnabled
    httpsRedirectEnabled := service.httpsRedirectEnabled
    authMode := service.authMode
    apiKeyConfigured := orText service.apiKey none ≠ none
    allowedIps := service.allowedIps
    blockedPaths := service.blockedPaths
    middlewareTemplateIds := service.middlewareTemplateIds
    rateLimitEnabled := service.rateLimitEnabled
    rateLimitAverage := service.rateLimitAverage
    rateLimitBurst := service.rateLimitBurst
    customHeaders := service.customHeaders
    framePolicy := service.framePolicy
    healthcheckEnabled := service.healthcheckEnabled
    healthcheckPath := service.healthcheckPath
    healthcheckTimeoutMs := service.healthcheckTimeoutMs
    healthcheckExpectedStatuses := service.healthcheckExpectedStatuses
    basicAuthEnabled := service.basicAuthEnabled
    basicAuthUserCount := service.basicAuthUsers.length
    authentikGroupId := service.authentikGroupId }

/-- Headers are a mapping: two of them are equal when they have the same entries, in
whatever order. -/
def sameHeaders (first second : Dict String String) : Bool := first.entries.isPerm second.entries

/-- Equality of summaries. -/
def ServiceAuditSummary.Same (first second : ServiceAuditSummary) : Prop :=
  sameHeaders first.customHeaders second.customHeaders = true ∧
    { first with customHeaders := second.customHeaders } = second

instance (first second : ServiceAuditSummary) : Decidable (first.Same second) :=
  inferInstanceAs (Decidable (_ ∧ _))

/-- Each key of a summary, in alphabetical order, with whether the two agree on it. -/
def comparedServiceKeys (before after : ServiceAuditSummary) : List (String × Bool) :=
  [("allowed_ips", before.allowedIps = after.allowedIps),
   ("api_key_configured", before.apiKeyConfigured = after.apiKeyConfigured),
   ("auth_mode", before.authMode = after.authMode),
   ("authentik_group_id", before.authentikGroupId = after.authentikGroupId),
   ("basic_auth_enabled", before.basicAuthEnabled = after.basicAuthEnabled),
   ("basic_auth_user_count", before.basicAuthUserCount = after.basicAuthUserCount),
   ("blocked_paths", before.blockedPaths = after.blockedPaths),
   ("custom_headers", sameHeaders before.customHeaders after.customHeaders),
   ("frame_policy", before.framePolicy = after.framePolicy),
   ("healthcheck_enabled", before.healthcheckEnabled = after.healthcheckEnabled),
   ("healthcheck_expected_statuses",
     before.healthcheckExpectedStatuses = after.healthcheckExpectedStatuses),
   ("healthcheck_path", before.healthcheckPath = after.healthcheckPath),
   ("healthcheck_timeout_ms", before.healthcheckTimeoutMs = after.healthcheckTimeoutMs),
   ("https_redirect_enabled", before.httpsRedirectEnabled = after.httpsRedirectEnabled),
   ("maintenance_message", before.maintenanceMessage = after.maintenanceMessage),
   ("maintenance_until", before.maintenanceUntil = after.maintenanceUntil),
   ("middleware_template_ids", before.middlewareTemplateIds = after.middlewareTemplateIds),
   ("name", before.name = after.name),
   ("rate_limit_average", before.rateLimitAverage = after.rateLimitAverage),
   ("rate_limit_burst", before.rateLimitBurst = after.rateLimitBurst),
   ("rate_limit_enabled", before.rateLimitEnabled = after.rateLimitEnabled),
   ("routing_mode", before.routingMode = after.routingMode),
   ("skip_tls_verify", before.skipTlsVerify = after.skipTlsVerify),
   ("tls_enabled", before.tlsEnabled = after.tlsEnabled),
   ("upstream_host", before.upstreamHost = after.upstreamHost),
   ("upstream_port", before.upstreamPort = after.upstreamPort),
   ("upstream_scheme", before.upstreamScheme = after.upstreamScheme)]

/-- `changed_service_keys`. -/
def changedServiceKeys (before after : ServiceAuditSummary) : List String :=
  (comparedServiceKeys before after).filterMap fun (key, same) => if same then none else some key

/-- `_service_supports_rollback`. -/
def serviceSupportsRollback (before after : Service) : Bool :=
  [before, after].all fun service => service.authMode ≠ .token ∧ service.basicAuthUsers = []

/-- A copied value: the earlier one of a key that changed, nothing for the others. -/
def copied {α : Type} (same : Bool) (before : α) : Option α := if same then none else some before

/-- The keys of `build_service_rollback_payload`. -/
def serviceRollbackFields (before after : ServiceAuditSummary) : ServiceUpdateFields String :=
  let rateLimitKept := before.rateLimitEnabled = after.rateLimitEnabled ∧
    before.rateLimitAverage = after.rateLimitAverage ∧ before.rateLimitBurst = after.rateLimitBurst
  { name := copied (before.name = after.name) before.name
    upstreamHost := copied (before.upstreamHost = after.upstreamHost) (some before.upstreamHost)
    upstreamPort := copied (before.upstreamPort = after.upstreamPort) before.upstreamPort
    routingMode := copied (before.routingMode = after.routingMode) before.routingMode.text
    maintenanceMessage :=
      copied (before.maintenanceMessage = after.maintenanceMessage) before.maintenanceMessage
    maintenanceUntil :=
      copied (before.maintenanceUntil = after.maintenanceUntil) before.maintenanceUntil
    upstreamScheme :=
      copied (before.upstreamScheme = after.upstreamScheme) before.upstreamScheme.text
    skipTlsVerify := copied (before.skipTlsVerify = after.skipTlsVerify) before.skipTlsVerify
    tlsEnabled := copied (before.tlsEnabled = after.tlsEnabled) before.tlsEnabled
    httpsRedirectEnabled :=
      copied (before.httpsRedirectEnabled = after.httpsRedirectEnabled) before.httpsRedirectEnabled
    authMode := copied (before.authMode = after.authMode) before.authMode.text
    allowedIps := copied (before.allowedIps = after.allowedIps) before.allowedIps
    blockedPaths := copied (before.blockedPaths = after.blockedPaths) before.blockedPaths
    middlewareTemplateIds :=
      copied (before.middlewareTemplateIds = after.middlewareTemplateIds)
        before.middlewareTemplateIds
    rateLimitEnabled := copied rateLimitKept before.rateLimitEnabled
    rateLimitAverage :=
      if before.rateLimitEnabled then (copied rateLimitKept before.rateLimitAverage).getD none
      else none
    rateLimitBurst :=
      if before.rateLimitEnabled then (copied rateLimitKept before.rateLimitBurst).getD none
      else none
    customHeaders :=
      copied (sameHeaders before.customHeaders after.customHeaders) before.customHeaders
    framePolicy := copied (before.framePolicy = after.framePolicy) before.framePolicy.text
    healthcheckEnabled :=
      copied (before.healthcheckEnabled = after.healthcheckEnabled) before.healthcheckEnabled
    healthcheckPath := copied (before.healthcheckPath = after.healthcheckPath) before.healthcheckPath
    healthcheckTimeoutMs :=
      copied (before.healthcheckTimeoutMs = after.healthcheckTimeoutMs) before.healthcheckTimeoutMs
    healthcheckExpectedStatuses :=
      copied (before.healthcheckExpectedStatuses = after.healthcheckExpectedStatuses)
        before.healthcheckExpectedStatuses
    authentikGroupId :=
      copied (before.authentikGroupId = after.authentikGroupId) before.authentikGroupId }

/-- `build_service_rollback_payload`: `none` when the change is not supported or
nothing would be undone. -/
def buildServiceRollbackPayload (before after : Service) : Option (ServiceUpdateFields String) :=
  if serviceSupportsRollback before after then
    let fields := serviceRollbackFields (serviceAuditSummary before) (serviceAuditSummary after)
    if fields = {} then none else some fields
  else
    none

/-- What an audit record says of its event. The record of an expired maintenance
carries a payload of its own, which asks for maintenance without an end. -/
inductive AuditDetail where
  | event (event : String)
  | serviceUpdate (changedKeys : List String) (before after : ServiceAuditSummary)
      (rollbackPayload : Option (ServiceUpdateFields String))
  | maintenanceExpired (previousUntil checkedAt : String)
  | serviceRollback (sourceAuditId : String) (changedKeys : List String)
      (before after : ServiceAuditSummary)

/-- The payload of a record whose event is `service_update` and whose rollback is
supported. -/
def AuditDetail.rollbackPayload? : AuditDetail → Option (ServiceUpdateFields String)
  | serviceUpdate _ _ _ rollbackPayload => rollbackPayload
  | maintenanceExpired _ _ =>
      some { routingMode := some "maintenance", maintenanceUntil := some none }
  | event _ | serviceRollback .. => none

structure AuditLog where
  id : String
  action : String
  resourceType : String
  resourceId : Uuid
  detail : AuditDetail

end TraefikManager.Proxy
