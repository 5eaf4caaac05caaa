import TraefikManager.Domain.DomainName
import TraefikManager.Domain.Normalizers
import TraefikManager.Domain.Upstream

/-!
# The service aggregate

A service publishes one domain in front of one upstream. Creating and updating
resolve the authentication and transport settings first and pass every field
through its normalizer; the first refusal is the error of the whole call.
-/

namespace TraefikManager.Domain

open Foundation

structure Service where
  id : Uuid
  name : String
  domain : DomainName
  upstream : Upstream
  tlsEnabled : Bool
  authEnabled : Bool
  routingMode : RoutingMode := .active
  maintenanceMessage : String := ""
  maintenanceUntil : Option Datetime := none
  authMode : AuthMode := .none
  apiKey : Option String := none
  httpsRedirectEnabled : Bool := true
  allowedIps : List String := []
  blockedPaths : List String := []
  rateLimitAverage : Option Int := none
  rateLimitBurst : Option Int := none
  customHeaders : Dict String String := Dict.empty
  basicAuthUsers : List String := []
  middlewareTemplateIds : List String := []
  authentikProviderId : Option String := none
  authentikAppSlug : Option String := none
  authentikGroupId : Option String := none
  authentikGroupName : Option String := none
  authentikPolicyId : Option String := none
  authentikPolicyBindingId : Option String := none
  cloudflareRecordId : Option String := none
  upstreamScheme : UpstreamScheme := .http
  skipTlsVerify : Bool := false
  framePolicy : FramePolicy := .deny
  healthcheckEnabled : Bool := true
  healthcheckPath : String := defaultHealthcheckPath
  healthcheckTimeoutMs : Int := defaultHealthcheckTimeoutMs
  healthcheckExpectedStatuses : List Int := []
  deriving DecidableEq, Repr

/-- `text or fallback` for optional text: the empty string counts as absent. -/
def orText (value fallback : Option String) : Option String :=
  match value with
  | some text => if text = "" then fallback else some text
  | none => fallback

section AuthPolicy

/-- `_resolve_api_key`: a token service without a key gets the generated one. -/
def resolveApiKey (authMode : AuthMode) (apiKey : Option String) (generated : String) :
    Option String :=
  match authMode with
  | .token => orText apiKey (some ("service_" ++ generated))
  | _ => none

/-- `_ensure_auth_mode_allows_basic_auth`. -/
def ensureAuthModeAllowsBasicAuth (authMode : AuthMode) (basicAuthUsers : List String) :
    Except PyException Unit :=
  match authMode, basicAuthUsers with
  | .authentik, _ :: _ =>
      .error (.valueError "Authentik 인증과 Basic Auth는 동시에 활성화할 수 없습니다")
  | .token, _ :: _ => .error (.valueError "Token 인증과 Basic Auth는 동시에 활성화할 수 없습니다")
  | _, _ => .ok ()

structure CreatedServiceAuthState where
  authMode : AuthMode
  authEnabled : Bool
  apiKey : Option String
  authentikGroupId : Option String

def resolveCreatedAuthState (authMode : String) (authEnabled : Option Bool)
    (apiKey : Option String) (basicAuthUsers : List String) (authentikGroupId : Option String)
    (generated : String) : Except PyException CreatedServiceAuthState := do
  let resolved ← normalizeAuthMode authMode authEnabled
  ensureAuthModeAllowsBasicAuth resolved basicAuthUsers
  pure
    { authMode := resolved
      authEnabled := resolved ≠ .none
      apiKey := resolveApiKey resolved apiKey generated
      authentikGroupId := if resolved = .authentik then authentikGroupId else none }

structure UpdatedServiceAuthState where
  authMode : AuthMode
  authEnabled : Bool
  apiKey : Option String
  clearBasicAuthUsers : Bool
  clearAuthentikGroup : Bool

/-- `resolve_updated_auth_state`: `none` when the request leaves authentication
as it is. -/
def resolveUpdatedAuthState (currentAuthMode : AuthMode) (currentApiKey : Option String)
    (requestedAuthMode : Option String) (requestedAuthEnabled : Option Bool)
    (requestedApiKey : Option String) (generated : String) :
    Except PyException (Option UpdatedServiceAuthState) := do
  let requestedAuthMode :=
    match requestedAuthMode, requestedAuthEnabled with
    | none, some enabled => some (if enabled then "authentik" else "none")
    | mode, _ => mode
  match requestedAuthMode with
  | none =>
      match currentAuthMode, orText requestedApiKey none with
      | .token, some key =>
          pure (some { authMode := .token, authEnabled := true, apiKey := some key
                       clearBasicAuthUsers := false, clearAuthentikGroup := false })
      | _, _ => pure none
  | some mode =>
      let resolved ← normalizeAuthMode mode none
      pure (some
        { authMode := resolved
          authEnabled := resolved ≠ .none
          apiKey := resolveApiKey resolved (orText requestedApiKey currentApiKey) generated
          clearBasicAuthUsers := resolved ≠ .none
          clearAuthentikGroup := resolved ≠ .authentik })

def ensureBasicAuthAllowed (authEnabled : Bool) (basicAuthUsers : List String) :
    Except PyException Unit :=
  if basicAuthUsers ≠ [] ∧ authEnabled then
    .error (.valueError "인증 모드와 Basic Auth는 동시에 활성화할 수 없습니다")
  else
    .ok ()

end AuthPolicy

section TransportPolicy

def ensureHttpsRedirectAllowed (tlsEnabled httpsRedirectEnabled : Bool) : Except PyException Unit :=
  if httpsRedirectEnabled ∧ ¬tlsEnabled then
    .error (.valueError "HTTPS 리다이렉트는 TLS 활성화 시에만 사용할 수 있습니다")
  else
    .ok ()

structure ServiceTransportState where
  upstreamScheme : UpstreamScheme
  skipTlsVerify : Bool

def resolveCreatedTransportState (upstreamScheme : String) (skipTlsVerify : Bool) :
    Except PyException ServiceTransportState := do
  let resolved ← validateUpstreamScheme upstreamScheme
  pure { upstreamScheme := resolved
         skipTlsVerify := if resolved = .https then skipTlsVerify else false }

/-- `resolve_updated_transport_state`: `none` when the request leaves the
transport as it is. -/
def resolveUpdatedTransportState (currentUpstreamScheme : UpstreamScheme)
    (currentSkipTlsVerify : Bool) (requestedUpstreamScheme : Option String)
    (requestedSkipTlsVerify : Option Bool) :
    Except PyException (Option ServiceTransportState) := do
  match requestedUpstreamScheme, requestedSkipTlsVerify with
  | none, none => pure none
  | scheme, skip =>
      let resolved ← match scheme with
        | some text => validateUpstreamScheme text
        | none => pure currentUpstreamScheme
      pure (some
        { upstreamScheme := resolved
          skipTlsVerify := if resolved = .https then skip.getD currentSkipTlsVerify else false })

end TransportPolicy

/-- The arguments of `Service.create`, with its defaults. -/
structure ServiceCreateArguments where
  name : String
  domain : String
  upstreamHost : String
  upstreamPort : Int
  routingMode : String := "active"
  maintenanceMessage : String := ""
  maintenanceUntil : Option Datetime := none
  tlsEnabled : Bool := true
  authEnabled : Option Bool := none
  authMode : String := "none"
  apiKey : Option String := none
  httpsRedirectEnabled : Bool := true
  allowedIps : Option (List String) := none
  blockedPaths : Option (List String) := none
  rateLimitAverage : Option Int := none
  rateLimitBurst : Option Int := none
  customHeaders : Option (Dict String String) := none
  basicAuthUsers : Option (List String) := none
  middlewareTemplateIds : Option (List String) := none
  authentikGroupId : Option String := none
  upstreamScheme : String := "http"
  skipTlsVerify : Bool := false
  framePolicy : String := "deny"
  healthcheckEnabled : Bool := true
  healthcheckPath : String := defaultHealthcheckPath
  healthcheckTimeoutMs : Int := defaultHealthcheckTimeoutMs
  healthcheckExpectedStatuses : Option (List Int) := none
  deriving DecidableEq, Repr

/-- The arguments of `Service.update`: an absent argument leaves its field. -/
structure ServiceUpdateArguments where
  name : Option String := none
  upstreamHost : Option String := none
  upstreamPort : Option Int := none
  routingMode : Option String := none
  maintenanceMessage : Option String := none
  maintenanceUntil : Option Datetime := none
  clearMaintenanceUntil : Bool := false
  tlsEnabled : Option Bool := none
  authEnabled : Option Bool := none
  authMode : Option String := none
  apiKey : Option String := none
  httpsRedirectEnabled : Option Bool := none
  allowedIps : Option (List String) := none
  blockedPaths : Option (List String) := none
  rateLimitAverage : Option Int := none
  rateLimitBurst : Option Int := none
  customHeaders : Option (Dict String String) := none
  basicAuthUsers : Option (List String) := none
  middlewareTemplateIds : Option (List String) := none
  authentikGroupId : Option String := none
  clearRateLimit : Bool := false
  upstreamScheme : Option String := none
  skipTlsVerify : Option Bool := none
  framePolicy : Option String := none
  healthcheckEnabled : Option Bool := none
  healthcheckPath : Option String := none
  healthcheckTimeoutMs : Option Int := none
  healthcheckExpectedStatuses : Option (List Int) := none
  deriving DecidableEq, Repr

namespace Service

/-- `Service.create` with the drawn identifier and the random part of a key. -/
def create (arguments : ServiceCreateArguments) (id : Uuid) (generated : String) :
    Except PyException Service := do
  ensureHttpsRedirectAllowed arguments.tlsEnabled arguments.httpsRedirectEnabled
  let authState ← resolveCreatedAuthState arguments.authMode arguments.authEnabled
    arguments.apiKey (arguments.basicAuthUsers.getD []) arguments.authentikGroupId generated
  let transportState ← resolveCreatedTransportState arguments.upstreamScheme
    arguments.skipTlsVerify
  let (rateLimitAverage, rateLimitBurst) ← normalizeRateLimit arguments.rateLimitAverage
    arguments.rateLimitBurst
  let domain ← DomainName.make arguments.domain
  let upstream ← Upstream.make arguments.upstreamHost arguments.upstreamPort
  let routingMode ← normalizeRoutingMode arguments.routingMode
  let maintenanceMessage ← normalizeMaintenanceMessage arguments.maintenanceMessage
  let maintenanceUntil ← normalizeMaintenanceUntil arguments.maintenanceUntil
  let allowedIps ← normalizeAllowedIps arguments.allowedIps
  let blockedPaths ← normalizeBlockedPaths arguments.blockedPaths
  let customHeaders ← normalizeCustomHeaders arguments.customHeaders
  let basicAuthUsers ← normalizeBasicAuthUsers arguments.basicAuthUsers
  let middlewareTemplateIds ← normalizeMiddlewareTemplateIds arguments.middlewareTemplateIds
  let framePolicy ← normalizeFramePolicy arguments.framePolicy
  let healthcheckPath ← normalizeHealthcheckPath arguments.healthcheckPath
  let healthcheckTimeoutMs ← normalizeHealthcheckTimeoutMs arguments.healthcheckTimeoutMs
  let healthcheckExpectedStatuses ←
    normalizeHealthcheckExpectedStatuses arguments.healthcheckExpectedStatuses
  pure
    { id, name := arguments.name, domain, upstream
      tlsEnabled := arguments.tlsEnabled
      authEnabled := authState.authEnabled
      routingMode, maintenanceMessage, maintenanceUntil
      authMode := authState.authMode
      apiKey := authState.apiKey
      httpsRedirectEnabled := arguments.httpsRedirectEnabled
      allowedIps, blockedPaths, rateLimitAverage, rateLimitBurst, customHeaders
      basicAuthUsers, middlewareTemplateIds
      authentikGroupId := authState.authentikGroupId
      upstreamScheme := transportState.upstreamScheme
      skipTlsVerify := transportState.skipTlsVerify
      framePolicy
      healthcheckEnabled := arguments.healthcheckEnabled
      healthcheckPath, healthcheckTimeoutMs, healthcheckExpectedStatuses }

/-- Normalize a requested value, or keep the current one. -/
def changed {α β : Type} (current : β) (normalize : α → Except PyException β) :
    Option α → Except PyException β
  | none => .ok current
  | some requested => normalize requested

/-- The first part of an update: name, routing, upstream, transport and TLS. -/
def updateTransport (service : Service) (arguments : ServiceUpdateArguments) :
    Except PyException Service := do
  let routingMode ← changed service.routingMode normalizeRoutingMode arguments.routingMode
  let maintenanceMessage ← changed service.maintenanceMessage normalizeMaintenanceMessage
    arguments.maintenanceMessage
  let maintenanceUntil ←
    if arguments.clearMaintenanceUntil then pure none
    else match arguments.maintenanceUntil with
      | some moment => normalizeMaintenanceUntil (some moment)
      | none => pure service.maintenanceUntil
  let upstream ←
    match arguments.upstreamHost, arguments.upstreamPort with
    | none, none => pure service.upstream
    | host, port =>
        Upstream.make ((orText host none).getD service.upstream.host)
          (match port with
            | some port => if port = 0 then service.upstream.port else port
            | none => service.upstream.port)
  let transportState ← resolveUpdatedTransportState service.upstreamScheme service.skipTlsVerify
    arguments.upstreamScheme arguments.skipTlsVerify
  pure
    { service with
      name := arguments.name.getD service.name
      routingMode, maintenanceMessage, maintenanceUntil, upstream
      upstreamScheme := (transportState.map (·.upstreamScheme)).getD service.upstreamScheme
      skipTlsVerify := (transportState.map (·.skipTlsVerify)).getD service.skipTlsVerify
      tlsEnabled := arguments.tlsEnabled.getD service.tlsEnabled
      httpsRedirectEnabled :=
        if arguments.tlsEnabled = some false then false else service.httpsRedirectEnabled }

/-- The second part of an update: authentication. -/
def updateAuth (service : Service) (arguments : ServiceUpdateArguments) (generated : String) :
    Except PyException Service := do
  match ← resolveUpdatedAuthState service.authMode service.apiKey arguments.authMode
      arguments.authEnabled arguments.apiKey generated with
  | none => pure service
  | some state =>
      pure
        { service with
          authMode := state.authMode
          authEnabled := state.authEnabled
          apiKey := state.apiKey
          basicAuthUsers := if state.clearBasicAuthUsers then [] else service.basicAuthUsers
          authentikGroupId :=
            if state.clearAuthentikGroup then none else service.authentikGroupId }

/-- The rate limit of an update: cleared, changed in one part or both, or kept. -/
def updateRateLimit (service : Service) (arguments : ServiceUpdateArguments) :
    Except PyException (Option Int × Option Int) :=
  if arguments.clearRateLimit then
    .ok (none, none)
  else
    match arguments.rateLimitAverage, arguments.rateLimitBurst with
    | none, none => .ok (service.rateLimitAverage, service.rateLimitBurst)
    | average, burst =>
        normalizeRateLimit (average.orElse fun _ => service.rateLimitAverage)
          (burst.orElse fun _ => service.rateLimitBurst)

/-- The last part of an update: redirect, access lists, headers, health check,
basic authentication and references. -/
def updateAccess (service : Service) (arguments : ServiceUpdateArguments) :
    Except PyException Service := do
  match arguments.httpsRedirectEnabled with
  | some enabled => ensureHttpsRedirectAllowed service.tlsEnabled enabled
  | none => pure ()
  let allowedIps ← changed service.allowedIps (normalizeAllowedIps ∘ some) arguments.allowedIps
  let blockedPaths ← changed service.blockedPaths (normalizeBlockedPaths ∘ some)
    arguments.blockedPaths
  let (rateLimitAverage, rateLimitBurst) ← updateRateLimit service arguments
  let customHeaders ← changed service.customHeaders (normalizeCustomHeaders ∘ some)
    arguments.customHeaders
  let framePolicy ← changed service.framePolicy normalizeFramePolicy arguments.framePolicy
  let healthcheckPath ← changed service.healthcheckPath normalizeHealthcheckPath
    arguments.healthcheckPath
  let healthcheckTimeoutMs ← changed service.healthcheckTimeoutMs normalizeHealthcheckTimeoutMs
    arguments.healthcheckTimeoutMs
  let healthcheckExpectedStatuses ← changed service.healthcheckExpectedStatuses
    (normalizeHealthcheckExpectedStatuses ∘ some) arguments.healthcheckExpectedStatuses
  let basicAuthUsers ← changed service.basicAuthUsers
    (fun users => do
      let normalized ← normalizeBasicAuthUsers (some users)
      ensureBasicAuthAllowed service.authEnabled normalized
      pure normalized)
    arguments.basicAuthUsers
  let middlewareTemplateIds ← changed service.middlewareTemplateIds
    (normalizeMiddlewareTemplateIds ∘ some) arguments.middlewareTemplateIds
  pure
    { service with
      httpsRedirectEnabled := arguments.httpsRedirectEnabled.getD service.httpsRedirectEnabled
      allowedIps, blockedPaths, rateLimitAverage, rateLimitBurst, customHeaders, framePolicy
      healthcheckEnabled := arguments.healthcheckEnabled.getD service.healthcheckEnabled
      healthcheckPath, healthcheckTimeoutMs, healthcheckExpectedStatuses, basicAuthUsers
      middlewareTemplateIds
      authentikGroupId :=
        match arguments.authentikGroupId with
        | some group => if service.authMode = .authentik then some group else none
        | none => service.authentikGroupId }

/-- `Service.update`. -/
def update (service : Service) (arguments : ServiceUpdateArguments) (generated : String) :
    Except PyException Service := do
  let service ← service.updateTransport arguments
  let service ← service.updateAuth arguments generated
  service.updateAccess arguments

/-- Whether both parts of a rate limit are set. -/
def rateLimitEnabled (service : Service) : Bool :=
  service.rateLimitAverage.isSome && service.rateLimitBurst.isSome

def basicAuthEnabled (service : Service) : Bool := service.basicAuthUsers ≠ []

end Service

end TraefikManager.Domain
