import TraefikManager.Domain.Service

/-!
# What an update does

One statement for each of the three parts of an update: how every field it sets
is determined by the request, and that it sets no other field.
-/

namespace TraefikManager.Domain

open Foundation

namespace Service

variable (service : Service) (arguments : ServiceUpdateArguments)

/-- The point in time an update asks for. -/
def requestedMaintenanceUntil : Except PyException (Option Datetime) :=
  if arguments.clearMaintenanceUntil then .ok none
  else match arguments.maintenanceUntil with
    | some moment => normalizeMaintenanceUntil (some moment)
    | none => .ok service.maintenanceUntil

/-- The upstream an update asks for; an empty host and port zero count as absent. -/
def requestedUpstream : Except PyException Upstream :=
  match arguments.upstreamHost, arguments.upstreamPort with
  | none, none => .ok service.upstream
  | host, port =>
      Upstream.make ((orText host none).getD service.upstream.host)
        (match port with
          | some port => if port = 0 then service.upstream.port else port
          | none => service.upstream.port)

/-- The check of an update that asks for the redirect. -/
def httpsRedirectCheck : Except PyException Unit :=
  match arguments.httpsRedirectEnabled with
  | some enabled => ensureHttpsRedirectAllowed service.tlsEnabled enabled
  | none => .ok ()

/-- Normalized users, allowed only without an authentication mode. -/
def normalizeAllowedBasicAuthUsers (authEnabled : Bool) (users : List String) :
    Except PyException (List String) := do
  let normalized ← normalizeBasicAuthUsers (some users)
  ensureBasicAuthAllowed authEnabled normalized
  pure normalized

/-- The group an update asks for; only an Authentik service takes one. -/
def requestedGroupId : Option String :=
  match arguments.authentikGroupId with
  | some group => if service.authMode = .authentik then some group else none
  | none => service.authentikGroupId

/-- What the first part of an update does. -/
structure TransportUpdate (next : Service) : Prop where
  name : next.name = arguments.name.getD service.name
  routingMode : changed service.routingMode normalizeRoutingMode arguments.routingMode =
    .ok next.routingMode
  maintenanceMessage : changed service.maintenanceMessage normalizeMaintenanceMessage
    arguments.maintenanceMessage = .ok next.maintenanceMessage
  maintenanceUntil : service.requestedMaintenanceUntil arguments = .ok next.maintenanceUntil
  upstream : service.requestedUpstream arguments = .ok next.upstream
  transport : ∃ state, resolveUpdatedTransportState service.upstreamScheme service.skipTlsVerify
      arguments.upstreamScheme arguments.skipTlsVerify = .ok state ∧
    next.upstreamScheme = (state.map (·.upstreamScheme)).getD service.upstreamScheme ∧
    next.skipTlsVerify = (state.map (·.skipTlsVerify)).getD service.skipTlsVerify
  tlsEnabled : next.tlsEnabled = arguments.tlsEnabled.getD service.tlsEnabled
  httpsRedirectEnabled : next.httpsRedirectEnabled =
    if arguments.tlsEnabled = some false then false else service.httpsRedirectEnabled
  rest : next =
    { service with
      name := next.name, routingMode := next.routingMode
      maintenanceMessage := next.maintenanceMessage, maintenanceUntil := next.maintenanceUntil
      upstream := next.upstream, upstreamScheme := next.upstreamScheme
      skipTlsVerify := next.skipTlsVerify, tlsEnabled := next.tlsEnabled
      httpsRedirectEnabled := next.httpsRedirectEnabled }

/-- What the second part of an update does. -/
structure AuthUpdate (generated : String) (next : Service) : Prop where
  auth : ∃ state, resolveUpdatedAuthState service.authMode service.apiKey arguments.authMode
      arguments.authEnabled arguments.apiKey generated = .ok state ∧
    next.authMode = (state.map (·.authMode)).getD service.authMode ∧
    next.authEnabled = (state.map (·.authEnabled)).getD service.authEnabled ∧
    next.apiKey = (state.map (·.apiKey)).getD service.apiKey ∧
    next.basicAuthUsers =
      (if (state.map (·.clearBasicAuthUsers)).getD false then [] else service.basicAuthUsers) ∧
    next.authentikGroupId =
      if (state.map (·.clearAuthentikGroup)).getD false then none else service.authentikGroupId
  rest : next =
    { service with
      authMode := next.authMode, authEnabled := next.authEnabled, apiKey := next.apiKey
      basicAuthUsers := next.basicAuthUsers, authentikGroupId := next.authentikGroupId }

/-- What the last part of an update does. -/
structure AccessUpdate (next : Service) : Prop where
  httpsRedirectAllowed : service.httpsRedirectCheck arguments = .ok ()
  httpsRedirectEnabled : next.httpsRedirectEnabled =
    arguments.httpsRedirectEnabled.getD service.httpsRedirectEnabled
  allowedIps : changed service.allowedIps (normalizeAllowedIps ∘ some) arguments.allowedIps =
    .ok next.allowedIps
  blockedPaths : changed service.blockedPaths (normalizeBlockedPaths ∘ some)
    arguments.blockedPaths = .ok next.blockedPaths
  rateLimit : service.updateRateLimit arguments = .ok (next.rateLimitAverage, next.rateLimitBurst)
  customHeaders : changed service.customHeaders (normalizeCustomHeaders ∘ some)
    arguments.customHeaders = .ok next.customHeaders
  framePolicy : changed service.framePolicy normalizeFramePolicy arguments.framePolicy =
    .ok next.framePolicy
  healthcheckEnabled : next.healthcheckEnabled =
    arguments.healthcheckEnabled.getD service.healthcheckEnabled
  healthcheckPath : changed service.healthcheckPath normalizeHealthcheckPath
    arguments.healthcheckPath = .ok next.healthcheckPath
  healthcheckTimeoutMs : changed service.healthcheckTimeoutMs normalizeHealthcheckTimeoutMs
    arguments.healthcheckTimeoutMs = .ok next.healthcheckTimeoutMs
  healthcheckExpectedStatuses : changed service.healthcheckExpectedStatuses
    (normalizeHealthcheckExpectedStatuses ∘ some) arguments.healthcheckExpectedStatuses =
      .ok next.healthcheckExpectedStatuses
  basicAuthUsers : changed service.basicAuthUsers
    (normalizeAllowedBasicAuthUsers service.authEnabled) arguments.basicAuthUsers =
      .ok next.basicAuthUsers
  middlewareTemplateIds : changed service.middlewareTemplateIds
    (normalizeMiddlewareTemplateIds ∘ some) arguments.middlewareTemplateIds =
      .ok next.middlewareTemplateIds
  authentikGroupId : next.authentikGroupId = service.requestedGroupId arguments
  rest : next =
    { service with
      httpsRedirectEnabled := next.httpsRedirectEnabled, allowedIps := next.allowedIps
      blockedPaths := next.blockedPaths, rateLimitAverage := next.rateLimitAverage
      rateLimitBurst := next.rateLimitBurst, customHeaders := next.customHeaders
      framePolicy := next.framePolicy, healthcheckEnabled := next.healthcheckEnabled
      healthcheckPath := next.healthcheckPath
      healthcheckTimeoutMs := next.healthcheckTimeoutMs
      healthcheckExpectedStatuses := next.healthcheckExpectedStatuses
      basicAuthUsers := next.basicAuthUsers
      middlewareTemplateIds := next.middlewareTemplateIds
      authentikGroupId := next.authentikGroupId }

variable {service arguments} {generated : String} {next : Service}

variable (service arguments) in
/-- The first part of an update with each of its steps named. -/
theorem updateTransport_eq :
    service.updateTransport arguments = (do
      let routingMode ← changed service.routingMode normalizeRoutingMode arguments.routingMode
      let maintenanceMessage ← changed service.maintenanceMessage normalizeMaintenanceMessage
        arguments.maintenanceMessage
      let maintenanceUntil ← service.requestedMaintenanceUntil arguments
      let upstream ← service.requestedUpstream arguments
      let state ← resolveUpdatedTransportState service.upstreamScheme service.skipTlsVerify
        arguments.upstreamScheme arguments.skipTlsVerify
      pure
        { service with
          name := arguments.name.getD service.name
          routingMode, maintenanceMessage, maintenanceUntil, upstream
          upstreamScheme := (state.map (·.upstreamScheme)).getD service.upstreamScheme
          skipTlsVerify := (state.map (·.skipTlsVerify)).getD service.skipTlsVerify
          tlsEnabled := arguments.tlsEnabled.getD service.tlsEnabled
          httpsRedirectEnabled :=
            if arguments.tlsEnabled = some false then false else service.httpsRedirectEnabled }) := by
  obtain ⟨_, host, port, _, _, moment, clear⟩ := arguments
  cases clear <;> cases moment <;> cases host <;> cases port <;> rfl

theorem updateTransport_ok (updated : service.updateTransport arguments = .ok next) :
    service.TransportUpdate arguments next := by
  simp only [updateTransport_eq, bind_eq_ok] at updated
  obtain ⟨routingMode, isRouting, message, isMessage, moment, isMoment, upstream, isUpstream,
    transport, isTransport, isNext⟩ := updated
  cases isNext
  exact
    { name := rfl
      routingMode := isRouting
      maintenanceMessage := isMessage
      maintenanceUntil := isMoment
      upstream := isUpstream
      transport := ⟨transport, isTransport, rfl, rfl⟩
      tlsEnabled := rfl
      httpsRedirectEnabled := rfl
      rest := rfl }

theorem updateAuth_ok (updated : service.updateAuth arguments generated = .ok next) :
    service.AuthUpdate arguments generated next := by
  simp only [updateAuth, bind_eq_ok] at updated
  obtain ⟨state, isState, isNext⟩ := updated
  cases state with
  | none =>
      cases isNext
      exact ⟨⟨none, isState, rfl, rfl, rfl, rfl, rfl⟩, rfl⟩
  | some state =>
      cases isNext
      exact ⟨⟨some state, isState, rfl, rfl, rfl, rfl, rfl⟩, rfl⟩

variable (service arguments) in
/-- The last part of an update with each of its steps named. -/
theorem updateAccess_eq :
    service.updateAccess arguments = (do
      service.httpsRedirectCheck arguments
      let allowedIps ← changed service.allowedIps (normalizeAllowedIps ∘ some) arguments.allowedIps
      let blockedPaths ← changed service.blockedPaths (normalizeBlockedPaths ∘ some)
        arguments.blockedPaths
      let limits ← service.updateRateLimit arguments
      let customHeaders ← changed service.customHeaders (normalizeCustomHeaders ∘ some)
        arguments.customHeaders
      let framePolicy ← changed service.framePolicy normalizeFramePolicy arguments.framePolicy
      let healthcheckPath ← changed service.healthcheckPath normalizeHealthcheckPath
        arguments.healthcheckPath
      let healthcheckTimeoutMs ← changed service.healthcheckTimeoutMs normalizeHealthcheckTimeoutMs
        arguments.healthcheckTimeoutMs
      let healthcheckExpectedStatuses ← changed service.healthcheckExpectedStatuses
        (normalizeHealthcheckExpectedStatuses ∘ some) arguments.healthcheckExpectedStatuses
      let basicAuthUsers ← changed service.basicAuthUsers
        (normalizeAllowedBasicAuthUsers service.authEnabled) arguments.basicAuthUsers
      let middlewareTemplateIds ← changed service.middlewareTemplateIds
        (normalizeMiddlewareTemplateIds ∘ some) arguments.middlewareTemplateIds
      pure
        { service with
          httpsRedirectEnabled :=
            arguments.httpsRedirectEnabled.getD service.httpsRedirectEnabled
          allowedIps, blockedPaths, customHeaders, framePolicy
          rateLimitAverage := limits.1, rateLimitBurst := limits.2
          healthcheckEnabled := arguments.healthcheckEnabled.getD service.healthcheckEnabled
          healthcheckPath, healthcheckTimeoutMs, healthcheckExpectedStatuses, basicAuthUsers
          middlewareTemplateIds
          authentikGroupId := service.requestedGroupId arguments }) := by
  obtain ⟨_, _, _, _, _, _, _, _, _, _, _, redirect⟩ := arguments
  cases redirect <;> rfl

theorem updateAccess_ok (updated : service.updateAccess arguments = .ok next) :
    service.AccessUpdate arguments next := by
  simp only [updateAccess_eq, bind_eq_ok] at updated
  obtain ⟨_, allowed, allowedIps, isAllowed, blockedPaths, isBlocked, ⟨average, burst⟩, isLimit,
    customHeaders, isHeaders, framePolicy, isPolicy, path, isPath, timeout, isTimeout, statuses,
    isStatuses, basicAuthUsers, isUsers, templateIds, isIds, isNext⟩ := updated
  cases isNext
  exact
    { httpsRedirectAllowed := allowed
      httpsRedirectEnabled := rfl
      allowedIps := isAllowed
      blockedPaths := isBlocked
      rateLimit := isLimit
      customHeaders := isHeaders
      framePolicy := isPolicy
      healthcheckEnabled := rfl
      healthcheckPath := isPath
      healthcheckTimeoutMs := isTimeout
      healthcheckExpectedStatuses := isStatuses
      basicAuthUsers := isUsers
      middlewareTemplateIds := isIds
      authentikGroupId := rfl
      rest := rfl }

end Service

end TraefikManager.Domain
