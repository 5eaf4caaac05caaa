import TraefikManager.Domain.ServiceUpdate

/-!
# An update does what was asked

An argument that is given becomes the value of its field, brought into form by the field's
normalizer, and a field whose argument is not given stays as it is. The policies that couple
fields override both: the older authentication switch, keys and groups outside their modes,
certificate verification without HTTPS, a redirect without TLS, and the switches that clear.
-/

namespace TraefikManager.Domain.Service

open Foundation

variable (service : Service) (arguments : ServiceUpdateArguments) (next : Service)

/-- The request says something about the authentication mode. -/
def AsksForAuth (arguments : ServiceUpdateArguments) : Prop :=
  arguments.authMode ≠ none ∨ arguments.authEnabled ≠ none

/-- Where the values that are given end up. An empty host, port zero and an empty key say
nothing here. -/
structure GivenTaken : Prop where
  name : ∀ name ∈ arguments.name, next.name = name
  upstreamHost : ∀ host ∈ arguments.upstreamHost, host ≠ "" → next.upstream.host = host
  upstreamPort : ∀ port ∈ arguments.upstreamPort, port ≠ 0 → next.upstream.port = port
  routingMode : ∀ mode ∈ arguments.routingMode, normalizeRoutingMode mode = .ok next.routingMode
  maintenanceMessage : ∀ message ∈ arguments.maintenanceMessage,
    normalizeMaintenanceMessage message = .ok next.maintenanceMessage
  maintenanceUntil : ∀ moment ∈ arguments.maintenanceUntil, arguments.clearMaintenanceUntil = false →
    normalizeMaintenanceUntil (some moment) = .ok next.maintenanceUntil
  clearMaintenanceUntil : arguments.clearMaintenanceUntil = true → next.maintenanceUntil = none
  tlsEnabled : ∀ enabled ∈ arguments.tlsEnabled, next.tlsEnabled = enabled
  httpsRedirectEnabled : ∀ enabled ∈ arguments.httpsRedirectEnabled,
    next.httpsRedirectEnabled = enabled
  authMode : ∀ mode ∈ arguments.authMode, normalizeAuthMode mode none = .ok next.authMode
  -- The older switch only counts without a mode.
  authEnabled : ∀ enabled ∈ arguments.authEnabled, arguments.authMode = none →
    next.authMode = (if enabled then .authentik else .none) ∧ next.authEnabled = enabled
  authFollowsMode : AsksForAuth arguments → next.authEnabled = decide (next.authMode ≠ .none)
  apiKey : ∀ key ∈ arguments.apiKey, key ≠ "" → next.authMode = .token → next.apiKey = some key
  allowedIps : ∀ ips ∈ arguments.allowedIps, normalizeAllowedIps (some ips) = .ok next.allowedIps
  blockedPaths : ∀ paths ∈ arguments.blockedPaths,
    normalizeBlockedPaths (some paths) = .ok next.blockedPaths
  rateLimitAverage : ∀ average ∈ arguments.rateLimitAverage, arguments.clearRateLimit = false →
    next.rateLimitAverage = some average
  rateLimitBurst : ∀ burst ∈ arguments.rateLimitBurst, arguments.clearRateLimit = false →
    next.rateLimitBurst = some burst
  clearRateLimit : arguments.clearRateLimit = true →
    next.rateLimitAverage = none ∧ next.rateLimitBurst = none
  customHeaders : ∀ headers ∈ arguments.customHeaders,
    normalizeCustomHeaders (some headers) = .ok next.customHeaders
  basicAuthUsers : ∀ users ∈ arguments.basicAuthUsers,
    normalizeBasicAuthUsers (some users) = .ok next.basicAuthUsers
  middlewareTemplateIds : ∀ ids ∈ arguments.middlewareTemplateIds,
    normalizeMiddlewareTemplateIds (some ids) = .ok next.middlewareTemplateIds
  authentikGroupId : ∀ group ∈ arguments.authentikGroupId,
    next.authentikGroupId = if next.authMode = .authentik then some group else none
  upstreamScheme : ∀ scheme ∈ arguments.upstreamScheme,
    validateUpstreamScheme scheme = .ok next.upstreamScheme
  skipTlsVerify : ∀ skip ∈ arguments.skipTlsVerify,
    next.skipTlsVerify = if next.upstreamScheme = .https then skip else false
  framePolicy : ∀ policy ∈ arguments.framePolicy, normalizeFramePolicy policy = .ok next.framePolicy
  healthcheckEnabled : ∀ enabled ∈ arguments.healthcheckEnabled, next.healthcheckEnabled = enabled
  healthcheckPath : ∀ path ∈ arguments.healthcheckPath,
    normalizeHealthcheckPath path = .ok next.healthcheckPath
  healthcheckTimeoutMs : ∀ timeout ∈ arguments.healthcheckTimeoutMs,
    normalizeHealthcheckTimeoutMs timeout = .ok next.healthcheckTimeoutMs
  healthcheckExpectedStatuses : ∀ statuses ∈ arguments.healthcheckExpectedStatuses,
    normalizeHealthcheckExpectedStatuses (some statuses) = .ok next.healthcheckExpectedStatuses

/-- The fields that no update sets. -/
structure IdentityKept : Prop where
  id : next.id = service.id
  domain : next.domain = service.domain
  authentikProviderId : next.authentikProviderId = service.authentikProviderId
  authentikAppSlug : next.authentikAppSlug = service.authentikAppSlug
  authentikGroupName : next.authentikGroupName = service.authentikGroupName
  authentikPolicyId : next.authentikPolicyId = service.authentikPolicyId
  authentikPolicyBindingId : next.authentikPolicyBindingId = service.authentikPolicyBindingId
  cloudflareRecordId : next.cloudflareRecordId = service.cloudflareRecordId

/-- What stays of the fields that nothing was given for. -/
structure NotGivenKept : Prop extends IdentityKept service next where
  name : arguments.name = none → next.name = service.name
  upstreamHost : arguments.upstreamHost = none → next.upstream.host = service.upstream.host
  upstreamPort : arguments.upstreamPort = none → next.upstream.port = service.upstream.port
  routingMode : arguments.routingMode = none → next.routingMode = service.routingMode
  maintenanceMessage : arguments.maintenanceMessage = none →
    next.maintenanceMessage = service.maintenanceMessage
  maintenanceUntil : arguments.maintenanceUntil = none → arguments.clearMaintenanceUntil = false →
    next.maintenanceUntil = service.maintenanceUntil
  tlsEnabled : arguments.tlsEnabled = none → next.tlsEnabled = service.tlsEnabled
  httpsRedirectEnabled : arguments.httpsRedirectEnabled = none →
    next.httpsRedirectEnabled =
      if arguments.tlsEnabled = some false then false else service.httpsRedirectEnabled
  authMode : ¬ AsksForAuth arguments → next.authMode = service.authMode
  authEnabled : ¬ AsksForAuth arguments → arguments.apiKey = none →
    next.authEnabled = service.authEnabled
  -- A key is lost with the token mode, and made up where that mode finds none.
  apiKey : arguments.apiKey = none → ¬ AsksForAuth arguments → next.apiKey = service.apiKey
  apiKeyOfToken : arguments.apiKey = none → next.authMode = .token →
    ∀ key ∈ service.apiKey, key ≠ "" → next.apiKey = some key
  allowedIps : arguments.allowedIps = none → next.allowedIps = service.allowedIps
  blockedPaths : arguments.blockedPaths = none → next.blockedPaths = service.blockedPaths
  rateLimitAverage : arguments.rateLimitAverage = none → arguments.clearRateLimit = false →
    next.rateLimitAverage = service.rateLimitAverage
  rateLimitBurst : arguments.rateLimitBurst = none → arguments.clearRateLimit = false →
    next.rateLimitBurst = service.rateLimitBurst
  customHeaders : arguments.customHeaders = none → next.customHeaders = service.customHeaders
  basicAuthUsers : arguments.basicAuthUsers = none →
    ¬ AsksForAuth arguments ∨ next.authMode = .none → next.basicAuthUsers = service.basicAuthUsers
  middlewareTemplateIds : arguments.middlewareTemplateIds = none →
    next.middlewareTemplateIds = service.middlewareTemplateIds
  authentikGroupId : arguments.authentikGroupId = none →
    ¬ AsksForAuth arguments ∨ next.authMode = .authentik →
      next.authentikGroupId = service.authentikGroupId
  upstreamScheme : arguments.upstreamScheme = none → next.upstreamScheme = service.upstreamScheme
  skipTlsVerify : arguments.skipTlsVerify = none →
    arguments.upstreamScheme = none ∨ next.upstreamScheme = .https →
      next.skipTlsVerify = service.skipTlsVerify
  framePolicy : arguments.framePolicy = none → next.framePolicy = service.framePolicy
  healthcheckEnabled : arguments.healthcheckEnabled = none →
    next.healthcheckEnabled = service.healthcheckEnabled
  healthcheckPath : arguments.healthcheckPath = none →
    next.healthcheckPath = service.healthcheckPath
  healthcheckTimeoutMs : arguments.healthcheckTimeoutMs = none →
    next.healthcheckTimeoutMs = service.healthcheckTimeoutMs
  healthcheckExpectedStatuses : arguments.healthcheckExpectedStatuses = none →
    next.healthcheckExpectedStatuses = service.healthcheckExpectedStatuses

section Parts

variable {service arguments next} {generated : String}

private theorem taken_of_changed {α β : Type} {current new : β}
    {normalize : α → Except PyException β}
    {requested : Option α} (done : changed current normalize requested = .ok new) :
    ∀ value ∈ requested, normalize value = .ok new := by
  intro value given
  cases given
  exact done

private theorem kept_of_changed {α β : Type} {current new : β}
    {normalize : α → Except PyException β}
    {requested : Option α} (done : changed current normalize requested = .ok new)
    (absent : requested = none) : new = current := by
  subst absent
  cases done
  rfl

private theorem orText_of_nonempty {text : String} (nonempty : text ≠ "")
    (fallback : Option String) : orText (some text) fallback = some text := by
  simp [orText, nonempty]

private theorem upstream_of_make {host : String} {port : Int} {upstream : Upstream}
    (made : Upstream.make host port = .ok upstream) :
    upstream.host = host ∧ upstream.port = port := by
  unfold Upstream.make at made
  split at made
  · cases made
    exact ⟨rfl, rfl⟩
  · cases made

/-- An upstream is asked for part by part. -/
theorem upstream_of_requested {upstream : Upstream}
    (requested : service.requestedUpstream arguments = .ok upstream) :
    (∀ host ∈ arguments.upstreamHost, host ≠ "" → upstream.host = host) ∧
    (∀ port ∈ arguments.upstreamPort, port ≠ 0 → upstream.port = port) ∧
    (arguments.upstreamHost = none → upstream.host = service.upstream.host) ∧
    (arguments.upstreamPort = none → upstream.port = service.upstream.port) := by
  unfold requestedUpstream at requested
  cases host : arguments.upstreamHost with
  | none =>
      cases port : arguments.upstreamPort with
      | none =>
          rw [host, port] at requested
          cases requested
          simp
      | some given =>
          rw [host, port] at requested
          obtain ⟨isHost, isPort⟩ := upstream_of_make requested
          simp_all [orText]
  | some text =>
      cases port : arguments.upstreamPort with
      | none =>
          rw [host, port] at requested
          obtain ⟨isHost, isPort⟩ := upstream_of_make requested
          simp_all [orText]
      | some given =>
          rw [host, port] at requested
          obtain ⟨isHost, isPort⟩ := upstream_of_make requested
          simp_all [orText]

private theorem maintenanceUntil_of_requested {moment : Option Datetime}
    (requested : service.requestedMaintenanceUntil arguments = .ok moment) :
    (∀ given ∈ arguments.maintenanceUntil, arguments.clearMaintenanceUntil = false →
      normalizeMaintenanceUntil (some given) = .ok moment) ∧
    (arguments.clearMaintenanceUntil = true → moment = none) ∧
    (arguments.maintenanceUntil = none → arguments.clearMaintenanceUntil = false →
      moment = service.maintenanceUntil) := by
  unfold requestedMaintenanceUntil at requested
  cases clear : arguments.clearMaintenanceUntil with
  | true =>
      rw [clear] at requested
      cases requested
      simp
  | false =>
      rw [clear] at requested
      cases given : arguments.maintenanceUntil with
      | none =>
          rw [given] at requested
          cases requested
          simp
      | some value =>
          rw [given] at requested
          simpa using requested

/-- Verification is left out only for HTTPS. -/
theorem transport_of_resolved {scheme : UpstreamScheme} {skip : Bool}
    {requestedScheme : Option String} {requestedSkip : Option Bool}
    {state : Option ServiceTransportState}
    (resolved : resolveUpdatedTransportState scheme skip requestedScheme requestedSkip =
      .ok state) :
    let newScheme := (state.map (·.upstreamScheme)).getD scheme
    let newSkip := (state.map (·.skipTlsVerify)).getD skip
    (∀ text ∈ requestedScheme, validateUpstreamScheme text = .ok newScheme) ∧
    (∀ given ∈ requestedSkip, newSkip = if newScheme = .https then given else false) ∧
    (requestedScheme = none → newScheme = scheme) ∧
    (requestedSkip = none → requestedScheme = none ∨ newScheme = .https → newSkip = skip) := by
  unfold resolveUpdatedTransportState at resolved
  cases requestedScheme with
  | none =>
      cases requestedSkip with
      | none =>
          cases resolved
          simp
      | some given =>
          cases resolved
          simp
  | some text =>
      cases valid : validateUpstreamScheme text with
      | error failure =>
          simp only [valid] at resolved
          cases resolved
      | ok newScheme =>
          simp only [valid] at resolved
          cases resolved
          cases requestedSkip <;> simp_all

/-- A request for a mode, new or old, decides the whole authentication. -/
theorem auth_of_asked {current : AuthMode} {currentKey : Option String}
    {state : Option UpdatedServiceAuthState} (asks : AsksForAuth arguments)
    (resolved : resolveUpdatedAuthState current currentKey arguments.authMode
      arguments.authEnabled arguments.apiKey generated = .ok state) :
    ∃ mode : AuthMode, state = some
        { authMode := mode
          authEnabled := mode ≠ .none
          apiKey := resolveApiKey mode (orText arguments.apiKey currentKey) generated
          clearBasicAuthUsers := mode ≠ .none
          clearAuthentikGroup := mode ≠ .authentik } ∧
      (∀ text ∈ arguments.authMode, normalizeAuthMode text none = .ok mode) ∧
      ∀ enabled ∈ arguments.authEnabled, arguments.authMode = none →
        mode = if enabled then .authentik else .none := by
  unfold resolveUpdatedAuthState at resolved
  cases requestedMode : arguments.authMode with
  | some text =>
      rw [requestedMode] at resolved
      obtain ⟨mode, normalized, isState⟩ := bind_eq_ok.mp resolved
      cases isState
      exact ⟨mode, rfl, by simpa using normalized, by simp⟩
  | none =>
      cases requestedEnabled : arguments.authEnabled with
      | none => simp [AsksForAuth, requestedMode, requestedEnabled] at asks
      | some enabled =>
          rw [requestedMode, requestedEnabled] at resolved
          obtain ⟨mode, normalized, isState⟩ := bind_eq_ok.mp resolved
          cases isState
          refine ⟨mode, rfl, by simp, fun given isGiven _ => ?_⟩
          cases isGiven
          cases enabled <;> cases normalized <;> rfl

/-- Without such a request only the key of a token service changes. -/
theorem auth_of_silent {current : AuthMode} {currentKey : Option String}
    {state : Option UpdatedServiceAuthState} (silent : ¬ AsksForAuth arguments)
    (resolved : resolveUpdatedAuthState current currentKey arguments.authMode
      arguments.authEnabled arguments.apiKey generated = .ok state) :
    (state = none ∧ ∀ key ∈ arguments.apiKey, key ≠ "" → current ≠ .token) ∨
    ∃ key, arguments.apiKey = some key ∧ current = .token ∧ state = some
      { authMode := .token, authEnabled := true, apiKey := some key
        clearBasicAuthUsers := false, clearAuthentikGroup := false } := by
  simp only [AsksForAuth, not_or, not_not] at silent
  unfold resolveUpdatedAuthState at resolved
  rw [silent.1, silent.2] at resolved
  simp only at resolved
  split at resolved
  · rename_i key isKey
    cases resolved
    cases given : arguments.apiKey with
    | none => simp [given, orText] at isKey
    | some text =>
        by_cases empty : text = ""
        · simp [given, orText, empty] at isKey
        · rw [given, orText_of_nonempty empty] at isKey
          exact .inr ⟨key, isKey, rfl, rfl⟩
  · rename_i other
    cases resolved
    refine .inl ⟨rfl, fun key given nonempty isToken => ?_⟩
    exact other key isToken (by rw [given]; exact orText_of_nonempty nonempty none)

private theorem eq_of_normalizeRateLimit {average burst : Option Int}
    {limits : Option Int × Option Int}
    (done : normalizeRateLimit average burst = .ok limits) : limits = (average, burst) := by
  unfold normalizeRateLimit at done
  split at done
  · cases done
    rfl
  · split at done
    · cases done
    · cases done
      rfl
  · cases done

private theorem rateLimit_of_requested {limits : Option Int × Option Int}
    (done : service.updateRateLimit arguments = .ok limits) :
    (∀ average ∈ arguments.rateLimitAverage, arguments.clearRateLimit = false →
      limits.1 = some average) ∧
    (∀ burst ∈ arguments.rateLimitBurst, arguments.clearRateLimit = false →
      limits.2 = some burst) ∧
    (arguments.clearRateLimit = true → limits.1 = none ∧ limits.2 = none) ∧
    (arguments.rateLimitAverage = none → arguments.clearRateLimit = false →
      limits.1 = service.rateLimitAverage) ∧
    (arguments.rateLimitBurst = none → arguments.clearRateLimit = false →
      limits.2 = service.rateLimitBurst) := by
  unfold updateRateLimit at done
  cases clear : arguments.clearRateLimit with
  | true =>
      rw [clear] at done
      cases done
      simp
  | false =>
      cases average : arguments.rateLimitAverage with
      | none =>
          cases burst : arguments.rateLimitBurst with
          | none =>
              rw [clear, average, burst] at done
              cases done
              simp
          | some given =>
              rw [clear, average, burst] at done
              obtain rfl := eq_of_normalizeRateLimit done
              simp
      | some given =>
          rw [clear, average] at done
          obtain rfl := eq_of_normalizeRateLimit done
          cases burst : arguments.rateLimitBurst <;> simp

private theorem basicAuthUsers_of_allowed {enabled : Bool} {users normalized : List String}
    (done : normalizeAllowedBasicAuthUsers enabled users = .ok normalized) :
    normalizeBasicAuthUsers (some users) = .ok normalized := by
  obtain ⟨result, isNormalized, done⟩ := bind_eq_ok.mp done
  obtain ⟨_, -, isResult⟩ := bind_eq_ok.mp done
  cases isResult
  exact isNormalized

end Parts

section WholeUpdate

variable {service arguments next} {generated : String}

/-- The three parts of an update, and the services between them. -/
theorem parts_of_update (updated : service.update arguments generated = .ok next) :
    ∃ transported authenticated, service.TransportUpdate arguments transported ∧
      transported.AuthUpdate arguments generated authenticated ∧
      authenticated.AccessUpdate arguments next := by
  simp only [Service.update, bind_eq_ok] at updated
  obtain ⟨transported, isTransported, authenticated, isAuthenticated, isNext⟩ := updated
  exact ⟨transported, authenticated, updateTransport_ok isTransported,
    updateAuth_ok isAuthenticated, updateAccess_ok isNext⟩

/-- The later parts of an update leave what the first one set. -/
structure TransportKept (transported next : Service) : Prop where
  name : next.name = transported.name
  routingMode : next.routingMode = transported.routingMode
  maintenanceMessage : next.maintenanceMessage = transported.maintenanceMessage
  maintenanceUntil : next.maintenanceUntil = transported.maintenanceUntil
  upstream : next.upstream = transported.upstream
  upstreamScheme : next.upstreamScheme = transported.upstreamScheme
  skipTlsVerify : next.skipTlsVerify = transported.skipTlsVerify
  tlsEnabled : next.tlsEnabled = transported.tlsEnabled

private theorem transportKept {transported authenticated : Service}
    (auth : transported.AuthUpdate arguments generated authenticated)
    (access : authenticated.AccessUpdate arguments next) : TransportKept transported next where
  name := by rw [access.rest, auth.rest]
  routingMode := by rw [access.rest, auth.rest]
  maintenanceMessage := by rw [access.rest, auth.rest]
  maintenanceUntil := by rw [access.rest, auth.rest]
  upstream := by rw [access.rest, auth.rest]
  upstreamScheme := by rw [access.rest, auth.rest]
  skipTlsVerify := by rw [access.rest, auth.rest]
  tlsEnabled := by rw [access.rest, auth.rest]

/-- The first two parts of an update leave what the last one sets, but for the fields that
authentication clears. -/
structure AccessUntouched (service authenticated : Service) : Prop where
  allowedIps : authenticated.allowedIps = service.allowedIps
  blockedPaths : authenticated.blockedPaths = service.blockedPaths
  rateLimitAverage : authenticated.rateLimitAverage = service.rateLimitAverage
  rateLimitBurst : authenticated.rateLimitBurst = service.rateLimitBurst
  customHeaders : authenticated.customHeaders = service.customHeaders
  middlewareTemplateIds : authenticated.middlewareTemplateIds = service.middlewareTemplateIds
  framePolicy : authenticated.framePolicy = service.framePolicy
  healthcheckEnabled : authenticated.healthcheckEnabled = service.healthcheckEnabled
  healthcheckPath : authenticated.healthcheckPath = service.healthcheckPath
  healthcheckTimeoutMs : authenticated.healthcheckTimeoutMs = service.healthcheckTimeoutMs
  healthcheckExpectedStatuses :
    authenticated.healthcheckExpectedStatuses = service.healthcheckExpectedStatuses

private theorem accessUntouched {transported authenticated : Service}
    (transport : service.TransportUpdate arguments transported)
    (auth : transported.AuthUpdate arguments generated authenticated) :
    AccessUntouched service authenticated where
  allowedIps := by rw [auth.rest, transport.rest]
  blockedPaths := by rw [auth.rest, transport.rest]
  rateLimitAverage := by rw [auth.rest, transport.rest]
  rateLimitBurst := by rw [auth.rest, transport.rest]
  customHeaders := by rw [auth.rest, transport.rest]
  middlewareTemplateIds := by rw [auth.rest, transport.rest]
  framePolicy := by rw [auth.rest, transport.rest]
  healthcheckEnabled := by rw [auth.rest, transport.rest]
  healthcheckPath := by rw [auth.rest, transport.rest]
  healthcheckTimeoutMs := by rw [auth.rest, transport.rest]
  healthcheckExpectedStatuses := by rw [auth.rest, transport.rest]

/-- What an update makes of the authentication. -/
structure AuthOutcome (service : Service) (arguments : ServiceUpdateArguments)
    (authenticated : Service) : Prop where
  authMode : ∀ mode ∈ arguments.authMode, normalizeAuthMode mode none = .ok authenticated.authMode
  authEnabled : ∀ enabled ∈ arguments.authEnabled, arguments.authMode = none →
    authenticated.authMode = (if enabled then .authentik else .none) ∧
      authenticated.authEnabled = enabled
  authFollowsMode : AsksForAuth arguments →
    authenticated.authEnabled = decide (authenticated.authMode ≠ .none)
  apiKey : ∀ key ∈ arguments.apiKey, key ≠ "" → authenticated.authMode = .token →
    authenticated.apiKey = some key
  apiKeyOfToken : arguments.apiKey = none → authenticated.authMode = .token →
    ∀ key ∈ service.apiKey, key ≠ "" → authenticated.apiKey = some key
  silentMode : ¬ AsksForAuth arguments → authenticated.authMode = service.authMode
  silent : ¬ AsksForAuth arguments → arguments.apiKey = none →
    authenticated.authEnabled = service.authEnabled ∧ authenticated.apiKey = service.apiKey
  basicAuthUsers : ¬ AsksForAuth arguments ∨ authenticated.authMode = .none →
    authenticated.basicAuthUsers = service.basicAuthUsers
  authentikGroupId : ¬ AsksForAuth arguments ∨ authenticated.authMode = .authentik →
    authenticated.authentikGroupId = service.authentikGroupId

private theorem authOutcome {authenticated : Service}
    (auth : service.AuthUpdate arguments generated authenticated) :
    AuthOutcome service arguments authenticated := by
  obtain ⟨state, resolved, isMode, isEnabled, isKey, isUsers, isGroup⟩ := auth.auth
  by_cases asks : AsksForAuth arguments
  · obtain ⟨mode, rfl, fromMode, fromSwitch⟩ := auth_of_asked asks resolved
    simp only [Option.map_some, Option.getD_some] at isMode isEnabled isKey isUsers isGroup
    refine
      { authMode := fun text given => by rw [isMode]; exact fromMode text given
        authEnabled := fun enabled given noMode => ?_
        authFollowsMode := fun _ => by rw [isMode, isEnabled]
        apiKey := fun key given nonempty isToken => ?_
        apiKeyOfToken := fun notGiven isToken key current nonempty => ?_
        silentMode := fun silent => absurd asks silent
        silent := fun silent => absurd asks silent
        basicAuthUsers := fun kept => ?_
        authentikGroupId := fun kept => ?_ }
    · have isSwitch := fromSwitch enabled given noMode
      rw [isMode, isEnabled, isSwitch]
      cases enabled <;> simp
    · rw [isKey, isMode.symm.trans isToken, given, orText_of_nonempty nonempty]
      simp [resolveApiKey, orText_of_nonempty nonempty]
    · rw [isKey, isMode.symm.trans isToken, notGiven, current]
      simp [resolveApiKey, orText, nonempty]
    · have isNone : mode = .none := by simpa [asks, isMode] using kept
      rw [isUsers, isNone]
      rfl
    · have isAuthentik : mode = .authentik := by simpa [asks, isMode] using kept
      rw [isGroup, isAuthentik]
      rfl
  · have noMode : arguments.authMode = none := by
      by_contra given
      exact asks (.inl given)
    have noSwitch : arguments.authEnabled = none := by
      by_contra given
      exact asks (.inr given)
    rcases auth_of_silent asks resolved with ⟨rfl, noKey⟩ | ⟨key, given, isToken, rfl⟩
    · simp only [Option.map_none, Option.getD_none] at isMode isEnabled isKey isUsers isGroup
      exact
        { authMode := by simp [noMode]
          authEnabled := by simp [noSwitch]
          authFollowsMode := fun asked => absurd asked asks
          apiKey := fun key given nonempty isToken =>
            absurd (isMode.symm.trans isToken) (noKey key given nonempty)
          apiKeyOfToken := fun _ _ key current _ => by rw [isKey, current]
          silentMode := fun _ => isMode
          silent := fun _ _ => ⟨isEnabled, isKey⟩
          basicAuthUsers := fun _ => isUsers
          authentikGroupId := fun _ => isGroup }
    · simp only [Option.map_some, Option.getD_some] at isMode isEnabled isKey isUsers isGroup
      exact
        { authMode := by simp [noMode]
          authEnabled := by simp [noSwitch]
          authFollowsMode := fun asked => absurd asked asks
          apiKey := fun other isGiven _ _ => by
            rw [isKey, Option.some.inj (given.symm.trans isGiven)]
          apiKeyOfToken := fun notGiven => by simp [given] at notGiven
          silentMode := fun _ => isMode.trans isToken.symm
          silent := fun _ notGiven => by simp [given] at notGiven
          basicAuthUsers := fun _ => isUsers
          authentikGroupId := fun _ => isGroup }

variable (service arguments next) in
/-- **An update does what was asked.** What is given is taken and what is not given is kept, but
for what the policies couple. -/
theorem update_does_what_was_asked (generated : String)
    (updated : service.update arguments generated = .ok next) :
    GivenTaken arguments next ∧ NotGivenKept service arguments next := by
  obtain ⟨transported, authenticated, transport, auth, access⟩ := parts_of_update updated
  have kept := transportKept auth access
  have untouched := accessUntouched transport auth
  have outcome := authOutcome auth
  have isMode : next.authMode = authenticated.authMode := by rw [access.rest]
  have isEnabled : next.authEnabled = authenticated.authEnabled := by rw [access.rest]
  have isKey : next.apiKey = authenticated.apiKey := by rw [access.rest]
  obtain ⟨hostTaken, portTaken, hostKept, portKept⟩ := upstream_of_requested transport.upstream
  obtain ⟨momentTaken, momentCleared, momentKept⟩ :=
    maintenanceUntil_of_requested transport.maintenanceUntil
  obtain ⟨averageTaken, burstTaken, limitCleared, averageKept, burstKept⟩ :=
    rateLimit_of_requested access.rateLimit
  obtain ⟨state, resolved, isScheme, isSkip⟩ := transport.transport
  obtain ⟨schemeTaken, skipTaken, schemeKept, skipKept⟩ := transport_of_resolved resolved
  rw [← isScheme, ← kept.upstreamScheme] at schemeTaken skipTaken schemeKept skipKept
  rw [← isSkip, ← kept.skipTlsVerify] at skipTaken skipKept
  constructor
  · exact
      { name := fun name given => by rw [kept.name, transport.name, given]; rfl
        upstreamHost := by rw [kept.upstream]; exact hostTaken
        upstreamPort := by rw [kept.upstream]; exact portTaken
        routingMode := by rw [kept.routingMode]; exact taken_of_changed transport.routingMode
        maintenanceMessage := by
          rw [kept.maintenanceMessage]
          exact taken_of_changed transport.maintenanceMessage
        maintenanceUntil := by rw [kept.maintenanceUntil]; exact momentTaken
        clearMaintenanceUntil := by rw [kept.maintenanceUntil]; exact momentCleared
        tlsEnabled := fun enabled given => by rw [kept.tlsEnabled, transport.tlsEnabled, given]; rfl
        httpsRedirectEnabled := fun enabled given => by rw [access.httpsRedirectEnabled, given]; rfl
        authMode := by rw [isMode]; exact outcome.authMode
        authEnabled := by rw [isMode, isEnabled]; exact outcome.authEnabled
        authFollowsMode := by rw [isMode, isEnabled]; exact outcome.authFollowsMode
        apiKey := by rw [isMode, isKey]; exact outcome.apiKey
        allowedIps := taken_of_changed access.allowedIps
        blockedPaths := taken_of_changed access.blockedPaths
        rateLimitAverage := averageTaken
        rateLimitBurst := burstTaken
        clearRateLimit := limitCleared
        customHeaders := taken_of_changed access.customHeaders
        basicAuthUsers := fun users given =>
          basicAuthUsers_of_allowed (taken_of_changed access.basicAuthUsers users given)
        middlewareTemplateIds := taken_of_changed access.middlewareTemplateIds
        authentikGroupId := fun group given => by
          rw [access.authentikGroupId, requestedGroupId, given, isMode]
        upstreamScheme := schemeTaken
        skipTlsVerify := skipTaken
        framePolicy := taken_of_changed access.framePolicy
        healthcheckEnabled := fun enabled given => by rw [access.healthcheckEnabled, given]; rfl
        healthcheckPath := taken_of_changed access.healthcheckPath
        healthcheckTimeoutMs := taken_of_changed access.healthcheckTimeoutMs
        healthcheckExpectedStatuses := taken_of_changed access.healthcheckExpectedStatuses }
  · exact
      { id := by rw [access.rest, auth.rest, transport.rest]
        domain := by rw [access.rest, auth.rest, transport.rest]
        authentikProviderId := by rw [access.rest, auth.rest, transport.rest]
        authentikAppSlug := by rw [access.rest, auth.rest, transport.rest]
        authentikGroupName := by rw [access.rest, auth.rest, transport.rest]
        authentikPolicyId := by rw [access.rest, auth.rest, transport.rest]
        authentikPolicyBindingId := by rw [access.rest, auth.rest, transport.rest]
        cloudflareRecordId := by rw [access.rest, auth.rest, transport.rest]
        name := fun absent => by rw [kept.name, transport.name, absent]; rfl
        upstreamHost := by rw [kept.upstream]; exact hostKept
        upstreamPort := by rw [kept.upstream]; exact portKept
        routingMode := fun absent => kept.routingMode.trans
          (kept_of_changed transport.routingMode absent)
        maintenanceMessage := fun absent => kept.maintenanceMessage.trans
          (kept_of_changed transport.maintenanceMessage absent)
        maintenanceUntil := by rw [kept.maintenanceUntil]; exact momentKept
        tlsEnabled := fun absent => by rw [kept.tlsEnabled, transport.tlsEnabled, absent]; rfl
        httpsRedirectEnabled := fun absent => by
          have redirect : authenticated.httpsRedirectEnabled =
              transported.httpsRedirectEnabled := by rw [auth.rest]
          rw [access.httpsRedirectEnabled, absent, Option.getD_none, redirect,
            transport.httpsRedirectEnabled]
        authMode := fun silent => by rw [isMode, outcome.silentMode silent, transport.rest]
        authEnabled := fun silent absent => by
          rw [isEnabled, (outcome.silent silent absent).1, transport.rest]
        apiKey := fun absent silent => by
          rw [isKey, (outcome.silent silent absent).2, transport.rest]
        apiKeyOfToken := fun absent isToken key current nonempty => by
          rw [isKey]
          exact outcome.apiKeyOfToken absent (isMode.symm.trans isToken) key
            (by rw [transport.rest]; exact current) nonempty
        allowedIps := fun absent =>
          (kept_of_changed access.allowedIps absent).trans untouched.allowedIps
        blockedPaths := fun absent =>
          (kept_of_changed access.blockedPaths absent).trans untouched.blockedPaths
        rateLimitAverage := fun absent unclear =>
          (averageKept absent unclear).trans untouched.rateLimitAverage
        rateLimitBurst := fun absent unclear =>
          (burstKept absent unclear).trans untouched.rateLimitBurst
        customHeaders := fun absent =>
          (kept_of_changed access.customHeaders absent).trans untouched.customHeaders
        basicAuthUsers := fun absent uncoupled => by
          rw [isMode] at uncoupled
          rw [kept_of_changed access.basicAuthUsers absent, outcome.basicAuthUsers uncoupled,
            transport.rest]
        middlewareTemplateIds := fun absent =>
          (kept_of_changed access.middlewareTemplateIds absent).trans
            untouched.middlewareTemplateIds
        authentikGroupId := fun absent uncoupled => by
          rw [isMode] at uncoupled
          rw [access.authentikGroupId, requestedGroupId, absent,
            outcome.authentikGroupId uncoupled, transport.rest]
        upstreamScheme := schemeKept
        skipTlsVerify := skipKept
        framePolicy := fun absent =>
          (kept_of_changed access.framePolicy absent).trans untouched.framePolicy
        healthcheckEnabled := fun absent => by
          rw [access.healthcheckEnabled, absent, Option.getD_none, untouched.healthcheckEnabled]
        healthcheckPath := fun absent =>
          (kept_of_changed access.healthcheckPath absent).trans untouched.healthcheckPath
        healthcheckTimeoutMs := fun absent =>
          (kept_of_changed access.healthcheckTimeoutMs absent).trans untouched.healthcheckTimeoutMs
        healthcheckExpectedStatuses := fun absent =>
          (kept_of_changed access.healthcheckExpectedStatuses absent).trans
            untouched.healthcheckExpectedStatuses }

/-- A service that is reached without encryption. -/
def plainService : ServiceCreateArguments where
  name := "shop"
  domain := "shop.example.com"
  upstreamHost := "shop"
  upstreamPort := 80
  apiKey := some "ignored"

/-- The request for a name, HTTPS to the upstream and a rate limit. -/
def shopRequest : ServiceUpdateArguments where
  name := some "store"
  upstreamScheme := some "https"
  skipTlsVerify := some true
  rateLimitAverage := some 10
  rateLimitBurst := some 20

theorem update_does_what_was_asked_example :
    ∃ service next, Service.create plainService ⟨0⟩ "" = .ok service ∧
      service.update shopRequest "" = .ok next ∧
      GivenTaken shopRequest next ∧ NotGivenKept service shopRequest next :=
  ⟨_, _, rfl, rfl, update_does_what_was_asked _ shopRequest _ "" rfl⟩

/-- Verification cannot be left out where the upstream is not reached by HTTPS: what is given is
not taken. -/
theorem skipTlsVerify_not_taken :
    ¬ ∀ arguments id generated service request drawn next,
      Service.create arguments id generated = .ok service →
      service.update request drawn = .ok next →
      ∀ skip, request.skipTlsVerify = some skip → next.skipTlsVerify = skip := by
  intro taken
  have := taken plainService ⟨0⟩ "" _ { skipTlsVerify := some true } "" _ rfl rfl true rfl
  cases this

end WholeUpdate

end TraefikManager.Domain.Service
