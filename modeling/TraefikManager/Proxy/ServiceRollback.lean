import TraefikManager.Domain.ServiceSettled
import TraefikManager.Proxy.ServiceUseCases

/-!
# Undoing a recorded change of a service

The record of an update keeps the request that undoes it. Applied to the service the
update left, this request either fails or brings back the recorded summary.
-/

namespace TraefikManager.Proxy

open Foundation Domain

section Restorable

/-- A service as requests leave it: submitting its own values again changes nothing. -/
structure Restorable (service : Service) : Prop where
  sound : service.Invariant
  settled : service.Settled
  group : normalizeAuthentikGroupId service.authentikGroupId = service.authentikGroupId

private theorem normalizeAuthentikGroupId_fixed (group : Option String) :
    normalizeAuthentikGroupId (normalizeAuthentikGroupId group) =
      normalizeAuthentikGroupId group := by
  cases group with
  | none => rfl
  | some text =>
      by_cases blank : Text.strip text = ""
      · simp [normalizeAuthentikGroupId, blank]
      · have trimmed : Text.strip (Text.strip text) = Text.strip text := by
          simp [Text.strip, Text.stripChars_stripChars]
        simp [normalizeAuthentikGroupId, blank, trimmed]

/-- A synchronization does not touch what requests determine. -/
theorem Restorable.resynced {before after : Service} (restorable : Restorable before)
    (resynced : Resynced before after) : Restorable after := by
  have sameGroup := resynced.sameGroup restorable.sound.authentikGroup
  have same := resynced.same
  unfold SameButRemote at same
  rw [sameGroup] at same
  rw [same]
  exact
    { sound := { restorable.sound with }
      settled := { restorable.settled with }
      group := restorable.group }

theorem unlessBroken_ok {α : Type} {rules : List (String × Bool)} {model accepted : α}
    (done : unlessBroken rules model = .ok accepted) : accepted = model := by
  unfold unlessBroken at done
  split at done
  · cases done
  · exact (Except.ok.inj done).symm

/-- What validation does to the fields of an update. -/
structure ValidatedUpdate (parse : String → Option Datetime) (raw : ServiceUpdateFields String)
    (payload : ServiceUpdate) : Prop where
  routingMode : ofOptionalField "routing_mode"
    (validateChoice "routing_mode" RoutingMode.all RoutingMode.text) raw.routingMode =
      .ok payload.routingMode
  maintenanceMessage : ofOptionalField "maintenance_message"
    (fun text => accept "maintenance_message" (text.length ≤ maintenanceMessageMaxLength) text)
    raw.maintenanceMessage = .ok payload.maintenanceMessage
  maintenanceUntil : ofOptionalField "maintenance_until"
    (ofOptionalField "maintenance_until" (awareDatetime parse "maintenance_until"))
    raw.maintenanceUntil = .ok payload.maintenanceUntil
  upstreamScheme : ofOptionalField "upstream_scheme"
    (validateChoice "upstream_scheme" UpstreamScheme.all UpstreamScheme.text) raw.upstreamScheme =
      .ok payload.upstreamScheme
  authMode : ∃ authMode, ofOptionalField "auth_mode"
      (validateChoice "auth_mode" AuthMode.all AuthMode.text) raw.authMode = .ok authMode ∧
    payload.authMode = requestedAuthMode authMode raw.authEnabled
  allowedIps : ofOptionalField "allowed_ips" (normalizeAllowedIps ∘ some) raw.allowedIps =
    .ok payload.allowedIps
  middlewareTemplateIds : ofOptionalField "middleware_template_ids"
    (normalizeMiddlewareTemplateIds ∘ some) raw.middlewareTemplateIds =
      .ok payload.middlewareTemplateIds
  rateLimitAverage : ofOptionalField "rate_limit_average"
    (validateRateLimitValue "rate_limit_average") raw.rateLimitAverage =
      .ok payload.rateLimitAverage
  rateLimitBurst : ofOptionalField "rate_limit_burst"
    (validateRateLimitValue "rate_limit_burst") raw.rateLimitBurst = .ok payload.rateLimitBurst
  customHeaders : ofOptionalField "custom_headers" (normalizeCustomHeaders ∘ some)
    raw.customHeaders = .ok payload.customHeaders
  framePolicy : ofOptionalField "frame_policy"
    (validateChoice "frame_policy" FramePolicy.all FramePolicy.text) raw.framePolicy =
      .ok payload.framePolicy
  healthcheckPath : ofOptionalField "healthcheck_path" normalizeHealthcheckPath
    raw.healthcheckPath = .ok payload.healthcheckPath
  healthcheckTimeoutMs : ofOptionalField "healthcheck_timeout_ms" normalizeHealthcheckTimeoutMs
    raw.healthcheckTimeoutMs = .ok payload.healthcheckTimeoutMs
  healthcheckExpectedStatuses : ofOptionalField "healthcheck_expected_statuses"
    (normalizeHealthcheckExpectedStatuses ∘ some) raw.healthcheckExpectedStatuses =
      .ok payload.healthcheckExpectedStatuses
  basicAuthCredentials : ofOptionalField "basic_auth_credentials"
    (ofOptionalField "basic_auth_credentials" (·.mapM validateBasicAuthCredential))
    raw.basicAuthCredentials = .ok payload.basicAuthCredentials
  rest : payload =
    { raw with
      routingMode := payload.routingMode, maintenanceMessage := payload.maintenanceMessage
      maintenanceUntil := payload.maintenanceUntil, upstreamScheme := payload.upstreamScheme
      authMode := payload.authMode, allowedIps := payload.allowedIps
      middlewareTemplateIds := payload.middlewareTemplateIds
      rateLimitAverage := payload.rateLimitAverage, rateLimitBurst := payload.rateLimitBurst
      customHeaders := payload.customHeaders, framePolicy := payload.framePolicy
      healthcheckPath := payload.healthcheckPath
      healthcheckTimeoutMs := payload.healthcheckTimeoutMs
      healthcheckExpectedStatuses := payload.healthcheckExpectedStatuses
      basicAuthCredentials := payload.basicAuthCredentials
      authentikGroupId := raw.authentikGroupId.map normalizeAuthentikGroupId }

theorem validatedUpdate {parse : String → Option Datetime} {raw : ServiceUpdateFields String}
    {payload : ServiceUpdate} (accepted : ServiceUpdate.validate parse raw = .ok payload) :
    ValidatedUpdate parse raw payload := by
  simp only [ServiceUpdate.validate, bind_eq_ok] at accepted
  obtain ⟨routingMode, isRouting, message, isMessage, moment, isMoment, scheme, isScheme, mode,
    isMode, allowedIps, isAllowed, templateIds, isIds, average, isAverage, burst, isBurst, headers,
    isHeaders, policy, isPolicy, path, isPath, timeout, isTimeout, statuses, isStatuses,
    credentials, isCredentials, checked⟩ := accepted
  rw [unlessBroken_ok checked]
  exact
    { routingMode := isRouting
      maintenanceMessage := isMessage
      maintenanceUntil := isMoment
      upstreamScheme := isScheme
      authMode := ⟨mode, isMode, rfl⟩
      allowedIps := isAllowed
      middlewareTemplateIds := isIds
      rateLimitAverage := isAverage
      rateLimitBurst := isBurst
      customHeaders := isHeaders
      framePolicy := isPolicy
      healthcheckPath := isPath
      healthcheckTimeoutMs := isTimeout
      healthcheckExpectedStatuses := isStatuses
      basicAuthCredentials := isCredentials
      rest := rfl }

/-- An update call without a group argument keeps the group or drops it. -/
theorem group_of_update {service next : Service} {arguments : ServiceUpdateArguments}
    {generated : String} (absent : arguments.authentikGroupId = none)
    (updated : service.update arguments generated = .ok next) :
    next.authentikGroupId = service.authentikGroupId ∨ next.authentikGroupId = none := by
  simp only [Service.update, bind_eq_ok] at updated
  obtain ⟨transported, isTransported, authenticated, isAuthenticated, isNext⟩ := updated
  obtain ⟨state, -, -, -, -, -, isGroup⟩ := (Service.updateAuth_ok isAuthenticated).auth
  have access := (Service.updateAccess_ok isNext).authentikGroupId
  simp only [Service.requestedGroupId, absent] at access
  have same : transported.authentikGroupId = service.authentikGroupId := by
    rw [(Service.updateTransport_ok isTransported).rest]
  rw [access, isGroup, same]
  split
  · exact .inr rfl
  · exact .inl rfl

theorem Restorable.applied {parse : String → Option Datetime} {raw : ServiceUpdateFields String}
    {payload : ServiceUpdate} {hash : String → String} {service next : Service}
    {generated : String} (restorable : Restorable service)
    (accepted : ServiceUpdate.validate parse raw = .ok payload)
    (applied : applyServiceUpdatePayload hash service payload generated = .ok next) :
    Restorable next := by
  obtain ⟨users, updated, -, isUpdated, rfl⟩ := applied_ok applied
  have sound := restorable.sound.update isUpdated
  have settled := restorable.settled.update isUpdated
  unfold assignAuthentikGroup
  cases requested : payload.authentikGroupId with
  | none =>
      refine ⟨sound, settled, ?_⟩
      rcases group_of_update rfl isUpdated with kept | dropped
      · rw [kept]
        exact restorable.group
      · rw [dropped]
        rfl
  | some group =>
      have normal : normalizeAuthentikGroupId group = group := by
        have isGroup := congrArg ServiceUpdateFields.authentikGroupId (validatedUpdate accepted).rest
        rw [requested] at isGroup
        obtain ⟨submitted, -, rfl⟩ := Option.map_eq_some_iff.mp isGroup.symm
        exact normalizeAuthentikGroupId_fixed submitted
      refine ⟨{ sound with authentikGroup := ?_ }, { settled with }, ?_⟩
      · intro some
        by_contra other
        exact some (if_neg other)
      · dsimp only
        split
        · exact normal
        · rfl

end Restorable

section UndoRequest

variable {α β : Type}

/-- The earlier values of the keys that changed, as the validated request has them. -/
structure UndoRequest (before after : Service) (payload : ServiceUpdate) : Prop where
  name : payload.name = copied (before.name = after.name) before.name
  upstreamHost : payload.upstreamHost =
    copied (before.upstream.host = after.upstream.host) (some before.upstream.host)
  upstreamPort : payload.upstreamPort =
    copied (before.upstream.port = after.upstream.port) before.upstream.port
  routingMode : payload.routingMode =
    copied (before.routingMode = after.routingMode) before.routingMode.text
  maintenanceMessage : payload.maintenanceMessage =
    copied (before.maintenanceMessage = after.maintenanceMessage) before.maintenanceMessage
  maintenanceUntil : payload.maintenanceUntil =
    copied (before.maintenanceUntil.map Datetime.isoformat =
      after.maintenanceUntil.map Datetime.isoformat) before.maintenanceUntil
  upstreamScheme : payload.upstreamScheme =
    copied (before.upstreamScheme = after.upstreamScheme) before.upstreamScheme.text
  skipTlsVerify : payload.skipTlsVerify =
    copied (before.skipTlsVerify = after.skipTlsVerify) before.skipTlsVerify
  tlsEnabled : payload.tlsEnabled = copied (before.tlsEnabled = after.tlsEnabled) before.tlsEnabled
  httpsRedirectEnabled : payload.httpsRedirectEnabled =
    copied (before.httpsRedirectEnabled = after.httpsRedirectEnabled) before.httpsRedirectEnabled
  authMode : payload.authMode = copied (before.authMode = after.authMode) before.authMode.text
  apiKey : payload.apiKey = none
  basicAuth : payload.basicAuthEnabled = none ∧ payload.basicAuthCredentials = none
  allowedIps : payload.allowedIps = copied (before.allowedIps = after.allowedIps) before.allowedIps
  blockedPaths : payload.blockedPaths =
    copied (before.blockedPaths = after.blockedPaths) before.blockedPaths
  middlewareTemplateIds : payload.middlewareTemplateIds =
    copied (before.middlewareTemplateIds = after.middlewareTemplateIds) before.middlewareTemplateIds
  rateLimit : (before.rateLimitAverage = after.rateLimitAverage ∧
      before.rateLimitBurst = after.rateLimitBurst ∧ payload.rateLimitEnabled = none ∧
        payload.rateLimitAverage = none ∧ payload.rateLimitBurst = none) ∨
    payload.rateLimitEnabled = some before.rateLimitEnabled ∧
      payload.rateLimitAverage = before.rateLimitAverage ∧
        payload.rateLimitBurst = before.rateLimitBurst
  customHeaders : payload.customHeaders =
    copied (sameHeaders before.customHeaders after.customHeaders) before.customHeaders
  framePolicy : payload.framePolicy =
    copied (before.framePolicy = after.framePolicy) before.framePolicy.text
  healthcheckEnabled : payload.healthcheckEnabled =
    copied (before.healthcheckEnabled = after.healthcheckEnabled) before.healthcheckEnabled
  healthcheckPath : payload.healthcheckPath =
    copied (before.healthcheckPath = after.healthcheckPath) before.healthcheckPath
  healthcheckTimeoutMs : payload.healthcheckTimeoutMs =
    copied (before.healthcheckTimeoutMs = after.healthcheckTimeoutMs) before.healthcheckTimeoutMs
  healthcheckExpectedStatuses : payload.healthcheckExpectedStatuses =
    copied (before.healthcheckExpectedStatuses = after.healthcheckExpectedStatuses)
      before.healthcheckExpectedStatuses
  authentikGroupId : payload.authentikGroupId =
    copied (before.authentikGroupId = after.authentikGroupId) before.authentikGroupId

variable {before after : Service} {parse : String → Option Datetime} {payload : ServiceUpdate}

end UndoRequest

section Restoring

private theorem getD_copied {α : Type} [DecidableEq α] (before after : α) :
    (copied (before = after) before).getD after = before := by
  by_cases same : before = after
  · simp [copied, same]
  · simp [copied, same]

private theorem changed_copied {α β : Type} [DecidableEq β] {normalize : α → Except PyException β}
    {before after current new : β} {value : α} {requested : Option α}
    (asked : requested = copied (before = after) value) (kept : current = after)
    (done : Service.changed current normalize requested = .ok new)
    (fixed : normalize value = .ok before) : new = before := by
  subst asked kept
  by_cases same : before = current
  · rw [decide_eq_true same] at done
    exact (Except.ok.inj done).symm.trans same.symm
  · rw [decide_eq_false same] at done
    have normalized : normalize value = .ok new := done
    rw [fixed] at normalized
    exact (Except.ok.inj normalized).symm

variable {before after : Service} {payload : ServiceUpdate} {users : Option (List String)}

private theorem upstream_valid (upstream : Upstream) : upstream.host ≠ "" ∧ upstream.port ≠ 0 := by
  have valid := upstream.valid
  unfold validateUpstream at valid
  by_cases noHost : upstream.host = ""
  · rw [if_pos noHost] at valid
    cases valid
  · refine ⟨noHost, ?_⟩
    intro noPort
    rw [if_neg noHost, noPort] at valid
    cases valid

/-- The port an update asks for; a port of zero asks for none. -/
def portAsked (requested : Option Int) (current : Int) : Int :=
  match requested with
  | some port => if port = 0 then current else port
  | none => current

private theorem requestedUpstream_undo (undo : UndoRequest before after payload)
    {upstream : Upstream}
    (done : after.requestedUpstream (updateArguments payload users) = .ok upstream) :
    upstream = before.upstream := by
  obtain ⟨hostGiven, portGiven⟩ := upstream_valid before.upstream
  have isHost : (orText (payload.upstreamHost.getD none) none).getD after.upstream.host =
      before.upstream.host := by
    rw [undo.upstreamHost]
    by_cases same : before.upstream.host = after.upstream.host
    · simp [copied, same, orText]
    · simp [copied, same, orText, hostGiven]
  have isPort : portAsked payload.upstreamPort after.upstream.port = before.upstream.port := by
    rw [undo.upstreamPort]
    by_cases same : before.upstream.port = after.upstream.port
    · simp [portAsked, copied, same]
    · simp [portAsked, copied, same, portGiven]
  have make : Upstream.make ((orText (payload.upstreamHost.getD none) none).getD
      after.upstream.host) (portAsked payload.upstreamPort after.upstream.port) =
        .ok before.upstream := by
    rw [isHost, isPort, Upstream.make_self]
  unfold Service.requestedUpstream at done
  split at done
  · rename_i noHost noPort
    have asked : payload.upstreamHost.getD none = none := noHost
    have asked' : payload.upstreamPort = none := noPort
    rw [asked, asked'] at make
    have same : Upstream.make after.upstream.host after.upstream.port = .ok before.upstream := make
    rw [Upstream.make_self] at same
    exact (Except.ok.inj done).symm.trans (Except.ok.inj same)
  · exact (Except.ok.inj (make.symm.trans done)).symm

private theorem requestedMaintenanceUntil_undo (undo : UndoRequest before after payload)
    (restorable : Restorable before) {moment : Option Datetime}
    (done : after.requestedMaintenanceUntil (updateArguments payload users) = .ok moment) :
    moment.map Datetime.isoformat = before.maintenanceUntil.map Datetime.isoformat := by
  have asked : (updateArguments payload users).maintenanceUntil = payload.maintenanceUntil.getD none :=
    rfl
  have cleared : (updateArguments payload users).clearMaintenanceUntil =
      decide (payload.maintenanceUntil = some none) := rfl
  rw [undo.maintenanceUntil] at asked cleared
  unfold Service.requestedMaintenanceUntil at done
  rw [asked, cleared] at done
  by_cases same : before.maintenanceUntil.map Datetime.isoformat =
      after.maintenanceUntil.map Datetime.isoformat
  · simp only [copied, same, decide_true, if_true, Option.getD_none, reduceCtorEq,
      decide_false, Bool.false_eq_true, if_false, Except.ok.injEq] at done
    rw [← done, same]
  · simp only [copied, same, decide_false, Bool.false_eq_true, if_false, Option.getD_some] at done
    cases isMoment : before.maintenanceUntil with
    | none =>
        simp only [isMoment, decide_true, if_true, Except.ok.injEq] at done
        rw [← done]
    | some requested =>
        have aware := restorable.settled.maintenanceUntil requested isMoment
        simp only [isMoment, Option.some.injEq, reduceCtorEq, decide_false, Bool.false_eq_true,
          if_false, normalizeMaintenanceUntil, aware, if_true, Except.ok.injEq] at done
        rw [← done]

private theorem transport_undo (undo : UndoRequest before after payload)
    (restorable : Restorable before) {state : Option ServiceTransportState}
    (done : resolveUpdatedTransportState after.upstreamScheme after.skipTlsVerify
      payload.upstreamScheme payload.skipTlsVerify = .ok state) :
    (state.map (·.upstreamScheme)).getD after.upstreamScheme = before.upstreamScheme ∧
      (state.map (·.skipTlsVerify)).getD after.skipTlsVerify = before.skipTlsVerify := by
  have skips := restorable.sound.skipTlsVerify
  rw [undo.upstreamScheme, undo.skipTlsVerify] at done
  by_cases sameScheme : before.upstreamScheme = after.upstreamScheme
  · by_cases sameSkip : before.skipTlsVerify = after.skipTlsVerify
    · simp only [copied, sameScheme, sameSkip, decide_true, if_true] at done
      cases done
      exact ⟨sameScheme.symm, sameSkip.symm⟩
    · simp only [copied, sameScheme, sameSkip, decide_true, if_true, decide_false,
        Bool.false_eq_true, if_false] at done
      cases done
      refine ⟨sameScheme.symm, ?_⟩
      simp only [Option.map_some, Option.getD_some, ← sameScheme]
      by_cases https : before.upstreamScheme = .https
      · rw [if_pos https]
      · rw [if_neg https]
        exact (Bool.eq_false_iff.mpr fun skip => https (skips skip)).symm
  · have chosen : ∃ skip : Option Bool, skip.getD after.skipTlsVerify = before.skipTlsVerify ∧
        state = some
          { upstreamScheme := before.upstreamScheme
            skipTlsVerify :=
              if before.upstreamScheme = .https then skip.getD after.skipTlsVerify else false } := by
      refine ⟨copied (before.skipTlsVerify = after.skipTlsVerify) before.skipTlsVerify,
        getD_copied _ _, ?_⟩
      rw [show copied (decide (before.upstreamScheme = after.upstreamScheme))
        before.upstreamScheme.text = some before.upstreamScheme.text by simp [copied, sameScheme]]
        at done
      simp only [resolveUpdatedTransportState, validateUpstreamScheme_text] at done
      exact (Except.ok.inj done).symm
    obtain ⟨skip, isSkip, rfl⟩ := chosen
    refine ⟨rfl, ?_⟩
    simp only [Option.map_some, Option.getD_some, isSkip]
    by_cases https : before.upstreamScheme = .https
    · rw [if_pos https]
    · rw [if_neg https]
      exact (Bool.eq_false_iff.mpr fun skip => https (skips skip)).symm

private theorem auth_undo (undo : UndoRequest before after payload) (restorable : Restorable after)
    {generated : String} {state : Option UpdatedServiceAuthState}
    (noToken : before.authMode ≠ .token) (noToken' : after.authMode ≠ .token)
    (done : resolveUpdatedAuthState after.authMode after.apiKey payload.authMode none payload.apiKey
      generated = .ok state) :
    (state.map (·.authMode)).getD after.authMode = before.authMode ∧
      (state.map (·.apiKey)).getD after.apiKey = none ∧
      (if (state.map (·.clearAuthentikGroup)).getD false then none else after.authentikGroupId) =
        if before.authMode = .authentik then after.authentikGroupId else none := by
  have noKey := restorable.sound.noApiKey noToken'
  rw [undo.authMode, undo.apiKey] at done
  by_cases same : before.authMode = after.authMode
  · rw [decide_eq_true same] at done
    have unchanged : state = none := by
      cases isMode : after.authMode with
      | token => exact absurd isMode noToken'
      | none =>
          rw [isMode] at done
          cases done
          rfl
      | authentik =>
          rw [isMode] at done
          cases done
          rfl
    subst unchanged
    refine ⟨same.symm, noKey, ?_⟩
    by_cases authentik : before.authMode = .authentik
    · simp [authentik]
    · have noGroup : after.authentikGroupId = none := by
        by_contra group
        exact authentik (same.trans (restorable.sound.authentikGroup group))
      simp [authentik, noGroup]
  · rw [decide_eq_false same] at done
    have chosen : state = some
        { authMode := before.authMode
          authEnabled := before.authMode ≠ .none
          apiKey := resolveApiKey before.authMode (orText none after.apiKey) generated
          clearBasicAuthUsers := before.authMode ≠ .none
          clearAuthentikGroup := before.authMode ≠ .authentik } := by
      simp only [copied, Bool.false_eq_true, if_false, resolveUpdatedAuthState,
        normalizeAuthMode_text] at done
      exact (Except.ok.inj done).symm
    subst chosen
    refine ⟨rfl, ?_, ?_⟩
    · cases isMode : before.authMode with
      | token => exact absurd isMode noToken
      | none => rfl
      | authentik => rfl
    · by_cases authentik : before.authMode = .authentik
      · simp [authentik]
      · simp [authentik]

private theorem rateLimit_undo (undo : UndoRequest before after payload)
    (restorable : Restorable before)
    {current : Service} (sameAverage : current.rateLimitAverage = after.rateLimitAverage)
    (sameBurst : current.rateLimitBurst = after.rateLimitBurst) {average burst : Option Int}
    (done : current.updateRateLimit (updateArguments payload users) = .ok (average, burst)) :
    average = before.rateLimitAverage ∧ burst = before.rateLimitBurst := by
  rcases undo.rateLimit with ⟨kept, kept', absent, noAverage, noBurst⟩ | ⟨asked, isAverage, isBurst⟩
  · simp only [Service.updateRateLimit, updateArguments, absent, noAverage, noBurst, reduceCtorEq,
      decide_false, Bool.false_eq_true, if_false, Except.ok.injEq, Prod.mk.injEq] at done
    rw [← done.1, ← done.2, sameAverage, sameBurst]
    exact ⟨kept.symm, kept'.symm⟩
  · rcases restorable.sound.rateLimit with ⟨none, none'⟩ |
      ⟨someAverage, someBurst, is, is', positive, positive'⟩
    · have disabled : before.rateLimitEnabled = false := by
        simp [Service.rateLimitEnabled, none]
      simp only [Service.updateRateLimit, updateArguments, asked, disabled, decide_true, if_true,
        Except.ok.injEq, Prod.mk.injEq] at done
      rw [← done.1, ← done.2]
      exact ⟨none.symm, none'.symm⟩
    · have enabled : before.rateLimitEnabled = true := by
        simp [Service.rateLimitEnabled, is, is']
      have fixed := rateLimit_fixed restorable.sound.rateLimit
      rw [is] at isAverage
      rw [is'] at isBurst
      rw [is, is'] at fixed ⊢
      simp only [Service.updateRateLimit, updateArguments, asked, enabled, isAverage, isBurst,
        Option.some.injEq, Bool.true_eq_false, decide_false, Bool.false_eq_true, if_false,
        Option.orElse_some, fixed, Except.ok.injEq, Prod.mk.injEq] at done
      exact ⟨done.1.symm, done.2.symm⟩

private theorem httpsRedirect_undo (undo : UndoRequest before after payload)
    (restorable : Restorable before) :
    payload.httpsRedirectEnabled.getD
        (if payload.tlsEnabled = some false then false else after.httpsRedirectEnabled) =
      before.httpsRedirectEnabled := by
  rw [undo.httpsRedirectEnabled]
  by_cases same : before.httpsRedirectEnabled = after.httpsRedirectEnabled
  · simp only [copied, same, decide_true, if_true, Option.getD_none]
    split
    · rename_i noTls
      rw [undo.tlsEnabled] at noTls
      have isFalse : before.tlsEnabled = false := by
        by_cases sameTls : before.tlsEnabled = after.tlsEnabled
        · simp [copied, sameTls] at noTls
        · simpa [copied, sameTls] using noTls
      rw [← same]
      exact (Bool.eq_false_iff.mpr fun redirects => by
        simp [restorable.sound.httpsRedirect redirects] at isFalse).symm
    · rfl
  · simp [copied, same]

private theorem customHeaders_undo (undo : UndoRequest before after payload)
    (restorable : Restorable before) {headers : Dict String String}
    (done : Service.changed after.customHeaders (normalizeCustomHeaders ∘ some)
      payload.customHeaders = .ok headers) :
    sameHeaders headers before.customHeaders = true := by
  rw [undo.customHeaders] at done
  cases same : sameHeaders before.customHeaders after.customHeaders with
  | true =>
      rw [same] at done
      cases done
      exact List.isPerm_iff.mpr (List.isPerm_iff.mp same).symm
  | false =>
      rw [same] at done
      have normalized : normalizeCustomHeaders (some before.customHeaders) = .ok headers := done
      rw [customHeaders_fixed restorable.sound.customHeaders] at normalized
      cases normalized
      exact List.isPerm_iff.mpr (List.Perm.refl _)

/-- What the earlier summary says of the service, in terms of its fields. -/
structure Restored (before restored : Service) : Prop where
  name : restored.name = before.name
  upstream : restored.upstream = before.upstream
  routingMode : restored.routingMode = before.routingMode
  maintenanceMessage : restored.maintenanceMessage = before.maintenanceMessage
  maintenanceUntil : restored.maintenanceUntil.map Datetime.isoformat =
    before.maintenanceUntil.map Datetime.isoformat
  transport : restored.upstreamScheme = before.upstreamScheme ∧
    restored.skipTlsVerify = before.skipTlsVerify
  tlsEnabled : restored.tlsEnabled = before.tlsEnabled
  httpsRedirectEnabled : restored.httpsRedirectEnabled = before.httpsRedirectEnabled
  auth : restored.authMode = before.authMode ∧ restored.apiKey = before.apiKey
  allowedIps : restored.allowedIps = before.allowedIps
  blockedPaths : restored.blockedPaths = before.blockedPaths
  middlewareTemplateIds : restored.middlewareTemplateIds = before.middlewareTemplateIds
  rateLimit : restored.rateLimitAverage = before.rateLimitAverage ∧
    restored.rateLimitBurst = before.rateLimitBurst
  customHeaders : sameHeaders restored.customHeaders before.customHeaders = true
  framePolicy : restored.framePolicy = before.framePolicy
  healthcheckEnabled : restored.healthcheckEnabled = before.healthcheckEnabled
  healthcheckPath : restored.healthcheckPath = before.healthcheckPath
  healthcheckTimeoutMs : restored.healthcheckTimeoutMs = before.healthcheckTimeoutMs
  healthcheckExpectedStatuses : restored.healthcheckExpectedStatuses =
    before.healthcheckExpectedStatuses
  basicAuthUsers : restored.basicAuthUsers = before.basicAuthUsers
  authentikGroupId : restored.authentikGroupId = before.authentikGroupId

theorem Restored.same {restored : Service} (is : Restored before restored) :
    (serviceAuditSummary restored).Same (serviceAuditSummary before) := by
  refine ⟨is.customHeaders, ?_⟩
  simp [serviceAuditSummary, Service.rateLimitEnabled, Service.basicAuthEnabled, is.name,
    is.upstream, is.routingMode, is.maintenanceMessage, is.maintenanceUntil, is.transport,
    is.tlsEnabled, is.httpsRedirectEnabled, is.auth, is.allowedIps, is.blockedPaths,
    is.middlewareTemplateIds, is.rateLimit, is.framePolicy, is.healthcheckEnabled,
    is.healthcheckPath, is.healthcheckTimeoutMs, is.healthcheckExpectedStatuses,
    is.basicAuthUsers, is.authentikGroupId]

/-- Applying the validated request to the service the update left restores the summary. -/
theorem UndoRequest.restored (undo : UndoRequest before after payload)
    (restorable : Restorable before) (restorable' : Restorable after)
    (supported : serviceSupportsRollback before after = true) {hash : String → String}
    {generated : String} {restored : Service}
    (applied : applyServiceUpdatePayload hash after payload generated = .ok restored) :
    Restored before restored := by
  obtain ⟨noToken, noUsers, noToken', noUsers'⟩ :
      before.authMode ≠ .token ∧ before.basicAuthUsers = [] ∧
        after.authMode ≠ .token ∧ after.basicAuthUsers = [] := by
    simpa [serviceSupportsRollback, and_assoc] using supported
  obtain ⟨users, updated, isUsers, isUpdated, rfl⟩ := applied_ok applied
  have unasked : users = none := by
    rw [resolveBasicAuthUsers, undo.basicAuth.1, undo.basicAuth.2] at isUsers
    exact (Except.ok.inj isUsers).symm
  subst unasked
  simp only [Service.update, bind_eq_ok] at isUpdated
  obtain ⟨moved, isMoved, authed, isAuthed, isAccessed⟩ := isUpdated
  have first := Service.updateTransport_ok isMoved
  have second := Service.updateAuth_ok isAuthed
  have third := Service.updateAccess_ok isAccessed
  obtain ⟨transport, isTransport, isScheme, isSkip⟩ := first.transport
  have transported := transport_undo undo restorable isTransport
  obtain ⟨state, isState, isMode, -, isKey, isUsers, isGroup⟩ := second.auth
  have isState' : resolveUpdatedAuthState after.authMode after.apiKey payload.authMode none
      payload.apiKey generated = .ok state := by
    rw [first.rest] at isState
    exact isState
  obtain ⟨modeRestored, keyRestored, groupKept⟩ :=
    auth_undo undo restorable' noToken noToken' isState'
  have mode : authed.authMode = before.authMode := by
    rw [isMode, ← modeRestored, first.rest]
  have group : authed.authentikGroupId =
      if before.authMode = .authentik then after.authentikGroupId else none := by
    rw [isGroup, ← groupKept, first.rest]
  have users : updated.basicAuthUsers = [] := by
    have kept : updated.basicAuthUsers = authed.basicAuthUsers :=
      (Except.ok.inj third.basicAuthUsers).symm
    have left : moved.basicAuthUsers = [] := by
      rw [first.rest]
      exact noUsers'
    rw [kept, isUsers, left]
    split <;> rfl
  have updatedMode : updated.authMode = before.authMode := by
    rw [third.rest]
    exact mode
  have keptGroup : updated.authentikGroupId = authed.authentikGroupId := third.authentikGroupId
  have limits : updated.rateLimitAverage = before.rateLimitAverage ∧
      updated.rateLimitBurst = before.rateLimitBurst := by
    refine rateLimit_undo undo restorable ?_ ?_ third.rateLimit
    · rw [second.rest, first.rest]
    · rw [second.rest, first.rest]
  rw [assignAuthentikGroup_eq]
  exact
    { name := by
        have kept : updated.name = moved.name := by rw [third.rest, second.rest]
        have asked : moved.name = payload.name.getD after.name := first.name
        rw [kept, asked, undo.name, getD_copied]
      upstream := by
        have kept : updated.upstream = moved.upstream := by rw [third.rest, second.rest]
        rw [kept]
        exact requestedUpstream_undo undo first.upstream
      routingMode := by
        have kept : updated.routingMode = moved.routingMode := by rw [third.rest, second.rest]
        rw [kept]
        exact changed_copied undo.routingMode rfl first.routingMode (normalizeRoutingMode_text _)
      maintenanceMessage := by
        have kept : updated.maintenanceMessage = moved.maintenanceMessage := by
          rw [third.rest, second.rest]
        rw [kept]
        exact changed_copied undo.maintenanceMessage rfl first.maintenanceMessage
          restorable.settled.maintenanceMessage
      maintenanceUntil := by
        have kept : updated.maintenanceUntil = moved.maintenanceUntil := by
          rw [third.rest, second.rest]
        rw [kept]
        exact requestedMaintenanceUntil_undo undo restorable first.maintenanceUntil
      transport := by
        have kept : updated.upstreamScheme = moved.upstreamScheme := by
          rw [third.rest, second.rest]
        have kept' : updated.skipTlsVerify = moved.skipTlsVerify := by
          rw [third.rest, second.rest]
        rw [kept, kept', isScheme, isSkip]
        exact transported
      tlsEnabled := by
        have kept : updated.tlsEnabled = moved.tlsEnabled := by rw [third.rest, second.rest]
        have asked : moved.tlsEnabled = payload.tlsEnabled.getD after.tlsEnabled :=
          first.tlsEnabled
        rw [kept, asked, undo.tlsEnabled, getD_copied]
      httpsRedirectEnabled := by
        have kept : authed.httpsRedirectEnabled = moved.httpsRedirectEnabled := by
          rw [second.rest]
        have asked : updated.httpsRedirectEnabled =
            payload.httpsRedirectEnabled.getD authed.httpsRedirectEnabled :=
          third.httpsRedirectEnabled
        rw [asked, kept, first.httpsRedirectEnabled]
        exact httpsRedirect_undo undo restorable
      auth := by
        have kept : updated.apiKey = authed.apiKey := by rw [third.rest]
        refine ⟨updatedMode, ?_⟩
        rw [kept, isKey, restorable.sound.noApiKey noToken, ← keyRestored, first.rest]
      allowedIps := by
        have kept : authed.allowedIps = after.allowedIps := by
          rw [second.rest, first.rest]
        exact changed_copied undo.allowedIps kept third.allowedIps
          (allowedIps_fixed restorable.sound.allowedIps)
      blockedPaths := by
        have kept : authed.blockedPaths = after.blockedPaths := by
          rw [second.rest, first.rest]
        exact changed_copied undo.blockedPaths kept third.blockedPaths
          (blockedPaths_fixed restorable.sound.blockedPaths)
      middlewareTemplateIds := by
        have kept : authed.middlewareTemplateIds = after.middlewareTemplateIds := by
          rw [second.rest, first.rest]
        exact changed_copied undo.middlewareTemplateIds kept third.middlewareTemplateIds
          (middlewareTemplateIds_fixed restorable.settled.middlewareTemplateIds)
      rateLimit := limits
      customHeaders := by
        have done := third.customHeaders
        rw [second.rest, first.rest] at done
        exact customHeaders_undo undo restorable done
      framePolicy := by
        have kept : authed.framePolicy = after.framePolicy := by
          rw [second.rest, first.rest]
        exact changed_copied undo.framePolicy kept third.framePolicy (normalizeFramePolicy_text _)
      healthcheckEnabled := by
        have kept : authed.healthcheckEnabled = after.healthcheckEnabled := by
          rw [second.rest, first.rest]
        have asked : updated.healthcheckEnabled =
            payload.healthcheckEnabled.getD authed.healthcheckEnabled := third.healthcheckEnabled
        rw [asked, kept, undo.healthcheckEnabled, getD_copied]
      healthcheckPath := by
        have kept : authed.healthcheckPath = after.healthcheckPath := by
          rw [second.rest, first.rest]
        exact changed_copied undo.healthcheckPath kept third.healthcheckPath
          restorable.settled.healthcheckPath
      healthcheckTimeoutMs := by
        have kept : authed.healthcheckTimeoutMs = after.healthcheckTimeoutMs := by
          rw [second.rest, first.rest]
        exact changed_copied undo.healthcheckTimeoutMs kept third.healthcheckTimeoutMs
          restorable.settled.healthcheckTimeoutMs
      healthcheckExpectedStatuses := by
        have kept : authed.healthcheckExpectedStatuses = after.healthcheckExpectedStatuses := by
          rw [second.rest, first.rest]
        exact changed_copied undo.healthcheckExpectedStatuses kept third.healthcheckExpectedStatuses
          restorable.settled.healthcheckExpectedStatuses
      basicAuthUsers := users.trans noUsers.symm
      authentikGroupId := by
        unfold assignAuthentikGroup
        rw [undo.authentikGroupId]
        by_cases same : before.authentikGroupId = after.authentikGroupId
        · simp only [copied, same, decide_true, if_true]
          rw [keptGroup, group, ← same]
          by_cases authentik : before.authMode = .authentik
          · rw [if_pos authentik]
          · rw [if_neg authentik]
            by_contra some
            exact authentik (restorable.sound.authentikGroup (Ne.symm some))
        · simp only [copied, same, decide_false, Bool.false_eq_true, if_false, updatedMode]
          by_cases authentik : before.authMode = .authentik
          · rw [if_pos authentik]
          · rw [if_neg authentik]
            by_contra some
            exact authentik (restorable.sound.authentikGroup (Ne.symm some)) }

end Restoring

end TraefikManager.Proxy
