import TraefikManager.Domain.Normalized
import TraefikManager.Domain.ServiceUpdate

/-!
# The invariant of the service aggregate

Creating a service establishes how its fields depend on each other, and each of
the three parts of an update keeps it, whatever is requested.
-/

namespace TraefikManager.Domain

open Foundation

/-- How the fields of a service depend on each other, and the form of its lists. -/
structure Service.Invariant (service : Service) : Prop where
  httpsRedirect : service.httpsRedirectEnabled = true → service.tlsEnabled = true
  authEnabled : service.authEnabled = true ↔ service.authMode ≠ .none
  apiKey : (∃ key, service.apiKey = some key ∧ key ≠ "") ↔ service.authMode = .token
  noApiKey : service.authMode ≠ .token → service.apiKey = none
  basicAuth : service.basicAuthUsers ≠ [] → service.authMode = .none
  authentikGroup : service.authentikGroupId ≠ none → service.authMode = .authentik
  skipTlsVerify : service.skipTlsVerify = true → service.upstreamScheme = .https
  rateLimit : IsRateLimit service.rateLimitAverage service.rateLimitBurst
  allowedIps : Tidy IsNetworkText service.allowedIps
  blockedPaths : Tidy IsBlockedPath service.blockedPaths
  customHeaders : ∀ entry ∈ service.customHeaders.entries, IsCustomHeader entry
  basicAuthUsers : Tidy IsBasicAuthUser service.basicAuthUsers

section Policies

private theorem apiKey_of_resolve (authMode : AuthMode) (requested : Option String)
    (generated : String) :
    ((∃ key, resolveApiKey authMode requested generated = some key ∧ key ≠ "") ↔
      authMode = .token) ∧
    (authMode ≠ .token → resolveApiKey authMode requested generated = none) := by
  cases authMode with
  | none => simp [resolveApiKey]
  | authentik => simp [resolveApiKey]
  | token =>
      refine ⟨iff_of_true ?_ rfl, fun other => absurd rfl other⟩
      have generatedKey : "service_" ++ generated ≠ "" := by
        simp
      cases requested with
      | none => exact ⟨_, rfl, generatedKey⟩
      | some key =>
          by_cases empty : key = ""
          · exact ⟨_, by simp [resolveApiKey, orText, empty], generatedKey⟩
          · exact ⟨key, by simp [resolveApiKey, orText, empty], empty⟩

private theorem noBasicAuth_of_allowed {authMode : AuthMode} {basicAuthUsers : List String}
    (allowed : ensureAuthModeAllowsBasicAuth authMode basicAuthUsers = .ok ())
    (users : basicAuthUsers ≠ []) : authMode = .none := by
  obtain ⟨first, rest, rfl⟩ := List.exists_cons_of_ne_nil users
  cases authMode with
  | none => rfl
  | authentik => cases allowed
  | token => cases allowed

private theorem httpsRedirect_of_allowed {tlsEnabled httpsRedirectEnabled : Bool}
    (allowed : ensureHttpsRedirectAllowed tlsEnabled httpsRedirectEnabled = .ok ())
    (redirects : httpsRedirectEnabled = true) : tlsEnabled = true := by
  unfold ensureHttpsRedirectAllowed at allowed
  split at allowed
  · cases allowed
  · rename_i fine
    simpa [redirects] using fine

/-- What an update of the authentication may do to a service in mode `current`. -/
structure SoundAuthState (current : AuthMode) (state : UpdatedServiceAuthState) : Prop where
  authEnabled : state.authEnabled = true ↔ state.authMode ≠ .none
  apiKey : (∃ key, state.apiKey = some key ∧ key ≠ "") ↔ state.authMode = .token
  noApiKey : state.authMode ≠ .token → state.apiKey = none
  keptUsers : state.clearBasicAuthUsers = false → state.authMode = .none ∨ state.authMode = current
  keptGroup : state.clearAuthentikGroup = false →
    state.authMode = .authentik ∨ state.authMode = current

private theorem soundAuthState {current : AuthMode}
    {currentApiKey requestedAuthMode : Option String}
    {requestedAuthEnabled : Option Bool} {requestedApiKey : Option String} {generated : String}
    {state : UpdatedServiceAuthState}
    (resolved : resolveUpdatedAuthState current currentApiKey requestedAuthMode
      requestedAuthEnabled requestedApiKey generated = .ok (some state)) :
    SoundAuthState current state := by
  have ofMode : ∀ mode : String,
      (do
        let resolved ← normalizeAuthMode mode none
        pure (some
          { authMode := resolved
            authEnabled := resolved ≠ .none
            apiKey := resolveApiKey resolved (orText requestedApiKey currentApiKey) generated
            clearBasicAuthUsers := resolved ≠ .none
            clearAuthentikGroup := resolved ≠ .authentik }) :
        Except PyException (Option UpdatedServiceAuthState)) = .ok (some state) →
      SoundAuthState current state := by
    intro mode done
    obtain ⟨authMode, -, isState⟩ := bind_eq_ok.mp done
    cases isState
    obtain ⟨key, noKey⟩ := apiKey_of_resolve authMode
      (orText requestedApiKey currentApiKey) generated
    exact ⟨by simp, key, noKey, fun kept => .inl (by simpa using kept),
      fun kept => .inl (by simpa using kept)⟩
  unfold resolveUpdatedAuthState at resolved
  cases requestedAuthMode with
  | some mode => exact ofMode mode resolved
  | none =>
      cases requestedAuthEnabled with
      | some enabled => exact ofMode _ resolved
      | none =>
          simp only at resolved
          split at resolved
          · rename_i key isKey
            cases resolved
            have nonempty : key ≠ "" := by
              rintro rfl
              cases requestedApiKey with
              | none => cases isKey
              | some requested =>
                  unfold orText at isKey
                  simp only at isKey
                  split at isKey
                  · cases isKey
                  · rename_i nonempty
                    exact nonempty (Option.some.inj isKey)
            exact ⟨by simp, by simp [nonempty], fun other => absurd rfl other,
              fun _ => .inr rfl, fun _ => .inr rfl⟩
          · cases resolved

/-- Verification is skipped only for an `https` upstream. -/
theorem https_of_skipTlsVerify {currentScheme : UpstreamScheme} {currentSkip : Bool}
    {requestedScheme : Option String} {requestedSkip : Option Bool} {state : ServiceTransportState}
    (resolved : resolveUpdatedTransportState currentScheme currentSkip requestedScheme
      requestedSkip = .ok (some state)) (skip : state.skipTlsVerify = true) :
    state.upstreamScheme = .https := by
  have ofScheme : ∀ scheme : UpstreamScheme,
      (⟨scheme, if scheme = .https then requestedSkip.getD currentSkip else false⟩ :
        ServiceTransportState) = state → state.upstreamScheme = .https := by
    rintro scheme rfl
    by_contra other
    simp only at skip other
    simp [other] at skip
  unfold resolveUpdatedTransportState at resolved
  cases requestedScheme with
  | some text =>
      obtain ⟨scheme, -, isState⟩ := bind_eq_ok.mp resolved
      exact ofScheme scheme (Option.some.inj (Except.ok.inj isState))
  | none =>
      cases requestedSkip with
      | none => cases resolved
      | some requested => exact ofScheme currentScheme (Option.some.inj (Except.ok.inj resolved))

end Policies

section Operations

namespace Service

theorem invariant_of_create {arguments : ServiceCreateArguments} {id : Uuid} {generated : String}
    {service : Service} (created : Service.create arguments id generated = .ok service) :
    service.Invariant := by
  simp only [Service.create, resolveCreatedAuthState, resolveCreatedTransportState, bind_eq_ok]
    at created
  obtain ⟨_, redirect, authState, ⟨authMode, -, _, basicAuth, isAuth⟩,
    transportState, ⟨scheme, -, isTransport⟩, ⟨average, burst⟩, rateLimit, domain, -, upstream, -,
    routingMode, -, message, -, moment, -, allowedIps, isAllowed, blockedPaths, isBlocked,
    customHeaders, isHeaders, basicAuthUsers, isUsers, templateIds, -, framePolicy, -, path, -,
    timeout, -, statuses, -, isService⟩ := created
  cases isAuth
  cases isTransport
  cases isService
  obtain ⟨key, noKey⟩ := apiKey_of_resolve authMode arguments.apiKey generated
  refine
    { httpsRedirect := httpsRedirect_of_allowed redirect
      authEnabled := by simp
      apiKey := key
      noApiKey := noKey
      basicAuth := ?_
      authentikGroup := ?_
      skipTlsVerify := ?_
      rateLimit := rateLimit_result rateLimit
      allowedIps := allowedIps_tidy isAllowed
      blockedPaths := blockedPaths_tidy isBlocked
      customHeaders := customHeaders_valid isHeaders
      basicAuthUsers := basicAuthUsers_tidy isUsers }
  · intro users
    apply noBasicAuth_of_allowed basicAuth
    intro none
    rw [normalizeBasicAuthUsers, none] at isUsers
    cases isUsers
    exact users rfl
  · intro group
    by_contra other
    exact group (if_neg other)
  · intro skip
    by_contra other
    simp [other] at skip

theorem Invariant.updateTransport {service next : Service} {arguments : ServiceUpdateArguments}
    (invariant : service.Invariant) (updated : service.updateTransport arguments = .ok next) :
    next.Invariant := by
  have update := updateTransport_ok updated
  rw [update.rest]
  refine { invariant with httpsRedirect := ?_, skipTlsVerify := ?_ }
  · intro redirects
    simp only [update.httpsRedirectEnabled, update.tlsEnabled] at redirects ⊢
    cases requested : arguments.tlsEnabled with
    | none => exact invariant.httpsRedirect (by simpa [requested] using redirects)
    | some enabled =>
        cases enabled with
        | true => rfl
        | false => simp [requested] at redirects
  · obtain ⟨state, resolved, isScheme, isSkip⟩ := update.transport
    simp only [isScheme, isSkip]
    cases state with
    | none => exact invariant.skipTlsVerify
    | some state => exact https_of_skipTlsVerify resolved

theorem Invariant.updateAuth {service next : Service} {arguments : ServiceUpdateArguments}
    {generated : String} (invariant : service.Invariant)
    (updated : service.updateAuth arguments generated = .ok next) : next.Invariant := by
  have update := updateAuth_ok updated
  obtain ⟨state, resolved, isMode, isEnabled, isKey, isUsers, isGroup⟩ := update.auth
  rw [update.rest, isMode, isEnabled, isKey, isUsers, isGroup]
  cases state with
  | none => exact { invariant with }
  | some state =>
      have sound := soundAuthState resolved
      refine
        { invariant with
          authEnabled := sound.authEnabled
          apiKey := sound.apiKey
          noApiKey := sound.noApiKey
          basicAuth := ?_
          authentikGroup := ?_
          basicAuthUsers := ?_ }
      · intro users
        cases clears : state.clearBasicAuthUsers with
        | true => simp [clears] at users
        | false =>
            rcases sound.keptUsers clears with isNone | same
            · exact isNone
            · exact same.trans (invariant.basicAuth (by simpa [clears] using users))
      · intro group
        cases clears : state.clearAuthentikGroup with
        | true => simp [clears] at group
        | false =>
            rcases sound.keptGroup clears with isAuthentik | same
            · exact isAuthentik
            · exact same.trans (invariant.authentikGroup (by simpa [clears] using group))
      · by_cases clears : state.clearBasicAuthUsers = true
        · simp only [Option.map_some, Option.getD_some, clears, if_true]
          exact ⟨List.nodup_nil, by simp⟩
        · simp only [Option.map_some, Option.getD_some, clears]
          exact invariant.basicAuthUsers

/-- What holds of the current value and of every normalized one holds of the new value. -/
theorem changed_ok {α β : Type} {current new : β} {normalize : α → Except PyException β}
    {requested : Option α} (property : β → Prop) (kept : property current)
    (normalized : ∀ value result, normalize value = .ok result → property result)
    (done : changed current normalize requested = .ok new) : property new := by
  cases requested with
  | none =>
      cases done
      exact kept
  | some value => exact normalized value new done

theorem Invariant.updateAccess {service next : Service} {arguments : ServiceUpdateArguments}
    (invariant : service.Invariant) (updated : service.updateAccess arguments = .ok next) :
    next.Invariant := by
  have update := updateAccess_ok updated
  have users : Tidy IsBasicAuthUser next.basicAuthUsers ∧
      (next.basicAuthUsers ≠ [] → service.authMode = .none) := by
    refine changed_ok (fun users => Tidy IsBasicAuthUser users ∧
      (users ≠ [] → service.authMode = .none)) ⟨invariant.basicAuthUsers, invariant.basicAuth⟩
      ?_ update.basicAuthUsers
    intro requested result done
    simp only [normalizeAllowedBasicAuthUsers, bind_eq_ok] at done
    obtain ⟨normalized, isNormalized, _, allowed, isResult⟩ := done
    cases isResult
    refine ⟨basicAuthUsers_tidy isNormalized, fun some => ?_⟩
    by_contra authenticated
    have enabled := invariant.authEnabled.mpr authenticated
    simp [ensureBasicAuthAllowed, some, enabled] at allowed
  rw [update.rest]
  refine
    { invariant with
      httpsRedirect := ?_
      basicAuth := users.2
      authentikGroup := ?_
      rateLimit := ?_
      allowedIps :=
        changed_ok _ invariant.allowedIps (fun _ _ done => allowedIps_tidy done) update.allowedIps
      blockedPaths := changed_ok _ invariant.blockedPaths (fun _ _ done => blockedPaths_tidy done)
        update.blockedPaths
      customHeaders := changed_ok _ invariant.customHeaders (fun _ _ done => customHeaders_valid done)
        update.customHeaders
      basicAuthUsers := users.1 }
  · intro redirects
    have allowed := update.httpsRedirectAllowed
    simp only [update.httpsRedirectEnabled] at redirects
    unfold httpsRedirectCheck at allowed
    cases requested : arguments.httpsRedirectEnabled with
    | none => exact invariant.httpsRedirect (by simpa [requested] using redirects)
    | some enabled =>
        rw [requested] at allowed
        exact httpsRedirect_of_allowed allowed (by simpa [requested] using redirects)
  · intro group
    simp only [update.authentikGroupId, requestedGroupId] at group
    cases requested : arguments.authentikGroupId with
    | none => exact invariant.authentikGroup (by simpa [requested] using group)
    | some wanted =>
        by_contra other
        simp [requested, other] at group
  · have limits := update.rateLimit
    unfold Service.updateRateLimit at limits
    split at limits
    · obtain ⟨none, none'⟩ := Prod.ext_iff.mp (Except.ok.inj limits)
      exact .inl ⟨none.symm, none'.symm⟩
    · split at limits
      · obtain ⟨same, same'⟩ := Prod.ext_iff.mp (Except.ok.inj limits)
        simp only at same same'
        simpa only [← same, ← same'] using invariant.rateLimit
      · exact rateLimit_result limits

theorem Invariant.update {service next : Service} {arguments : ServiceUpdateArguments}
    {generated : String} (invariant : service.Invariant)
    (updated : service.update arguments generated = .ok next) : next.Invariant := by
  simp only [Service.update, bind_eq_ok] at updated
  obtain ⟨transported, isTransported, authenticated, isAuthenticated, isNext⟩ := updated
  exact ((invariant.updateTransport isTransported).updateAuth isAuthenticated).updateAccess isNext

/-- A service created successfully and then updated successfully any number of times. -/
inductive Built : Service → Prop
  | create {arguments : ServiceCreateArguments} {id : Uuid} {generated : String}
      {service : Service} (created : Service.create arguments id generated = .ok service) :
      Built service
  | update {service next : Service} {arguments : ServiceUpdateArguments} {generated : String}
      (built : Built service) (updated : service.update arguments generated = .ok next) : Built next

/-- Every service built by creation and updates keeps the invariant. -/
theorem Built.invariant {service : Service} (built : service.Built) : service.Invariant := by
  induction built with
  | create created => exact invariant_of_create created
  | update _ updated ih => exact ih.update updated

/-- **The aggregate invariant.** A service built by creation and any updates has it,
and every further update with any arguments raises or keeps it. -/
theorem invariant_of_every_call {service : Service} (built : service.Built) :
    service.Invariant ∧ ∀ (arguments : ServiceUpdateArguments) (generated : String),
      (∃ failure, service.update arguments generated = .error failure) ∨
        ∃ next, service.update arguments generated = .ok next ∧ next.Invariant := by
  refine ⟨built.invariant, fun arguments generated => ?_⟩
  cases outcome : service.update arguments generated with
  | error failure => exact .inl ⟨failure, rfl⟩
  | ok next => exact .inr ⟨next, rfl, built.invariant.update outcome⟩

theorem invariant_of_every_call_example :
    ∃ service : Service, service.authMode = .token ∧ service.allowedIps = ["10.0.0.0/8"] ∧
      service.Invariant := by
  have built : ((Service.create
        { name := "shop", domain := "a.com", upstreamHost := "app", upstreamPort := 8080,
          basicAuthUsers := some ["ann : h1 "] } ⟨1⟩ "").bind fun service =>
      service.update
        { authMode := some "token", allowedIps := some [" 10.1.2.3/8", "10.0.0.0/8"] } "key").map
      (fun service => (service.authMode, service.allowedIps)) = .ok (.token, ["10.0.0.0/8"]) := by
    decide
  obtain ⟨updated, isUpdated, fields⟩ := exists_of_map_ok built
  obtain ⟨created, isCreated, isNext⟩ := bind_eq_ok.mp isUpdated
  rw [Prod.mk.injEq] at fields
  exact ⟨updated, fields.1, fields.2,
    (invariant_of_every_call (.update (.create isCreated) isNext)).1⟩

end Service

end Operations

end TraefikManager.Domain
