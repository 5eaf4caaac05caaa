import TraefikManager.Domain.ServiceUpdate

/-!
# Requests for services

What a request to create or update a service carries, how the request schemas
check it, and how it becomes a call of the aggregate. A refused request raises an
error that names the field.
-/

namespace TraefikManager.Proxy

open Foundation Domain

structure BasicAuthCredential where
  username : String
  password : String := ""
  deriving DecidableEq, Repr

/-- The fields of `ServiceCreate`; a point in time is a text before validation. -/
structure ServiceCreateFields (Moment : Type) where
  name : String
  domain : String
  upstreamHost : String
  upstreamPort : Int
  routingMode : String := "active"
  maintenanceMessage : String := ""
  maintenanceUntil : Option Moment := none
  upstreamScheme : String := "http"
  skipTlsVerify : Bool := false
  tlsEnabled : Bool := true
  httpsRedirectEnabled : Bool := true
  authEnabled : Option Bool := none
  authMode : String := "none"
  apiKey : Option String := none
  basicAuthEnabled : Bool := false
  allowedIps : List String := []
  blockedPaths : List String := []
  middlewareTemplateIds : List String := []
  rateLimitAverage : Option Int := none
  rateLimitBurst : Option Int := none
  customHeaders : Dict String String := Dict.empty
  framePolicy : String := "deny"
  healthcheckEnabled : Bool := true
  healthcheckPath : String := defaultHealthcheckPath
  healthcheckTimeoutMs : Int := defaultHealthcheckTimeoutMs
  healthcheckExpectedStatuses : List Int := []
  basicAuthCredentials : List BasicAuthCredential := []
  authentikGroupId : Option String := none

/-- The submitted fields of `ServiceUpdate`. A field whose `null` differs from its
absence is submitted with or without a value. -/
structure ServiceUpdateFields (Moment : Type) where
  name : Option String := none
  upstreamHost : Option (Option String) := none
  upstreamPort : Option Int := none
  routingMode : Option String := none
  maintenanceMessage : Option String := none
  maintenanceUntil : Option (Option Moment) := none
  upstreamScheme : Option String := none
  skipTlsVerify : Option Bool := none
  tlsEnabled : Option Bool := none
  httpsRedirectEnabled : Option Bool := none
  authEnabled : Option Bool := none
  authMode : Option String := none
  apiKey : Option String := none
  basicAuthEnabled : Option Bool := none
  allowedIps : Option (List String) := none
  blockedPaths : Option (List String) := none
  middlewareTemplateIds : Option (List String) := none
  rateLimitEnabled : Option Bool := none
  rateLimitAverage : Option Int := none
  rateLimitBurst : Option Int := none
  customHeaders : Option (Dict String String) := none
  framePolicy : Option String := none
  healthcheckEnabled : Option Bool := none
  healthcheckPath : Option String := none
  healthcheckTimeoutMs : Option Int := none
  healthcheckExpectedStatuses : Option (List Int) := none
  basicAuthCredentials : Option (Option (List BasicAuthCredential)) := none
  authentikGroupId : Option (Option String) := none
  deriving DecidableEq, Repr

abbrev ServiceCreate := ServiceCreateFields Datetime

abbrev ServiceUpdate := ServiceUpdateFields Datetime

section Schemas

/-- A check of a field; whatever it raises is reported for the field. -/
def ofField {α : Type} (field : String) (result : Except PyException α) : Except PyException α :=
  result.mapError fun _ => .validationError field

/-- A check of a field that may be absent. -/
def ofOptionalField {α β : Type} (field : String) (check : α → Except PyException β) :
    Option α → Except PyException (Option β)
  | none => .ok none
  | some value => (ofField field (check value)).map some

/-- A check that keeps the value it accepts. -/
def accept {α : Type} (field : String) (condition : Bool) (value : α) : Except PyException α :=
  if condition then .ok value else .error (.validationError field)

/-- A text among those of an enumeration. -/
def validateChoice {α : Type} (field : String) (all : List α) (text : α → String)
    (value : String) : Except PyException String :=
  accept field (all.any fun member => text member = value) value

/-- `AwareDatetime`, given how points in time are read. -/
def awareDatetime (parse : String → Option Datetime) (field text : String) :
    Except PyException Datetime :=
  match parse text with
  | some moment => accept field moment.aware moment
  | none => .error (.validationError field)

/-- `normalize_authentik_group_id`: a blank group counts as none. -/
def normalizeAuthentikGroupId (value : Option String) : Option String :=
  match value with
  | none => none
  | some text => if Text.strip text = "" then none else some (Text.strip text)

/-- `validate_rate_limit_value`. -/
def validateRateLimitValue (field : String) (value : Int) : Except PyException Int :=
  accept field (0 < value) value

/-- The checks of `BasicAuthCredential`. -/
def validateBasicAuthCredential (credential : BasicAuthCredential) :
    Except PyException BasicAuthCredential := do
  let username := Text.strip credential.username
  let _ ← accept "basic_auth_credentials.username"
    (username ≠ "" && !Text.containsChar ':' username && !hasLineEnd username) username
  let _ ← accept "basic_auth_credentials.password" (!hasLineEnd credential.password)
    credential.password
  pure { credential with username }

/-- `validate_blocked_paths`. -/
def validateBlockedPaths (values : List String) : Except PyException (List String) :=
  accept "blocked_paths" (values.all (Text.startsWith "/")) values

/-- A model none of whose rules is broken, else the error of the first broken one. -/
def unlessBroken {α : Type} (rules : List (String × Bool)) (model : α) : Except PyException α :=
  match rules.find? (·.2) with
  | some (field, _) => .error (.validationError field)
  | none => .ok model

/-- `validate_service_create_cross_fields`. -/
def validateServiceCreateCrossFields (model : ServiceCreate) : Except PyException ServiceCreate :=
  let authMode :=
    if model.authMode = "none" ∧ model.authEnabled = some true then "authentik" else model.authMode
  unlessBroken
    [("https_redirect_enabled", model.httpsRedirectEnabled && !model.tlsEnabled),
     ("authentik_group_id", authMode ≠ "authentik" ∧ orText model.authentikGroupId none ≠ none),
     ("basic_auth_enabled", authMode ≠ "none" ∧ model.basicAuthEnabled),
     ("basic_auth_credentials", model.basicAuthEnabled ∧ model.basicAuthCredentials = []),
     ("basic_auth_credentials", ¬model.basicAuthEnabled ∧ model.basicAuthCredentials ≠ []),
     ("rate_limit_average", model.rateLimitAverage.isNone ≠ model.rateLimitBurst.isNone)]
    { model with authMode }

/-- `ServiceCreate(**payload)`. -/
def ServiceCreate.validate (parse : String → Option Datetime) (raw : ServiceCreateFields String) :
    Except PyException ServiceCreate := do
  let domain ← ofField "domain" ((DomainName.make raw.domain).map (·.value))
  let upstreamPort ← accept "upstream_port" (1 ≤ raw.upstreamPort && raw.upstreamPort ≤ 65535)
    raw.upstreamPort
  let routingMode ← validateChoice "routing_mode" RoutingMode.all RoutingMode.text raw.routingMode
  let maintenanceMessage ← accept "maintenance_message"
    (raw.maintenanceMessage.length ≤ maintenanceMessageMaxLength) raw.maintenanceMessage
  let maintenanceUntil ← ofOptionalField "maintenance_until"
    (awareDatetime parse "maintenance_until") raw.maintenanceUntil
  let upstreamScheme ← validateChoice "upstream_scheme" UpstreamScheme.all UpstreamScheme.text
    raw.upstreamScheme
  let authMode ← validateChoice "auth_mode" AuthMode.all AuthMode.text raw.authMode
  let allowedIps ← ofField "allowed_ips" (normalizeAllowedIps (some raw.allowedIps))
  let blockedPaths ← validateBlockedPaths raw.blockedPaths
  let middlewareTemplateIds ← ofField "middleware_template_ids"
    (normalizeMiddlewareTemplateIds (some raw.middlewareTemplateIds))
  let rateLimitAverage ← ofOptionalField "rate_limit_average"
    (validateRateLimitValue "rate_limit_average") raw.rateLimitAverage
  let rateLimitBurst ← ofOptionalField "rate_limit_burst"
    (validateRateLimitValue "rate_limit_burst") raw.rateLimitBurst
  let customHeaders ← ofField "custom_headers" (normalizeCustomHeaders (some raw.customHeaders))
  let framePolicy ← validateChoice "frame_policy" FramePolicy.all FramePolicy.text raw.framePolicy
  let healthcheckPath ← ofField "healthcheck_path" (normalizeHealthcheckPath raw.healthcheckPath)
  let healthcheckTimeoutMs ← ofField "healthcheck_timeout_ms"
    (normalizeHealthcheckTimeoutMs raw.healthcheckTimeoutMs)
  let healthcheckExpectedStatuses ← ofField "healthcheck_expected_statuses"
    (normalizeHealthcheckExpectedStatuses (some raw.healthcheckExpectedStatuses))
  let basicAuthCredentials ← raw.basicAuthCredentials.mapM validateBasicAuthCredential
  validateServiceCreateCrossFields
    { name := raw.name, domain, upstreamHost := raw.upstreamHost, upstreamPort, routingMode
      maintenanceMessage, maintenanceUntil, upstreamScheme
      skipTlsVerify := raw.skipTlsVerify
      tlsEnabled := raw.tlsEnabled
      httpsRedirectEnabled := raw.httpsRedirectEnabled
      authEnabled := raw.authEnabled
      authMode
      apiKey := raw.apiKey
      basicAuthEnabled := raw.basicAuthEnabled
      allowedIps, blockedPaths, middlewareTemplateIds, rateLimitAverage, rateLimitBurst
      customHeaders, framePolicy
      healthcheckEnabled := raw.healthcheckEnabled
      healthcheckPath, healthcheckTimeoutMs, healthcheckExpectedStatuses, basicAuthCredentials
      authentikGroupId := normalizeAuthentikGroupId raw.authentikGroupId }

/-- The mode an update asks for; the older switch counts when no mode is given. -/
def requestedAuthMode (authMode : Option String) (authEnabled : Option Bool) : Option String :=
  match authMode, authEnabled with
  | none, some enabled => some (if enabled then "authentik" else "none")
  | mode, _ => mode

/-- `validate_service_update_cross_fields`. -/
def validateServiceUpdateCrossFields (model : ServiceUpdate) : Except PyException ServiceUpdate :=
  let authMode := requestedAuthMode model.authMode model.authEnabled
  let credentials := model.basicAuthCredentials.getD none
  unlessBroken
    [("https_redirect_enabled",
        model.httpsRedirectEnabled = some true ∧ model.tlsEnabled = some false),
     ("authentik_group_id",
        (authMode.any (· ≠ "authentik")) ∧
          orText (model.authentikGroupId.getD none) none ≠ none),
     ("basic_auth_enabled", (authMode.any (· ≠ "none")) ∧ model.basicAuthEnabled = some true),
     ("basic_auth_credentials",
        model.basicAuthEnabled = some false ∧ credentials.getD [] ≠ []),
     ("basic_auth_credentials", model.basicAuthEnabled = some true ∧ credentials = some []),
     ("rate_limit_enabled",
        model.rateLimitEnabled = some true ∧
          (model.rateLimitAverage = none ∨ model.rateLimitBurst = none)),
     ("rate_limit_enabled",
        model.rateLimitEnabled = some false ∧
          (model.rateLimitAverage ≠ none ∨ model.rateLimitBurst ≠ none))]
    { model with authMode }

/-- `ServiceUpdate(**payload)`. -/
def ServiceUpdate.validate (parse : String → Option Datetime) (raw : ServiceUpdateFields String) :
    Except PyException ServiceUpdate := do
  let routingMode ← ofOptionalField "routing_mode"
    (validateChoice "routing_mode" RoutingMode.all RoutingMode.text) raw.routingMode
  let maintenanceMessage ← ofOptionalField "maintenance_message"
    (fun text => accept "maintenance_message" (text.length ≤ maintenanceMessageMaxLength) text)
    raw.maintenanceMessage
  let maintenanceUntil ← ofOptionalField "maintenance_until"
    (ofOptionalField "maintenance_until" (awareDatetime parse "maintenance_until"))
    raw.maintenanceUntil
  let upstreamScheme ← ofOptionalField "upstream_scheme"
    (validateChoice "upstream_scheme" UpstreamScheme.all UpstreamScheme.text) raw.upstreamScheme
  let authMode ← ofOptionalField "auth_mode"
    (validateChoice "auth_mode" AuthMode.all AuthMode.text) raw.authMode
  let allowedIps ← ofOptionalField "allowed_ips" (normalizeAllowedIps ∘ some) raw.allowedIps
  let middlewareTemplateIds ← ofOptionalField "middleware_template_ids"
    (normalizeMiddlewareTemplateIds ∘ some) raw.middlewareTemplateIds
  let rateLimitAverage ← ofOptionalField "rate_limit_average"
    (validateRateLimitValue "rate_limit_average") raw.rateLimitAverage
  let rateLimitBurst ← ofOptionalField "rate_limit_burst"
    (validateRateLimitValue "rate_limit_burst") raw.rateLimitBurst
  let customHeaders ← ofOptionalField "custom_headers" (normalizeCustomHeaders ∘ some)
    raw.customHeaders
  let framePolicy ← ofOptionalField "frame_policy"
    (validateChoice "frame_policy" FramePolicy.all FramePolicy.text) raw.framePolicy
  let healthcheckPath ← ofOptionalField "healthcheck_path" normalizeHealthcheckPath
    raw.healthcheckPath
  let healthcheckTimeoutMs ← ofOptionalField "healthcheck_timeout_ms"
    normalizeHealthcheckTimeoutMs raw.healthcheckTimeoutMs
  let healthcheckExpectedStatuses ← ofOptionalField "healthcheck_expected_statuses"
    (normalizeHealthcheckExpectedStatuses ∘ some) raw.healthcheckExpectedStatuses
  let basicAuthCredentials ← ofOptionalField "basic_auth_credentials"
    (ofOptionalField "basic_auth_credentials" (·.mapM validateBasicAuthCredential))
    raw.basicAuthCredentials
  validateServiceUpdateCrossFields
    { raw with
      routingMode, maintenanceMessage, maintenanceUntil, upstreamScheme, authMode, allowedIps
      middlewareTemplateIds, rateLimitAverage, rateLimitBurst, customHeaders, framePolicy
      healthcheckPath, healthcheckTimeoutMs, healthcheckExpectedStatuses, basicAuthCredentials
      authentikGroupId := raw.authentikGroupId.map normalizeAuthentikGroupId }

end Schemas

section BasicAuth

/-- The stored hash of each user name; of two entries the later one counts. -/
def existingHashes (existingUsers : List String) : Dict String String :=
  Dict.ofList ((existingUsers.filter (Text.containsChar ':')).map fun user =>
    (String.ofList (user.toList.takeWhile (· ≠ ':')),
      String.ofList ((user.toList.dropWhile (· ≠ ':')).drop 1)))

/-- The loop of `hash_basic_auth_credentials`, with the user names seen so far. -/
def hashCredentials (hash : String → String) (existing : Dict String String) :
    List String → List BasicAuthCredential → Except PyException (List String)
  | _, [] => .ok []
  | seen, item :: rest =>
      let username := Text.strip item.username
      if username = "" then hashCredentials hash existing seen rest
      else if username ∈ seen then
        .error (.valueError ("중복된 Basic Auth 사용자 이름입니다: " ++ username))
      else do
        let passwordHash ←
          if item.password ≠ "" then .ok (hash item.password)
          else match existing.get? username with
            | some known => .ok known
            | none =>
                .error (.valueError ("새 사용자 '" ++ username ++ "'의 비밀번호를 입력해야 합니다"))
        let users ← hashCredentials hash existing (username :: seen) rest
        pure ((username ++ ":" ++ passwordHash) :: users)

/-- `hash_basic_auth_credentials`. -/
def hashBasicAuthCredentials (hash : String → String) (credentials : List BasicAuthCredential)
    (existingUsers : List String) : Except PyException (List String) :=
  hashCredentials hash (existingHashes existingUsers) [] credentials

end BasicAuth

section Mapper

/-- The basic authentication users of a service to create. -/
def createdBasicAuthUsers (hash : String → String) (data : ServiceCreate) :
    Except PyException (List String) :=
  if data.basicAuthEnabled then hashBasicAuthCredentials hash data.basicAuthCredentials []
  else .ok []

/-- `create_service_from_payload`. -/
def createServiceFromPayload (hash : String → String) (data : ServiceCreate) (id : Uuid)
    (generated : String) : Except PyException Service := do
  let basicAuthUsers ← createdBasicAuthUsers hash data
  Service.create
    { name := data.name
      domain := data.domain
      upstreamHost := data.upstreamHost
      upstreamPort := data.upstreamPort
      routingMode := data.routingMode
      maintenanceMessage := data.maintenanceMessage
      maintenanceUntil := data.maintenanceUntil
      tlsEnabled := data.tlsEnabled
      authMode := data.authMode
      apiKey := data.apiKey
      httpsRedirectEnabled := data.httpsRedirectEnabled
      allowedIps := some data.allowedIps
      blockedPaths := some data.blockedPaths
      rateLimitAverage := data.rateLimitAverage
      rateLimitBurst := data.rateLimitBurst
      customHeaders := some data.customHeaders
      basicAuthUsers := some basicAuthUsers
      middlewareTemplateIds := some data.middlewareTemplateIds
      authentikGroupId := data.authentikGroupId
      upstreamScheme := data.upstreamScheme
      skipTlsVerify := data.skipTlsVerify
      framePolicy := data.framePolicy
      healthcheckEnabled := data.healthcheckEnabled
      healthcheckPath := data.healthcheckPath
      healthcheckTimeoutMs := data.healthcheckTimeoutMs
      healthcheckExpectedStatuses := some data.healthcheckExpectedStatuses } id generated

/-- Enabling basic authentication needs users, unless the service has some. -/
def ensureCredentialsGiven (service : Service) (payload : ServiceUpdate) : Except PyException Unit :=
  if payload.basicAuthEnabled = some true ∧ ¬service.basicAuthEnabled ∧
      payload.basicAuthCredentials = none then
    .error (.valueError "Basic Auth를 활성화하려면 사용자 이름과 비밀번호를 입력해야 합니다")
  else
    .ok ()

/-- `_resolve_basic_auth_users`. -/
def resolveBasicAuthUsers (hash : String → String) (service : Service) (payload : ServiceUpdate) :
    Except PyException (Option (List String)) :=
  if payload.basicAuthEnabled = some false then .ok (some [])
  else match payload.basicAuthCredentials with
    | none => .ok none
    | some credentials =>
        (hashBasicAuthCredentials hash (credentials.getD []) service.basicAuthUsers).map some

/-- The call of `Service.update` an update request makes. -/
def updateArguments (payload : ServiceUpdate) (basicAuthUsers : Option (List String)) :
    ServiceUpdateArguments :=
  { name := payload.name
    upstreamHost := payload.upstreamHost.getD none
    upstreamPort := payload.upstreamPort
    routingMode := payload.routingMode
    maintenanceMessage := payload.maintenanceMessage
    maintenanceUntil := payload.maintenanceUntil.getD none
    clearMaintenanceUntil := payload.maintenanceUntil = some none
    tlsEnabled := payload.tlsEnabled
    authMode := payload.authMode
    apiKey := payload.apiKey
    httpsRedirectEnabled := payload.httpsRedirectEnabled
    allowedIps := payload.allowedIps
    blockedPaths := payload.blockedPaths
    rateLimitAverage := payload.rateLimitAverage
    rateLimitBurst := payload.rateLimitBurst
    customHeaders := payload.customHeaders
    basicAuthUsers
    middlewareTemplateIds := payload.middlewareTemplateIds
    clearRateLimit := payload.rateLimitEnabled = some false
    upstreamScheme := payload.upstreamScheme
    skipTlsVerify := payload.skipTlsVerify
    framePolicy := payload.framePolicy
    healthcheckEnabled := payload.healthcheckEnabled
    healthcheckPath := payload.healthcheckPath
    healthcheckTimeoutMs := payload.healthcheckTimeoutMs
    healthcheckExpectedStatuses := payload.healthcheckExpectedStatuses }

/-- The group of a service after an update request; only an Authentik service has one. -/
def assignAuthentikGroup (service : Service) (payload : ServiceUpdate) : Service :=
  match payload.authentikGroupId with
  | none => service
  | some group =>
      { service with authentikGroupId := if service.authMode = .authentik then group else none }

/-- `apply_service_update_payload`. -/
def applyServiceUpdatePayload (hash : String → String) (service : Service)
    (payload : ServiceUpdate) (generated : String) : Except PyException Service := do
  ensureCredentialsGiven service payload
  let basicAuthUsers ← resolveBasicAuthUsers hash service payload
  let updated ← service.update (updateArguments payload basicAuthUsers) generated
  pure (assignAuthentikGroup updated payload)

end Mapper

end TraefikManager.Proxy
