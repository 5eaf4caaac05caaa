import TraefikManager.Traefik.Routing
import TraefikManager.Traefik.SharedConfig

/-!
# What stands between a request and the upstream

The router to the upstream carries every access control its service configures.
The routers of blocked paths and of the redirect to `https` name the same backend
and carry a middleware that never lets a request through to it. The allowlist is
the first access control of every router but the one to the Authentik outpost.
-/

namespace TraefikManager.Traefik

open Foundation Domain

section Attachments

variable {settings : Settings} {service : Service} {middlewareTemplates : List MiddlewareTemplate}
  {routerName : String}

/-- What is attached to the router of a service is listed there and defined beside it. -/
theorem defined_of_own {name : String} {definition : Middleware}
    (attached : .own name definition ∈
      serviceAttachments settings (toSafeName service.domain.value) service middlewareTemplates) :
    name ∈ routerMiddlewares settings service middlewareTemplates ∧
      (buildServiceConfig settings service middlewareTemplates).middlewares.get? name =
        some definition := by
  refine ⟨List.mem_map.mpr ⟨_, attached, rfl⟩, ?_⟩
  rw [get?_serviceMiddlewares, serviceMiddlewares, List.mem_append, List.mem_append]
  exact .inl (.inl (mem_attachedDefinitions attached))

/-- The shared middlewares of a router are templates and the Authentik middleware. -/
theorem shared_cases {name : String}
    (attached : .shared name ∈ serviceAttachments settings routerName service middlewareTemplates) :
    (name = "authentik" ∧ service.authMode = .authentik) ∨
      ∃ template ∈ middlewareTemplates, name = template.sharedName := by
  simp only [serviceAttachments, List.mem_append] at attached
  rcases attached with (((((allowlist | rate) | headers) | frame) | basicAuth) | templates) | auth
  · unfold ipAllowlistAttachment at allowlist
    split at allowlist <;> simp at allowlist
  · unfold rateLimitAttachment at rate
    split at rate <;> simp at rate
  · unfold customHeadersAttachment at headers
    split at headers <;> simp at headers
  · unfold framePolicyAttachment at frame
    split at frame <;> simp at frame
  · unfold basicAuthAttachment at basicAuth
    split at basicAuth <;> simp at basicAuth
  · obtain ⟨template, listed, same⟩ := List.mem_map.mp templates
    cases same
    exact .inr ⟨template, listed, rfl⟩
  · unfold authAttachment at auth
    split at auth
    · simp at auth
    · rename_i mode
      exact .inl ⟨by simpa using auth, mode⟩
    · simp at auth

end Attachments

section OpenRoutes

variable (settings : Settings)

/-- The address of the upstream of a service. -/
def upstreamUrl (service : Service) : String :=
  service.upstreamScheme.text ++ "://" ++ service.upstream.text

/-- A router whose backend is the upstream of the service. -/
def LeadsToUpstream (config : HttpConfig) (service : Service) (router : Router) : Prop :=
  ∃ balancer, config.services.get? router.service = some balancer ∧
    balancer.url = upstreamUrl service

/-- A router that carries every access control its service configures. -/
structure Protects (service : Service) (middlewareTemplates : List MiddlewareTemplate)
    (config : HttpConfig) (router : Router) : Prop where
  allowlist : service.allowedIps ≠ [] → ∃ name ∈ router.middlewares,
    config.middlewares.get? name = some (.ipAllowList service.allowedIps)
  basicAuth : service.basicAuthUsers ≠ [] → ∃ name ∈ router.middlewares,
    config.middlewares.get? name = some (.basicAuth service.basicAuthUsers)
  token : service.authMode = .token → ∃ name ∈ router.middlewares,
    config.middlewares.get? name = some (tokenForwardAuth settings)
  authentik : service.authMode = .authentik → authentikMiddleware ∈ router.middlewares
  templates : ∀ template ∈ middlewareTemplates,
    template.sharedName ++ "@file" ∈ router.middlewares

/-- A middleware defined in the document itself or in a shared file. -/
def IsDefined (config : HttpConfig) (storedTemplates : List MiddlewareTemplate) (name : String) :
    Prop :=
  name ∈ config.middlewares.keys ∨
    ∃ base, name = base ++ "@file" ∧
      (base ∈ (generateSharedMiddlewareTemplates storedTemplates).middlewares.keys ∨
        base ∈ authentikForwardAuthConfig.middlewares.keys)

private theorem isDefined_of_get? {config : HttpConfig} {storedTemplates : List MiddlewareTemplate}
    {name : String} {definition : Middleware}
    (defined : config.middlewares.get? name = some definition) :
    IsDefined config storedTemplates name :=
  .inl (Dict.mem_keys_iff.mpr ⟨definition, defined⟩)

private theorem mem_keys_sharedTemplates {storedTemplates : List MiddlewareTemplate}
    {template : MiddlewareTemplate} (stored : template ∈ storedTemplates) :
    template.sharedName ∈ (generateSharedMiddlewareTemplates storedTemplates).middlewares.keys := by
  rw [generateSharedMiddlewareTemplates, Dict.mem_keys_ofList, List.map_map]
  exact List.mem_map.mpr ⟨template, (List.mem_insertionSort _).mpr stored, rfl⟩

/-- The router to the upstream carries every access control. -/
theorem protects_secureRouter (service : Service) (middlewareTemplates : List MiddlewareTemplate) :
    Protects settings service middlewareTemplates
      (buildServiceConfig settings service middlewareTemplates)
      (secureRouter settings (toSafeName service.domain.value) service
        (routerMiddlewares settings service middlewareTemplates)).2 := by
  let routerName := toSafeName service.domain.value
  let attachments := serviceAttachments settings routerName service middlewareTemplates
  have carried : ∀ {name : String} {definition : Middleware},
      .own name definition ∈ attachments →
        ∃ listed ∈ routerMiddlewares settings service middlewareTemplates,
          (buildServiceConfig settings service middlewareTemplates).middlewares.get? listed =
            some definition :=
    fun attached => ⟨_, (defined_of_own attached).1, (defined_of_own attached).2⟩
  simp only [secureRouter]
  constructor <;> rw [assignEntrypoint_middlewares]
  · intro configured
    have attached : .own (middlewareName routerName "ipallowlist")
        (.ipAllowList service.allowedIps) ∈ attachments := by
      simp [attachments, serviceAttachments, ipAllowlistAttachment, configured]
    exact carried attached
  · intro configured
    have attached : .own (middlewareName routerName "basicauth")
        (.basicAuth service.basicAuthUsers) ∈ attachments := by
      simp [attachments, serviceAttachments, basicAuthAttachment, configured]
    exact carried attached
  · intro mode
    have attached : .own (middlewareName routerName tokenAuthMiddlewareSuffix)
        (tokenForwardAuth settings) ∈ attachments := by
      simp [attachments, serviceAttachments, authAttachment, mode]
    exact carried attached
  · intro mode
    have attached : .shared "authentik" ∈ attachments := by
      simp [attachments, serviceAttachments, authAttachment, mode]
    exact List.mem_map.mpr ⟨_, attached, rfl⟩
  · intro template listed
    have attached : .shared template.sharedName ∈ attachments := by
      simp only [attachments, serviceAttachments, List.mem_append]
      exact .inl (.inr (List.mem_map.mpr ⟨template, listed, rfl⟩))
    exact List.mem_map.mpr ⟨_, attached, rfl⟩

/-- Everything the router to the upstream carries is defined. -/
theorem isDefined_of_mem_routerMiddlewares {service : Service}
    {middlewareTemplates storedTemplates : List MiddlewareTemplate}
    (stored : ∀ template ∈ middlewareTemplates, template ∈ storedTemplates) {name : String}
    (member : name ∈ routerMiddlewares settings service middlewareTemplates) :
    IsDefined (buildServiceConfig settings service middlewareTemplates) storedTemplates name := by
  obtain ⟨attachment, attached, rfl⟩ := List.mem_map.mp member
  cases attachment with
  | own name definition => exact isDefined_of_get? (defined_of_own attached).2
  | shared base =>
      refine .inr ⟨base, rfl, ?_⟩
      rcases shared_cases attached with ⟨rfl, -⟩ | ⟨template, listed, rfl⟩
      · exact .inr (by decide)
      · exact .inl (mem_keys_sharedTemplates (stored template listed))

/-- What is attached to a router of the maintenance document is defined there. -/
theorem isDefined_of_mem_maintenance {service : Service}
    {storedTemplates : List MiddlewareTemplate} {attachments : List Attachment}
    (included : attachments ⊆ maintenanceAttachments (toSafeName service.domain.value) service)
    {name : String} (member : name ∈ attachedNames attachments) :
    IsDefined (buildMaintenanceServiceConfig settings service) storedTemplates name := by
  obtain ⟨attachment, attached, rfl⟩ := List.mem_map.mp member
  have listed := included attached
  obtain ⟨own, definition, rfl⟩ : ∃ own definition, attachment = .own own definition := by
    simp only [maintenanceAttachments, maintenanceReplacePath, maintenanceAllowlist,
      maintenanceContext, maintenanceRedirect, List.mem_cons, List.mem_append] at listed
    rcases listed with replacePath | (allowlist | context) | redirect
    · exact ⟨_, _, replacePath⟩
    · split at allowlist
      · cases allowlist
      · exact ⟨_, _, List.mem_singleton.mp allowlist⟩
    · split at context
      · cases context
      · exact ⟨_, _, List.mem_singleton.mp context⟩
    · split at redirect
      · exact ⟨_, _, List.mem_singleton.mp redirect⟩
      · cases redirect
  exact isDefined_of_get? (get?_maintenanceMiddlewares.mpr (mem_attachedDefinitions listed))

/-- What a router of a service may be. -/
structure IsGuarded (service : Service) (middlewareTemplates storedTemplates : List MiddlewareTemplate)
    (config : HttpConfig) (router : Router) : Prop where
  defined : ∀ name ∈ router.middlewares, IsDefined config storedTemplates name
  upstream : LeadsToUpstream config service router →
    Protects settings service middlewareTemplates config router ∨
      IsBlockRouter config (toSafeName service.domain.value) router ∨
      RedirectsToHttps config router
  elsewhere : ¬LeadsToUpstream config service router →
    router.service = authentikOutpostService ∨ router.service = managerFrontendService ∨
      RedirectsToHttps config router

private theorem leadsToUpstream_iff {service : Service}
    {middlewareTemplates : List MiddlewareTemplate} {router : Router} :
    LeadsToUpstream (buildServiceConfig settings service middlewareTemplates) service router ↔
      router.service = toSafeName service.domain.value := by
  simp only [LeadsToUpstream, Dict.get?_eq_some_iff, buildServiceConfig]
  rw [Dict.entries_ofList (by simp)]
  constructor
  · rintro ⟨balancer, listed, -⟩
    exact congrArg Prod.fst (List.mem_singleton.mp listed)
  · intro same
    rw [same]
    refine ⟨_, List.mem_singleton_self _, ?_⟩
    rfl

/-- The Authentik outpost is no backend of a service document. -/
theorem toSafeName_ne_outpost (domain : DomainName) :
    toSafeName domain.value ≠ authentikOutpostService := by
  intro same
  have member : '@' ∈ (toSafeName domain.value).toList := by
    rw [same]
    decide
  have := mem_toSafeName member
  revert this
  decide

private theorem isGuarded_active {service : Service}
    {middlewareTemplates storedTemplates : List MiddlewareTemplate}
    (stored : ∀ template ∈ middlewareTemplates, template ∈ storedTemplates) {name : String}
    {router : Router}
    (listed : (buildServiceConfig settings service middlewareTemplates).routers.get? name =
      some router) :
    IsGuarded settings service middlewareTemplates storedTemplates
      (buildServiceConfig settings service middlewareTemplates) router := by
  rw [get?_serviceRouters, mem_serviceRouters] at listed
  simp only [Prod.ext_iff] at listed
  rcases listed with ⟨-, rfl⟩ | ⟨index, path, found, -, rfl⟩ | ⟨redirects, -, rfl⟩ | ⟨-, -, rfl⟩
  · constructor
    · intro carried member
      rw [secureRouter, assignEntrypoint_middlewares] at member
      exact isDefined_of_mem_routerMiddlewares settings stored member
    · exact fun _ => .inl (protects_secureRouter settings service middlewareTemplates)
    · intro elsewhere
      refine absurd ?_ elsewhere
      rw [leadsToUpstream_iff, secureRouter, assignEntrypoint_service]
  · have blocks := isBlockRouter_of_blockedPath settings found middlewareTemplates
    constructor
    · intro carried member
      rw [blocks.carries, List.mem_singleton] at member
      rw [member]
      exact isDefined_of_get? blocks.refuses
    · exact fun _ => .inr (.inl blocks)
    · intro elsewhere
      refine absurd ?_ elsewhere
      rw [leadsToUpstream_iff, blockedPathRouter, assignEntrypoint_service]
  · have redirect : (buildServiceConfig settings service middlewareTemplates).middlewares.get?
        (middlewareName (toSafeName service.domain.value) "redirectscheme") =
          some (.redirectScheme "https" true) := by
      rw [get?_serviceMiddlewares, serviceMiddlewares, List.mem_append, httpsRedirectMiddleware,
        if_pos redirects]
      exact .inr List.mem_cons_self
    have redirecting : RedirectsToHttps (buildServiceConfig settings service middlewareTemplates)
        (httpsRedirectRouter (toSafeName service.domain.value) service).2 :=
      ⟨rfl, _, by simp [httpsRedirectRouter], redirect⟩
    constructor
    · intro carried member
      rw [httpsRedirectRouter, List.mem_append, List.mem_singleton] at member
      rcases member with allowlist | rfl
      · refine isDefined_of_mem_routerMiddlewares settings stored ?_
        refine List.map_subset _ ?_ allowlist
        intro attachment attached
        simp [serviceAttachments, attached]
      · exact isDefined_of_get? redirect
    · exact fun _ => .inr (.inr redirecting)
    · exact fun _ => .inr (.inr redirecting)
  · constructor
    · intro carried member
      simp [authentikOutpostRouter] at member
    · intro leads
      rw [leadsToUpstream_iff, authentikOutpostRouter, assignEntrypoint_service] at leads
      exact absurd leads.symm (toSafeName_ne_outpost service.domain)
    · exact fun _ => .inl (by simp [authentikOutpostRouter])

private theorem isGuarded_maintenance {service : Service}
    {middlewareTemplates storedTemplates : List MiddlewareTemplate} {name : String}
    {router : Router}
    (listed : (buildMaintenanceServiceConfig settings service).routers.get? name = some router) :
    IsGuarded settings service middlewareTemplates storedTemplates
      (buildMaintenanceServiceConfig settings service) router := by
  have noUpstream : ¬LeadsToUpstream (buildMaintenanceServiceConfig settings service) service
      router := by
    rintro ⟨balancer, found, -⟩
    simp [buildMaintenanceServiceConfig] at found
  rw [get?_maintenanceRouters, mem_maintenanceRouters] at listed
  simp only [Prod.ext_iff] at listed
  rcases listed with ⟨-, rfl⟩ | ⟨-, rfl⟩ | ⟨redirects, -, rfl⟩
  · refine ⟨fun carried member => ?_, fun leads => absurd leads noUpstream, fun _ => ?_⟩
    · rw [maintenanceRouter, assignEntrypoint_middlewares] at member
      refine isDefined_of_mem_maintenance settings ?_ member
      intro attachment attached
      rw [List.mem_append, List.mem_cons] at attached
      rw [maintenanceAttachments, List.mem_cons, List.mem_append, List.mem_append]
      rcases attached with allowlist | replacePath | context
      · exact .inr (.inl (.inl allowlist))
      · exact .inl replacePath
      · exact .inr (.inl (.inr context))
    · exact .inr (.inl (by simp [maintenanceRouter]))
  · refine ⟨fun carried member => ?_, fun leads => absurd leads noUpstream, fun _ => ?_⟩
    · rw [maintenanceAssetsRouter, assignEntrypoint_middlewares] at member
      refine isDefined_of_mem_maintenance settings ?_ member
      intro attachment attached
      simp [maintenanceAttachments, attached]
    · exact .inr (.inl (by simp [maintenanceAssetsRouter]))
  · refine ⟨fun carried member => ?_, fun leads => absurd leads noUpstream, fun _ => ?_⟩
    · refine isDefined_of_mem_maintenance settings ?_ member
      intro attachment attached
      rw [List.mem_append] at attached
      rw [maintenanceAttachments, if_pos redirects, List.mem_cons, List.mem_append, List.mem_append]
      rcases attached with allowlist | redirect
      · exact .inr (.inl (.inl allowlist))
      · exact .inr (.inr redirect)
    · exact .inr (.inr (redirectsToHttps_maintenance settings redirects))

/-- **No open route to an upstream.** Every router of a service's document that
names its upstream carries all its access controls, or refuses every request, or
redirects every request to `https`. Every middleware it carries is defined, and
the other routers lead to the outpost, to the maintenance page or to `https`. -/
theorem every_router_guarded (service : Service)
    (middlewareTemplates storedTemplates : List MiddlewareTemplate)
    (stored : ∀ template ∈ middlewareTemplates, template ∈ storedTemplates) (name : String)
    (router : Router)
    (listed : (generate settings service middlewareTemplates).routers.get? name = some router) :
    IsGuarded settings service middlewareTemplates storedTemplates
      (generate settings service middlewareTemplates) router := by
  by_cases maintenance : service.routingMode = .maintenance
  · rw [generate_maintenance maintenance] at listed ⊢
    exact isGuarded_maintenance settings listed
  · rw [generate_active maintenance] at listed ⊢
    exact isGuarded_active settings stored listed

/-- A service with basic authentication that blocks one path. -/
def guardedArguments : ServiceCreateArguments :=
  { name := "shop", domain := "a.com", upstreamHost := "app", upstreamPort := 8080
    blockedPaths := some ["/admin"], basicAuthUsers := some ["user:hash"] }

private theorem exists_guardedService :
    ∃ service, Service.create guardedArguments ⟨1⟩ "" = .ok service ∧
      service.routingMode = .active ∧ service.blockedPaths = ["/admin"] ∧
      service.basicAuthUsers = ["user:hash"] := by
  have created : (Service.create guardedArguments ⟨1⟩ "").map (fun service =>
      (service.routingMode, service.blockedPaths, service.basicAuthUsers)) =
        .ok (.active, ["/admin"], ["user:hash"]) := by
    decide
  obtain ⟨service, isService, fields⟩ := exists_of_map_ok created
  simp only [Prod.mk.injEq] at fields
  exact ⟨service, isService, fields⟩

def limitTemplate : MiddlewareTemplate := ⟨⟨7⟩, "limit", .rateLimit 10 20⟩

/-- The same service with a reference to a template. -/
def templatedArguments : ServiceCreateArguments :=
  { guardedArguments with middlewareTemplateIds := some [limitTemplate.id.text] }

theorem every_router_guarded_example :
    ∃ service, Service.create templatedArguments ⟨1⟩ "" = .ok service ∧
      service.middlewareTemplateIds = [limitTemplate].map (·.id.text) ∧
      IsGuarded defaultSettings service [limitTemplate] [limitTemplate]
        (generate defaultSettings service [limitTemplate])
        (secureRouter defaultSettings (toSafeName service.domain.value) service
          (routerMiddlewares defaultSettings service [limitTemplate])).2 := by
  have created : (Service.create templatedArguments ⟨1⟩ "").map (fun service =>
      (service.routingMode, service.middlewareTemplateIds)) =
        .ok (.active, [limitTemplate].map (·.id.text)) := by
    decide +kernel
  obtain ⟨service, isService, fields⟩ := exists_of_map_ok created
  obtain ⟨active, references⟩ := Prod.mk.inj fields
  refine ⟨service, isService, references, every_router_guarded defaultSettings service
    [limitTemplate] [limitTemplate] (fun _ => id) (toSafeName service.domain.value) _ ?_⟩
  rw [generate_active (by simp [active]), get?_serviceRouters, mem_serviceRouters]
  exact .inl rfl

/-- The router of a blocked path names the upstream and does not carry the basic
authentication of its service. -/
theorem blockRouter_without_basicAuth :
    ∃ service, Service.create guardedArguments ⟨1⟩ "" = .ok service ∧
      ∃ name router, (generate defaultSettings service []).routers.get? name = some router ∧
        LeadsToUpstream (generate defaultSettings service []) service router ∧
        ¬Protects defaultSettings service [] (generate defaultSettings service []) router := by
  obtain ⟨service, isService, active, blocks, users⟩ := exists_guardedService
  have listed : service.blockedPaths[0]? = some "/admin" := by simp [blocks]
  have isBlock := isBlockRouter_of_blockedPath defaultSettings listed []
  let entry := blockedPathRouter defaultSettings (toSafeName service.domain.value) service "/admin" 0
  refine ⟨service, isService, entry.1, entry.2, ?_, ?_, ?_⟩
  · rw [generate_active (by simp [active]), get?_serviceRouters, mem_serviceRouters]
    exact .inr (.inl ⟨0, "/admin", listed, rfl⟩)
  · rw [generate_active (by simp [active]), leadsToUpstream_iff]
    simp [entry, blockedPathRouter]
  · intro protected'
    obtain ⟨name, carried, isBasicAuth⟩ := protected'.basicAuth (by simp [users])
    rw [isBlock.carries, List.mem_singleton] at carried
    rw [generate_active (by simp [active]), carried, isBlock.refuses] at isBasicAuth
    cases isBasicAuth

end OpenRoutes

section Allowlist

/-- A middleware that decides whether a request may pass. -/
def Middleware.isAccessControl : Middleware → Bool
  | .ipAllowList _ => true
  | .basicAuth _ => true
  | .forwardAuth _ => true
  | _ => false

/-- The first access control a router carries. A middleware of a shared file may
be one. -/
def firstAccessControl (config : HttpConfig) (router : Router) : Option String :=
  router.middlewares.find? fun name =>
    match config.middlewares.get? name with
    | some middleware => middleware.isAccessControl
    | none => true

/-- A router that lets a request pass only if it comes from an allowed address. -/
def ChecksAllowlist (service : Service) (config : HttpConfig) (router : Router) : Prop :=
  ∃ name, firstAccessControl config router = some name ∧
    config.middlewares.get? name = some (.ipAllowList service.allowedIps)

/-- Every router that can answer on the domain blocks or checks the allowlist first. -/
def AllowlistDominates (service : Service) (config : HttpConfig) : Prop :=
  ∀ name router, config.routers.get? name = some router →
    (∃ request, onDomain service request = true ∧ router.takes request = true) →
      IsBlockRouter config (toSafeName service.domain.value) router ∨
        ChecksAllowlist service config router

/-- The middleware at the head of a router's list is its first access control, if
it is one. -/
theorem checksAllowlist_of_head {service : Service} {config : HttpConfig} {router : Router}
    {name : String} (head : router.middlewares.head? = some name)
    (defined : config.middlewares.get? name = some (.ipAllowList service.allowedIps)) :
    ChecksAllowlist service config router := by
  refine ⟨name, ?_, defined⟩
  obtain ⟨rest, list⟩ := List.head?_eq_some_iff.mp head
  simp [firstAccessControl, list, defined, Middleware.isAccessControl]

variable (settings : Settings)

private theorem allowlistDominates_maintenance {service : Service}
    (limited : service.allowedIps ≠ []) :
    AllowlistDominates service (buildMaintenanceServiceConfig settings service) := by
  let routerName := toSafeName service.domain.value
  have defined : (buildMaintenanceServiceConfig settings service).middlewares.get?
      (middlewareName routerName "maintenance-ipallowlist") =
        some (.ipAllowList service.allowedIps) := by
    rw [get?_maintenanceMiddlewares]
    refine mem_attachedDefinitions ?_
    simp [maintenanceAttachments, maintenanceAllowlist, limited, routerName]
  intro name router listed _
  rw [get?_maintenanceRouters, mem_maintenanceRouters] at listed
  simp only [Prod.ext_iff] at listed
  rcases listed with ⟨-, rfl⟩ | ⟨-, rfl⟩ | ⟨-, -, rfl⟩
  · refine .inr (checksAllowlist_of_head ?_ defined)
    simp only [maintenanceRouter, assignEntrypoint_middlewares, maintenanceAllowlist, if_neg limited]
    rfl
  · refine .inr (checksAllowlist_of_head ?_ defined)
    simp only [maintenanceAssetsRouter, assignEntrypoint_middlewares, maintenanceAllowlist,
      if_neg limited]
    rfl
  · refine .inr (checksAllowlist_of_head ?_ defined)
    simp only [maintenanceRedirectRouter, maintenanceAllowlist, if_neg limited]
    rfl

private theorem allowlistDominates_active {service : Service} (limited : service.allowedIps ≠ [])
    (noOutpost : service.authMode ≠ .authentik) (middlewareTemplates : List MiddlewareTemplate) :
    AllowlistDominates service (buildServiceConfig settings service middlewareTemplates) := by
  let routerName := toSafeName service.domain.value
  have attached : .own (middlewareName routerName "ipallowlist") (.ipAllowList service.allowedIps) ∈
      serviceAttachments settings routerName service middlewareTemplates := by
    simp [serviceAttachments, ipAllowlistAttachment, limited]
  have defined := (defined_of_own attached).2
  intro name router listed _
  rw [get?_serviceRouters, mem_serviceRouters] at listed
  simp only [Prod.ext_iff] at listed
  rcases listed with ⟨-, rfl⟩ | ⟨index, path, found, -, rfl⟩ | ⟨-, -, rfl⟩ | ⟨authentik, -⟩
  · refine .inr (checksAllowlist_of_head ?_ defined)
    simp only [secureRouter, assignEntrypoint_middlewares, routerMiddlewares, serviceAttachments,
      ipAllowlistAttachment, if_neg limited]
    rfl
  · exact .inl (isBlockRouter_of_blockedPath settings found middlewareTemplates)
  · refine .inr (checksAllowlist_of_head ?_ defined)
    simp only [httpsRedirectRouter, ipAllowlistAttachment, if_neg limited]
    rfl
  · exact absurd authentik noOutpost

/-- The router to the outpost carries nothing and answers on the domain. -/
theorem not_allowlistDominates_outpost {service : Service} (authentik : service.authMode = .authentik)
    (middlewareTemplates : List MiddlewareTemplate) :
    ¬AllowlistDominates service (buildServiceConfig settings service middlewareTemplates) := by
  intro dominates
  have listed : (buildServiceConfig settings service middlewareTemplates).routers.get?
      (middlewareName (toSafeName service.domain.value) "authentik-outpost") =
        some (authentikOutpostRouter settings (toSafeName service.domain.value) service).2 := by
    rw [get?_serviceRouters, mem_serviceRouters]
    exact .inr (.inr (.inr ⟨authentik, rfl⟩))
  have answers : ∃ request, onDomain service request = true ∧
      (authentikOutpostRouter settings (toSafeName service.domain.value) service).2.takes request =
        true := by
    refine ⟨⟨service.domain.value, authentikOutpostPathPrefix⟩, by simp [onDomain], ?_⟩
    simp [takes_authentikOutpostRouter, onDomain, Text.startsWith]
  rcases dominates _ _ listed answers with blocks | ⟨name, first, -⟩
  · have carries := blocks.carries
    simp [authentikOutpostRouter] at carries
  · simp [firstAccessControl, authentikOutpostRouter] at first

/-- **The allowlist dominates every router exactly when no outpost router exists**:
under maintenance, or without Authentik. -/
theorem allowlistDominates_iff (service : Service) (middlewareTemplates : List MiddlewareTemplate)
    (limited : service.allowedIps ≠ []) :
    AllowlistDominates service (generate settings service middlewareTemplates) ↔
      service.routingMode = .maintenance ∨ service.authMode ≠ .authentik := by
  by_cases maintenance : service.routingMode = .maintenance
  · rw [generate_maintenance maintenance]
    exact ⟨fun _ => .inl maintenance, fun _ => allowlistDominates_maintenance settings limited⟩
  · rw [generate_active maintenance]
    constructor
    · intro dominates
      exact .inr fun authentik => not_allowlistDominates_outpost settings authentik _ dominates
    · intro condition
      exact allowlistDominates_active settings limited (condition.resolve_left maintenance) _

/-- A service for one network, behind Authentik or not. -/
def limitedArguments (authMode : String) : ServiceCreateArguments :=
  { name := "shop", domain := "a.com", upstreamHost := "app", upstreamPort := 8080, authMode
    allowedIps := some ["10.0.0.0/8"] }

private theorem exists_limitedService (authMode : String) (mode : AuthMode)
    (created : (Service.create (limitedArguments authMode) ⟨1⟩ "").map (fun service =>
      (service.routingMode, service.authMode, service.allowedIps)) =
        .ok (.active, mode, ["10.0.0.0/8"])) :
    ∃ service, Service.create (limitedArguments authMode) ⟨1⟩ "" = .ok service ∧
      service.routingMode = .active ∧ service.authMode = mode ∧
      service.allowedIps = ["10.0.0.0/8"] := by
  obtain ⟨service, isService, fields⟩ := exists_of_map_ok created
  simp only [Prod.mk.injEq] at fields
  exact ⟨service, isService, fields⟩

theorem allowlistDominates_iff_example :
    ∃ service, Service.create (limitedArguments "none") ⟨1⟩ "" = .ok service ∧
      AllowlistDominates service (generate defaultSettings service []) := by
  obtain ⟨service, isService, -, mode, limited⟩ :=
    exists_limitedService "none" .none (by decide)
  refine ⟨service, isService, ?_⟩
  exact (allowlistDominates_iff defaultSettings service [] (by simp [limited])).mpr
    (.inr (by simp [mode]))

/-- Behind Authentik, the outpost answers on the domain whatever the address. -/
theorem outpost_without_allowlist :
    ∃ service, Service.create (limitedArguments "authentik") ⟨1⟩ "" = .ok service ∧
      service.allowedIps = ["10.0.0.0/8"] ∧
        ¬AllowlistDominates service (generate defaultSettings service []) := by
  obtain ⟨service, isService, active, mode, limited⟩ :=
    exists_limitedService "authentik" .authentik (by decide)
  refine ⟨service, isService, limited, ?_⟩
  rw [generate_active (by simp [active])]
  exact not_allowlistDominates_outpost defaultSettings mode []

end Allowlist

end TraefikManager.Traefik
