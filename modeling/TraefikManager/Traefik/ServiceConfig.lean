import TraefikManager.Domain.MiddlewareTemplate
import TraefikManager.Traefik.Config

/-!
# The document of a service

An active service gets a router to its upstream with every middleware it
configures, a router for each blocked path, and where they apply a redirect to
`https` and a router to the Authentik outpost. A service under maintenance gets
routers to the maintenance page in their place.
-/

namespace TraefikManager.Traefik

open Foundation Domain

variable (settings : Settings)

section Middlewares

/-- `build_frame_policy_headers`; `off` adds no middleware. -/
def framePolicyHeaders : FramePolicy → Option Middleware
  | .deny => some .frameDeny
  | .sameorigin => some (.customFrameOptionsValue "SAMEORIGIN")
  | .off => none

def ipAllowlistAttachment (routerName : String) (service : Service) : List Attachment :=
  if service.allowedIps = [] then []
  else [.own (middlewareName routerName "ipallowlist") (.ipAllowList service.allowedIps)]

def rateLimitAttachment (routerName : String) (service : Service) : List Attachment :=
  match service.rateLimitAverage, service.rateLimitBurst with
  | some average, some burst =>
      [.own (middlewareName routerName "ratelimit") (.rateLimit average burst)]
  | _, _ => []

def customHeadersAttachment (routerName : String) (service : Service) : List Attachment :=
  if service.customHeaders.entries = [] then []
  else
    [.own (middlewareName routerName "response-headers")
      (.customResponseHeaders service.customHeaders)]

def framePolicyAttachment (routerName : String) (service : Service) : List Attachment :=
  match framePolicyHeaders service.framePolicy with
  | some headers => [.own (middlewareName routerName "frame-policy") headers]
  | none => []

def basicAuthAttachment (routerName : String) (service : Service) : List Attachment :=
  if service.basicAuthUsers = [] then []
  else [.own (middlewareName routerName "basicauth") (.basicAuth service.basicAuthUsers)]

def templateAttachments (middlewareTemplates : List MiddlewareTemplate) : List Attachment :=
  middlewareTemplates.map fun template => .shared template.sharedName

def tokenForwardAuth : Middleware :=
  .forwardAuth
    { address := settings.tokenAuthForwardAuthUrl
      maxResponseBodySize := forwardAuthMaxResponseBodySize
      trustForwardHeader := true
      authResponseHeaders := ["X-Auth-User", "X-Auth-Role"] }

def authAttachment (routerName : String) (service : Service) : List Attachment :=
  match service.authMode with
  | .token =>
      [.own (middlewareName routerName tokenAuthMiddlewareSuffix) (tokenForwardAuth settings)]
  | .authentik => [.shared "authentik"]
  | .none => []

/-- `append_service_middlewares`: what the router of the service carries, in order. -/
def serviceAttachments (routerName : String) (service : Service)
    (middlewareTemplates : List MiddlewareTemplate) : List Attachment :=
  ipAllowlistAttachment routerName service ++ rateLimitAttachment routerName service ++
    customHeadersAttachment routerName service ++ framePolicyAttachment routerName service ++
    basicAuthAttachment routerName service ++ templateAttachments middlewareTemplates ++
    authAttachment settings routerName service

end Middlewares

section Routers

/-- The router to the upstream. -/
def secureRouter (routerName : String) (service : Service) (routerMiddlewares : List String) :
    String × Router :=
  (routerName, assignEntrypoint settings service.tlsEnabled
    { rule := hostRule service.domain, service := routerName, entryPoints := []
      middlewares := routerMiddlewares })

/-- A middleware that lets no client through. -/
def blockEverything : Middleware := .ipAllowList ["255.255.255.255/32"]

/-- The middleware of `append_blocked_path_routers`. -/
def blockedPathMiddleware (routerName : String) (service : Service) : List (String × Middleware) :=
  if service.blockedPaths = [] then []
  else [(middlewareName routerName "block", blockEverything)]

/-- The router of one blocked path. -/
def blockedPathRouter (routerName : String) (service : Service) (path : String) (index : Nat) :
    String × Router :=
  (middlewareName routerName ("block-" ++ toString index),
    assignEntrypoint settings service.tlsEnabled
      { rule := pathRule service.domain path, service := routerName, entryPoints := []
        priority := some 200, middlewares := [middlewareName routerName "block"] })

/-- The routers of `append_blocked_path_routers`. -/
def blockedPathRouters (routerName : String) (service : Service) : List (String × Router) :=
  service.blockedPaths.zipIdx.map fun (path, index) =>
    blockedPathRouter settings routerName service path index

/-- Whether requests over `http` are redirected to `https`. -/
def redirectsToHttps (service : Service) : Bool :=
  service.tlsEnabled && service.httpsRedirectEnabled

/-- The middleware of `append_https_redirect_router`. -/
def httpsRedirectMiddleware (routerName : String) (service : Service) :
    List (String × Middleware) :=
  if redirectsToHttps service then
    [(middlewareName routerName "redirectscheme", .redirectScheme "https" true)]
  else []

/-- The router of `append_https_redirect_router`. -/
def httpsRedirectRouter (routerName : String) (service : Service) : String × Router :=
  (middlewareName routerName "redirect",
    { rule := hostRule service.domain, service := routerName, entryPoints := ["web"]
      middlewares :=
        attachedNames (ipAllowlistAttachment routerName service) ++
          [middlewareName routerName "redirectscheme"] })

/-- The router of `append_authentik_outpost_router`. -/
def authentikOutpostRouter (routerName : String) (service : Service) : String × Router :=
  (middlewareName routerName "authentik-outpost",
    assignEntrypoint settings service.tlsEnabled
      { rule := pathRule service.domain authentikOutpostPathPrefix
        service := authentikOutpostService, entryPoints := [], priority := some 999 })

/-- `build_service_routers`. -/
def serviceRouters (routerName : String) (service : Service) (routerMiddlewares : List String) :
    List (String × Router) :=
  secureRouter settings routerName service routerMiddlewares ::
    (blockedPathRouters settings routerName service ++
      (if redirectsToHttps service then [httpsRedirectRouter routerName service] else []) ++
      (if service.authMode = .authentik then
        [authentikOutpostRouter settings routerName service] else []))

private theorem mem_blockedPathRouters {routerName : String} {service : Service}
    {entry : String × Router} :
    entry ∈ blockedPathRouters settings routerName service ↔
      ∃ index path, service.blockedPaths[index]? = some path ∧
        entry = blockedPathRouter settings routerName service path index := by
  unfold blockedPathRouters
  constructor
  · intro member
    obtain ⟨⟨path, index⟩, listed, same⟩ := List.mem_map.mp member
    exact ⟨index, path, List.mem_zipIdx_iff_getElem?.mp listed, same.symm⟩
  · rintro ⟨index, path, listed, same⟩
    exact List.mem_map.mpr ⟨(path, index), List.mem_zipIdx_iff_getElem?.mpr listed, same.symm⟩

/-- The routers of a service document, one case per kind. -/
theorem mem_serviceRouters {routerName : String} {service : Service}
    {routerMiddlewares : List String} {entry : String × Router} :
    entry ∈ serviceRouters settings routerName service routerMiddlewares ↔
      entry = secureRouter settings routerName service routerMiddlewares ∨
      (∃ index path, service.blockedPaths[index]? = some path ∧
        entry = blockedPathRouter settings routerName service path index) ∨
      (redirectsToHttps service = true ∧ entry = httpsRedirectRouter routerName service) ∨
      (service.authMode = .authentik ∧
        entry = authentikOutpostRouter settings routerName service) := by
  have redirect : entry ∈
      (if redirectsToHttps service then [httpsRedirectRouter routerName service] else []) ↔
        redirectsToHttps service = true ∧ entry = httpsRedirectRouter routerName service := by
    split <;> simp_all
  have outpost : entry ∈ (if service.authMode = .authentik then
      [authentikOutpostRouter settings routerName service] else []) ↔
        service.authMode = .authentik ∧
          entry = authentikOutpostRouter settings routerName service := by
    split <;> simp_all
  rw [serviceRouters, List.mem_cons, List.mem_append, List.mem_append, mem_blockedPathRouters,
    redirect, outpost, or_assoc]

end Routers

section Service

/-- Whether the upstream is reached without checking its certificate. -/
def usesInsecureTransport (service : Service) : Bool :=
  service.upstreamScheme = .https && service.skipTlsVerify

def transportName (routerName : String) : String := middlewareName routerName "transport"

/-- The middlewares of `build_service_config`. -/
def serviceMiddlewares (routerName : String) (service : Service)
    (middlewareTemplates : List MiddlewareTemplate) : List (String × Middleware) :=
  attachedDefinitions (serviceAttachments settings routerName service middlewareTemplates) ++
    blockedPathMiddleware routerName service ++ httpsRedirectMiddleware routerName service

/-- `build_service_config`. -/
def buildServiceConfig (service : Service) (middlewareTemplates : List MiddlewareTemplate) :
    HttpConfig :=
  let routerName := toSafeName service.domain.value
  let routerMiddlewares :=
    attachedNames (serviceAttachments settings routerName service middlewareTemplates)
  { routers := Dict.ofList (serviceRouters settings routerName service routerMiddlewares)
    middlewares := Dict.ofList (serviceMiddlewares settings routerName service middlewareTemplates)
    services := Dict.ofList [(routerName,
      { url := service.upstreamScheme.text ++ "://" ++ service.upstream.text
        serversTransport :=
          if usesInsecureTransport service then some (transportName routerName) else none })]
    serversTransports :=
      if usesInsecureTransport service then
        Dict.ofList [(transportName routerName, { insecureSkipVerify := true })]
      else Dict.empty }

end Service

section Maintenance

def managerFrontendService : String := "traefik-manager-frontend-file@file"

/-- `_build_maintenance_context_headers`. -/
def maintenanceContextHeaders (service : Service) : List (String × String) :=
  (if service.maintenanceMessage = "" then []
    else [("X-TM-Maintenance-Message", Text.quote service.maintenanceMessage)]) ++
  (match service.maintenanceUntil with
    | some moment => [("X-TM-Maintenance-Until", Datetime.isoformatZulu moment)]
    | none => [])

def maintenanceAllowlist (routerName : String) (service : Service) : List Attachment :=
  if service.allowedIps = [] then []
  else
    [.own (middlewareName routerName "maintenance-ipallowlist") (.ipAllowList service.allowedIps)]

def maintenanceContext (routerName : String) (service : Service) : List Attachment :=
  if maintenanceContextHeaders service = [] then []
  else
    [.own (middlewareName routerName "maintenance-context")
      (.customRequestHeaders (Dict.ofList (maintenanceContextHeaders service)))]

def maintenanceReplacePath (routerName : String) : Attachment :=
  .own (middlewareName routerName "maintenance-path") (.replacePath "/maintenance")

def maintenanceRedirect (routerName : String) : Attachment :=
  .own (middlewareName routerName "maintenance-redirect") (.redirectScheme "https" true)

/-- The router to the maintenance page. -/
def maintenanceRouter (routerName : String) (service : Service) : String × Router :=
  (routerName, assignEntrypoint settings service.tlsEnabled
    { rule := hostRule service.domain, service := managerFrontendService, entryPoints := []
      middlewares := attachedNames (maintenanceAllowlist routerName service ++
        maintenanceReplacePath routerName :: maintenanceContext routerName service) })

/-- The router to the files of the maintenance page. -/
def maintenanceAssetsRouter (routerName : String) (service : Service) : String × Router :=
  (middlewareName routerName "maintenance-assets",
    assignEntrypoint settings service.tlsEnabled
      { rule := pathRule service.domain "/_next/", service := managerFrontendService
        entryPoints := [], priority := some 200
        middlewares := attachedNames (maintenanceAllowlist routerName service) })

/-- The redirect to `https` during maintenance. -/
def maintenanceRedirectRouter (routerName : String) (service : Service) : String × Router :=
  (middlewareName routerName "redirect",
    { rule := hostRule service.domain, service := "noop@internal", entryPoints := ["web"]
      middlewares := attachedNames (maintenanceAllowlist routerName service ++
        [maintenanceRedirect routerName]) })

/-- The routers of `build_maintenance_service_config`. -/
def maintenanceRouters (routerName : String) (service : Service) : List (String × Router) :=
  maintenanceRouter settings routerName service ::
    maintenanceAssetsRouter settings routerName service ::
    if redirectsToHttps service then [maintenanceRedirectRouter routerName service] else []

/-- The routers of a document under maintenance, one case per kind. -/
theorem mem_maintenanceRouters {routerName : String} {service : Service}
    {entry : String × Router} :
    entry ∈ maintenanceRouters settings routerName service ↔
      entry = maintenanceRouter settings routerName service ∨
      entry = maintenanceAssetsRouter settings routerName service ∨
      (redirectsToHttps service = true ∧ entry = maintenanceRedirectRouter routerName service) := by
  rw [maintenanceRouters, List.mem_cons, List.mem_cons]
  split <;> simp_all

/-- What the routers of a document under maintenance carry. -/
def maintenanceAttachments (routerName : String) (service : Service) : List Attachment :=
  maintenanceReplacePath routerName ::
    (maintenanceAllowlist routerName service ++ maintenanceContext routerName service ++
      if redirectsToHttps service then [maintenanceRedirect routerName] else [])

/-- The middlewares of `build_maintenance_service_config`. -/
def maintenanceMiddlewares (routerName : String) (service : Service) : List (String × Middleware) :=
  attachedDefinitions (maintenanceAttachments routerName service)

/-- `build_maintenance_service_config`. -/
def buildMaintenanceServiceConfig (service : Service) : HttpConfig :=
  let routerName := toSafeName service.domain.value
  { routers := Dict.ofList (maintenanceRouters settings routerName service)
    middlewares := Dict.ofList (maintenanceMiddlewares routerName service) }

end Maintenance

/-- `TraefikConfigGenerator.generate`. -/
def generate (service : Service) (middlewareTemplates : List MiddlewareTemplate) : HttpConfig :=
  match service.routingMode with
  | .maintenance => buildMaintenanceServiceConfig settings service
  | .active | .disabled => buildServiceConfig settings service middlewareTemplates

section Names

variable (routerName : String) (service : Service)

/-- The suffixes of the middlewares of a service document. -/
def serviceMiddlewareSuffixes (service : Service) : List String :=
  (if service.allowedIps = [] then [] else ["ipallowlist"]) ++
    (if service.rateLimitEnabled then ["ratelimit"] else []) ++
    (if service.customHeaders.entries = [] then [] else ["response-headers"]) ++
    (if service.framePolicy = .off then [] else ["frame-policy"]) ++
    (if service.basicAuthUsers = [] then [] else ["basicauth"]) ++
    (if service.authMode = .token then [tokenAuthMiddlewareSuffix] else []) ++
    (if service.blockedPaths = [] then [] else ["block"]) ++
    (if redirectsToHttps service then ["redirectscheme"] else [])

private theorem attachedDefinitions_templates (middlewareTemplates : List MiddlewareTemplate) :
    attachedDefinitions (templateAttachments middlewareTemplates) = [] := by
  induction middlewareTemplates with
  | nil => rfl
  | cons template rest ih => exact ih

/-- The middlewares of a service document, by their suffixes. -/
theorem serviceMiddlewares_names (middlewareTemplates : List MiddlewareTemplate) :
    (serviceMiddlewares settings routerName service middlewareTemplates).map Prod.fst =
      (serviceMiddlewareSuffixes service).map (middlewareName routerName) := by
  have allowlist : (attachedDefinitions (ipAllowlistAttachment routerName service)).map Prod.fst =
      (if service.allowedIps = [] then [] else ["ipallowlist"]).map
        (middlewareName routerName) := by
    unfold ipAllowlistAttachment
    split <;> rfl
  have rateLimit : (attachedDefinitions (rateLimitAttachment routerName service)).map Prod.fst =
      (if service.rateLimitEnabled then ["ratelimit"] else []).map (middlewareName routerName) := by
    unfold rateLimitAttachment Service.rateLimitEnabled
    cases service.rateLimitAverage <;> cases service.rateLimitBurst <;> rfl
  have headers : (attachedDefinitions (customHeadersAttachment routerName service)).map Prod.fst =
      (if service.customHeaders.entries = [] then [] else ["response-headers"]).map
        (middlewareName routerName) := by
    unfold customHeadersAttachment
    split <;> rfl
  have frame : (attachedDefinitions (framePolicyAttachment routerName service)).map Prod.fst =
      (if service.framePolicy = .off then [] else ["frame-policy"]).map
        (middlewareName routerName) := by
    unfold framePolicyAttachment framePolicyHeaders
    cases service.framePolicy <;> rfl
  have basicAuth : (attachedDefinitions (basicAuthAttachment routerName service)).map Prod.fst =
      (if service.basicAuthUsers = [] then [] else ["basicauth"]).map
        (middlewareName routerName) := by
    unfold basicAuthAttachment
    split <;> rfl
  have auth : (attachedDefinitions (authAttachment settings routerName service)).map Prod.fst =
      (if service.authMode = .token then [tokenAuthMiddlewareSuffix] else []).map
        (middlewareName routerName) := by
    unfold authAttachment
    cases service.authMode <;> rfl
  have block : (blockedPathMiddleware routerName service).map Prod.fst =
      (if service.blockedPaths = [] then [] else ["block"]).map (middlewareName routerName) := by
    unfold blockedPathMiddleware
    split <;> rfl
  have redirect : (httpsRedirectMiddleware routerName service).map Prod.fst =
      (if redirectsToHttps service then ["redirectscheme"] else []).map
        (middlewareName routerName) := by
    unfold httpsRedirectMiddleware
    split <;> rfl
  simp only [serviceMiddlewares, serviceAttachments, serviceMiddlewareSuffixes,
    attachedDefinitions_append, attachedDefinitions_templates, List.append_nil, List.map_append,
    allowlist, rateLimit, headers, frame, basicAuth, auth, block, redirect]

/-- The middlewares of a service, in the order of the source. -/
theorem serviceMiddlewareSuffixes_sublist :
    (serviceMiddlewareSuffixes service).Sublist
      ["ipallowlist", "ratelimit", "response-headers", "frame-policy", "basicauth",
        tokenAuthMiddlewareSuffix, "block", "redirectscheme"] := by
  have whenNot : ∀ {condition : Prop} [Decidable condition] (suffix : String),
      (if condition then [] else [suffix]).Sublist [suffix] := by
    intro condition _ suffix
    split <;> simp
  have when : ∀ {condition : Prop} [Decidable condition] (suffix : String),
      (if condition then [suffix] else []).Sublist [suffix] := by
    intro condition _ suffix
    split <;> simp
  exact (((((((whenNot _).append (when _)).append (whenNot _)).append (whenNot _)).append
    (whenNot _)).append (when _)).append (whenNot _)).append (when _)

private theorem nodup_serviceMiddlewares (middlewareTemplates : List MiddlewareTemplate) :
    ((serviceMiddlewares settings routerName service middlewareTemplates).map Prod.fst).Nodup := by
  rw [serviceMiddlewares_names]
  refine List.Nodup.map (middlewareName_injective routerName) ?_
  exact (serviceMiddlewareSuffixes_sublist service).nodup (by decide)

/-- The suffix of the router of one blocked path. -/
def blockSuffix (index : Nat) : String := "block-" ++ toString index

/-- Blocked paths have routers of different names. -/
theorem blockSuffix_injective : Function.Injective blockSuffix := by
  intro first second same
  apply Text.repr_injective
  simpa [blockSuffix] using same

/-- The suffix of a blocked path is none of the others. -/
theorem blockSuffix_ne (index : Nat) {other : String} (differs : other.toList.head? ≠ some 'b') :
    blockSuffix index ≠ other := by
  rintro rfl
  exact differs (by simp [blockSuffix])

/-- The suffixes of the routers of a service document beside the one to the upstream. -/
def routerSuffixes (service : Service) : List String :=
  (List.range service.blockedPaths.length).map blockSuffix ++
    (if redirectsToHttps service then ["redirect"] else []) ++
    (if service.authMode = .authentik then ["authentik-outpost"] else [])

/-- The names of the routers of an active service. -/
theorem serviceRouters_names (routerMiddlewares : List String) :
    (serviceRouters settings routerName service routerMiddlewares).map Prod.fst =
      routerName :: (routerSuffixes service).map (middlewareName routerName) := by
  have blocked : (blockedPathRouters settings routerName service).map Prod.fst =
      ((List.range service.blockedPaths.length).map blockSuffix).map
        (middlewareName routerName) := by
    rw [List.range_eq_range', ← List.zipIdx_map_snd 0 service.blockedPaths]
    unfold blockedPathRouters
    rw [List.map_map, List.map_map, List.map_map]
    rfl
  have redirect : (if redirectsToHttps service then
      [httpsRedirectRouter routerName service] else []).map Prod.fst =
        (if redirectsToHttps service then ["redirect"] else []).map (middlewareName routerName) := by
    split <;> rfl
  have outpost : (if service.authMode = .authentik then
      [authentikOutpostRouter settings routerName service] else []).map Prod.fst =
        (if service.authMode = .authentik then ["authentik-outpost"] else []).map
          (middlewareName routerName) := by
    split <;> rfl
  simp only [serviceRouters, routerSuffixes, List.map_cons, List.map_append, blocked, redirect,
    outpost]
  rfl

private theorem nodup_routerSuffixes : (routerSuffixes service).Nodup := by
  have blocked : ((List.range service.blockedPaths.length).map blockSuffix).Nodup :=
    List.nodup_range.map blockSuffix_injective
  have others : ((if redirectsToHttps service then ["redirect"] else []) ++
      (if service.authMode = .authentik then ["authentik-outpost"] else [])).Nodup := by
    split <;> split <;> decide
  rw [routerSuffixes, List.append_assoc]
  refine List.nodup_append.mpr ⟨blocked, others, ?_⟩
  intro suffix ofBlock other ofOthers
  obtain ⟨index, _, rfl⟩ := List.mem_map.mp ofBlock
  refine blockSuffix_ne index ?_
  split at ofOthers <;> split at ofOthers <;> simp at ofOthers
  · rcases ofOthers with rfl | rfl <;> decide
  · subst ofOthers
    decide
  · subst ofOthers
    decide

private theorem nodup_serviceRouters (routerMiddlewares : List String) :
    ((serviceRouters settings routerName service routerMiddlewares).map Prod.fst).Nodup := by
  rw [serviceRouters_names]
  refine List.nodup_cons.mpr ⟨?_, ?_⟩
  · intro member
    obtain ⟨suffix, _, same⟩ := List.mem_map.mp member
    exact middlewareName_ne routerName suffix same
  · exact (nodup_routerSuffixes service).map (middlewareName_injective routerName)

/-- The names of the routers in maintenance. -/
theorem maintenanceRouters_names :
    (maintenanceRouters settings routerName service).map Prod.fst =
      routerName :: ("maintenance-assets" ::
        if redirectsToHttps service then ["redirect"] else []).map (middlewareName routerName) := by
  unfold maintenanceRouters
  split <;> rfl

private theorem nodup_maintenanceRouters :
    ((maintenanceRouters settings routerName service).map Prod.fst).Nodup := by
  rw [maintenanceRouters_names]
  refine List.nodup_cons.mpr ⟨?_, ?_⟩
  · intro member
    obtain ⟨suffix, _, same⟩ := List.mem_map.mp member
    exact middlewareName_ne routerName suffix same
  · refine List.Nodup.map (middlewareName_injective routerName) ?_
    split <;> decide

/-- The suffixes of the middlewares of a document under maintenance. -/
def maintenanceMiddlewareSuffixes (service : Service) : List String :=
  "maintenance-path" ::
    ((if service.allowedIps = [] then [] else ["maintenance-ipallowlist"]) ++
      (if maintenanceContextHeaders service = [] then [] else ["maintenance-context"]) ++
      (if redirectsToHttps service then ["maintenance-redirect"] else []))

/-- The middlewares in maintenance, in the order of the source. -/
theorem maintenanceMiddlewareSuffixes_sublist :
    (maintenanceMiddlewareSuffixes service).Sublist
      ["maintenance-path", "maintenance-ipallowlist", "maintenance-context",
        "maintenance-redirect"] := by
  unfold maintenanceMiddlewareSuffixes
  split <;> split <;> split <;> decide

/-- The names of the middlewares in maintenance. -/
theorem maintenanceMiddlewares_names :
    (maintenanceMiddlewares routerName service).map Prod.fst =
      (maintenanceMiddlewareSuffixes service).map (middlewareName routerName) := by
  have allowlist : (attachedDefinitions (maintenanceAllowlist routerName service)).map Prod.fst =
      (if service.allowedIps = [] then [] else ["maintenance-ipallowlist"]).map
        (middlewareName routerName) := by
    unfold maintenanceAllowlist
    split <;> rfl
  have context : (attachedDefinitions (maintenanceContext routerName service)).map Prod.fst =
      (if maintenanceContextHeaders service = [] then [] else ["maintenance-context"]).map
        (middlewareName routerName) := by
    unfold maintenanceContext
    split <;> rfl
  have redirect : (attachedDefinitions (if redirectsToHttps service then
      [maintenanceRedirect routerName] else [])).map Prod.fst =
        (if redirectsToHttps service then ["maintenance-redirect"] else []).map
          (middlewareName routerName) := by
    split <;> rfl
  simp only [maintenanceMiddlewares, maintenanceAttachments, maintenanceReplacePath,
    maintenanceMiddlewareSuffixes, attachedDefinitions_own, attachedDefinitions_append,
    List.map_cons, List.map_append, allowlist, context, redirect]

private theorem nodup_maintenanceMiddlewares :
    ((maintenanceMiddlewares routerName service).map Prod.fst).Nodup := by
  rw [maintenanceMiddlewares_names]
  refine List.Nodup.map (middlewareName_injective routerName) ?_
  exact (maintenanceMiddlewareSuffixes_sublist service).nodup (by decide)

end Names

section Lookups

variable {settings : Settings} {service : Service} {middlewareTemplates : List MiddlewareTemplate}
  {name : String}

/-- What the router to the upstream carries. -/
def routerMiddlewares (settings : Settings) (service : Service)
    (middlewareTemplates : List MiddlewareTemplate) : List String :=
  attachedNames
    (serviceAttachments settings (toSafeName service.domain.value) service middlewareTemplates)

@[simp] theorem get?_serviceRouters {router : Router} :
    (buildServiceConfig settings service middlewareTemplates).routers.get? name = some router ↔
      (name, router) ∈ serviceRouters settings (toSafeName service.domain.value) service
        (routerMiddlewares settings service middlewareTemplates) := by
  rw [Dict.get?_eq_some_iff, buildServiceConfig, Dict.entries_ofList (nodup_serviceRouters ..)]
  rfl

@[simp] theorem get?_serviceMiddlewares {middleware : Middleware} :
    (buildServiceConfig settings service middlewareTemplates).middlewares.get? name =
        some middleware ↔
      (name, middleware) ∈
        serviceMiddlewares settings (toSafeName service.domain.value) service
          middlewareTemplates := by
  rw [Dict.get?_eq_some_iff, buildServiceConfig, Dict.entries_ofList (nodup_serviceMiddlewares ..)]

@[simp] theorem get?_maintenanceRouters {router : Router} :
    (buildMaintenanceServiceConfig settings service).routers.get? name = some router ↔
      (name, router) ∈ maintenanceRouters settings (toSafeName service.domain.value) service := by
  rw [Dict.get?_eq_some_iff, buildMaintenanceServiceConfig,
    Dict.entries_ofList (nodup_maintenanceRouters ..)]

@[simp] theorem get?_maintenanceMiddlewares {middleware : Middleware} :
    (buildMaintenanceServiceConfig settings service).middlewares.get? name = some middleware ↔
      (name, middleware) ∈ maintenanceMiddlewares (toSafeName service.domain.value) service := by
  rw [Dict.get?_eq_some_iff, buildMaintenanceServiceConfig,
    Dict.entries_ofList (nodup_maintenanceMiddlewares ..)]

/-- In maintenance the document is that of the maintenance page. -/
theorem generate_maintenance (maintenance : service.routingMode = .maintenance) :
    generate settings service middlewareTemplates =
      buildMaintenanceServiceConfig settings service := by
  rw [generate, maintenance]

/-- Otherwise it is that of the upstream. -/
theorem generate_active (active : service.routingMode ≠ .maintenance) :
    generate settings service middlewareTemplates =
      buildServiceConfig settings service middlewareTemplates := by
  unfold generate
  split
  · rename_i maintenance
    exact absurd maintenance active
  · rfl
  · rfl

end Lookups

end TraefikManager.Traefik
