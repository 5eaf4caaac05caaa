import Mathlib.Data.List.MinMax
import TraefikManager.Traefik.Rules

/-!
# Which router takes a request

Among the routers whose rule matches, Traefik takes one of the highest rank. The
rank of a router is its priority, or the length of its rule when it has none.

Block routers have a fixed priority, so they win over the router to the upstream
only while the rule of the domain is shorter than that.
-/

namespace TraefikManager.Traefik

open Foundation Domain

structure Request where
  host : String
  path : String
  deriving DecidableEq, Repr

/-- What a matcher answers to a request. -/
def Request.answer (request : Request) (matcher value : String) : Bool :=
  if matcher = "Host" then Text.lower value = Text.lower request.host
  else if matcher = "PathPrefix" then Text.startsWith value request.path
  else false

namespace Router

/-- Whether the rule of a router matches; a rule that cannot be read matches nothing. -/
def takes (router : Router) (request : Request) : Bool :=
  (Rule.read router.rule).any (·.holds request.answer)

/-- The priority of a router, by default the length of its rule. -/
def rank (router : Router) : Nat := router.priority.getD router.rule.length

end Router

/-- A router that may answer a request: it matches, and none that matches ranks higher. -/
structure TakenBy (config : HttpConfig) (request : Request) (name : String) (router : Router) :
    Prop where
  listed : config.routers.get? name = some router
  takes : router.takes request = true
  highest : ∀ other otherRouter, config.routers.get? other = some otherRouter →
    otherRouter.takes request = true → otherRouter.rank ≤ router.rank

/-- A matching router is outranked only by one that answers in its place. -/
theorem exists_takenBy {config : HttpConfig} {request : Request} {name : String} {router : Router}
    (listed : config.routers.get? name = some router) (takes : router.takes request = true) :
    ∃ best bestRouter, TakenBy config request best bestRouter := by
  let matching := config.routers.entries.filter fun entry => entry.2.takes request
  have member : (name, router) ∈ matching :=
    List.mem_filter.mpr ⟨Dict.get?_eq_some_iff.mp listed, takes⟩
  cases best : matching.argmax fun entry => entry.2.rank with
  | none => simp [List.argmax_eq_none.mp best] at member
  | some entry =>
      obtain ⟨found, taken⟩ := List.mem_filter.mp (List.argmax_mem best)
      refine ⟨entry.1, entry.2, Dict.get?_eq_some_iff.mpr found, taken, ?_⟩
      intro other otherRouter otherListed otherTakes
      have candidate : (other, otherRouter) ∈ matching :=
        List.mem_filter.mpr ⟨Dict.get?_eq_some_iff.mp otherListed, otherTakes⟩
      exact List.le_of_mem_argmax (f := fun entry : String × Router => entry.2.rank) candidate best

section ServiceRouters

variable {settings : Settings} {routerName : String} {service : Service} {request : Request}

/-- Whether a request is for the domain of a service. -/
def onDomain (service : Service) (request : Request) : Bool :=
  Text.lower service.domain.value = Text.lower request.host

@[simp] theorem holds_hostExpr :
    (hostExpr service.domain).holds request.answer = onDomain service request := by
  simp [hostExpr, Rule.Expr.holds, Request.answer, onDomain]

@[simp] theorem holds_pathExpr (path : String) :
    (pathExpr service.domain path).holds request.answer =
      (onDomain service request && Text.startsWith path request.path) := by
  simp [pathExpr, Rule.Expr.holds, Request.answer]

private theorem takes_secureRouter (names : List String) :
    (secureRouter settings routerName service names).2.takes request = onDomain service request := by
  simp [Router.takes, secureRouter]

private theorem takes_blockedPathRouter {path : String} (quotable : isQuotable path = true)
    (index : Nat) : (blockedPathRouter settings routerName service path index).2.takes request =
      (onDomain service request && Text.startsWith path request.path) := by
  simp [Router.takes, blockedPathRouter, read_pathRule_iff.mpr quotable]

theorem takes_authentikOutpostRouter :
    (authentikOutpostRouter settings routerName service).2.takes request =
      (onDomain service request && Text.startsWith authentikOutpostPathPrefix request.path) := by
  have quotable : isQuotable authentikOutpostPathPrefix = true := by decide
  simp [Router.takes, authentikOutpostRouter, read_pathRule_iff.mpr quotable]

private theorem length_hostRule (domain : DomainName) :
    (hostRule domain).length = domain.value.length + 8 := by
  have opening : "Host(`".length = 6 := rfl
  have closing : "`)".length = 2 := rfl
  simp only [hostRule, String.length_append, opening, closing]
  omega

private theorem rank_secureRouter (names : List String) :
    (secureRouter settings routerName service names).2.rank =
      service.domain.value.length + 8 := by
  simp [Router.rank, secureRouter, length_hostRule]

private theorem rank_blockedPathRouter (path : String) (index : Nat) :
    (blockedPathRouter settings routerName service path index).2.rank = 200 := by
  simp [Router.rank, blockedPathRouter]

private theorem rank_httpsRedirectRouter :
    (httpsRedirectRouter routerName service).2.rank = service.domain.value.length + 8 := by
  simp [Router.rank, httpsRedirectRouter, length_hostRule]

end ServiceRouters

section BlockedPaths

variable (settings : Settings)

/-- A router that refuses every request. -/
structure IsBlockRouter (config : HttpConfig) (routerName : String) (router : Router) : Prop where
  carries : router.middlewares = [middlewareName routerName "block"]
  refuses : config.middlewares.get? (middlewareName routerName "block") = some blockEverything

/-- The routers of blocked paths refuse every request. -/
theorem isBlockRouter_of_blockedPath {service : Service} {index : Nat} {path : String}
    (listed : service.blockedPaths[index]? = some path)
    (middlewareTemplates : List MiddlewareTemplate) :
    IsBlockRouter (buildServiceConfig settings service middlewareTemplates)
      (toSafeName service.domain.value)
      (blockedPathRouter settings (toSafeName service.domain.value) service path index).2 := by
  constructor
  · simp [blockedPathRouter]
  · have nonempty : service.blockedPaths ≠ [] :=
      List.ne_nil_of_mem (List.mem_of_getElem? listed)
    rw [get?_serviceMiddlewares, serviceMiddlewares, List.mem_append, List.mem_append,
      blockedPathMiddleware, if_neg nonempty]
    exact .inl (.inr List.mem_cons_self)

/-- A request for a blocked path of a service, outside the paths of the outpost. -/
structure IsBlockedRequest (service : Service) (request : Request) : Prop where
  onDomain : onDomain service request = true
  blocked : ∃ path ∈ service.blockedPaths, Text.startsWith path request.path = true
  notOutpost : Text.startsWith authentikOutpostPathPrefix request.path = false

/-- Every request for a blocked path is answered, and only by a router of a blocked path. -/
def BlockedPathsWin (service : Service) (middlewareTemplates : List MiddlewareTemplate) : Prop :=
  let config := generate settings service middlewareTemplates
  let routerName := toSafeName service.domain.value
  ∀ request, IsBlockedRequest service request →
    (∃ name router, TakenBy config request name router) ∧
      ∀ name router, TakenBy config request name router →
        (∃ index < service.blockedPaths.length, name = middlewareName routerName (blockSuffix index)) ∧
          IsBlockRouter config routerName router

/-- With a rule shorter than the priority of the block routers, blocked paths win. -/
theorem blockedPathsWin_of_short {service : Service} (active : service.routingMode ≠ .maintenance)
    (quotable : ∀ path ∈ service.blockedPaths, isQuotable path = true)
    (short : service.domain.value.length < 192) (middlewareTemplates : List MiddlewareTemplate) :
    BlockedPathsWin settings service middlewareTemplates := by
  rintro request ⟨onDomain, ⟨path, blocked, starts⟩, notOutpost⟩
  rw [generate_active active]
  let routerName := toSafeName service.domain.value
  obtain ⟨index, listed⟩ := List.mem_iff_getElem?.mp blocked
  have blockListed : (buildServiceConfig settings service middlewareTemplates).routers.get?
      (middlewareName routerName (blockSuffix index)) =
        some (blockedPathRouter settings routerName service path index).2 := by
    rw [get?_serviceRouters, mem_serviceRouters]
    exact .inr (.inl ⟨index, path, listed, rfl⟩)
  have blockTakes : (blockedPathRouter settings routerName service path index).2.takes request =
      true := by
    rw [takes_blockedPathRouter (quotable path blocked), onDomain, starts]
    rfl
  refine ⟨exists_takenBy blockListed blockTakes, ?_⟩
  intro name router taken
  have found := taken.listed
  have outranks := taken.highest _ _ blockListed blockTakes
  rw [rank_blockedPathRouter] at outranks
  rw [get?_serviceRouters, mem_serviceRouters] at found
  simp only [Prod.ext_iff] at found
  rcases found with ⟨-, rfl⟩ | ⟨other, otherPath, otherListed, rfl, rfl⟩ | ⟨-, -, rfl⟩ | ⟨-, -, rfl⟩
  · rw [rank_secureRouter] at outranks
    omega
  · refine ⟨⟨other, (List.getElem?_eq_some_iff.mp otherListed).1, rfl⟩, ?_⟩
    exact isBlockRouter_of_blockedPath settings otherListed middlewareTemplates
  · rw [rank_httpsRedirectRouter] at outranks
    omega
  · have takes := taken.takes
    rw [takes_authentikOutpostRouter, notOutpost, Bool.and_false] at takes
    cases takes

/-- **Blocked paths of an active service win exactly while the rule of its domain
is shorter than their priority**, unless they all belong to the outpost. -/
theorem blockedPathsWin_iff {service : Service} (active : service.routingMode ≠ .maintenance)
    (quotable : ∀ path ∈ service.blockedPaths, isQuotable path = true)
    (middlewareTemplates : List MiddlewareTemplate) :
    BlockedPathsWin settings service middlewareTemplates ↔
      service.domain.value.length < 192 ∨
        ∀ path ∈ service.blockedPaths, Text.startsWith authentikOutpostPathPrefix path = true := by
  constructor
  · intro win
    refine or_iff_not_imp_left.mpr fun long path blocked => ?_
    by_contra outside
    have notOutpost : Text.startsWith authentikOutpostPathPrefix path = false := by
      simpa using outside
    let request : Request := ⟨service.domain.value, path⟩
    have isBlocked : IsBlockedRequest service request :=
      { onDomain := by simp [onDomain, request]
        blocked := ⟨path, blocked, by simp [Text.startsWith, request]⟩
        notOutpost }
    let names := routerMiddlewares settings service middlewareTemplates
    have mainTaken : TakenBy (generate settings service middlewareTemplates) request
        (toSafeName service.domain.value)
        (secureRouter settings (toSafeName service.domain.value) service names).2 := by
      rw [generate_active active]
      constructor
      · rw [get?_serviceRouters, mem_serviceRouters]
        exact .inl rfl
      · rw [takes_secureRouter, isBlocked.onDomain]
      · intro other otherRouter listed takes
        rw [get?_serviceRouters, mem_serviceRouters] at listed
        simp only [Prod.ext_iff] at listed
        rw [rank_secureRouter]
        rcases listed with ⟨-, rfl⟩ | ⟨index, otherPath, -, -, rfl⟩ | ⟨-, -, rfl⟩ | ⟨-, -, rfl⟩
        · rw [rank_secureRouter]
        · rw [rank_blockedPathRouter]
          omega
        · rw [rank_httpsRedirectRouter]
        · rw [takes_authentikOutpostRouter, isBlocked.notOutpost, Bool.and_false] at takes
          cases takes
    obtain ⟨⟨index, -, isBlockName⟩, -⟩ := (win request isBlocked).2 _ _ mainTaken
    exact middlewareName_ne _ _ isBlockName.symm
  · rintro (short | outpost)
    · exact blockedPathsWin_of_short settings active quotable short middlewareTemplates
    · intro request isBlocked
      obtain ⟨path, blocked, starts⟩ := isBlocked.blocked
      have inOutpost : Text.startsWith authentikOutpostPathPrefix request.path = true := by
        have first := outpost path blocked
        simp only [Text.startsWith, List.isPrefixOf_iff_prefix] at first starts ⊢
        exact first.trans starts
      rw [isBlocked.notOutpost] at inOutpost
      cases inOutpost

/-- Where blocked paths win, the service is not under maintenance and the rule of
some blocked path matches. -/
theorem exists_rule_of_blockedPathsWin {service : Service}
    {middlewareTemplates : List MiddlewareTemplate} {request : Request}
    (win : BlockedPathsWin settings service middlewareTemplates)
    (isBlocked : IsBlockedRequest service request) :
    service.routingMode ≠ .maintenance ∧
      ∃ path ∈ service.blockedPaths,
        (Rule.read (pathRule service.domain path)).any (·.holds request.answer) = true := by
  obtain ⟨⟨name, router, taken⟩, only⟩ := win request isBlocked
  obtain ⟨⟨index, -, isBlockName⟩, -⟩ := only name router taken
  have found := taken.listed
  by_cases maintenance : service.routingMode = .maintenance
  · exfalso
    rw [generate_maintenance maintenance, get?_maintenanceRouters, mem_maintenanceRouters] at found
    simp only [Prod.ext_iff] at found
    rcases found with ⟨main, -⟩ | ⟨assets, -⟩ | ⟨-, redirect, -⟩
    · exact middlewareName_ne _ _ (isBlockName.symm.trans main)
    · exact blockSuffix_ne index (by decide)
        (middlewareName_injective _ (isBlockName.symm.trans assets))
    · exact blockSuffix_ne index (by decide)
        (middlewareName_injective _ (isBlockName.symm.trans redirect))
  · refine ⟨maintenance, ?_⟩
    rw [generate_active maintenance, get?_serviceRouters, mem_serviceRouters] at found
    simp only [Prod.ext_iff] at found
    rcases found with ⟨main, -⟩ | ⟨other, path, listed, -, rfl⟩ | ⟨-, redirect, -⟩ | ⟨-, outpost, -⟩
    · exact absurd (isBlockName.symm.trans main) (middlewareName_ne _ _)
    · refine ⟨path, List.mem_of_getElem? listed, ?_⟩
      have takes := taken.takes
      rwa [Router.takes, blockedPathRouter, assignEntrypoint_rule] at takes
    · exact absurd (middlewareName_injective _ (isBlockName.symm.trans redirect))
        (blockSuffix_ne index (by decide))
    · exact absurd (middlewareName_injective _ (isBlockName.symm.trans outpost))
        (blockSuffix_ne index (by decide))

/-- A router that redirects every request of the plain entry point to `https`. -/
structure RedirectsToHttps (config : HttpConfig) (router : Router) : Prop where
  plain : router.entryPoints = ["web"]
  redirects : ∃ name ∈ router.middlewares,
    config.middlewares.get? name = some (.redirectScheme "https" true)

theorem redirectsToHttps_maintenance {service : Service} (redirects : redirectsToHttps service = true) :
    RedirectsToHttps (buildMaintenanceServiceConfig settings service)
      (maintenanceRedirectRouter (toSafeName service.domain.value) service).2 := by
  refine ⟨rfl, middlewareName (toSafeName service.domain.value) "maintenance-redirect", ?_, ?_⟩
  · simp [maintenanceRedirectRouter, attachedNames, maintenanceRedirect, Attachment.name]
  · rw [get?_maintenanceMiddlewares, maintenanceMiddlewares, maintenanceAttachments,
      if_pos redirects]
    exact mem_attachedDefinitions (by simp [maintenanceRedirect])

/-- A router that shows the maintenance page or redirects to `https`. -/
def LeadsToMaintenance (config : HttpConfig) (router : Router) : Prop :=
  router.service = managerFrontendService ∨ RedirectsToHttps config router

/-- Under maintenance, every router shows the maintenance page or redirects to `https`. -/
theorem leadsToMaintenance {service : Service} {name : String} {router : Router}
    (listed : (buildMaintenanceServiceConfig settings service).routers.get? name = some router) :
    LeadsToMaintenance (buildMaintenanceServiceConfig settings service) router := by
  rw [get?_maintenanceRouters, mem_maintenanceRouters] at listed
  simp only [Prod.ext_iff] at listed
  rcases listed with ⟨-, rfl⟩ | ⟨-, rfl⟩ | ⟨redirects, -, rfl⟩
  · exact .inl (by simp [maintenanceRouter])
  · exact .inl (by simp [maintenanceAssetsRouter])
  · exact .inr (redirectsToHttps_maintenance settings redirects)

end BlockedPaths

section BlockedPathExamples

/-- A service that blocks one path. -/
def blockingArguments (domain routingMode path : String) : ServiceCreateArguments :=
  { name := "shop", domain, upstreamHost := "app", upstreamPort := 8080, routingMode
    blockedPaths := some [path] }

/-- A domain of 195 characters. -/
def longDomain : String := String.ofList ((List.replicate 96 ['a', '.']).flatten ++ ['c', 'o', 'm'])

private theorem length_longDomain : longDomain.length = 195 :=
  String.length_ofList.trans (by decide +kernel)

/-- The service that `Service.create` builds from such arguments. -/
theorem exists_blockingService (domain routingMode path : String) (mode : RoutingMode)
    (created : (Service.create (blockingArguments domain routingMode path) ⟨1⟩ "").map
      (fun service => (service.domain.value, service.routingMode, service.blockedPaths)) =
        .ok (domain, mode, [path])) :
    ∃ service, Service.create (blockingArguments domain routingMode path) ⟨1⟩ "" = .ok service ∧
      service.domain.value = domain ∧ service.routingMode = mode ∧
      service.blockedPaths = [path] := by
  obtain ⟨service, isService, fields⟩ := exists_of_map_ok created
  simp only [Prod.mk.injEq] at fields
  exact ⟨service, isService, fields⟩

private theorem exists_pausedService :
    ∃ service,
      Service.create (blockingArguments "a.com" "maintenance" "/admin") ⟨1⟩ "" = .ok service ∧
        service.domain.value = "a.com" ∧ service.routingMode = .maintenance ∧
        service.blockedPaths = ["/admin"] :=
  exists_blockingService "a.com" "maintenance" "/admin" .maintenance (by decide)

/-- A request for the blocked path of a service that blocks one. -/
theorem isBlockedRequest_self {service : Service} {path : String}
    (blocks : service.blockedPaths = [path])
    (notOutpost : Text.startsWith authentikOutpostPathPrefix path = false) :
    IsBlockedRequest service ⟨service.domain.value, path⟩ :=
  { onDomain := by simp [onDomain]
    blocked := ⟨path, by simp [blocks], by simp [Text.startsWith]⟩
    notOutpost }

variable (settings : Settings) in
/-- **Blocked paths never reach the upstream.** A request for a blocked path of an
active service is taken by a block router, and the routers of a service under
maintenance lead to the maintenance page or to `https`. -/
theorem blockedPaths_win (service : Service) (middlewareTemplates : List MiddlewareTemplate) :
    (service.routingMode ≠ .maintenance → service.domain.value.length < 192 →
      (∀ path ∈ service.blockedPaths, isQuotable path = true) →
        BlockedPathsWin settings service middlewareTemplates) ∧
    (service.routingMode = .maintenance → ∀ name router,
      (generate settings service middlewareTemplates).routers.get? name = some router →
        LeadsToMaintenance (generate settings service middlewareTemplates) router) := by
  refine ⟨fun active short quotable => ?_, fun maintenance name router listed => ?_⟩
  · exact blockedPathsWin_of_short settings active quotable short middlewareTemplates
  · rw [generate_maintenance maintenance] at listed ⊢
    exact leadsToMaintenance settings listed

theorem blockedPaths_win_example :
    (∃ service, Service.create (blockingArguments "a.com" "active" "/admin") ⟨1⟩ "" = .ok service ∧
      BlockedPathsWin defaultSettings service []) ∧
    (∃ service,
      Service.create (blockingArguments "a.com" "maintenance" "/admin") ⟨1⟩ "" = .ok service ∧
        ∀ name router, (generate defaultSettings service []).routers.get? name = some router →
          LeadsToMaintenance (generate defaultSettings service []) router) := by
  obtain ⟨active, isActive, domain, mode, blocks⟩ :=
    exists_blockingService "a.com" "active" "/admin" .active (by decide)
  obtain ⟨paused, isPaused, _, pausedMode, _⟩ := exists_pausedService
  refine ⟨⟨active, isActive, ?_⟩, ⟨paused, isPaused, ?_⟩⟩
  · refine (blockedPaths_win defaultSettings active []).1 (by simp [mode]) ?_ ?_
    · rw [domain]
      decide
    · rw [blocks]
      decide
  · exact (blockedPaths_win defaultSettings paused []).2 pausedMode

/-- Blocked paths do not win during maintenance, for a domain whose rule is longer
than their priority, or where their rule cannot be read. -/
theorem blockedPaths_bypassed :
    (∃ service,
      Service.create (blockingArguments "a.com" "maintenance" "/admin") ⟨1⟩ "" = .ok service ∧
        ¬BlockedPathsWin defaultSettings service []) ∧
    (∃ service, Service.create (blockingArguments longDomain "active" "/admin") ⟨1⟩ "" = .ok service ∧
      ¬BlockedPathsWin defaultSettings service []) ∧
    (∃ service, Service.create (blockingArguments "a.com" "active" "/a`b") ⟨1⟩ "" = .ok service ∧
      ¬BlockedPathsWin defaultSettings service []) := by
  refine ⟨?_, ?_, ?_⟩
  · obtain ⟨service, isService, _, mode, blocks⟩ := exists_pausedService
    refine ⟨service, isService, fun win => ?_⟩
    exact (exists_rule_of_blockedPathsWin defaultSettings win
      (isBlockedRequest_self blocks (by decide))).1 mode
  · obtain ⟨service, isService, domain, mode, blocks⟩ :=
      exists_blockingService longDomain "active" "/admin" .active (by decide +kernel)
    refine ⟨service, isService, fun win => ?_⟩
    have active : service.routingMode ≠ .maintenance := by simp [mode]
    have quotable : ∀ path ∈ service.blockedPaths, isQuotable path = true := by
      rw [blocks]
      decide
    rcases (blockedPathsWin_iff defaultSettings active quotable []).mp win with short | outpost
    · rw [domain, length_longDomain] at short
      exact absurd short (by decide)
    · rw [blocks] at outpost
      revert outpost
      decide
  · obtain ⟨service, isService, domain, mode, blocks⟩ :=
      exists_blockingService "a.com" "active" "/a`b" .active (by decide)
    refine ⟨service, isService, fun win => ?_⟩
    obtain ⟨_, path, listed, matched⟩ := exists_rule_of_blockedPathsWin defaultSettings win
      (isBlockedRequest_self blocks (by decide))
    have unreadable : Rule.read (pathRule service.domain "/a`b") = none := by
      rw [pathRule, domain]
      decide
    rw [blocks, List.mem_singleton] at listed
    rw [listed, unreadable] at matched
    cases matched

end BlockedPathExamples

end TraefikManager.Traefik
