import TraefikManager.Traefik.Names

/-!
# The names in a document

A document defines routers, middlewares, services and transports, and its routers and services
refer to some by name. A reference points to a name in any file of the directory, unless it names
another provider.
-/

namespace TraefikManager.Traefik

open Foundation Domain

section References

/-- The name in the files of the directory that a reference points to. -/
def target? (reference : String) : Option String :=
  match Text.split '@' reference with
  | [name] => some name
  | [name, provider] => if provider = "file" then some name else none
  | _ => none

namespace HttpConfig

variable (document : HttpConfig)

/-- The middlewares that the routers of a document carry. -/
def middlewareTargets : List String :=
  (document.routers.values.flatMap (·.middlewares)).filterMap target?

/-- The services that the routers of a document lead to. -/
def serviceTargets : List String := (document.routers.values.map (·.service)).filterMap target?

/-- The transports that the services of a document use. -/
def transportTargets : List String :=
  (document.services.values.filterMap (·.serversTransport)).filterMap target?

end HttpConfig

variable {document : HttpConfig} {name : String}

end References

variable (settings : Settings)

/-- What has a document: a service with its resolved templates, a redirect host,
or a middleware template. -/
inductive Resource where
  | ofService (service : Service) (middlewareTemplates : List MiddlewareTemplate)
  | ofRedirectHost (redirectHost : RedirectHost)
  | ofTemplate (template : MiddlewareTemplate)

namespace Resource

/-- The file a resource is written to or deleted from. Templates share a reserved file. -/
def file? : Resource → Option String
  | ofService service _ => some (serviceFile service.domain)
  | ofRedirectHost redirectHost => some (redirectFile redirectHost.domain)
  | ofTemplate _ => none

/-- The document of a resource; a disabled service has none. -/
def document? : Resource → Option HttpConfig
  | ofService service middlewareTemplates => serviceDocument settings service middlewareTemplates
  | ofRedirectHost redirectHost => some (generateRedirectHost settings redirectHost)
  | ofTemplate template => some (generateSharedMiddlewareTemplates [template])

/-- The names of one kind that the document of a resource defines. -/
def names {α : Type} (kind : HttpConfig → Dict String α) (resource : Resource) : List String :=
  match resource.document? settings with
  | some document => (kind document).keys
  | none => []

/-- The names of one kind that the document of a resource refers to. -/
def targets (kind : HttpConfig → List String) (resource : Resource) : List String :=
  match resource.document? settings with
  | some document => kind document
  | none => []

/-- The template that a resource stands for is one that another lists. -/
def Lists : Resource → Resource → Prop
  | ofService _ middlewareTemplates, ofTemplate template =>
      ∃ listed ∈ middlewareTemplates, listed.id = template.id
  | _, _ => False

end Resource

section Names

/-- The suffixes of the routers that a service emits beside the one of its domain. -/
def emittedRouterSuffixes (service : Service) : List String :=
  match service.routingMode with
  | .active => routerSuffixes service
  | .maintenance => "maintenance-assets" :: if redirectsToHttps service then ["redirect"] else []
  | .disabled => []

variable {settings}

private theorem serviceDocument_of_disabled {service : Service}
    (disabled : service.routingMode = .disabled) (middlewareTemplates : List MiddlewareTemplate) :
    serviceDocument settings service middlewareTemplates = none := by
  rw [serviceDocument, if_pos disabled]

private theorem serviceDocument_of_enabled {service : Service}
    (enabled : service.routingMode ≠ .disabled) (middlewareTemplates : List MiddlewareTemplate) :
    serviceDocument settings service middlewareTemplates =
      some (generate settings service middlewareTemplates) := by
  rw [serviceDocument, if_neg enabled]

/-- The names of a kind are the keys of the document, when there is one. -/
theorem mem_names {α : Type} {kind : HttpConfig → Dict String α} {resource : Resource}
    {name : String} :
    name ∈ resource.names settings kind ↔
      ∃ document, resource.document? settings = some document ∧ name ∈ (kind document).keys := by
  unfold Resource.names
  split
  · rename_i document found
    simp [found]
  · rename_i missing
    simp [missing]

/-- The routers of a service: its own and those of the suffixes. -/
theorem mem_routerNames_service {service : Service} {middlewareTemplates : List MiddlewareTemplate}
    {name : String} :
    name ∈ (Resource.ofService service middlewareTemplates).names settings HttpConfig.routers ↔
      service.routingMode ≠ .disabled ∧
        (name = toSafeName service.domain.value ∨ ∃ suffix ∈ emittedRouterSuffixes service,
          name = middlewareName (toSafeName service.domain.value) suffix) := by
  rw [mem_names, Resource.document?]
  cases mode : service.routingMode with
  | disabled => simp [serviceDocument_of_disabled mode]
  | active =>
      rw [serviceDocument_of_enabled (by simp [mode]), generate_active (by simp [mode])]
      simp only [Option.some.injEq, exists_eq_left', buildServiceConfig, Dict.mem_keys_ofList,
        serviceRouters_names, List.mem_cons, List.mem_map, emittedRouterSuffixes, mode, ne_eq,
        reduceCtorEq, not_false_eq_true, true_and, @eq_comm _ name]
  | maintenance =>
      rw [serviceDocument_of_enabled (by simp [mode]), generate_maintenance mode]
      simp only [Option.some.injEq, exists_eq_left', buildMaintenanceServiceConfig,
        Dict.mem_keys_ofList, maintenanceRouters_names, List.mem_cons, List.mem_map,
        emittedRouterSuffixes, mode, ne_eq, reduceCtorEq, not_false_eq_true, true_and,
        @eq_comm _ name]

end Names

section Targets

variable {settings}

/-- No name that is made of a domain and of a suffix of its own names a provider. -/
theorem plain_name {domain : DomainName} {base : String} (isBase : base = toSafeName domain.value ∨
    base = redirectBaseName domain) : '@' ∉ base.toList := by
  have safe : '@' ∉ (toSafeName domain.value).toList := by
    intro member
    rcases mem_toSafeName member with letter | dash | lineFeed
    · exact absurd letter (by decide)
    · exact absurd dash (by decide)
    · exact absurd lineFeed (by decide)
  rcases isBase with rfl | rfl
  · exact safe
  · intro member
    rw [redirectBaseName, String.toList_append, List.mem_append] at member
    exact member.elim (by decide) safe

/-- The names that the routers of a service may share with those of others. -/
def sharedServices (service : Service) : List String :=
  match service.routingMode with
  | .active => if service.authMode = .authentik then ["authentik-outpost"] else []
  | .maintenance => ["traefik-manager-frontend-file"]
  | .disabled => []

end Targets

end TraefikManager.Traefik
