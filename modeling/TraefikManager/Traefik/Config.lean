import TraefikManager.Domain.Service

/-!
# Traefik dynamic configuration

The documents the manager writes for Traefik: routers with their rule, service
and middlewares, and the definitions of middlewares and services, each kind
under names of its own. A key that the documents leave out is an empty
dictionary, an empty list or `none` here.
-/

namespace TraefikManager.Traefik

open Foundation

/-- The settings the generator reads. -/
structure Settings where
  tokenAuthForwardAuthUrl : String
  traefikTlsCertResolver : String
  deriving DecidableEq, Repr

/-- The settings of an installation that changes none. -/
def defaultSettings : Settings :=
  { tokenAuthForwardAuthUrl := "http://traefik-manager-backend:8000/api/v1/auth/verify"
    traefikTlsCertResolver := "letsencrypt" }

structure TlsConfig where
  certResolver : Option String
  deriving DecidableEq, Repr

structure Router where
  rule : String
  service : String
  entryPoints : List String
  tls : Option TlsConfig := none
  priority : Option Nat := none
  middlewares : List String := []
  deriving DecidableEq, Repr

structure ForwardAuth where
  address : String
  maxResponseBodySize : Nat
  trustForwardHeader : Bool
  authResponseHeaders : List String
  deriving DecidableEq, Repr

inductive Middleware where
  | ipAllowList (sourceRange : List String)
  | rateLimit (average burst : Int)
  | customResponseHeaders (headers : Dict String String)
  | customRequestHeaders (headers : Dict String String)
  | frameDeny
  | customFrameOptionsValue (value : String)
  | basicAuth (users : List String)
  | forwardAuth (settings : ForwardAuth)
  | redirectScheme (scheme : String) (permanent : Bool)
  | redirectRegex (regex replacement : String) (permanent : Bool)
  | replacePath (path : String)
  deriving DecidableEq, Repr

structure LoadBalancer where
  url : String
  serversTransport : Option String := none
  deriving DecidableEq, Repr

structure ServersTransport where
  insecureSkipVerify : Bool
  deriving DecidableEq, Repr

/-- One document of the file provider. -/
structure HttpConfig where
  routers : Dict String Router := Dict.empty
  middlewares : Dict String Middleware := Dict.empty
  services : Dict String LoadBalancer := Dict.empty
  serversTransports : Dict String ServersTransport := Dict.empty
  deriving DecidableEq, Repr

/-- A middleware a router carries: defined in the same document, or referred to
in a file that all documents share. -/
inductive Attachment where
  | own (name : String) (definition : Middleware)
  | shared (name : String)
  deriving DecidableEq, Repr

namespace Attachment

/-- The name the router lists. -/
def name : Attachment → String
  | own name _ => name
  | shared name => name ++ "@file"

/-- The entry the document gains. -/
def definition? : Attachment → Option (String × Middleware)
  | own name definition => some (name, definition)
  | shared _ => none

end Attachment

/-- The names a router lists. -/
def attachedNames (attachments : List Attachment) : List String := attachments.map (·.name)

/-- The definitions the document gains. -/
def attachedDefinitions (attachments : List Attachment) : List (String × Middleware) :=
  attachments.filterMap (·.definition?)

@[simp] theorem attachedDefinitions_nil : attachedDefinitions [] = [] := rfl

@[simp] theorem attachedDefinitions_append (first second : List Attachment) :
    attachedDefinitions (first ++ second) =
      attachedDefinitions first ++ attachedDefinitions second :=
  List.filterMap_append

@[simp] theorem attachedDefinitions_own (name : String) (definition : Middleware)
    (rest : List Attachment) :
    attachedDefinitions (.own name definition :: rest) =
      (name, definition) :: attachedDefinitions rest := rfl

@[simp] theorem attachedDefinitions_shared (name : String) (rest : List Attachment) :
    attachedDefinitions (.shared name :: rest) = attachedDefinitions rest := rfl

/-- What is attached with a definition is defined. -/
theorem mem_attachedDefinitions {attachments : List Attachment} {name : String}
    {definition : Middleware} (member : .own name definition ∈ attachments) :
    (name, definition) ∈ attachedDefinitions attachments :=
  List.mem_filterMap.mpr ⟨_, member, rfl⟩

def forwardAuthMaxResponseBodySize : Nat := 64 * 1024

def authentikMiddleware : String := "authentik@file"

def authentikOutpostService : String := "authentik-outpost@file"

def authentikOutpostPathPrefix : String := "/outpost.goauthentik.io/"

def tokenAuthMiddlewareSuffix : String := "token-auth"

/-- `_to_safe_name`. -/
def toSafeName (domain : String) : String :=
  Text.replaceChar '_' '-' (Text.replaceChar '.' '-' domain)

/-- A safe name consists of letters, digits and dashes, a final line feed apart. -/
theorem mem_toSafeName {domain : Domain.DomainName} {c : Char}
    (member : c ∈ (toSafeName domain.value).toList) :
    Domain.isAlphanumeric c = true ∨ c = '-' ∨ c = '\n' := by
  simp only [toSafeName, Text.replaceChar, String.toList_ofList, List.map_map, List.mem_map,
    Function.comp_apply] at member
  obtain ⟨original, inDomain, rfl⟩ := member
  rcases domain.isDomainChar_of_mem inDomain with isChar | rfl
  · simp only [Domain.isDomainChar, Bool.or_eq_true, decide_eq_true_eq] at isChar
    rcases isChar with (alphanumeric | rfl) | rfl
    · by_cases dot : original = '.'
      · subst dot
        exact .inr (.inl (by decide))
      · by_cases underscore : original = '_'
        · subst underscore
          exact .inr (.inl (by decide))
        · simp [dot, underscore, alphanumeric]
    · exact .inr (.inl (by decide))
    · exact .inr (.inl (by decide))
  · exact .inr (.inr (by decide))

/-- The name of a service's own router or middleware: `f"{router_name}-{suffix}"`. -/
def middlewareName (routerName suffix : String) : String := routerName ++ "-" ++ suffix

/-- The suffix is read off the name. -/
theorem middlewareName_injective (routerName : String) :
    Function.Injective (middlewareName routerName) := by
  intro first second same
  simpa [middlewareName] using same

/-- A name with a suffix is not the name of the router. -/
theorem middlewareName_ne (routerName suffix : String) :
    middlewareName routerName suffix ≠ routerName := by
  intro same
  have lengths : (routerName ++ "-" ++ suffix).length = routerName.length :=
    congrArg String.length same
  have dash : "-".length = 1 := rfl
  simp only [String.length_append, dash] at lengths
  omega

/-- `_build_tls_config`. -/
def buildTlsConfig (settings : Settings) : TlsConfig :=
  let certResolver := Text.strip settings.traefikTlsCertResolver
  { certResolver := if certResolver = "" then none else some certResolver }

/-- The rule that matches every request to a domain. -/
def hostRule (domain : Domain.DomainName) : String := "Host(`" ++ domain.value ++ "`)"

/-- The rule that matches the requests to a domain whose path starts so. -/
def pathRule (domain : Domain.DomainName) (path : String) : String :=
  "Host(`" ++ domain.value ++ "`) && PathPrefix(`" ++ path ++ "`)"

/-- `assign_entrypoint`. -/
def assignEntrypoint (settings : Settings) (tlsEnabled : Bool) (router : Router) : Router :=
  if tlsEnabled then
    { router with entryPoints := ["websecure"], tls := some (buildTlsConfig settings) }
  else
    { router with entryPoints := ["web"] }

section AssignEntrypoint

variable (settings : Settings) (tlsEnabled : Bool) (router : Router)

@[simp] theorem assignEntrypoint_rule :
    (assignEntrypoint settings tlsEnabled router).rule = router.rule := by
  unfold assignEntrypoint
  split <;> rfl

@[simp] theorem assignEntrypoint_service :
    (assignEntrypoint settings tlsEnabled router).service = router.service := by
  unfold assignEntrypoint
  split <;> rfl

@[simp] theorem assignEntrypoint_priority :
    (assignEntrypoint settings tlsEnabled router).priority = router.priority := by
  unfold assignEntrypoint
  split <;> rfl

@[simp] theorem assignEntrypoint_middlewares :
    (assignEntrypoint settings tlsEnabled router).middlewares = router.middlewares := by
  unfold assignEntrypoint
  split <;> rfl

end AssignEntrypoint

end TraefikManager.Traefik
