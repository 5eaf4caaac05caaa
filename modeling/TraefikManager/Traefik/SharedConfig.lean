import Mathlib.Data.String.Basic
import TraefikManager.Domain.RedirectHost
import TraefikManager.Traefik.ServiceConfig

/-!
# The other documents

The document of a redirect host, and the documents all services share: the
middleware templates, and the Authentik middleware with its outpost.
-/

namespace TraefikManager.Traefik

open Foundation Domain

variable (settings : Settings)

section RedirectHosts

/-- `_build_redirect_replacement`. -/
def redirectReplacement (targetUrl : String) : String :=
  Text.rstripChar '/' targetUrl ++ "$\x7b1\x7d"

def redirectBaseName (domain : DomainName) : String := "redirect-" ++ toSafeName domain.value

/-- The middlewares of `build_redirect_host_config`. -/
def redirectMiddlewares (redirectHost : RedirectHost) : List (String × Middleware) :=
  let baseName := redirectBaseName redirectHost.domain
  (middlewareName baseName "host-redirect",
    .redirectRegex ("^https?://" ++ Text.escape redirectHost.domain.value ++ "(.*)")
      (redirectReplacement redirectHost.targetUrl) redirectHost.permanent) ::
  if redirectHost.tlsEnabled then
    [(middlewareName baseName "force-https", .redirectScheme "https" redirectHost.permanent)]
  else []

/-- `_build_redirect_host_routers`. -/
def redirectRouters (redirectHost : RedirectHost) : List (String × Router) :=
  let baseName := redirectBaseName redirectHost.domain
  let hostRedirect := middlewareName baseName "host-redirect"
  if redirectHost.tlsEnabled then
    [(middlewareName baseName "web",
        { rule := hostRule redirectHost.domain, service := "noop@internal", entryPoints := ["web"]
          middlewares := [middlewareName baseName "force-https"] }),
      (middlewareName baseName "websecure",
        { rule := hostRule redirectHost.domain, service := "noop@internal"
          entryPoints := ["websecure"], tls := some (buildTlsConfig settings)
          middlewares := [hostRedirect] })]
  else
    [(middlewareName baseName "web",
      { rule := hostRule redirectHost.domain, service := "noop@internal", entryPoints := ["web"]
        middlewares := [hostRedirect] })]

/-- `generate_redirect_host`. -/
def generateRedirectHost (redirectHost : RedirectHost) : HttpConfig :=
  { routers := Dict.ofList (redirectRouters settings redirectHost)
    middlewares := Dict.ofList (redirectMiddlewares redirectHost) }

end RedirectHosts

section SharedDocuments

def templateMiddleware : TemplateConfig → Middleware
  | .ipAllowList sourceRange => .ipAllowList sourceRange
  | .rateLimit average burst => .rateLimit average burst
  | .basicAuth users => .basicAuth users
  | .headers customResponseHeaders => .customResponseHeaders customResponseHeaders

/-- `build_shared_middleware_templates_config`. -/
def generateSharedMiddlewareTemplates (templates : List MiddlewareTemplate) : HttpConfig :=
  let sorted := templates.insertionSort fun first second => first.sharedName ≤ second.sharedName
  { middlewares := Dict.ofList (sorted.map fun template =>
      (template.sharedName, templateMiddleware template.config)) }

/-- `AUTHENTIK_FORWARD_AUTH_CONFIG`. -/
def authentikForwardAuthConfig : HttpConfig :=
  { middlewares := Dict.ofList [("authentik", .forwardAuth
      { address := "http://authentik-server:9000/outpost.goauthentik.io/auth/traefik"
        maxResponseBodySize := forwardAuthMaxResponseBodySize
        trustForwardHeader := true
        authResponseHeaders :=
          ["X-authentik-username", "X-authentik-groups", "X-authentik-email", "X-authentik-name",
            "X-authentik-uid", "X-authentik-jwt", "X-authentik-meta-jwks",
            "X-authentik-meta-outpost", "X-authentik-meta-provider", "X-authentik-meta-app",
            "X-authentik-meta-version"] })]
    services := Dict.ofList [("authentik-outpost", { url := "http://authentik-server:9000" })] }

end SharedDocuments

end TraefikManager.Traefik
