import TraefikManager.Traefik.SharedConfig

/-!
# The file provider directory

Traefik reads every document of one directory. Files are written beside their
target and moved into place, so a file has its old content or its new one.
-/

namespace TraefikManager.Traefik

open Foundation Domain

/-- The files of the configuration directory, by name. -/
structure Directory where
  file? : String → Option HttpConfig

namespace Directory

@[ext] theorem ext {first second : Directory} (same : ∀ name, first.file? name = second.file? name) :
    first = second := by
  cases first
  cases second
  congr 1
  exact funext same

/-- The directory without files. -/
def empty : Directory := ⟨fun _ => none⟩

/-- `_write_text_atomic`. -/
def write (directory : Directory) (name : String) (content : HttpConfig) : Directory :=
  ⟨fun other => if other = name then some content else directory.file? other⟩

/-- `file_path.unlink()` when the file exists. -/
def unlink (directory : Directory) (name : String) : Directory :=
  ⟨fun other => if other = name then none else directory.file? other⟩

variable (directory : Directory) (name other : String) (content : HttpConfig)

@[simp] theorem file?_write :
    (directory.write name content).file? other =
      if other = name then some content else directory.file? other := rfl

@[simp] theorem file?_unlink :
    (directory.unlink name).file? other = if other = name then none else directory.file? other := rfl

@[simp] theorem file?_empty : empty.file? name = none := rfl

end Directory

def authentikMiddlewareFile : String := "authentik-middleware.yml"

def sharedMiddlewareTemplatesFile : String := "shared-middleware-templates.yml"

def traefikDashboardPublicFile : String := "traefik-dashboard-public.yml"

/-- The files that belong to no service and no redirect host. -/
def reservedFiles : List String :=
  [authentikMiddlewareFile, sharedMiddlewareTemplatesFile, traefikDashboardPublicFile]

/-- `_get_service_file_path`. -/
def serviceFile (domain : DomainName) : String :=
  Text.replaceChar '.' '-' domain.value ++ ".yml"

/-- `_get_redirect_file_path_by_domain`. -/
def redirectFile (domain : DomainName) : String :=
  "redirect-" ++ Text.replaceChar '.' '-' domain.value ++ ".yml"

namespace Directory

variable (settings : Settings) (directory : Directory)

/-- `FileProviderWriter.delete`. -/
def deleteService (service : Service) : Directory := directory.unlink (serviceFile service.domain)

/-- `FileProviderWriter.write`. -/
def writeService (service : Service) (middlewareTemplates : List MiddlewareTemplate) : Directory :=
  if service.routingMode = .disabled then
    directory.deleteService service
  else
    directory.write (serviceFile service.domain) (generate settings service middlewareTemplates)

/-- `write_shared_middleware_templates`. -/
def writeSharedMiddlewareTemplates (templates : List MiddlewareTemplate) : Directory :=
  if templates = [] then
    directory.unlink sharedMiddlewareTemplatesFile
  else
    directory.write sharedMiddlewareTemplatesFile (generateSharedMiddlewareTemplates templates)

/-- `write_redirect_host`. -/
def writeRedirectHost (redirectHost : RedirectHost) : Directory :=
  directory.write (redirectFile redirectHost.domain) (generateRedirectHost settings redirectHost)

/-- `delete_redirect_host_by_domain`. -/
def deleteRedirectHostByDomain (domain : DomainName) : Directory :=
  directory.unlink (redirectFile domain)

/-- `write_authentik_middleware`. -/
def writeAuthentikMiddleware : Directory :=
  directory.write authentikMiddlewareFile authentikForwardAuthConfig

/-- `delete_authentik_middleware_if_unused`. -/
def deleteAuthentikMiddlewareIfUnused (remainingAuthServiceCount : Nat) : Directory :=
  if 0 < remainingAuthServiceCount then directory else directory.unlink authentikMiddlewareFile

end Directory

/-- What the file of a service should be: nothing for a disabled service. -/
def serviceDocument (settings : Settings) (service : Service)
    (middlewareTemplates : List MiddlewareTemplate) : Option HttpConfig :=
  if service.routingMode = .disabled then none
  else some (generate settings service middlewareTemplates)

/-- Writing a service sets its file to its document and leaves every other file. -/
@[simp] theorem Directory.file?_writeService (settings : Settings) (directory : Directory)
    (service : Service) (middlewareTemplates : List MiddlewareTemplate) (name : String) :
    (directory.writeService settings service middlewareTemplates).file? name =
      if name = serviceFile service.domain then
        serviceDocument settings service middlewareTemplates
      else directory.file? name := by
  unfold writeService serviceDocument deleteService
  by_cases disabled : service.routingMode = .disabled
  · simp [disabled]
  · simp [disabled]

end TraefikManager.Traefik
