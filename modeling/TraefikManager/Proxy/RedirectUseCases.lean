import TraefikManager.Proxy.ServiceUseCases

/-!
# Use cases of redirect hosts

A redirect host is added, or moved to another domain, only when no redirect host and
no service has the domain.
-/

namespace TraefikManager.Proxy

open Foundation Domain Traefik

variable (environment : ProxyEnvironment)

/-- `RedirectHostCreate`. -/
structure RedirectHostCreate where
  domain : String
  targetUrl : String
  permanent : Bool := true
  tlsEnabled : Bool := true

/-- The submitted fields of `RedirectHostUpdate`. -/
structure RedirectHostUpdate where
  domain : Option String := none
  targetUrl : Option String := none
  permanent : Option Bool := none
  tlsEnabled : Option Bool := none

/-- `find_by_id`. -/
def findRedirectHostById (redirectId : Uuid) : ProxyProgram (Option RedirectHost) :=
  query environment .findRedirectHostById fun database =>
    Table.find RedirectHost.id database.redirectHosts redirectId

/-- `find_by_domain`. -/
def findRedirectHostByDomain (domain : String) : ProxyProgram (Option RedirectHost) :=
  query environment .findRedirectHostByDomain fun database =>
    database.redirectHosts.find? (·.domain.value = domain)

/-- `save`. -/
def saveRedirectHost (redirectHost : RedirectHost) : ProxyProgram PUnit :=
  write environment .saveRedirectHost fun database =>
    { database with
      redirectHosts := Table.save RedirectHost.id database.redirectHosts redirectHost }

/-- `delete`. -/
def deleteRedirectHostRow (redirectId : Uuid) : ProxyProgram PUnit :=
  write environment .deleteRedirectHostRow fun database =>
    { database with redirectHosts := Table.delete RedirectHost.id database.redirectHosts redirectId }

/-- `_validate_domain_available`. -/
def validateDomainAvailable (domain : String) : ProxyProgram PUnit := do
  let existingRedirect ← findRedirectHostByDomain environment domain
  if existingRedirect.isSome then
    throw (.valueError ("이미 리다이렉트가 등록된 도메인입니다: " ++ domain))
  let existingService ← findServiceByDomain environment domain
  if existingService.isSome then
    throw (.valueError ("이미 서비스로 등록된 도메인입니다: " ++ domain))

/-- The file of a redirect host, written. -/
def writeRedirectFile (redirectHost : RedirectHost) : ProxyProgram PUnit :=
  touchFile environment .writeRedirectFile (·.writeRedirectHost environment.settings redirectHost)

/-- The file of a redirect host at a domain, removed. -/
def deleteRedirectFile (domain : DomainName) : ProxyProgram PUnit :=
  touchFile environment .deleteRedirectFile (·.deleteRedirectHostByDomain domain)

/-- `create_redirect_host`. -/
def createRedirectHost (data : RedirectHostCreate) : ProxyProgram RedirectHost := do
  validateDomainAvailable environment data.domain
  let redirectHost ← Program.ofExcept
    (RedirectHost.create data.domain data.targetUrl data.permanent data.tlsEnabled environment.newId)
  writeRedirectFile environment redirectHost
  saveRedirectHost environment redirectHost
  pure redirectHost

/-- `update_redirect_host`. -/
def updateRedirectHost (redirectId : Uuid) (data : RedirectHostUpdate) :
    ProxyProgram (Option RedirectHost) := do
  match ← findRedirectHostById environment redirectId with
  | none => pure none
  | some redirectHost =>
      let previousDomain := redirectHost.domain
      match orText data.domain none with
      | some targetDomain =>
          if targetDomain ≠ previousDomain.value then
            validateDomainAvailable environment targetDomain
      | none => pure ⟨⟩
      let updated ← Program.ofExcept
        (redirectHost.update data.domain data.targetUrl data.permanent data.tlsEnabled)
      if previousDomain.value ≠ updated.domain.value then
        deleteRedirectFile environment previousDomain
      writeRedirectFile environment updated
      saveRedirectHost environment updated
      pure (some updated)

/-- `delete_redirect_host`. -/
def deleteRedirectHost (redirectId : Uuid) : ProxyProgram PUnit := do
  match ← findRedirectHostById environment redirectId with
  | none => pure ⟨⟩
  | some redirectHost =>
      deleteRedirectFile environment redirectHost.domain
      deleteRedirectHostRow environment redirectId

end TraefikManager.Proxy
