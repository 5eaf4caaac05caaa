import TraefikManager.Proxy.ServiceCalls

/-!
# Expired maintenance

A background pass ends the maintenance of every service whose time is over, each in a session of
its own. Its record of the change asks, on a rollback, for maintenance without an end.
-/

namespace TraefikManager.Proxy

open Foundation Domain Traefik

/-- `_is_expired`. -/
def isExpired (service : Service) (now : Datetime) : Bool :=
  service.routingMode = .maintenance &&
    service.maintenanceUntil.any fun moment => moment.normalizeUtc.micros ≤ now.micros

/-- The update that ends a maintenance. -/
def endMaintenance : ServiceUpdateArguments :=
  { routingMode := some "active", clearMaintenanceUntil := true }

section Transition

variable (environment : ProxyEnvironment) (serviceId : Uuid) (now : Datetime)

/-- The changes of `_transition_service` before its commit: the name of the service, when its
maintenance is over. -/
def endExpiredMaintenance : ProxyProgram (Option String) := do
  match ← findServiceById environment .findServiceById serviceId with
  | none => pure none
  | some service =>
      if isExpired service now then
        let updated ← Program.ofExcept (service.update endMaintenance environment.generatedKey)
        let templates ← resolve environment updated.middlewareTemplateIds
        writeServiceFile environment updated templates
        saveService environment updated
        let previousUntil := (service.maintenanceUntil.map (·.normalizeUtc.isoformat)).getD ""
        recordAudit environment "update" "service" updated.id
          (.maintenanceExpired previousUntil now.isoformat)
        pure (some updated.name)
      else
        pure none

/-- `_transition_service`. A session that is not committed is discarded. -/
def transitionService : ProxyProgram (Option String) :=
  request environment (endExpiredMaintenance environment serviceId now)

variable {environment serviceId now} {session : ProxySession}

end Transition

end TraefikManager.Proxy
