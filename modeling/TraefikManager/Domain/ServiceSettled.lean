import TraefikManager.Domain.ServiceInvariant

/-!
# Settled services

The fields of a service that do not depend on each other are in the form their
normalizers leave alone. With the invariant of the aggregate this means that
submitting a service's own values again changes nothing.
-/

namespace TraefikManager.Domain.Service

open Foundation

/-- Every independent field is in its normal form. -/
structure Settled (service : Service) : Prop where
  maintenanceMessage :
    normalizeMaintenanceMessage service.maintenanceMessage = .ok service.maintenanceMessage
  maintenanceUntil : ∀ moment, service.maintenanceUntil = some moment → moment.aware = true
  middlewareTemplateIds : Tidy IsTemplateReference service.middlewareTemplateIds
  healthcheckPath : normalizeHealthcheckPath service.healthcheckPath = .ok service.healthcheckPath
  healthcheckTimeoutMs :
    normalizeHealthcheckTimeoutMs service.healthcheckTimeoutMs = .ok service.healthcheckTimeoutMs
  healthcheckExpectedStatuses :
    normalizeHealthcheckExpectedStatuses (some service.healthcheckExpectedStatuses) =
      .ok service.healthcheckExpectedStatuses

private theorem aware_of_normalize {value result : Option Datetime}
    (done : normalizeMaintenanceUntil value = .ok result) :
    ∀ moment, result = some moment → moment.aware = true := by
  rintro moment rfl
  cases value with
  | none => cases done
  | some requested =>
      unfold normalizeMaintenanceUntil at done
      by_cases aware : requested.aware = true
      · simp only [aware, if_true, Except.ok.injEq, Option.some.injEq] at done
        rwa [← done]
      · simp [aware] at done

variable {service next : Service} {arguments : ServiceUpdateArguments} {generated : String}

theorem Settled.updateTransport (settled : service.Settled)
    (updated : service.updateTransport arguments = .ok next) : next.Settled := by
  have update := updateTransport_ok updated
  rw [update.rest]
  refine { settled with maintenanceMessage := ?_, maintenanceUntil := ?_ }
  · exact changed_ok (fun text => normalizeMaintenanceMessage text = .ok text)
      settled.maintenanceMessage (fun _ _ done => (maintenanceMessage_fixed done).1)
      update.maintenanceMessage
  · have requested := update.maintenanceUntil
    unfold requestedMaintenanceUntil at requested
    split at requested
    · rw [← Except.ok.inj requested]
      rintro moment ⟨⟩
    · split at requested
      · exact aware_of_normalize requested
      · rw [← Except.ok.inj requested]
        exact settled.maintenanceUntil

theorem Settled.updateAuth (settled : service.Settled)
    (updated : service.updateAuth arguments generated = .ok next) : next.Settled := by
  rw [(updateAuth_ok updated).rest]
  exact { settled with }

theorem Settled.updateAccess (settled : service.Settled)
    (updated : service.updateAccess arguments = .ok next) : next.Settled := by
  have update := updateAccess_ok updated
  rw [update.rest]
  exact
    { settled with
      middlewareTemplateIds := changed_ok _ settled.middlewareTemplateIds
        (fun _ _ done => middlewareTemplateIds_tidy done) update.middlewareTemplateIds
      healthcheckPath :=
        changed_ok (fun path => normalizeHealthcheckPath path = .ok path)
          settled.healthcheckPath (fun _ _ done => healthcheckPath_fixed done) update.healthcheckPath
      healthcheckTimeoutMs :=
        changed_ok (fun timeout => normalizeHealthcheckTimeoutMs timeout = .ok timeout)
          settled.healthcheckTimeoutMs (fun _ _ done => healthcheckTimeoutMs_fixed done)
          update.healthcheckTimeoutMs
      healthcheckExpectedStatuses :=
        changed_ok (fun statuses =>
            normalizeHealthcheckExpectedStatuses (some statuses) = .ok statuses)
          settled.healthcheckExpectedStatuses
          (fun _ _ done => healthcheckExpectedStatuses_fixed done)
          update.healthcheckExpectedStatuses }

theorem Settled.update (settled : service.Settled)
    (updated : service.update arguments generated = .ok next) : next.Settled := by
  simp only [Service.update, bind_eq_ok] at updated
  obtain ⟨transported, isTransported, authenticated, isAuthenticated, isNext⟩ := updated
  exact ((settled.updateTransport isTransported).updateAuth isAuthenticated).updateAccess isNext

end TraefikManager.Domain.Service
