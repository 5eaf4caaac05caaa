import TraefikManager.Auth.UserRollback
import TraefikManager.Proxy.ResourceRollbacks

/-!
# Rollbacks of redirect hosts, middleware templates and users

Each of the three kinds is lawful, and whatever else happens to its tables keeps them sound.
-/

namespace TraefikManager.Audit

open Foundation Proxy Auth

section Runs

/-- Another operation on the proxy configuration. -/
def Operates (before after : ProxySession) : Prop :=
  ∃ operation : Operation, after = Program.finalState operation.run before

/-- A run of the routes of redirect hosts in a new installation, beside other operations. -/
abbrev RedirectRun : AuditedSession Database Outside RedirectAuditSummary RedirectHostUpdate → Prop :=
  AuditedRun redirectKind redirectUseCases (· = {}) Operates

/-- A run of the routes of templates in a new installation, beside other operations. -/
abbrev MiddlewareRun :
    AuditedSession Database Outside MiddlewareAuditSummary MiddlewareTemplateUpdate → Prop :=
  AuditedRun middlewareKind middlewareUseCases (· = {}) Operates

/-- A run of the routes of users in a new installation, beside whatever else changes users. -/
abbrev UserRun : AuditedSession UserTable PUnit UserAuditSummary UserUpdate → Prop :=
  AuditedRun userKind userUseCases InitialUsers ChangesUsers

private theorem normal_operates {before after : ProxySession} (operates : Operates before after)
    (normal : NormalResources before.stored) : NormalResources after.stored := by
  obtain ⟨operation, rfl⟩ := operates
  exact normal_run normal operation

private theorem normal_empty (database : Database) (empty : database = {}) :
    NormalResources database := by
  rw [empty]
  exact ⟨by simp, by simp⟩

/-- **Rollbacks restore what was recorded.** In every session that a run reaches, rolling a
recorded change of a redirect host, of a middleware template or of a user back either raises
and stores nothing, or gives every changed key its recorded value and leaves the others, in
tables that keep the rules of the kind. -/
theorem rollbacks_restore :
    (∀ session, RedirectRun session →
      RollbackRestores redirectKind redirectUseCases redirectSpecification session) ∧
    (∀ session, MiddlewareRun session →
      RollbackRestores middlewareKind middlewareUseCases middlewareSpecification session) ∧
    (∀ session, UserRun session →
      RollbackRestores userKind userUseCases userSpecification session) := by
  refine ⟨?_, ?_, ?_⟩
  · intro session run
    exact rollbackRestores_of_run lawful_redirects normal_empty
      (fun _ _ operates => normal_operates operates) run
  · intro session run
    exact rollbackRestores_of_run lawful_templates normal_empty
      (fun _ _ operates => normal_operates operates) run
  · intro session run
    exact rollbackRestores_of_run lawful_users (fun _ => named_initial)
      (fun _ _ changes => named_changes changes) run

end Runs

section Example

abbrev TemplateSession :=
  AuditedSession Database Outside MiddlewareAuditSummary MiddlewareTemplateUpdate

/-- A new installation without audit records. -/
def newInstallation : TemplateSession := ⟨({}, []), ({}, []), {}⟩

/-- After a template is created. -/
def withTemplate : TemplateSession :=
  let created := Program.finalState (Operation.run (.createTemplate {}
    { name := "limit", type := .rateLimit, config := { average := some 10, burst := some 20 } }))
    newInstallation.first
  ⟨(created.stored, []), (created.working, []), created.outside⟩

/-- After it has got another name and other numbers. -/
def changedTemplate : TemplateSession :=
  Program.finalState (inTransaction (middlewareUseCases {})
    (middlewareKind.updateAction (middlewareUseCases {}) "1" ⟨1⟩
      { name := some "slow", config := some { average := some 1, burst := some 2 } }))
    withTemplate

/-- After this change was taken back. -/
def rolledBackTemplate : TemplateSession :=
  Program.finalState (inTransaction (middlewareUseCases {})
    (middlewareKind.rollbackAction (middlewareUseCases {}) "1" "2")) changedTemplate

private theorem run_withTemplate : MiddlewareRun withTemplate := by
  have start : MiddlewareRun newInstallation := .start rfl rfl
  have foreign : ∀ log ∈ ([] : List (ChangeLog MiddlewareAuditSummary MiddlewareTemplateUpdate)),
      ∀ keys before after payload,
        log.detail ≠ .change middlewareKind.updateEvent keys before after payload := by simp
  exact start.elsewhere ⟨_, rfl⟩ foreign

/-- The change of the template is recorded and taken back, and this is recorded as well. -/
theorem rollbacks_restore_example :
    changedTemplate.stored.1.middlewareTemplates.map middlewareAuditSummary =
        [⟨"slow", .rateLimit, .rateLimit 1 2⟩] ∧
      rolledBackTemplate.stored.1.middlewareTemplates.map middlewareAuditSummary =
        [⟨"limit", .rateLimit, .rateLimit 10 20⟩] ∧
      rolledBackTemplate.stored.2.map (·.id) = ["1", "2"] ∧
      RollbackRestores middlewareKind middlewareUseCases middlewareSpecification changedTemplate :=
  ⟨by decide +kernel, by decide +kernel, by decide +kernel,
    rollbacks_restore.2.1 changedTemplate (run_withTemplate.update {} "1" ⟨1⟩
      { name := some "slow", config := some { average := some 1, burst := some 2 } })⟩

end Example

end TraefikManager.Audit
