import TraefikManager.Backup.Importer
import TraefikManager.Proxy.ServiceCalls
import TraefikManager.Proxy.TemplateUseCases

/-!
# The operations on the proxy configuration

Every operation that changes services, redirect hosts or middleware templates, each as
the request that carries it, and what each does to the tables.
-/

namespace TraefikManager.Proxy

open Foundation Domain Traefik Backup

section Tables

variable {α : Type} {environment : ProxyEnvironment}

/-- A program that keeps the tables relates its value to them. -/
theorem transacts_of_tables {program : ProxyProgram α} (post : Database → α → Prop)
    (keeps : Program.Keeps tables program (fun seen value => post seen.2 value)) :
    Session.Transacts program (fun before value after =>
      post before.1 value ∧ after.1 = before.1) := by
  refine Session.Transacts.of_keeps keeps (fun _ _ same => congrArg Prod.fst same) ?_
  exact fun before after value same holds => ⟨holds, congrArg Prod.snd same⟩

private theorem transacts_resolve (templateIds : List String) :
    Session.Transacts (resolve environment templateIds) (fun before templates after =>
      resolvedTemplates before.1 templateIds = .ok templates ∧ after.1 = before.1) :=
  transacts_of_tables
    (fun database templates => resolvedTemplates database templateIds = .ok templates)
    (keeps_tables (fun database templates =>
      resolvedTemplates database templateIds = .ok templates)
        (keeps_visible (fun database templates =>
          resolvedTemplates database templateIds = .ok templates)
            (keeps_resolve environment templateIds)))

theorem transacts_findServiceByDomain (domain : String) :
    Session.Transacts (findServiceByDomain environment domain) (fun before found after =>
      found = before.1.services.find? (·.domain.value = domain) ∧ after = before) :=
  transacts_query _ _

theorem transacts_findRedirectHostByDomain (domain : String) :
    Session.Transacts (findRedirectHostByDomain environment domain) (fun before found after =>
      found = before.1.redirectHosts.find? (·.domain.value = domain) ∧ after = before) :=
  transacts_query _ _

theorem transacts_syncSharedMiddlewareTemplates :
    Session.Transacts (syncSharedMiddlewareTemplates environment) (fun before _ after =>
      after.1 = before.1) :=
  (transacts_of_tables (fun _ _ => True)
    (keeps_tables (fun _ _ => True) keeps_syncSharedMiddlewareTemplates)).mono fun _ _ _ same => same.2

theorem transacts_writeServiceFile (service : Service) (templates : List MiddlewareTemplate) :
    Session.Transacts (writeServiceFile environment service templates) (fun before _ after =>
      after.1 = before.1) :=
  (transacts_touchFile _ _).mono fun _ _ _ same => by rw [same]

end Tables

section Services

variable {environment : ProxyEnvironment}

theorem transacts_createServiceAction (data : ServiceCreate) :
    Session.Transacts (createServiceAction environment data) (fun before service after =>
      ∃ prepared, Prepared environment data before.1 prepared ∧ Resynced prepared.1 service ∧
        after.1 = Database.recorded
          { before.1 with services := Table.save Service.id before.1.services service }
          (environment.record "create" service.id (.event "service_create"))) := by
  constructor
  intro session
  refine (ensures_createServiceAction data).mono ?_ fun _ _ raised => raised.1
  rintro service next ⟨prepared, isPrepared, resynced, stored, working, -⟩
  exact ⟨stored, prepared, isPrepared, resynced, working⟩

theorem transacts_updateServiceAction (serviceId : Uuid) (payload : ServiceUpdate) :
    Session.Transacts (updateServiceAction environment serviceId payload)
      (fun before result after => ∃ service edited,
        Table.find Service.id before.1.services serviceId = some service ∧
          Edited environment service payload before.1 edited ∧ result = edited.1 ∧
            after.1 = Database.recorded
              { before.1 with services := Table.save Service.id before.1.services edited.1 }
              (environment.record "update" edited.1.id (updateDetail service edited.1))) := by
  constructor
  intro session
  refine (ensures_updateServiceAction serviceId payload).mono ?_ fun _ _ raised => raised.1
  rintro result next ⟨service, edited, found, isEdited, isResult, stored, working, -⟩
  exact ⟨stored, service, edited, found, isEdited, isResult, working⟩

theorem transacts_deleteServiceAction (serviceId : Uuid) :
    Session.Transacts (deleteServiceAction environment serviceId) (fun before _ after =>
      after.1 = Database.recorded
        { before.1 with services := Table.delete Service.id before.1.services serviceId }
        (environment.record "delete" serviceId (.event "service_delete"))) := by
  constructor
  intro session
  refine (ensures_deleteServiceAction serviceId).mono ?_ fun _ _ raised => raised.1
  rintro _ next ⟨service, found, removed, working⟩
  exact ⟨removed.stored, working⟩

end Services

section RedirectHosts

variable {environment : ProxyEnvironment}

/-- No redirect host and no service has exactly this domain. -/
def Available (database : Database) (domain : String) : Prop :=
  (∀ redirectHost ∈ database.redirectHosts, redirectHost.domain.value ≠ domain) ∧
    ∀ service ∈ database.services, service.domain.value ≠ domain

private theorem transacts_validateDomainAvailable (domain : String) :
    Session.Transacts (validateDomainAvailable environment domain) (fun before _ after =>
      Available before.1 domain ∧ after = before) := by
  unfold validateDomainAvailable
  refine (transacts_findRedirectHostByDomain domain).bind fun redirectHost => ?_
  refine .ite (fun _ => (Session.transacts_throw _)) fun noRedirect => ?_
  refine (transacts_findServiceByDomain domain).bind fun service => ?_
  refine .ite (fun _ => (Session.transacts_throw _)) fun noService => ?_
  refine (Session.transacts_pure _).mono ?_
  rintro last _ after ⟨rfl, rfl⟩ middle ⟨isService, rfl⟩ before ⟨isRedirect, rfl⟩
  rw [isRedirect] at noRedirect
  rw [isService] at noService
  refine ⟨⟨?_, ?_⟩, rfl⟩
  · simpa using noRedirect
  · simpa using noService

private theorem transacts_writeRedirectFile (redirectHost : RedirectHost) :
    Session.Transacts (writeRedirectFile environment redirectHost) (fun before _ after =>
      after.1 = before.1) :=
  (transacts_touchFile _ _).mono fun _ _ _ same => by rw [same]

private theorem transacts_deleteRedirectFile (domain : DomainName) :
    Session.Transacts (deleteRedirectFile environment domain) (fun before _ after =>
      after.1 = before.1) :=
  (transacts_touchFile _ _).mono fun _ _ _ same => by rw [same]

private theorem transacts_saveRedirectHost (redirectHost : RedirectHost) :
    Session.Transacts (saveRedirectHost environment redirectHost) (fun before _ after =>
      after.1 = { before.1 with
        redirectHosts := Table.save RedirectHost.id before.1.redirectHosts redirectHost }) :=
  (transacts_write _ _).mono fun _ _ _ same => by rw [same]

theorem transacts_createRedirectHost (data : RedirectHostCreate) :
    Session.Transacts (createRedirectHost environment data) (fun before redirectHost after =>
      Available before.1 data.domain ∧
        RedirectHost.create data.domain data.targetUrl data.permanent data.tlsEnabled
          environment.newId = .ok redirectHost ∧
        after.1 = { before.1 with
          redirectHosts := Table.save RedirectHost.id before.1.redirectHosts redirectHost }) := by
  unfold createRedirectHost
  refine (transacts_validateDomainAvailable _).bind fun _ => ?_
  refine (Session.transacts_ofExcept _).bind fun redirectHost => ?_
  refine (transacts_writeRedirectFile _).bind fun _ => ?_
  refine (transacts_saveRedirectHost _).bind fun _ => ?_
  refine (Session.transacts_pure _).mono ?_
  rintro fourth _ after ⟨rfl, rfl⟩ third saved second written first ⟨created, rfl⟩ before
    ⟨available, rfl⟩
  exact ⟨available, created, by rw [saved, written]⟩

/-- The check of an update that may move a redirect host. -/
def ensureMovable (environment : ProxyEnvironment) (redirectHost : RedirectHost)
    (domain : Option String) : ProxyProgram PUnit :=
  match orText domain none with
  | some targetDomain =>
      if targetDomain ≠ redirectHost.domain.value then
        validateDomainAvailable environment targetDomain
      else pure ⟨⟩
  | none => pure ⟨⟩

private theorem transacts_ensureMovable (redirectHost : RedirectHost) (domain : Option String) :
    Session.Transacts (ensureMovable environment redirectHost domain) (fun before _ after =>
      (∀ target, orText domain none = some target → target ≠ redirectHost.domain.value →
        Available before.1 target) ∧ after = before) := by
  unfold ensureMovable
  cases orText domain none with
  | none =>
      refine (Session.transacts_pure _).mono ?_
      rintro before _ after ⟨-, rfl⟩
      simp
  | some target =>
      refine .ite (fun moves => ?_) (fun stays => ?_)
      · refine (transacts_validateDomainAvailable target).mono ?_
        rintro before _ after ⟨available, rfl⟩
        refine ⟨?_, rfl⟩
        rintro other isTarget -
        cases isTarget
        exact available
      · refine (Session.transacts_pure _).mono ?_
        rintro before _ after ⟨-, rfl⟩
        refine ⟨?_, rfl⟩
        rintro other isTarget moves
        cases isTarget
        exact absurd moves stays

private theorem updateRedirectHost_eq (redirectId : Uuid) (data : RedirectHostUpdate) :
    updateRedirectHost environment redirectId data = (do
      match ← findRedirectHostById environment redirectId with
      | none => pure none
      | some redirectHost =>
          ensureMovable environment redirectHost data.domain
          let updated ← Program.ofExcept
            (redirectHost.update data.domain data.targetUrl data.permanent data.tlsEnabled)
          if redirectHost.domain.value ≠ updated.domain.value then
            deleteRedirectFile environment redirectHost.domain
          writeRedirectFile environment updated
          saveRedirectHost environment updated
          pure (some updated)) := by
  unfold updateRedirectHost ensureMovable
  congr 1
  funext found
  cases found with
  | none => rfl
  | some redirectHost =>
      dsimp only
      cases orText data.domain none with
      | none => rfl
      | some target =>
          dsimp only
          split <;> rfl

theorem transacts_updateRedirectHost (redirectId : Uuid) (data : RedirectHostUpdate) :
    Session.Transacts (updateRedirectHost environment redirectId data)
      (fun before result after => (result = none ∧ after.1 = before.1) ∨
        ∃ redirectHost updated,
          Table.find RedirectHost.id before.1.redirectHosts redirectId = some redirectHost ∧
            (∀ target, orText data.domain none = some target →
              target ≠ redirectHost.domain.value → Available before.1 target) ∧
            redirectHost.update data.domain data.targetUrl data.permanent data.tlsEnabled =
              .ok updated ∧
            result = some updated ∧ after.1 = { before.1 with
              redirectHosts := Table.save RedirectHost.id before.1.redirectHosts updated }) := by
  rw [updateRedirectHost_eq]
  refine (transacts_query _ _).bind fun found => ?_
  cases found with
  | none =>
      refine (Session.transacts_pure _).mono ?_
      rintro middle result after ⟨rfl, rfl⟩ before ⟨-, rfl⟩
      exact .inl ⟨rfl, rfl⟩
  | some redirectHost =>
      refine (transacts_ensureMovable _ _).bind fun _ => ?_
      refine (Session.transacts_ofExcept _).bind fun updated => ?_
      dsimp only
      have last : Session.Transacts (do
          writeRedirectFile environment updated
          saveRedirectHost environment updated
          pure (some updated)) (fun before result after => result = some updated ∧
            after.1 = { before.1 with
              redirectHosts := Table.save RedirectHost.id before.1.redirectHosts updated }) := by
        refine (transacts_writeRedirectFile _).bind fun _ => ?_
        refine (transacts_saveRedirectHost _).bind fun _ => ?_
        refine (Session.transacts_pure _).mono ?_
        rintro third result after ⟨rfl, rfl⟩ second saved first written
        exact ⟨rfl, by rw [saved, written]⟩
      have moved : Session.Transacts (do
          if redirectHost.domain.value ≠ updated.domain.value then
            deleteRedirectFile environment redirectHost.domain
          writeRedirectFile environment updated
          saveRedirectHost environment updated
          pure (some updated)) (fun before result after => result = some updated ∧
            after.1 = { before.1 with
              redirectHosts := Table.save RedirectHost.id before.1.redirectHosts updated }) := by
        refine .ite (fun _ => ?_) (fun _ => last)
        refine (transacts_deleteRedirectFile _).bind fun _ => last.mono ?_
        rintro middle result after ⟨isResult, saved⟩ before deleted
        exact ⟨isResult, by rw [saved, deleted]⟩
      refine moved.mono ?_
      rintro third result after ⟨isResult, saved⟩ second ⟨isUpdated, rfl⟩ first
        ⟨available, rfl⟩ before ⟨found, rfl⟩
      exact .inr ⟨redirectHost, updated, found.symm, available, isUpdated, isResult, saved⟩

theorem transacts_deleteRedirectHost (redirectId : Uuid) :
    Session.Transacts (deleteRedirectHost environment redirectId) (fun before _ after =>
      after.1 = before.1 ∨ after.1 = { before.1 with
        redirectHosts := Table.delete RedirectHost.id before.1.redirectHosts redirectId }) := by
  unfold deleteRedirectHost
  refine (transacts_query _ _).bind fun found => ?_
  cases found with
  | none =>
      refine (Session.transacts_pure _).mono ?_
      rintro middle _ after ⟨-, rfl⟩ before ⟨-, rfl⟩
      exact .inl rfl
  | some redirectHost =>
      refine (transacts_deleteRedirectFile _).bind fun _ => ?_
      refine (transacts_write _ _).mono ?_
      rintro second _ after deletedRow first deletedFile before ⟨-, rfl⟩
      exact .inr (by rw [deletedRow, deletedFile])

end RedirectHosts

section Templates

variable {environment : ProxyEnvironment}

private theorem transacts_saveTemplate (template : MiddlewareTemplate) :
    Session.Transacts (saveTemplate environment template) (fun before _ after =>
      after.1 = { before.1 with
        middlewareTemplates :=
          Table.save MiddlewareTemplate.id before.1.middlewareTemplates template }) :=
  (transacts_write _ _).mono fun _ _ _ same => by rw [same]

theorem transacts_createTemplate (data : MiddlewareTemplateCreate) :
    Session.Transacts (createTemplate environment data) (fun before template after =>
      MiddlewareTemplate.create data.name data.type data.config environment.newId = .ok template ∧
        after.1 = { before.1 with
          middlewareTemplates :=
            Table.save MiddlewareTemplate.id before.1.middlewareTemplates template }) := by
  unfold createTemplate
  refine (Session.transacts_ofExcept _).bind fun template => ?_
  refine (transacts_saveTemplate _).bind fun _ => ?_
  refine transacts_syncSharedMiddlewareTemplates.bind fun _ => ?_
  refine (Session.transacts_pure _).mono ?_
  rintro third _ after ⟨rfl, rfl⟩ second synced first saved before ⟨created, rfl⟩
  exact ⟨created, by rw [synced, saved]⟩

private theorem transacts_resolveKnownTemplates (templateIds : List String) :
    Session.Transacts (resolveKnownTemplates environment templateIds) (fun before _ after =>
      after.1 = before.1) := by
  unfold resolveKnownTemplates
  refine .ite (fun _ => ?_) (fun _ => ?_)
  · refine (Session.transacts_pure _).mono ?_
    rintro before _ after ⟨-, rfl⟩
    rfl
  · refine (Session.transacts_ofExcept _).bind fun parsedIds => ?_
    refine (transacts_query _ _).bind fun templates => ?_
    refine (Session.transacts_pure _).mono ?_
    rintro second _ after ⟨-, rfl⟩ first ⟨-, rfl⟩ before ⟨-, rfl⟩
    rfl

theorem transacts_rewriteServices (round : Nat) (services : List Service) :
    Session.Transacts (rewriteServices environment round services) (fun before _ after =>
      after.1 = before.1) := by
  induction services generalizing round with
  | nil =>
      refine (Session.transacts_pure _).mono ?_
      rintro before _ after ⟨-, rfl⟩
      rfl
  | cons service rest ih =>
      unfold rewriteServices
      refine (transacts_resolveKnownTemplates _).bind fun templates => ?_
      refine (transacts_writeServiceFile _ _).bind fun _ => (ih (round + 1)).mono ?_
      intro second _ after rewritten first written before resolved
      rw [rewritten, written, resolved]

theorem transacts_updateTemplate (templateId : Uuid) (data : MiddlewareTemplateUpdate) :
    Session.Transacts (updateTemplate environment templateId data) (fun before result after =>
      (result = none ∧ after.1 = before.1) ∨
        ∃ template updated,
          Table.find MiddlewareTemplate.id before.1.middlewareTemplates templateId =
            some template ∧
            template.update data.name data.type data.config = .ok updated ∧
            validateAuthConflicts updated (before.1.services.filter
              (templateId.text ∈ ·.middlewareTemplateIds)) = .ok () ∧
            result = some updated ∧ after.1 = { before.1 with
              middlewareTemplates :=
                Table.save MiddlewareTemplate.id before.1.middlewareTemplates updated }) := by
  unfold updateTemplate
  refine (transacts_query _ _).bind fun found => ?_
  cases found with
  | none =>
      refine (Session.transacts_pure _).mono ?_
      rintro middle result after ⟨rfl, rfl⟩ before ⟨-, rfl⟩
      exact .inl ⟨rfl, rfl⟩
  | some template =>
      refine (Session.transacts_ofExcept _).bind fun updated => ?_
      refine (transacts_query _ _).bind fun affected => ?_
      refine (Session.transacts_ofExcept _).bind fun _ => ?_
      refine (transacts_saveTemplate _).bind fun _ => ?_
      refine transacts_syncSharedMiddlewareTemplates.bind fun _ => ?_
      refine (transacts_rewriteServices _ _).bind fun _ => ?_
      refine (Session.transacts_pure _).mono ?_
      rintro seventh result after ⟨rfl, rfl⟩ sixth rewritten fifth synced fourth saved third
        ⟨allowed, rfl⟩ second ⟨rfl, rfl⟩ first ⟨isUpdated, rfl⟩ before ⟨found, rfl⟩
      exact .inr ⟨template, updated, found.symm, isUpdated, allowed, rfl,
        by rw [rewritten, synced, saved]⟩

theorem transacts_deleteTemplate (templateId : Uuid) :
    Session.Transacts (deleteTemplate environment templateId) (fun before _ after =>
      (∀ service ∈ before.1.services, templateId.text ∉ service.middlewareTemplateIds) ∧
        after.1 = { before.1 with
          middlewareTemplates :=
            Table.delete MiddlewareTemplate.id before.1.middlewareTemplates templateId }) := by
  unfold deleteTemplate
  refine (transacts_query _ _).bind fun services => ?_
  refine .ite (fun _ => Session.transacts_throw _) (fun unused => ?_)
  refine (transacts_write _ _).bind fun _ => ?_
  refine transacts_syncSharedMiddlewareTemplates.mono ?_
  rintro second _ after synced first deleted before ⟨rfl, rfl⟩
  refine ⟨?_, by rw [synced, deleted]⟩
  intro service listed referred
  exact unused (List.ne_nil_of_mem (List.mem_filter.mpr ⟨listed, by simpa using referred⟩))

end Templates

section Imports

variable {environment : ProxyEnvironment}

/-- Writing an imported service resolves its references and saves it. -/
theorem transacts_writeImportedService (service : Service) :
    Session.Transacts (writeImportedService environment service) (fun before _ after =>
      (∃ templates, resolvedTemplates before.1 service.middlewareTemplateIds = .ok templates) ∧
        after.1 = { before.1 with
          services := Table.save Service.id before.1.services service }) := by
  unfold writeImportedService
  refine (transacts_resolve _).bind fun templates => ?_
  refine (transacts_writeServiceFile _ _).bind fun _ => ?_
  refine (transacts_write _ _).mono ?_
  rintro second _ after saved first written before ⟨resolved, same⟩
  refine ⟨⟨templates, resolved⟩, ?_⟩
  rw [saved, written, same]

/-- One service entry, with what it answers: the stored service of its domain is updated,
or a new one is created. -/
theorem transacts_upsertService_answer (item : BackupServiceItem) :
    Session.Transacts (upsertService environment item) (fun before updated after => ∃ service,
      ((updated = true ∧ ∃ existing ∈ before.1.services, existing.domain.value = item.domain ∧
          updateImportedService existing item = .ok service) ∨
        updated = false ∧ (∀ other ∈ before.1.services, other.domain.value ≠ item.domain) ∧
          createImportedService item environment.newId = .ok service) ∧
      (∃ templates, resolvedTemplates before.1 service.middlewareTemplateIds = .ok templates) ∧
      after.1 = { before.1 with
        services := Table.save Service.id before.1.services service }) := by
  unfold upsertService
  refine (transacts_findServiceByDomain _).bind fun found => ?_
  cases found with
  | none =>
      refine (Session.transacts_ofExcept _).bind fun service => ?_
      refine (transacts_writeImportedService _).bind fun _ => ?_
      refine (Session.transacts_pure _).mono ?_
      rintro third _ after ⟨rfl, rfl⟩ second written first ⟨created, rfl⟩ before ⟨missing, rfl⟩
      exact ⟨service, .inr ⟨rfl, by simpa using missing.symm, created⟩, written⟩
  | some existing =>
      refine (Session.transacts_ofExcept _).bind fun service => ?_
      refine (transacts_writeImportedService _).bind fun _ => ?_
      refine (Session.transacts_pure _).mono ?_
      rintro third _ after ⟨rfl, rfl⟩ second written first ⟨updated, rfl⟩ before ⟨found, rfl⟩
      have hasDomain : existing.domain.value = item.domain := by
        simpa using List.find?_some found.symm
      exact ⟨service, .inl ⟨rfl, existing, List.mem_of_find?_eq_some found.symm, hasDomain, updated⟩,
        written⟩

/-- One service entry: the stored service of its domain is updated, or a new one is
created. -/
theorem transacts_upsertService (item : BackupServiceItem) :
    Session.Transacts (upsertService environment item) (fun before _ after => ∃ service,
      ((∃ existing ∈ before.1.services, existing.domain.value = item.domain ∧
          updateImportedService existing item = .ok service) ∨
        (∀ other ∈ before.1.services, other.domain.value ≠ item.domain) ∧
          createImportedService item environment.newId = .ok service) ∧
      (∃ templates, resolvedTemplates before.1 service.middlewareTemplateIds = .ok templates) ∧
      after.1 = { before.1 with
        services := Table.save Service.id before.1.services service }) := by
  refine (transacts_upsertService_answer item).mono ?_
  rintro before _ after ⟨service, ⟨-, updated⟩ | ⟨-, created⟩, written⟩
  · exact ⟨service, .inl updated, written⟩
  · exact ⟨service, .inr created, written⟩

/-- One redirect entry, with what it answers: the stored redirect host of its domain is
updated, or a new one is created. -/
theorem transacts_upsertRedirect_answer (item : BackupRedirectHostItem) :
    Session.Transacts (upsertRedirect environment item) (fun before updated after => ∃ redirectHost,
      ((updated = true ∧ ∃ existing ∈ before.1.redirectHosts, existing.domain.value = item.domain ∧
          existing.update (some item.domain) (some item.targetUrl) (some item.permanent)
            (some item.tlsEnabled) = .ok redirectHost) ∨
        updated = false ∧ (∀ other ∈ before.1.redirectHosts, other.domain.value ≠ item.domain) ∧
          RedirectHost.create item.domain item.targetUrl item.permanent item.tlsEnabled
            environment.newId = .ok redirectHost) ∧
      after.1 = { before.1 with
        redirectHosts := Table.save RedirectHost.id before.1.redirectHosts redirectHost }) := by
  unfold upsertRedirect
  refine (transacts_findRedirectHostByDomain _).bind fun found => ?_
  have written : ∀ (redirectHost : RedirectHost) (updated : Bool), Session.Transacts (do
      writeRedirectFile environment redirectHost
      saveRedirectHost environment redirectHost
      pure updated) (fun before answer after => answer = updated ∧ after.1 = { before.1 with
        redirectHosts := Table.save RedirectHost.id before.1.redirectHosts redirectHost }) := by
    intro redirectHost updated
    refine (transacts_writeRedirectFile _).bind fun _ => ?_
    refine (transacts_saveRedirectHost _).bind fun _ => ?_
    refine (Session.transacts_pure _).mono ?_
    rintro third _ after ⟨rfl, rfl⟩ second saved first isWritten
    exact ⟨rfl, by rw [saved, isWritten]⟩
  cases found with
  | none =>
      refine (Session.transacts_ofExcept _).bind fun redirectHost => (written _ _).mono ?_
      rintro second _ after ⟨rfl, saved⟩ first ⟨created, rfl⟩ before ⟨missing, rfl⟩
      exact ⟨redirectHost, .inr ⟨rfl, by simpa using missing.symm, created⟩, saved⟩
  | some existing =>
      refine (Session.transacts_ofExcept _).bind fun redirectHost => ?_
      dsimp only
      have moved : Session.Transacts (do
          if existing.domain.value ≠ redirectHost.domain.value then
            deleteRedirectFile environment existing.domain
          writeRedirectFile environment redirectHost
          saveRedirectHost environment redirectHost
          pure true) (fun before answer after => answer = true ∧ after.1 = { before.1 with
            redirectHosts := Table.save RedirectHost.id before.1.redirectHosts redirectHost }) := by
        refine .ite (fun _ => ?_) (fun _ => written _ _)
        refine (transacts_deleteRedirectFile _).bind fun _ => (written _ _).mono ?_
        rintro middle _ after ⟨isTrue, saved⟩ before deleted
        exact ⟨isTrue, by rw [saved, deleted]⟩
      refine moved.mono ?_
      rintro second _ after ⟨rfl, saved⟩ first ⟨updated, rfl⟩ before ⟨found, rfl⟩
      have hasDomain : existing.domain.value = item.domain := by
        simpa using List.find?_some found.symm
      exact ⟨redirectHost, .inl ⟨rfl, existing, List.mem_of_find?_eq_some found.symm, hasDomain,
        updated⟩, saved⟩

/-- One redirect entry: the stored redirect host of its domain is updated, or a new one
is created. -/
theorem transacts_upsertRedirect (item : BackupRedirectHostItem) :
    Session.Transacts (upsertRedirect environment item) (fun before _ after => ∃ redirectHost,
      ((∃ existing ∈ before.1.redirectHosts, existing.domain.value = item.domain ∧
          existing.update (some item.domain) (some item.targetUrl) (some item.permanent)
            (some item.tlsEnabled) = .ok redirectHost) ∨
        (∀ other ∈ before.1.redirectHosts, other.domain.value ≠ item.domain) ∧
          RedirectHost.create item.domain item.targetUrl item.permanent item.tlsEnabled
            environment.newId = .ok redirectHost) ∧
      after.1 = { before.1 with
        redirectHosts := Table.save RedirectHost.id before.1.redirectHosts redirectHost }) := by
  refine (transacts_upsertRedirect_answer item).mono ?_
  rintro before _ after ⟨redirectHost, ⟨-, updated⟩ | ⟨-, created⟩, written⟩
  · exact ⟨redirectHost, .inl updated, written⟩
  · exact ⟨redirectHost, .inr created, written⟩

/-- The rule of the import loops: what every entry preserves, the loop preserves. -/
theorem transacts_importEach {α : Type} (loop : Loop)
    {upsert : ProxyEnvironment → α → ProxyProgram Bool} {invariant : Database × Outside → Prop}
    {items : List α} (preserves : ∀ item ∈ items, ∀ during, Session.Transacts (upsert during item)
      (fun before _ after => invariant before → invariant after)) (round : Nat) :
    Session.Transacts (importEach environment loop upsert round items) (fun before _ after =>
      invariant before → invariant after) := by
  induction items generalizing round with
  | nil =>
      refine (Session.transacts_pure _).mono ?_
      rintro before _ after ⟨-, rfl⟩ holds
      exact holds
  | cons item rest ih =>
      unfold importEach
      refine (preserves item (by simp) _).bind fun updated => ?_
      refine (ih (fun other listed => preserves other (by simp [listed])) _).bind fun count => ?_
      refine (Session.transacts_pure _).mono ?_
      rintro second _ after ⟨-, rfl⟩ first later before now holds
      exact later (now holds)

theorem transacts_deleteEachService (round : Nat) (services : List Service) :
    Session.Transacts (deleteEachService environment round services) (fun before _ after =>
      after.1 = { before.1 with
        services := before.1.services.filter fun service =>
          service.id ∉ services.map (·.id) }) := by
  induction services generalizing round with
  | nil =>
      refine (Session.transacts_pure _).mono ?_
      rintro before _ after ⟨-, rfl⟩
      simp
  | cons service rest ih =>
      unfold deleteEachService
      refine (transacts_touchFile _ _).bind fun _ => ?_
      refine (transacts_write _ _).bind fun _ => (ih (round + 1)).mono ?_
      rintro second _ after deleted first rfl before rfl
      rw [deleted]
      exact congrArg (fun services => { before.1 with services })
        (Table.filter_delete before.1.services service.id (rest.map (·.id)))

theorem transacts_deleteEachRedirectHost (round : Nat) (redirectHosts : List RedirectHost) :
    Session.Transacts (deleteEachRedirectHost environment round redirectHosts)
      (fun before _ after => after.1 = { before.1 with
        redirectHosts := before.1.redirectHosts.filter fun redirectHost =>
          redirectHost.id ∉ redirectHosts.map (·.id) }) := by
  induction redirectHosts generalizing round with
  | nil =>
      refine (Session.transacts_pure _).mono ?_
      rintro before _ after ⟨-, rfl⟩
      simp
  | cons redirectHost rest ih =>
      unfold deleteEachRedirectHost
      refine (transacts_deleteRedirectFile _).bind fun _ => ?_
      refine (transacts_write _ _).bind fun _ => (ih (round + 1)).mono ?_
      rintro second _ after deleted first removed before sameTables
      rw [deleted, removed, sameTables]
      exact congrArg (fun redirectHosts => { before.1 with redirectHosts })
        (Table.filter_delete before.1.redirectHosts redirectHost.id (rest.map (·.id)))

/-- Overwriting removes every service and every redirect host first, and counts them. -/
theorem transacts_deleteExisting_counts :
    Session.Transacts (deleteExisting environment) (fun before removed after =>
      removed = (before.1.services.length, before.1.redirectHosts.length) ∧ after.1 = { before.1 with services := [], redirectHosts := [] }) := by
  unfold deleteExisting
  refine (transacts_query _ _).bind fun services => ?_
  refine (transacts_deleteEachService _ _).bind fun _ => ?_
  refine (transacts_query _ _).bind fun redirectHosts => ?_
  refine (transacts_deleteEachRedirectHost _ _).bind fun _ => ?_
  refine (Session.transacts_pure _).mono ?_
  rintro fourth _ after ⟨rfl, rfl⟩ third deletedRedirects second ⟨rfl, rfl⟩ first deletedServices
    before ⟨rfl, rfl⟩
  have noneLeft : ∀ services : List Service,
      services.filter (fun service => service.id ∉ services.map (·.id)) = [] := by
    intro services
    rw [List.filter_eq_nil_iff]
    intro service listed
    simpa using ⟨service, listed, rfl⟩
  have noneLeft' : ∀ redirectHosts : List RedirectHost, redirectHosts.filter
      (fun redirectHost => redirectHost.id ∉ redirectHosts.map (·.id)) = [] := by
    intro redirectHosts
    rw [List.filter_eq_nil_iff]
    intro redirectHost listed
    simpa using ⟨redirectHost, listed, rfl⟩
  refine ⟨?_, ?_⟩
  · rw [deletedServices]
  · rw [deletedRedirects, noneLeft', deletedServices, noneLeft]

/-- Overwriting removes every service and every redirect host first. -/
theorem transacts_deleteExisting :
    Session.Transacts (deleteExisting environment) (fun before _ after =>
      after.1 = { before.1 with services := [], redirectHosts := [] }) :=
  transacts_deleteExisting_counts.mono fun _ _ _ removed => removed.2

/-- What every entry preserves, a whole import establishes when it begins with it. -/
theorem transacts_importAll_from (start invariant : Database × Outside → Prop) (mode : ImportMode)
    {payload : BackupPayload}
    (cleared : mode = .overwrite → Session.Transacts (deleteExisting environment)
      (fun before _ after => start before → invariant after))
    (merged : mode ≠ .overwrite → ∀ contents, start contents → invariant contents)
    (services : ∀ item ∈ payload.services, ∀ during, Session.Transacts (upsertService during item)
      (fun before _ after => invariant before → invariant after))
    (redirectHosts : ∀ item ∈ payload.redirectHosts, ∀ during,
      Session.Transacts (upsertRedirect during item)
        (fun before _ after => invariant before → invariant after))
    (ends : Session.Transacts (syncSharedMiddlewareTemplates environment)
      (fun before _ after => invariant before → invariant after)) :
    Session.Transacts (importAll environment mode payload) (fun before _ after =>
      start before → invariant after) := by
  have loops : ∀ deleted : Nat × Nat, Session.Transacts (do
      let updatedServices ← importEach environment .importServices upsertService 0 payload.services
      let updatedRedirects ←
        importEach environment .importRedirectHosts upsertRedirect 0 payload.redirectHosts
      syncSharedMiddlewareTemplates environment
      pure
        { mode, updatedServices, updatedRedirects
          deletedServices := deleted.1, deletedRedirects := deleted.2
          createdServices := payload.services.length - updatedServices
          createdRedirects := payload.redirectHosts.length - updatedRedirects :
          BackupImportResult }) (fun before _ after => invariant before → invariant after) := by
    intro deleted
    refine (transacts_importEach _ services _).bind fun updatedServices => ?_
    refine (transacts_importEach _ redirectHosts _).bind fun updatedRedirects => ?_
    refine ends.bind fun _ => ?_
    refine (Session.transacts_pure _).mono ?_
    rintro third _ after ⟨-, rfl⟩ second synced first fromServices before fromStart holds
    exact synced (fromServices (fromStart holds))
  unfold importAll
  refine .ite (fun overwrites => ?_) (fun merges => ?_)
  · refine (cleared overwrites).bind fun deleted => (loops deleted).mono ?_
    exact fun first _ after preserved before begun holds => preserved (begun holds)
  · refine (Session.transacts_pure _).bind fun deleted => (loops deleted).mono ?_
    rintro first _ after preserved before ⟨-, rfl⟩ holds
    exact preserved (merged merges _ holds)

/-- What every entry preserves, a whole import preserves from the tables it starts its
loops on. -/
theorem transacts_importAll (invariant : Database → Prop) (mode : ImportMode)
    {payload : BackupPayload}
    (services : ∀ item ∈ payload.services, ∀ during, Session.Transacts (upsertService during item)
      (fun before _ after => invariant before.1 → invariant after.1))
    (redirectHosts : ∀ item ∈ payload.redirectHosts, ∀ during,
      Session.Transacts (upsertRedirect during item)
        (fun before _ after => invariant before.1 → invariant after.1)) :
    Session.Transacts (importAll environment mode payload) (fun before _ after =>
      invariant (if mode = .overwrite then { before.1 with services := [], redirectHosts := [] }
        else before.1) → invariant after.1) := by
  refine transacts_importAll_from (fun contents => invariant (if mode = .overwrite then
      { contents.1 with services := [], redirectHosts := [] } else contents.1))
    (fun contents => invariant contents.1) mode ?_ ?_
        services redirectHosts ?_
  · intro overwrites
    refine transacts_deleteExisting.mono ?_
    intro before _ after cleared holds
    rw [if_pos overwrites] at holds
    rwa [cleared]
  · intro merges contents holds
    rwa [if_neg merges] at holds
  · refine transacts_syncSharedMiddlewareTemplates.mono ?_
    intro before _ after same holds
    rwa [same]

/-- The answer to an error of a value does not change what an import does. -/
theorem transacts_importAction {mode : ImportMode} {payload : BackupPayload}
    {relation : Database × Outside → BackupImportResult → Database × Outside → Prop}
    (transacts : Session.Transacts (importAll environment mode payload) relation) :
    Session.Transacts (do
      try importAll environment mode payload
      catch failure =>
        match failure with
        | .valueError message => throw (.httpException 400 message)
        | other => throw other) relation :=
  transacts.tryCatch fun failure => by cases failure <;> exact Session.transacts_throw _

end Imports

section Operation

/-- An operation, with what surrounds the request that carries it. -/
inductive Operation where
  | createService (environment : ProxyEnvironment) (data : ServiceCreate)
  | updateService (environment : ProxyEnvironment) (serviceId : Uuid) (payload : ServiceUpdate)
  | deleteService (environment : ProxyEnvironment) (serviceId : Uuid)
  | createRedirectHost (environment : ProxyEnvironment) (data : RedirectHostCreate)
  | updateRedirectHost (environment : ProxyEnvironment) (redirectId : Uuid)
      (data : RedirectHostUpdate)
  | deleteRedirectHost (environment : ProxyEnvironment) (redirectId : Uuid)
  | createTemplate (environment : ProxyEnvironment) (data : MiddlewareTemplateCreate)
  | updateTemplate (environment : ProxyEnvironment) (templateId : Uuid)
      (data : MiddlewareTemplateUpdate)
  | deleteTemplate (environment : ProxyEnvironment) (templateId : Uuid)
  | importBackup (environment : ProxyEnvironment) (mode : ImportMode) (payload : BackupPayload)

/-- The request of an operation, its answer dropped. -/
def Operation.run : Operation → ProxyProgram PUnit
  | createService environment data => do
      let _ ← request environment (createServiceAction environment data)
  | updateService environment serviceId payload => do
      let _ ← request environment (updateServiceAction environment serviceId payload)
  | deleteService environment serviceId =>
      request environment (deleteServiceAction environment serviceId)
  | createRedirectHost environment data => do
      let _ ← request environment (Proxy.createRedirectHost environment data)
  | updateRedirectHost environment redirectId data => do
      let _ ← request environment (Proxy.updateRedirectHost environment redirectId data)
  | deleteRedirectHost environment redirectId =>
      request environment (Proxy.deleteRedirectHost environment redirectId)
  | createTemplate environment data => do
      let _ ← request environment (Proxy.createTemplate environment data)
  | updateTemplate environment templateId data => do
      let _ ← request environment (Proxy.updateTemplate environment templateId data)
  | deleteTemplate environment templateId =>
      request environment (Proxy.deleteTemplate environment templateId)
  | importBackup environment mode payload => do
      let _ ← Backup.importBackup environment mode payload

/-- A property of the stored tables that a body establishes is one of the request, when
it already held. -/
theorem ensures_stored {α : Type} {environment : ProxyEnvironment} {body : ProxyProgram α}
    {relation : Database × Outside → α → Database × Outside → Prop} {property : Database → Prop}
    {session : ProxySession} (transacts : Session.Transacts body relation)
    (holds : property session.stored)
    (implies : ∀ value after, relation (session.stored, session.outside) value after →
      property after.1) :
    Program.Ensures (request environment body) (fun _ next => property next.stored)
      (fun _ next => property next.stored) session := by
  refine (ensures_request_of_transacts transacts session).mono ?_ ?_
  · exact fun value next related => implies value _ related
  · rintro _ (next : ProxySession) same
    rw [same]
    exact holds

/-- The operations on redirect hosts and on templates. -/
def Operation.SparesServices : Operation → Prop
  | createService .. | updateService .. | deleteService .. | importBackup .. => False
  | createRedirectHost .. | updateRedirectHost .. | deleteRedirectHost .. | createTemplate ..
  | updateTemplate .. | deleteTemplate .. => True

/-- A request whose body leaves the services alone leaves the stored ones alone. -/
theorem ensures_sameServices {α : Type} {environment : ProxyEnvironment} {body : ProxyProgram α}
    {relation : Database × Outside → α → Database × Outside → Prop} {session : ProxySession}
    (transacts : Session.Transacts body relation)
    (same : ∀ value after, relation (session.stored, session.outside) value after →
      after.1.services = session.stored.services) :
    Program.Ensures (request environment body)
      (fun _ next => next.stored.services = session.stored.services)
      (fun _ next => next.stored.services = session.stored.services) session := by
  refine (ensures_request_of_transacts transacts session).mono ?_ ?_
  · exact fun value next related => same value _ related
  · intro _ next unchanged
    rw [unchanged]

/-- Operations on redirect hosts and on templates leave the services as they are. -/
theorem ensures_spared {operation : Operation} (spares : operation.SparesServices)
    (session : ProxySession) :
    Program.Ensures operation.run
      (fun _ next => next.stored.services = session.stored.services)
      (fun _ next => next.stored.services = session.stored.services) session := by
  cases operation with
  | createService _ _ => cases spares
  | updateService _ _ _ => cases spares
  | deleteService _ _ => cases spares
  | importBackup _ _ _ => cases spares
  | createRedirectHost environment data =>
      unfold Operation.run
      simp only [Program.ensures_bind, Program.ensures_pure]
      apply ensures_sameServices (transacts_createRedirectHost data)
      intro redirectHost after related
      rw [related.2.2]
  | updateRedirectHost environment redirectId data =>
      unfold Operation.run
      simp only [Program.ensures_bind, Program.ensures_pure]
      apply ensures_sameServices (transacts_updateRedirectHost redirectId data)
      rintro result after (⟨-, left⟩ | ⟨redirectHost, updated, -, -, -, -, left⟩)
      · rw [left]
      · rw [left]
  | deleteRedirectHost environment redirectId =>
      unfold Operation.run
      apply ensures_sameServices (transacts_deleteRedirectHost redirectId)
      rintro _ after (left | left)
      · rw [left]
      · rw [left]
  | createTemplate environment data =>
      unfold Operation.run
      simp only [Program.ensures_bind, Program.ensures_pure]
      apply ensures_sameServices (transacts_createTemplate data)
      intro template after related
      rw [related.2]
  | updateTemplate environment templateId data =>
      unfold Operation.run
      simp only [Program.ensures_bind, Program.ensures_pure]
      apply ensures_sameServices (transacts_updateTemplate templateId data)
      rintro result after (⟨-, left⟩ | ⟨template, updated, -, -, -, -, left⟩)
      · rw [left]
      · rw [left]
  | deleteTemplate environment templateId =>
      unfold Operation.run
      apply ensures_sameServices (transacts_deleteTemplate templateId)
      intro _ after related
      rw [related.2]

end Operation

end TraefikManager.Proxy
