import TraefikManager.Domain.ResourceNormalized
import TraefikManager.Proxy.Consistency
import TraefikManager.Proxy.ResourceAudit

/-!
# Rolling redirect hosts and middleware templates back

The operations keep what is stored of redirect hosts and templates in normal form. A
request that asks for recorded values passes the schema unchanged, and where the update
accepts it, each field it names becomes the recorded one.
-/

namespace TraefikManager.Proxy

open Foundation Domain Backup Audit

section Normal

/-- The target is stored as normalizing it gives. -/
def NormalRedirectHost (redirectHost : RedirectHost) : Prop :=
  normalizeTargetUrl redirectHost.targetUrl = .ok redirectHost.targetUrl

/-- Name and configuration are stored as normalizing them gives. -/
structure NormalTemplate (template : MiddlewareTemplate) : Prop where
  name : normalizeTemplateName template.name = .ok template.name
  config : normalizeConfig template.config.type template.config.raw = .ok template.config

/-- Every stored redirect host and every stored template is in normal form. -/
structure NormalResources (database : Database) : Prop where
  redirectHosts : ∀ redirectHost ∈ database.redirectHosts, NormalRedirectHost redirectHost
  templates : ∀ template ∈ database.middlewareTemplates, NormalTemplate template

private theorem normal_of_createdRedirect {domain targetUrl : String} {permanent tlsEnabled : Bool}
    {id : Uuid} {redirectHost : RedirectHost}
    (created : RedirectHost.create domain targetUrl permanent tlsEnabled id = .ok redirectHost) :
    NormalRedirectHost redirectHost := by
  simp only [RedirectHost.create, bind_eq_ok] at created
  obtain ⟨_, -, target, isTarget, isCreated⟩ := created
  cases isCreated
  exact (targetUrl_result isTarget).fixed

private theorem normal_of_updatedRedirect {redirectHost updated : RedirectHost}
    {domain targetUrl : Option String}
    {permanent tlsEnabled : Option Bool} (normal : NormalRedirectHost redirectHost)
    (done : redirectHost.update domain targetUrl permanent tlsEnabled = .ok updated) :
    NormalRedirectHost updated := by
  simp only [redirectUpdate_eq, bind_eq_ok] at done
  obtain ⟨_, -, target, isTarget, isUpdated⟩ := done
  cases isUpdated
  cases targetUrl with
  | none =>
      cases isTarget
      exact normal
  | some text => exact (targetUrl_result isTarget).fixed

private theorem templateName_fixed {raw name : String}
    (result : normalizeTemplateName raw = .ok name) : normalizeTemplateName name = .ok name := by
  unfold normalizeTemplateName at result ⊢
  dsimp only at result
  split at result
  · cases result
  · rename_i nonempty
    cases result
    simp [Text.strip_strip, nonempty]

private theorem templateConfig_fixed {type : MiddlewareTemplateType} {raw : RawTemplateConfig}
    {config : TemplateConfig} (result : normalizeConfig type raw = .ok config) :
    normalizeConfig config.type config.raw = .ok config :=
  config_fixed (config_result result).2

/-- An update of a template with each of its steps named. -/
theorem templateUpdate_eq (template : MiddlewareTemplate) (name : Option String)
    (type : Option MiddlewareTemplateType) (config : Option RawTemplateConfig) :
    template.update name type config = (do
      let newName ← Service.changed template.name normalizeTemplateName name
      let newConfig ← normalizeConfig (type.getD template.config.type)
        (config.getD template.config.raw)
      pure { template with name := newName, config := newConfig }) := by
  cases name <;> rfl

private theorem id_of_templateUpdate {template updated : MiddlewareTemplate} {name : Option String}
    {type : Option MiddlewareTemplateType} {config : Option RawTemplateConfig}
    (done : template.update name type config = .ok updated) : updated.id = template.id := by
  simp only [templateUpdate_eq, bind_eq_ok] at done
  obtain ⟨_, -, _, -, isUpdated⟩ := done
  cases isUpdated
  rfl

private theorem normal_of_createdTemplate {name : String} {type : MiddlewareTemplateType}
    {config : RawTemplateConfig} {id : Uuid} {template : MiddlewareTemplate}
    (created : MiddlewareTemplate.create name type config id = .ok template) :
    NormalTemplate template := by
  simp only [MiddlewareTemplate.create, bind_eq_ok] at created
  obtain ⟨_, isName, _, isConfig, isCreated⟩ := created
  cases isCreated
  exact ⟨templateName_fixed isName, templateConfig_fixed isConfig⟩

private theorem normal_of_updatedTemplate {template updated : MiddlewareTemplate}
    {name : Option String}
    {type : Option MiddlewareTemplateType} {config : Option RawTemplateConfig}
    (normal : NormalTemplate template) (done : template.update name type config = .ok updated) :
    NormalTemplate updated := by
  simp only [templateUpdate_eq, bind_eq_ok] at done
  obtain ⟨_, isName, _, isConfig, isUpdated⟩ := done
  cases isUpdated
  refine ⟨?_, templateConfig_fixed isConfig⟩
  cases name with
  | none =>
      cases isName
      exact normal.name
  | some text => exact templateName_fixed isName

namespace NormalResources

variable {database : Database}

theorem saveRedirectHost (normal : NormalResources database) {redirectHost : RedirectHost}
    (isNormal : NormalRedirectHost redirectHost) :
    NormalResources { database with
      redirectHosts := Table.save RedirectHost.id database.redirectHosts redirectHost } := by
  refine ⟨?_, normal.templates⟩
  intro other listed
  rcases Table.mem_save.mp listed with rfl | ⟨stored, -⟩
  · exact isNormal
  · exact normal.redirectHosts other stored

theorem deleteRedirectHost (normal : NormalResources database) (redirectId : Uuid) :
    NormalResources { database with
      redirectHosts := Table.delete RedirectHost.id database.redirectHosts redirectId } :=
  ⟨fun other listed => normal.redirectHosts other (Table.mem_delete.mp listed).1, normal.templates⟩

theorem saveTemplate (normal : NormalResources database) {template : MiddlewareTemplate}
    (isNormal : NormalTemplate template) :
    NormalResources { database with
      middlewareTemplates :=
        Table.save MiddlewareTemplate.id database.middlewareTemplates template } := by
  refine ⟨normal.redirectHosts, ?_⟩
  intro other listed
  rcases Table.mem_save.mp listed with rfl | ⟨stored, -⟩
  · exact isNormal
  · exact normal.templates other stored

theorem deleteTemplate (normal : NormalResources database) (templateId : Uuid) :
    NormalResources { database with
      middlewareTemplates :=
        Table.delete MiddlewareTemplate.id database.middlewareTemplates templateId } :=
  ⟨normal.redirectHosts, fun other listed => normal.templates other (Table.mem_delete.mp listed).1⟩

end NormalResources

/-- What is imported is normalized. -/
theorem normal_importAll {environment : ProxyEnvironment} (mode : ImportMode)
    (payload : BackupPayload) :
    Session.Transacts (importAll environment mode payload) (fun before _ after =>
      NormalResources before.1 → NormalResources after.1) := by
  refine (transacts_importAll NormalResources mode (fun item _ during => ?_)
    (fun item _ during => ?_)).mono ?_
  · refine (transacts_upsertService item).mono ?_
    rintro before _ after ⟨service, -, -, left⟩ normal
    rw [left]
    exact ⟨normal.redirectHosts, normal.templates⟩
  · refine (transacts_upsertRedirect item).mono ?_
    rintro before _ after ⟨redirectHost, ⟨existing, listed, -, updated⟩ | ⟨-, created⟩, left⟩ normal
    · rw [left]
      exact normal.saveRedirectHost
        (normal_of_updatedRedirect (normal.redirectHosts existing listed) updated)
    · rw [left]
      exact normal.saveRedirectHost (normal_of_createdRedirect created)
  · intro before result after preserved normal
    apply preserved
    split
    · exact ⟨by simp, normal.templates⟩
    · exact normal

/-- The step: every operation keeps the resources in normal form. -/
theorem normal_run {session : ProxySession} (normal : NormalResources session.stored)
    (operation : Operation) :
    NormalResources (Program.finalState operation.run session).stored := by
  apply Program.Ensures.finalState (fun next : ProxySession => NormalResources next.stored)
  cases operation with
  | createService environment data =>
      unfold Operation.run
      simp only [Program.ensures_bind, Program.ensures_pure]
      apply ensures_stored (transacts_createServiceAction data) normal
      rintro service after ⟨prepared, -, -, left⟩
      rw [left]
      exact ⟨normal.redirectHosts, normal.templates⟩
  | updateService environment serviceId payload =>
      unfold Operation.run
      simp only [Program.ensures_bind, Program.ensures_pure]
      apply ensures_stored (transacts_updateServiceAction serviceId payload) normal
      rintro result after ⟨service, edited, -, -, -, left⟩
      rw [left]
      exact ⟨normal.redirectHosts, normal.templates⟩
  | deleteService environment serviceId =>
      unfold Operation.run
      apply ensures_stored (transacts_deleteServiceAction serviceId) normal
      intro _ after left
      rw [left]
      exact ⟨normal.redirectHosts, normal.templates⟩
  | createRedirectHost environment data =>
      unfold Operation.run
      simp only [Program.ensures_bind, Program.ensures_pure]
      apply ensures_stored (transacts_createRedirectHost data) normal
      rintro redirectHost after ⟨-, created, left⟩
      rw [left]
      exact normal.saveRedirectHost (normal_of_createdRedirect created)
  | updateRedirectHost environment redirectId data =>
      unfold Operation.run
      simp only [Program.ensures_bind, Program.ensures_pure]
      apply ensures_stored (transacts_updateRedirectHost redirectId data) normal
      rintro result after (⟨-, left⟩ | ⟨redirectHost, updated, found, -, isUpdated, -, left⟩)
      · rw [left]
        exact normal
      · rw [left]
        have wasNormal := normal.redirectHosts redirectHost (Table.mem_of_find found).1
        exact normal.saveRedirectHost (normal_of_updatedRedirect wasNormal isUpdated)
  | deleteRedirectHost environment redirectId =>
      unfold Operation.run
      apply ensures_stored (transacts_deleteRedirectHost redirectId) normal
      rintro _ after (left | left)
      · rw [left]
        exact normal
      · rw [left]
        exact normal.deleteRedirectHost redirectId
  | createTemplate environment data =>
      unfold Operation.run
      simp only [Program.ensures_bind, Program.ensures_pure]
      apply ensures_stored (transacts_createTemplate data) normal
      rintro template after ⟨created, left⟩
      rw [left]
      exact normal.saveTemplate (normal_of_createdTemplate created)
  | updateTemplate environment templateId data =>
      unfold Operation.run
      simp only [Program.ensures_bind, Program.ensures_pure]
      apply ensures_stored (transacts_updateTemplate templateId data) normal
      rintro result after (⟨-, left⟩ | ⟨template, updated, found, isUpdated, -, -, left⟩)
      · rw [left]
        exact normal
      · rw [left]
        have wasNormal := normal.templates template (Table.mem_of_find found).1
        exact normal.saveTemplate (normal_of_updatedTemplate wasNormal isUpdated)
  | deleteTemplate environment templateId =>
      unfold Operation.run
      apply ensures_stored (transacts_deleteTemplate templateId) normal
      rintro _ after ⟨-, left⟩
      rw [left]
      exact normal.deleteTemplate templateId
  | importBackup environment mode payload =>
      unfold Operation.run Backup.importBackup
      simp only [Program.ensures_bind, Program.ensures_pure]
      apply ensures_stored (transacts_importAction (normal_importAll mode payload)) normal
      exact fun _ _ preserved => preserved normal

end Normal

section Fields

variable {α β : Type}

/-- A validator that accepts a recorded value leaves the copy of it alone. -/
theorem validatePresent_copied {validate : α → Except PyException α} {value : α} (same : Bool)
    (fixed : validate value = .ok value) :
    validatePresent validate (copied same value) = .ok (copied same value) := by
  cases same with
  | true => rfl
  | false =>
      show (validate value).map some = _
      rw [fixed]
      rfl

/-- Asking for a recorded value that is normalized to itself gives it; leaving a field out
keeps the current value. -/
theorem restored_of_changed {normalize : α → Except PyException β} {recorded : α}
    {before current restored : β} {same : Prop} [Decidable same]
    (fixed : normalize recorded = .ok before)
    (done : Service.changed current normalize (copied same recorded) = .ok restored) :
    Audit.Restored same before current restored := by
  by_cases kept : same
  · rw [decide_eq_true kept] at done
    exact ⟨fun differs => absurd kept differs, fun _ => (Except.ok.inj done).symm⟩
  · rw [decide_eq_false kept] at done
    have isBefore : normalize recorded = .ok restored := done
    rw [fixed] at isBefore
    exact ⟨fun _ => (Except.ok.inj isBefore).symm, fun same => absurd same kept⟩

private theorem restored_of_getD {before current : α} {same : Prop} [Decidable same] :
    Audit.Restored same before current ((copied same before).getD current) := by
  by_cases kept : same
  · exact ⟨fun differs => absurd kept differs, fun _ => by simp [copied, kept]⟩
  · exact ⟨fun _ => by simp [copied, kept], fun same => absurd same kept⟩

private theorem transacts_reachAudited (environment : ProxyEnvironment) (step : RouteStep) :
    Session.Transacts (reachAudited environment step) (fun before _ after =>
      after.1 = before.1) := by
  cases step <;> exact (transacts_perform _).mono fun _ _ _ same => congrArg Prod.fst same

end Fields

section RedirectHosts

/-- What a rollback makes of each key of a redirect host's summary. -/
structure RedirectAuditSummary.Restored (before after current restored : RedirectAuditSummary) :
    Prop where
  domain : Audit.Restored (before.domain = after.domain)
    before.domain current.domain restored.domain
  targetUrl : Audit.Restored (before.targetUrl = after.targetUrl)
    before.targetUrl current.targetUrl restored.targetUrl
  permanent : Audit.Restored (before.permanent = after.permanent)
    before.permanent current.permanent restored.permanent
  tlsEnabled : Audit.Restored (before.tlsEnabled = after.tlsEnabled)
    before.tlsEnabled current.tlsEnabled restored.tlsEnabled

/-- What the routes of redirect hosts rest on. -/
def redirectSpecification :
    Specification Database RedirectHost RedirectAuditSummary RedirectHostUpdate :=
  { lookup := fun database redirectId =>
      Table.find RedirectHost.id database.redirectHosts redirectId
    Sound := NormalResources
    Valid := NormalRedirectHost
    Updated := fun current data next =>
      current.update data.domain data.targetUrl data.permanent data.tlsEnabled = .ok next
    Restores := RedirectAuditSummary.Restored }

/-- The schema accepts the recorded values of a redirect host as they are. -/
theorem validate_redirectPayload {before : RedirectHost} (normal : NormalRedirectHost before)
    (after : RedirectAuditSummary) :
    (buildRedirectRollbackPayload (redirectAuditSummary before) after).validate =
      .ok (buildRedirectRollbackPayload (redirectAuditSummary before) after) := by
  have domain : validateRedirectDomain before.domain.value = .ok before.domain.value :=
    if_pos before.domain.valid
  have valid := targetUrl_result normal
  have target : validateTargetUrl before.targetUrl = .ok before.targetUrl := by
    obtain ⟨parsed, isParsed, isWeb⟩ := valid.scheme
    unfold validateTargetUrl
    dsimp only
    rw [valid.trimmed, if_neg valid.nonempty, isParsed]
    exact if_neg fun refused => refused.2 isWeb
  unfold RedirectHostUpdate.validate buildRedirectRollbackPayload redirectAuditSummary
  rw [validatePresent_copied _ domain, validatePresent_copied _ target]
  rfl

private theorem restores_redirect {before after current restored : RedirectHost}
    (normal : NormalRedirectHost before) {request : RedirectHostUpdate}
    (accepted : (buildRedirectRollbackPayload (redirectAuditSummary before)
      (redirectAuditSummary after)).validate = .ok request)
    (done : current.update request.domain request.targetUrl request.permanent request.tlsEnabled =
      .ok restored) :
    RedirectAuditSummary.Restored (redirectAuditSummary before) (redirectAuditSummary after)
      (redirectAuditSummary current) (redirectAuditSummary restored) := by
  rw [validate_redirectPayload normal] at accepted
  cases accepted
  simp only [redirectUpdate_eq, bind_eq_ok] at done
  obtain ⟨domain, isDomain, target, isTarget, isRestored⟩ := done
  cases isRestored
  have domainRestored := restored_of_changed (DomainName.make_value before.domain) isDomain
  refine ⟨⟨fun differs => ?_, fun same => ?_⟩, restored_of_changed normal isTarget,
    restored_of_getD, restored_of_getD⟩
  · exact congrArg DomainName.value (domainRestored.1 differs)
  · exact congrArg DomainName.value (domainRestored.2 same)

private theorem transacts_getRedirectHost {environment : ProxyEnvironment} (redirectId : Uuid) :
    Session.Transacts (getRedirectHost environment redirectId) (fun before found after =>
      found = Table.find RedirectHost.id before.1.redirectHosts redirectId ∧ after = before) :=
  transacts_query _ _

theorem lawful_redirects (environment : ProxyEnvironment) :
    Lawful redirectKind (redirectUseCases environment) redirectSpecification where
  valid := fun _ _ _ normal found => normal.redirectHosts _ (Table.mem_of_find found).1
  get := by
    intro redirectId
    refine (transacts_getRedirectHost redirectId).mono ?_
    intro before found after answered
    exact ⟨answered.1, congrArg Prod.fst answered.2⟩
  update := by
    intro redirectId data
    refine (transacts_updateRedirectHost redirectId data).mono ?_
    rintro before result after (⟨isNone, same⟩ | ⟨current, next, found, -, isNext, isResult, left⟩)
    · exact .inl ⟨isNone, same⟩
    · obtain ⟨stored, isId⟩ := Table.mem_of_find found
      have sameId : next.id = redirectId := (domain_of_redirectUpdate isNext).1.trans isId
      refine .inr ⟨current, next, found, isNext, isResult, ?_, ?_⟩
      · rw [left, ← sameId]
        exact Table.find_save next
      · intro normal
        rw [left]
        exact normal.saveRedirectHost
          (normal_of_updatedRedirect (normal.redirectHosts current stored) isNext)
  reach := transacts_reachAudited environment
  restores := by
    intro _ before after payload request current restored normal _ _ isPayload accepted done
    cases isPayload
    exact restores_redirect normal accepted done

/-- An update of a redirect host passes its `DomainName` to the record, so that it raises and stores
nothing. -/
theorem redirect_update_fails (environment : ProxyEnvironment) (newLogId : String)
    (redirectId : Uuid) (data : RedirectHostUpdate)
    (session : AuditedSession Database Outside RedirectAuditSummary RedirectHostUpdate) :
    Program.Ensures
      (inTransaction (redirectUseCases environment)
        (redirectKind.updateAction (redirectUseCases environment) newLogId redirectId data))
      (fun _ _ => False) (fun _ next => next.stored = session.stored) session := by
  refine (ensures_inTransaction (lawful_redirects environment)
    (transacts_updateAction (lawful_redirects environment) newLogId redirectId data)
    session).mono ?_ fun _ _ same => same
  rintro result next ⟨current, -, -, -, -, name, isName⟩
  cases isName

end RedirectHosts

section Templates

/-- What a rollback makes of each key of a template's summary. -/
structure MiddlewareAuditSummary.Restored (before after current restored : MiddlewareAuditSummary) :
    Prop where
  name : Audit.Restored (before.name = after.name) before.name current.name restored.name
  type : Audit.Restored (before.type = after.type) before.type current.type restored.type
  config : Audit.Restored (sameConfig before.config after.config = true)
    before.config current.config restored.config

/-- What the routes of middleware templates rest on. -/
def middlewareSpecification :
    Specification Database MiddlewareTemplate MiddlewareAuditSummary MiddlewareTemplateUpdate :=
  { lookup := fun database templateId =>
      Table.find MiddlewareTemplate.id database.middlewareTemplates templateId
    Sound := NormalResources
    Valid := NormalTemplate
    Updated := fun current data next =>
      current.update data.name data.type data.config = .ok next
    Restores := MiddlewareAuditSummary.Restored }

/-- Equal configurations are of one type. -/
theorem type_of_sameConfig {first second : TemplateConfig} (same : sameConfig first second = true) :
    first.type = second.type := by
  cases first <;> cases second <;> first | rfl | simp [sameConfig] at same

/-- The schema leaves the recorded name alone, and drops no field. -/
theorem validate_middlewarePayload {before : MiddlewareTemplate} (normal : NormalTemplate before)
    {after : MiddlewareAuditSummary} {request : MiddlewareTemplateUpdate}
    (accepted : (buildMiddlewareRollbackPayload (middlewareAuditSummary before) after).validate =
      .ok request) :
    request = buildMiddlewareRollbackPayload (middlewareAuditSummary before) after := by
  have name : validateTemplateName before.name = .ok before.name := by
    have fixed := normal.name
    unfold normalizeTemplateName at fixed
    unfold validateTemplateName
    dsimp only at fixed ⊢
    split at fixed
    · cases fixed
    · rename_i nonempty
      rw [if_neg nonempty, Except.ok.inj fixed]
  unfold MiddlewareTemplateUpdate.validate at accepted
  simp only [buildMiddlewareRollbackPayload, middlewareAuditSummary] at accepted ⊢
  rw [validatePresent_copied _ name] at accepted
  simp only [bind, Except.bind] at accepted
  split at accepted
  · split at accepted
    · cases accepted
      rfl
    · cases accepted
  · cases accepted
    rfl

private theorem restores_middleware {before after current restored : MiddlewareTemplate}
    (normal : NormalTemplate before) (isNormal : NormalTemplate current)
    {request : MiddlewareTemplateUpdate}
    (accepted : (buildMiddlewareRollbackPayload (middlewareAuditSummary before)
      (middlewareAuditSummary after)).validate = .ok request)
    (done : current.update request.name request.type request.config = .ok restored) :
    MiddlewareAuditSummary.Restored (middlewareAuditSummary before) (middlewareAuditSummary after)
      (middlewareAuditSummary current) (middlewareAuditSummary restored) := by
  cases validate_middlewarePayload normal accepted
  simp only [templateUpdate_eq, bind_eq_ok] at done
  obtain ⟨name, isName, config, isConfig, isRestored⟩ := done
  cases isRestored
  have normalBefore : before.config.Normal := (config_result normal.config).2
  have normalCurrent : current.config.Normal := (config_result isNormal.config).2
  have nameRestored := restored_of_changed normal.name isName
  by_cases same : sameConfig before.config after.config = true
  · -- The record has neither a type nor a configuration to ask for.
    have sameType : before.config.type = after.config.type := type_of_sameConfig same
    simp only [copied, middlewareAuditSummary, buildMiddlewareRollbackPayload, same, sameType,
      decide_true, if_true, Option.getD_none] at isConfig
    have isCurrent := config_unchanged normalCurrent isConfig
    refine ⟨nameRestored, ⟨fun differs => absurd sameType differs, fun _ => ?_⟩,
      fun differs => absurd same differs, fun _ => isCurrent⟩
    exact congrArg TemplateConfig.type isCurrent
  · -- The recorded configuration is accepted under its own type only.
    simp only [copied, middlewareAuditSummary, buildMiddlewareRollbackPayload, same,
      Bool.false_eq_true, if_false, Option.getD_some] at isConfig
    have isBefore := config_unchanged normalBefore isConfig
    have inForce := type_of_config isConfig
    refine ⟨nameRestored, ⟨fun _ => congrArg TemplateConfig.type isBefore, ?_⟩, fun _ => isBefore,
      fun agrees => absurd agrees same⟩
    intro sameType
    have isCurrent : before.config.type = current.config.type := by
      have sameType : before.config.type = after.config.type := sameType
      simpa [sameType] using inForce
    exact (congrArg TemplateConfig.type isBefore).trans isCurrent

private theorem transacts_getTemplate {environment : ProxyEnvironment} (templateId : Uuid) :
    Session.Transacts (getTemplate environment templateId) (fun before found after =>
      found = Table.find MiddlewareTemplate.id before.1.middlewareTemplates templateId ∧
        after = before) :=
  transacts_query _ _

theorem lawful_templates (environment : ProxyEnvironment) :
    Lawful middlewareKind (middlewareUseCases environment) middlewareSpecification where
  valid := fun _ _ _ normal found => normal.templates _ (Table.mem_of_find found).1
  get := by
    intro templateId
    refine (transacts_getTemplate templateId).mono ?_
    intro before found after answered
    exact ⟨answered.1, congrArg Prod.fst answered.2⟩
  update := by
    intro templateId data
    refine (transacts_updateTemplate templateId data).mono ?_
    rintro before result after (⟨isNone, same⟩ | ⟨current, next, found, isNext, -, isResult, left⟩)
    · exact .inl ⟨isNone, same⟩
    · obtain ⟨stored, isId⟩ := Table.mem_of_find found
      have sameId : next.id = templateId := (id_of_templateUpdate isNext).trans isId
      refine .inr ⟨current, next, found, isNext, isResult, ?_, ?_⟩
      · rw [left, ← sameId]
        exact Table.find_save next
      · intro normal
        rw [left]
        exact normal.saveTemplate
          (normal_of_updatedTemplate (normal.templates current stored) isNext)
  reach := transacts_reachAudited environment
  restores := by
    intro _ before after payload request current restored normal _ isNormal isPayload accepted done
    cases isPayload
    exact restores_middleware normal isNormal accepted done

end Templates

end TraefikManager.Proxy
