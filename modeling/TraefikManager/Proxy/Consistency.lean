import TraefikManager.Proxy.Operations

/-!
# Routing invariants across the tables

No two stored resources claim the same DNS name, every template a service refers to is
stored, and no authenticated service refers to a template of basic authentication.
The operations keep these invariants as long as their domains differ in more than
case, and as long as an import respects what the other operations check.
-/

namespace TraefikManager.Proxy

open Foundation Domain Traefik Backup

section Invariant

/-- A domain as the DNS compares it. -/
def dnsName (domain : DomainName) : String := Text.lower domain.value

/-- The names that services and redirect hosts claim. -/
def claimedNames (database : Database) : List String :=
  database.services.map (dnsName ·.domain) ++ database.redirectHosts.map (dnsName ·.domain)

/-- The routing invariants. -/
structure Consistent (database : Database) : Prop where
  names : (claimedNames database).Nodup
  references : ∀ service ∈ database.services, ∀ templateId ∈ service.middlewareTemplateIds,
    ∃ template ∈ database.middlewareTemplates, template.id.text = templateId
  authentication : ∀ service ∈ database.services, service.authEnabled = true →
    ∀ template ∈ database.middlewareTemplates, template.id.text ∈ service.middlewareTemplateIds →
      template.config.type ≠ .basicAuth

instance (database : Database) : Decidable (Consistent database) :=
  decidable_of_iff
    ((claimedNames database).Nodup ∧
      (∀ service ∈ database.services, ∀ templateId ∈ service.middlewareTemplateIds,
        ∃ template ∈ database.middlewareTemplates, template.id.text = templateId) ∧
      ∀ service ∈ database.services, service.authEnabled = true →
        ∀ template ∈ database.middlewareTemplates,
          template.id.text ∈ service.middlewareTemplateIds → template.config.type ≠ .basicAuth)
    ⟨fun ⟨names, references, authentication⟩ => ⟨names, references, authentication⟩,
      fun consistent => ⟨consistent.names, consistent.references, consistent.authentication⟩⟩

/-- The invariants with what their preservation rests on: identifiers name their rows. -/
structure Sound (database : Database) : Prop extends Consistent database where
  serviceIds : (database.services.map (·.id)).Nodup
  redirectIds : (database.redirectHosts.map (·.id)).Nodup
  templateIds : (database.middlewareTemplates.map (·.id.text)).Nodup

end Invariant

section Templates

variable {database : Database}

private theorem lookUpTemplates_ok {templates found : List MiddlewareTemplate}
    {templateIds : List String} (done : lookUpTemplates templates templateIds = .ok found) :
    ∀ templateId ∈ templateIds, ∃ template ∈ found,
      template ∈ templates ∧ template.id.text = templateId := by
  unfold lookUpTemplates at done
  induction templateIds generalizing found with
  | nil => simp
  | cons first rest ih =>
      simp only [List.mapM_cons, bind_eq_ok] at done
      obtain ⟨template, isFirst, others, isRest, isFound⟩ := done
      cases isFound
      cases known : templates.find? fun template => template.id.text = first with
      | none =>
          rw [known] at isFirst
          cases isFirst
      | some template =>
          rw [known] at isFirst
          cases isFirst
          intro templateId listed
          rcases List.mem_cons.mp listed with rfl | later
          · exact ⟨template, by simp, List.mem_of_find?_eq_some known,
              by simpa using List.find?_some known⟩
          · obtain ⟨other, inRest, stored⟩ := ih isRest templateId later
            exact ⟨other, by simp [inRest], stored⟩

/-- Each resolved reference is the text of a stored template. -/
theorem resolvedTemplates_ok {templateIds : List String} {found : List MiddlewareTemplate}
    (resolved : resolvedTemplates database templateIds = .ok found) :
    ∀ templateId ∈ templateIds, ∃ template ∈ found,
      template ∈ database.middlewareTemplates ∧ template.id.text = templateId := by
  unfold resolvedTemplates at resolved
  by_cases empty : templateIds = []
  · simp [empty]
  · rw [if_neg empty] at resolved
    simp only [bind_eq_ok] at resolved
    obtain ⟨parsedIds, -, isFound⟩ := resolved
    intro templateId listed
    obtain ⟨template, inFound, stored, isId⟩ := lookUpTemplates_ok isFound templateId listed
    exact ⟨template, inFound, (List.mem_filter.mp stored).1, isId⟩

/-- A resolved and checked service of authentication refers to no basic authentication. -/
theorem noBasicAuth_of_resolved (templateIds : (database.middlewareTemplates.map (·.id.text)).Nodup)
    {service : Service} {found : List MiddlewareTemplate}
    (resolved : resolvedTemplates database service.middlewareTemplateIds = .ok found)
    (allowed : validateAuthConflict service found = .ok ()) (enabled : service.authEnabled = true) :
    ∀ template ∈ database.middlewareTemplates, template.id.text ∈ service.middlewareTemplateIds →
      template.config.type ≠ .basicAuth := by
  intro template stored referred isBasicAuth
  obtain ⟨other, inFound, otherStored, sameText⟩ := resolvedTemplates_ok resolved _ referred
  have same : other = template :=
    List.inj_on_of_nodup_map templateIds otherStored stored sameText
  subst same
  have conflicts : service.authEnabled = true ∧ found.any (·.config.type = .basicAuth) = true :=
    ⟨enabled, List.any_eq_true.mpr ⟨other, inFound, by simpa using isBasicAuth⟩⟩
  rw [validateAuthConflict, if_pos conflicts] at allowed
  cases allowed

end Templates

section Saving

variable {database : Database}

/-- Saving a service whose name no other resource claims and whose references are sound. -/
theorem Sound.saveService (sound : Sound database) {service : Service}
    (freshAmongServices : ∀ other ∈ database.services, other.id ≠ service.id →
      dnsName other.domain ≠ dnsName service.domain)
    (freshAmongRedirects : ∀ redirectHost ∈ database.redirectHosts,
      dnsName redirectHost.domain ≠ dnsName service.domain)
    (references : ∀ templateId ∈ service.middlewareTemplateIds,
      ∃ template ∈ database.middlewareTemplates, template.id.text = templateId)
    (authentication : service.authEnabled = true → ∀ template ∈ database.middlewareTemplates,
      template.id.text ∈ service.middlewareTemplateIds → template.config.type ≠ .basicAuth) :
    Sound { database with services := Table.save Service.id database.services service } := by
  obtain ⟨serviceNames, redirectNames, apart⟩ := List.nodup_append.mp sound.names
  refine
    { names := List.nodup_append.mpr
        ⟨Table.nodup_map_save sound.serviceIds serviceNames freshAmongServices, redirectNames, ?_⟩
      references := ?_
      authentication := ?_
      serviceIds := Table.nodup_save sound.serviceIds service
      redirectIds := sound.redirectIds
      templateIds := sound.templateIds }
  · intro name inServices other inRedirects same
    obtain ⟨saved, isSaved, rfl⟩ := List.mem_map.mp inServices
    obtain ⟨redirectHost, isRedirect, rfl⟩ := List.mem_map.mp inRedirects
    rcases Table.mem_save.mp isSaved with rfl | ⟨stays, -⟩
    · exact freshAmongRedirects redirectHost isRedirect same.symm
    · exact apart _ (List.mem_map.mpr ⟨saved, stays, rfl⟩) _ inRedirects same
  · intro saved isSaved
    rcases Table.mem_save.mp isSaved with rfl | ⟨stays, -⟩
    · exact references
    · exact sound.references saved stays
  · intro saved isSaved
    rcases Table.mem_save.mp isSaved with rfl | ⟨stays, -⟩
    · exact authentication
    · exact sound.authentication saved stays

theorem Sound.deleteService (sound : Sound database) (serviceId : Uuid) :
    Sound { database with
      services := Table.delete Service.id database.services serviceId } := by
  have kept : ∀ service ∈ Table.delete Service.id database.services serviceId,
      service ∈ database.services := fun service listed => (Table.mem_delete.mp listed).1
  exact
    { names := sound.names.sublist
        ((List.filter_sublist.map _).append (List.Sublist.refl _))
      references := fun service listed => sound.references service (kept service listed)
      authentication := fun service listed => sound.authentication service (kept service listed)
      serviceIds := Table.nodup_delete sound.serviceIds serviceId
      redirectIds := sound.redirectIds
      templateIds := sound.templateIds }

/-- Saving a redirect host whose name no other resource claims. -/
theorem Sound.saveRedirectHost (sound : Sound database) {redirectHost : RedirectHost}
    (freshAmongServices : ∀ service ∈ database.services,
      dnsName service.domain ≠ dnsName redirectHost.domain)
    (freshAmongRedirects : ∀ other ∈ database.redirectHosts, other.id ≠ redirectHost.id →
      dnsName other.domain ≠ dnsName redirectHost.domain) :
    Sound { database with
      redirectHosts := Table.save RedirectHost.id database.redirectHosts redirectHost } := by
  obtain ⟨serviceNames, redirectNames, apart⟩ := List.nodup_append.mp sound.names
  refine
    { names := List.nodup_append.mpr
        ⟨serviceNames, Table.nodup_map_save sound.redirectIds redirectNames freshAmongRedirects, ?_⟩
      references := sound.references
      authentication := sound.authentication
      serviceIds := sound.serviceIds
      redirectIds := Table.nodup_save sound.redirectIds redirectHost
      templateIds := sound.templateIds }
  intro name inServices other inRedirects same
  obtain ⟨service, isService, rfl⟩ := List.mem_map.mp inServices
  obtain ⟨saved, isSaved, rfl⟩ := List.mem_map.mp inRedirects
  rcases Table.mem_save.mp isSaved with rfl | ⟨stays, -⟩
  · exact freshAmongServices service isService same
  · exact apart _ inServices _ (List.mem_map.mpr ⟨saved, stays, rfl⟩) same

theorem Sound.deleteRedirectHost (sound : Sound database) (redirectId : Uuid) :
    Sound { database with
      redirectHosts := Table.delete RedirectHost.id database.redirectHosts redirectId } :=
  { names := sound.names.sublist
      ((List.Sublist.refl _).append (List.filter_sublist.map _))
    references := sound.references
    authentication := sound.authentication
    serviceIds := sound.serviceIds
    redirectIds := Table.nodup_delete sound.redirectIds redirectId
    templateIds := sound.templateIds }

/-- Saving a template: its text is its own, and it becomes basic authentication only
when no authenticated service refers to it. -/
theorem Sound.saveTemplate (sound : Sound database) {template : MiddlewareTemplate}
    (fresh : ∀ other ∈ database.middlewareTemplates, other.id ≠ template.id →
      other.id.text ≠ template.id.text)
    (authentication : template.config.type = .basicAuth → ∀ service ∈ database.services,
      service.authEnabled = true → template.id.text ∉ service.middlewareTemplateIds) :
    Sound { database with
      middlewareTemplates :=
        Table.save MiddlewareTemplate.id database.middlewareTemplates template } := by
  have ids : (database.middlewareTemplates.map MiddlewareTemplate.id).Nodup := by
    refine List.Nodup.of_map Uuid.text ?_
    rw [List.map_map]
    exact sound.templateIds
  refine
    { names := sound.names
      references := ?_
      authentication := ?_
      serviceIds := sound.serviceIds
      redirectIds := sound.redirectIds
      templateIds := Table.nodup_map_save ids sound.templateIds fresh }
  · intro service listed templateId referred
    obtain ⟨other, stored, isId⟩ := sound.references service listed templateId referred
    by_cases same : other.id = template.id
    · exact ⟨template, Table.mem_save.mpr (.inl rfl), by rw [← same, isId]⟩
    · exact ⟨other, Table.mem_save.mpr (.inr ⟨stored, same⟩), isId⟩
  · intro service listed enabled saved isSaved referred isBasicAuth
    rcases Table.mem_save.mp isSaved with rfl | ⟨stays, -⟩
    · exact authentication isBasicAuth service listed enabled referred
    · exact sound.authentication service listed enabled saved stays referred isBasicAuth

/-- Deleting a template no service refers to. -/
theorem Sound.deleteTemplate (sound : Sound database) {templateId : Uuid}
    (unused : ∀ service ∈ database.services, templateId.text ∉ service.middlewareTemplateIds) :
    Sound { database with
      middlewareTemplates :=
        Table.delete MiddlewareTemplate.id database.middlewareTemplates templateId } := by
  refine
    { names := sound.names
      references := ?_
      authentication := fun service listed enabled template stored =>
        sound.authentication service listed enabled template (Table.mem_delete.mp stored).1
      serviceIds := sound.serviceIds
      redirectIds := sound.redirectIds
      templateIds := sound.templateIds.sublist (List.filter_sublist.map _) }
  intro service listed reference referred
  obtain ⟨template, stored, rfl⟩ := sound.references service listed reference referred
  refine ⟨template, Table.mem_delete.mpr ⟨stored, ?_⟩, rfl⟩
  rintro rfl
  exact unused service listed referred

end Saving

section Conditions

inductive ResourceKind where
  | service
  | redirectHost
  deriving DecidableEq, Repr

/-- The stored resources with their domains as they are written. -/
def storedClaims (database : Database) : List (ResourceKind × String) :=
  database.services.map (fun service => (.service, service.domain.value)) ++
    database.redirectHosts.map fun redirectHost => (.redirectHost, redirectHost.domain.value)

/-- The entries of a backup with their domains. -/
def entryClaims (payload : BackupPayload) : List (ResourceKind × String) :=
  payload.services.map (fun item => (.service, item.domain)) ++
    payload.redirectHosts.map fun item => (.redirectHost, item.domain)

/-- Claims of one DNS name are one claim. -/
def Apart (claims : List (ResourceKind × String)) : Prop :=
  ∀ first ∈ claims, ∀ second ∈ claims,
    Text.lower first.2 = Text.lower second.2 → first = second

/-- No authenticated entry refers to a template of basic authentication. -/
def EntriesAllowed (database : Database) (payload : BackupPayload) : Prop :=
  ∀ item ∈ payload.services, item.authEnabled = true → ∀ templateIds,
    normalizeMiddlewareTemplateIds (some item.middlewareTemplateIds) = .ok templateIds →
      ∀ template ∈ database.middlewareTemplates, template.id.text ∈ templateIds →
        template.config.type ≠ .basicAuth

/-- What an operation would have to check for the invariants, beyond what it checks. A
new service is compared with the services of exactly its domain only, and an import
with nothing. -/
def Operation.Safe (database : Database) : Operation → Prop
  | createService _ data =>
      ∀ claim ∈ storedClaims database, Text.lower claim.2 = Text.lower data.domain →
        claim = (.service, data.domain)
  | createRedirectHost _ data =>
      ∀ claim ∈ storedClaims database, Text.lower claim.2 = Text.lower data.domain →
        claim.2 = data.domain
  | updateRedirectHost _ redirectId data =>
      ∀ domain, data.domain = some domain →
        (∀ service ∈ database.services, dnsName service.domain = Text.lower domain →
          service.domain.value = domain) ∧
        ∀ redirectHost ∈ database.redirectHosts, redirectHost.id ≠ redirectId →
          dnsName redirectHost.domain = Text.lower domain → redirectHost.domain.value = domain
  | importBackup _ mode payload =>
      Apart (entryClaims payload ++ if mode = .merge then storedClaims database else []) ∧
        EntriesAllowed database payload
  | updateService .. | deleteService .. | deleteRedirectHost .. | createTemplate ..
  | updateTemplate .. | deleteTemplate .. => True

/-- A new template gets an identifier no stored template has. -/
def Operation.Fresh (database : Database) : Operation → Prop
  | createTemplate environment _ =>
      ∀ template ∈ database.middlewareTemplates, template.id.text ≠ environment.newId.text
  | _ => True

/-- The sessions that operations allowed at their tables reach from an installation
without resources. -/
inductive ReachableBy (allowed : Database → Operation → Prop) : ProxySession → Prop where
  | empty {session : ProxySession} (noServices : session.stored.services = [])
      (noRedirectHosts : session.stored.redirectHosts = [])
      (noTemplates : session.stored.middlewareTemplates = []) : ReachableBy allowed session
  | step {session : ProxySession} (reached : ReachableBy allowed session) (operation : Operation)
      (isAllowed : allowed session.stored operation) :
      ReachableBy allowed (Program.finalState operation.run session)

end Conditions

section Preservation

variable {database : Database} {environment : ProxyEnvironment}

theorem Sound.recorded (sound : Sound database) (log : AuditLog) : Sound (database.recorded log) :=
  { sound with }

private theorem mem_storedClaims_service {service : Service}
    (listed : service ∈ database.services) :
    (ResourceKind.service, service.domain.value) ∈ storedClaims database :=
  List.mem_append_left _ (List.mem_map.mpr ⟨service, listed, rfl⟩)

private theorem mem_storedClaims_redirectHost {redirectHost : RedirectHost}
    (listed : redirectHost ∈ database.redirectHosts) :
    (ResourceKind.redirectHost, redirectHost.domain.value) ∈ storedClaims database :=
  List.mem_append_right _ (List.mem_map.mpr ⟨redirectHost, listed, rfl⟩)

/-- Creating a service whose domain is no stored resource's. -/
theorem Sound.createService (sound : Sound database) {data : ServiceCreate}
    (safe : Operation.Safe database (.createService environment data))
    {prepared : Service × List MiddlewareTemplate}
    (isPrepared : Prepared environment data database prepared) {service : Service}
    (resynced : Resynced prepared.1 service) :
    Sound { database with services := Table.save Service.id database.services service } := by
  have isDomain : service.domain.value = data.domain := by
    rw [resynced.same.domain]
    exact (identity_of_created isPrepared.created).2
  have resolved : resolvedTemplates database service.middlewareTemplateIds = .ok prepared.2 := by
    rw [resynced.same.middlewareTemplateIds]
    exact isPrepared.templates
  have allowed : validateAuthConflict service prepared.2 = .ok () := by
    unfold validateAuthConflict
    rw [resynced.same.authEnabled]
    exact isPrepared.allowed
  refine sound.saveService ?_ ?_ ?_ (noBasicAuth_of_resolved sound.templateIds resolved allowed)
  · intro other listed _ same
    rw [dnsName, dnsName, isDomain] at same
    have claim := safe _ (mem_storedClaims_service listed) same
    exact isPrepared.available other listed (Prod.mk.inj claim).2
  · intro redirectHost listed same
    rw [dnsName, dnsName, isDomain] at same
    have claim := safe _ (mem_storedClaims_redirectHost listed) same
    cases (Prod.mk.inj claim).1
  · intro templateId referred
    obtain ⟨template, -, stored, isId⟩ := resolvedTemplates_ok resolved templateId referred
    exact ⟨template, stored, isId⟩

/-- An update changes neither the domain nor what a reference may be. -/
theorem Sound.updateService (sound : Sound database) {service : Service} {payload : ServiceUpdate}
    {serviceId : Uuid} (found : Table.find Service.id database.services serviceId = some service)
    {edited : Service × List MiddlewareTemplate}
    (isEdited : Edited environment service payload database edited) :
    Sound { database with services := Table.save Service.id database.services edited.1 } := by
  obtain ⟨applied, isApplied, resynced⟩ := isEdited.applied
  obtain ⟨sameId, sameDomain⟩ := identity_of_applied isApplied
  have isId : edited.1.id = service.id := resynced.same.id.trans sameId
  have isDomain : edited.1.domain = service.domain := resynced.same.domain.trans sameDomain
  obtain ⟨listed, -⟩ := Table.mem_of_find found
  obtain ⟨serviceNames, -, apart⟩ := List.nodup_append.mp sound.names
  refine sound.saveService ?_ ?_ ?_
    (noBasicAuth_of_resolved sound.templateIds isEdited.templates isEdited.allowed)
  · intro other isOther differs same
    rw [isDomain] at same
    rw [isId] at differs
    exact differs (congrArg Service.id
      (List.inj_on_of_nodup_map serviceNames isOther listed same))
  · intro redirectHost isRedirect same
    rw [isDomain] at same
    exact apart _ (List.mem_map.mpr ⟨service, listed, rfl⟩) _
      (List.mem_map.mpr ⟨redirectHost, isRedirect, rfl⟩) same.symm
  · intro templateId referred
    obtain ⟨template, -, stored, isTemplate⟩ :=
      resolvedTemplates_ok isEdited.templates templateId referred
    exact ⟨template, stored, isTemplate⟩

/-- Creating a redirect host whose domain is no stored resource's. -/
theorem Sound.createRedirectHost (sound : Sound database) {data : RedirectHostCreate}
    (safe : Operation.Safe database (.createRedirectHost environment data))
    (available : Available database data.domain) {redirectHost : RedirectHost} {id : Uuid}
    (created : RedirectHost.create data.domain data.targetUrl data.permanent data.tlsEnabled id =
      .ok redirectHost) :
    Sound { database with
      redirectHosts := Table.save RedirectHost.id database.redirectHosts redirectHost } := by
  have isDomain : redirectHost.domain.value = data.domain := by
    simp only [RedirectHost.create, bind_eq_ok] at created
    obtain ⟨domain, made, _, -, isRedirect⟩ := created
    cases isRedirect
    exact DomainName.make_ok made
  refine sound.saveRedirectHost ?_ ?_
  · intro service listed same
    rw [dnsName, dnsName, isDomain] at same
    exact available.2 service listed (safe _ (mem_storedClaims_service listed) same)
  · intro other listed _ same
    rw [dnsName, dnsName, isDomain] at same
    exact available.1 other listed (safe _ (mem_storedClaims_redirectHost listed) same)

/-- An update of a redirect host with each of its steps named. -/
theorem redirectUpdate_eq (redirectHost : RedirectHost) (domain targetUrl : Option String)
    (permanent tlsEnabled : Option Bool) :
    redirectHost.update domain targetUrl permanent tlsEnabled = (do
      let newDomain ← Service.changed redirectHost.domain DomainName.make domain
      let newTarget ← Service.changed redirectHost.targetUrl normalizeTargetUrl targetUrl
      pure { redirectHost with
             domain := newDomain
             targetUrl := newTarget
             permanent := permanent.getD redirectHost.permanent
             tlsEnabled := tlsEnabled.getD redirectHost.tlsEnabled }) := by
  cases domain <;> cases targetUrl <;> rfl

/-- An update of a redirect host keeps its domain, or moves it to a submitted one. -/
theorem domain_of_redirectUpdate {redirectHost updated : RedirectHost} {domain targetUrl : Option String}
    {permanent tlsEnabled : Option Bool}
    (done : redirectHost.update domain targetUrl permanent tlsEnabled = .ok updated) :
    updated.id = redirectHost.id ∧ (updated.domain = redirectHost.domain ∨
      domain = some updated.domain.value ∧ orText domain none = some updated.domain.value) := by
  simp only [redirectUpdate_eq, bind_eq_ok] at done
  obtain ⟨newDomain, isDomain, newTarget, -, isUpdated⟩ := done
  cases isUpdated
  refine ⟨rfl, ?_⟩
  cases domain with
  | none => exact .inl (Except.ok.inj isDomain).symm
  | some text =>
      have made : newDomain.value = text := DomainName.make_ok isDomain
      have given : text ≠ "" := by
        rintro rfl
        have valid := newDomain.valid
        rw [made] at valid
        exact absurd valid (by decide)
      refine .inr ⟨congrArg some made.symm, ?_⟩
      simp [orText, given, made]

/-- Moving a redirect host to a domain that is no other stored resource's. -/
theorem Sound.updateRedirectHost (sound : Sound database) {data : RedirectHostUpdate}
    {redirectId : Uuid} (safe : Operation.Safe database
      (.updateRedirectHost environment redirectId data)) {redirectHost updated : RedirectHost}
    (found : Table.find RedirectHost.id database.redirectHosts redirectId = some redirectHost)
    (available : ∀ target, orText data.domain none = some target →
      target ≠ redirectHost.domain.value → Available database target)
    (done : redirectHost.update data.domain data.targetUrl data.permanent data.tlsEnabled =
      .ok updated) :
    Sound { database with
      redirectHosts := Table.save RedirectHost.id database.redirectHosts updated } := by
  obtain ⟨listed, isId⟩ := Table.mem_of_find found
  obtain ⟨sameId, moves⟩ := domain_of_redirectUpdate done
  obtain ⟨-, redirectNames, apart⟩ := List.nodup_append.mp sound.names
  by_cases stays : updated.domain = redirectHost.domain
  · refine sound.saveRedirectHost ?_ ?_
    · intro service isService same
      rw [stays] at same
      exact apart _ (List.mem_map.mpr ⟨service, isService, rfl⟩) _
        (List.mem_map.mpr ⟨redirectHost, listed, rfl⟩) same
    · intro other isOther differs same
      rw [stays] at same
      rw [sameId] at differs
      exact differs (congrArg RedirectHost.id
        (List.inj_on_of_nodup_map redirectNames isOther listed same))
  · rcases moves with same | ⟨given, isTarget⟩
    · exact absurd same stays
    · have free := available _ isTarget fun same => stays (DomainName.ext same)
      obtain ⟨amongServices, amongRedirects⟩ := safe _ given
      refine sound.saveRedirectHost ?_ ?_
      · intro service isService same
        exact free.2 service isService (amongServices service isService same)
      · intro other isOther differs same
        rw [sameId, isId] at differs
        exact free.1 other isOther (amongRedirects other isOther differs same)

/-- A new template that no reference means yet. -/
theorem Sound.createTemplate (sound : Sound database) {data : MiddlewareTemplateCreate}
    (fresh : Operation.Fresh database (.createTemplate environment data))
    {template : MiddlewareTemplate}
    (created : MiddlewareTemplate.create data.name data.type data.config environment.newId =
      .ok template) :
    Sound { database with
      middlewareTemplates :=
        Table.save MiddlewareTemplate.id database.middlewareTemplates template } := by
  have isId : template.id = environment.newId := by
    simp only [MiddlewareTemplate.create, bind_eq_ok] at created
    obtain ⟨name, -, config, -, isTemplate⟩ := created
    cases isTemplate
    rfl
  refine sound.saveTemplate ?_ ?_
  · intro other stored _
    rw [isId]
    exact fresh other stored
  · intro _ service listed _ referred
    obtain ⟨other, stored, sameText⟩ := sound.references service listed _ referred
    rw [isId] at sameText
    exact fresh other stored sameText

/-- A changed template is checked against the services that refer to it. -/
theorem Sound.updateTemplate (sound : Sound database) {data : MiddlewareTemplateUpdate}
    {templateId : Uuid} {template updated : MiddlewareTemplate}
    (found : Table.find MiddlewareTemplate.id database.middlewareTemplates templateId =
      some template)
    (done : template.update data.name data.type data.config = .ok updated)
    (allowed : validateAuthConflicts updated (database.services.filter
      (templateId.text ∈ ·.middlewareTemplateIds)) = .ok ()) :
    Sound { database with
      middlewareTemplates :=
        Table.save MiddlewareTemplate.id database.middlewareTemplates updated } := by
  obtain ⟨stored, isId⟩ := Table.mem_of_find found
  have sameId : updated.id = template.id := by
    have named : template.update data.name data.type data.config = (do
        let newName ← Service.changed template.name normalizeTemplateName data.name
        let newConfig ← normalizeConfig (data.type.getD template.config.type)
          (data.config.getD template.config.raw)
        pure { template with name := newName, config := newConfig }) := by
      cases data.name <;> rfl
    rw [named] at done
    simp only [bind_eq_ok] at done
    obtain ⟨name, -, config, -, isUpdated⟩ := done
    cases isUpdated
    rfl
  refine sound.saveTemplate ?_ ?_
  · intro other isOther differs same
    rw [sameId] at differs same
    exact differs (congrArg MiddlewareTemplate.id
      (List.inj_on_of_nodup_map sound.templateIds isOther stored same))
  · intro isBasicAuth service listed enabled referred
    rw [sameId, isId] at referred
    unfold validateAuthConflicts at allowed
    have conflicts : ((database.services.filter
        (templateId.text ∈ ·.middlewareTemplateIds)).filter (·.authEnabled)).map (·.name) ≠ [] := by
      refine List.ne_nil_of_mem (List.mem_map.mpr ⟨service, ?_, rfl⟩)
      simp [listed, referred, enabled]
    dsimp only at allowed
    rw [if_pos ⟨isBasicAuth, conflicts⟩] at allowed
    cases allowed

end Preservation

section Import

variable {claims : List (ResourceKind × String)} {templates : List MiddlewareTemplate}
  {database : Database} {environment : ProxyEnvironment}

/-- What every entry of an import preserves: the claims made so far are among those of
the import, and everything but the names is as it should be. -/
structure ImportSound (claims : List (ResourceKind × String)) (templates : List MiddlewareTemplate)
    (database : Database) : Prop where
  among : ∀ claim ∈ storedClaims database, claim ∈ claims
  serviceDomains : (database.services.map (·.domain.value)).Nodup
  redirectDomains : (database.redirectHosts.map (·.domain.value)).Nodup
  references : ∀ service ∈ database.services, ∀ templateId ∈ service.middlewareTemplateIds,
    ∃ template ∈ database.middlewareTemplates, template.id.text = templateId
  authentication : ∀ service ∈ database.services, service.authEnabled = true →
    ∀ template ∈ database.middlewareTemplates, template.id.text ∈ service.middlewareTemplateIds →
      template.config.type ≠ .basicAuth
  serviceIds : (database.services.map (·.id)).Nodup
  redirectIds : (database.redirectHosts.map (·.id)).Nodup
  templateIds : (database.middlewareTemplates.map (·.id.text)).Nodup
  sameTemplates : database.middlewareTemplates = templates

/-- Claims that are apart name every resource once. -/
theorem ImportSound.sound (imported : ImportSound claims templates database)
    (apart : Apart claims) : Sound database := by
  refine
    { names := List.nodup_append.mpr ⟨?_, ?_, ?_⟩
      references := imported.references
      authentication := imported.authentication
      serviceIds := imported.serviceIds
      redirectIds := imported.redirectIds
      templateIds := imported.templateIds }
  · refine List.Nodup.map_on ?_ imported.serviceDomains.of_map
    intro first isFirst second isSecond same
    have claim := apart _ (imported.among _ (mem_storedClaims_service isFirst)) _
      (imported.among _ (mem_storedClaims_service isSecond)) same
    exact List.inj_on_of_nodup_map imported.serviceDomains isFirst isSecond (Prod.mk.inj claim).2
  · refine List.Nodup.map_on ?_ imported.redirectDomains.of_map
    intro first isFirst second isSecond same
    have claim := apart _ (imported.among _ (mem_storedClaims_redirectHost isFirst)) _
      (imported.among _ (mem_storedClaims_redirectHost isSecond)) same
    exact List.inj_on_of_nodup_map imported.redirectDomains isFirst isSecond (Prod.mk.inj claim).2
  · intro name inServices other inRedirects same
    obtain ⟨service, isService, rfl⟩ := List.mem_map.mp inServices
    obtain ⟨redirectHost, isRedirect, rfl⟩ := List.mem_map.mp inRedirects
    have claim := apart _ (imported.among _ (mem_storedClaims_service isService)) _
      (imported.among _ (mem_storedClaims_redirectHost isRedirect)) same
    cases (Prod.mk.inj claim).1

private theorem importSound_of_sound (sound : Sound database)
    (among : ∀ claim ∈ storedClaims database, claim ∈ claims) :
    ImportSound claims database.middlewareTemplates database := by
  obtain ⟨serviceNames, redirectNames, -⟩ := List.nodup_append.mp sound.names
  refine
    { sound with
      among
      serviceDomains := List.Nodup.of_map Text.lower ?_
      redirectDomains := List.Nodup.of_map Text.lower ?_
      sameTemplates := rfl }
  · rw [List.map_map]
    exact serviceNames
  · rw [List.map_map]
    exact redirectNames

private theorem importSound_cleared (sound : Sound database) :
    ImportSound claims database.middlewareTemplates
      { database with services := [], redirectHosts := [] } :=
  { among := by simp [storedClaims]
    serviceDomains := by simp
    redirectDomains := by simp
    references := by simp
    authentication := by simp
    serviceIds := by simp
    redirectIds := by simp
    templateIds := sound.templateIds
    sameTemplates := rfl }

/-- Saving an imported service. -/
theorem ImportSound.saveService (imported : ImportSound claims templates database)
    {service : Service} (claimed : (ResourceKind.service, service.domain.value) ∈ claims)
    (fresh : ∀ other ∈ database.services, other.id ≠ service.id →
      other.domain.value ≠ service.domain.value)
    {found : List MiddlewareTemplate}
    (resolved : resolvedTemplates database service.middlewareTemplateIds = .ok found)
    (authentication : service.authEnabled = true → ∀ template ∈ database.middlewareTemplates,
      template.id.text ∈ service.middlewareTemplateIds → template.config.type ≠ .basicAuth) :
    ImportSound claims templates
      { database with services := Table.save Service.id database.services service } := by
  refine
    { among := ?_
      serviceDomains := Table.nodup_map_save imported.serviceIds imported.serviceDomains fresh
      redirectDomains := imported.redirectDomains
      references := ?_
      authentication := ?_
      serviceIds := Table.nodup_save imported.serviceIds service
      redirectIds := imported.redirectIds
      templateIds := imported.templateIds
      sameTemplates := imported.sameTemplates }
  · intro claim listed
    rcases List.mem_append.mp listed with inServices | inRedirects
    · obtain ⟨saved, isSaved, rfl⟩ := List.mem_map.mp inServices
      rcases Table.mem_save.mp isSaved with rfl | ⟨stays, -⟩
      · exact claimed
      · exact imported.among _ (mem_storedClaims_service stays)
    · exact imported.among _ (List.mem_append_right _ inRedirects)
  · intro saved isSaved
    rcases Table.mem_save.mp isSaved with rfl | ⟨stays, -⟩
    · intro templateId referred
      obtain ⟨template, -, stored, isId⟩ := resolvedTemplates_ok resolved templateId referred
      exact ⟨template, stored, isId⟩
    · exact imported.references saved stays
  · intro saved isSaved
    rcases Table.mem_save.mp isSaved with rfl | ⟨stays, -⟩
    · exact authentication
    · exact imported.authentication saved stays

/-- Saving an imported redirect host. -/
theorem ImportSound.saveRedirectHost (imported : ImportSound claims templates database)
    {redirectHost : RedirectHost}
    (claimed : (ResourceKind.redirectHost, redirectHost.domain.value) ∈ claims)
    (fresh : ∀ other ∈ database.redirectHosts, other.id ≠ redirectHost.id →
      other.domain.value ≠ redirectHost.domain.value) :
    ImportSound claims templates { database with
      redirectHosts := Table.save RedirectHost.id database.redirectHosts redirectHost } := by
  refine
    { imported with
      among := ?_
      redirectDomains := Table.nodup_map_save imported.redirectIds imported.redirectDomains fresh
      redirectIds := Table.nodup_save imported.redirectIds redirectHost }
  intro claim listed
  rcases List.mem_append.mp listed with inServices | inRedirects
  · exact imported.among _ (List.mem_append_left _ inServices)
  · obtain ⟨saved, isSaved, rfl⟩ := List.mem_map.mp inRedirects
    rcases Table.mem_save.mp isSaved with rfl | ⟨stays, -⟩
    · exact claimed
    · exact imported.among _ (mem_storedClaims_redirectHost stays)

/-- What an entry of a service determines: its domain, its references, and that it is
authenticated only if the entry is. -/
structure FromEntry (item : BackupServiceItem) (service : Service) : Prop where
  domain : service.domain.value = item.domain
  templateIds : normalizeMiddlewareTemplateIds (some item.middlewareTemplateIds) =
    .ok service.middlewareTemplateIds
  authEnabled : service.authEnabled = true → item.authEnabled = true

theorem id_of_createdImport {item : BackupServiceItem} {id : Uuid} {service : Service}
    (created : createImportedService item id = .ok service) : service.id = id := by
  unfold createImportedService at created
  cases isCreated : Service.create (importCreateArguments item) id "" with
  | error failure =>
      rw [isCreated] at created
      cases created
  | ok built =>
      rw [isCreated] at created
      cases created
      exact (identity_of_create isCreated).1

theorem fromEntry_of_created {item : BackupServiceItem} {id : Uuid} {service : Service}
    (created : createImportedService item id = .ok service) : FromEntry item service := by
  unfold createImportedService at created
  cases isCreated : Service.create (importCreateArguments item) id "" with
  | error failure =>
      rw [isCreated] at created
      cases created
  | ok built =>
      rw [isCreated] at created
      cases created
      have isDomain := (identity_of_create isCreated).2
      simp only [Service.create, bind_eq_ok] at isCreated
      obtain ⟨_, -, authState, isAuth, transportState, -, ⟨average, burst⟩, -, domain, -, upstream,
        -, routingMode, -, message, -, moment, -, allowedIps, -, blockedPaths, -, customHeaders, -,
        basicAuthUsers, -, templateIds, isIds, framePolicy, -, path, -, timeout, -, statuses, -,
        isService⟩ := isCreated
      cases isService
      refine ⟨isDomain, isIds, fun enabled => ?_⟩
      simp only [resolveCreatedAuthState, bind_eq_ok] at isAuth
      obtain ⟨mode, isMode, _, -, isState⟩ := isAuth
      cases isState
      by_contra disabled
      rw [Bool.not_eq_true] at disabled
      have isNone : normalizeAuthMode "none" (some false) = .ok mode := by
        rw [← disabled]
        exact isMode
      cases isNone
      cases enabled

theorem fromEntry_of_updated {item : BackupServiceItem} {existing service : Service}
    (updated : updateImportedService existing item = .ok service)
    (hasDomain : existing.domain.value = item.domain) :
    FromEntry item service ∧ service.id = existing.id := by
  unfold updateImportedService at updated
  cases isUpdated : existing.update (importUpdateArguments item) "" with
  | error failure =>
      rw [isUpdated] at updated
      cases updated
  | ok built =>
      rw [isUpdated] at updated
      cases updated
      obtain ⟨sameId, sameDomain⟩ := identity_of_update isUpdated
      simp only [Service.update, bind_eq_ok] at isUpdated
      obtain ⟨moved, -, authed, isAuthed, isAccessed⟩ := isUpdated
      have third := Service.updateAccess_ok isAccessed
      obtain ⟨state, isState, -, isEnabled, -⟩ := (Service.updateAuth_ok isAuthed).auth
      refine ⟨⟨?_, third.middlewareTemplateIds, fun enabled => ?_⟩, sameId⟩
      · exact (congrArg DomainName.value sameDomain).trans hasDomain
      · have kept : built.authEnabled = authed.authEnabled := by rw [third.rest]
        by_contra disabled
        rw [Bool.not_eq_true] at disabled
        have isNone : resolveUpdatedAuthState moved.authMode moved.apiKey none (some false) none "" =
            .ok state := by
          rw [← disabled]
          exact isState
        cases isNone
        rw [show (assignServiceExternalIds built item).authEnabled = built.authEnabled from rfl,
          kept, isEnabled] at enabled
        cases enabled

/-- An entry of a service preserves what the import promises. -/
theorem transacts_upsertService_importSound {payload : BackupPayload} {item : BackupServiceItem}
    (listed : item ∈ payload.services)
    (claimed : (ResourceKind.service, item.domain) ∈ claims)
    (allowed : ∀ database : Database, database.middlewareTemplates = templates →
      EntriesAllowed database payload) :
    Session.Transacts (upsertService environment item) (fun before _ after =>
      ImportSound claims templates before.1 → ImportSound claims templates after.1) := by
  refine (transacts_upsertService item).mono ?_
  rintro before _ after ⟨service, origin, ⟨found, resolved⟩, written⟩ imported
  rw [written]
  have entry : FromEntry item service ∧ ∀ other ∈ before.1.services, other.id ≠ service.id →
      other.domain.value ≠ item.domain := by
    rcases origin with ⟨existing, isExisting, hasDomain, updated⟩ | ⟨missing, created⟩
    · obtain ⟨entry, sameId⟩ := fromEntry_of_updated updated hasDomain
      refine ⟨entry, fun other isOther differs same => differs ?_⟩
      rw [sameId]
      exact congrArg Service.id (List.inj_on_of_nodup_map imported.serviceDomains isOther
        isExisting (same.trans hasDomain.symm))
    · exact ⟨fromEntry_of_created created, fun other isOther _ => missing other isOther⟩
  obtain ⟨isEntry, fresh⟩ := entry
  refine imported.saveService (by rwa [isEntry.domain]) (by rwa [isEntry.domain]) resolved ?_
  exact fun enabled => allowed before.1 imported.sameTemplates item listed
    (isEntry.authEnabled enabled) _ isEntry.templateIds

private theorem transacts_upsertRedirect_importSound {item : BackupRedirectHostItem}
    (claimed : (ResourceKind.redirectHost, item.domain) ∈ claims) :
    Session.Transacts (upsertRedirect environment item) (fun before _ after =>
      ImportSound claims templates before.1 → ImportSound claims templates after.1) := by
  refine (transacts_upsertRedirect item).mono ?_
  rintro before _ after ⟨redirectHost, origin, written⟩ imported
  rw [written]
  have entry : redirectHost.domain.value = item.domain ∧
      ∀ other ∈ before.1.redirectHosts, other.id ≠ redirectHost.id →
        other.domain.value ≠ item.domain := by
    rcases origin with ⟨existing, isExisting, hasDomain, updated⟩ | ⟨missing, created⟩
    · obtain ⟨sameId, stays | ⟨given, -⟩⟩ := domain_of_redirectUpdate updated
      · refine ⟨by rw [stays, hasDomain], fun other isOther differs same => differs ?_⟩
        rw [sameId]
        exact congrArg RedirectHost.id (List.inj_on_of_nodup_map imported.redirectDomains isOther
          isExisting (same.trans hasDomain.symm))
      · refine ⟨(Option.some.inj given).symm, fun other isOther differs same => differs ?_⟩
        rw [sameId]
        exact congrArg RedirectHost.id (List.inj_on_of_nodup_map imported.redirectDomains isOther
          isExisting (same.trans hasDomain.symm))
    · refine ⟨?_, fun other isOther _ => missing other isOther⟩
      simp only [RedirectHost.create, bind_eq_ok] at created
      obtain ⟨domain, made, _, -, isRedirect⟩ := created
      cases isRedirect
      exact DomainName.make_ok made
  exact imported.saveRedirectHost (by rw [entry.1]; exact claimed) (by rw [entry.1]; exact entry.2)

/-- An import whose entries are apart and allowed keeps the tables sound. -/
theorem transacts_importAll_sound {environment : ProxyEnvironment} {mode : ImportMode} {payload : BackupPayload}
    (safe : Operation.Safe database (.importBackup environment mode payload))
    (sound : Sound database) :
    Session.Transacts (importAll environment mode payload) (fun before _ after =>
      before.1 = database → Sound after.1) := by
  obtain ⟨apart, allowed⟩ := safe
  refine (transacts_importAll (ImportSound (entryClaims payload ++
    if mode = .merge then storedClaims database else []) database.middlewareTemplates) mode
      ?_ ?_).mono ?_
  · intro item listed during
    refine transacts_upsertService_importSound listed ?_ ?_
    · exact List.mem_append_left _ (List.mem_append_left _ (List.mem_map.mpr ⟨item, listed, rfl⟩))
    · intro other same entry isEntry enabled templateIds normalized template stored
      rw [same] at stored
      exact allowed entry isEntry enabled templateIds normalized template stored
  · intro item listed during
    exact transacts_upsertRedirect_importSound
      (List.mem_append_left _ (List.mem_append_right _ (List.mem_map.mpr ⟨item, listed, rfl⟩)))
  · rintro before _ after preserved rfl
    refine (preserved ?_).sound apart
    by_cases overwrites : mode = .overwrite
    · rw [if_pos overwrites]
      exact importSound_cleared sound
    · rw [if_neg overwrites]
      have merges : mode = .merge := by
        cases mode with
        | merge => rfl
        | overwrite => exact absurd rfl overwrites
      refine importSound_of_sound sound fun claim stored => ?_
      rw [if_pos merges]
      exact List.mem_append_right _ stored

end Import

section Runs

variable {session : ProxySession}

/-- The step: an operation that meets its condition keeps the stored tables sound. -/
theorem sound_run (sound : Sound session.stored) {operation : Operation}
    (fresh : operation.Fresh session.stored) (safe : operation.Safe session.stored) :
    Sound (Program.finalState operation.run session).stored := by
  refine Program.Ensures.finalState
    (fun (next : ProxySession) => Sound next.stored) ?_
  cases operation with
  | createService environment data =>
      unfold Operation.run
      simp only [Program.ensures_bind, Program.ensures_pure]
      refine ensures_stored (transacts_createServiceAction data) sound ?_
      rintro service after ⟨prepared, isPrepared, resynced, left⟩
      rw [left]
      exact (sound.createService safe isPrepared resynced).recorded _
  | updateService environment serviceId payload =>
      unfold Operation.run
      simp only [Program.ensures_bind, Program.ensures_pure]
      refine ensures_stored (transacts_updateServiceAction serviceId payload) sound ?_
      rintro result after ⟨service, edited, found, isEdited, -, left⟩
      rw [left]
      exact (sound.updateService found isEdited).recorded _
  | deleteService environment serviceId =>
      unfold Operation.run
      refine ensures_stored (transacts_deleteServiceAction serviceId) sound ?_
      intro _ after left
      rw [left]
      exact (sound.deleteService serviceId).recorded _
  | createRedirectHost environment data =>
      unfold Operation.run
      simp only [Program.ensures_bind, Program.ensures_pure]
      refine ensures_stored (transacts_createRedirectHost data) sound ?_
      rintro redirectHost after ⟨available, created, left⟩
      rw [left]
      exact sound.createRedirectHost safe available created
  | updateRedirectHost environment redirectId data =>
      unfold Operation.run
      simp only [Program.ensures_bind, Program.ensures_pure]
      refine ensures_stored (transacts_updateRedirectHost redirectId data) sound ?_
      rintro result after (⟨-, same⟩ | ⟨redirectHost, updated, found, available, done, -, left⟩)
      · rw [same]
        exact sound
      · rw [left]
        exact sound.updateRedirectHost safe found available done
  | deleteRedirectHost environment redirectId =>
      unfold Operation.run
      refine ensures_stored (transacts_deleteRedirectHost redirectId) sound ?_
      rintro _ after (same | left)
      · rw [same]
        exact sound
      · rw [left]
        exact sound.deleteRedirectHost redirectId
  | createTemplate environment data =>
      unfold Operation.run
      simp only [Program.ensures_bind, Program.ensures_pure]
      refine ensures_stored (transacts_createTemplate data) sound ?_
      rintro template after ⟨created, left⟩
      rw [left]
      exact sound.createTemplate fresh created
  | updateTemplate environment templateId data =>
      unfold Operation.run
      simp only [Program.ensures_bind, Program.ensures_pure]
      refine ensures_stored (transacts_updateTemplate templateId data) sound ?_
      rintro result after (⟨-, same⟩ | ⟨template, updated, found, done, allowed, -, left⟩)
      · rw [same]
        exact sound
      · rw [left]
        exact sound.updateTemplate found done allowed
  | deleteTemplate environment templateId =>
      unfold Operation.run
      refine ensures_stored (transacts_deleteTemplate templateId) sound ?_
      rintro _ after ⟨unused, left⟩
      rw [left]
      exact sound.deleteTemplate unused
  | importBackup environment mode payload =>
      unfold Operation.run Backup.importBackup
      simp only [Program.ensures_bind, Program.ensures_pure]
      exact ensures_stored (transacts_importAction (transacts_importAll_sound safe sound)) sound fun _ _ implies => implies rfl

/-- The tables an operation may meet: its identifiers are new, and it meets its condition. -/
def Operation.Careful (database : Database) (operation : Operation) : Prop :=
  operation.Fresh database ∧ operation.Safe database

/-- Every run of careful operations keeps the stored tables sound. -/
theorem sound_of_reachable (reachable : ReachableBy Operation.Careful session) :
    Sound session.stored := by
  induction reachable with
  | empty noServices noRedirectHosts noTemplates =>
      exact
        { names := by simp [claimedNames, noServices, noRedirectHosts]
          references := by simp [noServices]
          authentication := by simp [noServices]
          serviceIds := by simp [noServices]
          redirectIds := by simp [noRedirectHosts]
          templateIds := by simp [noTemplates] }
  | step reached operation isAllowed ih => exact sound_run ih isAllowed.1 isAllowed.2

/-- **Careful operations keep the routing invariants.** In every state a run reaches whose
operations all meet their condition, no two resources claim the same DNS name, every
referenced template is stored and no authenticated service refers to basic
authentication. -/
theorem consistent_of_careful (reachable : ReachableBy Operation.Careful session) :
    Consistent session.stored :=
  (sound_of_reachable reachable).toConsistent

def redirectOfShop : Operation :=
  .createRedirectHost {} { domain := "shop.example.com", targetUrl := "https://example.com" }

def shopAt (domain : String) : Operation :=
  .createService {} { name := "shop", domain, upstreamHost := "app", upstreamPort := 8080 }

/-- A redirect host and a service with another domain are created carefully. -/
theorem consistent_of_careful_example :
    Consistent (Program.finalState (shopAt "www.example.com").run
      (Program.finalState redirectOfShop.run emptySession)).stored := by
  refine consistent_of_careful (.step (.step (.empty rfl rfl rfl) redirectOfShop ?_)
    (shopAt "www.example.com") ?_)
  · refine ⟨trivial, ?_⟩
    show ∀ claim ∈ storedClaims emptySession.stored, _
    decide
  · refine ⟨trivial, ?_⟩
    show ∀ claim ∈ storedClaims (Program.finalState redirectOfShop.run emptySession).stored, _
    decide +kernel

/-- A service is created at the domain of a redirect host. -/
theorem inconsistent_service_at_redirectHost :
    ¬ ∀ session, ReachableBy Operation.Fresh session → Consistent session.stored := by
  intro always
  have reached : ReachableBy Operation.Fresh (Program.finalState (shopAt "shop.example.com").run
      (Program.finalState redirectOfShop.run emptySession)) :=
    .step (.step (.empty rfl rfl rfl) redirectOfShop trivial) (shopAt "shop.example.com") trivial
  have distinct := always _ reached
  revert distinct
  decide +kernel

end Runs

end TraefikManager.Proxy
