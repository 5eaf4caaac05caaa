import TraefikManager.Proxy.Operations
import TraefikManager.Traefik.AccessControl

/-!
# The file of the Authentik middleware

All services that use Authentik share one file. It is written when a service starts to
use Authentik, and removed when the last one stops. Disabled services count.
-/

namespace TraefikManager.Proxy

open Foundation Domain Traefik

section File

variable {α : Type} {environment : ProxyEnvironment}

/-- The file of the Authentik middleware. -/
def forwardAuth (outside : Outside) : Option HttpConfig :=
  outside.directory.file? authentikMiddlewareFile

/-- The tables and the file stay as they are. -/
def Undisturbed (before after : Database × Outside) : Prop :=
  after.1 = before.1 ∧ forwardAuth after.2 = forwardAuth before.2

theorem Undisturbed.refl (contents : Database × Outside) : Undisturbed contents contents :=
  ⟨rfl, rfl⟩

theorem Undisturbed.trans {before middle after : Database × Outside}
    (first : Undisturbed before middle) (second : Undisturbed middle after) :
    Undisturbed before after :=
  ⟨second.1.trans first.1, second.2.trans first.2⟩

theorem undisturbed_of_onDisk {program : ProxyProgram α} (post : Database → α → Prop)
    (keeps : Program.Keeps onDisk program (fun seen value => post seen.2.1 value)) :
    Session.Transacts program (fun before value after =>
      post before.1 value ∧ Undisturbed before after) := by
  refine Session.Transacts.of_keeps keeps (fun _ _ same => congrArg Prod.fst same) ?_
  intro before after value same holds
  simp only [onDisk, Prod.mk.injEq] at same
  exact ⟨holds, same.2.1, by simp [forwardAuth, Session.contents, same.2.2]⟩

/-- Touching any other file. -/
theorem undisturbed_touchFile (step : Step) {change : Directory → Directory}
    (unseen : ∀ directory : Directory,
      (change directory).file? authentikMiddlewareFile =
        directory.file? authentikMiddlewareFile) :
    Session.Transacts (touchFile environment step change) (fun before _ after =>
      Undisturbed before after) :=
  (transacts_touchFile step change).mono fun before _ after same => by
    rw [same]
    exact ⟨rfl, unseen before.2.directory⟩

theorem undisturbed_syncSharedMiddlewareTemplates :
    Session.Transacts (syncSharedMiddlewareTemplates environment) (fun before _ after =>
      Undisturbed before after) := by
  unfold syncSharedMiddlewareTemplates
  refine (transacts_query _ _).bind fun templates => ?_
  refine (undisturbed_touchFile _ fun directory => ?_).mono ?_
  · unfold Directory.writeSharedMiddlewareTemplates
    have other : authentikMiddlewareFile ≠ sharedMiddlewareTemplatesFile := by decide
    split <;> simp [other]
  · rintro middle _ after kept before ⟨-, rfl⟩
    exact kept

/-- A domain whose own file is not the file of the Authentik middleware. -/
def OwnFile (domain : DomainName) : Prop := serviceFile domain ≠ authentikMiddlewareFile

instance (domain : DomainName) : Decidable (OwnFile domain) :=
  inferInstanceAs (Decidable (_ ≠ _))

theorem undisturbed_writeServiceFile (service : Service) (templates : List MiddlewareTemplate) :
    Session.Transacts (writeServiceFile environment service templates) (fun before _ after =>
      OwnFile service.domain → Undisturbed before after) := by
  by_cases own : OwnFile service.domain
  · refine (undisturbed_touchFile _ fun directory => ?_).mono fun _ _ _ kept _ => kept
    rw [Directory.file?_writeService, if_neg (Ne.symm own)]
  · exact (transacts_writeServiceFile service templates).mono
      fun _ _ _ _ isOwn => absurd isOwn own

end File

section Modes

variable {environment : ProxyEnvironment}

/-- The services that use Authentik, apart from one. -/
def othersUsing (database : Database) (serviceId : Uuid) : Nat :=
  database.services.countP fun service => service.authMode = .authentik ∧ service.id ≠ serviceId

/-- The file after a service has gone from one mode to another. -/
def forwardAuthAfter (oldMode newMode : AuthMode) (others : Nat) (file : Option HttpConfig) :
    Option HttpConfig :=
  if oldMode = newMode then file
  else if newMode = .authentik then some authentikForwardAuthConfig
  else if oldMode = .authentik ∧ others = 0 then none
  else file

private theorem tracks_setupCreatedService (service : Service) :
    Session.Transacts (setupCreatedService environment service) (fun before next after =>
      Resynced service next ∧ after.1 = before.1 ∧ forwardAuth after.2 =
        if service.authMode = .authentik then some authentikForwardAuthConfig
        else forwardAuth before.2) := by
  unfold setupCreatedService
  refine .ite (fun authentik => ?_) (fun other => ?_)
  · refine (undisturbed_of_onDisk (fun _ next => Resynced service next)
      (keeps_setup service)).bind fun next => ?_
    refine (transacts_touchFile _ _).bind fun _ => ?_
    refine (Session.transacts_pure _).mono ?_
    rintro second last after ⟨rfl, rfl⟩ first written before ⟨resynced, kept⟩
    rw [written, if_pos authentik]
    exact ⟨resynced, kept.1, by simp [forwardAuth, Directory.writeAuthentikMiddleware]⟩
  · refine (Session.transacts_pure _).mono ?_
    rintro before next after ⟨rfl, rfl⟩
    rw [if_neg other]
    exact ⟨Resynced.refl _, rfl, rfl⟩

private theorem forwardAuth_deleteIfUnused (outside : Outside) (remaining : Nat) :
    forwardAuth { outside with
      directory := outside.directory.deleteAuthentikMiddlewareIfUnused remaining } =
        if remaining = 0 then none else forwardAuth outside := by
  unfold forwardAuth Directory.deleteAuthentikMiddlewareIfUnused
  by_cases unused : remaining = 0
  · simp [unused]
  · simp [unused, Nat.pos_of_ne_zero unused]

private theorem tracks_leaveAuthentik (service : Service) (oldAuthMode : AuthMode) :
    Session.Transacts (leaveAuthentik environment service oldAuthMode) (fun before next after =>
      SameButRemote service next ∧ after.1 = before.1 ∧ forwardAuth after.2 =
        if oldAuthMode = .authentik ∧ othersUsing before.1 service.id = 0 then none
        else forwardAuth before.2) := by
  unfold leaveAuthentik
  refine .ite (fun left => ?_) (fun other => ?_)
  · refine (undisturbed_of_onDisk (fun _ next => SameButRemote service next ∧
      next.authentikGroupId = none) (keeps_teardown service)).bind fun next => ?_
    refine (transacts_query _ _).bind fun remaining => ?_
    refine (transacts_touchFile _ _).bind fun _ => ?_
    refine (Session.transacts_pure _).mono ?_
    rintro third last after ⟨rfl, rfl⟩ second written first ⟨isCount, rfl⟩ before
      ⟨⟨same, -⟩, kept⟩
    have count : remaining = othersUsing before.1 service.id := by
      rw [isCount, kept.1, same.id]
      rfl
    refine ⟨same, by rw [written]; exact kept.1, ?_⟩
    rw [written]
    dsimp only
    rw [forwardAuth_deleteIfUnused, count, kept.2]
    simp [left]
  · refine (Session.transacts_pure _).mono ?_
    rintro before next after ⟨rfl, rfl⟩
    refine ⟨SameButRemote.refl _, rfl, ?_⟩
    simp [other]

/-- Synchronizing an update leaves the file as the change of the mode asks for. -/
theorem tracks_syncUpdatedService (service : Service) (oldAuthMode : AuthMode)
    (previousGroupId : Option String) :
    Session.Transacts (syncUpdatedService environment service oldAuthMode previousGroupId)
      (fun before next after => SameButRemote service next ∧ after.1 = before.1 ∧
        forwardAuth after.2 = forwardAuthAfter oldAuthMode service.authMode
          (othersUsing before.1 service.id) (forwardAuth before.2)) := by
  unfold syncUpdatedService
  refine .ite (fun differs => ?_) (fun stays => ?_)
  · refine (tracks_leaveAuthentik service oldAuthMode).bind fun left => ?_
    refine (tracks_setupCreatedService left).mono ?_
    rintro middle next after ⟨resynced, sameTables, setUp⟩ before ⟨same, sameTables', tornDown⟩
    refine ⟨same.trans resynced.same, sameTables.trans sameTables', ?_⟩
    rw [setUp, tornDown, same.authMode, forwardAuthAfter, if_neg differs]
  · rw [not_not] at stays
    refine .ite (fun _ => ?_) (fun _ => ?_)
    · refine (undisturbed_of_onDisk (fun _ next => Resynced service next)
        (keeps_syncGroupPolicy service none)).mono ?_
      rintro before next after ⟨resynced, kept⟩
      refine ⟨resynced.same, kept.1, ?_⟩
      rw [kept.2, forwardAuthAfter, if_pos stays]
    · refine (Session.transacts_pure _).mono ?_
      rintro before next after ⟨rfl, rfl⟩
      refine ⟨SameButRemote.refl _, rfl, ?_⟩
      rw [forwardAuthAfter, if_pos stays]

end Modes

section UseCases

variable {environment : ProxyEnvironment}

private theorem undisturbed_recordAudit (action resourceType : String) (resourceId : Uuid)
    (detail : AuditDetail) :
    Session.Transacts (recordAudit environment action resourceType resourceId detail)
      (fun before _ after => after.1.services = before.1.services ∧
        forwardAuth after.2 = forwardAuth before.2) :=
  (transacts_write _ _).mono fun _ _ _ same => by
    rw [same]
    exact ⟨rfl, rfl⟩

private theorem undisturbed_syncCloudflareRecord (service : Service) (requireEnabled : Bool) :
    Session.Transacts (syncCloudflareRecord environment service requireEnabled)
      (fun before next after => Resynced service next ∧ Undisturbed before after) :=
  undisturbed_of_onDisk (fun _ next => Resynced service next)
    (keeps_syncCloudflareRecord service requireEnabled)

private theorem undisturbed_ensureUpstreamSafe (payload : ServiceUpdate) :
    Session.Transacts (ensureUpstreamSafe environment payload) (fun before _ after =>
      Undisturbed before after) := by
  unfold ensureUpstreamSafe
  cases payload.upstreamHost with
  | none =>
      refine (Session.transacts_pure _).mono ?_
      rintro before _ after ⟨-, rfl⟩
      exact Undisturbed.refl _
  | some host =>
      refine (transacts_perform _).mono ?_
      rintro before _ after rfl
      exact Undisturbed.refl _

private theorem tracks_editService (service : Service) (payload : ServiceUpdate) :
    Session.Transacts (editService environment service payload) (fun before edited after =>
      edited.1.domain = service.domain ∧ edited.1.id = service.id ∧ after.1 = before.1 ∧
        forwardAuth after.2 = forwardAuthAfter service.authMode edited.1.authMode
          (othersUsing before.1 service.id) (forwardAuth before.2)) := by
  rw [editService_eq]
  refine (undisturbed_ensureUpstreamSafe payload).bind fun _ => ?_
  refine (Session.transacts_ofExcept _).bind fun applied => ?_
  refine (undisturbed_of_onDisk (fun _ _ => True)
    ((keeps_resolve _ _).mono fun _ _ _ => trivial)).bind fun templates => ?_
  refine (Session.transacts_ofExcept _).bind fun _ => ?_
  refine (tracks_syncUpdatedService _ _ _).bind fun synced => ?_
  refine (undisturbed_syncCloudflareRecord _ _).bind fun edited => ?_
  refine undisturbed_syncSharedMiddlewareTemplates.bind fun _ => ?_
  refine (Session.transacts_pure _).mono ?_
  rintro seventh _ after ⟨rfl, rfl⟩ sixth written fifth ⟨resynced, recorded⟩ fourth
    ⟨same, sameTables, tracked⟩ third ⟨-, rfl⟩ second ⟨-, resolved⟩ first ⟨isApplied, rfl⟩
    before performed
  obtain ⟨sameId, sameDomain⟩ := identity_of_applied isApplied
  have last := recorded.trans written
  have start := performed.trans resolved
  have whole := same.trans resynced.same
  refine ⟨whole.domain.trans sameDomain, whole.id.trans sameId,
    last.1.trans (sameTables.trans start.1), ?_⟩
  rw [last.2, tracked, whole.authMode, start.2, start.1, sameId]

/-- The file after an update of a service whose own file is another. -/
theorem tracks_updateService (serviceId : Uuid) (payload : ServiceUpdate) :
    Session.Transacts (updateService environment serviceId payload) (fun before result after =>
      ∀ service, Table.find Service.id before.1.services serviceId = some service →
        ∀ edited, result = some edited → OwnFile service.domain →
          forwardAuth after.2 = forwardAuthAfter service.authMode edited.authMode
            (othersUsing before.1 service.id) (forwardAuth before.2)) := by
  unfold updateService
  refine (transacts_query _ _).bind fun found => ?_
  cases found with
  | none =>
      refine (Session.transacts_pure _).mono ?_
      rintro middle result after ⟨rfl, -⟩ before - service - edited impossible
      cases impossible
  | some service =>
      refine (tracks_editService service payload).bind fun edited => ?_
      refine (undisturbed_writeServiceFile _ _).bind fun _ => ?_
      refine (transacts_write _ _).bind fun _ => ?_
      refine (Session.transacts_pure _).mono ?_
      rintro fourth result after ⟨rfl, rfl⟩ third rfl second written first
        ⟨sameDomain, -, sameTables, tracked⟩ before ⟨found, rfl⟩ service' found' edited' isResult own
      cases found.trans found'
      cases isResult
      rw [sameDomain] at written
      rw [show forwardAuth (_, third.2).2 = forwardAuth third.2 from rfl, (written own).2, tracked]

theorem tracks_updateServiceAction (serviceId : Uuid) (payload : ServiceUpdate) :
    Session.Transacts (updateServiceAction environment serviceId payload)
      (fun before edited after =>
        ∀ service, Table.find Service.id before.1.services serviceId = some service →
          OwnFile service.domain →
            forwardAuth after.2 = forwardAuthAfter service.authMode edited.authMode
              (othersUsing before.1 service.id) (forwardAuth before.2)) := by
  unfold updateServiceAction reporting
  have body : Session.Transacts (do
      let before ← findServiceById environment .getService serviceId
      let after ← updateService environment serviceId payload
      pure (before, after)) (fun before results after =>
        ∀ service, Table.find Service.id before.1.services serviceId = some service →
          ∀ edited, results.2 = some edited → OwnFile service.domain →
            forwardAuth after.2 = forwardAuthAfter service.authMode edited.authMode
              (othersUsing before.1 service.id) (forwardAuth before.2)) := by
    refine (transacts_query _ _).bind fun found => ?_
    refine (tracks_updateService serviceId payload).bind fun result => ?_
    refine (Session.transacts_pure _).mono ?_
    rintro second results after ⟨rfl, rfl⟩ first tracked before ⟨-, rfl⟩
    exact tracked
  refine (body.tryCatch fun _ => Session.transacts_throw _).bind fun results => ?_
  obtain ⟨found, result⟩ := results
  cases result with
  | none => exact Session.transacts_throw _
  | some edited =>
      cases found with
      | none =>
          refine (Session.transacts_pure _).mono ?_
          rintro middle result after ⟨rfl, rfl⟩ before tracked service found own
          exact tracked service found _ rfl own
      | some earlier =>
          refine (undisturbed_recordAudit _ _ _ _).bind fun _ => ?_
          refine (Session.transacts_pure _).mono ?_
          rintro second result after ⟨rfl, rfl⟩ first ⟨-, recorded⟩ before tracked service found own
          rw [recorded]
          exact tracked service found _ rfl own

/-- The file after a creation of a service whose own file is another. -/
theorem tracks_createService (data : ServiceCreate) :
    Session.Transacts (createService environment data) (fun before service after =>
      OwnFile service.domain → forwardAuth after.2 =
        if service.authMode = .authentik then some authentikForwardAuthConfig
        else forwardAuth before.2) := by
  unfold createService
  refine (undisturbed_of_onDisk (fun _ _ => True)
    ((keeps_prepareCreatedService data).mono fun _ _ _ => trivial)).bind fun prepared => ?_
  obtain ⟨created, templates⟩ := prepared
  refine (tracks_setupCreatedService created).bind fun assigned => ?_
  refine (undisturbed_syncCloudflareRecord assigned false).bind fun service => ?_
  have published : Session.Transacts (publishCreatedService environment service templates)
      (fun before _ after => OwnFile service.domain →
        forwardAuth after.2 = forwardAuth before.2) := by
    unfold publishCreatedService
    refine undisturbed_syncSharedMiddlewareTemplates.bind fun _ => ?_
    refine (undisturbed_writeServiceFile _ _).bind fun _ => ?_
    refine (transacts_write _ _).mono ?_
    rintro second _ after saved first written before synced own
    rw [saved]
    exact (written own).2.trans synced.2
  refine (published.tryCatch fun failure => ?_).bind fun _ => ?_
  · have undone : Session.Transacts (undoCreatedService environment service)
        (fun _ _ _ => True) := by
      constructor
      intro session
      refine (ensures_undoCreatedService environment templates (.inl rfl)).mono ?_ ?_
      · rintro _ next (same | written | removed)
        · exact ⟨congrArg Prod.fst same, trivial⟩
        · exact ⟨congrArg Prod.fst written.tables, trivial⟩
        · exact ⟨removed.stored, trivial⟩
      · rintro _ next (same | written | removed)
        · exact congrArg Prod.fst same
        · exact congrArg Prod.fst written.tables
        · exact removed.stored
    exact undone.bind fun _ => Session.transacts_throw _
  · refine (Session.transacts_pure _).mono ?_
    rintro fourth last after ⟨rfl, rfl⟩ third isPublished second ⟨resynced, recorded⟩ first
      ⟨assignedSame, -, setUp⟩ before ⟨-, prepared⟩ own
    have mode : last.authMode = created.authMode :=
      (assignedSame.same.trans resynced.same).authMode
    rw [isPublished own, recorded.2, setUp, mode, prepared.2]

theorem tracks_createServiceAction (data : ServiceCreate) :
    Session.Transacts (createServiceAction environment data) (fun before service after =>
      OwnFile service.domain → forwardAuth after.2 =
        if service.authMode = .authentik then some authentikForwardAuthConfig
        else forwardAuth before.2) := by
  unfold createServiceAction reporting
  refine ((tracks_createService data).tryCatch fun _ => Session.transacts_throw _).bind
    fun service => ?_
  refine (undisturbed_recordAudit _ _ _ _).bind fun _ => ?_
  refine (Session.transacts_pure _).mono ?_
  rintro second last after ⟨rfl, rfl⟩ first ⟨-, recorded⟩ before tracked own
  rw [recorded]
  exact tracked own

/-- The file after a deletion of a service whose own file is another. -/
theorem tracks_deleteService (serviceId : Uuid) :
    Session.Transacts (deleteService environment serviceId) (fun before _ after =>
      ∀ service, Table.find Service.id before.1.services serviceId = some service →
        OwnFile service.domain → forwardAuth after.2 =
          if service.authMode = .authentik ∧ othersUsing before.1 service.id = 0 then none
          else forwardAuth before.2) := by
  unfold deleteService
  refine (transacts_query _ _).bind fun found => ?_
  cases found with
  | none =>
      refine (Session.transacts_pure _).mono ?_
      rintro middle _ after ⟨-, rfl⟩ before ⟨missing, rfl⟩ service found
      cases missing.trans found
  | some service =>
      refine (undisturbed_of_onDisk (fun _ next => SameButRemote service next)
        (keeps_teardownDeletedService service)).bind fun torn => ?_
      refine (undisturbed_of_onDisk (fun _ _ => True)
        (keeps_deleteCloudflareRecord torn)).bind fun _ => ?_
      refine (transacts_touchFile _ _).bind fun _ => ?_
      refine (transacts_write _ _).bind fun _ => ?_
      have cleaned : Session.Transacts (cleanupDeletedService environment torn)
          (fun before _ after => forwardAuth after.2 =
            if torn.authMode = .authentik ∧ othersUsing before.1 torn.id = 0 then none
            else forwardAuth before.2) := by
        unfold cleanupDeletedService
        refine .ite (fun authentik => ?_) (fun other => ?_)
        · refine (transacts_query _ _).bind fun remaining => ?_
          refine (transacts_touchFile _ _).mono ?_
          rintro middle _ after touched before ⟨rfl, rfl⟩
          rw [touched]
          dsimp only
          rw [forwardAuth_deleteIfUnused]
          simp [authentik, othersUsing]
        · refine (Session.transacts_pure _).mono ?_
          rintro before _ after ⟨-, rfl⟩
          simp [other]
      refine cleaned.mono ?_
      rintro fourth _ after cleanedUp third rfl second rfl first ⟨-, recorded⟩ start ⟨same, tornDown⟩
        before ⟨found, rfl⟩ service' found' own
      cases found.trans found'
      have isId := (Table.mem_of_find found').2
      have untouched := tornDown.trans recorded
      have others : othersUsing { second.1 with
          services := Table.delete Service.id second.1.services serviceId } torn.id =
            othersUsing start.1 service.id := by
        unfold othersUsing Table.delete
        rw [List.countP_filter, untouched.1, same.id]
        refine List.countP_congr fun other _ => ?_
        simp only [decide_eq_true_eq, Bool.and_eq_true, and_iff_left_iff_imp]
        intro uses
        rw [← isId]
        exact uses.2
      have file : forwardAuth { second.2 with
          directory := second.2.directory.deleteService torn } = forwardAuth start.2 := by
        rw [← untouched.2]
        unfold forwardAuth Directory.deleteService
        rw [same.domain, Directory.file?_unlink, if_neg (Ne.symm own)]
      rw [cleanedUp, same.authMode]
      dsimp only
      rw [others, file]

theorem tracks_deleteServiceAction (serviceId : Uuid) :
    Session.Transacts (deleteServiceAction environment serviceId) (fun before _ after =>
      ∃ service, Table.find Service.id before.1.services serviceId = some service ∧
        (OwnFile service.domain → forwardAuth after.2 =
          if service.authMode = .authentik ∧ othersUsing before.1 service.id = 0 then none
          else forwardAuth before.2)) := by
  unfold deleteServiceAction reporting
  refine (transacts_query _ _).bind fun found => ?_
  cases found with
  | none => exact Session.transacts_throw _
  | some service =>
      refine ((tracks_deleteService serviceId).tryCatch
        fun _ => Session.transacts_throw _).bind fun _ => ?_
      refine (undisturbed_recordAudit _ _ _ _).mono ?_
      rintro second _ after ⟨-, recorded⟩ first tracked before ⟨found, rfl⟩
      refine ⟨service, found.symm, fun own => ?_⟩
      rw [recorded]
      exact tracked service found.symm own

theorem undisturbed_createTemplate (data : MiddlewareTemplateCreate) :
    Session.Transacts (createTemplate environment data) (fun before _ after =>
      after.1.services = before.1.services ∧ forwardAuth after.2 = forwardAuth before.2) := by
  unfold createTemplate
  refine (Session.transacts_ofExcept _).bind fun template => ?_
  refine (transacts_write _ _).bind fun _ => ?_
  refine undisturbed_syncSharedMiddlewareTemplates.bind fun _ => ?_
  refine (Session.transacts_pure _).mono ?_
  rintro third _ after ⟨-, rfl⟩ second synced first rfl before ⟨-, rfl⟩
  exact ⟨by rw [synced.1], synced.2⟩

private theorem undisturbed_resolveKnownTemplates (templateIds : List String) :
    Session.Transacts (resolveKnownTemplates environment templateIds) (fun before _ after =>
      after = before) := by
  unfold resolveKnownTemplates
  refine .ite (fun _ => ?_) (fun _ => ?_)
  · exact (Session.transacts_pure _).mono fun _ _ _ same => same.2
  · refine (Session.transacts_ofExcept _).bind fun parsedIds => ?_
    refine (transacts_query _ _).bind fun templates => ?_
    refine (Session.transacts_pure _).mono ?_
    rintro second _ after ⟨-, rfl⟩ first ⟨-, rfl⟩ before ⟨-, rfl⟩
    rfl

private theorem undisturbed_rewriteServices {services : List Service}
    (own : ∀ service ∈ services, OwnFile service.domain) (round : Nat) :
    Session.Transacts (rewriteServices environment round services) (fun before _ after =>
      Undisturbed before after) := by
  induction services generalizing round with
  | nil =>
      refine (Session.transacts_pure _).mono ?_
      rintro before _ after ⟨-, rfl⟩
      exact Undisturbed.refl _
  | cons service rest ih =>
      unfold rewriteServices
      refine (undisturbed_resolveKnownTemplates _).bind fun templates => ?_
      refine (undisturbed_writeServiceFile _ _).bind fun _ => ?_
      refine (ih (fun other listed => own other (by simp [listed])) (round + 1)).mono ?_
      rintro second _ after rewritten first written before rfl
      exact (written (own service (by simp))).trans rewritten

theorem undisturbed_updateTemplate (templateId : Uuid) (data : MiddlewareTemplateUpdate) :
    Session.Transacts (updateTemplate environment templateId data) (fun before _ after =>
      (∀ service ∈ before.1.services, OwnFile service.domain) →
        after.1.services = before.1.services ∧ forwardAuth after.2 = forwardAuth before.2) := by
  unfold updateTemplate
  refine (transacts_query _ _).bind fun found => ?_
  cases found with
  | none =>
      refine (Session.transacts_pure _).mono ?_
      rintro middle _ after ⟨-, rfl⟩ before ⟨-, rfl⟩ -
      exact ⟨rfl, rfl⟩
  | some template =>
      refine (Session.transacts_ofExcept _).bind fun updated => ?_
      refine (transacts_query _ _).bind fun affected => ?_
      refine (Session.transacts_ofExcept _).bind fun _ => ?_
      refine (transacts_write _ _).bind fun _ => ?_
      refine undisturbed_syncSharedMiddlewareTemplates.bind fun _ => ?_
      by_cases own : ∀ service ∈ affected, OwnFile service.domain
      · refine (undisturbed_rewriteServices own _).bind fun _ => ?_
        refine (Session.transacts_pure _).mono ?_
        rintro seventh _ after ⟨-, rfl⟩ sixth rewritten fifth synced fourth rfl third ⟨-, rfl⟩
          second ⟨-, rfl⟩ first ⟨-, rfl⟩ before ⟨-, rfl⟩ -
        have kept := synced.trans rewritten
        exact ⟨by rw [kept.1], kept.2⟩
      · refine (transacts_rewriteServices _ _).bind fun _ => ?_
        refine (Session.transacts_pure _).mono ?_
        rintro seventh _ after - sixth - fifth - fourth - third - second ⟨rfl, rfl⟩ first ⟨-, rfl⟩
          before ⟨-, rfl⟩ allOwn
        exact absurd (fun service listed => allOwn service (List.mem_filter.mp listed).1) own

theorem undisturbed_deleteTemplate (templateId : Uuid) :
    Session.Transacts (deleteTemplate environment templateId) (fun before _ after =>
      after.1.services = before.1.services ∧ forwardAuth after.2 = forwardAuth before.2) := by
  unfold deleteTemplate
  refine (transacts_query _ _).bind fun services => ?_
  refine .ite (fun _ => Session.transacts_throw _) (fun _ => ?_)
  refine (transacts_write _ _).bind fun _ => ?_
  refine undisturbed_syncSharedMiddlewareTemplates.mono ?_
  rintro second _ after synced first rfl before ⟨-, rfl⟩
  exact ⟨by rw [synced.1], synced.2⟩

end UseCases

section References

variable {settings : Settings} {service : Service} {templates : List MiddlewareTemplate}

/-- A middleware of the service's own, or of a template, has a dash in its name. -/
theorem dash_or_authentik {attachment : Attachment}
    (attached : attachment ∈ serviceAttachments settings (toSafeName service.domain.value) service
      templates) :
    '-' ∈ attachment.name.toList ∨ service.authMode = .authentik := by
  have own : ∀ (suffix : String) (definition : Middleware), '-' ∈ (Attachment.name
      (.own (middlewareName (toSafeName service.domain.value) suffix) definition)).toList := by
    intro suffix definition
    simp [Attachment.name, middlewareName, String.toList_append]
  simp only [serviceAttachments, List.mem_append] at attached
  rcases attached with (((((allowlist | rate) | headers) | frame) | basicAuth) | template) | auth
  · unfold ipAllowlistAttachment at allowlist
    split at allowlist
    · cases allowlist
    · exact .inl (List.mem_singleton.mp allowlist ▸ own _ _)
  · unfold rateLimitAttachment at rate
    split at rate
    · exact .inl (List.mem_singleton.mp rate ▸ own _ _)
    · cases rate
  · unfold customHeadersAttachment at headers
    split at headers
    · cases headers
    · exact .inl (List.mem_singleton.mp headers ▸ own _ _)
  · unfold framePolicyAttachment at frame
    split at frame
    · exact .inl (List.mem_singleton.mp frame ▸ own _ _)
    · cases frame
  · unfold basicAuthAttachment at basicAuth
    split at basicAuth
    · cases basicAuth
    · exact .inl (List.mem_singleton.mp basicAuth ▸ own _ _)
  · obtain ⟨item, -, rfl⟩ := List.mem_map.mp template
    refine .inl ?_
    simp [Attachment.name, MiddlewareTemplate.sharedName, String.toList_append]
  · unfold authAttachment at auth
    split at auth
    · exact .inl (List.mem_singleton.mp auth ▸ own _ _)
    · rename_i mode
      exact .inr mode
    · cases auth

/-- Only a service that uses Authentik has a router that refers to the middleware. -/
theorem authMode_of_reference {name : String} {router : Router}
    (listed : (generate settings service templates).routers.get? name = some router)
    (refers : authentikMiddleware ∈ router.middlewares) : service.authMode = .authentik := by
  have noDash : '-' ∉ authentikMiddleware.toList := by decide
  have dashed : ∀ suffix, '-' ∈
      (middlewareName (toSafeName service.domain.value) suffix).toList := by
    intro suffix
    simp [middlewareName, String.toList_append]
  have ofAttachments : ∀ attachments : List Attachment,
      (∀ attachment ∈ attachments, '-' ∈ attachment.name.toList ∨ service.authMode = .authentik) →
        authentikMiddleware ∈ attachedNames attachments → service.authMode = .authentik := by
    intro attachments each member
    obtain ⟨attachment, attached, isName⟩ := List.mem_map.mp member
    rcases each attachment attached with dash | mode
    · rw [isName] at dash
      exact absurd dash noDash
    · exact mode
  have active : (buildServiceConfig settings service templates).routers.get? name = some router →
      service.authMode = .authentik := by
    intro listed
    rw [get?_serviceRouters, mem_serviceRouters] at listed
    simp only [Prod.ext_iff] at listed
    rcases listed with ⟨-, rfl⟩ | ⟨index, path, found, -, rfl⟩ | ⟨redirects, -, rfl⟩ |
      ⟨authentik, -, rfl⟩
    · rw [secureRouter, assignEntrypoint_middlewares] at refers
      exact ofAttachments _ (fun _ attached => dash_or_authentik attached) refers
    · rw [blockedPathRouter, assignEntrypoint_middlewares, List.mem_singleton] at refers
      exact absurd (refers ▸ dashed _) noDash
    · rw [httpsRedirectRouter, List.mem_append, List.mem_singleton] at refers
      rcases refers with allowlist | redirect
      · refine ofAttachments _ (fun attachment attached =>
          dash_or_authentik (?_ : attachment ∈ serviceAttachments settings
            (toSafeName service.domain.value) service templates)) allowlist
        simp [serviceAttachments, attached]
      · exact absurd (redirect ▸ dashed _) noDash
    · exact authentik
  have own : ∀ (suffix : String) (definition : Middleware), '-' ∈ (Attachment.name
      (.own (middlewareName (toSafeName service.domain.value) suffix) definition)).toList :=
    fun suffix _ => dashed suffix
  have paused : ∀ attachments : List Attachment,
      attachments ⊆ maintenanceAttachments (toSafeName service.domain.value) service →
        authentikMiddleware ∈ attachedNames attachments → service.authMode = .authentik := by
    intro attachments included
    refine ofAttachments attachments fun attachment attached => .inl ?_
    have member := included attached
    simp only [maintenanceAttachments, List.mem_cons, List.mem_append] at member
    rcases member with rfl | (allowlist | context) | redirect
    · exact own _ _
    · unfold maintenanceAllowlist at allowlist
      split at allowlist
      · cases allowlist
      · exact List.mem_singleton.mp allowlist ▸ own _ _
    · unfold maintenanceContext at context
      split at context
      · cases context
      · exact List.mem_singleton.mp context ▸ own _ _
    · split at redirect
      · exact List.mem_singleton.mp redirect ▸ own _ _
      · cases redirect
  cases mode : service.routingMode with
  | active =>
      rw [generate, mode] at listed
      exact active listed
  | disabled =>
      rw [generate, mode] at listed
      exact active listed
  | maintenance =>
      rw [generate, mode] at listed
      dsimp only at listed
      rw [get?_maintenanceRouters, mem_maintenanceRouters] at listed
      simp only [Prod.ext_iff] at listed
      rcases listed with ⟨-, rfl⟩ | ⟨-, rfl⟩ | ⟨redirects, -, rfl⟩
      · rw [maintenanceRouter, assignEntrypoint_middlewares] at refers
        refine paused _ ?_ refers
        intro attachment attached
        rw [List.mem_append, List.mem_cons] at attached
        rw [maintenanceAttachments, List.mem_cons, List.mem_append, List.mem_append]
        rcases attached with allowlist | replacePath | context
        · exact .inr (.inl (.inl allowlist))
        · exact .inl replacePath
        · exact .inr (.inl (.inr context))
      · rw [maintenanceAssetsRouter, assignEntrypoint_middlewares] at refers
        refine paused _ ?_ refers
        intro attachment attached
        simp [maintenanceAttachments, attached]
      · refine paused _ ?_ refers
        intro attachment attached
        rw [List.mem_append] at attached
        rw [maintenanceAttachments, if_pos redirects, List.mem_cons, List.mem_append,
          List.mem_append]
        rcases attached with allowlist | redirect
        · exact .inr (.inl (.inl allowlist))
        · exact .inr (.inr redirect)

end References

end TraefikManager.Proxy
