import TraefikManager.Proxy.Consistency
import TraefikManager.Proxy.ForwardAuth

/-!
# The file of the Authentik middleware over runs

After every run of succeeding operations the file is there exactly when a stored service
uses Authentik. An import neither writes nor removes it, so that a run may hold an import
that changes whether such a service is stored only by accident.
-/

namespace TraefikManager.Proxy

open Foundation Domain Traefik Backup

section Imports

variable {environment : ProxyEnvironment}

/-- A domain as it is written whose own file is not the file of the middleware. -/
def OwnFileName (domain : String) : Prop :=
  Text.replaceChar '.' '-' domain ++ ".yml" ≠ authentikMiddlewareFile

instance (domain : String) : Decidable (OwnFileName domain) :=
  inferInstanceAs (Decidable (_ ≠ _))

private theorem ownFile_iff {domain : DomainName} :
    OwnFile domain ↔ OwnFileName domain.value := Iff.rfl

private theorem redirectFile_ne_authentikMiddlewareFile (domain : DomainName) :
    authentikMiddlewareFile ≠ redirectFile domain := by
  intro same
  have first : authentikMiddlewareFile.toList.head? = (redirectFile domain).toList.head? := by
    rw [← same]
  rw [redirectFile, String.toList_append, String.toList_append] at first
  revert first
  simp [authentikMiddlewareFile]

private theorem undisturbed_writeRedirectFile (redirectHost : RedirectHost) :
    Session.Transacts (writeRedirectFile environment redirectHost) (fun before _ after =>
      Undisturbed before after) :=
  undisturbed_touchFile _ fun directory => by
    simp [Directory.writeRedirectHost, redirectFile_ne_authentikMiddlewareFile]

private theorem undisturbed_deleteRedirectFile (domain : DomainName) :
    Session.Transacts (deleteRedirectFile environment domain) (fun before _ after =>
      Undisturbed before after) :=
  undisturbed_touchFile _ fun directory => by
    simp [Directory.deleteRedirectHostByDomain, redirectFile_ne_authentikMiddlewareFile]

private theorem undisturbed_saveRedirectHost (redirectHost : RedirectHost) :
    Session.Transacts (saveRedirectHost environment redirectHost) (fun before _ after =>
      after.1.services = before.1.services ∧ forwardAuth after.2 = forwardAuth before.2) :=
  (transacts_write _ _).mono fun _ _ _ same => by
    rw [same]
    exact ⟨rfl, rfl⟩

/-- The services and the file stay as they are. -/
def SameUse (before after : Database × Outside) : Prop :=
  after.1.services = before.1.services ∧ forwardAuth after.2 = forwardAuth before.2

private theorem undisturbed_upsertRedirect (item : BackupRedirectHostItem) :
    Session.Transacts (upsertRedirect environment item) (fun before _ after =>
      SameUse before after) := by
  have written : ∀ (redirectHost : RedirectHost) (updated : Bool), Session.Transacts (do
      writeRedirectFile environment redirectHost
      saveRedirectHost environment redirectHost
      pure updated) (fun before _ after => SameUse before after) := by
    intro redirectHost updated
    refine (undisturbed_writeRedirectFile _).bind fun _ => ?_
    refine (undisturbed_saveRedirectHost _).bind fun _ => ?_
    refine (Session.transacts_pure _).mono ?_
    rintro third _ after ⟨-, rfl⟩ second saved first isWritten
    exact ⟨saved.1.trans (by rw [isWritten.1]), saved.2.trans isWritten.2⟩
  unfold upsertRedirect
  refine (transacts_findRedirectHostByDomain _).bind fun found => ?_
  cases found with
  | none =>
      refine (Session.transacts_ofExcept _).bind fun redirectHost => (written _ _).mono ?_
      rintro second _ after saved first ⟨-, rfl⟩ before ⟨-, rfl⟩
      exact saved
  | some existing =>
      refine (Session.transacts_ofExcept _).bind fun redirectHost => ?_
      dsimp only
      refine Session.Transacts.ite (fun _ => ?_) (fun _ => ?_)
      · refine (undisturbed_deleteRedirectFile _).bind fun _ => (written _ _).mono ?_
        rintro third _ after saved second deleted first ⟨-, rfl⟩ before ⟨-, rfl⟩
        exact ⟨saved.1.trans (by rw [deleted.1]), saved.2.trans deleted.2⟩
      · refine (written _ _).mono ?_
        rintro second _ after saved first ⟨-, rfl⟩ before ⟨-, rfl⟩
        exact saved

/-- What the operations keep, beside the file: identifiers name their services, and no
service's own file is the file of the middleware. -/
structure Tidy (services : List Service) : Prop where
  ids : (services.map (·.id)).Nodup
  own : ∀ service ∈ services, OwnFile service.domain

theorem Tidy.save {services : List Service} (tidy : Tidy services) {service : Service}
    (own : OwnFile service.domain) : Tidy (Table.save Service.id services service) := by
  refine ⟨Table.nodup_save tidy.ids service, ?_⟩
  intro saved isSaved
  rcases Table.mem_save.mp isSaved with rfl | ⟨stays, -⟩
  · exact own
  · exact tidy.own saved stays

theorem Tidy.delete {services : List Service} (tidy : Tidy services) (serviceId : Uuid) :
    Tidy (Table.delete Service.id services serviceId) :=
  ⟨Table.nodup_delete tidy.ids serviceId,
    fun service listed => tidy.own service (Table.mem_delete.mp listed).1⟩

private theorem undisturbed_resolve (templateIds : List String) :
    Session.Transacts (resolve environment templateIds) (fun before _ after =>
      Undisturbed before after) :=
  (undisturbed_of_onDisk (fun _ _ => True)
    ((keeps_resolve _ _).mono fun _ _ _ => trivial)).mono fun _ _ _ kept => kept.2

private theorem undisturbed_writeImportedService (service : Service) :
    Session.Transacts (writeImportedService environment service) (fun before _ after =>
      OwnFile service.domain → forwardAuth after.2 = forwardAuth before.2) := by
  unfold writeImportedService
  refine (undisturbed_resolve _).bind fun templates => ?_
  refine (undisturbed_writeServiceFile _ _).bind fun _ => ?_
  refine (transacts_write _ _).mono ?_
  rintro second _ after rfl first written before resolved own
  exact (written own).2.trans resolved.2

/-- An entry writes the file of its own domain. -/
theorem undisturbed_upsertService (item : BackupServiceItem) :
    Session.Transacts (upsertService environment item) (fun before _ after =>
      OwnFileName item.domain → forwardAuth after.2 = forwardAuth before.2) := by
  unfold upsertService
  refine (transacts_findServiceByDomain _).bind fun found => ?_
  cases found with
  | none =>
      refine (Session.transacts_ofExcept _).bind fun service => ?_
      refine (undisturbed_writeImportedService _).bind fun _ => ?_
      refine (Session.transacts_pure _).mono ?_
      rintro third _ after ⟨-, rfl⟩ second written first ⟨created, rfl⟩ before ⟨-, rfl⟩ own
      refine written ?_
      rw [ownFile_iff, (fromEntry_of_created created).domain]
      exact own
  | some existing =>
      refine (Session.transacts_ofExcept _).bind fun service => ?_
      refine (undisturbed_writeImportedService _).bind fun _ => ?_
      refine (Session.transacts_pure _).mono ?_
      rintro third _ after ⟨-, rfl⟩ second written first ⟨updated, rfl⟩ before ⟨found, rfl⟩ own
      have hasDomain : existing.domain.value = item.domain := by
        simpa using List.find?_some found.symm
      refine written ?_
      rw [ownFile_iff, (fromEntry_of_updated updated hasDomain).1.domain]
      exact own

private theorem undisturbed_deleteEachService {services : List Service}
    (own : ∀ service ∈ services, OwnFile service.domain) (round : Nat) :
    Session.Transacts (deleteEachService environment round services) (fun before _ after =>
      forwardAuth after.2 = forwardAuth before.2) := by
  induction services generalizing round with
  | nil =>
      refine (Session.transacts_pure _).mono ?_
      rintro before _ after ⟨-, rfl⟩
      rfl
  | cons service rest ih =>
      unfold deleteEachService
      refine (undisturbed_touchFile _ fun directory => ?_).bind fun _ => ?_
      · rw [Directory.deleteService, Directory.file?_unlink,
          if_neg (Ne.symm (own service (by simp)))]
      refine (transacts_write _ _).bind fun _ => ?_
      refine (ih (fun other listed => own other (by simp [listed])) (round + 1)).mono ?_
      rintro second _ after deleted first rfl before removed
      exact deleted.trans removed.2

private theorem undisturbed_deleteEachRedirectHost (round : Nat)
    (redirectHosts : List RedirectHost) :
    Session.Transacts (deleteEachRedirectHost environment round redirectHosts)
      (fun before _ after => forwardAuth after.2 = forwardAuth before.2) := by
  induction redirectHosts generalizing round with
  | nil =>
      refine (Session.transacts_pure _).mono ?_
      rintro before _ after ⟨-, rfl⟩
      rfl
  | cons redirectHost rest ih =>
      unfold deleteEachRedirectHost
      refine (undisturbed_deleteRedirectFile _).bind fun _ => ?_
      refine (transacts_write _ _).bind fun _ => (ih (round + 1)).mono ?_
      rintro second _ after deleted first rfl before removed
      exact deleted.trans removed.2

private theorem undisturbed_deleteExisting :
    Session.Transacts (deleteExisting environment) (fun before _ after =>
      Tidy before.1.services → forwardAuth after.2 = forwardAuth before.2) := by
  unfold deleteExisting
  refine (transacts_query _ _).bind fun services => ?_
  by_cases own : ∀ service ∈ services, OwnFile service.domain
  · refine (undisturbed_deleteEachService own _).bind fun _ => ?_
    refine (transacts_query _ _).bind fun redirectHosts => ?_
    refine (undisturbed_deleteEachRedirectHost _ _).bind fun _ => ?_
    refine (Session.transacts_pure _).mono ?_
    rintro fifth _ after ⟨-, rfl⟩ fourth deletedRedirects third ⟨-, rfl⟩ second deletedServices
      before ⟨-, rfl⟩ -
    exact deletedRedirects.trans deletedServices
  · refine (transacts_deleteEachService _ _).bind fun _ => ?_
    refine (transacts_query _ _).bind fun redirectHosts => ?_
    refine (transacts_deleteEachRedirectHost _ _).bind fun _ => ?_
    refine (Session.transacts_pure _).mono ?_
    rintro fifth _ after - fourth - third - second - before ⟨rfl, -⟩ tidy
    exact absurd tidy.own own

/-- What an import keeps. -/
def Untouched (file : Option HttpConfig) (contents : Database × Outside) : Prop :=
  Tidy contents.1.services ∧ forwardAuth contents.2 = file

/-- An import of entries with their own files keeps the file of the middleware. -/
theorem undisturbed_importAll (environment : ProxyEnvironment) (file : Option HttpConfig) (mode : ImportMode)
    {payload : BackupPayload} (own : ∀ item ∈ payload.services, OwnFileName item.domain) :
    Session.Transacts (importAll environment mode payload) (fun before _ after =>
      Untouched file before → Untouched file after) := by
  refine transacts_importAll_from (Untouched file) (Untouched file) mode ?_ (fun _ _ kept => kept) ?_ ?_ ?_
  · intro _
    refine (transacts_deleteExisting.and undisturbed_deleteExisting).mono ?_
    rintro before _ after ⟨cleared, same⟩ ⟨tidy, isFile⟩
    refine ⟨?_, (same tidy).trans isFile⟩
    rw [cleared]
    exact ⟨List.nodup_nil, by simp⟩
  · intro item listed during
    refine ((transacts_upsertService item).and (undisturbed_upsertService item)).mono ?_
    rintro before _ after ⟨⟨service, origin, -, written⟩, same⟩ ⟨tidy, isFile⟩
    refine ⟨?_, (same (own item listed)).trans isFile⟩
    rw [written]
    refine tidy.save ?_
    rw [ownFile_iff]
    rcases origin with ⟨existing, -, hasDomain, updated⟩ | ⟨-, created⟩
    · rw [(fromEntry_of_updated updated hasDomain).1.domain]
      exact own item listed
    · rw [(fromEntry_of_created created).domain]
      exact own item listed
  · intro item listed during
    refine (undisturbed_upsertRedirect item).mono ?_
    rintro before _ after ⟨sameServices, same⟩ ⟨tidy, isFile⟩
    exact ⟨sameServices ▸ tidy, same.trans isFile⟩
  · refine undisturbed_syncSharedMiddlewareTemplates.mono ?_
    rintro before _ after ⟨sameTables, same⟩ ⟨tidy, isFile⟩
    exact ⟨sameTables ▸ tidy, same.trans isFile⟩

end Imports

section Tracking

/-- Whether a service of the table uses Authentik, disabled or not. -/
def UsesAuthentik (services : List Service) : Prop :=
  ∃ service ∈ services, service.authMode = .authentik

instance (services : List Service) : Decidable (UsesAuthentik services) :=
  inferInstanceAs (Decidable (∃ service ∈ services, service.authMode = .authentik))

/-- The file there should be. -/
def forwardAuthFor (services : List Service) : Option HttpConfig :=
  if UsesAuthentik services then some authentikForwardAuthConfig else none

private theorem othersUsing_ne_zero {database : Database} {serviceId : Uuid} :
    othersUsing database serviceId ≠ 0 ↔
      ∃ service ∈ database.services, service.authMode = .authentik ∧ service.id ≠ serviceId := by
  rw [othersUsing, Nat.ne_zero_iff_zero_lt, List.countP_pos_iff]
  simp

private theorem usesAuthentik_save {database : Database} {service : Service} :
    UsesAuthentik (Table.save Service.id database.services service) ↔
      service.authMode = .authentik ∨ othersUsing database service.id ≠ 0 := by
  rw [othersUsing_ne_zero]
  constructor
  · rintro ⟨saved, isSaved, uses⟩
    rcases Table.mem_save.mp isSaved with rfl | ⟨stays, differs⟩
    · exact .inl uses
    · exact .inr ⟨saved, stays, uses, differs⟩
  · rintro (uses | ⟨other, listed, uses, differs⟩)
    · exact ⟨service, Table.mem_save.mpr (.inl rfl), uses⟩
    · exact ⟨other, Table.mem_save.mpr (.inr ⟨listed, differs⟩), uses⟩

private theorem usesAuthentik_delete {database : Database} {serviceId : Uuid} :
    UsesAuthentik (Table.delete Service.id database.services serviceId) ↔
      othersUsing database serviceId ≠ 0 := by
  rw [othersUsing_ne_zero]
  constructor
  · rintro ⟨other, listed, uses⟩
    obtain ⟨stays, differs⟩ := Table.mem_delete.mp listed
    exact ⟨other, stays, uses, differs⟩
  · rintro ⟨other, stays, uses, differs⟩
    exact ⟨other, Table.mem_delete.mpr ⟨stays, differs⟩, uses⟩

/-- A service that is found uses Authentik, or others do. -/
theorem usesAuthentik_of_find {database : Database} (tidy : Tidy database.services)
    {serviceId : Uuid} {service : Service}
    (found : Table.find Service.id database.services serviceId = some service) :
    UsesAuthentik database.services ↔
      service.authMode = .authentik ∨ othersUsing database service.id ≠ 0 := by
  obtain ⟨listed, -⟩ := Table.mem_of_find found
  rw [othersUsing_ne_zero]
  constructor
  · rintro ⟨other, isOther, uses⟩
    by_cases same : other.id = service.id
    · rw [Table.eq_of_key tidy.ids isOther listed same] at uses
      exact .inl uses
    · exact .inr ⟨other, isOther, uses, same⟩
  · rintro (uses | ⟨other, isOther, uses, -⟩)
    · exact ⟨service, listed, uses⟩
    · exact ⟨other, isOther, uses⟩

/-- The file of the middleware is there exactly when a stored service uses Authentik. -/
structure Tracked (contents : Database × Outside) : Prop where
  tidy : Tidy contents.1.services
  file : forwardAuth contents.2 = forwardAuthFor contents.1.services

variable {contents : Database × Outside}

private theorem Tracked.sameUse (tracked : Tracked contents) {after : Database × Outside}
    (same : SameUse contents after) : Tracked after := by
  obtain ⟨sameServices, sameFile⟩ := same
  refine ⟨sameServices ▸ tracked.tidy, ?_⟩
  rw [sameFile, sameServices]
  exact tracked.file

/-- A created service writes the file if it uses Authentik. -/
theorem Tracked.createService (tracked : Tracked contents) {service : Service}
    {after : Database × Outside} (own : OwnFile service.domain)
    (fresh : ∀ other ∈ contents.1.services, other.id ≠ service.id)
    (saved : after.1.services = Table.save Service.id contents.1.services service)
    (written : forwardAuth after.2 =
      if service.authMode = .authentik then some authentikForwardAuthConfig
      else forwardAuth contents.2) : Tracked after := by
  refine ⟨saved ▸ tracked.tidy.save own, ?_⟩
  have others : UsesAuthentik contents.1.services ↔ othersUsing contents.1 service.id ≠ 0 := by
    rw [othersUsing_ne_zero]
    constructor
    · rintro ⟨other, listed, uses⟩
      exact ⟨other, listed, uses, fresh other listed⟩
    · rintro ⟨other, listed, uses, -⟩
      exact ⟨other, listed, uses⟩
  rw [written, tracked.file, forwardAuthFor, forwardAuthFor, saved]
  by_cases uses : service.authMode = .authentik
  · simp [usesAuthentik_save, uses]
  · simp [usesAuthentik_save, uses, others]

/-- An updated service writes the file, removes it or leaves it, as its change of mode asks. -/
theorem Tracked.updateService (tracked : Tracked contents) {service edited : Service}
    {serviceId : Uuid} {after : Database × Outside}
    (found : Table.find Service.id contents.1.services serviceId = some service)
    (sameId : edited.id = service.id) (sameDomain : edited.domain = service.domain)
    (saved : after.1.services = Table.save Service.id contents.1.services edited)
    (changed : forwardAuth after.2 = forwardAuthAfter service.authMode edited.authMode
      (othersUsing contents.1 service.id) (forwardAuth contents.2)) : Tracked after := by
  have own := tracked.tidy.own service (Table.mem_of_find found).1
  refine ⟨saved ▸ tracked.tidy.save (sameDomain ▸ own), ?_⟩
  have before := usesAuthentik_of_find tracked.tidy found
  have now : UsesAuthentik after.1.services ↔
      edited.authMode = .authentik ∨ othersUsing contents.1 service.id ≠ 0 := by
    rw [saved, usesAuthentik_save, sameId]
  rw [changed, tracked.file, forwardAuthAfter, forwardAuthFor, forwardAuthFor]
  by_cases keeps : service.authMode = edited.authMode
  · rw [if_pos keeps]
    simp only [before, now, keeps]
  · rw [if_neg keeps]
    by_cases enters : edited.authMode = .authentik
    · simp [now, enters]
    · by_cases unused : othersUsing contents.1 service.id = 0
      · by_cases leaves : service.authMode = .authentik
        · simp [now, enters, unused, leaves]
        · simp [before, now, enters, unused, leaves]
      · simp [before, now, enters, unused]

/-- A deleted service removes the file if it was the last one to use Authentik. -/
theorem Tracked.deleteService (tracked : Tracked contents) {service : Service} {serviceId : Uuid}
    {after : Database × Outside}
    (found : Table.find Service.id contents.1.services serviceId = some service)
    (deleted : after.1.services = Table.delete Service.id contents.1.services serviceId)
    (cleaned : forwardAuth after.2 =
      if service.authMode = .authentik ∧ othersUsing contents.1 service.id = 0 then none
      else forwardAuth contents.2) : Tracked after := by
  refine ⟨deleted ▸ tracked.tidy.delete serviceId, ?_⟩
  have before := usesAuthentik_of_find tracked.tidy found
  have now : UsesAuthentik after.1.services ↔ othersUsing contents.1 service.id ≠ 0 := by
    rw [deleted, usesAuthentik_delete, (Table.mem_of_find found).2]
  rw [cleaned, tracked.file, forwardAuthFor, forwardAuthFor]
  by_cases unused : othersUsing contents.1 service.id = 0
  · by_cases used : service.authMode = .authentik
    · simp [now, unused, used]
    · simp [before, now, unused, used]
  · simp [before, now, unused]

end Tracking

section Runs

/-- What an operation of a run is allowed to be: its service has its own file and a new
identifier, and an import leaves it as it is whether a stored service uses Authentik. -/
def Operation.KeepsFile (before after : Database) : Operation → Prop
  | createService environment data =>
      OwnFileName data.domain ∧ ∀ service ∈ before.services, service.id ≠ environment.newId
  | importBackup _ _ payload =>
      (∀ item ∈ payload.services, OwnFileName item.domain) ∧
        (UsesAuthentik after.services ↔ UsesAuthentik before.services)
  | updateService .. | deleteService .. | createTemplate .. | updateTemplate ..
  | deleteTemplate .. => True
  | createRedirectHost .. | updateRedirectHost .. | deleteRedirectHost .. => False

/-- The sessions that succeeding operations reach from an installation without services. -/
inductive SucceedingRun (allowed : Database → Database → Operation → Prop) : ProxySession → Prop where
  | empty {session : ProxySession} (noServices : session.stored.services = [])
      (noFile : forwardAuth session.outside = none) : SucceedingRun allowed session
  | step {session next : ProxySession} (reached : SucceedingRun allowed session)
      (operation : Operation) (succeeded : operation.run session = .ok ⟨⟩ next)
      (isAllowed : allowed session.stored next.stored operation) : SucceedingRun allowed next

variable {session next : ProxySession}

/-- What a request that returned stored, and what it left outside the database. -/
theorem related_of_request {α : Type} {environment : ProxyEnvironment} {body : ProxyProgram α}
    {relation : Database × Outside → α → Database × Outside → Prop} {value : α}
    (transacts : Session.Transacts body relation)
    (succeeded : request environment body session = .ok value next) :
    relation (session.stored, session.outside) value (next.stored, next.outside) :=
  (ensures_request_of_transacts transacts session).of_ok succeeded

/-- A request whose answer is dropped. -/
theorem returned_of_dropped {α : Type} {program : ProxyProgram α}
    (succeeded : (do let _ ← program : ProxyProgram PUnit) session = .ok ⟨⟩ next) :
    ∃ value, program session = .ok value next := by
  cases outcome : program session with
  | error failure middle =>
      simp only [bind, EStateM.bind, outcome] at succeeded
      cases succeeded
  | ok value middle =>
      simp only [bind, EStateM.bind, outcome] at succeeded
      cases succeeded
      exact ⟨value, rfl⟩

/-- The step: a succeeding operation keeps the file tracked. -/
theorem tracked_run (tracked : Tracked (session.stored, session.outside)) {operation : Operation}
    (succeeded : operation.run session = .ok ⟨⟩ next)
    (keeps : operation.KeepsFile session.stored next.stored) :
    Tracked (next.stored, next.outside) := by
  cases operation with
  | createService environment data =>
      obtain ⟨own, fresh⟩ := keeps
      obtain ⟨service, returned⟩ := returned_of_dropped succeeded
      obtain ⟨⟨prepared, isPrepared, resynced, stored⟩, written⟩ := related_of_request
        ((transacts_createServiceAction data).and (tracks_createServiceAction data)) returned
      obtain ⟨isId, isDomain⟩ := identity_of_created isPrepared.created
      have ownFile : OwnFile service.domain := by
        rw [ownFile_iff, resynced.same.domain, isDomain]
        exact own
      refine tracked.createService ownFile ?_ (congrArg Database.services stored) (written ownFile)
      rw [resynced.same.id, isId]
      exact fresh
  | updateService environment serviceId payload =>
      obtain ⟨edited, returned⟩ := returned_of_dropped succeeded
      obtain ⟨⟨service, last, found, isEdited, rfl, stored⟩, changed⟩ := related_of_request
        ((transacts_updateServiceAction serviceId payload).and
          (tracks_updateServiceAction serviceId payload)) returned
      obtain ⟨applied, isApplied, resynced⟩ := isEdited.applied
      obtain ⟨sameId, sameDomain⟩ := identity_of_applied isApplied
      exact tracked.updateService found (resynced.same.id.trans sameId)
        (resynced.same.domain.trans sameDomain) (congrArg Database.services stored)
        (changed service found (tracked.tidy.own service (Table.mem_of_find found).1))
  | deleteService environment serviceId =>
      obtain ⟨stored, service, found, cleaned⟩ := related_of_request
        ((transacts_deleteServiceAction serviceId).and (tracks_deleteServiceAction serviceId))
          succeeded
      exact tracked.deleteService found (congrArg Database.services stored)
        (cleaned (tracked.tidy.own service (Table.mem_of_find found).1))
  | createTemplate environment data =>
      obtain ⟨template, returned⟩ := returned_of_dropped succeeded
      exact tracked.sameUse (related_of_request (undisturbed_createTemplate data) returned)
  | updateTemplate environment templateId data =>
      obtain ⟨template, returned⟩ := returned_of_dropped succeeded
      exact tracked.sameUse
        (related_of_request (undisturbed_updateTemplate templateId data) returned tracked.tidy.own)
  | deleteTemplate environment templateId =>
      exact tracked.sameUse (related_of_request (undisturbed_deleteTemplate templateId) succeeded)
  | importBackup environment mode payload =>
      obtain ⟨own, sameUse⟩ := keeps
      obtain ⟨result, returned⟩ := returned_of_dropped succeeded
      have imports := transacts_importAction
        (undisturbed_importAll environment (forwardAuthFor session.stored.services) mode own)
      obtain ⟨tidy, same⟩ := related_of_request imports returned ⟨tracked.tidy, tracked.file⟩
      refine ⟨tidy, same.trans ?_⟩
      simp only [forwardAuthFor, sameUse]
  | createRedirectHost environment data => exact keeps.elim
  | updateRedirectHost environment redirectId data => exact keeps.elim
  | deleteRedirectHost environment redirectId => exact keeps.elim

/-- Every run of succeeding operations keeps the file tracked. -/
theorem tracked_of_run (run : SucceedingRun Operation.KeepsFile session) :
    Tracked (session.stored, session.outside) := by
  induction run with
  | empty noServices noFile =>
      refine ⟨?_, ?_⟩
      · rw [noServices]
        exact ⟨List.nodup_nil, by simp⟩
      · rw [noFile, forwardAuthFor, if_neg]
        simp [UsesAuthentik, noServices]
  | step reached operation succeeded isAllowed ih => exact tracked_run ih succeeded isAllowed

/-- The file defines the middleware that the routers refer to. -/
theorem authentikForwardAuthConfig_defines :
    (authentikForwardAuthConfig.middlewares.get? "authentik").isSome = true := by decide

/-- **The file of the Authentik middleware tracks its users.** After every run of succeeding
operations it is there exactly when a stored service, disabled or not, uses Authentik, and
whenever the configuration of a stored service has a router that refers to the middleware
the file defines it. -/
theorem forwardAuth_tracks_users (run : SucceedingRun Operation.KeepsFile session) :
    ((forwardAuth session.outside).isSome = true ↔
      ∃ service ∈ session.stored.services, service.authMode = .authentik) ∧
    ∀ service ∈ session.stored.services, ∀ settings templates name router,
      (generate settings service templates).routers.get? name = some router →
        authentikMiddleware ∈ router.middlewares →
          ∃ document, forwardAuth session.outside = some document ∧
            (document.middlewares.get? "authentik").isSome = true := by
  have file := (tracked_of_run run).file
  dsimp only at file
  rw [file]
  refine ⟨?_, ?_⟩
  · show _ ↔ UsesAuthentik session.stored.services
    rw [forwardAuthFor]
    by_cases used : UsesAuthentik session.stored.services
    · simp [used]
    · simp [used]
  · intro service listed settings templates name router isRouter refers
    have used : UsesAuthentik session.stored.services :=
      ⟨service, listed, authMode_of_reference isRouter refers⟩
    exact ⟨authentikForwardAuthConfig, if_pos used, authentikForwardAuthConfig_defines⟩

/-- The runs of service operations, template operations and imports. -/
def Operation.OfServices (_before _after : Database) : Operation → Prop
  | createRedirectHost .. | updateRedirectHost .. | deleteRedirectHost .. => False
  | _ => True

def shopBehindAuthentik (routingMode : String) : Operation :=
  .createService {}
    { name := "shop", domain := "shop.example.com", upstreamHost := "app", upstreamPort := 8080
      authMode := "authentik", routingMode }

/-- A service that uses Authentik has the file. -/
theorem forwardAuth_tracks_users_example :
    (forwardAuth (Program.finalState (shopBehindAuthentik "active").run emptySession).outside).isSome
      = true := by
  have run : SucceedingRun Operation.KeepsFile
      (Program.finalState (shopBehindAuthentik "active").run emptySession) := by
    refine .step (.empty rfl rfl) (shopBehindAuthentik "active")
      (Program.eq_ok_of_succeeds (by decide +kernel)) ⟨by decide +kernel, ?_⟩
    simp [emptySession]
  refine (forwardAuth_tracks_users run).1.mpr ?_
  decide +kernel

/-- A disabled service that uses Authentik has the file as well. -/
theorem forwardAuth_of_disabled :
    ¬ ∀ session, SucceedingRun Operation.OfServices session →
      ((forwardAuth session.outside).isSome = true ↔
        ∃ service ∈ session.stored.services,
          service.routingMode ≠ .disabled ∧ service.authMode = .authentik) := by
  intro always
  have tracks := always _ (.step (.empty rfl rfl : SucceedingRun _ emptySession)
    (shopBehindAuthentik "disabled") (Program.eq_ok_of_succeeds (by decide +kernel)) trivial)
  revert tracks
  decide +kernel

end Runs

end TraefikManager.Proxy
