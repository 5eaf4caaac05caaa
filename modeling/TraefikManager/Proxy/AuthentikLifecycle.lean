import TraefikManager.Proxy.World

/-!
# Authentik objects of a service

An Authentik service has a provider and an application, and with a group also a
policy bound to the application. They are created, changed and removed as the
authentication mode of the service changes; the middleware file is there for all
Authentik services together.
-/

namespace TraefikManager.Proxy

open Foundation Domain Traefik

variable (environment : ProxyEnvironment)

section Sync

/-- `count_services`: the Authentik services apart from one. -/
def countServices (excluded : Uuid) : ProxyProgram Nat :=
  query environment .findAllServices fun database =>
    database.services.countP fun service => service.authMode = .authentik ∧ service.id ≠ excluded

/-- Do something with a key, if there is one. -/
def whenPresent (key : Option String) (program : String → ProxyProgram PUnit) : ProxyProgram PUnit :=
  match orText key none with
  | some present => program present
  | none => pure ⟨⟩

/-- `clear_group_policy`. -/
def clearGroupPolicy (service : Service) : ProxyProgram Service := do
  whenPresent service.authentikPolicyBindingId fun bindingId =>
    touchAuthentik environment .deletePolicyBinding (·.deletePolicyBinding bindingId)
  whenPresent service.authentikPolicyId fun policyId =>
    touchAuthentik environment .deletePolicy (·.deletePolicy policyId)
  pure { service with authentikPolicyBindingId := none, authentikPolicyId := none
                      authentikGroupName := none }

/-- The application a policy is bound to, looked up unless it is known. -/
def applicationPkOf (service : Service) (applicationPk : Option String) : ProxyProgram String := do
  match applicationPk with
  | some pk => pure pk
  | none =>
      match orText service.authentikAppSlug none with
      | none => throw (.valueError "Authentik 애플리케이션 정보가 없습니다")
      | some slug =>
          perform environment .getApplicationBySlug
          let session ← get
          match session.outside.authentik.getApplicationBySlug slug with
          | none => throw (.valueError "Authentik 애플리케이션을 찾을 수 없습니다")
          | some application => pure application.pk

/-- `get_group`. -/
def getGroup (groupId : String) : ProxyProgram String := do
  perform environment .getGroup
  match environment.groupName groupId with
  | none => throw (.valueError "선택한 Authentik 그룹을 찾을 수 없습니다")
  | some groupName => pure groupName

/-- `sync_group_policy`. -/
def syncGroupPolicy (service : Service) (applicationPk : Option String) : ProxyProgram Service := do
  let service ← clearGroupPolicy environment service
  match if service.authEnabled then orText service.authentikGroupId none else none with
  | none => pure service
  | some groupId =>
      let groupName ← getGroup environment groupId
      let pk ← applicationPkOf environment service applicationPk
      let policyName := service.name ++ "-" ++ service.domain.value ++ "-group-policy"
      touchAuthentik environment .createGroupPolicy
        (·.createGroupPolicy environment.policyPk policyName groupName)
      touchAuthentik environment .bindPolicyToApplication
        (·.bindPolicyToApplication environment.bindingPk pk environment.policyPk)
      pure { service with authentikGroupName := some groupName
                          authentikPolicyId := some environment.policyPk
                          authentikPolicyBindingId := some environment.bindingPk }

/-- `ServiceAuthentikSync.setup`. -/
def setup (service : Service) : ProxyProgram Service := do
  let slug := Text.replaceChar '.' '-' service.domain.value
  touchAuthentik environment .createProxyProvider
    (·.createProxyProvider environment.providerPk service.name service.domain.value)
  touchAuthentik environment .createApplication
    (·.createApplication environment.applicationPk service.name slug environment.providerPk)
  syncGroupPolicy environment
    { service with authentikProviderId := some environment.providerPk
                   authentikAppSlug := some slug }
    (some environment.applicationPk)

/-- `ServiceAuthentikSync.teardown`. -/
def teardown (service : Service) : ProxyProgram Service := do
  let service ← clearGroupPolicy environment service
  whenPresent service.authentikAppSlug fun slug =>
    touchAuthentik environment .deleteApplication (·.deleteApplication slug)
  whenPresent service.authentikProviderId fun providerId =>
    touchAuthentik environment .deleteProvider (·.deleteProvider providerId)
  pure { service with authentikProviderId := none, authentikAppSlug := none
                      authentikGroupId := none }

end Sync

section Lifecycle

/-- `setup_created_service`. -/
def setupCreatedService (service : Service) : ProxyProgram Service := do
  if service.authMode = .authentik then
    let service ← setup environment service
    touchFile environment .writeAuthentikMiddleware Directory.writeAuthentikMiddleware
    pure service
  else
    pure service

/-- The first half of `_sync_auth_mode_change`: leaving Authentik. -/
def leaveAuthentik (service : Service) (oldAuthMode : AuthMode) : ProxyProgram Service := do
  if oldAuthMode = .authentik then
    let service ← teardown environment service
    let remaining ← countServices environment service.id
    touchFile environment .deleteAuthentikMiddleware (·.deleteAuthentikMiddlewareIfUnused remaining)
    pure service
  else
    pure service

/-- `sync_updated_service`. Entering Authentik is what creating an Authentik service
does; the mode has changed, so that at most one half applies. -/
def syncUpdatedService (service : Service) (oldAuthMode : AuthMode)
    (previousGroupId : Option String) : ProxyProgram Service := do
  if oldAuthMode ≠ service.authMode then
    let service ← leaveAuthentik environment service oldAuthMode
    setupCreatedService environment service
  else if service.authMode = .authentik ∧ previousGroupId ≠ service.authentikGroupId then
    syncGroupPolicy environment service none
  else
    pure service

/-- `teardown_deleted_service`. -/
def teardownDeletedService (service : Service) : ProxyProgram Service :=
  if service.authMode = .authentik then teardown environment service else pure service

/-- `cleanup_deleted_service`. -/
def cleanupDeletedService (service : Service) : ProxyProgram PUnit := do
  if service.authMode = .authentik then
    let remaining ← countServices environment service.id
    touchFile environment .deleteAuthentikMiddleware (·.deleteAuthentikMiddlewareIfUnused remaining)

end Lifecycle

section Spec

/-- The same service up to what the remote services assign. -/
def SameButRemote (before after : Service) : Prop :=
  after =
    { before with
      authentikProviderId := after.authentikProviderId
      authentikAppSlug := after.authentikAppSlug
      authentikGroupId := after.authentikGroupId
      authentikGroupName := after.authentikGroupName
      authentikPolicyId := after.authentikPolicyId
      authentikPolicyBindingId := after.authentikPolicyBindingId
      cloudflareRecordId := after.cloudflareRecordId }

/-- The same service after a synchronization, which drops the group at most from a
service that does not use Authentik. -/
structure Resynced (before after : Service) : Prop where
  same : SameButRemote before after
  group : after.authentikGroupId = before.authentikGroupId ∨
    before.authMode ≠ .authentik ∧ after.authentikGroupId = none

variable {before middle after : Service}

theorem SameButRemote.refl (service : Service) : SameButRemote service service := rfl

theorem SameButRemote.trans (first : SameButRemote before middle)
    (second : SameButRemote middle after) : SameButRemote before after := by
  unfold SameButRemote at first second ⊢
  rw [second, first]

theorem SameButRemote.id (same : SameButRemote before after) : after.id = before.id := by
  rw [same]

theorem SameButRemote.domain (same : SameButRemote before after) :
    after.domain = before.domain := by
  rw [same]

theorem SameButRemote.authMode (same : SameButRemote before after) :
    after.authMode = before.authMode := by
  rw [same]

theorem SameButRemote.authEnabled (same : SameButRemote before after) :
    after.authEnabled = before.authEnabled := by
  rw [same]

theorem SameButRemote.middlewareTemplateIds (same : SameButRemote before after) :
    after.middlewareTemplateIds = before.middlewareTemplateIds := by
  rw [same]

theorem Resynced.refl (service : Service) : Resynced service service := ⟨rfl, .inl rfl⟩

theorem Resynced.trans (first : Resynced before middle) (second : Resynced middle after) :
    Resynced before after := by
  refine ⟨first.same.trans second.same, ?_⟩
  rcases second.group with kept | ⟨differs, dropped⟩
  · rw [kept]
    exact first.group
  · rw [first.same.authMode] at differs
    exact .inr ⟨differs, dropped⟩

/-- A service whose group goes with its mode keeps its group. -/
theorem Resynced.sameGroup (resynced : Resynced before after)
    (coupled : before.authentikGroupId ≠ none → before.authMode = .authentik) :
    after.authentikGroupId = before.authentikGroupId := by
  rcases resynced.group with kept | ⟨differs, dropped⟩
  · exact kept
  · by_contra changed
    rw [dropped] at changed
    exact differs (coupled (Ne.symm changed))

variable {environment}

private theorem keeps_countServices (excluded : Uuid) :
    Program.Keeps onDisk (countServices environment excluded) (fun seen count =>
      count = seen.2.1.services.countP fun service =>
        service.authMode = .authentik ∧ service.id ≠ excluded) :=
  keeps_query _ _

private theorem keeps_whenPresent {γ : Type} {view : ProxySession → γ} (key : Option String)
    {program : String → ProxyProgram PUnit}
    (keeps : ∀ present, Program.Keeps view (program present) (fun _ _ => True)) :
    Program.Keeps view (whenPresent key program) (fun _ _ => True) := by
  unfold whenPresent
  cases orText key none with
  | none => exact (Program.keeps_pure _).mono fun _ _ _ => trivial
  | some present => exact keeps present

private theorem keeps_clearGroupPolicy (service : Service) :
    Program.Keeps onDisk (clearGroupPolicy environment service) (fun _ next =>
      SameButRemote service next ∧ next.authentikGroupId = service.authentikGroupId) := by
  unfold clearGroupPolicy
  refine (keeps_whenPresent _ fun _ => keeps_touchAuthentik _ _).bind fun _ => ?_
  refine (keeps_whenPresent _ fun _ => keeps_touchAuthentik _ _).bind fun _ => ?_
  refine (Program.keeps_pure _).mono ?_
  rintro _ next rfl _ _
  exact ⟨rfl, rfl⟩

private theorem keeps_getGroup (groupId : String) :
    Program.Keeps onDisk (getGroup environment groupId) (fun _ _ => True) := by
  unfold getGroup
  refine (keeps_perform _).bind fun _ => ?_
  cases environment.groupName groupId with
  | none => exact Program.keeps_throw _
  | some groupName => exact (Program.keeps_pure _).mono fun _ _ _ _ => trivial

private theorem keeps_applicationPkOf (service : Service) (applicationPk : Option String) :
    Program.Keeps onDisk (applicationPkOf environment service applicationPk) (fun _ _ => True) := by
  unfold applicationPkOf
  cases applicationPk with
  | some pk => exact (Program.keeps_pure _).mono fun _ _ _ => trivial
  | none =>
      dsimp only
      cases orText service.authentikAppSlug none with
      | none => exact Program.keeps_throw _
      | some slug =>
          refine (keeps_perform _).bind fun _ => Program.keeps_get.bind fun session => ?_
          cases session.outside.authentik.getApplicationBySlug slug with
          | none => exact Program.keeps_throw _
          | some application => exact (Program.keeps_pure _).mono fun _ _ _ _ _ => trivial

/-- The group policy changes nothing on disk, and of the service what is assigned remotely. -/
theorem keeps_syncGroupPolicy (service : Service) (applicationPk : Option String) :
    Program.Keeps onDisk (syncGroupPolicy environment service applicationPk) (fun _ next =>
      Resynced service next) := by
  unfold syncGroupPolicy
  refine (keeps_clearGroupPolicy service).bind fun cleared => ?_
  cases if cleared.authEnabled then orText cleared.authentikGroupId none else none with
  | none =>
      refine (Program.keeps_pure _).mono ?_
      rintro _ next rfl ⟨same, group⟩
      exact ⟨same, .inl group⟩
  | some groupId =>
      refine (keeps_getGroup groupId).bind fun groupName => ?_
      refine (keeps_applicationPkOf cleared applicationPk).bind fun pk => ?_
      refine (keeps_touchAuthentik _ _).bind fun _ => ?_
      refine (keeps_touchAuthentik _ _).bind fun _ => ?_
      refine (Program.keeps_pure _).mono ?_
      rintro _ next rfl _ _ _ _ ⟨same, group⟩
      exact ⟨same.trans rfl, .inl group⟩

/-- The setup changes nothing on disk, and of the service what is assigned remotely. -/
theorem keeps_setup (service : Service) :
    Program.Keeps onDisk (setup environment service) (fun _ next => Resynced service next) := by
  unfold setup
  refine (keeps_touchAuthentik _ _).bind fun _ => ?_
  refine (keeps_touchAuthentik _ _).bind fun _ => ?_
  refine (keeps_syncGroupPolicy _ _).mono ?_
  intro _ next resynced _ _
  have assigned : Resynced service
      { service with authentikProviderId := some environment.providerPk
                     authentikAppSlug := some (Text.replaceChar '.' '-' service.domain.value) } :=
    ⟨rfl, .inl rfl⟩
  exact assigned.trans resynced

/-- The teardown changes nothing on disk, and takes the group from the service. -/
theorem keeps_teardown (service : Service) :
    Program.Keeps onDisk (teardown environment service) (fun _ next =>
      SameButRemote service next ∧ next.authentikGroupId = none) := by
  unfold teardown
  refine (keeps_clearGroupPolicy service).bind fun cleared => ?_
  refine (keeps_whenPresent _ fun _ => keeps_touchAuthentik _ _).bind fun _ => ?_
  refine (keeps_whenPresent _ fun _ => keeps_touchAuthentik _ _).bind fun _ => ?_
  refine (Program.keeps_pure _).mono ?_
  rintro _ next rfl _ _ ⟨same, -⟩
  exact ⟨same.trans rfl, rfl⟩

/-- The setup of a created service may write the file of the Authentik middleware only. -/
theorem keeps_setupCreatedService (service : Service) :
    Program.Keeps visible (setupCreatedService environment service) (fun _ next =>
      Resynced service next) := by
  unfold setupCreatedService
  refine .ite (fun _ => ?_) (fun _ => ?_)
  · refine (keeps_visible (fun _ next => Resynced service next) (keeps_setup service)).bind
      fun next => ?_
    refine (keeps_touchFile _ published_writeAuthentikMiddleware).bind fun _ => ?_
    refine (Program.keeps_pure _).mono ?_
    rintro _ last rfl _ resynced
    exact resynced
  · refine (Program.keeps_pure _).mono ?_
    rintro _ next rfl
    exact Resynced.refl _

private theorem keeps_leaveAuthentik (service : Service) (oldAuthMode : AuthMode)
    (differs : oldAuthMode ≠ service.authMode) :
    Program.Keeps visible (leaveAuthentik environment service oldAuthMode) (fun _ next =>
      Resynced service next) := by
  unfold leaveAuthentik
  refine .ite (fun left => ?_) (fun _ => ?_)
  · refine (keeps_visible (fun _ next => SameButRemote service next ∧
      next.authentikGroupId = none) (keeps_teardown service)).bind fun next => ?_
    refine (keeps_visible (fun _ _ => True)
      ((keeps_countServices next.id).mono fun _ _ _ => trivial)).bind fun remaining => ?_
    refine (keeps_touchFile _ (published_deleteAuthentikMiddlewareIfUnused · remaining)).bind
      fun _ => ?_
    refine (Program.keeps_pure _).mono ?_
    rintro _ last rfl _ _ ⟨same, dropped⟩
    exact ⟨same, .inr ⟨left ▸ differs.symm, dropped⟩⟩
  · refine (Program.keeps_pure _).mono ?_
    rintro _ next rfl
    exact Resynced.refl _

/-- Synchronizing an update changes nothing visible, and the service only as far as
the remote services assign it. -/
theorem keeps_syncUpdatedService (service : Service) (oldAuthMode : AuthMode)
    (previousGroupId : Option String) :
    Program.Keeps visible (syncUpdatedService environment service oldAuthMode previousGroupId)
      (fun _ next => Resynced service next) := by
  unfold syncUpdatedService
  refine .ite (fun differs => ?_) (fun _ => ?_)
  · refine (keeps_leaveAuthentik service oldAuthMode differs).bind fun left => ?_
    refine (keeps_setupCreatedService left).mono ?_
    intro _ next resynced leftResynced
    exact leftResynced.trans resynced
  · refine .ite (fun _ => ?_) (fun _ => ?_)
    · exact keeps_visible (fun _ next => Resynced service next)
        (keeps_syncGroupPolicy service none)
    · refine (Program.keeps_pure _).mono ?_
      rintro _ next rfl
      exact Resynced.refl _

/-- The teardown of a deleted service changes nothing on disk. -/
theorem keeps_teardownDeletedService (service : Service) :
    Program.Keeps onDisk (teardownDeletedService environment service) (fun _ next =>
      SameButRemote service next) := by
  unfold teardownDeletedService
  refine .ite (fun _ => (keeps_teardown service).mono fun _ _ torn => torn.1) (fun _ => ?_)
  refine (Program.keeps_pure _).mono ?_
  rintro _ next rfl
  exact SameButRemote.refl _

/-- The clean-up may remove the file of the Authentik middleware only. -/
theorem keeps_cleanupDeletedService (service : Service) :
    Program.Keeps visible (cleanupDeletedService environment service) (fun _ _ => True) := by
  unfold cleanupDeletedService
  refine .ite (fun _ => ?_) (fun _ => (Program.keeps_pure _).mono fun _ _ _ => trivial)
  refine (keeps_visible (fun _ _ => True)
    ((keeps_countServices service.id).mono fun _ _ _ => trivial)).bind fun remaining => ?_
  refine (keeps_touchFile _ (published_deleteAuthentikMiddlewareIfUnused · remaining)).mono ?_
  exact fun _ _ _ _ => trivial

end Spec

end TraefikManager.Proxy
