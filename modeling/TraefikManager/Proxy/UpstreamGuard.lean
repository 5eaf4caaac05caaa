import TraefikManager.Network.UpstreamDnsGuard
import TraefikManager.Proxy.Consistency
import TraefikManager.Proxy.RollbackAction

/-!
# The guard over runs

Creating a service, updating one and rolling an update back call the guard with the host
they store. An import stores the hosts of its entries without calling it. For every stored
host the run remembers the settings that were in force when its service came to have it.
-/

namespace TraefikManager.Proxy

open Foundation Domain Traefik Backup Network

section Guarding

/-- What the guard raises for a host. -/
def guardFailure (settings : SystemSettings) (resolver : Resolver) (host : Option String) :
    Option PyException :=
  match ensureSafe settings resolver host with
  | .ok _ => none
  | .error failure => some failure

/-- The surroundings of a call that has the guard check `host`. -/
def ProxyEnvironment.guarding (environment : ProxyEnvironment) (settings : SystemSettings)
    (resolver : Resolver) (host : Option String) : ProxyEnvironment :=
  { environment with
    fails := fun step =>
      if step = .ensureSafe then
        (environment.fails .ensureSafe).or (guardFailure settings resolver host)
      else environment.fails step }

private theorem safe_of_passed {environment : ProxyEnvironment} {settings : SystemSettings}
    {resolver : Resolver} {host : Option String}
    (passed : (environment.guarding settings resolver host).fails .ensureSafe = none) :
    ensureSafe settings resolver host = .ok () := by
  simp only [ProxyEnvironment.guarding, ↓reduceIte, Option.or_eq_none_iff, guardFailure] at passed
  cases outcome : ensureSafe settings resolver host with
  | ok _ => rfl
  | error failure =>
      rw [outcome] at passed
      cases passed.2

/-- The host a recorded request would store. -/
def rollbackHost (database : Database) (auditLogId : String) : Option String := do
  let auditLog ← database.auditLogs.find? (·.id = auditLogId)
  let rollbackPayload ← auditLog.detail.rollbackPayload?
  rollbackPayload.upstreamHost.join

/-- An operation whose surroundings answer for the guard. -/
def Operation.guarding (settings : SystemSettings) (resolver : Resolver) : Operation → Operation
  | createService environment data =>
      .createService (environment.guarding settings resolver (some data.upstreamHost)) data
  | updateService environment serviceId payload =>
      .updateService (environment.guarding settings resolver payload.upstreamHost.join) serviceId
        payload
  | other => other

/-- An operation on the proxy configuration, or the rollback of a service. -/
inductive GuardedOperation where
  | operate (operation : Operation)
  | rollbackService (environment : ProxyEnvironment) (auditLogId : String)

/-- The request of an operation under the guard of these settings. -/
def GuardedOperation.run (parse : String → Option Datetime) (settings : SystemSettings)
    (resolver : Resolver) : GuardedOperation → ProxyProgram PUnit
  | operate operation => (operation.guarding settings resolver).run
  | rollbackService environment auditLogId => do
      let session ← get
      let guarded :=
        environment.guarding settings resolver (rollbackHost session.stored auditLogId)
      let _ ← request guarded (rollbackServiceChangeAction guarded parse auditLogId)

end Guarding

section Passing

variable {environment : ProxyEnvironment}

/-- A step that was passed did not raise. -/
theorem keeps_passed (step : Step) :
    Program.Keeps (fun _ : ProxySession => ()) (perform environment step)
      (fun _ _ => environment.fails step = none) := by
  constructor
  intro session
  rw [ensures_perform]
  exact ⟨fun passed => ⟨rfl, passed⟩, fun _ _ => rfl⟩

private theorem keeps_request {α : Type} {body : ProxyProgram α} {post : Unit → α → Prop}
    (keeps : Program.Keeps (fun _ : ProxySession => ()) body post) :
    Program.Keeps (fun _ : ProxySession => ()) (request environment body) post := by
  unfold request Session.transaction
  refine (Program.keeps_nothing _).bind fun _ => ?_
  refine Program.Keeps.tryCatch ?_ fun failure => ?_
  · refine keeps.bind fun value => ?_
    refine (Program.keeps_nothing _).bind fun _ => ?_
    refine (Program.keeps_pure _).mono ?_
    intro seen last same _ related _
    rw [same]
    exact related
  · refine (Program.keeps_nothing _).bind fun _ => ?_
    exact Program.keeps_throw _

/-- A service is only created when the guard let its host pass. -/
theorem passes_createServiceAction (data : ServiceCreate) :
    Program.Keeps (fun _ : ProxySession => ()) (createServiceAction environment data)
      (fun _ _ => environment.fails .ensureSafe = none) := by
  have prepared : Program.Keeps (fun _ : ProxySession => ())
      (prepareCreatedService environment data) (fun _ _ => environment.fails .ensureSafe = none) := by
    unfold prepareCreatedService
    refine (Program.keeps_nothing _).bind fun existing => ?_
    refine .ite (fun _ => Program.keeps_throw _) (fun _ => ?_)
    refine (keeps_passed _).bind fun _ => ?_
    exact (Program.keeps_nothing _).mono fun _ _ _ passed _ => passed
  have created : Program.Keeps (fun _ : ProxySession => ()) (createService environment data)
      (fun _ _ => environment.fails .ensureSafe = none) := by
    unfold createService
    exact prepared.bind fun _ => (Program.keeps_nothing _).mono fun _ _ _ passed => passed
  unfold createServiceAction
  refine (keeps_reporting created).bind fun service => ?_
  exact (Program.keeps_nothing _).mono fun _ _ _ passed => passed

/-- An update that names a host only returns a service when the guard let it pass. -/
theorem passes_updateService (serviceId : Uuid) (payload : ServiceUpdate) :
    Program.Keeps (fun _ : ProxySession => ()) (updateService environment serviceId payload)
      (fun _ result => result ≠ none → payload.upstreamHost ≠ none →
        environment.fails .ensureSafe = none) := by
  have guarded : Program.Keeps (fun _ : ProxySession => ()) (ensureUpstreamSafe environment payload)
      (fun _ _ => payload.upstreamHost ≠ none → environment.fails .ensureSafe = none) := by
    unfold ensureUpstreamSafe
    cases payload.upstreamHost with
    | none => exact (Program.keeps_nothing _).mono fun _ _ _ named => absurd rfl named
    | some host => exact (keeps_passed _).mono fun _ _ passed _ => passed
  unfold updateService
  refine (Program.keeps_nothing _).bind fun found => ?_
  cases found with
  | none =>
      refine (Program.keeps_pure _).mono ?_
      intro seen result isNone _ returned
      exact absurd isNone returned
  | some service =>
      have edited : Program.Keeps (fun _ : ProxySession => ())
          (editService environment service payload)
          (fun _ _ => payload.upstreamHost ≠ none → environment.fails .ensureSafe = none) := by
        rw [editService_eq]
        exact guarded.bind fun _ => (Program.keeps_nothing _).mono fun _ _ _ passed => passed
      refine edited.bind fun _ => ?_
      exact (Program.keeps_nothing _).mono fun _ _ _ passed _ _ => passed

/-- The route of an update only answers with a service. -/
theorem passes_updateServiceAction (serviceId : Uuid) (payload : ServiceUpdate) :
    Program.Keeps (fun _ : ProxySession => ()) (updateServiceAction environment serviceId payload)
      (fun _ _ => payload.upstreamHost ≠ none → environment.fails .ensureSafe = none) := by
  have both : Program.Keeps (fun _ : ProxySession => ()) (do
      let before ← findServiceById environment .getService serviceId
      let after ← updateService environment serviceId payload
      pure (before, after)) (fun _ result => result.2 ≠ none → payload.upstreamHost ≠ none →
        environment.fails .ensureSafe = none) := by
    refine (Program.keeps_nothing _).bind fun before => ?_
    refine (passes_updateService serviceId payload).bind fun after => ?_
    refine (Program.keeps_pure _).mono ?_
    intro seen result isResult passed _ returned
    rw [isResult] at returned
    exact passed returned
  unfold updateServiceAction
  refine (keeps_reporting both).bind fun result => ?_
  obtain ⟨before, after⟩ := result
  cases after with
  | none => exact Program.keeps_throw _
  | some service =>
      refine (Program.keeps_nothing _).mono ?_
      intro seen last _ passed
      exact passed (by simp)

private theorem passes_rollbackServiceChangeAction {parse : String → Option Datetime}
    {log : AuditLog}
    {raw : ServiceUpdateFields String} {auditLogId : String} {session : ProxySession}
    (found : session.working.auditLogs.find? (·.id = auditLogId) = some log)
    (supported : log.detail.rollbackPayload? = some raw) :
    Program.Ensures (rollbackServiceChangeAction environment parse auditLogId)
      (fun _ _ => raw.upstreamHost ≠ none → environment.fails .ensureSafe = none)
      (fun _ _ => True) session := by
  unfold rollbackServiceChangeAction getServiceUpdateAuditLog
  simp only [Program.ensures_bind, ensures_query]
  refine ⟨fun _ => ?_, fun _ _ => trivial⟩
  rw [found]
  dsimp only
  by_cases other : log.resourceType ≠ "service" ∨ log.action ≠ "update"
  · rw [if_pos other, Program.ensures_throw]
    trivial
  rw [if_neg other, Program.ensures_pure]
  simp only [getSupportedRollbackPayload, supported, Program.ensures_ofExcept, findServiceById,
    ensures_query]
  refine ⟨?_, fun _ _ => trivial⟩
  intro rollbackPayload isPayload
  cases isPayload
  refine ⟨fun _ => ?_, fun _ _ => trivial⟩
  cases Table.find Service.id session.working.services log.resourceId with
  | none =>
      dsimp only
      rw [Program.ensures_throw]
      trivial
  | some current =>
      dsimp only
      simp only [Program.ensures_bind, Program.ensures_ofExcept]
      refine ⟨?_, fun _ _ => trivial⟩
      intro payload accepted
      have sameHost : payload.upstreamHost = raw.upstreamHost :=
        congrArg ServiceUpdateFields.upstreamHost (validatedUpdate accepted).rest
      refine ((passes_updateService log.resourceId payload).ensures session).mono ?_
        (fun _ _ _ => trivial)
      intro result next passed
      cases result with
      | none =>
          dsimp only
          rw [Program.ensures_throw]
          trivial
      | some updated =>
          dsimp only
          have isSafe := passed.2 (by simp)
          rw [sameHost] at isSafe
          refine ((Program.keeps_nothing _).ensures next).mono ?_ (fun _ _ _ => trivial)
          exact fun _ _ _ => isSafe

end Passing

section Hosts

private theorem host_of_make {host : String} {port : Int} {upstream : Upstream}
    (made : Upstream.make host port = .ok upstream) : upstream.host = host := by
  unfold Upstream.make at made
  split at made
  · cases made
    rfl
  · cases made

/-- An update keeps the host, or stores the one it names. -/
theorem host_of_requestedUpstream {service : Service} {arguments : ServiceUpdateArguments}
    {upstream : Upstream} (requested : service.requestedUpstream arguments = .ok upstream) :
    upstream.host = service.upstream.host ∨ arguments.upstreamHost = some upstream.host := by
  unfold Service.requestedUpstream at requested
  split at requested
  · cases requested
    exact .inl rfl
  · have isHost := host_of_make requested
    cases named : arguments.upstreamHost with
    | none =>
        rw [named] at isHost
        exact .inl isHost
    | some host =>
        rw [named] at isHost
        by_cases empty : host = ""
        · simp only [orText, empty, ↓reduceIte, Option.getD_none] at isHost
          exact .inl isHost
        · simp only [orText, empty, ↓reduceIte, Option.getD_some] at isHost
          exact .inr (by rw [isHost])

private theorem host_of_update {service next : Service} {arguments : ServiceUpdateArguments}
    {generated : String} (updated : service.update arguments generated = .ok next) :
    next.upstream.host = service.upstream.host ∨
      arguments.upstreamHost = some next.upstream.host := by
  simp only [Service.update, bind_eq_ok] at updated
  obtain ⟨moved, isMoved, authed, isAuthed, isAccessed⟩ := updated
  have same : next.upstream = moved.upstream := by
    rw [(Service.updateAccess_ok isAccessed).rest, (Service.updateAuth_ok isAuthed).rest]
  rw [same]
  exact host_of_requestedUpstream (Service.updateTransport_ok isMoved).upstream

private theorem host_of_applied {hash : String → String} {service next : Service}
    {payload : ServiceUpdate} {generated : String}
    (applied : applyServiceUpdatePayload hash service payload generated = .ok next) :
    next.upstream.host = service.upstream.host ∨
      payload.upstreamHost = some (some next.upstream.host) := by
  obtain ⟨users, updated, -, isUpdated, rfl⟩ := applied_ok applied
  rw [assignAuthentikGroup_eq]
  rcases host_of_update isUpdated with same | named
  · exact .inl same
  · refine .inr ?_
    cases submitted : payload.upstreamHost with
    | none => simp [updateArguments, submitted] at named
    | some host =>
        simp only [updateArguments, submitted, Option.getD_some] at named
        rw [named]

private theorem host_of_create {arguments : ServiceCreateArguments} {id : Uuid} {generated : String}
    {service : Service} (created : Service.create arguments id generated = .ok service) :
    service.upstream.host = arguments.upstreamHost := by
  simp only [Service.create, bind_eq_ok] at created
  obtain ⟨_, -, authState, -, transportState, -, ⟨average, burst⟩, -, domain, -, upstream,
    isUpstream, routingMode, -, message, -, moment, -, allowedIps, -, blockedPaths, -,
    customHeaders, -, basicAuthUsers, -, templateIds, -, framePolicy, -, path, -, timeout, -,
    statuses, -, isService⟩ := created
  cases isService
  exact host_of_make isUpstream

private theorem host_of_created {hash : String → String} {data : ServiceCreate} {id : Uuid}
    {generated : String} {service : Service}
    (created : createServiceFromPayload hash data id generated = .ok service) :
    service.upstream.host = data.upstreamHost := by
  simp only [createServiceFromPayload, bind_eq_ok] at created
  obtain ⟨users, -, isCreated⟩ := created
  exact host_of_create isCreated

private theorem upstream_of_resynced {before after : Service} (resynced : Resynced before after) :
    after.upstream = before.upstream := by
  rw [resynced.same]

private theorem host_of_createdImport {item : BackupServiceItem} {id : Uuid} {service : Service}
    (created : createImportedService item id = .ok service) :
    service.upstream.host = item.upstreamHost := by
  obtain ⟨built, isBuilt, rfl⟩ := exists_of_map_ok created
  exact host_of_create isBuilt

private theorem host_of_updatedImport {item : BackupServiceItem} {existing service : Service}
    (updated : updateImportedService existing item = .ok service) :
    service.id = existing.id ∧ (service.upstream.host = existing.upstream.host ∨
      service.upstream.host = item.upstreamHost) := by
  obtain ⟨built, isBuilt, rfl⟩ := exists_of_map_ok updated
  refine ⟨(identity_of_update isBuilt).1, ?_⟩
  rcases host_of_update isBuilt with same | named
  · exact .inl same
  · exact .inr (Option.some.inj named).symm

end Hosts

section Vetting

variable {passes : String → Prop} {before middle after : List Service}

/-- The host of a stored service was stored for it before, or passes. -/
def VettedStep (passes : String → Prop) (before after : List Service) : Prop :=
  ∀ service ∈ after,
    (∃ earlier ∈ before, earlier.id = service.id ∧ earlier.upstream.host = service.upstream.host) ∨
      passes service.upstream.host

theorem VettedStep.refl (services : List Service) : VettedStep passes services services :=
  fun service listed => .inl ⟨service, listed, rfl, rfl⟩

private theorem VettedStep.of_subset (fewer : ∀ service ∈ after, service ∈ before) :
    VettedStep passes before after :=
  fun service listed => .inl ⟨service, fewer service listed, rfl, rfl⟩

/-- Saving a service that keeps its host, or one whose host passes. -/
theorem VettedStep.save (vetted : VettedStep passes before middle) {service : Service}
    (allowed : (∃ earlier ∈ middle, earlier.id = service.id ∧
      earlier.upstream.host = service.upstream.host) ∨ passes service.upstream.host) :
    VettedStep passes before (Table.save Service.id middle service) := by
  intro saved isSaved
  rcases Table.mem_save.mp isSaved with rfl | ⟨stays, -⟩
  · rcases allowed with ⟨earlier, listed, sameId, sameHost⟩ | isAllowed
    · rw [← sameId, ← sameHost]
      exact vetted earlier listed
    · exact .inr isAllowed
  · exact vetted saved stays

private theorem VettedStep.saveEdited {service edited : Service} (listed : service ∈ before)
    (sameId : edited.id = service.id)
    (host : edited.upstream.host = service.upstream.host ∨ passes edited.upstream.host) :
    VettedStep passes before (Table.save Service.id before edited) := by
  refine (VettedStep.refl before).save ?_
  rcases host with sameHost | isAllowed
  · exact .inl ⟨service, listed, sameId.symm, sameHost.symm⟩
  · exact .inr isAllowed

variable {environment : ProxyEnvironment}

/-- An entry whose host passes keeps the step vetted. -/
theorem vetted_upsertService {item : BackupServiceItem} (isSafe : passes item.upstreamHost)
    (before : List Service) :
    Session.Transacts (upsertService environment item) (fun first _ last =>
      VettedStep passes before first.1.services → VettedStep passes before last.1.services) := by
  refine (transacts_upsertService item).mono ?_
  rintro first _ last ⟨service, origin, -, written⟩ vetted
  rw [written]
  refine vetted.save ?_
  rcases origin with ⟨existing, listed, -, updated⟩ | ⟨-, created⟩
  · obtain ⟨sameId, sameHost | isEntry⟩ := host_of_updatedImport updated
    · exact .inl ⟨existing, listed, sameId.symm, sameHost.symm⟩
    · rw [isEntry]
      exact .inr isSafe
  · rw [host_of_createdImport created]
    exact .inr isSafe

/-- An import whose entries pass is vetted. -/
theorem vetted_importAll (mode : ImportMode) {payload : BackupPayload}
    (allSafe : ∀ item ∈ payload.services, passes item.upstreamHost) :
    Session.Transacts (importAll environment mode payload) (fun first _ last =>
      VettedStep passes first.1.services last.1.services) := by
  have keeps : ∀ before : List Service, Session.Transacts (importAll environment mode payload)
      (fun first _ last => first.1.services = before →
        VettedStep passes before last.1.services) := by
    intro before
    refine (transacts_importAll (fun database => VettedStep passes before database.services) mode
      (fun item listed during => vetted_upsertService (allSafe item listed) before)
      (fun item _ during => ?_)).mono ?_
    · refine (transacts_upsertRedirect item).mono ?_
      rintro first _ last ⟨redirectHost, -, written⟩ vetted
      rw [written]
      exact vetted
    · intro first _ last preserved isBefore
      refine preserved ?_
      split
      · exact VettedStep.of_subset (by simp)
      · rw [isBefore]
        exact VettedStep.refl before
  constructor
  intro session
  exact ((keeps session.working.services).ensures session).mono
    (fun _ _ related => ⟨related.1, related.2 rfl⟩) (fun _ _ same => same)

end Vetting

section Runs

variable {parse : String → Option Datetime} {resolver : Resolver}

/-- A session, and the settings that were in force when a service came to have a host. -/
structure GuardedState where
  session : ProxySession
  storedUnder : Uuid → String → SystemSettings

/-- What a step under these settings remembers: a host that the service has already keeps
the settings it was stored under. -/
def GuardedState.attributed (state : GuardedState) (settings : SystemSettings) (id : Uuid)
    (host : String) : SystemSettings :=
  if state.session.stored.services.any fun service => service.id = id ∧ service.upstream.host = host
  then state.storedUnder id host
  else settings

/-- The states that operations reach from an installation without services, each under the
settings then in force. -/
inductive GuardedRun (parse : String → Option Datetime) (resolver : Resolver)
    (allowed : SystemSettings → GuardedOperation → Prop) : GuardedState → Prop where
  | empty {state : GuardedState} (noServices : state.session.stored.services = []) :
      GuardedRun parse resolver allowed state
  | step {state : GuardedState} (reached : GuardedRun parse resolver allowed state)
      (settings : SystemSettings) (operation : GuardedOperation)
      (isAllowed : allowed settings operation) :
      GuardedRun parse resolver allowed
        { session := Program.finalState (operation.run parse settings resolver) state.session
          storedUnder := state.attributed settings }

/-- Every stored host passes the guard under the settings it was stored under. -/
def Vetted (resolver : Resolver) (state : GuardedState) : Prop :=
  ∀ service ∈ state.session.stored.services,
    ensureSafe (state.storedUnder service.id service.upstream.host) resolver
      (some service.upstream.host) = .ok ()

/-- The hosts that the entries of an import bring pass the guard. -/
def ImportsAreSafe (resolver : Resolver) (settings : SystemSettings) : GuardedOperation → Prop
  | .operate (.importBackup _ _ payload) =>
      ∀ item ∈ payload.services, ensureSafe settings resolver (some item.upstreamHost) = .ok ()
  | _ => True

/-- The hosts that pass under these settings. -/
def Passes (settings : SystemSettings) (resolver : Resolver) (host : String) : Prop :=
  ensureSafe settings resolver (some host) = .ok ()

variable {settings : SystemSettings} {session : ProxySession}

/-- A request whose body leaves the services vetted, when the guard answered in it. -/
theorem vetted_request {α : Type} {environment : ProxyEnvironment} {body : ProxyProgram α}
    {relation : Database × Outside → α → Database × Outside → Prop} {passed : Prop}
    {passes : String → Prop} (transacts : Session.Transacts body relation)
    (keeps : Program.Keeps (fun _ : ProxySession => ()) body (fun _ _ => passed))
    (implies : passed → ∀ value after, relation (session.stored, session.outside) value after →
      VettedStep passes session.stored.services after.1.services) :
    Program.Ensures (request environment body)
      (fun _ next => VettedStep passes session.stored.services next.stored.services)
      (fun _ next => VettedStep passes session.stored.services next.stored.services) session := by
  refine ((ensures_request_of_transacts transacts session).and
    ((keeps_request keeps).ensures session)).mono ?_ ?_
  · intro value next both
    exact implies both.2.2 value _ both.1
  · intro failure next both
    rw [both.1]
    exact VettedStep.refl _

/-- Operations that leave the services alone. -/
theorem vetted_of_spares {operation : Operation} {passes : String → Prop}
    (spares : operation.SparesServices) :
    Program.Ensures operation.run
      (fun _ next => VettedStep passes session.stored.services next.stored.services)
      (fun _ next => VettedStep passes session.stored.services next.stored.services) session := by
  refine (ensures_spared spares session).mono ?_ ?_
  · intro _ next same
    rw [same]
    exact VettedStep.refl _
  · intro _ next same
    rw [same]
    exact VettedStep.refl _

/-- An edited service has its old host, or the one its payload names. -/
theorem Edited.host {environment : ProxyEnvironment} {service : Service}
    {payload : ServiceUpdate} {database : Database} {edited : Service × List MiddlewareTemplate}
    (isEdited : Edited environment service payload database edited) :
    edited.1.id = service.id ∧ (edited.1.upstream.host = service.upstream.host ∨
      payload.upstreamHost = some (some edited.1.upstream.host)) := by
  obtain ⟨applied, isApplied, resynced⟩ := isEdited.applied
  rw [upstream_of_resynced resynced]
  exact ⟨resynced.same.id.trans (identity_of_applied isApplied).1, host_of_applied isApplied⟩

/-- An edit under the guard stores a host the service had or one that passes. -/
theorem vetted_edit {environment : ProxyEnvironment} {service : Service}
    {payload : ServiceUpdate} {database : Database} {edited : Service × List MiddlewareTemplate}
    (isEdited : Edited environment service payload database edited)
    (listed : service ∈ session.stored.services)
    (passed : payload.upstreamHost ≠ none →
      ensureSafe settings resolver payload.upstreamHost.join = .ok ()) :
    VettedStep (Passes settings resolver) session.stored.services
      (Table.save Service.id session.stored.services edited.1) := by
  obtain ⟨sameId, sameHost | named⟩ := isEdited.host
  · exact VettedStep.saveEdited listed sameId (.inl sameHost)
  · refine VettedStep.saveEdited listed sameId (.inr ?_)
    have isSafe := passed (by simp [named])
    rw [named] at isSafe
    exact isSafe

private theorem vetted_operation {operation : Operation}
    (allowed : ImportsAreSafe resolver settings (.operate operation)) :
    Program.Ensures (operation.guarding settings resolver).run
      (fun _ next => VettedStep (Passes settings resolver) session.stored.services
        next.stored.services)
      (fun _ next => VettedStep (Passes settings resolver) session.stored.services
        next.stored.services) session := by
  cases operation with
  | createService environment data =>
      unfold Operation.guarding Operation.run
      simp only [Program.ensures_bind, Program.ensures_pure]
      refine vetted_request (transacts_createServiceAction data)
        (passes_createServiceAction data) ?_
      rintro passed service after ⟨prepared, isPrepared, resynced, left⟩
      rw [left]
      refine (VettedStep.refl _).save (.inr ?_)
      rw [upstream_of_resynced resynced, host_of_created isPrepared.created]
      exact safe_of_passed passed
  | updateService environment serviceId payload =>
      unfold Operation.guarding Operation.run
      simp only [Program.ensures_bind, Program.ensures_pure]
      refine vetted_request (transacts_updateServiceAction serviceId payload)
        (passes_updateServiceAction serviceId payload) ?_
      rintro passed result after ⟨service, edited, found, isEdited, -, left⟩
      rw [left]
      exact vetted_edit isEdited (Table.mem_of_find found).1
        fun named => safe_of_passed (passed named)
  | deleteService environment serviceId =>
      unfold Operation.guarding Operation.run
      refine vetted_request (transacts_deleteServiceAction serviceId) (Program.keeps_nothing _) ?_
      rintro _ _ after left
      rw [left]
      exact VettedStep.of_subset fun service listed => (Table.mem_delete.mp listed).1
  | createRedirectHost environment data => exact vetted_of_spares trivial
  | updateRedirectHost environment redirectId data => exact vetted_of_spares trivial
  | deleteRedirectHost environment redirectId => exact vetted_of_spares trivial
  | createTemplate environment data => exact vetted_of_spares trivial
  | updateTemplate environment templateId data => exact vetted_of_spares trivial
  | deleteTemplate environment templateId => exact vetted_of_spares trivial
  | importBackup environment mode payload =>
      unfold Operation.guarding Operation.run Backup.importBackup
      simp only [Program.ensures_bind, Program.ensures_pure]
      have allSafe : ∀ item ∈ payload.services, Passes settings resolver item.upstreamHost := allowed
      refine vetted_request (transacts_importAction (vetted_importAll mode allSafe))
        (Program.keeps_nothing _) ?_
      exact fun _ _ _ vetted => vetted

/-- A rollback, with the passing of the guard when its record names a host. -/
theorem transacts_rollbackServiceChangeAction {environment : ProxyEnvironment}
    (auditLogId : String) :
    Session.Transacts (rollbackServiceChangeAction environment parse auditLogId)
      (fun before _ after => ∃ log raw payload service edited,
        before.1.auditLogs.find? (·.id = auditLogId) = some log ∧
          log.detail.rollbackPayload? = some raw ∧ ServiceUpdate.validate parse raw = .ok payload ∧
          Table.find Service.id before.1.services log.resourceId = some service ∧
          Edited environment service payload before.1 edited ∧
          (raw.upstreamHost ≠ none → environment.fails .ensureSafe = none) ∧
          after.1.services = Table.save Service.id before.1.services edited.1) := by
  constructor
  intro session
  have passed : Program.Ensures (rollbackServiceChangeAction environment parse auditLogId)
      (fun _ _ => ∀ log raw, session.working.auditLogs.find? (·.id = auditLogId) = some log →
        log.detail.rollbackPayload? = some raw → raw.upstreamHost ≠ none →
          environment.fails .ensureSafe = none) (fun _ _ => True) session := by
    have anyway := (Program.keeps_nothing
      (rollbackServiceChangeAction environment parse auditLogId)).ensures session
    cases isLog : session.working.auditLogs.find? (·.id = auditLogId) with
    | none =>
        refine anyway.mono ?_ fun _ _ _ => trivial
        intro _ _ _ log raw found
        cases found
    | some log =>
        cases isRaw : log.detail.rollbackPayload? with
        | none =>
            refine anyway.mono ?_ fun _ _ _ => trivial
            intro _ _ _ other raw found supported
            cases found
            rw [isRaw] at supported
            cases supported
        | some raw =>
            refine (passes_rollbackServiceChangeAction isLog isRaw).mono ?_ fun _ _ _ => trivial
            intro _ _ isPassed other submitted found supported
            cases found
            rw [isRaw] at supported
            cases supported
            exact isPassed
  refine ((ensures_rollbackServiceChangeAction auditLogId).and passed).mono ?_
    fun _ _ raised => raised.1.1
  rintro result next ⟨⟨log, raw, payload, service, edited, isLog, isRaw, accepted, found, isEdited,
    -, stored, keys, working⟩, isPassed⟩
  refine ⟨stored, log, raw, payload, service, edited, isLog, isRaw, accepted, found, isEdited,
    isPassed log raw isLog isRaw, ?_⟩
  show next.working.services = _
  rw [working]
  rfl

/-- One step stores only hosts that its service had, or that pass the guard. -/
theorem vetted_step {operation : GuardedOperation}
    (allowed : ImportsAreSafe resolver settings operation) :
    VettedStep (Passes settings resolver) session.stored.services
      (Program.finalState (operation.run parse settings resolver) session).stored.services := by
  refine Program.Ensures.finalState (fun next : ProxySession =>
    VettedStep (Passes settings resolver) session.stored.services next.stored.services) ?_
  cases operation with
  | operate operation => exact vetted_operation allowed
  | rollbackService environment auditLogId =>
      unfold GuardedOperation.run
      simp only [Program.ensures_bind, Program.ensures_get, Program.ensures_pure]
      refine vetted_request (transacts_rollbackServiceChangeAction auditLogId)
        (Program.keeps_nothing _) ?_
      rintro _ result after ⟨log, raw, payload, service, edited, isLog, isRaw, accepted, found,
        isEdited, passed, left⟩
      rw [left]
      have sameHost : payload.upstreamHost = raw.upstreamHost :=
        congrArg ServiceUpdateFields.upstreamHost (validatedUpdate accepted).rest
      have isHost : rollbackHost session.stored auditLogId = raw.upstreamHost.join := by
        simp only [rollbackHost, isLog, Option.bind_eq_bind, Option.bind_some, isRaw]
      refine vetted_edit isEdited (Table.mem_of_find found).1 fun named => ?_
      rw [sameHost] at named ⊢
      rw [← isHost]
      exact safe_of_passed (passed named)

/-- **Runs whose imports are safe are vetted.** When every entry of every import passes the
guard under the settings in force, then in every state a run reaches every stored upstream
host passes the guard under the settings that were in force when it was stored. -/
theorem vetted_of_safeImports {state : GuardedState}
    (run : GuardedRun parse resolver (ImportsAreSafe resolver) state) : Vetted resolver state := by
  induction run with
  | empty noServices =>
      intro service listed
      rw [noServices] at listed
      cases listed
  | @step state reached settings operation isAllowed ih =>
      intro service listed
      show ensureSafe (state.attributed settings _ _) resolver _ = _
      unfold GuardedState.attributed
      split
      · rename_i stored
        obtain ⟨earlier, isStored, same⟩ := List.any_eq_true.mp stored
        obtain ⟨sameId, sameHost⟩ := of_decide_eq_true same
        have before := ih earlier isStored
        rwa [sameId, sameHost] at before
      · rename_i unknown
        rcases vetted_step isAllowed service listed with ⟨earlier, isStored, sameId, sameHost⟩ | passes
        · refine absurd (List.any_eq_true.mpr ⟨earlier, isStored, ?_⟩) unknown
          exact decide_eq_true ⟨sameId, sameHost⟩
        · exact passes

/-- An allowlist that only knows `example.com`. -/
def allowExampleOnly : SystemSettings
  | "upstream_allowlist_enabled" => some "true"
  | "upstream_allowed_domain_suffixes" => some "example.com"
  | _ => none

def noAddresses : Resolver := fun _ => .ok []

/-- A backup document of one service whose upstream is `host`. -/
def importOf (host : String) : GuardedOperation :=
  .operate (.importBackup {} .merge { services := [
    { name := "shop", domain := "shop.example.com", upstreamHost := host, upstreamPort := 8080
      authEnabled := false }] })

/-- Nothing stored. -/
def beforeImport : GuardedState := ⟨emptySession, fun _ _ => allowExampleOnly⟩

/-- The state after one more operation, under these settings. -/
def GuardedState.after (state : GuardedState) (step : SystemSettings × GuardedOperation) :
    GuardedState where
  session := Program.finalState (step.2.run (fun _ => none) step.1 noAddresses) state.session
  storedUnder := state.attributed step.1

/-- The state after operations, from nothing stored. -/
def afterGuarded (steps : List (SystemSettings × GuardedOperation)) : GuardedState :=
  steps.foldl GuardedState.after beforeImport

private theorem run_afterGuarded {allowed : SystemSettings → GuardedOperation → Prop}
    {steps : List (SystemSettings × GuardedOperation)}
    (areAllowed : ∀ step ∈ steps, allowed step.1 step.2) :
    GuardedRun (fun _ => none) noAddresses allowed (afterGuarded steps) :=
  List.foldlRecOn steps GuardedState.after (.empty rfl) fun _ reached step listed =>
    reached.step step.1 step.2 (areAllowed step listed)

private theorem attributed_beforeImport (id : Uuid) (host : String) :
    beforeImport.attributed allowExampleOnly id host = allowExampleOnly := by
  unfold GuardedState.attributed
  split <;> rfl

/-- A service that is created before there is an allowlist, a document of two services under one,
and an update that the allowlist refuses and one that it lets pass. -/
def guardedOperations : List (SystemSettings × GuardedOperation) :=
  [(fun _ => none, .operate (.createService { newId := ⟨9⟩ }
      { name := "wiki", domain := "wiki.example.com", upstreamHost := "wiki.elsewhere.test"
        upstreamPort := 8080, authMode := "none" })),
    (allowExampleOnly, .operate (.importBackup {} .merge { services := [
      { name := "shop", domain := "shop.example.com", upstreamHost := "app.example.com"
        upstreamPort := 8080, authEnabled := false },
      { name := "store", domain := "store.example.com", upstreamHost := "example.com"
        upstreamPort := 8080, authEnabled := false }] })),
    (allowExampleOnly, .operate (.updateService { auditLogId := "2" } ⟨1⟩
      { upstreamHost := some (some "app.elsewhere.test") })),
    (allowExampleOnly, .operate (.updateService { auditLogId := "3" } ⟨9⟩
      { upstreamHost := some (some "wiki.example.com") }))]

theorem vetted_of_safeImports_example :
    Vetted noAddresses (afterGuarded guardedOperations) ∧
      (afterGuarded guardedOperations).session.stored.services.map (·.upstream.host) =
        ["wiki.example.com", "app.example.com", "example.com"] := by
  refine ⟨vetted_of_safeImports (run_afterGuarded ?_), by decide +kernel⟩
  simp only [guardedOperations, List.forall_mem_cons]
  refine ⟨trivial, ?_, trivial, trivial, by simp⟩
  show ∀ item ∈ _, _
  decide +kernel

/-- An import stores a host that the allowlist refuses. -/
theorem not_vetted :
    ¬ ∀ (parse : String → Option Datetime) (resolver : Resolver) (state : GuardedState),
      GuardedRun parse resolver (fun _ _ => True) state → Vetted resolver state := by
  intro always
  let imported := afterGuarded [(allowExampleOnly, importOf "app.elsewhere.test")]
  have vetted := always (fun _ => none) noAddresses imported (run_afterGuarded (by simp))
  have stored : ∃ service ∈ imported.session.stored.services,
      service.upstream.host = "app.elsewhere.test" := by
    decide +kernel
  obtain ⟨service, listed, isHost⟩ := stored
  have passes := vetted service listed
  have sameSettings : imported.storedUnder service.id service.upstream.host = allowExampleOnly :=
    attributed_beforeImport service.id service.upstream.host
  rw [sameSettings, isHost] at passes
  revert passes
  decide +kernel

end Runs

end TraefikManager.Proxy
