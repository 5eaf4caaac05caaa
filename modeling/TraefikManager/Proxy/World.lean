import TraefikManager.Foundation.Table
import TraefikManager.Foundation.Transaction
import TraefikManager.Proxy.Remote
import TraefikManager.Proxy.ServiceAudit
import TraefikManager.Traefik.FileProvider

/-!
# Database, directory and failures of the proxy calls

A call works in a database session, on the configuration directory and on the
remote services. At each step it waits for the database or a remote service, or
touches a file; any of these steps may raise instead, and then has changed
nothing.
-/

namespace TraefikManager.Proxy

open Foundation Domain Traefik

/-- The tables of the proxy configuration. A row is kept as the entity it loads into. -/
structure Database where
  services : List Service := []
  redirectHosts : List RedirectHost := []
  middlewareTemplates : List MiddlewareTemplate := []
  auditLogs : List AuditLog := []

/-- What no rollback of a database session touches. -/
structure Outside where
  directory : Directory := Directory.empty
  authentik : Authentik := {}
  dnsRecords : List DnsRecord := []

/-- A database session beside the directory and the remote services. -/
abbrev ProxySession := Session Database Outside

abbrev ProxyProgram : Type → Type := Program PyException ProxySession

/-- The session of an installation without any data. -/
def emptySession : ProxySession := ⟨{}, {}, {}⟩

/-- What a call waits for, and the files it touches. -/
inductive Step where
  | getService
  | findServiceById
  | findServiceByDomain
  | findAllServices
  | saveService
  | deleteServiceRow
  | getTemplate
  | findTemplateById
  | findTemplatesByIds
  | findAllTemplates
  | saveTemplate
  | deleteTemplateRow
  | getRedirectHost
  | findRedirectHostById
  | findRedirectHostByDomain
  | findAllRedirectHosts
  | saveRedirectHost
  | deleteRedirectHostRow
  | findAuditLog
  | flushAuditLog
  | commit
  | ensureSafe
  | createProxyProvider
  | createApplication
  | getGroup
  | getApplicationBySlug
  | createGroupPolicy
  | bindPolicyToApplication
  | deletePolicyBinding
  | deletePolicy
  | deleteApplication
  | deleteProvider
  | upsertServiceRecord
  | deleteServiceRecord
  | writeServiceFile
  | deleteServiceFile
  | writeRedirectFile
  | deleteRedirectFile
  | writeSharedTemplates
  | writeAuthentikMiddleware
  | deleteAuthentikMiddleware
  deriving DecidableEq, Repr

/-- The loops whose rounds may fail one by one. -/
inductive Loop where
  | rewriteServices
  | deleteServices
  | deleteRedirectHosts
  | importServices
  | importRedirectHosts
  deriving DecidableEq, Repr

/-- What surrounds one call: the deployment settings, the steps that raise, what is
drawn at random, the keys the remote services give to new objects, and the groups
Authentik knows. -/
structure ProxyEnvironment where
  settings : Settings := defaultSettings
  fails : Step → Option PyException := fun _ => none
  failsInRound : Loop → Nat → Step → Option PyException := fun _ _ _ => none
  newId : Uuid := ⟨1⟩
  newIdInRound : Loop → Nat → Uuid := fun _ round => ⟨BitVec.ofNat 128 round⟩
  generatedKey : String := ""
  hashBasicAuthPassword : String → String := id
  providerPk : String := "1"
  applicationPk : String := "1"
  policyPk : String := "1"
  bindingPk : String := "1"
  groupName : String → Option String := fun _ => none
  zoneConfigs : List CloudflareZoneConfig := []
  dnsRecordId : String := "1"
  auditLogId : String := "1"

/-- What surrounds one round of a loop of the call. -/
def ProxyEnvironment.inRound (environment : ProxyEnvironment) (loop : Loop) (round : Nat) :
    ProxyEnvironment :=
  { environment with fails := environment.failsInRound loop round
                     newId := environment.newIdInRound loop round }

section Primitives

variable {α : Type} (environment : ProxyEnvironment)

/-- Reach a step of the call, which may raise. -/
def perform (step : Step) : ProxyProgram PUnit :=
  match environment.fails step with
  | some failure => throw failure
  | none => pure ⟨⟩

/-- A query on the open transaction. -/
def query (step : Step) (read : Database → α) : ProxyProgram α := do
  perform environment step
  let session ← get
  pure (read session.working)

/-- A write in the open transaction. -/
def write (step : Step) (change : Database → Database) : ProxyProgram PUnit := do
  perform environment step
  modify fun session => { session with working := change session.working }

/-- A change outside the database: of a file, or of a remote object. -/
def touch (step : Step) (change : Outside → Outside) : ProxyProgram PUnit := do
  perform environment step
  modify fun session => { session with outside := change session.outside }

/-- A file operation. -/
def touchFile (step : Step) (change : Directory → Directory) : ProxyProgram PUnit :=
  touch environment step fun outside => { outside with directory := change outside.directory }

/-- A request to Authentik. -/
def touchAuthentik (step : Step) (change : Authentik → Authentik) : ProxyProgram PUnit :=
  touch environment step fun outside => { outside with authentik := change outside.authentik }

/-- `session.commit()`. -/
def commit : ProxyProgram PUnit := do
  perform environment .commit
  modify fun session => { session with stored := session.working }

/-- `audit_service.record`. An error of its flush is swallowed where it occurs; it
leaves the transaction unusable, so that the call fails at its commit. -/
def recordAudit (action resourceType : String) (resourceId : Uuid) (detail : AuditDetail) :
    ProxyProgram PUnit :=
  write environment .flushAuditLog fun database =>
    { database with
      auditLogs := database.auditLogs ++
        [{ id := environment.auditLogId, action, resourceType, resourceId, detail }] }

/-- A request: its body in a transaction that ends with a commit. -/
def request (body : ProxyProgram α) : ProxyProgram α :=
  Session.transaction (commit environment) body

variable {environment}

@[simp] theorem ensures_perform {step : Step} {normal : PUnit → ProxySession → Prop}
    {raised : PyException → ProxySession → Prop} :
    Program.Ensures (perform environment step) normal raised = fun session =>
      (environment.fails step = none → normal ⟨⟩ session) ∧
        ∀ failure, environment.fails step = some failure → raised failure session := by
  funext session
  unfold perform
  cases environment.fails step <;> simp

@[simp] theorem ensures_query {step : Step} {read : Database → α}
    {normal : α → ProxySession → Prop} {raised : PyException → ProxySession → Prop} :
    Program.Ensures (query environment step read) normal raised = fun session =>
      (environment.fails step = none → normal (read session.working) session) ∧
        ∀ failure, environment.fails step = some failure → raised failure session := by
  simp [query]

@[simp] theorem ensures_write {step : Step} {change : Database → Database}
    {normal : PUnit → ProxySession → Prop} {raised : PyException → ProxySession → Prop} :
    Program.Ensures (write environment step change) normal raised = fun session =>
      (environment.fails step = none →
        normal ⟨⟩ { session with working := change session.working }) ∧
        ∀ failure, environment.fails step = some failure → raised failure session := by
  simp [write]

@[simp] theorem ensures_touch {step : Step} {change : Outside → Outside}
    {normal : PUnit → ProxySession → Prop} {raised : PyException → ProxySession → Prop} :
    Program.Ensures (touch environment step change) normal raised = fun session =>
      (environment.fails step = none →
        normal ⟨⟩ { session with outside := change session.outside }) ∧
        ∀ failure, environment.fails step = some failure → raised failure session := by
  simp [touch]

@[simp] theorem ensures_touchFile {step : Step} {change : Directory → Directory}
    {normal : PUnit → ProxySession → Prop} {raised : PyException → ProxySession → Prop} :
    Program.Ensures (touchFile environment step change) normal raised = fun session =>
      (environment.fails step = none →
        normal ⟨⟩ { session with
          outside := { session.outside with directory := change session.outside.directory } }) ∧
        ∀ failure, environment.fails step = some failure → raised failure session := by
  simp [touchFile]

@[simp] theorem ensures_commit {normal : PUnit → ProxySession → Prop}
    {raised : PyException → ProxySession → Prop} :
    Program.Ensures (commit environment) normal raised = fun session =>
      (environment.fails .commit = none → normal ⟨⟩ { session with stored := session.working }) ∧
        ∀ failure, environment.fails .commit = some failure → raised failure session := by
  simp [commit]

/-- What the body of a request leaves in its transaction is stored when the request
returns. When it raises, nothing is stored, and outside the database the request left
what its body left. -/
theorem ensures_request {body : ProxyProgram α} (post : α → Database → Outside → Prop)
    (failed : Outside → Prop) {session : ProxySession}
    (ensured : Program.Ensures body
      (fun value next => next.stored = session.stored ∧ post value next.working next.outside)
      (fun _ next => next.stored = session.stored ∧ failed next.outside) session.rolledBack) :
    Program.Ensures (request environment body)
      (fun value next => post value next.stored next.outside)
      (fun _ next => next.stored = session.stored ∧ (failed next.outside ∨
        environment.fails .commit ≠ none ∧ ∃ value working, post value working next.outside))
      session := by
  unfold request
  rw [Session.ensures_transaction]
  refine ensured.mono ?_ ?_
  · rintro value next ⟨same, left⟩
    simp only [ensures_commit]
    refine ⟨fun _ => left, fun failure raised => ⟨same, .inr ⟨?_, value, next.working, left⟩⟩⟩
    simp [raised]
  · exact fun _ next ⟨same, left⟩ => ⟨same, .inl left⟩

/-- A request whose body transacts stores what the body left, or nothing. -/
theorem ensures_request_of_transacts {body : ProxyProgram α}
    {relation : Database × Outside → α → Database × Outside → Prop}
    (transacts : Session.Transacts body relation) (session : ProxySession) :
    Program.Ensures (request environment body)
      (fun value next =>
        relation (session.stored, session.outside) value (next.stored, next.outside))
      (fun _ next => next.stored = session.stored) session := by
  refine (ensures_request
    (fun value database outside =>
      relation (session.stored, session.outside) value (database, outside))
    (fun _ => True) ((transacts.ensures session.rolledBack).mono ?_ ?_)).mono
      (fun _ _ related => related) (fun _ _ raised => raised.1)
  · exact fun _ _ related => related
  · exact fun _ _ same => ⟨same, trivial⟩

theorem transacts_perform (step : Step) :
    Session.Transacts (perform environment step) (fun before _ after => after = before) := by
  constructor
  intro session
  simp

theorem transacts_query (step : Step) (read : Database → α) :
    Session.Transacts (query environment step read) (fun before value after =>
      value = read before.1 ∧ after = before) := by
  constructor
  intro session
  simp [Session.contents]

theorem transacts_write (step : Step) (change : Database → Database) :
    Session.Transacts (write environment step change) (fun before _ after =>
      after = (change before.1, before.2)) := by
  constructor
  intro session
  simp [Session.contents]

theorem transacts_touchFile (step : Step) (change : Directory → Directory) :
    Session.Transacts (touchFile environment step change) (fun before _ after =>
      after = (before.1, { before.2 with directory := change before.2.directory })) := by
  constructor
  intro session
  simp [Session.contents]

end Primitives

section Visible

/-- A directory without the files that belong to no service and no redirect host. -/
def published (directory : Directory) : Directory :=
  ⟨fun name => if name ∈ reservedFiles then none else directory.file? name⟩

/-- Everything but the remote services. -/
def onDisk (session : ProxySession) : Database × Database × Directory :=
  (session.stored, session.working, session.outside.directory)

/-- What the steps before a service's own file leave alone. -/
def visible (session : ProxySession) : Database × Database × Directory :=
  (session.stored, session.working, published session.outside.directory)

/-- The database alone. -/
def tables (session : ProxySession) : Database × Database := (session.stored, session.working)

private theorem file?_published {directory : Directory} {name : String}
    (own : name ∉ reservedFiles) :
    (published directory).file? name = directory.file? name := if_neg own

/-- Two directories publish the same when they agree off the reserved files. -/
theorem published_eq_iff {first second : Directory} :
    published first = published second ↔
      ∀ name, name ∉ reservedFiles → first.file? name = second.file? name := by
  constructor
  · intro same name own
    rw [← file?_published own, same, file?_published own]
  · intro same
    ext1 name
    by_cases own : name ∈ reservedFiles
    · simp [published, own]
    · rw [file?_published own, file?_published own, same name own]

variable {α : Type} {environment : ProxyEnvironment}

theorem keeps_perform {γ : Type} {view : ProxySession → γ} (step : Step) :
    Program.Keeps view (perform environment step) (fun _ _ => True) := by
  constructor
  intro session
  simp

/-- A query answers from the open transaction. -/
theorem keeps_query (step : Step) (read : Database → α) :
    Program.Keeps onDisk (query environment step read)
      (fun seen value => value = read seen.2.1) := by
  constructor
  intro session
  simp [onDisk]

/-- A request to a remote service is not on disk. -/
theorem keeps_touch (step : Step) {change : Outside → Outside}
    (unseen : ∀ outside, (change outside).directory = outside.directory) :
    Program.Keeps onDisk (touch environment step change) (fun _ _ => True) := by
  constructor
  intro session
  simp [onDisk, unseen]

theorem keeps_touchAuthentik (step : Step) (change : Authentik → Authentik) :
    Program.Keeps onDisk (touchAuthentik environment step change) (fun _ _ => True) :=
  keeps_touch step fun _ => rfl

/-- Touching a reserved file is not visible. -/
theorem keeps_touchFile (step : Step) {change : Directory → Directory}
    (unseen : ∀ directory, published (change directory) = published directory) :
    Program.Keeps visible (touchFile environment step change) (fun _ _ => True) := by
  constructor
  intro session
  simp [visible, unseen]

/-- What is kept on disk stays visible. -/
theorem keeps_visible {program : ProxyProgram α} (post : Database → α → Prop)
    (keeps : Program.Keeps onDisk program (fun seen value => post seen.2.1 value)) :
    Program.Keeps visible program (fun seen value => post seen.2.1 value) :=
  Program.Keeps.coarsen
    (fun seen : Database × Database × Directory => (seen.1, seen.2.1, published seen.2.2))
    (fun seen value => post seen.2.1 value) keeps

/-- What stays visible keeps the database. -/
theorem keeps_tables {program : ProxyProgram α} (post : Database → α → Prop)
    (keeps : Program.Keeps visible program (fun seen value => post seen.2.1 value)) :
    Program.Keeps tables program (fun seen value => post seen.2 value) :=
  Program.Keeps.coarsen
    (fun seen : Database × Database × Directory => (seen.1, seen.2.1))
    (fun seen value => post seen.2 value) keeps

theorem published_writeSharedMiddlewareTemplates (directory : Directory)
    (templates : List MiddlewareTemplate) :
    published (directory.writeSharedMiddlewareTemplates templates) = published directory := by
  rw [published_eq_iff]
  intro name own
  have other : name ≠ sharedMiddlewareTemplatesFile := by
    rintro rfl
    exact own (by simp [reservedFiles])
  unfold Directory.writeSharedMiddlewareTemplates
  split <;> simp [other]

theorem published_writeAuthentikMiddleware (directory : Directory) :
    published directory.writeAuthentikMiddleware = published directory := by
  rw [published_eq_iff]
  intro name own
  have other : name ≠ authentikMiddlewareFile := by
    rintro rfl
    exact own (by simp [reservedFiles])
  simp [Directory.writeAuthentikMiddleware, other]

theorem published_deleteAuthentikMiddlewareIfUnused (directory : Directory) (remaining : Nat) :
    published (directory.deleteAuthentikMiddlewareIfUnused remaining) = published directory := by
  rw [published_eq_iff]
  intro name own
  have other : name ≠ authentikMiddlewareFile := by
    rintro rfl
    exact own (by simp [reservedFiles])
  unfold Directory.deleteAuthentikMiddlewareIfUnused
  split <;> simp [other]

end Visible

end TraefikManager.Proxy
