import TraefikManager.Auth.AuthSession
import TraefikManager.Backup.PreviewAccuracy

/-!
# The forward authentication of token services

Traefik asks the verify endpoint whether to let a request through. The endpoint looks up
the service stored under exactly the host the client wrote and compares its key, or falls
back to the session of the request. Traefik itself finds the service of a host without
regard to case, and without the port.
-/

namespace TraefikManager.Proxy

open Foundation Domain Traefik Backup Auth

section Handler

structure HttpResponse where
  statusCode : Nat
  headers : List (String × String) := []
  deriving DecidableEq, Repr

variable (environment : AccessEnvironment) (request : HttpRequest)

/-- Whether every header can be encoded. -/
def encodesHeaders (headers : List (String × String)) : Bool :=
  headers.all fun header => environment.encodesHeader header.2

/-- A response, whose headers are encoded when it is built. -/
def respond (statusCode : Nat) (headers : List (String × String)) :
    Except PyException HttpResponse :=
  if encodesHeaders environment headers then .ok { statusCode, headers }
  else .error (.valueError "'latin-1' codec can't encode characters")

/-- The key that a request carries. -/
def bearerToken : Option String :=
  let authHeader := (request.headers "authorization").getD ""
  if Text.startsWith "Bearer " authHeader then some (String.ofList (authHeader.toList.drop 7))
  else none

/-- The host that a request is forwarded for, as its client wrote it. -/
def forwardedHost : Option String := orText (request.headers "x-forwarded-host") none

/-- The only row of a domain. -/
def serviceOfDomain (services : List Service) (domain : String) :
    Except PyException (Option Service) :=
  match services.filter (·.domain.value = domain) with
  | [] => .ok none
  | [service] => .ok (some service)
  | _ => .error .multipleResultsFound

/-- The service whose key lets a request through. -/
def keyHolder (services : List Service) : Except PyException (Option Service) := do
  match bearerToken request, forwardedHost request with
  | some token, some host =>
      match ← serviceOfDomain services host with
      | some service =>
          if service.authMode = .token ∧ service.apiKey = some token then pure (some service)
          else pure none
      | none => pure none
  | _, _ => pure none

def keyHeaders (service : Service) : List (String × String) :=
  [("X-Auth-User", "api-key-" ++ service.name), ("X-Auth-Role", "api")]

def roleText : UserRole → String
  | .admin => "admin"
  | .viewer => "viewer"

def userHeaders (user : User) : List (String × String) :=
  [("X-Auth-User", user.username), ("X-Auth-Role", roleText user.role)]

/-- The fall-back of `verify_token_handler` to the session of the request. -/
def verifySession : AccessProgram HttpResponse := do
  try
    let (user, _) ← resolveAuthenticatedUser environment request
    Program.ofExcept (respond environment 200 (userHeaders user))
  catch failure =>
    match failure with
    | .httpException _ _ => Program.ofExcept (respond environment 401 [])
    | other => throw other

/-- `verify_token_handler`. -/
def verifyTokenHandler : AccessProgram HttpResponse := do
  let session ← get
  match ← Program.ofExcept (keyHolder request session.working.services) with
  | some service => Program.ofExcept (respond environment 200 (keyHeaders service))
  | none => verifySession environment request

/-- The handler answers 200. -/
def Admits (database : AccessDatabase) : Prop :=
  ∃ response next, verifyTokenHandler environment request database.opened = .ok response next ∧
    response.statusCode = 200

end Handler

section Definitions

/-- The host of a request names a domain: letter case and a port are ignored. -/
def NamesDomain (host domain : String) : Prop :=
  ∃ name, Text.lower name = Text.lower domain ∧ (host = name ∨
    ∃ port : String, port.toList.all Text.isDigit = true ∧ host = name ++ ":" ++ port)

/-- Traefik routes a request to a stored token service. -/
structure RoutedTo (request : HttpRequest) (services : List Service) (service : Service) :
    Prop where
  stored : service ∈ services
  tokenMode : service.authMode = .token
  host : ∃ host, forwardedHost request = some host ∧ NamesDomain host service.domain.value

/-- A request carries the key that is stored for a service. -/
def CarriesKey (request : HttpRequest) (service : Service) : Prop :=
  ∃ key, service.apiKey = some key ∧ request.headers "authorization" = some ("Bearer " ++ key)

/-- The handler admits exactly the requests with the key of the service and those whose
session is accepted. -/
def AdmitsExactly (environment : AccessEnvironment) (database : AccessDatabase)
    (request : HttpRequest) (service : Service) : Prop :=
  Admits environment request database ↔
    CarriesKey request service ∨ ∃ user, acceptedUser environment request database = some user

/-- A stored token service that has exactly the written host for its domain, and whose key
the request carries. -/
structure KnownAs (request : HttpRequest) (services : List Service) (service : Service) :
    Prop where
  stored : service ∈ services
  tokenMode : service.authMode = .token
  host : forwardedHost request = some service.domain.value
  key : CarriesKey request service

/-- What admitting exactly the right requests rests on. When the client wrote the host as
it is stored, only the headers of the answer have to be encoded. Otherwise the key of the
service does not count, and that of a service stored under the written host does. -/
structure Admissible (environment : AccessEnvironment) (database : AccessDatabase)
    (request : HttpRequest) (service : Service) : Prop where
  withKey : forwardedHost request = some service.domain.value → CarriesKey request service →
    encodesHeaders environment (keyHeaders service) = true
  withSession : (∀ other, ¬ KnownAs request database.services other) →
    ∀ user, acceptedUser environment request database = some user →
      encodesHeaders environment (userHeaders user) = true
  elsewhere : forwardedHost request ≠ some service.domain.value →
    (∀ other, ¬ KnownAs request database.services other) → CarriesKey request service →
      ∃ user, acceptedUser environment request database = some user
  known : forwardedHost request ≠ some service.domain.value →
    ∀ other, KnownAs request database.services other →
      (encodesHeaders environment (keyHeaders other) = true ↔ service.apiKey = other.apiKey ∨
        ∃ user, acceptedUser environment request database = some user)

end Definitions

section Answers

variable {environment : AccessEnvironment} {request : HttpRequest} {database : AccessDatabase}

private theorem bearerToken_eq_some {token : String} :
    bearerToken request = some token ↔
      request.headers "authorization" = some ("Bearer " ++ token) := by
  unfold bearerToken
  cases header : request.headers "authorization" with
  | none => simp [Text.startsWith]
  | some text =>
      dsimp only [Option.getD_some]
      rw [Option.some_inj]
      split
      · rename_i starts
        obtain ⟨rest, isRest⟩ := List.isPrefixOf_iff_prefix.mp starts
        rw [Option.some_inj, ← isRest, List.drop_left' (by rfl)]
        have chars : text = "Bearer " ++ token ↔ text.toList = ("Bearer " ++ token).toList :=
          String.toList_inj.symm
        rw [chars, ← String.toList_inj, ← isRest, String.toList_append, String.toList_ofList,
          List.append_cancel_left_eq]
      · rename_i differs
        simp only [reduceCtorEq, false_iff]
        intro same
        apply differs
        rw [same]
        apply List.isPrefixOf_iff_prefix.mpr
        rw [String.toList_append]
        exact List.prefix_append _ _

/-- The key that a request carries, as the handler reads it. -/
theorem carriesKey_iff {service : Service} :
    CarriesKey request service ↔
      ∃ token, bearerToken request = some token ∧ service.apiKey = some token := by
  unfold CarriesKey
  simp only [bearerToken_eq_some]
  exact exists_congr fun key => and_comm

/-- Of a domain that names its service there is one row at most. -/
theorem serviceOfDomain_of_nodup {services : List Service}
    (distinct : (services.map (·.domain.value)).Nodup) (domain : String) :
    (∃ service ∈ services, service.domain.value = domain ∧
        serviceOfDomain services domain = .ok (some service)) ∨
      (∀ service ∈ services, service.domain.value ≠ domain) ∧
        serviceOfDomain services domain = .ok none := by
  unfold serviceOfDomain
  have listed : ∀ service, service ∈ services.filter (·.domain.value = domain) ↔
      service ∈ services ∧ service.domain.value = domain := by
    intro service
    simp
  have single : (services.filter (·.domain.value = domain)).Nodup := distinct.of_map.filter _
  cases found : services.filter (·.domain.value = domain) with
  | nil =>
      refine .inr ⟨?_, rfl⟩
      intro service isStored same
      have member := (listed service).mpr ⟨isStored, same⟩
      rw [found] at member
      cases member
  | cons first rest =>
      obtain ⟨isStored, isDomain⟩ := (listed first).mp (by simp [found])
      cases rest with
      | nil => exact .inl ⟨first, isStored, isDomain, rfl⟩
      | cons second others =>
          obtain ⟨secondStored, secondDomain⟩ := (listed second).mp (by simp [found])
          have same := List.inj_on_of_nodup_map distinct isStored secondStored
            (isDomain.trans secondDomain.symm)
          rw [found, same] at single
          simp at single

/-- Domains that name their services make the look-up unambiguous. -/
theorem keyHolder_of_nodup (request : HttpRequest) {services : List Service}
    (distinct : (services.map (·.domain.value)).Nodup) :
    (∃ other, KnownAs request services other ∧ keyHolder request services = .ok (some other)) ∨
      (∀ other, ¬ KnownAs request services other) ∧ keyHolder request services = .ok none := by
  unfold keyHolder
  cases carried : bearerToken request with
  | none =>
      refine .inr ⟨?_, rfl⟩
      intro other known
      obtain ⟨token, isToken, -⟩ := carriesKey_iff.mp known.key
      rw [carried] at isToken
      cases isToken
  | some token =>
      cases written : forwardedHost request with
      | none =>
          refine .inr ⟨?_, rfl⟩
          intro other known
          have isHost := known.host
          rw [written] at isHost
          cases isHost
      | some host =>
          have unknown : (∀ service ∈ services, service.domain.value = host →
              ¬(service.authMode = .token ∧ service.apiKey = some token)) →
                ∀ other, ¬ KnownAs request services other := by
            intro refused other known
            obtain ⟨key, isKey, hasKey⟩ := carriesKey_iff.mp known.key
            rw [carried] at isKey
            cases isKey
            have isHost := known.host
            rw [written] at isHost
            exact refused other known.stored (Option.some.inj isHost).symm ⟨known.tokenMode, hasKey⟩
          dsimp only
          rcases serviceOfDomain_of_nodup distinct host with ⟨service, stored, isDomain, found⟩ |
            ⟨missing, found⟩
          · rw [found]
            by_cases accepts : service.authMode = .token ∧ service.apiKey = some token
            · refine .inl ⟨service, ⟨stored, accepts.1, ?_, ?_⟩, if_pos accepts⟩
              · rw [written, isDomain]
              · exact carriesKey_iff.mpr ⟨token, carried, accepts.2⟩
            · refine .inr ⟨unknown ?_, if_neg accepts⟩
              intro other isStored sameDomain
              rw [List.inj_on_of_nodup_map distinct isStored stored
                (sameDomain.trans isDomain.symm)]
              exact accepts
          · rw [found]
            refine .inr ⟨unknown ?_, rfl⟩
            intro other isStored sameDomain
            exact absurd sameDomain (missing other isStored)

private theorem verifyTokenHandler_eq {holder : Option Service}
    (holds : keyHolder request database.services = .ok holder) :
    verifyTokenHandler environment request database.opened =
      (match holder with
        | some service => Program.ofExcept (respond environment 200 (keyHeaders service))
        | none => verifySession environment request) database.opened := by
  have reads : verifyTokenHandler environment request database.opened =
      (Program.ofExcept (keyHolder request database.services) >>= fun holder =>
        match holder with
        | some service => Program.ofExcept (respond environment 200 (keyHeaders service))
        | none => verifySession environment request) database.opened := rfl
  rw [reads, holds]
  rfl

private theorem respond_ok {statusCode : Nat} {headers : List (String × String)}
    {response : HttpResponse} (responded : respond environment statusCode headers = .ok response) :
    encodesHeaders environment headers = true ∧ response.statusCode = statusCode := by
  unfold respond at responded
  split at responded
  · rename_i encodes
    cases responded
    exact ⟨encodes, rfl⟩
  · cases responded

private theorem respond_of_encodes {statusCode : Nat} {headers : List (String × String)}
    (encodes : encodesHeaders environment headers = true) :
    respond environment statusCode headers = .ok { statusCode, headers } := if_pos encodes

/-- With a key the handler answers 200 whenever it can build the answer. -/
theorem admits_of_holder {other : Service}
    (holds : keyHolder request database.services = .ok (some other)) :
    Admits environment request database ↔
      encodesHeaders environment (keyHeaders other) = true := by
  unfold Admits
  rw [verifyTokenHandler_eq holds]
  dsimp only
  constructor
  · rintro ⟨response, next, answered, -⟩
    cases responded : respond environment 200 (keyHeaders other) with
    | error failure =>
        rw [responded] at answered
        cases answered
    | ok built => exact (respond_ok responded).1
  · intro encodes
    rw [respond_of_encodes encodes]
    exact ⟨_, _, rfl, rfl⟩

/-- What the fall-back does when the session is refused. -/
theorem verifySession_of_error {failure : PyException} {session next : AccessSession}
    (refused : resolveAuthenticatedUser environment request session = .error failure next) :
    verifySession environment request session =
      (match failure with
        | .httpException _ _ => Program.ofExcept (respond environment 401 [])
        | other => throw other) next := by
  unfold verifySession
  simp only [tryCatch, tryCatchThe, MonadExceptOf.tryCatch, EStateM.tryCatch, bind, EStateM.bind,
    EStateM.Backtrackable.save, EStateM.Backtrackable.restore, refused]
  rfl

/-- What the fall-back does when the session is accepted. -/
theorem verifySession_of_ok {user : User} {authSession : AuthSession}
    {session next : AccessSession}
    (accepted : resolveAuthenticatedUser environment request session =
      .ok (user, authSession) next) :
    verifySession environment request session =
      Program.ofExcept (respond environment 200 (userHeaders user)) next := by
  unfold verifySession
  simp only [tryCatch, tryCatchThe, MonadExceptOf.tryCatch, EStateM.tryCatch, bind, EStateM.bind,
    EStateM.Backtrackable.save, EStateM.Backtrackable.restore, accepted]
  cases responded : respond environment 200 (userHeaders user) with
  | ok response => rfl
  | error failure =>
      unfold respond at responded
      split at responded
      · cases responded
      · cases responded
        rfl

/-- Without a key the handler answers 200 for the users of accepted sessions. -/
theorem admits_of_noHolder (noHolder : keyHolder request database.services = .ok none) :
    Admits environment request database ↔
      ∃ user, acceptedUser environment request database = some user ∧
        encodesHeaders environment (userHeaders user) = true := by
  unfold Admits acceptedUser
  rw [verifyTokenHandler_eq noHolder]
  dsimp only
  cases resolved : resolveAuthenticatedUser environment request database.opened with
  | error failure after =>
      rw [verifySession_of_error resolved]
      dsimp only
      constructor
      · rintro ⟨response, next, answered, isOk⟩
        cases failure <;> cases answered
        cases isOk
      · rintro ⟨user, isNone, -⟩
        cases isNone
  | ok value after =>
      obtain ⟨user, authSession⟩ := value
      rw [verifySession_of_ok resolved]
      dsimp only
      constructor
      · rintro ⟨response, next, answered, -⟩
        cases responded : respond environment 200 (userHeaders user) with
        | error failure =>
            rw [responded] at answered
            cases answered
        | ok built => exact ⟨user, rfl, (respond_ok responded).1⟩
      · rintro ⟨other, isUser, encodes⟩
        cases isUser
        rw [respond_of_encodes encodes]
        exact ⟨_, _, rfl, rfl⟩

end Answers

section Runs

variable {session : ProxySession} {database : Database}

/-- Identifiers and domains name the services. -/
abbrev KeyedServices (database : Database) : Prop :=
  Table.Keyed Service.id (·.domain.value) database.services

theorem KeyedServices.create {environment : ProxyEnvironment} {data : ServiceCreate}
    (keyed : KeyedServices database) {prepared : Service × List MiddlewareTemplate}
    (isPrepared : Prepared environment data database prepared) {service : Service}
    (resynced : Resynced prepared.1 service) :
    Table.Keyed Service.id (·.domain.value)
      (Table.save Service.id database.services service) := by
  have isDomain : service.domain.value = data.domain := by
    rw [resynced.same.domain]
    exact (identity_of_created isPrepared.created).2
  have upserted : Table.Upserted Service.id (·.domain.value) service.id data.domain
      database.services false (Table.save Service.id database.services service) :=
    .create isPrepared.available rfl isDomain
  exact upserted.keyed keyed

theorem KeyedServices.update {environment : ProxyEnvironment} {payload : ServiceUpdate}
    (keyed : KeyedServices database) {service : Service} (stored : service ∈ database.services)
    {edited : Service × List MiddlewareTemplate}
    (isEdited : Edited environment service payload database edited) :
    Table.Keyed Service.id (·.domain.value)
      (Table.save Service.id database.services edited.1) := by
  obtain ⟨applied, isApplied, resynced⟩ := isEdited.applied
  obtain ⟨sameId, sameDomain⟩ := identity_of_applied isApplied
  have isId : edited.1.id = service.id := resynced.same.id.trans sameId
  have isDomain : edited.1.domain.value = service.domain.value :=
    congrArg DomainName.value (resynced.same.domain.trans sameDomain)
  have upserted : Table.Upserted Service.id (·.domain.value) service.id service.domain.value
      database.services true (Table.save Service.id database.services edited.1) :=
    .update stored rfl isId isDomain
  exact upserted.keyed keyed

/-- An import looks every domain up before it saves a service. -/
theorem keyed_importAll {environment : ProxyEnvironment} (mode : ImportMode)
    (payload : BackupPayload) :
    Session.Transacts (importAll environment mode payload) (fun before _ after =>
      KeyedServices before.1 → KeyedServices after.1) := by
  refine (transacts_importAll KeyedServices mode (fun item _ during => ?_)
    (fun item _ during => ?_)).mono ?_
  · refine (transacts_upsertService_upserts item).mono ?_
    intro before found after upserts keyed
    exact upserts.1.keyed keyed
  · refine (transacts_upsertRedirect_upserts item).mono ?_
    intro before found after upserts keyed
    unfold KeyedServices
    rw [upserts.2]
    exact keyed
  · intro before result after preserved keyed
    apply preserved
    split
    · exact Table.keyed_nil
    · exact keyed

/-- The step: every operation keeps the domains apart. -/
theorem keyed_run (keyed : KeyedServices session.stored) (operation : Operation) :
    KeyedServices (Program.finalState operation.run session).stored := by
  apply Program.Ensures.finalState (fun next : ProxySession => KeyedServices next.stored)
  have spared : ∀ {operation : Operation}, operation.SparesServices →
      Program.Ensures operation.run (fun _ next => KeyedServices next.stored)
        (fun _ next => KeyedServices next.stored) session := by
    intro operation spares
    refine (ensures_spared spares session).mono ?_ ?_
    · intro _ next same
      unfold KeyedServices
      rw [same]
      exact keyed
    · intro _ next same
      unfold KeyedServices
      rw [same]
      exact keyed
  cases operation with
  | createService environment data =>
      unfold Operation.run
      simp only [Program.ensures_bind, Program.ensures_pure]
      apply ensures_stored (transacts_createServiceAction data) keyed
      rintro service after ⟨prepared, isPrepared, resynced, left⟩
      rw [left]
      exact keyed.create isPrepared resynced
  | updateService environment serviceId payload =>
      unfold Operation.run
      simp only [Program.ensures_bind, Program.ensures_pure]
      apply ensures_stored (transacts_updateServiceAction serviceId payload) keyed
      rintro result after ⟨service, edited, found, isEdited, -, left⟩
      rw [left]
      exact keyed.update (Table.mem_of_find found).1 isEdited
  | deleteService environment serviceId =>
      unfold Operation.run
      apply ensures_stored (transacts_deleteServiceAction serviceId) keyed
      intro _ after left
      rw [left]
      exact ⟨Table.nodup_delete keyed.keys serviceId,
        keyed.values.sublist (List.filter_sublist.map _)⟩
  | createRedirectHost environment data => exact spared trivial
  | updateRedirectHost environment redirectId data => exact spared trivial
  | deleteRedirectHost environment redirectId => exact spared trivial
  | createTemplate environment data => exact spared trivial
  | updateTemplate environment templateId data => exact spared trivial
  | deleteTemplate environment templateId => exact spared trivial
  | importBackup environment mode payload =>
      unfold Operation.run Backup.importBackup
      simp only [Program.ensures_bind, Program.ensures_pure]
      apply ensures_stored (transacts_importAction (keyed_importAll mode payload)) keyed
      exact fun _ _ preserved => preserved keyed

/-- In every reachable state the domains name their services. -/
theorem keyed_of_reachable (reachable : ReachableBy (fun _ _ => True) session) :
    KeyedServices session.stored := by
  induction reachable with
  | empty noServices noRedirectHosts noTemplates =>
      unfold KeyedServices
      rw [noServices]
      exact Table.keyed_nil
  | step reached operation isAllowed ih => exact keyed_run ih operation

end Runs

section Result

variable {environment : AccessEnvironment} {request : HttpRequest} {database : AccessDatabase}
  {service : Service}

/-- Two services whose keys one request carries have the same key. -/
theorem carriesKey_iff_sameKey {other : Service} (known : CarriesKey request other) :
    CarriesKey request service ↔ service.apiKey = other.apiKey := by
  obtain ⟨token, carried, isKey⟩ := carriesKey_iff.mp known
  rw [carriesKey_iff, isKey]
  constructor
  · rintro ⟨key, isCarried, hasKey⟩
    rw [carried] at isCarried
    cases isCarried
    exact hasKey
  · intro hasKey
    exact ⟨token, carried, hasKey⟩

/-- When a stored service answers to the written host, the handler goes by its key. -/
theorem admitsExactly_of_known {other : Service}
    (known : KnownAs request database.services other)
    (holds : keyHolder request database.services = .ok (some other)) :
    AdmitsExactly environment database request service ↔
      (encodesHeaders environment (keyHeaders other) = true ↔ service.apiKey = other.apiKey ∨
        ∃ user, acceptedUser environment request database = some user) := by
  unfold AdmitsExactly
  rw [admits_of_holder holds, carriesKey_iff_sameKey known.key]

/-- Otherwise it goes by the session. -/
theorem admitsExactly_of_unknown (noHolder : keyHolder request database.services = .ok none) :
    AdmitsExactly environment database request service ↔
      (CarriesKey request service →
        ∃ user, acceptedUser environment request database = some user) ∧
      ∀ user, acceptedUser environment request database = some user →
        encodesHeaders environment (userHeaders user) = true := by
  unfold AdmitsExactly
  rw [admits_of_noHolder noHolder]
  constructor
  · intro exactly
    constructor
    · intro carried
      obtain ⟨user, accepted, -⟩ := exactly.mpr (.inl carried)
      exact ⟨user, accepted⟩
    · intro user accepted
      obtain ⟨other, isOther, encodes⟩ := exactly.mpr (.inr ⟨user, accepted⟩)
      rw [accepted] at isOther
      cases isOther
      exact encodes
  · rintro ⟨needsSession, encodes⟩
    constructor
    · rintro ⟨user, accepted, -⟩
      exact .inr ⟨user, accepted⟩
    · intro entitled
      have someone : ∃ user, acceptedUser environment request database = some user :=
        entitled.elim needsSession id
      obtain ⟨user, accepted⟩ := someone
      exact ⟨user, accepted, encodes user accepted⟩

/-- **When the handler admits exactly the right requests.** Of every set of services that
operations reach, and for every request routed to a stored token service. -/
theorem admitsExactly_iff {session : ProxySession}
    (reachable : ReachableBy (fun _ _ => True) session)
    (sameServices : database.services = session.stored.services)
    (routed : RoutedTo request database.services service) :
    AdmitsExactly environment database request service ↔
      Admissible environment database request service := by
  have distinct : (database.services.map (·.domain.value)).Nodup := by
    rw [sameServices]
    exact (keyed_of_reachable reachable).values
  have atDomain : ∀ other, KnownAs request database.services other →
      forwardedHost request = some service.domain.value → other = service := by
    intro other known written
    have isHost := known.host
    rw [written] at isHost
    exact List.inj_on_of_nodup_map distinct known.stored routed.stored
      (Option.some.inj isHost).symm
  rcases keyHolder_of_nodup request distinct with ⟨other, known, holds⟩ |
    ⟨unknown, noHolder⟩
  · rw [admitsExactly_of_known known holds]
    constructor
    · intro exactly
      refine ⟨?_, ?_, ?_, ?_⟩
      · intro written _
        rw [atDomain other known written] at exactly
        exact exactly.mpr (.inl rfl)
      · intro noOther
        exact absurd known (noOther other)
      · intro _ noOther
        exact absurd known (noOther other)
      · intro _ another isKnown
        have isHost := isKnown.host
        rw [known.host] at isHost
        rw [List.inj_on_of_nodup_map distinct isKnown.stored known.stored
          (Option.some.inj isHost).symm]
        exact exactly
    · intro admissible
      by_cases written : forwardedHost request = some service.domain.value
      · have same := atDomain other known written
        subst same
        simp [admissible.withKey written known.key]
      · exact admissible.known written other known
  · rw [admitsExactly_of_unknown noHolder]
    constructor
    · rintro ⟨needsSession, encodes⟩
      refine ⟨?_, fun _ => encodes, fun _ _ => needsSession, ?_⟩
      · intro written carried
        exact absurd ⟨routed.stored, routed.tokenMode, written, carried⟩ (unknown service)
      · intro _ other known
        exact absurd known (unknown other)
    · intro admissible
      refine ⟨?_, admissible.withSession unknown⟩
      intro carried
      by_cases written : forwardedHost request = some service.domain.value
      · exact absurd ⟨routed.stored, routed.tokenMode, written, carried⟩ (unknown service)
      · exact admissible.elsewhere written unknown carried

/-- A token service with the key `secret`. -/
def tokenShop : Operation :=
  .createService {} { name := "shop", domain := "shop.example.com", upstreamHost := "app"
                      upstreamPort := 8080, authMode := "token", apiKey := some "secret" }

/-- The database after the token service was created. -/
def shopDatabase : AccessDatabase :=
  { services := (Program.finalState tokenShop.run emptySession).stored.services }

/-- A request for `host` with the key of the token service. -/
def requestAt (host : String) : HttpRequest :=
  { headers := fun name =>
      if name = "x-forwarded-host" then some host
      else if name = "authorization" then some "Bearer secret"
      else none }

/-- Headers are encoded as Latin-1, and sessions have no part in the example. -/
def latinEnvironment : AccessEnvironment :=
  { now := 0, hashSessionSecret := id
    encodesHeader := fun value => value.toList.all fun c => c.toNat < 256 }

private theorem reachable_tokenShop :
    ReachableBy (fun _ _ => True) (Program.finalState tokenShop.run emptySession) :=
  .step (.empty rfl rfl rfl) tokenShop trivial

private theorem mem_shopDatabase : ∃ service ∈ shopDatabase.services,
    service.domain.value = "shop.example.com" ∧ service.authMode = .token ∧
      service.apiKey = some "secret" ∧ service.name = "shop" := by
  decide +kernel

/-- The host is written as it is stored. -/
theorem admitsExactly_iff_example : ∃ service ∈ shopDatabase.services,
    AdmitsExactly latinEnvironment shopDatabase (requestAt "shop.example.com") service := by
  obtain ⟨service, stored, isDomain, tokenMode, isKey, isName⟩ := mem_shopDatabase
  have written : forwardedHost (requestAt "shop.example.com") = some service.domain.value := by
    rw [isDomain]
    rfl
  have routed : RoutedTo (requestAt "shop.example.com") shopDatabase.services service :=
    ⟨stored, tokenMode, service.domain.value, written, service.domain.value, rfl, .inl rfl⟩
  have noSession : acceptedUser latinEnvironment (requestAt "shop.example.com") shopDatabase = none := rfl
  refine ⟨service, stored, (admitsExactly_iff reachable_tokenShop rfl routed).mpr ?_⟩
  refine ⟨?_, ?_, ?_, ?_⟩
  · intro _ _
    rw [keyHeaders, isName]
    decide
  · intro _ user accepted
    rw [noSession] at accepted
    cases accepted
  · exact fun differs => absurd written differs
  · exact fun differs => absurd written differs

/-- The right key is refused when the client writes the host in another case. -/
theorem not_admitsExactly :
    ¬ ∀ (environment : AccessEnvironment) (session : ProxySession) (database : AccessDatabase)
      (request : HttpRequest) (service : Service), ReachableBy (fun _ _ => True) session →
        database.services = session.stored.services →
          RoutedTo request database.services service →
            AdmitsExactly environment database request service := by
  intro always
  obtain ⟨service, stored, isDomain, tokenMode, isKey, isName⟩ := mem_shopDatabase
  have routed : RoutedTo (requestAt "Shop.Example.com") shopDatabase.services service := by
    refine ⟨stored, tokenMode, "Shop.Example.com", rfl, "Shop.Example.com", ?_, .inl rfl⟩
    rw [isDomain]
    decide
  have exactly := always latinEnvironment _ shopDatabase (requestAt "Shop.Example.com") service
    reachable_tokenShop rfl routed
  have noHolder : keyHolder (requestAt "Shop.Example.com") shopDatabase.services = .ok none := by
    decide +kernel
  obtain ⟨user, accepted⟩ := ((admitsExactly_of_unknown noHolder).mp exactly).1
    ⟨"secret", isKey, rfl⟩
  cases accepted

end Result

end TraefikManager.Proxy
