import TraefikManager.Audit.ResourceRollback
import TraefikManager.Auth.LastAdmin
import TraefikManager.Foundation.Table

/-!
# Rolling changes of users back

The routes of the user management, one request after the other. A change that sets a
password cannot be taken back; any other one can, by the old values of what it changed.
-/

namespace TraefikManager.Auth

open Foundation Audit

section Records

/-- `user_audit_summary`. -/
structure UserAuditSummary where
  username : String
  role : UserRole
  isActive : Bool
  passwordChanged : Bool
  deriving DecidableEq, Repr

def userAuditSummary (user : User) (passwordChanged : Bool) : UserAuditSummary :=
  { username := user.username, role := user.role, isActive := user.isActive, passwordChanged }

/-- `changed_user_keys`. -/
def changedUserKeys (before after : UserAuditSummary) : List String :=
  changedKeys
    [("is_active", before.isActive = after.isActive),
     ("password_changed", before.passwordChanged = after.passwordChanged),
     ("role", before.role = after.role),
     ("username", before.username = after.username)]

/-- `build_user_rollback_payload`, on the recorded summaries. -/
def recordedUserPayload (data : UserUpdate) (before after : UserAuditSummary) : Option UserUpdate :=
  if data.password.isSome then none
  else
    let payload : UserUpdate :=
      { username := if before.username = after.username then none else some (some before.username)
        role := if before.role = after.role then none else some (some before.role)
        isActive := if before.isActive = after.isActive then none else some (some before.isActive) }
    if payload = {} then none else some payload

/-- `validate_username` of the schema. -/
def validateUsername : Option String → Except PyException (Option String)
  | none => .ok none
  | some value =>
      let normalized := Text.strip value
      if normalized = "" then .error (.validationError "username") else .ok (some normalized)

/-- `validate_password` of the schema. -/
def validatePassword : Option String → Except PyException (Option String)
  | none => .ok none
  | some value =>
      if value = "" ∨ Text.containsChar '\n' value ∨ Text.containsChar '\r' value then
        .error (.validationError "password")
      else .ok (some value)

/-- The validators of `UserUpdate`. -/
def UserUpdate.validate (data : UserUpdate) : Except PyException UserUpdate := do
  let username ← validatePresent validateUsername data.username
  let password ← validatePresent validatePassword data.password
  return { data with username, password }

/-- Users, as their routes record and take back their changes. -/
def userKind : AuditedKind User UserAuditSummary UserUpdate :=
  { resourceType := "user"
    updateEvent := "user_update"
    rollbackEvent := "user_rollback"
    logNotFound := "대상 사용자 변경 로그를 찾을 수 없습니다"
    otherLog := "사용자 변경 로그만 롤백할 수 있습니다"
    unsupported := "이 사용자 변경은 안전 롤백을 지원하지 않습니다"
    notFound := "사용자를 찾을 수 없습니다"
    updateNotFound := "사용자를 찾을 수 없습니다"
    id := User.id
    updateName := fun user => .text user.username
    rollbackName := fun user => .text user.username
    summary := fun user => userAuditSummary user false
    updatedSummary := fun data user => userAuditSummary user data.password.isSome
    changedKeys := changedUserKeys
    rollbackPayload := recordedUserPayload
    validate := UserUpdate.validate }

end Records

section Requests

/-- What a route of the user management waits for. -/
inductive UserStep where
  | getUser
  | updateUser
  | audit (step : RouteStep)
  deriving DecidableEq, Repr

/-- The hash of passwords, and the steps that raise. -/
structure UserEnvironment where
  hashPassword : String → String
  fails : UserStep → Option PyException := fun _ => none

abbrev UserProgram : Type → Type := Program PyException (Session UserTable PUnit)

variable (environment : UserEnvironment)

def reachUserStep (step : UserStep) : UserProgram PUnit :=
  match environment.fails step with
  | some failure => throw failure
  | none => pure ⟨⟩

/-- The reads of a use case, on the open transaction. No use case reads an audit record. -/
def runScript {α : Type} (script : AccountScript α) : UserProgram α := do
  let session ← get
  Program.ofExcept (script.alone ⟨session.working, []⟩)

/-- `get_user_for_update`. -/
def getUserForUpdate (userId : Uuid) : UserProgram (Option User) := do
  reachUserStep environment .getUser
  runScript (findById userId)

/-- Write what a use case changes. -/
def writeUsers (write : UserWrite) : UserProgram PUnit := do
  let session ← get
  let users ← Program.ofExcept (write session.working)
  modify fun session => { session with working := users }

/-- `UserUseCases.update_user` and the flush of what it saved. -/
def updateUserAlone (userId : Uuid) (data : UserUpdate) : UserProgram (Option User) := do
  reachUserStep environment .updateUser
  match ← runScript (updateUser environment.hashPassword userId data) with
  | none => pure none
  | some (user, write) =>
      writeUsers write
      pure (some user)

/-- `UserUseCases`, as far as the routes use them. -/
def userUseCases : ResourceUseCases UserTable PUnit User UserUpdate :=
  { get := getUserForUpdate environment
    update := updateUserAlone environment
    reach := fun step => reachUserStep environment (.audit step) }

end Requests

section Tables

/-- User names are stored without surrounding blanks, and no two users have one. -/
structure NamedApart (users : UserTable) : Prop where
  trimmed : ∀ row ∈ users.rows, Text.strip row.username = row.username
  distinct : (users.rows.map UserModel.username).Nodup

variable {users next : UserTable} {user : User} {loaded : UserModel}

/-- Where nothing else changes a row, it becomes what is written of the user. -/
theorem assign_self (sameId : user.id = loaded.id) :
    UserTable.assign loaded user loaded = .ofEntity user := by
  have columns : ∀ {α : Type} [DecidableEq α] (current value : α),
      UserTable.column current value current = value := by
    intro α _ current value
    unfold UserTable.column
    split
    · rename_i same
      exact same.symm
    · rfl
  simp only [UserTable.assign, UserModel.ofEntity, columns, sameId]

/-- An update saves the row of the user. Another user keeps his name only when it is not the
new one. -/
theorem rows_update (found : users.find user.id = some loaded)
    (updated : users.update loaded user = .ok next) :
    next.rows = Table.save UserModel.id users.rows (.ofEntity user) ∧
      (users.nameTaken user.id user.username = false ∨ user.username = loaded.username) := by
  obtain ⟨stored, isId⟩ := UserTable.mem_of_find found
  unfold UserTable.update at updated
  split at updated
  · cases updated
  · rename_i listed
    rw [not_not] at listed
    split at updated
    · cases updated
    · rename_i free
      cases updated
      constructor
      · unfold Table.save
        rw [if_pos (show (UserModel.ofEntity user).id ∈ _ from listed)]
        unfold UserTable.assignRows
        apply List.map_congr_left
        intro row inRows
        by_cases isUser : row.id = user.id
        · have isLoaded : row = loaded := UserTable.eq_of_id inRows stored (isUser.trans isId.symm)
          rw [if_pos isUser, if_pos (show row.id = (UserModel.ofEntity user).id from isUser),
            isLoaded, assign_self isId.symm]
        · rw [if_neg isUser, if_neg (show ¬row.id = (UserModel.ofEntity user).id from isUser)]
      · rw [not_and_or, Bool.not_eq_true, not_not] at free
        exact free

/-- The row with the user's id after an update of it. -/
theorem find_update (found : users.find user.id = some loaded)
    (updated : users.update loaded user = .ok next) :
    next.find user.id = some (.ofEntity user) := by
  unfold UserTable.find
  rw [(rows_update found updated).1]
  exact Table.find_save (UserModel.ofEntity user)

private theorem named_update (named : NamedApart users) (found : users.find user.id = some loaded)
    (trimmed : Text.strip user.username = user.username)
    (updated : users.update loaded user = .ok next) : NamedApart next := by
  obtain ⟨stored, isId⟩ := UserTable.mem_of_find found
  obtain ⟨rows, free⟩ := rows_update found updated
  constructor
  · intro row listed
    rw [rows] at listed
    rcases Table.mem_save.mp listed with rfl | ⟨inRows, -⟩
    · exact trimmed
    · exact named.trimmed row inRows
  · rw [rows]
    apply Table.nodup_map_save users.primaryKey named.distinct
    intro other inRows differs same
    rcases free with notTaken | kept
    · have notNamed : ¬(other.id ≠ user.id ∧ other.username = user.username) := by
        have none := List.any_eq_false.mp notTaken other inRows
        simpa using none
      exact notNamed ⟨differs, same⟩
    · have isLoaded : other = loaded :=
        List.inj_on_of_nodup_map named.distinct inRows stored (same.trans kept)
      rw [isLoaded] at differs
      exact differs isId

/-- An inserted user has a name of his own. -/
theorem named_insert (named : NamedApart users) (trimmed : Text.strip user.username = user.username)
    (inserted : users.insert user = .ok next) : NamedApart next := by
  unfold UserTable.insert at inserted
  split at inserted
  · cases inserted
  · rename_i fresh
    split at inserted
    · cases inserted
    · rename_i free
      cases inserted
      constructor
      · intro row listed
        rcases List.mem_append.mp listed with inRows | isNew
        · exact named.trimmed row inRows
        · rw [List.mem_singleton.mp isNew]
          exact trimmed
      · rw [List.map_append, List.map_singleton, ← List.concat_eq_append]
        apply List.Nodup.concat _ named.distinct
        intro taken
        obtain ⟨other, inRows, same⟩ := List.mem_map.mp taken
        apply free
        apply List.any_eq_true.mpr
        refine ⟨other, inRows, ?_⟩
        have differs : other.id ≠ user.id := fun isId =>
          fresh (List.mem_map.mpr ⟨other, inRows, isId⟩)
        simpa using ⟨differs, same⟩

private theorem named_delete (named : NamedApart users) (id : Uuid) :
    NamedApart (users.delete id) :=
  ⟨fun row listed => named.trimmed row (List.mem_of_mem_filter listed),
    named.distinct.sublist (List.filter_sublist.map _)⟩

end Tables

section Laws

variable {users next : UserTable}

private theorem transacts_reachUserStep (environment : UserEnvironment) (step : UserStep) :
    Session.Transacts (reachUserStep environment step) (fun before _ after => after = before) := by
  constructor
  intro session
  unfold reachUserStep
  cases environment.fails step <;> simp

private theorem transacts_runScript {α : Type} (script : AccountScript α) :
    Session.Transacts (runScript script) (fun before value after =>
      script.alone ⟨before.1, []⟩ = .ok value ∧ after = before) := by
  unfold runScript
  refine Session.transacts_get.bind fun session => ?_
  refine (Session.transacts_ofExcept _).mono ?_
  rintro middle value after ⟨isValue, rfl⟩ before ⟨rfl, rfl⟩
  exact ⟨isValue, rfl⟩

private theorem transacts_writeUsers (write : UserWrite) :
    Session.Transacts (writeUsers write) (fun before _ after => write before.1 = .ok after.1) := by
  constructor
  intro session
  unfold writeUsers
  simp only [Program.ensures_bind, Program.ensures_get]
  cases written : write session.working with
  | error failure => simp [Program.ofExcept]
  | ok users => simp [Program.ofExcept, Session.contents, written]

private theorem findById_alone (userId : Uuid) :
    (findById userId).alone ⟨users, []⟩ = .ok ((users.find userId).map UserModel.toEntity) := rfl

/-- What `update_user` answers when no other request is served. -/
theorem updateUser_alone {hashPassword : String → String} {userId : Uuid} {data : UserUpdate}
    {result : Option (User × UserWrite)}
    (done : (updateUser hashPassword userId data).alone ⟨users, []⟩ = .ok result) :
    result = none ∨ ∃ loaded user, users.find userId = some loaded ∧
      loaded.toEntity.update hashPassword data = .ok user ∧
        result = some (user, fun users => users.update loaded user) := by
  unfold updateUser at done
  rw [Script.alone_bind, findById_alone] at done
  cases found : users.find userId with
  | none =>
      rw [found] at done
      cases done
      exact .inl rfl
  | some loaded =>
      rw [found] at done
      change (ensureUsernameFree loaded.toEntity data >>= fun _ => _).alone _ = _ at done
      rw [Script.alone_bind] at done
      obtain ⟨_, -, done⟩ := bind_eq_ok.mp done
      rw [Script.alone_bind] at done
      obtain ⟨_, -, done⟩ := bind_eq_ok.mp done
      rw [Script.alone_bind, Script.alone_ofExcept] at done
      obtain ⟨user, isUser, done⟩ := bind_eq_ok.mp done
      have isId : user.id = userId := (id_update isUser).trans (UserTable.mem_of_find found).2
      have saved : (UserRepository.save user).alone ⟨users, []⟩ =
          .ok fun users => users.update loaded user := by
        unfold UserRepository.save
        rw [Script.alone_bind, Script.alone_query]
        simp only [isId, found]
        rfl
      rw [Script.alone_bind, saved] at done
      cases done
      exact .inr ⟨loaded, user, rfl, isUser, rfl⟩

private theorem update_ok {hashPassword : String → String} {user updated : User} {data : UserUpdate}
    (isUpdate : user.update hashPassword data = .ok updated) :
    user.updatedUsername data = .ok updated.username ∧
      updated.role = (data.role.getD none).getD user.role ∧
      updated.isActive = (data.isActive.getD none).getD user.isActive := by
  unfold User.update at isUpdate
  obtain ⟨username, isUsername, isUpdate⟩ := bind_eq_ok.mp isUpdate
  obtain ⟨password, -, isUpdate⟩ := bind_eq_ok.mp isUpdate
  cases isUpdate
  exact ⟨isUsername, rfl, rfl⟩

private theorem username_update {hashPassword : String → String} {user updated : User}
    {data : UserUpdate} (trimmed : Text.strip user.username = user.username)
    (isUpdate : user.update hashPassword data = .ok updated) :
    Text.strip updated.username = updated.username := by
  have isUsername := (update_ok isUpdate).1
  unfold User.updatedUsername at isUsername
  split at isUsername
  · unfold normalized at isUsername
    split at isUsername
    · cases isUsername
    · rw [← Except.ok.inj isUsername]
      exact Text.strip_strip _
  · rw [← Except.ok.inj isUsername]
    exact trimmed

/-- What a rollback makes of each key of a user's summary. -/
structure UserAuditSummary.Restored (before after current restored : UserAuditSummary) : Prop where
  username : Audit.Restored (before.username = after.username)
    before.username current.username restored.username
  role : Audit.Restored (before.role = after.role) before.role current.role restored.role
  isActive : Audit.Restored (before.isActive = after.isActive)
    before.isActive current.isActive restored.isActive
  passwordChanged : Audit.Restored (before.passwordChanged = after.passwordChanged)
    before.passwordChanged current.passwordChanged restored.passwordChanged

/-- What the routes of users rest on. -/
def userSpecification : Specification UserTable User UserAuditSummary UserUpdate :=
  { lookup := fun users userId => (users.find userId).map UserModel.toEntity
    Sound := NamedApart
    Valid := fun user => Text.strip user.username = user.username
    Updated := fun current data next => ∃ hashPassword, current.update hashPassword data = .ok next
    Restores := UserAuditSummary.Restored }

/-- A recorded payload has the old values of what changed, and no password. -/
theorem recordedUserPayload_some {data payload : UserUpdate} {before after : UserAuditSummary}
    (isPayload : recordedUserPayload data before after = some payload) :
    data.password = none ∧
      payload.username =
        (if before.username = after.username then none else some (some before.username)) ∧
      payload.role = (if before.role = after.role then none else some (some before.role)) ∧
      payload.isActive =
        if before.isActive = after.isActive then none else some (some before.isActive) := by
  unfold recordedUserPayload at isPayload
  split at isPayload
  · cases isPayload
  · rename_i noPassword
    dsimp only at isPayload
    rw [Option.ite_none_left_eq_some] at isPayload
    have fields := (Option.some.inj isPayload.2).symm
    rw [fields]
    exact ⟨by simpa using noPassword, rfl, rfl, rfl⟩

private theorem validate_ok {data request : UserUpdate} (accepted : data.validate = .ok request) :
    validatePresent validateUsername data.username = .ok request.username ∧
      request.role = data.role ∧ request.isActive = data.isActive := by
  obtain ⟨username, isUsername, accepted⟩ := bind_eq_ok.mp accepted
  obtain ⟨password, -, accepted⟩ := bind_eq_ok.mp accepted
  cases accepted
  exact ⟨isUsername, rfl, rfl⟩

/-- The schema leaves a recorded user name alone, or refuses it. -/
theorem validated_username {same : Prop} [Decidable same] {recorded : String}
    {username : Option (Option String)} (trimmed : Text.strip recorded = recorded)
    (accepted : validatePresent validateUsername (if same then none else some (some recorded)) =
      .ok username) : username = if same then none else some (some recorded) := by
  by_cases kept : same
  · rw [if_pos kept] at accepted ⊢
    exact (Except.ok.inj accepted).symm
  · rw [if_neg kept] at accepted ⊢
    obtain ⟨value, isValue, rfl⟩ := map_eq_ok.mp accepted
    unfold validateUsername at isValue
    dsimp only at isValue
    rw [trimmed] at isValue
    split at isValue
    · cases isValue
    · rw [← Except.ok.inj isValue]

/-- Asking for a recorded value sets it; leaving the field out keeps the current one. -/
theorem restored_of_requested {α : Type} {same : Prop} [Decidable same] {before current : α} :
    Audit.Restored same before current
      (((if same then none else some (some before)).getD none).getD current) := by
  by_cases kept : same
  · rw [if_pos kept]
    exact ⟨fun differs => absurd kept differs, fun _ => rfl⟩
  · rw [if_neg kept]
    exact ⟨fun _ => rfl, fun same => absurd same kept⟩

private theorem restored_of_updatedUsername {same : Prop} [Decidable same]
    {recorded username : String}
    {user : User} {data : UserUpdate} (trimmed : Text.strip recorded = recorded)
    (requested : data.username = if same then none else some (some recorded))
    (done : user.updatedUsername data = .ok username) :
    Audit.Restored same recorded user.username username := by
  unfold User.updatedUsername at done
  rw [requested] at done
  by_cases kept : same
  · rw [if_pos kept] at done
    exact ⟨fun differs => absurd kept differs, fun _ => (Except.ok.inj done).symm⟩
  · rw [if_neg kept] at done
    dsimp only at done
    unfold normalized at done
    rw [trimmed] at done
    split at done
    · cases done
    · exact ⟨fun _ => (Except.ok.inj done).symm, fun same => absurd same kept⟩

private theorem restores_user {before after current restored : User}
    {data payload request : UserUpdate}
    {hashPassword : String → String} (trimmed : Text.strip before.username = before.username)
    (isPayload : recordedUserPayload data (userAuditSummary before false)
      (userAuditSummary after data.password.isSome) = some payload)
    (accepted : payload.validate = .ok request)
    (done : current.update hashPassword request = .ok restored) :
    UserAuditSummary.Restored (userAuditSummary before false)
      (userAuditSummary after data.password.isSome) (userAuditSummary current false)
      (userAuditSummary restored false) := by
  obtain ⟨noPassword, askedName, askedRole, askedActive⟩ := recordedUserPayload_some isPayload
  obtain ⟨isName, isRole, isActive⟩ := validate_ok accepted
  obtain ⟨updatedName, updatedRole, updatedActive⟩ := update_ok done
  rw [askedName] at isName
  rw [isRole, askedRole] at updatedRole
  rw [isActive, askedActive] at updatedActive
  refine ⟨restored_of_updatedUsername trimmed (validated_username trimmed isName) updatedName,
    ?_, ?_, ?_⟩
  · show Audit.Restored _ _ _ restored.role
    rw [updatedRole]
    exact restored_of_requested
  · show Audit.Restored _ _ _ restored.isActive
    rw [updatedActive]
    exact restored_of_requested
  · rw [noPassword]
    exact ⟨fun differs => absurd rfl differs, fun _ => rfl⟩

theorem lawful_users (environment : UserEnvironment) :
    Lawful userKind (userUseCases environment) userSpecification where
  valid := by
    intro users userId user named found
    obtain ⟨row, isRow, rfl⟩ := Option.map_eq_some_iff.mp found
    exact named.trimmed row (UserTable.mem_of_find isRow).1
  get := by
    intro userId
    refine (transacts_reachUserStep environment .getUser).bind fun _ => ?_
    refine (transacts_runScript (findById userId)).mono ?_
    rintro middle found after ⟨isFound, rfl⟩ before rfl
    rw [findById_alone] at isFound
    cases isFound
    exact ⟨rfl, rfl⟩
  update := by
    intro userId data
    refine (transacts_reachUserStep environment .updateUser).bind fun _ => ?_
    refine (transacts_runScript _).bind fun result => ?_
    cases result with
    | none =>
        refine (Session.transacts_pure none).mono ?_
        rintro second result after ⟨rfl, rfl⟩ first ⟨-, rfl⟩ before rfl
        exact .inl ⟨rfl, rfl⟩
    | some answer =>
        obtain ⟨user, write⟩ := answer
        refine (transacts_writeUsers write).bind fun _ => ?_
        refine (Session.transacts_pure (some user)).mono ?_
        rintro third result after ⟨rfl, rfl⟩ second written first ⟨done, rfl⟩ before rfl
        rcases updateUser_alone done with isNone | ⟨loaded, other, found, isUpdate, isSome⟩
        · cases isNone
        · cases isSome
          have isId : user.id = userId :=
            (id_update isUpdate).trans (UserTable.mem_of_find found).2
          rw [← isId] at found
          refine .inr ⟨loaded.toEntity, user, ?_, ⟨_, isUpdate⟩, rfl, ?_, ?_⟩
          · show (second.1.find userId).map UserModel.toEntity = _
            rw [← isId, found]
            rfl
          · show (after.1.find userId).map UserModel.toEntity = _
            rw [← isId, find_update found written]
            rfl
          · intro named
            have wasNamed : NamedApart second.1 := named
            have trimmed : Text.strip loaded.toEntity.username = loaded.toEntity.username :=
              wasNamed.trimmed loaded (UserTable.mem_of_find found).1
            have trimmedNext := username_update trimmed isUpdate
            exact named_update wasNamed found trimmedNext written
  reach := fun step => (transacts_reachUserStep environment (.audit step)).mono fun _ _ _ same =>
    congrArg Prod.fst same
  restores := by
    rintro data before after payload request current restored trimmed - - isPayload accepted
      ⟨hashPassword, done⟩
    exact restores_user trimmed isPayload accepted done

end Laws

section Elsewhere

/-- The users of a new installation: one administrator, whose name is trimmed. -/
def InitialUsers (users : UserTable) : Prop :=
  ∃ admin, users.rows = [admin] ∧ Text.strip admin.username = admin.username

theorem named_initial {users : UserTable} (initial : InitialUsers users) : NamedApart users := by
  obtain ⟨admin, rows, trimmed⟩ := initial
  constructor
  · rw [rows]
    simpa using trimmed
  · rw [rows]
    simp

/-- What other requests do to the users: one is added, one is removed, or their names are left
alone, as by every login. -/
inductive ChangesUsers (before after : Session UserTable PUnit) : Prop where
  | create (hashPassword : String → String) (data : UserCreate) (newId : Uuid) {user : User}
      {write : UserWrite}
      (made : (createUser hashPassword data newId).alone ⟨before.stored, []⟩ = .ok (user, write))
      (written : write before.stored = .ok after.stored)
  | remove (userId : Uuid) {write : UserWrite}
      (made : (removeUser userId).alone ⟨before.stored, []⟩ = .ok write)
      (written : write before.stored = .ok after.stored)
  | sameNames (same : after.stored.rows.map UserModel.username =
      before.stored.rows.map UserModel.username)

private theorem username_create {hashPassword : String → String} {id : Uuid} {data : UserCreate}
    {user : User} (created : User.create hashPassword id data = .ok user) :
    Text.strip user.username = user.username := by
  unfold User.create at created
  obtain ⟨username, isUsername, created⟩ := bind_eq_ok.mp created
  obtain ⟨password, -, created⟩ := bind_eq_ok.mp created
  cases created
  unfold normalized at isUsername
  split at isUsername
  · cases isUsername
  · rw [← Except.ok.inj isUsername]
    exact Text.strip_strip _

private theorem createUser_alone {hashPassword : String → String} {data : UserCreate} {newId : Uuid}
    {users : UserTable} {user : User} {write : UserWrite}
    (made : (createUser hashPassword data newId).alone ⟨users, []⟩ = .ok (user, write)) :
    Text.strip user.username = user.username ∧ write = fun users => users.insert user := by
  unfold createUser at made
  rw [Script.alone_bind] at made
  obtain ⟨existing, -, made⟩ := bind_eq_ok.mp made
  split at made
  · cases made
  · rw [Script.alone_bind, Script.alone_ofExcept] at made
    obtain ⟨created, isCreated, made⟩ := bind_eq_ok.mp made
    cases made
    exact ⟨username_create isCreated, rfl⟩

private theorem removeUser_alone {userId : Uuid} {users next : UserTable} {write : UserWrite}
    (made : (removeUser userId).alone ⟨users, []⟩ = .ok write) (written : write users = .ok next) :
    next = users ∨ next = users.delete userId := by
  unfold removeUser at made
  rw [Script.alone_bind, findById_alone] at made
  cases found : users.find userId with
  | none =>
      rw [found] at made
      cases made
      exact .inl (Except.ok.inj written).symm
  | some loaded =>
      rw [found] at made
      change (guardOtherAdmin _ _ >>= fun _ => deleteUser userId).alone _ = _ at made
      rw [Script.alone_bind] at made
      obtain ⟨_, -, made⟩ := bind_eq_ok.mp made
      unfold deleteUser at made
      rw [Script.alone_bind, Script.alone_query] at made
      simp only [found] at made
      cases made
      exact .inr (Except.ok.inj written).symm

/-- Whatever another request does, the names stay apart. -/
theorem named_changes {before after : Session UserTable PUnit} (changes : ChangesUsers before after)
    (named : NamedApart before.stored) : NamedApart after.stored := by
  cases changes with
  | create hashPassword data newId made written =>
      obtain ⟨trimmed, rfl⟩ := createUser_alone made
      exact named_insert named trimmed written
  | remove userId made written =>
      rcases removeUser_alone made written with same | removed
      · rw [same]
        exact named
      · rw [removed]
        exact named_delete named userId
  | sameNames same =>
      constructor
      · intro row listed
        have hasName : row.username ∈ before.stored.rows.map UserModel.username := by
          rw [← same]
          exact List.mem_map_of_mem listed
        obtain ⟨old, inRows, sameName⟩ := List.mem_map.mp hasName
        rw [← sameName]
        exact named.trimmed old inRows
      · rw [same]
        exact named.distinct

end Elsewhere

end TraefikManager.Auth
