import Mathlib.Data.List.Sort
import TraefikManager.Auth.User
import TraefikManager.Foundation.Interleaving

/-!
# Managing users

The requests of the user management: creating, changing and deleting a user, and taking a change
back from its audit record. Each request works on a session of its own. It reads what is
committed at each of its awaits and commits its change at the end.
-/

namespace TraefikManager.Auth

open Foundation

section Data

/-- The fields a change sets: a field that is left out, or null, is not changed. -/
structure UserUpdate where
  username : Option (Option String) := none
  password : Option (Option String) := none
  role : Option (Option UserRole) := none
  isActive : Option (Option Bool) := none
  deriving DecidableEq, Repr

structure UserCreate where
  username : String
  password : String
  role : UserRole
  isActive : Bool := true
  deriving DecidableEq, Repr

/-- The audit record of a change to a user, as the rollback reads it. -/
structure UserAuditLog where
  id : String
  action : String
  resourceId : Uuid
  event : String
  rollbackPayload : Option UserUpdate
  deriving DecidableEq, Repr

/-- What the requests share: the users and the audit records about them. -/
structure Accounts where
  users : UserTable
  auditLogs : List UserAuditLog

abbrev AccountScript (α : Type) := Script PyException Accounts α

/-- What a session writes to the users when it commits. -/
abbrev UserWrite := UserTable → Except PyException UserTable

end Data

section Repository

namespace UserTable

/-- The row with an id. -/
def find (users : UserTable) (id : Uuid) : Option UserModel :=
  users.rows.find? fun model => model.id = id

/-- Whether another row has the user name. -/
def nameTaken (users : UserTable) (id : Uuid) (username : String) : Bool :=
  users.rows.any fun model => model.id ≠ id ∧ model.username = username

/-- An `INSERT`: the id and the user name are unique. -/
def insert (users : UserTable) (user : User) : Except PyException UserTable :=
  if listed : user.id ∈ users.rows.map UserModel.id then
    .error (.databaseError "UNIQUE constraint failed: users.id")
  else if users.nameTaken user.id user.username then
    .error (.databaseError "UNIQUE constraint failed: users.username")
  else
    .ok
      { rows := users.rows ++ [.ofEntity user]
        primaryKey := users.nodup_append_row listed }

/-- A column an `UPDATE` sets: only a value that differs from the loaded one is written. -/
def column {α : Type} [DecidableEq α] (loaded new current : α) : α :=
  if new = loaded then current else new

/-- The row after the columns that differ from the loaded row were set. -/
def assign (loaded : UserModel) (user : User) (current : UserModel) : UserModel where
  id := current.id
  username := column loaded.username user.username current.username
  hashedPassword := column loaded.hashedPassword user.hashedPassword current.hashedPassword
  role := column loaded.role user.role current.role
  isActive := column loaded.isActive user.isActive current.isActive
  tokenVersion := column loaded.tokenVersion user.tokenVersion current.tokenVersion
  failedLoginAttempts :=
    column loaded.failedLoginAttempts user.failedLoginAttempts current.failedLoginAttempts
  lastFailedLoginAt :=
    column loaded.lastFailedLoginAt user.lastFailedLoginAt current.lastFailedLoginAt
  lockedUntil := column loaded.lockedUntil user.lockedUntil current.lockedUntil

/-- The rows after an `UPDATE` of one of them. -/
def assignRows (rows : List UserModel) (loaded : UserModel) (user : User) : List UserModel :=
  rows.map fun model => if model.id = user.id then assign loaded user model else model

theorem map_id_assignRows (rows : List UserModel) (loaded : UserModel) (user : User) :
    (assignRows rows loaded user).map UserModel.id = rows.map UserModel.id := by
  rw [assignRows, List.map_map]
  apply List.map_congr_left
  intro model _
  by_cases same : model.id = user.id <;> simp [same, assign]

/-- An `UPDATE` of a row that was loaded before: it has to be there still, and the user name is
unique. -/
def update (users : UserTable) (loaded : UserModel) (user : User) : Except PyException UserTable :=
  if user.id ∉ users.rows.map UserModel.id then
    .error (.databaseError "UPDATE statement on table 'users' expected to update 1 row(s)")
  else if users.nameTaken user.id user.username ∧ user.username ≠ loaded.username then
    .error (.databaseError "UNIQUE constraint failed: users.username")
  else
    .ok
      { rows := assignRows users.rows loaded user
        primaryKey := by rw [map_id_assignRows]; exact users.primaryKey }

/-- A `DELETE`: a row that is gone already is no error. -/
def delete (users : UserTable) (id : Uuid) : UserTable where
  rows := users.rows.filter fun model => model.id ≠ id
  primaryKey := users.primaryKey.sublist (List.filter_sublist.map _)

end UserTable

/-- `SQLiteUserRepository.find_by_id`. -/
def findById (id : Uuid) : AccountScript (Option User) :=
  .query fun accounts => (accounts.users.find id).map UserModel.toEntity

/-- `SQLiteUserRepository.find_by_username`. -/
def findByUsername (username : String) : AccountScript (Option User) := do
  let found ← .query fun accounts => accounts.users.findByUsername username
  .ofExcept found

/-- `SQLiteUserRepository.find_all`. -/
def findAll : AccountScript (List User) :=
  .query fun accounts =>
    (accounts.users.rows.map UserModel.toEntity).insertionSort fun first second =>
      first.username ≤ second.username

/-- `SQLiteUserRepository.save`: the row of the user is loaded again and changed, or added. -/
def UserRepository.save (user : User) : AccountScript UserWrite := do
  let existing ← .query fun accounts => accounts.users.find user.id
  match existing with
  | some loaded => return fun users => users.update loaded user
  | none => return fun users => users.insert user

/-- `SQLiteUserRepository.delete`. -/
def deleteUser (id : Uuid) : AccountScript UserWrite := do
  let existing ← .query fun accounts => accounts.users.find id
  match existing with
  | some _ => return fun users => .ok (users.delete id)
  | none => return .ok

end Repository

section UseCases

variable (hashPassword : String → String)

/-- `User._normalize_username` and `User._normalize_hashed_password`. -/
def normalized (text message : String) : Except PyException String :=
  if Text.strip text = "" then .error (.valueError message) else .ok (Text.strip text)

/-- `User.create`. -/
def User.create (id : Uuid) (data : UserCreate) : Except PyException User := do
  let username ← normalized data.username "사용자 이름은 필수입니다"
  let hashedPassword ← normalized (hashPassword data.password) "비밀번호 해시값은 필수입니다"
  return { id, username, hashedPassword, role := data.role, isActive := data.isActive
           tokenVersion := 0 }

/-- The name a change gives the user. -/
def User.updatedUsername (user : User) (data : UserUpdate) : Except PyException String :=
  match data.username with
  | some (some username) => normalized username "사용자 이름은 필수입니다"
  | _ => .ok user.username

/-- The password hash and the token version after a change: a new password revokes the tokens. -/
def User.updatedPassword (user : User) (data : UserUpdate) : Except PyException (String × Int) :=
  match data.password with
  | none => .ok (user.hashedPassword, user.tokenVersion)
  | some none => .error (.typeError "hash_password")
  | some (some password) =>
      (normalized (hashPassword password) "비밀번호 해시값은 필수입니다").map
        (·, user.tokenVersion + 1)

/-- `User.update`, with the fields of the request. -/
def User.update (user : User) (data : UserUpdate) : Except PyException User := do
  let username ← user.updatedUsername data
  let (hashedPassword, tokenVersion) ← user.updatedPassword hashPassword data
  return { user with
    username, hashedPassword, tokenVersion
    role := (data.role.getD none).getD user.role
    isActive := (data.isActive.getD none).getD user.isActive }

/-- `UserUseCases._ensure_other_admin_exists`. -/
def ensureOtherAdminExists (targetUserId : Uuid) : AccountScript Unit := do
  let users ← findAll
  if users.any fun user => user.id ≠ targetUserId ∧ user.role = .admin ∧ user.isActive then
    return ()
  else .fail (.valueError "활성 관리자 계정은 최소 1개 이상 유지되어야 합니다")

/-- The check of a new user name in `update_user`. -/
def ensureUsernameFree (user : User) (data : UserUpdate) : AccountScript Unit := do
  match data.username with
  | some (some nextUsername) =>
      if nextUsername ≠ "" ∧ nextUsername ≠ user.username then do
        let existing ← findByUsername nextUsername
        if existing.any (·.id ≠ user.id) then
          .fail (.valueError ("이미 존재하는 사용자 이름입니다: " ++ nextUsername))
        else return ()
      else return ()
  | _ => return ()

/-- Whether a change asks for the guard: an administrator may lose the role or be deactivated. -/
def User.losesAdmin (user : User) (data : UserUpdate) : Bool :=
  user.role = .admin ∧ (data.role.getD (some user.role) ≠ some .admin ∨
    data.isActive.getD (some user.isActive) = some false)

/-- The guard of a change or a removal, where it is asked for. -/
def guardOtherAdmin (guarded : Bool) (user : User) : AccountScript Unit :=
  if guarded then ensureOtherAdminExists user.id else pure ()

/-- `UserUseCases.update_user`: the changed user and what is written of it. -/
def updateUser (userId : Uuid) (data : UserUpdate) : AccountScript (Option (User × UserWrite)) := do
  let found ← findById userId
  match found with
  | none => return none
  | some user => do
      ensureUsernameFree user data
      guardOtherAdmin (user.losesAdmin data) user
      let updated ← .ofExcept (user.update hashPassword data)
      let write ← UserRepository.save updated
      return some (updated, write)

/-- `UserUseCases.delete_user`. -/
def removeUser (userId : Uuid) : AccountScript UserWrite := do
  let found ← findById userId
  match found with
  | none => return .ok
  | some user => do
      guardOtherAdmin (user.role = .admin) user
      deleteUser userId

/-- `UserUseCases.create_user`. The id is a new one, so the row is added. -/
def createUser (data : UserCreate) (newId : Uuid) : AccountScript (User × UserWrite) := do
  let existing ← findByUsername data.username
  if existing.isSome then
    .fail (.valueError ("이미 존재하는 사용자 이름입니다: " ++ data.username))
  else do
    let user ← .ofExcept (User.create hashPassword newId data)
    return (user, fun users => users.insert user)

end UseCases

section Requests

variable (hashPassword : String → String)

/-- The session a request comes with, as far as it concerns the user. -/
structure Credentials where
  userId : Uuid
  tokenVersion : Int
  deriving DecidableEq, Repr

/-- `require_admin`, after the session itself was accepted. -/
def requireAdmin (credentials : Credentials) : AccountScript Unit := do
  let found ← findById credentials.userId
  match found with
  | none => .fail (.httpException 401 "유효하지 않은 세션입니다")
  | some user =>
      if ¬user.isActive then .fail (.httpException 401 "유효하지 않은 세션입니다")
      else if credentials.tokenVersion ≠ user.tokenVersion then
        .fail (.httpException 401 "만료된 세션입니다. 다시 로그인해주세요")
      else if user.role ≠ .admin then .fail (.httpException 403 "관리자 권한이 필요합니다")
      else return ()

/-- `except ValueError` of the routes. -/
def badRequest : PyException → PyException
  | .valueError message => .httpException 400 message
  | failure => failure

/-- `build_user_rollback_payload`: the old values of the fields that changed. -/
def buildUserRollbackPayload (before after : User) (data : UserUpdate) : Option UserUpdate :=
  if data.password.isSome then none
  else
    let payload : UserUpdate :=
      { username := if before.username = after.username then none else some (some before.username)
        role := if before.role = after.role then none else some (some before.role)
        isActive := if before.isActive = after.isActive then none else some (some before.isActive) }
    if payload = {} then none else some payload

/-- The change a request commits: its write to the users, and its audit record. -/
def commitUsers (write : UserWrite) (logs : List UserAuditLog) : Commit PyException Accounts :=
  fun accounts => do
    let users ← write accounts.users
    return { users, auditLogs := accounts.auditLogs ++ logs }

/-- A request of the user management. The id of its audit record and of a new user are drawn
when it is made. -/
inductive UserRequest where
  | create (credentials : Credentials) (data : UserCreate) (newId : Uuid) (logId : String)
  | update (credentials : Credentials) (userId : Uuid) (data : UserUpdate) (logId : String)
  | delete (credentials : Credentials) (userId : Uuid) (logId : String)
  | rollback (credentials : Credentials) (auditLogId : String) (logId : String)
  deriving DecidableEq, Repr

/-- The route `create_user`. -/
def createUserRoute (data : UserCreate) (newId : Uuid) (logId : String) :
    AccountScript (Commit PyException Accounts) := do
  let (user, write) ← (createUser hashPassword data newId).mapFailure badRequest
  return commitUsers write [⟨logId, "create", user.id, "user_create", none⟩]

/-- The route `update_user`. -/
def updateUserRoute (userId : Uuid) (data : UserUpdate) (logId : String) :
    AccountScript (Commit PyException Accounts) := do
  let before ← findById userId
  let updated ← (updateUser hashPassword userId data).mapFailure badRequest
  match updated with
  | none => .fail (.httpException 404 "사용자를 찾을 수 없습니다")
  | some (user, write) =>
      return commitUsers write (before.map fun before =>
        (⟨logId, "update", user.id, "user_update", buildUserRollbackPayload before user data⟩ :
          UserAuditLog)).toList

/-- The route `delete_user`. -/
def deleteUserRoute (userId : Uuid) (logId : String) :
    AccountScript (Commit PyException Accounts) := do
  let found ← findById userId
  match found with
  | none => .fail (.httpException 404 "사용자를 찾을 수 없습니다")
  | some _ => do
      let write ← (removeUser userId).mapFailure badRequest
      return commitUsers write [⟨logId, "delete", userId, "user_delete", none⟩]

/-- The payload of an audit record that may be taken back. -/
def supportedRollbackPayload (log : UserAuditLog) : Except PyException UserUpdate :=
  if log.action ≠ "update" then .error (.httpException 422 "사용자 변경 로그만 롤백할 수 있습니다")
  else
    match log.rollbackPayload with
    | some payload =>
        if log.event = "user_update" then .ok payload
        else .error (.httpException 422 "이 사용자 변경은 안전 롤백을 지원하지 않습니다")
    | none => .error (.httpException 422 "이 사용자 변경은 안전 롤백을 지원하지 않습니다")

/-- `rollback_user_change_action`. -/
def rollbackUserRoute (auditLogId : String) (logId : String) :
    AccountScript (Commit PyException Accounts) := do
  let found ← .query fun accounts => accounts.auditLogs.find? (·.id = auditLogId)
  match found with
  | none => .fail (.httpException 404 "대상 사용자 변경 로그를 찾을 수 없습니다")
  | some log => do
      let payload ← .ofExcept (supportedRollbackPayload log)
      let current ← findById log.resourceId
      if current.isNone then .fail (.httpException 404 "사용자를 찾을 수 없습니다")
      else do
        let updated ← updateUser hashPassword log.resourceId payload
        match updated with
        | none => .fail (.httpException 404 "사용자를 찾을 수 없습니다")
        | some (user, write) =>
            return commitUsers write [⟨logId, "rollback", user.id, "user_rollback", none⟩]

/-- A request, from its authentication to its commit. -/
def userScript : UserRequest → AccountScript (Commit PyException Accounts)
  | .create credentials data newId logId => do
      requireAdmin credentials
      createUserRoute hashPassword data newId logId
  | .update credentials userId data logId => do
      requireAdmin credentials
      updateUserRoute hashPassword userId data logId
  | .delete credentials userId logId => do
      requireAdmin credentials
      deleteUserRoute userId logId
  | .rollback credentials auditLogId logId => do
      requireAdmin credentials
      rollbackUserRoute hashPassword auditLogId logId

end Requests

end TraefikManager.Auth
