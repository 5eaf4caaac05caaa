import TraefikManager.Runtime

/-!
# Users and their login counters

The user entity with its lockout counters, the row the repository maps it to,
and the repository operations on the table.
-/

namespace TraefikManager.Auth

open Foundation

inductive UserRole where
  | admin
  | viewer
  deriving DecidableEq, Repr

structure User where
  id : Uuid
  username : String
  hashedPassword : String
  role : UserRole
  isActive : Bool
  tokenVersion : Int
  failedLoginAttempts : Int := 0
  lastFailedLoginAt : Option Datetime := none
  lockedUntil : Option Datetime := none
  deriving DecidableEq, Repr

namespace User

/-- Whether a lock is in force at `current`. -/
def isLoginLocked (user : User) (current : Datetime) : Except PyException Bool :=
  match user.lockedUntil with
  | none => .ok false
  | some lockedUntil => lockedUntil.isAfter current

/-- Reset the counters when the lock has expired. The second component tells
whether anything was reset. -/
def clearExpiredLoginLock (user : User) (current : Datetime) :
    Except PyException (User × Bool) := do
  match user.lockedUntil with
  | none => pure (user, false)
  | some lockedUntil =>
      if ← lockedUntil.isAfter current then
        pure (user, false)
      else
        pure ({ user with failedLoginAttempts := 0, lastFailedLoginAt := none,
                          lockedUntil := none }, true)

/-- Count one failure: a new series starts when the previous failure is more
than `failureWindow` ago, and a full series locks the user. -/
def registerLoginFailure (user : User) (maxFailedAttempts : Int)
    (failureWindow lockoutDuration : Timedelta) (current : Datetime) :
    Except PyException User := do
  let (user, _) ← user.clearExpiredLoginLock current
  let startsSeries ← match user.lastFailedLoginAt with
    | none => pure true
    | some last => do pure (decide (failureWindow < (← current.since last)))
  let attempts := if startsSeries then 1 else user.failedLoginAttempts + 1
  let lockedUntil :=
    if maxFailedAttempts ≤ attempts then some (current.add lockoutDuration)
    else user.lockedUntil
  pure { user with failedLoginAttempts := attempts, lastFailedLoginAt := some current,
                   lockedUntil := lockedUntil }

def registerLoginSuccess (user : User) : User :=
  { user with failedLoginAttempts := 0, lastFailedLoginAt := none, lockedUntil := none }

end User

/-- A row of the `users` table. -/
structure UserModel where
  id : Uuid
  username : String
  hashedPassword : String
  role : UserRole
  isActive : Bool
  tokenVersion : Int
  failedLoginAttempts : Int := 0
  lastFailedLoginAt : Option Datetime := none
  lockedUntil : Option Datetime := none
  deriving DecidableEq, Repr

namespace UserModel

/-- What SQLite keeps of a row. -/
def persisted (model : UserModel) : UserModel :=
  { model with lastFailedLoginAt := model.lastFailedLoginAt.map Datetime.persisted,
               lockedUntil := model.lockedUntil.map Datetime.persisted }

def toEntity (model : UserModel) : User where
  id := model.id
  username := model.username
  hashedPassword := model.hashedPassword
  role := model.role
  isActive := model.isActive
  tokenVersion := model.tokenVersion
  failedLoginAttempts := model.failedLoginAttempts
  lastFailedLoginAt := model.lastFailedLoginAt
  lockedUntil := model.lockedUntil

def ofEntity (user : User) : UserModel where
  id := user.id
  username := user.username
  hashedPassword := user.hashedPassword
  role := user.role
  isActive := user.isActive
  tokenVersion := user.tokenVersion
  failedLoginAttempts := user.failedLoginAttempts
  lastFailedLoginAt := user.lastFailedLoginAt
  lockedUntil := user.lockedUntil

@[simp] theorem ofEntity_toEntity (model : UserModel) : ofEntity model.toEntity = model := rfl

@[simp] theorem toEntity_ofEntity (user : User) : (ofEntity user).toEntity = user := rfl

@[simp] theorem persisted_persisted (model : UserModel) :
    model.persisted.persisted = model.persisted := by
  simp [persisted, Function.comp_def]

end UserModel

/-- The `users` table. Its primary key is part of it: no two rows have one id. -/
structure UserTable where
  rows : List UserModel
  primaryKey : (rows.map UserModel.id).Nodup

namespace UserTable

/-- What SQLite keeps of the table. -/
def persisted (users : UserTable) : UserTable where
  rows := users.rows.map UserModel.persisted
  primaryKey := by simpa [Function.comp_def, UserModel.persisted] using users.primaryKey

/-- Overwrite the row with the entity's id. -/
def overwrite (rows : List UserModel) (user : User) : List UserModel :=
  rows.map fun model => if model.id = user.id then .ofEntity user else model

private theorem map_id_overwrite (rows : List UserModel) (user : User) :
    (overwrite rows user).map UserModel.id = rows.map UserModel.id := by
  simp only [overwrite, List.map_map]
  refine List.map_congr_left fun model _ => ?_
  by_cases same : model.id = user.id <;> simp [same, UserModel.ofEntity]

/-- A row with a new id can be added. -/
theorem nodup_append_row (users : UserTable) {user : User}
    (isNew : user.id ∉ users.rows.map UserModel.id) :
    ((users.rows ++ [UserModel.ofEntity user]).map UserModel.id).Nodup := by
  rw [List.map_append, List.nodup_append]
  refine ⟨users.primaryKey, by simp, ?_⟩
  intro id known other added same
  have isUser : other = user.id := by simpa [UserModel.ofEntity] using added
  exact isNew (isUser ▸ same ▸ known)

/-- `SQLiteUserRepository.save`: overwrite the row with the entity's id, or add one. -/
def save (users : UserTable) (user : User) : UserTable :=
  if listed : user.id ∈ users.rows.map UserModel.id then
    { rows := overwrite users.rows user
      primaryKey := by rw [map_id_overwrite]; exact users.primaryKey }
  else
    { rows := users.rows ++ [.ofEntity user]
      primaryKey := users.nodup_append_row listed }

/-- The rows a query by user name selects. -/
def named (users : UserTable) (username : String) : List UserModel :=
  users.rows.filter fun model => model.username = username

/-- `SQLiteUserRepository.find_by_username`. -/
def findByUsername (users : UserTable) (username : String) :
    Except PyException (Option User) :=
  match users.named (Text.strip username) with
  | [] => .ok none
  | [model] => .ok (some model.toEntity)
  | _ => .error .multipleResultsFound

end UserTable

end TraefikManager.Auth
