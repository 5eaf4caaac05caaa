import TraefikManager.Auth.UserManagement

/-!
# The last administrator

A change that may take the last active administrator away asks first whether there is another
one. The answer holds as long as no other request takes an administrator away in the meantime.
-/

namespace TraefikManager.Auth

open Foundation

section Administrators

namespace UserTable

/-- The ids of the active administrators. -/
def activeAdmins (users : UserTable) : List Uuid :=
  (users.rows.filter fun model => model.role = .admin ∧ model.isActive).map UserModel.id

private theorem mem_activeAdmins {users : UserTable} {id : Uuid} :
    id ∈ users.activeAdmins ↔
      ∃ model ∈ users.rows, model.role = .admin ∧ model.isActive = true ∧ model.id = id := by
  simp [activeAdmins, and_assoc]

/-- An active administrator other than one user. -/
def OtherAdmin (users : UserTable) (id : Uuid) : Prop := ∃ other ∈ users.activeAdmins, other ≠ id

theorem eq_of_id {users : UserTable} {first second : UserModel} (inFirst : first ∈ users.rows)
    (inSecond : second ∈ users.rows) (same : first.id = second.id) : first = second :=
  List.inj_on_of_nodup_map users.primaryKey inFirst inSecond same

theorem mem_of_find {users : UserTable} {id : Uuid} {model : UserModel}
    (found : users.find id = some model) : model ∈ users.rows ∧ model.id = id :=
  ⟨List.mem_of_find?_eq_some found, by simpa using List.find?_some found⟩

end UserTable

/-- At least one stored user is active and has the admin role. -/
def HasActiveAdmin (accounts : Accounts) : Prop :=
  ∃ model ∈ accounts.users.rows, model.role = .admin ∧ model.isActive = true

/-- No active administrator is taken away. -/
def KeepsAdmins (before after : Accounts) : Prop :=
  ∀ id ∈ before.users.activeAdmins, id ∈ after.users.activeAdmins

instance : DecidableRel KeepsAdmins := fun before after => by
  unfold KeepsAdmins
  infer_instance

private theorem hasActiveAdmin_iff {accounts : Accounts} :
    HasActiveAdmin accounts ↔ ∃ id, id ∈ accounts.users.activeAdmins := by
  simp [HasActiveAdmin, UserTable.mem_activeAdmins]

theorem KeepsAdmins.refl (accounts : Accounts) : KeepsAdmins accounts accounts :=
  fun _ isAdmin => isAdmin

theorem KeepsAdmins.trans (first second third : Accounts) (before : KeepsAdmins first second)
    (after : KeepsAdmins second third) : KeepsAdmins first third :=
  fun id isAdmin => after id (before id isAdmin)

private theorem KeepsAdmins.hasActiveAdmin (before after : Accounts)
    (kept : KeepsAdmins before after) (isGood : HasActiveAdmin before) : HasActiveAdmin after := by
  obtain ⟨id, isAdmin⟩ := hasActiveAdmin_iff.mp isGood
  exact hasActiveAdmin_iff.mpr ⟨id, kept id isAdmin⟩

private theorem KeepsAdmins.otherAdmin {before after : Accounts} (kept : KeepsAdmins before after)
    {id : Uuid} (other : before.users.OtherAdmin id) : after.users.OtherAdmin id := by
  obtain ⟨other, isAdmin, differs⟩ := other
  exact ⟨other, kept other isAdmin, differs⟩

end Administrators

section Writes

open UserTable

/-- A write that leaves every active administrator, or some other than one user. -/
def SafeWrite (accounts : Accounts) (write : UserWrite) : Prop :=
  ∀ users, write accounts.users = .ok users →
    (∀ id ∈ accounts.users.activeAdmins, id ∈ users.activeAdmins) ∨
      ∃ id, id ∈ users.activeAdmins

variable {users next : UserTable} {user : User} {loaded : UserModel} {id : Uuid}

private theorem activeAdmins_insert (inserted : users.insert user = .ok next)
    (isAdmin : id ∈ users.activeAdmins) : id ∈ next.activeAdmins := by
  unfold UserTable.insert at inserted
  split at inserted
  · cases inserted
  · split at inserted
    · cases inserted
    · cases inserted
      obtain ⟨model, inRows, role, active, same⟩ := mem_activeAdmins.mp isAdmin
      exact mem_activeAdmins.mpr ⟨model, List.mem_append_left _ inRows, role, active, same⟩

/-- An update changes no other user, and takes nothing from a user who is an administrator in
the loaded row and in the entity. -/
theorem activeAdmins_update (updated : users.update loaded user = .ok next)
    (isAdmin : id ∈ users.activeAdmins)
    (kept : id ≠ user.id ∨ (loaded.role = .admin ∧ loaded.isActive = true ∧
      user.role = .admin ∧ user.isActive = true)) : id ∈ next.activeAdmins := by
  unfold UserTable.update at updated
  split at updated
  · cases updated
  · split at updated
    · cases updated
    · cases updated
      obtain ⟨model, inRows, role, active, rfl⟩ := mem_activeAdmins.mp isAdmin
      apply mem_activeAdmins.mpr
      by_cases same : model.id = user.id
      · obtain differs | ⟨loadedRole, loadedActive, userRole, userActive⟩ := kept
        · exact absurd same differs
        · refine ⟨assign loaded user model, List.mem_map.mpr ⟨model, inRows, if_pos same⟩, ?_, ?_, rfl⟩
          · simp [assign, column, loadedRole, userRole, role]
          · simp [assign, column, loadedActive, userActive, active]
      · exact ⟨model, List.mem_map.mpr ⟨model, inRows, if_neg same⟩, role, active, rfl⟩

private theorem activeAdmins_delete {deleted : Uuid} (isAdmin : id ∈ users.activeAdmins)
    (differs : id ≠ deleted) : id ∈ (users.delete deleted).activeAdmins := by
  obtain ⟨model, inRows, role, active, rfl⟩ := mem_activeAdmins.mp isAdmin
  exact mem_activeAdmins.mpr
    ⟨model, List.mem_filter.mpr ⟨inRows, by simpa using differs⟩, role, active, rfl⟩

end Writes

section Assurances

/-- What a session is assured of while no administrator is taken away. -/
abbrev AssuredUsers {α : Type} (post : Accounts → α → Prop) (accounts : Accounts)
    (script : AccountScript α) : Prop :=
  Script.Assured KeepsAdmins post accounts script

variable {accounts : Accounts} {id : Uuid}

/-- The guard returns only when there is another active administrator. -/
theorem assured_ensureOtherAdminExists :
    AssuredUsers (fun later _ => later.users.OtherAdmin id) accounts
      (ensureOtherAdminExists id) := by
  unfold ensureOtherAdminExists findAll
  apply Script.assured_query
  intro later _
  split
  · rename_i found
    intro final onward
    apply onward.otherAdmin
    simp only [List.any_eq_true, List.mem_insertionSort, List.mem_map, decide_eq_true_eq] at found
    obtain ⟨_, ⟨model, inRows, rfl⟩, differs, role, active⟩ := found
    exact ⟨model.id, UserTable.mem_activeAdmins.mpr ⟨model, inRows, role, active, rfl⟩, differs⟩
  · trivial

/-- Saving a user is safe when there is another administrator, or the user is an active
administrator before and after. -/
theorem assured_saveUser {user : User}
    (safe : accounts.users.OtherAdmin user.id ∨ (user.id ∈ accounts.users.activeAdmins ∧
      user.role = .admin ∧ user.isActive = true)) :
    AssuredUsers SafeWrite accounts (UserRepository.save user) := by
  unfold UserRepository.save
  apply Script.assured_query
  intro later kept
  cases found : later.users.find user.id with
  | none => exact fun final _ users inserted => .inl fun id => activeAdmins_insert inserted
  | some loaded =>
      intro final onward users updated
      obtain other | ⟨isAdmin, role, active⟩ := safe
      · obtain ⟨other, isAdmin, differs⟩ := onward.otherAdmin (kept.otherAdmin other)
        exact .inr ⟨other, activeAdmins_update updated isAdmin (.inl differs)⟩
      · obtain ⟨inRows, isUser⟩ := UserTable.mem_of_find found
        obtain ⟨model, inLater, loadedRole, loadedActive, sameId⟩ :=
          UserTable.mem_activeAdmins.mp (kept _ isAdmin)
        obtain rfl := UserTable.eq_of_id inRows inLater (isUser.trans sameId.symm)
        exact .inl fun id wasAdmin =>
          activeAdmins_update updated wasAdmin (.inr ⟨loadedRole, loadedActive, role, active⟩)

private theorem assured_deleteUser (other : accounts.users.OtherAdmin id) :
    AssuredUsers SafeWrite accounts (deleteUser id) := by
  unfold deleteUser
  apply Script.assured_query
  intro later kept
  cases later.users.find id with
  | none =>
      intro final _ users unchanged
      cases unchanged
      exact .inl fun _ isAdmin => isAdmin
  | some model =>
      intro final onward users deleted
      cases deleted
      obtain ⟨other, isAdmin, differs⟩ := onward.otherAdmin (kept.otherAdmin other)
      exact .inr ⟨other, activeAdmins_delete isAdmin differs⟩

/-- Where a user is no active administrator, some other user is one. -/
theorem otherAdmin_of_notAdmin {model : UserModel} (isGood : HasActiveAdmin accounts)
    (inRows : model ∈ accounts.users.rows) (notAdmin : ¬(model.role = .admin ∧ model.isActive = true)) :
    accounts.users.OtherAdmin model.id := by
  obtain ⟨admin, inAdmins, role, active⟩ := isGood
  refine ⟨admin.id, UserTable.mem_activeAdmins.mpr ⟨admin, inAdmins, role, active, rfl⟩, ?_⟩
  intro same
  obtain rfl := UserTable.eq_of_id inAdmins inRows same
  exact notAdmin ⟨role, active⟩

/-- A change without the guard leaves an active administrator what he is. -/
theorem update_of_not_losesAdmin {hashPassword : String → String} {user updated : User}
    {data : UserUpdate} (unguarded : user.losesAdmin data = false) (role : user.role = .admin)
    (active : user.isActive = true) (isUpdate : user.update hashPassword data = .ok updated) :
    updated.role = .admin ∧ updated.isActive = true := by
  unfold User.update at isUpdate
  obtain ⟨username, -, isUpdate⟩ := bind_eq_ok.mp isUpdate
  obtain ⟨password, -, isUpdate⟩ := bind_eq_ok.mp isUpdate
  cases isUpdate
  simp only [User.losesAdmin, role, active, true_and, decide_eq_false_iff_not, not_or,
    not_not] at unguarded
  obtain ⟨keepsRole, keepsActive⟩ := unguarded
  constructor
  · cases given : data.role with
    | none => simpa [given] using role
    | some value => simp_all
  · cases given : data.isActive with
    | none => simpa [given] using active
    | some value => cases value <;> simp_all

theorem id_update {hashPassword : String → String} {user updated : User} {data : UserUpdate}
    (isUpdate : user.update hashPassword data = .ok updated) : updated.id = user.id := by
  unfold User.update at isUpdate
  obtain ⟨username, -, isUpdate⟩ := bind_eq_ok.mp isUpdate
  obtain ⟨password, -, isUpdate⟩ := bind_eq_ok.mp isUpdate
  cases isUpdate
  rfl

variable (hashPassword : String → String)

/-- The rule for a query by user name. -/
theorem assured_findByUsername {β : Type} {post : Accounts → β → Prop} (username : String)
    {next : Option User → AccountScript β}
    (rest : ∀ later found, KeepsAdmins accounts later → AssuredUsers post later (next found)) :
    AssuredUsers post accounts (findByUsername username >>= next) := by
  intro later kept
  change AssuredUsers post later (.ofExcept (later.users.findByUsername username) >>= next)
  apply Script.assured_ofExcept
  exact fun found _ => rest later found kept

private theorem assured_ensureUsernameFree {user : User} {data : UserUpdate} :
    AssuredUsers (fun later _ => KeepsAdmins accounts later) accounts
      (ensureUsernameFree user data) := by
  unfold ensureUsernameFree
  split
  · split
    · apply assured_findByUsername
      intro later existing kept
      split
      · trivial
      · exact fun final onward => kept.trans _ _ _ onward
    · exact fun final onward => onward
  · exact fun final onward => onward

/-- The rest of a change after the guard. -/
theorem assured_saveUpdate {user : User} {data : UserUpdate}
    (safe : accounts.users.OtherAdmin user.id ∨ (user.id ∈ accounts.users.activeAdmins ∧
      user.losesAdmin data = false ∧ user.role = .admin ∧ user.isActive = true)) :
    AssuredUsers (fun later updated => ∀ user write, updated = some (user, write) →
        SafeWrite later write) accounts (do
      let updated ← .ofExcept (user.update hashPassword data)
      let write ← UserRepository.save updated
      return some (updated, write)) := by
  apply Script.assured_ofExcept
  intro updated isUpdate
  have safeUpdate : accounts.users.OtherAdmin updated.id ∨
      (updated.id ∈ accounts.users.activeAdmins ∧ updated.role = .admin ∧
        updated.isActive = true) := by
    rw [id_update isUpdate]
    obtain other | ⟨isAdmin, unguarded, role, active⟩ := safe
    · exact .inl other
    · exact .inr ⟨isAdmin, update_of_not_losesAdmin unguarded role active isUpdate⟩
  apply Script.Assured.bind (assured_saveUser safeUpdate)
  rintro final write safeWrite later onward _ _ ⟨⟩
  exact safeWrite later onward

private theorem assured_updateUser (isGood : HasActiveAdmin accounts) (data : UserUpdate) :
    AssuredUsers (fun later updated => ∀ user write, updated = some (user, write) →
      SafeWrite later write) accounts (updateUser hashPassword id data) := by
  unfold updateUser findById
  apply Script.assured_query
  intro later kept
  cases found : later.users.find id with
  | none =>
      intro final _ user write none
      cases none
  | some model =>
      obtain ⟨inRows, rfl⟩ := UserTable.mem_of_find found
      apply Script.Assured.bind assured_ensureUsernameFree
      intro checked _ keptBoth
      have keptChecked := keptBoth checked (.refl checked)
      have otherOrAdmin : checked.users.OtherAdmin model.id ∨
          (model.id ∈ checked.users.activeAdmins ∧ model.role = .admin ∧ model.isActive = true) := by
        by_cases isAdmin : model.role = .admin ∧ model.isActive = true
        · exact .inr ⟨keptChecked _ (UserTable.mem_activeAdmins.mpr
            ⟨model, inRows, isAdmin.1, isAdmin.2, rfl⟩), isAdmin⟩
        · exact .inl (keptChecked.otherAdmin
            (otherAdmin_of_notAdmin (kept.hasActiveAdmin _ _ isGood) inRows isAdmin))
      unfold guardOtherAdmin
      cases guarded : model.toEntity.losesAdmin data with
      | true =>
          apply Script.Assured.bind assured_ensureOtherAdminExists
          intro asked _ other
          exact assured_saveUpdate hashPassword (.inl (other asked (.refl asked)))
      | false =>
          apply assured_saveUpdate hashPassword
          obtain other | ⟨isAdmin, role, active⟩ := otherOrAdmin
          · exact .inl other
          · exact .inr ⟨isAdmin, guarded, role, active⟩

private theorem assured_removeUser (isGood : HasActiveAdmin accounts) :
    AssuredUsers SafeWrite accounts (removeUser id) := by
  unfold removeUser findById
  apply Script.assured_query
  intro later kept
  cases found : later.users.find id with
  | none =>
      intro final _ users unchanged
      cases unchanged
      exact .inl fun _ isAdmin => isAdmin
  | some model =>
      obtain ⟨inRows, rfl⟩ := UserTable.mem_of_find found
      unfold guardOtherAdmin
      by_cases role : model.role = .admin
      · have guarded : decide (model.toEntity.role = .admin) = true := decide_eq_true role
        simp only [Option.map_some, guarded, if_true]
        apply Script.Assured.bind assured_ensureOtherAdminExists
        intro asked _ other
        exact assured_deleteUser (other asked (.refl asked))
      · have unguarded : decide (model.toEntity.role = .admin) = false := decide_eq_false role
        simp only [Option.map_some, unguarded]
        apply assured_deleteUser
        exact otherAdmin_of_notAdmin (kept.hasActiveAdmin _ _ isGood) inRows fun both => role both.1

/-- A request commits a safe write. -/
abbrev SafeCommit (accounts : Accounts) (commit : Commit PyException Accounts) : Prop :=
  ∀ next, commit accounts = .ok next → KeepsAdmins accounts next ∨ HasActiveAdmin next

theorem SafeWrite.commit {write : UserWrite} (safe : SafeWrite accounts write)
    (logs : List UserAuditLog) : SafeCommit accounts (commitUsers write logs) := by
  intro next committed
  unfold commitUsers at committed
  obtain ⟨users, written, committed⟩ := bind_eq_ok.mp committed
  cases committed
  obtain kept | left := safe users written
  · exact .inl kept
  · exact .inr (hasActiveAdmin_iff.mpr left)

end Assurances

section Requests

variable (hashPassword : String → String) {accounts : Accounts}

private theorem assured_requireAdmin {β : Type} {post : Accounts → β → Prop}
    (credentials : Credentials) {next : Unit → AccountScript β}
    (rest : ∀ later, KeepsAdmins accounts later → AssuredUsers post later (next ())) :
    AssuredUsers post accounts (requireAdmin credentials >>= next) := by
  intro later kept
  change AssuredUsers post later (_ >>= next)
  simp only [Script.bind]
  cases later.users.find credentials.userId with
  | none => trivial
  | some model =>
      simp only [Option.map_some]
      split
      · trivial
      · split
        · trivial
        · split
          · trivial
          · exact rest later kept

private theorem assured_createUserRoute (data : UserCreate) (newId : Uuid) (logId : String) :
    AssuredUsers SafeCommit accounts (createUserRoute hashPassword data newId logId) := by
  have created : AssuredUsers (fun later created => SafeWrite later created.2) accounts
      ((createUser hashPassword data newId).mapFailure badRequest) := by
    apply Script.Assured.mapFailure
    unfold createUser
    apply assured_findByUsername
    intro later existing _
    split
    · trivial
    · apply Script.assured_ofExcept
      intro user _ final _ users inserted
      exact .inl fun id => activeAdmins_insert inserted
  unfold createUserRoute
  apply Script.Assured.bind created
  intro final created safe later onward
  exact (safe later onward).commit _

private theorem assured_updateUserRoute (isGood : HasActiveAdmin accounts) (userId : Uuid)
    (data : UserUpdate) (logId : String) :
    AssuredUsers SafeCommit accounts (updateUserRoute hashPassword userId data logId) := by
  unfold updateUserRoute findById
  apply Script.assured_query
  intro later kept
  apply Script.Assured.bind
    ((assured_updateUser hashPassword (kept.hasActiveAdmin _ _ isGood) data).mapFailure badRequest)
  intro final updated safe
  cases updated with
  | none => trivial
  | some updated => exact fun last onward => (safe last onward _ _ rfl).commit _

private theorem assured_deleteUserRoute (isGood : HasActiveAdmin accounts) (userId : Uuid)
    (logId : String) : AssuredUsers SafeCommit accounts (deleteUserRoute userId logId) := by
  unfold deleteUserRoute findById
  apply Script.assured_query
  intro later kept
  cases later.users.find userId with
  | none => trivial
  | some model =>
      apply Script.Assured.bind
        ((assured_removeUser (kept.hasActiveAdmin _ _ isGood)).mapFailure badRequest)
      intro final write safe last onward
      exact (safe last onward).commit _

private theorem assured_rollbackUserRoute (isGood : HasActiveAdmin accounts)
    (auditLogId logId : String) :
    AssuredUsers SafeCommit accounts (rollbackUserRoute hashPassword auditLogId logId) := by
  unfold rollbackUserRoute findById
  apply Script.assured_query
  intro first keptFirst
  cases first.auditLogs.find? (·.id = auditLogId) with
  | none => trivial
  | some log =>
      apply Script.assured_ofExcept
      intro payload _
      apply Script.assured_query
      intro second keptSecond
      split
      · trivial
      · apply Script.Assured.bind (assured_updateUser hashPassword
          (keptSecond.hasActiveAdmin _ _ (keptFirst.hasActiveAdmin _ _ isGood)) payload)
        intro final updated safe
        cases updated with
        | none => trivial
        | some updated => exact fun last onward => (safe last onward _ _ rfl).commit _

/-- Each request alone leaves an active administrator. -/
theorem assured_userScript (request : UserRequest) (accounts : Accounts)
    (isGood : HasActiveAdmin accounts) :
    AssuredUsers SafeCommit accounts (userScript hashPassword request) := by
  have later_good := fun later (kept : KeepsAdmins accounts later) =>
    kept.hasActiveAdmin _ _ isGood
  cases request with
  | create credentials data newId logId =>
      apply assured_requireAdmin
      exact fun later _ => assured_createUserRoute hashPassword data newId logId
  | update credentials userId data logId =>
      apply assured_requireAdmin
      exact fun later kept =>
        assured_updateUserRoute hashPassword (later_good later kept) userId data logId
  | delete credentials userId logId =>
      apply assured_requireAdmin
      exact fun later kept => assured_deleteUserRoute (later_good later kept) userId logId
  | rollback credentials auditLogId logId =>
      apply assured_requireAdmin
      exact fun later kept =>
        assured_rollbackUserRoute hashPassword (later_good later kept) auditLogId logId

/-- The accounts after each step of an interleaving of requests. -/
def committedAccounts (accounts : Accounts) (arrivals : List (Arrival UserRequest)) :
    List Accounts :=
  observedRun (SharedData.act (userScript hashPassword) KeepsAdmins)
    ⟨accounts, 0, fun _ => none⟩ arrivals

/-- No two requests that take an active administrator away overlap: when such a request commits,
no other one has committed since it began. -/
def RemovalsApart (accounts : Accounts) (arrivals : List (Arrival UserRequest)) : Prop :=
  Throughout (SharedData.act (userScript hashPassword) KeepsAdmins)
    (SharedData.Undisturbed KeepsAdmins) ⟨accounts, 0, fun _ => none⟩ arrivals

/-- **The last administrator.** In every interleaving of requests in which the removals of
administrators do not overlap, there is an active administrator at every moment. -/
theorem hasActiveAdmin_of_removalsApart (isGood : HasActiveAdmin accounts)
    {arrivals : List (Arrival UserRequest)}
    (apart : RemovalsApart hashPassword accounts arrivals) :
    ∀ later ∈ committedAccounts hashPassword accounts arrivals, HasActiveAdmin later :=
  SharedData.good_of_undisturbed KeepsAdmins.refl KeepsAdmins.trans
    KeepsAdmins.hasActiveAdmin (assured_userScript hashPassword) isGood apart

/-- An administrator of a small example. -/
def operator (id : Nat) (username : String) : UserModel where
  id := ⟨BitVec.ofNat 128 id⟩
  username := username
  hashedPassword := "hash"
  role := .admin
  isActive := true
  tokenVersion := 0

def twoAdmins : Accounts := ⟨⟨[operator 1 "first", operator 2 "second"], by decide⟩, []⟩

/-- The request of one administrator to delete another. -/
def removalOf (actor removed : Nat) : UserRequest :=
  .delete ⟨⟨BitVec.ofNat 128 actor⟩, 0⟩ ⟨BitVec.ofNat 128 removed⟩ "log"

/-- One administrator is removed by another, whom it renames meanwhile and who afterwards asks to
become a viewer. -/
def removalAmidOthers : List (Arrival UserRequest) :=
  let rename : UserRequest :=
    .update ⟨⟨2⟩, 0⟩ ⟨1⟩ { username := some (some "chief") } "log"
  let demotion : UserRequest := .update ⟨⟨1⟩, 0⟩ ⟨1⟩ { role := some (some .viewer) } "log"
  [.start 0 (removalOf 1 2), .start 1 rename] ++
    (List.replicate 7 [.next 1, .next 0]).flatten ++ .start 2 demotion :: List.replicate 7 (.next 2)

theorem hasActiveAdmin_of_removalsApart_example :
    RemovalsApart id twoAdmins removalAmidOthers ∧
      (∀ later ∈ committedAccounts id twoAdmins removalAmidOthers, HasActiveAdmin later) ∧
      ((committedAccounts id twoAdmins removalAmidOthers).getLast?.map fun later =>
        later.users.rows.map fun user => (user.username, user.role)) = some [("chief", .admin)] := by
  have apart : RemovalsApart id twoAdmins removalAmidOthers := by
    unfold RemovalsApart
    decide +kernel
  have isGood : HasActiveAdmin twoAdmins := ⟨operator 1 "first", List.mem_cons_self, rfl, rfl⟩
  exact ⟨apart, hasActiveAdmin_of_removalsApart id isGood apart, by decide +kernel⟩

/-- Two administrators delete each other: both guards are asked before either commits, and no
administrator is left. -/
theorem noActiveAdmin_of_overlap : ¬∀ (accounts : Accounts), HasActiveAdmin accounts →
    ∀ arrivals, ∀ later ∈ committedAccounts id accounts arrivals, HasActiveAdmin later := by
  intro always
  have isGood : HasActiveAdmin twoAdmins := ⟨operator 1 "first", List.mem_cons_self, rfl, rfl⟩
  have each := always twoAdmins isGood ([.start 0 (removalOf 1 2), .start 1 (removalOf 2 1)] ++
    List.replicate 5 (.next 0) ++ List.replicate 5 (.next 1) ++ [.next 0, .next 1])
  unfold HasActiveAdmin at each
  revert each
  decide +kernel

end Requests

end TraefikManager.Auth
