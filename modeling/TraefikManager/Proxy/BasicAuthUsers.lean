import TraefikManager.Domain.Normalized
import TraefikManager.Foundation.Collect
import TraefikManager.Proxy.ServiceRequests

/-!
# The users of a basic authentication request

A request names the users of a service, with a password for each one that is new or changes it.
The entries that are stored for them are those of the request, in its order, and a user without
a password keeps the stored hash.
-/

namespace TraefikManager.Proxy

open Foundation Domain

section Users

variable {hash : String → String} {verifies : String → String → Prop}
  {existing : Dict String String} {stored existingUsers users : List String}
  {submitted credentials : List BasicAuthCredential}

/-- A user name that the schema of the request lets through. -/
structure IsUserName (username : String) : Prop where
  trimmed : Text.strip username = username
  nonempty : username ≠ ""
  noColon : ':' ∉ username.toList
  oneLine : hasLineEnd username = false

/-- A text that may stand for a password in an entry. -/
structure IsPasswordHash (text : String) : Prop where
  trimmed : Text.strip text = text
  nonempty : text ≠ ""
  oneLine : hasLineEnd text = false

/-- What is known of a hash function that is correct: its results are texts of one line without
surrounding blanks, and verify their password. -/
structure IsCorrectHash (hash : String → String) (verifies : String → String → Prop) : Prop where
  form : ∀ password, IsPasswordHash (hash password)
  verified : ∀ password, verifies password (hash password)

/-- The user name of an entry. -/
def userName (user : String) : String := String.ofList (user.toList.takeWhile (· ≠ ':'))

/-- The entry of a submitted user: with the stored hash if no password is given, else with one
that verifies the password. -/
def Carries (verifies : String → String → Prop) (existingUsers : List String)
    (credential : BasicAuthCredential) (user : String) : Prop :=
  (credential.password = "" ∧ ∃ known,
      (existingHashes existingUsers).get? (Text.strip credential.username) = some known ∧
      Text.strip credential.username ++ ":" ++ known ∈ existingUsers ∧
      user = Text.strip credential.username ++ ":" ++ known) ∨
    credential.password ≠ "" ∧ ∃ hashed, verifies credential.password hashed ∧
      user = Text.strip credential.username ++ ":" ++ hashed

/-- The entries are those of the submitted users, each once and in their order, and the
normalizer of the aggregate leaves them as they are. -/
structure KeepsUsers (verifies : String → String → Prop) (existingUsers : List String)
    (submitted : List BasicAuthCredential) (users : List String) : Prop where
  order : users.map userName = submitted.map fun credential => Text.strip credential.username
  distinct : (users.map userName).Nodup
  carried : List.Forall₂ (Carries verifies existingUsers) submitted users
  accepted : normalizeBasicAuthUsers (some users) = .ok users

private theorem isUserName_of_validate {credential validated : BasicAuthCredential}
    (done : validateBasicAuthCredential credential = .ok validated) :
    validated = { credential with username := Text.strip credential.username } ∧
      IsUserName validated.username := by
  simp only [validateBasicAuthCredential, bind_eq_ok] at done
  obtain ⟨username, accepted, _, -, isValidated⟩ := done
  rw [accept] at accepted
  split at accepted
  · rename_i valid
    cases isValidated
    simp only [Bool.and_eq_true, decide_eq_true_eq, Bool.not_eq_true', Text.containsChar,
      List.contains_eq_mem, decide_eq_false_iff_not] at valid
    exact ⟨rfl, Text.strip_strip _, valid.1.1, valid.1.2, valid.2⟩
  · cases accepted

private theorem takeWhile_userName {username : String} (noColon : ':' ∉ username.toList)
    (rest : String) :
    (username ++ ":" ++ rest).toList.takeWhile (· ≠ ':') = username.toList ∧
      (username ++ ":" ++ rest).toList.dropWhile (· ≠ ':') = ':' :: rest.toList := by
  have chars : (username ++ ":" ++ rest).toList = username.toList ++ ':' :: rest.toList := by simp
  have keeps : ∀ c ∈ username.toList, decide (c ≠ ':') = true := by
    intro c listed
    rw [decide_eq_true_eq]
    intro isColon
    exact noColon (isColon ▸ listed)
  rw [chars, List.takeWhile_append_of_pos keeps, List.dropWhile_append_of_pos keeps]
  simp

private theorem userName_append {username rest : String} (noColon : ':' ∉ username.toList) :
    userName (username ++ ":" ++ rest) = username := by
  rw [userName, (takeWhile_userName noColon rest).1, String.ofList_toList]

/-- A stored hash is that of a stored entry. -/
theorem mem_of_existingHashes (tidy : Tidy IsBasicAuthUser existingUsers)
    {username known : String} (isKnown : (existingHashes existingUsers).get? username = some known) :
    username ++ ":" ++ known ∈ existingUsers ∧ IsPasswordHash known := by
  rw [existingHashes] at isKnown
  obtain ⟨user, listed, isEntry⟩ :=
    List.mem_map.mp (Dict.mem_entries_ofList (Dict.get?_eq_some_iff.mp isKnown))
  have stored := List.mem_of_mem_filter listed
  have valid := tidy.valid user stored
  obtain ⟨name, hashed, rfl, noColon, -, trimmed, -, nonempty⟩ := valid.parts
  obtain ⟨before, after⟩ := takeWhile_userName noColon hashed
  rw [before, after, List.drop_one, List.tail_cons, String.ofList_toList,
    String.ofList_toList] at isEntry
  obtain ⟨rfl, rfl⟩ := Prod.mk.inj isEntry
  have oneLine := valid.oneLine
  rw [hasLineEnd_append, Bool.or_eq_false_iff] at oneLine
  exact ⟨stored, trimmed, nonempty, oneLine.2⟩

private theorem isBasicAuthUser_append {username hashed : String} (isName : IsUserName username)
    (isHash : IsPasswordHash hashed) : IsBasicAuthUser (username ++ ":" ++ hashed) := by
  refine ⟨strip_join isName.trimmed isHash.trimmed isName.nonempty isHash.nonempty, ?_, username,
    hashed, rfl, isName.noColon, isName.trimmed, isHash.trimmed, isName.nonempty, isHash.nonempty⟩
  rw [hasLineEnd_append, hasLineEnd_append, isName.oneLine, isHash.oneLine]
  decide

/-- The hash that the loop takes for a user. -/
def Takes (hash : String → String) (existing : Dict String String)
    (credential : BasicAuthCredential) (user : String) : Prop :=
  ∃ hashed, user = credential.username ++ ":" ++ hashed ∧
    (credential.password ≠ "" ∧ hashed = hash credential.password ∨
      credential.password = "" ∧ existing.get? credential.username = some hashed)

/-- The loop returns an entry for each user, in order, and no user is named twice. -/
theorem takes_of_hashCredentials (names : ∀ credential ∈ credentials, IsUserName credential.username)
    {seen : List String} (done : hashCredentials hash existing seen credentials = .ok users) :
    List.Forall₂ (Takes hash existing) credentials users ∧
      (credentials.map (·.username)).Nodup ∧
      ∀ credential ∈ credentials, credential.username ∉ seen := by
  induction credentials generalizing seen users with
  | nil =>
      cases done
      exact ⟨.nil, List.nodup_nil, nofun⟩
  | cons credential rest ih =>
      obtain ⟨isName, names⟩ := List.forall_mem_cons.mp names
      rw [hashCredentials] at done
      simp only [isName.trimmed, if_neg isName.nonempty] at done
      split at done
      · cases done
      · rename_i new
        have step : ∃ hashed others, hashCredentials hash existing (credential.username :: seen)
            rest = .ok others ∧ users = (credential.username ++ ":" ++ hashed) :: others ∧
            (credential.password ≠ "" ∧ hashed = hash credential.password ∨
              credential.password = "" ∧ existing.get? credential.username = some hashed) := by
          split at done
          · rename_i given
            simp only [bind_eq_ok] at done
            obtain ⟨hashed, isHashed, others, isOthers, isUsers⟩ := done
            cases isHashed
            cases isUsers
            exact ⟨_, others, isOthers, rfl, .inl ⟨given, rfl⟩⟩
          · rename_i notGiven
            split at done
            · rename_i known isKnown
              simp only [bind_eq_ok] at done
              obtain ⟨hashed, isHashed, others, isOthers, isUsers⟩ := done
              cases isHashed
              cases isUsers
              exact ⟨known, others, isOthers, rfl, .inr ⟨not_not.mp notGiven, isKnown⟩⟩
            · cases done
        obtain ⟨hashed, others, isOthers, rfl, isHashed⟩ := step
        obtain ⟨taken, nodup, fresh⟩ := ih names isOthers
        refine ⟨.cons ⟨hashed, rfl, isHashed⟩ taken, List.nodup_cons.mpr ⟨?_, nodup⟩, ?_⟩
        · intro again
          obtain ⟨other, listed, same⟩ := List.mem_map.mp again
          exact fresh other listed (same ▸ List.mem_cons_self)
        · exact List.forall_mem_cons.mpr ⟨new, fun other listed inSeen =>
            fresh other listed (List.mem_cons_of_mem _ inSeen)⟩

/-- The credentials that a validated request carries, with their names trimmed. -/
theorem eq_map_of_validated
    (validated : submitted.mapM validateBasicAuthCredential = .ok credentials) :
    credentials = submitted.map (fun item => { item with username := Text.strip item.username }) ∧
      ∀ credential ∈ credentials, IsUserName credential.username := by
  have steps := forall₂_of_mapM validated
  clear validated
  induction steps with
  | nil => exact ⟨rfl, nofun⟩
  | cons first _ ih =>
      obtain ⟨trimmed, isName⟩ := isUserName_of_validate first
      obtain ⟨others, names⟩ := ih
      exact ⟨congrArg₂ List.cons trimmed others, List.forall_mem_cons.mpr ⟨isName, names⟩⟩

/-- A user keeps the stored hash when the password is blank, and otherwise carries a hash that
verifies it. -/
theorem carries_of_takes (correct : IsCorrectHash hash verifies)
    (tidy : Tidy IsBasicAuthUser existingUsers) {item : BasicAuthCredential} {user : String}
    (taken : Takes hash (existingHashes existingUsers)
      { item with username := Text.strip item.username } user) :
    Carries verifies existingUsers item user ∧
      ∃ hashed, IsPasswordHash hashed ∧ user = Text.strip item.username ++ ":" ++ hashed := by
  obtain ⟨hashed, rfl, ⟨given, rfl⟩ | ⟨blank, isKnown⟩⟩ := taken
  · exact ⟨.inr ⟨given, _, correct.verified item.password, rfl⟩, _, correct.form _, rfl⟩
  · obtain ⟨listed, isHash⟩ := mem_of_existingHashes tidy isKnown
    exact ⟨.inl ⟨blank, hashed, isKnown, listed, rfl⟩, hashed, isHash, rfl⟩

/-- Entries that are carried by users with distinct names are left as they are. -/
theorem keepsUsers_of_carries
    (names : ∀ item ∈ submitted, IsUserName (Text.strip item.username))
    (nodup : (submitted.map fun item => Text.strip item.username).Nodup)
    (carried : List.Forall₂ (fun item user => Carries verifies existingUsers item user ∧
      ∃ hashed, IsPasswordHash hashed ∧ user = Text.strip item.username ++ ":" ++ hashed)
      submitted users) :
    KeepsUsers verifies existingUsers submitted users := by
  have order : users.map userName = submitted.map fun item => Text.strip item.username := by
    clear nodup
    induction carried with
    | nil => rfl
    | cons first _ ih =>
        obtain ⟨isName, names⟩ := List.forall_mem_cons.mp names
        obtain ⟨-, hashed, -, rfl⟩ := first
        exact congrArg₂ List.cons (userName_append isName.noColon) (ih names)
  have valid : ∀ user ∈ users, IsBasicAuthUser user := by
    clear nodup order
    induction carried with
    | nil => exact nofun
    | cons first _ ih =>
        obtain ⟨isName, names⟩ := List.forall_mem_cons.mp names
        obtain ⟨-, hashed, isHash, rfl⟩ := first
        exact List.forall_mem_cons.mpr ⟨isBasicAuthUser_append isName isHash, ih names⟩
  have distinct : (users.map userName).Nodup := order ▸ nodup
  exact ⟨order, distinct, carried.imp fun _ _ both => both.1,
    basicAuthUsers_fixed ⟨distinct.of_map, valid⟩⟩

/-- A request whose users its schema has validated, on a service whose users the aggregate has
normalized, either fails or keeps who the users are. -/
theorem keepsUsers_of_hashBasicAuthCredentials (correct : IsCorrectHash hash verifies)
    (normalized : normalizeBasicAuthUsers (some stored) = .ok existingUsers)
    (validated : submitted.mapM validateBasicAuthCredential = .ok credentials)
    (done : hashBasicAuthCredentials hash credentials existingUsers = .ok users) :
    KeepsUsers verifies existingUsers submitted users := by
  obtain ⟨rfl, names⟩ := eq_map_of_validated validated
  obtain ⟨taken, nodup, -⟩ := takes_of_hashCredentials names done
  rw [List.forall₂_map_left_iff] at taken
  rw [List.map_map] at nodup
  apply keepsUsers_of_carries (fun item listed => names _ (List.mem_map_of_mem listed)) nodup
  exact taken.imp fun _ _ => carries_of_takes correct (basicAuthUsers_tidy normalized)

theorem keepsUsers_of_hashBasicAuthCredentials_sample :
    KeepsUsers (fun _ hashed => hashed = "$2y$05$new") ["alice:$2y$05$old"]
      [⟨" bob ", "secret"⟩, ⟨"alice", ""⟩] ["bob:$2y$05$new", "alice:$2y$05$old"] := by
  have correct : IsCorrectHash (fun _ => "$2y$05$new") (fun _ hashed => hashed = "$2y$05$new") :=
    ⟨fun _ => ⟨by decide +kernel, by decide, by decide +kernel⟩, fun _ => rfl⟩
  have normalized :
      normalizeBasicAuthUsers (some [" alice : $2y$05$old"]) = .ok ["alice:$2y$05$old"] := by
    decide +kernel
  have validated : [⟨" bob ", "secret"⟩, ⟨"alice", ""⟩].mapM validateBasicAuthCredential =
      .ok [⟨"bob", "secret"⟩, ⟨"alice", ""⟩] := by
    decide +kernel
  have done : hashBasicAuthCredentials (fun _ => "$2y$05$new")
      [⟨"bob", "secret"⟩, ⟨"alice", ""⟩] ["alice:$2y$05$old"] =
      .ok ["bob:$2y$05$new", "alice:$2y$05$old"] := by
    decide +kernel
  exact keepsUsers_of_hashBasicAuthCredentials correct normalized validated done

/-- The function relies on what the schema and the aggregate have checked. Names with a colon,
which the schema refuses, become entries of one user, and an entry that the normalizer did not
trim is returned as it is. -/
theorem hashBasicAuthCredentials_unchecked :
    (∃ users, hashBasicAuthCredentials (fun _ => "$2y$05$new") [⟨"a:b", "secret"⟩, ⟨"a:c", "secret"⟩]
        [] = .ok users ∧
      ¬KeepsUsers (fun _ hashed => hashed = "$2y$05$new") [] [⟨"a:b", "secret"⟩, ⟨"a:c", "secret"⟩]
        users) ∧
    ∃ users, hashBasicAuthCredentials (fun _ => "$2y$05$new") [⟨"alice", ""⟩] ["alice: $2y$05$old"] =
        .ok users ∧
      ¬KeepsUsers (fun _ hashed => hashed = "$2y$05$new") ["alice: $2y$05$old"] [⟨"alice", ""⟩]
        users := by
  refine ⟨⟨["a:b:$2y$05$new", "a:c:$2y$05$new"], by decide +kernel, ?_⟩,
    ["alice: $2y$05$old"], by decide +kernel, ?_⟩
  · intro keeps
    have distinct := keeps.distinct
    revert distinct
    decide
  · intro keeps
    have accepted := keeps.accepted
    revert accepted
    decide +kernel

end Users

end TraefikManager.Proxy
