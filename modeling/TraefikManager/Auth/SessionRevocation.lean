import TraefikManager.Auth.SessionAwaits

/-!
# Ended sessions

A session that was revoked or removed is accepted no more, unless a request that had checked it
before writes it back: the row that its `save` loads again is revoked or gone then, and becomes
one that is neither.
-/

namespace TraefikManager.Auth

open Foundation

section Ends

variable {id : String} {data next : SessionData}

/-- The session was revoked or removed. -/
def Ended (id : String) (data : SessionData) : Prop :=
  ∀ row ∈ data.sessions.rows, row.id = id → row.revokedAt ≠ none

instance : Decidable (Ended id data) :=
  inferInstanceAs (Decidable (∀ row ∈ data.sessions.rows, row.id = id → row.revokedAt ≠ none))

/-- A session that is written back unrevoked was unrevoked when its row was loaded again. -/
def SessionWrite.FoundUnrevoked : SessionWrite → Prop
  | .save loaded authSession =>
      authSession.revokedAt = none → ∃ row ∈ loaded, row.revokedAt = none
  | .deleteInactive _ => True

instance : DecidablePred SessionWrite.FoundUnrevoked
  | .save loaded authSession =>
      inferInstanceAs (Decidable (authSession.revokedAt = none →
        ∃ row ∈ loaded, row.revokedAt = none))
  | .deleteInactive _ => .isTrue trivial

abbrev FoundUnrevoked (writes : List SessionWrite) : Prop :=
  ∀ write ∈ writes, write.FoundUnrevoked

private theorem revokedAt_assign {loaded authSession current : AuthSession}
    (revoked : current.revokedAt ≠ none)
    (found : authSession.revokedAt = none → loaded.revokedAt = none) :
    (loaded.assign authSession current).revokedAt ≠ none := by
  have column : (loaded.assign authSession current).revokedAt =
      (if authSession.revokedAt = loaded.revokedAt then current.revokedAt
        else authSession.revokedAt).map Datetime.persisted := rfl
  rw [column]
  by_cases same : authSession.revokedAt = loaded.revokedAt
  · rw [if_pos same]
    simpa using revoked
  · rw [if_neg same]
    intro isNone
    have unrevoked : authSession.revokedAt = none := by simpa using isNone
    exact same (unrevoked.trans (found unrevoked).symm)

/-- A statement that finds what it writes back unrevoked brings no ended session back. -/
theorem ended_apply {write : SessionWrite} (found : write.FoundUnrevoked) (ended : Ended id data)
    (applied : write.apply data = .ok next) : Ended id next := by
  cases write with
  | deleteInactive now =>
      cases applied
      exact fun row listed => ended row (List.mem_filter.mp listed).1
  | save loaded authSession =>
      cases loaded with
      | none =>
          simp only [SessionWrite.apply, SessionTable.insert] at applied
          split at applied
          · cases applied
          · cases applied
            intro row listed isRow
            obtain inRows | isNew := List.mem_append.mp listed
            · exact ended row inRows isRow
            · rw [List.mem_singleton.mp isNew]
              intro isNone
              obtain ⟨_, isSome, -⟩ := found (by simpa [AuthSession.persisted] using isNone)
              cases isSome
      | some loaded =>
          simp only [SessionWrite.apply, SessionTable.update] at applied
          split at applied
          · cases applied
          · cases applied
            intro row listed isRow
            obtain ⟨current, inRows, isCurrent⟩ := List.mem_map.mp listed
            split at isCurrent
            · subst isCurrent
              refine revokedAt_assign (ended current inRows isRow) fun unrevoked => ?_
              obtain ⟨_, isSome, isNone⟩ := found unrevoked
              cases isSome
              exact isNone
            · exact isCurrent ▸ ended current inRows (isCurrent ▸ isRow)

private theorem ended_commitWrites {writes : List SessionWrite} (found : FoundUnrevoked writes)
    (ended : Ended id data) (committed : commitWrites writes data = .ok next) : Ended id next := by
  induction writes generalizing data with
  | nil =>
      cases committed
      exact ended
  | cons write writes ih =>
      obtain ⟨here, later⟩ := List.forall_mem_cons.mp found
      rw [commitWrites, List.foldlM_cons, bind_eq_ok] at committed
      obtain ⟨middle, applied, rest⟩ := committed
      exact ih later (ended_apply here ended applied) rest

end Ends

namespace Awaited

section Acceptance

variable {environment : AccessEnvironment} {id : String}

/-- What a routine does that begins when a session has ended: it is not accepted with it. -/
abbrev Refuses {α : Type} (id : String) (post : α → Prop) (routine : SessionRoutine α) : Prop :=
  routine.Assured (Ended id) (· = id) post

private theorem refuses_save {authSession : AuthSession} :
    Refuses id (fun _ => True) (SessionRepository.save authSession) :=
  fun _ _ => trivial

/-- A session that was found is not the one that has ended, unless it was revoked. -/
theorem refuses_findAuthSession {cookieValue : String} :
    Refuses id (fun authSession => authSession.id = id → authSession.revokedAt ≠ none)
      (findAuthSession environment cookieValue) := by
  unfold findAuthSession
  split
  · trivial
  · rename_i sessionId secret _
    refine Routine.assured_query fun data ended => ?_
    cases found : data.sessions.find sessionId with
    | none => trivial
    | some row =>
        dsimp only [Option.map_some]
        split
        · intro isId
          have revoked := ended row (List.mem_of_find?_eq_some found) isId
          simpa [AuthSession.postInit] using revoked
        · trivial

private theorem refuses_findSessionUser {authSession : AuthSession} :
    Refuses id (fun _ => True) (findSessionUser authSession) := by
  unfold findSessionUser
  split
  · trivial
  · refine Routine.assured_query fun data _ => ?_
    split
    · trivial
    · split
      · trivial
      · split <;> trivial

private theorem refuses_touchAuthSessionIfDue {authSession : AuthSession} {now : Datetime} :
    Refuses id (fun touched => touched.id = authSession.id)
      (touchAuthSessionIfDue authSession now) := by
  unfold touchAuthSessionIfDue
  apply Routine.assured_ofExcept
  intro elapsed _
  split
  · exact rfl
  · apply Routine.assured_ofExcept
    intro idleTtl _
    exact refuses_save.bind fun _ _ => rfl

/-- An active session was not revoked. -/
theorem revokedAt_of_isActive {authSession : AuthSession} {now : Datetime}
    (isActive : authSession.isActive now = .ok true) : authSession.revokedAt = none := by
  by_contra revoked
  rw [AuthSession.isActive, if_pos revoked] at isActive
  cases isActive

/-- No request is accepted with an ended session. -/
theorem refuses_resolveAuthenticatedUser {request : HttpRequest} :
    Refuses id (fun _ => True) (resolveAuthenticatedUser environment request) := by
  unfold resolveAuthenticatedUser
  split
  · trivial
  · refine refuses_findAuthSession.bind fun authSession unlessRevoked => ?_
    apply Routine.assured_ofExcept
    intro isActive checked
    split
    · rename_i isTrue
      have unrevoked := revokedAt_of_isActive (isTrue ▸ checked)
      refine refuses_findSessionUser.bind fun user _ => ?_
      apply Routine.assured_ofExcept
      intro _ _
      refine refuses_touchAuthSessionIfDue.bind fun touched same => ?_
      exact ⟨fun isId => unlessRevoked (same.symm.trans isId) unrevoked, trivial⟩
    · trivial

private theorem refuses_act {user : User} {authSession : AuthSession} {later : Datetime}
    {action : SessionAction} : Refuses id (fun _ => True) (act user authSession later action) := by
  cases action with
  | none => trivial
  | logout => exact refuses_save.bind fun _ _ => trivial
  | logoutAll =>
      intro data _
      exact (Routine.assured_mapM (fun _ => refuses_save) _).bind fun _ _ => trivial
  | revokeSession sessionId =>
      refine Routine.assured_query fun data _ => ?_
      split
      · trivial
      · split
        · trivial
        · exact refuses_save.bind fun _ _ => trivial

private theorem refuses_routine (request : SessionRequest) :
    Refuses id (fun _ => True) (routine environment request) := by
  cases request with
  | authenticated request now action later =>
      exact refuses_resolveAuthenticatedUser.bind fun _ _ => refuses_act
  | cleanup now => trivial

end Acceptance

end Awaited

section Runs

open Awaited

variable {environment : AccessEnvironment} {data : SessionData}

/-- The state after some turns of requests. -/
abbrev afterTurns (environment : AccessEnvironment) (data : SessionData)
    (turns : List (Turn SessionRequest)) :
    Concurrent PyException SessionData (List SessionWrite) String :=
  (Concurrent.initial data).run commitWrites (routine environment) turns

/-- A session that has ended stays so, and no request that begins afterwards is accepted
with it. -/
def StaysEnded (environment : AccessEnvironment) (data : SessionData)
    (turns : List (Turn SessionRequest)) : Prop :=
  ∀ early late, early ++ late <+: turns → ∀ id, Ended id (afterTurns environment data early).stored →
    Ended id (afterTurns environment data (early ++ late)).stored ∧
      ∀ report ∈ (afterTurns environment data (early ++ late)).reports,
        (afterTurns environment data early).clock ≤ report.1 → report.2 ≠ id

/-- In a run in which whatever is written back unrevoked was unrevoked when it was loaded again,
sessions that have ended stay so. -/
theorem staysEnded_of_foundUnrevoked {turns : List (Turn SessionRequest)}
    (found : Throughout (Concurrent.act commitWrites (routine environment))
      (Concurrent.Respects FoundUnrevoked) (Concurrent.initial data) turns) :
    StaysEnded environment data turns := by
  rintro early late ⟨rest, rfl⟩ id ended
  have keeps : ∀ writes before after, FoundUnrevoked writes → Ended id before →
      commitWrites writes before = .ok after → Ended id after :=
    fun _ _ _ => ended_commitWrites
  exact Concurrent.settled_of_run keeps refuses_routine ended found.of_prefix.of_append

end Runs

section Samples

open Awaited

def sampleAccess : AccessEnvironment where
  now := 0
  hashSessionSecret := id
  encodesHeader := fun _ => true

def sampleSession : AuthSession where
  id := "s"
  userId := "00000000-0000-0000-0000-000000000001"
  tokenVersion := 0
  sessionSecretHash := "k"
  issuedAt := ⟨false, 0⟩
  lastSeenAt := some ⟨false, 0⟩
  expiresAt := ⟨false, 3600000000⟩
  idleExpiresAt := ⟨false, 1800000000⟩

def sampleUser : UserModel where
  id := ⟨1⟩
  username := "admin"
  hashedPassword := ""
  role := .admin
  isActive := true
  tokenVersion := 0

def sampleData : SessionData where
  users := { rows := [sampleUser], primaryKey := List.nodup_singleton _ }
  sessions := { rows := [sampleSession], primaryKey := List.nodup_singleton _ }

/-- A request with the cookies of the session and its token against forgery. -/
def sampleHttp (method : String) : HttpRequest where
  method
  headers := fun name => if name = "x-csrf-token" then some "c" else none
  cookies := fun name =>
    if name = "tm_session" then some "s.k" else if name = "tm_csrf" then some "c" else none

def reading : SessionRequest := .authenticated (sampleHttp "GET") 120000000 .none 120000002

def leaving : SessionRequest := .authenticated (sampleHttp "POST") 120000000 .logout 120000001

/-- A request finds its session, and a logout revokes it. -/
def untilLogout : List (Turn SessionRequest) :=
  [.start 0 reading, .next 0, .start 1 leaving] ++ List.replicate 7 (.next 1)

/-- The first request finds its user, loads the row of the session again and commits it. -/
def untilTouch : List (Turn SessionRequest) := List.replicate 3 (.next 0)

private theorem ended_sample :
    Ended "s" (afterTurns sampleAccess sampleData untilLogout).stored := by
  decide

/-- The request writes the session back as it found it before the logout. -/
theorem touch_unrevokes :
    Ended "s" (afterTurns sampleAccess sampleData untilLogout).stored ∧
      ¬Ended "s" (afterTurns sampleAccess sampleData (untilLogout ++ untilTouch)).stored ∧
        ¬StaysEnded sampleAccess sampleData (untilLogout ++ untilTouch) := by
  have unrevoked :
      ¬Ended "s" (afterTurns sampleAccess sampleData (untilLogout ++ untilTouch)).stored := by
    decide
  refine ⟨ended_sample, unrevoked, fun stays => ?_⟩
  exact unrevoked (stays untilLogout untilTouch List.prefix_rfl "s" ended_sample).1

/-- A request saves its touch while a logout is under way, and another one begins when the session
has ended. -/
def aroundLogout : List (Turn SessionRequest) :=
  [.start 0 reading, .start 1 leaving, .next 0, .next 1, .next 0, .next 1, .next 0, .next 0,
    .next 0] ++ List.replicate 6 (.next 1) ++ .start 2 reading :: List.replicate 3 (.next 2)

/-- The touch is committed before the logout has loaded the session again, and ends nothing. -/
theorem staysEnded_of_foundUnrevoked_sample :
    StaysEnded sampleAccess sampleData aroundLogout ∧
      Ended "s" (afterTurns sampleAccess sampleData aroundLogout).stored :=
  ⟨staysEnded_of_foundUnrevoked (by decide), by decide⟩

end Samples

end TraefikManager.Auth
