import Mathlib.Logic.Function.Basic
import TraefikManager.Foundation.StepRun

/-!
# Interleaved requests on shared data

A script awaits reads of committed data, one after the other, and ends with a change to commit
or with an error. Scripts of several sessions take their steps in any order. The rule at the
end reduces what every interleaving keeps to an assurance about each script alone, under the
assumption that the others only change the data as a relation allows.
-/

namespace Foundation

/-- A program that awaits reads of data of type `D`. -/
inductive Script (ε D α : Type) where
  | done (value : α)
  | fail (failure : ε)
  | read (resume : D → Script ε D α)

namespace Script

variable {ε D α β : Type}

def bind : Script ε D α → (α → Script ε D β) → Script ε D β
  | done value, next => next value
  | fail failure, _ => fail failure
  | read resume, next => read fun data => bind (resume data) next

instance : Monad (Script ε D) where
  pure := done
  bind := bind

/-- The script with its error as a handler reports it. -/
def mapFailure (report : ε → ε) : Script ε D α → Script ε D α
  | done value => done value
  | fail failure => fail (report failure)
  | read resume => read fun data => mapFailure report (resume data)

/-- Await what a query makes of the committed data. -/
def query (question : D → α) : Script ε D α := read fun data => done (question data)

/-- A fallible computation. -/
def ofExcept : Except ε α → Script ε D α
  | .ok value => done value
  | .error failure => fail failure

/-- What the script returns when nothing changes the data while it runs. -/
def alone (data : D) : Script ε D α → Except ε α
  | done value => .ok value
  | fail failure => .error failure
  | read resume => alone data (resume data)

/-- However the data change between two steps along `rely`, what the script returns satisfies
`post` of the data it ends on. -/
def Assured (rely : D → D → Prop) (post : D → α → Prop) : D → Script ε D α → Prop
  | data, done value => ∀ later, rely data later → post later value
  | _, fail _ => True
  | data, read resume => ∀ later, rely data later → Assured rely post later (resume later)

section Rules

variable {rely : D → D → Prop} {post : D → α → Prop} {after : D → β → Prop} {data : D}

@[simp] theorem pure_eq (value : α) : (pure value : Script ε D α) = done value := rfl

@[simp] theorem done_bind (value : α) (next : α → Script ε D β) :
    (done value >>= next) = next value := rfl

@[simp] theorem fail_bind (failure : ε) (next : α → Script ε D β) :
    (fail failure >>= next) = fail failure := rfl

@[simp] theorem assured_fail (failure : ε) : Assured rely post data (fail failure) := trivial

@[simp] theorem alone_done (value : α) : (done value : Script ε D α).alone data = .ok value := rfl

@[simp] theorem alone_fail (failure : ε) :
    (fail failure : Script ε D α).alone data = .error failure := rfl

@[simp] theorem alone_query (question : D → α) :
    (query question : Script ε D α).alone data = .ok (question data) := rfl

@[simp] theorem alone_ofExcept (result : Except ε α) :
    (ofExcept result : Script ε D α).alone data = result := by
  cases result <;> rfl

/-- A sequence returns when its parts do, one after the other. -/
theorem alone_bind (script : Script ε D α) (next : α → Script ε D β) :
    (script >>= next).alone data = script.alone data >>= fun value => (next value).alone data := by
  induction script with
  | done value => rfl
  | fail failure => rfl
  | read resume ih => exact ih data

/-- An assurance holds of the data the script goes on from, however they changed meanwhile. -/
theorem Assured.later (transitive : ∀ a b c, rely a b → rely b c → rely a c)
    {script : Script ε D α} {data later : D} (assured : Assured rely post data script)
    (changed : rely data later) : Assured rely post later script := by
  cases script with
  | done value => exact fun final onward => assured final (transitive _ _ _ changed onward)
  | fail failure => trivial
  | read resume => exact fun final onward => assured final (transitive _ _ _ changed onward)

/-- The rule for sequences. -/
theorem Assured.bind {script : Script ε D α}
    {next : α → Script ε D β} {data : D} (first : Assured rely post data script)
    (rest : ∀ data value, (∀ later, rely data later → post later value) →
      Assured rely after data (next value)) :
    Assured rely after data (script >>= next) := by
  induction script generalizing data with
  | done value => exact rest data value first
  | fail failure => trivial
  | read resume ih => exact fun later changed => ih later (first later changed)

/-- The rule for a read: the answer is the one of some data between. -/
theorem assured_query {question : D → α}
    {next : α → Script ε D β} {data : D}
    (rest : ∀ later, rely data later → Assured rely after later (next (question later))) :
    Assured rely after data (query question >>= next) :=
  fun later changed => rest later changed

/-- How an error is reported does not matter. -/
theorem Assured.mapFailure {script : Script ε D α} {data : D} (report : ε → ε)
    (assured : Assured rely post data script) :
    Assured rely post data (script.mapFailure report) := by
  induction script generalizing data with
  | done value => exact assured
  | fail failure => trivial
  | read resume ih => exact fun later changed => ih later (assured later changed)

/-- The rule for a fallible computation. -/
theorem assured_ofExcept {result : Except ε α} {next : α → Script ε D β} {data : D}
    (rest : ∀ value, result = .ok value → Assured rely after data (next value)) :
    Assured rely after data (ofExcept result >>= next) := by
  cases result with
  | error failure => trivial
  | ok value => exact rest value rfl

end Rules

end Script

section Sessions

variable {ε D R : Type}

/-- The change a request commits; the data may refuse it. -/
abbrev Commit (ε D : Type) := D → Except ε D

/-- An open session: its script, and the version of the data when it began. -/
structure OpenSession (ε D : Type) where
  openedAt : Nat
  script : Script ε D (Commit ε D)

/-- Committed data with the sessions that are open. The version counts the commits that took
something away. -/
structure SharedData (ε D : Type) where
  stored : D
  version : Nat
  sessions : Nat → Option (OpenSession ε D)

/-- A request arrives on a new session, or a session takes its next step. -/
inductive Arrival (R : Type) where
  | start (session : Nat) (request : R)
  | next (session : Nat)

variable (program : R → Script ε D (Commit ε D)) (rely : D → D → Prop) [DecidableRel rely]

/-- The data with one session in another state. -/
def SharedData.withSession (shared : SharedData ε D) (session : Nat)
    (opened : Option (OpenSession ε D)) : SharedData ε D :=
  { shared with sessions := Function.update shared.sessions session opened }

/-- The data a session commits; what is taken away makes a new version. -/
def SharedData.commit (shared : SharedData ε D) (session : Nat) (stored : D) : SharedData ε D where
  stored := stored
  version := if rely shared.stored stored then shared.version else shared.version + 1
  sessions := Function.update shared.sessions session none

/-- A step of one session: awaiting a read, or ending the request. -/
def SharedData.step (shared : SharedData ε D) : Arrival R → SharedData ε D
  | .start session request =>
      match shared.sessions session with
      | some _ => shared
      | none => shared.withSession session (some ⟨shared.version, program request⟩)
  | .next session =>
      match shared.sessions session with
      | none => shared
      | some ⟨openedAt, .read resume⟩ =>
          shared.withSession session (some ⟨openedAt, resume shared.stored⟩)
      | some ⟨_, .fail _⟩ => shared.withSession session none
      | some ⟨_, .done commit⟩ =>
          match commit shared.stored with
          | .error _ => shared.withSession session none
          | .ok stored => shared.commit rely session stored

/-- A step with the data it leaves committed. -/
def SharedData.act (arrival : Arrival R) (shared : SharedData ε D) : SharedData ε D × D :=
  (shared.step program rely arrival, (shared.step program rely arrival).stored)

/-- When a session's commit takes something away, no other such commit was made since the
session began. -/
def SharedData.undisturbed : Arrival R → SharedData ε D → Bool
  | .start _ _, _ => true
  | .next session, shared =>
      match shared.sessions session with
      | some ⟨openedAt, .done commit⟩ =>
          match commit shared.stored with
          | .ok stored => rely shared.stored stored ∨ openedAt = shared.version
          | .error _ => true
      | _ => true

abbrev SharedData.Undisturbed (arrival : Arrival R) (shared : SharedData ε D) : Prop :=
  shared.undisturbed rely arrival = true

/-- What holds of the data and of the open sessions at every moment. -/
structure SharedData.Sound (good : D → Prop) (shared : SharedData ε D) : Prop where
  stored : good shared.stored
  opened : ∀ session opened, shared.sessions session = some opened →
    opened.openedAt ≤ shared.version ∧ (opened.openedAt = shared.version →
      Script.Assured rely
        (fun data commit => ∀ next, commit data = .ok next → rely data next ∨ good next)
        shared.stored opened.script)

variable {program rely} {good : D → Prop}

omit [DecidableRel rely] in
theorem SharedData.Sound.withSession {shared : SharedData ε D} (sound : shared.Sound rely good)
    {session : Nat} {opened : Option (OpenSession ε D)}
    (isSound : ∀ current, opened = some current →
      current.openedAt ≤ shared.version ∧ (current.openedAt = shared.version →
        Script.Assured rely
          (fun data commit => ∀ next, commit data = .ok next → rely data next ∨ good next)
          shared.stored current.script)) :
    (shared.withSession session opened).Sound rely good where
  stored := sound.stored
  opened := by
    intro other current isOpen
    by_cases same : other = session
    · subst same
      exact isSound current (by simpa [SharedData.withSession] using isOpen)
    · exact sound.opened other current (by simpa [SharedData.withSession, same] using isOpen)

/-- A commit keeps soundness when it leaves good data, and takes nothing away from the sessions
of its version. -/
theorem SharedData.Sound.commit (transitive : ∀ a b c, rely a b → rely b c → rely a c)
    {shared : SharedData ε D} (sound : shared.Sound rely good) (session : Nat) {stored : D}
    (isGood : good stored) : (shared.commit rely session stored).Sound rely good where
  stored := isGood
  opened := by
    intro other opened isOther
    unfold SharedData.commit at isOther ⊢
    by_cases same : other = session
    · simp [same] at isOther
    · obtain ⟨bound, assured⟩ := sound.opened other opened (by simpa [same] using isOther)
      by_cases kept : rely shared.stored stored
      · simp only [if_pos kept]
        exact ⟨bound, fun sameVersion => (assured sameVersion).later transitive kept⟩
      · simp only [if_neg kept]
        exact ⟨by omega, fun sameVersion => by omega⟩

/-- A step keeps soundness when each request is assured to leave good data, and the step does
not disturb a session that takes something away. -/
theorem SharedData.Sound.step (reflexive : ∀ data, rely data data)
    (transitive : ∀ a b c, rely a b → rely b c → rely a c)
    (keeps : ∀ data next, rely data next → good data → good next)
    (assured : ∀ request data, good data → Script.Assured rely
      (fun data commit => ∀ next, commit data = .ok next → rely data next ∨ good next)
      data (program request))
    {shared : SharedData ε D} {arrival : Arrival R} (sound : shared.Sound rely good)
    (undisturbed : SharedData.Undisturbed rely arrival shared) :
    (shared.step program rely arrival).Sound rely good := by
  cases arrival with
  | start session request =>
      simp only [SharedData.step]
      cases shared.sessions session with
      | some opened => exact sound
      | none =>
          apply sound.withSession
          rintro current ⟨⟩
          exact ⟨Nat.le_refl _, fun _ => assured request shared.stored sound.stored⟩
  | next session =>
      simp only [SharedData.step]
      cases isOpen : shared.sessions session with
      | none => exact sound
      | some opened =>
          obtain ⟨openedAt, script⟩ := opened
          obtain ⟨bound, current⟩ := sound.opened session _ isOpen
          cases script with
          | fail failure => exact sound.withSession (by simp)
          | read resume =>
              apply sound.withSession
              rintro next ⟨⟩
              exact ⟨bound, fun same => current same shared.stored (reflexive _)⟩
          | done commit =>
              cases committed : commit shared.stored with
              | error failure =>
                  simp only [committed]
                  exact sound.withSession (by simp)
              | ok stored =>
                  simp only [committed]
                  apply sound.commit transitive
                  by_cases kept : rely shared.stored stored
                  · exact keeps _ _ kept sound.stored
                  · have sameVersion : openedAt = shared.version := by
                      simp only [SharedData.Undisturbed, SharedData.undisturbed, isOpen, committed,
                        decide_eq_true_eq] at undisturbed
                      exact undisturbed.resolve_left kept
                    obtain taken | isGood :=
                      current sameVersion shared.stored (reflexive _) stored committed
                    · exact absurd taken kept
                    · exact isGood

/-- **Interleavings.** From good data without open sessions, every interleaving whose steps are
undisturbed commits good data only. -/
theorem SharedData.good_of_undisturbed (reflexive : ∀ data, rely data data)
    (transitive : ∀ a b c, rely a b → rely b c → rely a c)
    (keeps : ∀ data next, rely data next → good data → good next)
    (assured : ∀ request data, good data → Script.Assured rely
      (fun data commit => ∀ next, commit data = .ok next → rely data next ∨ good next)
      data (program request))
    {initial : D} (isGood : good initial) {arrivals : List (Arrival R)}
    (undisturbed : Throughout (SharedData.act program rely) (SharedData.Undisturbed rely)
      ⟨initial, 0, fun _ => none⟩ arrivals) :
    ∀ stored ∈ observedRun (SharedData.act program rely) ⟨initial, 0, fun _ => none⟩ arrivals,
      good stored := by
  have fromSound : ∀ (arrivals : List (Arrival R)) (shared : SharedData ε D),
      shared.Sound rely good →
      Throughout (SharedData.act program rely) (SharedData.Undisturbed rely) shared arrivals →
      ∀ stored ∈ observedRun (SharedData.act program rely) shared arrivals, good stored := by
    intro arrivals
    induction arrivals with
    | nil =>
        intro shared _ _ stored inRun
        cases inRun
    | cons arrival arrivals ih =>
        intro shared sound met stored inRun
        have next := sound.step reflexive transitive keeps assured met.1
        obtain rfl | later := List.mem_cons.mp inRun
        · exact next.stored
        · exact ih _ next met.2 stored later
  exact fromSound arrivals _ ⟨isGood, fun session opened isOpen => by cases isOpen⟩ undisturbed

end Sessions

end Foundation
