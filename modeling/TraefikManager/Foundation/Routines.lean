import Mathlib.Logic.Function.Basic
import TraefikManager.Foundation.StepRun

/-!
# Interleaved routines

A routine awaits reads of committed data, commits changes and reports events, as often as it
likes. The routines of several requests take their steps in any order, and each may be dropped at
any of them. The rule at the end is about what is settled in the committed data: it stays so as
long as each change that is committed respects it, and a routine that begins later reports nothing
against it.
-/

namespace Foundation

/-- A program that awaits reads of data of type `D`, commits changes of type `W` and reports
events of type `E`. -/
inductive Routine (ε D W E α : Type) where
  | done (value : α)
  | fail (failure : ε)
  | read (resume : D → Routine ε D W E α)
  | commit (change : W) (rest : Routine ε D W E α)
  | report (event : E) (rest : Routine ε D W E α)

namespace Routine

variable {ε D W E α β : Type}

def bind : Routine ε D W E α → (α → Routine ε D W E β) → Routine ε D W E β
  | done value, next => next value
  | fail failure, _ => fail failure
  | read resume, next => read fun data => bind (resume data) next
  | commit change rest, next => commit change (bind rest next)
  | report event rest, next => report event (bind rest next)

instance : Monad (Routine ε D W E) where
  pure := done
  bind := bind

private theorem bind_done (routine : Routine ε D W E α) : routine.bind done = routine := by
  induction routine with
  | done value => rfl
  | fail failure => rfl
  | read resume ih => exact congrArg read (funext ih)
  | commit change rest ih => exact congrArg (commit change) ih
  | report event rest ih => exact congrArg (report event) ih

theorem bind_assoc {γ : Type} (routine : Routine ε D W E α) (next : α → Routine ε D W E β)
    (last : β → Routine ε D W E γ) :
    (routine.bind next).bind last = routine.bind fun value => (next value).bind last := by
  induction routine with
  | done value => rfl
  | fail failure => rfl
  | read resume ih => exact congrArg read (funext ih)
  | commit change rest ih => exact congrArg (commit change) ih
  | report event rest ih => exact congrArg (report event) ih

instance : LawfulMonad (Routine ε D W E) :=
  LawfulMonad.mk' _ bind_done (fun _ _ => rfl) bind_assoc

/-- Await what a query makes of the committed data. -/
def query (question : D → α) : Routine ε D W E α := read fun data => done (question data)

/-- A fallible computation. -/
def ofExcept : Except ε α → Routine ε D W E α
  | .ok value => done value
  | .error failure => fail failure

/-- Whatever settled data the routine reads, it reports nothing that is refused, and its value
satisfies `post`. -/
def Assured (settled : D → Prop) (refused : E → Prop) (post : α → Prop) :
    Routine ε D W E α → Prop
  | done value => post value
  | fail _ => True
  | read resume => ∀ data, settled data → Assured settled refused post (resume data)
  | commit _ rest => Assured settled refused post rest
  | report event rest => ¬refused event ∧ Assured settled refused post rest

section Rules

variable {settled : D → Prop} {refused : E → Prop} {post : α → Prop} {after : β → Prop}

/-- The rule for sequences. -/
theorem Assured.bind {routine : Routine ε D W E α} {next : α → Routine ε D W E β}
    (first : Assured settled refused post routine)
    (rest : ∀ value, post value → Assured settled refused after (next value)) :
    Assured settled refused after (routine >>= next) := by
  induction routine with
  | done value => exact rest value first
  | fail failure => trivial
  | read resume ih => exact fun data isSettled => ih data (first data isSettled)
  | commit change later ih => exact ih first
  | report event later ih => exact ⟨first.1, ih first.2⟩

/-- The rule for a read. -/
theorem assured_query {question : D → α} {next : α → Routine ε D W E β}
    (rest : ∀ data, settled data → Assured settled refused after (next (question data))) :
    Assured settled refused after (query question >>= next) := rest

/-- The rule for a fallible computation. -/
theorem assured_ofExcept {result : Except ε α} {next : α → Routine ε D W E β}
    (rest : ∀ value, result = .ok value → Assured settled refused after (next value)) :
    Assured settled refused after (ofExcept result >>= next) := by
  cases result with
  | error failure => trivial
  | ok value => exact rest value rfl

/-- The rule for a loop. -/
theorem assured_mapM {body : β → Routine ε D W E α}
    (each : ∀ item, Assured settled refused (fun _ => True) (body item)) (items : List β) :
    Assured settled refused (fun _ => True) (items.mapM body) := by
  induction items with
  | nil => trivial
  | cons item items ih =>
      rw [List.mapM_cons]
      exact (each item).bind fun _ _ => ih.bind fun _ _ => trivial

end Rules

end Routine

section Turns

variable {ε D W E R : Type}

/-- Committed data, the routines that have begun with the time of their beginning, and what was
reported by routines of which beginning. The clock counts the turns. -/
structure Concurrent (ε D W E : Type) where
  stored : D
  clock : Nat
  begun : Nat → Option (Nat × Routine ε D W E Unit)
  reports : List (Nat × E)

/-- A request begins its routine, or a routine takes its next step or is dropped. -/
inductive Turn (R : Type) where
  | start (slot : Nat) (request : R)
  | next (slot : Nat)
  | drop (slot : Nat)

variable (apply : W → D → Except ε D) (program : R → Routine ε D W E Unit)

namespace Concurrent

/-- Nothing has begun. -/
def initial (stored : D) : Concurrent ε D W E := ⟨stored, 0, fun _ => none, []⟩

/-- One routine in another state, when its turn is over. -/
def turned (shared : Concurrent ε D W E) (slot : Nat)
    (routine : Option (Nat × Routine ε D W E Unit)) : Concurrent ε D W E :=
  { shared with clock := shared.clock + 1, begun := Function.update shared.begun slot routine }

/-- A step of a routine. A change that is refused ends it. -/
def advance (shared : Concurrent ε D W E) (slot beganAt : Nat) :
    Routine ε D W E Unit → Concurrent ε D W E
  | .done _ => shared.turned slot none
  | .fail _ => shared.turned slot none
  | .read resume => shared.turned slot (some (beganAt, resume shared.stored))
  | .commit change rest =>
      match apply change shared.stored with
      | .error _ => shared.turned slot none
      | .ok stored => { shared.turned slot (some (beganAt, rest)) with stored }
  | .report event rest =>
      { shared.turned slot (some (beganAt, rest)) with
        reports := shared.reports ++ [(beganAt, event)] }

/-- A turn; one that is nobody's changes nothing. -/
def step (shared : Concurrent ε D W E) : Turn R → Concurrent ε D W E
  | .start slot request =>
      match shared.begun slot with
      | some _ => shared
      | none => shared.turned slot (some (shared.clock, program request))
  | .next slot =>
      match shared.begun slot with
      | none => shared
      | some (beganAt, routine) => shared.advance apply slot beganAt routine
  | .drop slot => shared.turned slot none

def run (shared : Concurrent ε D W E) (turns : List (Turn R)) : Concurrent ε D W E :=
  turns.foldl (step apply program) shared

/-- A turn with the data it leaves. -/
def act (turn : Turn R) (shared : Concurrent ε D W E) : Concurrent ε D W E × D :=
  (shared.step apply program turn, (shared.step apply program turn).stored)

/-- The change that a routine is about to commit. -/
def pendingOf : Routine ε D W E Unit → Option W
  | .commit change _ => some change
  | _ => none

/-- The change that the next turn commits. -/
def pending (shared : Concurrent ε D W E) : Turn R → Option W
  | .next slot => (shared.begun slot).bind fun begun => pendingOf begun.2
  | _ => none

/-- The turn commits an allowed change or none. -/
abbrev Respects (allowed : W → Prop) (turn : Turn R) (shared : Concurrent ε D W E) : Prop :=
  ∀ change ∈ shared.pending turn, allowed change

/-- No routine began later than now. -/
structure Timely (shared : Concurrent ε D W E) : Prop where
  begun : ∀ slot beganAt routine, shared.begun slot = some (beganAt, routine) →
    beganAt < shared.clock
  reports : ∀ report ∈ shared.reports, report.1 < shared.clock

/-- What is settled, and what the routines that began since some time may still report. -/
structure Settled (settled : D → Prop) (refused : E → Prop) (since : Nat)
    (shared : Concurrent ε D W E) : Prop where
  stored : settled shared.stored
  begun : ∀ slot beganAt routine, shared.begun slot = some (beganAt, routine) →
    since ≤ beganAt → Routine.Assured settled refused (fun _ => True) routine
  reports : ∀ report ∈ shared.reports, since ≤ report.1 → ¬refused report.2

variable {apply program} {settled : D → Prop} {refused : E → Prop} {allowed : W → Prop}
  {since : Nat} {shared : Concurrent ε D W E}

private theorem begun_turned {slot other : Nat} {routine : Option (Nat × Routine ε D W E Unit)} :
    (shared.turned slot routine).begun other =
      if other = slot then routine else shared.begun other :=
  Function.update_apply _ _ _ _

private theorem timely_initial (stored : D) : (initial stored : Concurrent ε D W E).Timely :=
  ⟨nofun, nofun⟩

theorem Timely.turned (timely : shared.Timely) {slot : Nat}
    {routine : Option (Nat × Routine ε D W E Unit)}
    (isTimely : ∀ begun, routine = some begun → begun.1 < shared.clock + 1) :
    (shared.turned slot routine).Timely where
  begun := by
    intro other beganAt rest isBegun
    rw [begun_turned] at isBegun
    split at isBegun
    · exact isTimely _ isBegun
    · exact Nat.lt_succ_of_lt (timely.begun other beganAt rest isBegun)
  reports := fun report listed => Nat.lt_succ_of_lt (timely.reports report listed)

theorem Timely.step (timely : shared.Timely) (turn : Turn R) :
    (shared.step apply program turn).Timely := by
  cases turn with
  | start slot request =>
      simp only [Concurrent.step]
      cases shared.begun slot with
      | some begun => exact timely
      | none =>
          apply timely.turned
          rintro begun ⟨⟩
          exact Nat.lt_succ_self _
  | drop slot => exact timely.turned nofun
  | next slot =>
      simp only [Concurrent.step]
      cases isBegun : shared.begun slot with
      | none => exact timely
      | some begun =>
          obtain ⟨beganAt, routine⟩ := begun
          have earlier := Nat.lt_succ_of_lt (timely.begun slot beganAt routine isBegun)
          have goesOn : ∀ rest, (shared.turned slot (some (beganAt, rest))).Timely := by
            intro rest
            apply timely.turned
            rintro begun ⟨⟩
            exact earlier
          cases routine with
          | done value => exact timely.turned nofun
          | fail failure => exact timely.turned nofun
          | read resume => exact goesOn _
          | commit change rest =>
              simp only [advance]
              cases apply change shared.stored with
              | error failure => exact timely.turned nofun
              | ok stored => exact ⟨(goesOn rest).begun, (goesOn rest).reports⟩
          | report event rest =>
              refine ⟨(goesOn rest).begun, fun report listed => ?_⟩
              obtain inReports | isNew := List.mem_append.mp listed
              · exact (goesOn rest).reports report inReports
              · rw [List.mem_singleton.mp isNew]
                exact earlier

theorem Settled.turned (isSettled : shared.Settled settled refused since) {slot : Nat}
    {routine : Option (Nat × Routine ε D W E Unit)}
    (assured : ∀ begun, routine = some begun → since ≤ begun.1 →
      Routine.Assured settled refused (fun _ => True) begun.2) :
    (shared.turned slot routine).Settled settled refused since where
  stored := isSettled.stored
  begun := by
    intro other beganAt rest isBegun
    rw [begun_turned] at isBegun
    split at isBegun
    · exact assured _ isBegun
    · exact isSettled.begun other beganAt rest isBegun
  reports := isSettled.reports

/-- A turn that commits an allowed change or none keeps what is settled. -/
theorem Settled.step
    (keeps : ∀ change data next, allowed change → settled data → apply change data = .ok next →
      settled next)
    (assured : ∀ request, Routine.Assured settled refused (fun _ => True) (program request))
    (isSettled : shared.Settled settled refused since) {turn : Turn R}
    (respects : Respects allowed turn shared) :
    (shared.step apply program turn).Settled settled refused since := by
  cases turn with
  | start slot request =>
      simp only [Concurrent.step]
      cases shared.begun slot with
      | some begun => exact isSettled
      | none =>
          apply isSettled.turned
          rintro begun ⟨⟩ _
          exact assured request
  | drop slot => exact isSettled.turned nofun
  | next slot =>
      simp only [Concurrent.step]
      cases isBegun : shared.begun slot with
      | none => exact isSettled
      | some begun =>
          obtain ⟨beganAt, routine⟩ := begun
          have isAssured := isSettled.begun slot beganAt routine isBegun
          have goesOn : ∀ rest, (since ≤ beganAt →
              Routine.Assured settled refused (fun _ => True) rest) →
                (shared.turned slot (some (beganAt, rest))).Settled settled refused since := by
            intro rest isRest
            apply isSettled.turned
            rintro begun ⟨⟩
            exact isRest
          cases routine with
          | done value => exact isSettled.turned nofun
          | fail failure => exact isSettled.turned nofun
          | read resume => exact goesOn _ fun later => isAssured later _ isSettled.stored
          | commit change rest =>
              simp only [advance]
              have next := goesOn rest isAssured
              cases applied : apply change shared.stored with
              | error failure => exact isSettled.turned nofun
              | ok stored =>
                  have isAllowed : allowed change := by
                    apply respects
                    simp [pending, isBegun, pendingOf]
                  exact ⟨keeps change _ stored isAllowed isSettled.stored applied, next.begun,
                    next.reports⟩
          | report event rest =>
              have next := goesOn rest fun later => (isAssured later).2
              refine ⟨next.stored, next.begun, fun report listed later => ?_⟩
              obtain inReports | isNew := List.mem_append.mp listed
              · exact next.reports report inReports later
              · rw [List.mem_singleton.mp isNew] at later ⊢
                exact (isAssured later).1

theorem Timely.run (timely : shared.Timely) (turns : List (Turn R)) :
    (shared.run apply program turns).Timely := by
  induction turns generalizing shared with
  | nil => exact timely
  | cons turn turns ih => exact ih (timely.step turn)

theorem Settled.run
    (keeps : ∀ change data next, allowed change → settled data → apply change data = .ok next →
      settled next)
    (assured : ∀ request, Routine.Assured settled refused (fun _ => True) (program request))
    (isSettled : shared.Settled settled refused since) {turns : List (Turn R)}
    (respects : Throughout (act apply program) (Respects allowed) shared turns) :
    (shared.run apply program turns).Settled settled refused since := by
  induction turns generalizing shared with
  | nil => exact isSettled
  | cons turn turns ih =>
      exact ih (isSettled.step keeps assured respects.1) respects.2

/-- **Settled data.** What the committed data settle at some moment stays settled, and no routine
that begins afterwards reports anything against it, as long as the turns commit allowed changes
only. -/
theorem settled_of_run
    (keeps : ∀ change data next, allowed change → settled data → apply change data = .ok next →
      settled next)
    (assured : ∀ request, Routine.Assured settled refused (fun _ => True) (program request))
    {stored : D} {early late : List (Turn R)}
    (isSettled : settled ((initial stored).run apply program early).stored)
    (respects : Throughout (act apply program) (Respects allowed)
      ((initial stored).run apply program early) late) :
    settled ((initial stored).run apply program (early ++ late)).stored ∧
      ∀ report ∈ ((initial stored).run apply program (early ++ late)).reports,
        ((initial stored).run apply program early).clock ≤ report.1 → ¬refused report.2 := by
  have timely : ((initial stored).run apply program early).Timely :=
    (timely_initial stored).run early
  have start : ((initial stored).run apply program early).Settled settled refused
      ((initial stored).run apply program early).clock := by
    refine ⟨isSettled, ?_, ?_⟩
    · intro slot beganAt routine isBegun later
      exact absurd (timely.begun slot beganAt routine isBegun) (Nat.not_lt.mpr later)
    · intro report listed later
      exact absurd (timely.reports report listed) (Nat.not_lt.mpr later)
  have final := start.run keeps assured respects
  have whole : (initial stored).run apply program (early ++ late) =
      ((initial stored).run apply program early).run apply program late := List.foldl_append
  rw [whole]
  exact ⟨final.stored, final.reports⟩

end Concurrent

end Turns

end Foundation
