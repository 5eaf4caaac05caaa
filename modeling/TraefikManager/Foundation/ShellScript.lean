import Mathlib.Data.List.Basic
import Mathlib.Data.List.Nodup
import Mathlib.Logic.Function.Basic

/-!
# Scripts of commands that may fail

A command changes a state and ends with a status, and a command that fails may have changed
the state as well. Under `errexit` a script stops at its first failing command. Without it
every command runs, whatever became of those before it.
-/

namespace Foundation

section ShellScript

variable {C σ : Type} (perform : C → σ → σ × Bool)

/-- Run commands up to the first that fails. The result is the state they leave and whether
all of them passed. -/
def errexit : List C → σ → σ × Bool
  | [], state => (state, true)
  | command :: rest, state =>
      if (perform command state).2 then errexit rest (perform command state).1
      else ((perform command state).1, false)

/-- Run every command and ignore how it ends. -/
def carryOn (commands : List C) (state : σ) : σ :=
  commands.foldl (fun current command => (perform command current).1) state

variable {perform} {state : σ}

theorem errexit_cons {command : C} {rest : List C} (passes : (perform command state).2 = true) :
    errexit perform (command :: rest) state = errexit perform rest (perform command state).1 :=
  if_pos passes

theorem errexit_cons_of_failed {command : C} (rest : List C)
    (fails : (perform command state).2 = false) :
    errexit perform (command :: rest) state = ((perform command state).1, false) :=
  if_neg (Bool.eq_false_iff.mp fails)

theorem errexit_append (before after : List C) (state : σ) :
    errexit perform (before ++ after) state =
      if (errexit perform before state).2 then errexit perform after (errexit perform before state).1
      else ((errexit perform before state).1, false) := by
  induction before generalizing state with
  | nil => rfl
  | cons command before ih =>
      simp only [List.cons_append, errexit]
      by_cases passes : (perform command state).2 = true
      · simp only [passes, if_true]
        exact ih _
      · simp only [passes, if_false, Bool.false_eq_true]

theorem errexit_append_of_passed {before : List C} (after : List C)
    (passes : (errexit perform before state).2 = true) :
    errexit perform (before ++ after) state =
      errexit perform after (errexit perform before state).1 :=
  (errexit_append before after state).trans (if_pos passes)

theorem errexit_append_of_failed {before : List C} (after : List C)
    (fails : (errexit perform before state).2 = false) :
    errexit perform (before ++ after) state = ((errexit perform before state).1, false) :=
  (errexit_append before after state).trans (if_neg (Bool.eq_false_iff.mp fails))

/-- What each command keeps, a script keeps, wherever it stops. -/
theorem errexit_keeps (holds : σ → Prop) {commands : List C}
    (keeps : ∀ command ∈ commands, ∀ current, holds current → holds (perform command current).1)
    (initially : holds state) : holds (errexit perform commands state).1 := by
  induction commands generalizing state with
  | nil => exact initially
  | cons command commands ih =>
      have next := keeps command List.mem_cons_self state initially
      have later := ih (fun other inRest => keeps other (List.mem_cons_of_mem _ inRest)) next
      simp only [errexit]
      split
      · exact later
      · exact next

theorem carryOn_keeps (holds : σ → Prop) {commands : List C}
    (keeps : ∀ command ∈ commands, ∀ current, holds current → holds (perform command current).1)
    (initially : holds state) : holds (carryOn perform commands state) := by
  induction commands generalizing state with
  | nil => exact initially
  | cons command commands ih =>
      apply ih
      · exact fun other inRest => keeps other (List.mem_cons_of_mem _ inRest)
      · exact keeps command List.mem_cons_self state initially

/-- What one command of a script that passes establishes, and those after it keep, holds in
the end. -/
theorem errexit_establishes (holds : σ → Prop) {before after : List C} {command : C}
    (establishes : ∀ current, (perform command current).2 = true →
      holds (perform command current).1)
    (keeps : ∀ other ∈ after, ∀ current, holds current → holds (perform other current).1)
    (passed : (errexit perform (before ++ command :: after) state).2 = true) :
    holds (errexit perform (before ++ command :: after) state).1 := by
  rw [errexit_append] at passed ⊢
  split at passed
  · rename_i first
    rw [if_pos first]
    simp only [errexit] at passed ⊢
    split at passed
    · rename_i here
      rw [if_pos here]
      exact errexit_keeps holds keeps (establishes _ here)
    · cases passed
  · cases passed

/-- What the last command of a script that passes establishes holds in the end. -/
theorem errexit_establishes_last (holds : σ → Prop) (before : List C) {command : C}
    (establishes : ∀ current, (perform command current).2 = true →
      holds (perform command current).1)
    (passed : (errexit perform (before ++ [command]) state).2 = true) :
    holds (errexit perform (before ++ [command]) state).1 :=
  errexit_establishes holds establishes (fun _ inNil => absurd inNil List.not_mem_nil) passed

/-- What one command of a script that passes establishes, and every command keeps, holds in the
end. -/
theorem errexit_establishes_of_mem (holds : σ → Prop) {commands : List C} {command : C}
    (inScript : command ∈ commands)
    (establishes : ∀ current, (perform command current).2 = true →
      holds (perform command current).1)
    (keeps : ∀ other ∈ commands, ∀ current, holds current → holds (perform other current).1)
    (passed : (errexit perform commands state).2 = true) :
    holds (errexit perform commands state).1 := by
  obtain ⟨before, after, rfl⟩ := List.append_of_mem inScript
  apply errexit_establishes holds establishes _ passed
  intro other later
  exact keeps other (List.mem_append_right _ (List.mem_cons_of_mem _ later))

/-- Commands whose status does not depend on the state: a script passes if each of them does. -/
theorem errexit_passes {passes : C → Bool} {commands : List C}
    (status : ∀ command ∈ commands, ∀ current, (perform command current).2 = passes command) :
    (errexit perform commands state).2 = commands.all passes := by
  induction commands generalizing state with
  | nil => rfl
  | cons command commands ih =>
      have here := status command List.mem_cons_self
      simp only [errexit, here, List.all_cons]
      by_cases passed : passes command = true
      · simp only [passed, if_true, Bool.true_and]
        exact ih fun other inRest => status other (List.mem_cons_of_mem _ inRest)
      · simp only [passed, if_false, Bool.false_eq_true, Bool.false_and]

/-- A script that fails has stopped at one of its commands, in a state the commands before it
have kept to. -/
theorem errexit_stopped (holds : σ → Prop) {commands : List C}
    (keeps : ∀ command ∈ commands, ∀ current, holds current →
      (perform command current).2 = true → holds (perform command current).1)
    (initially : holds state) (fails : (errexit perform commands state).2 = false) :
    ∃ command ∈ commands, ∃ current, holds current ∧ (perform command current).2 = false ∧
      (errexit perform commands state).1 = (perform command current).1 := by
  induction commands generalizing state with
  | nil => cases fails
  | cons command commands ih =>
      simp only [errexit] at fails ⊢
      by_cases passes : (perform command state).2 = true
      · rw [if_pos passes] at fails ⊢
        have next := keeps command List.mem_cons_self state initially passes
        obtain ⟨other, inRest, stopped⟩ :=
          ih (fun other inRest => keeps other (List.mem_cons_of_mem _ inRest)) next fails
        exact ⟨other, List.mem_cons_of_mem _ inRest, stopped⟩
      · rw [if_neg passes]
        exact ⟨command, List.mem_cons_self, state, initially, Bool.eq_false_iff.mpr passes, rfl⟩

end ShellScript

section Trying

variable {C σ : Type} {perform : C → σ → σ × Bool} {effect : C → σ → Option σ} {state : σ}

/-- Run a command that changes nothing when it fails. -/
def tryCommand (effect : C → σ → Option σ) (command : C) (state : σ) : σ × Bool :=
  match effect command state with
  | some next => (next, true)
  | none => (state, false)

private theorem tryCommand_of_failed {command : C}
    (fails : (tryCommand effect command state).2 = false) :
    (tryCommand effect command state).1 = state := by
  unfold tryCommand at fails ⊢
  cases isNext : effect command state with
  | some next =>
      rw [isNext] at fails
      cases fails
  | none => rfl

/-- Where only the last command touches something, a script of such commands that fails leaves it. -/
theorem errexit_tryCommand_of_failed {α : Type} (reads : σ → α) {before : List C} {last : C}
    (keeps : ∀ command ∈ before, ∀ current,
      reads (tryCommand effect command current).1 = reads current)
    (failed : (errexit (tryCommand effect) (before ++ [last]) state).2 = false) :
    reads (errexit (tryCommand effect) (before ++ [last]) state).1 = reads state := by
  have kept : reads (errexit (tryCommand effect) before state).1 = reads state :=
    errexit_keeps (fun current => reads current = reads state)
      (fun command listed current same => (keeps command listed current).trans same) rfl
  rw [errexit_append] at failed ⊢
  split
  · rename_i passed
    rw [if_pos passed] at failed
    by_cases passes : (tryCommand effect last (errexit (tryCommand effect) before state).1).2 = true
    · rw [errexit_cons passes] at failed
      cases failed
    · rw [errexit_cons_of_failed [] (Bool.eq_false_iff.mpr passes),
        tryCommand_of_failed (Bool.eq_false_iff.mpr passes)]
      exact kept
  · exact kept

/-- A script of such commands passes with what its commands make of the state one by one. -/
theorem errexit_tryCommand_eq_iff {commands : List C} {final : σ} :
    errexit (tryCommand effect) commands state = (final, true) ↔
      commands.foldlM (fun current command => effect command current) state = some final := by
  induction commands generalizing state with
  | nil =>
      rw [List.foldlM_nil]
      exact ⟨fun ended => congrArg some (Prod.mk.inj ended).1,
        fun ended => congrArg (·, true) (Option.some.inj ended)⟩
  | cons command commands ih =>
      rw [List.foldlM_cons]
      cases isNext : effect command state with
      | some next =>
          have passes : tryCommand effect command state = (next, true) := by
            rw [tryCommand, isNext]
          rw [errexit_cons (congrArg Prod.snd passes), passes]
          exact ih
      | none =>
          have fails : tryCommand effect command state = (state, false) := by
            rw [tryCommand, isNext]
          rw [errexit_cons_of_failed _ (congrArg Prod.snd fails)]
          constructor
          · intro ended
            cases (Prod.mk.inj ended).2
          · intro ended
            cases ended

/-- What each command of a script needs to pass holds of all of them when the script passes. -/
theorem errexit_needs (needs : C → Prop) {commands : List C}
    (needed : ∀ command ∈ commands, ∀ current, (perform command current).2 = true → needs command)
    (passed : (errexit perform commands state).2 = true) : ∀ command ∈ commands, needs command := by
  induction commands generalizing state with
  | nil => exact fun _ listed => absurd listed List.not_mem_nil
  | cons first commands ih =>
      by_cases passes : (perform first state).2 = true
      · rw [errexit_cons passes] at passed
        intro command listed
        obtain rfl | later := List.mem_cons.mp listed
        · exact needed command listed state passes
        · exact ih (fun other inRest => needed other (List.mem_cons_of_mem _ inRest)) passed
            command later
      · rw [errexit_cons_of_failed commands (Bool.eq_false_iff.mpr passes)] at passed
        cases passed

end Trying

section Loops

variable {κ υ ε : Type} [DecidableEq κ] (key : ε → κ) (change : ε → υ → υ)

/-- A loop that changes, for each of some entries, the value under the entry's key. -/
def updateEach (entries : List ε) (table : κ → υ) : κ → υ :=
  entries.foldl (fun current entry =>
    Function.update current (key entry) (change entry (current (key entry)))) table

variable {key change}

theorem updateEach_of_not_mem {entries : List ε} {name : κ} (absent : name ∉ entries.map key)
    (table : κ → υ) : updateEach key change entries table name = table name := by
  induction entries generalizing table with
  | nil => rfl
  | cons entry entries ih =>
      simp only [List.map_cons, List.mem_cons, not_or] at absent
      exact (ih absent.2 _).trans (Function.update_of_ne absent.1 _ _)

/-- Each key is changed by its own entry only. -/
theorem updateEach_of_mem {entries : List ε} (nodup : (entries.map key).Nodup) {entry : ε}
    (inEntries : entry ∈ entries) (table : κ → υ) :
    updateEach key change entries table (key entry) = change entry (table (key entry)) := by
  induction entries generalizing table with
  | nil => cases inEntries
  | cons first entries ih =>
      obtain ⟨fresh, nodup⟩ := List.nodup_cons.mp nodup
      obtain rfl | later := List.mem_cons.mp inEntries
      · exact (updateEach_of_not_mem fresh _).trans (Function.update_self _ _ _)
      · have differs : key entry ≠ key first := fun same =>
          fresh (same ▸ List.mem_map_of_mem later)
        refine (ih nodup later _).trans ?_
        exact congrArg (change entry) (Function.update_of_ne differs _ _)

/-- What each change keeps, the loop keeps. -/
theorem updateEach_keeps (holds : κ → υ → Prop) {entries : List ε} {table : κ → υ}
    (keeps : ∀ entry ∈ entries, ∀ value, holds (key entry) value →
      holds (key entry) (change entry value))
    (initially : ∀ name, holds name (table name)) (name : κ) :
    holds name (updateEach key change entries table name) := by
  induction entries generalizing table with
  | nil => exact initially name
  | cons entry entries ih =>
      apply ih fun other inRest => keeps other (List.mem_cons_of_mem _ inRest)
      intro other
      dsimp only
      by_cases same : other = key entry
      · rw [same, Function.update_self]
        exact keeps entry List.mem_cons_self _ (initially _)
      · rw [Function.update_of_ne same]
        exact initially other

end Loops

end Foundation
