import Mathlib.Order.Basic
import Mathlib.Data.List.Basic

/-!
# Effectful programs whose state outlives an exception

A program takes a state and either returns a value or raises an error. In both
cases it leaves a state behind: raising does not undo the effects performed so
far. This is the behaviour of an ordinary imperative language, and it is the
behaviour of `EStateM`, whose `try … catch` does not restore anything.

`Ensures` is the weakest precondition of a program for two postconditions, one
for each way it can end. The rules below compute it along the structure of a
program, so that a symbolic run is a rewriting with `ensures_bind` and the rule
of each primitive.
-/

namespace Foundation

/-- A program over the state `σ` that may raise an error of type `ε`. -/
abbrev Program (ε σ : Type) : Type → Type := EStateM ε σ

namespace Program

variable {ε σ α β : Type}

/-- Running `program` from `state` ends in a state satisfying `normal` when it
returns and `raised` when it raises. -/
def Ensures (program : Program ε σ α) (normal : α → σ → Prop) (raised : ε → σ → Prop)
    (state : σ) : Prop :=
  match program state with
  | .ok value next => normal value next
  | .error failure next => raised failure next

/-- The state a program leaves behind, whichever way it ends. -/
def finalState (program : Program ε σ α) (state : σ) : σ :=
  match program state with
  | .ok _ next => next
  | .error _ next => next

/-- Whether a program returns rather than raises. -/
def succeeds (program : Program ε σ α) (state : σ) : Bool :=
  match program state with
  | .ok _ _ => true
  | .error _ _ => false

/-- Run a program and return its error instead of raising it. -/
def attempt (program : Program ε σ α) : Program ε σ (Except ε α) :=
  tryCatch (Except.ok <$> program) fun failure => pure (.error failure)

/-- Run a pure computation that may fail. -/
def ofExcept : Except ε α → Program ε σ α
  | .ok value => pure value
  | .error failure => throw failure

section Rules

variable {normal : α → σ → Prop} {raised : ε → σ → Prop}

@[simp] theorem ensures_pure {value : α} :
    Ensures (pure value : Program ε σ α) normal raised = normal value := rfl

@[simp] theorem ensures_throw {failure : ε} :
    Ensures (throw failure : Program ε σ α) normal raised = raised failure := rfl

/-- Sequencing: the first program must reach a state from which the second
meets the postconditions, and an error of the first is an error of the whole. -/
@[simp] theorem ensures_bind {program : Program ε σ β} {rest : β → Program ε σ α} :
    Ensures (program >>= rest) normal raised =
      Ensures program (fun value => Ensures (rest value) normal raised) raised := by
  funext state
  unfold Ensures
  simp only [bind, EStateM.bind]
  cases program state <;> rfl

/-- A handler runs in the state the failing program left behind. -/
@[simp] theorem ensures_tryCatch {program : Program ε σ α} {handler : ε → Program ε σ α} :
    Ensures (tryCatch program handler) normal raised =
      Ensures program normal (fun failure => Ensures (handler failure) normal raised) := by
  funext state
  unfold Ensures
  simp only [tryCatch, tryCatchThe, MonadExceptOf.tryCatch, EStateM.tryCatch,
    EStateM.Backtrackable.save, EStateM.Backtrackable.restore]
  cases program state <;> rfl

@[simp] theorem ensures_map {program : Program ε σ β} {change : β → α} :
    Ensures (change <$> program) normal raised =
      Ensures program (fun value => normal (change value)) raised := by
  funext state
  unfold Ensures
  simp only [Functor.map, EStateM.map]
  cases program state <;> rfl

@[simp] theorem ensures_attempt {program : Program ε σ β} {normal : Except ε β → σ → Prop}
    {raised : ε → σ → Prop} :
    Ensures (attempt program) normal raised =
      Ensures program (fun value => normal (.ok value)) (fun failure => normal (.error failure)) := by
  unfold attempt
  rw [ensures_tryCatch, ensures_map]
  rfl

@[simp] theorem ensures_get {normal : σ → σ → Prop} :
    Ensures (get : Program ε σ σ) normal raised = fun state => normal state state := rfl

@[simp] theorem ensures_set {next : σ} {normal : PUnit → σ → Prop} :
    Ensures (set next : Program ε σ PUnit) normal raised = fun _ => normal ⟨⟩ next := rfl

@[simp] theorem ensures_modify {change : σ → σ} {normal : PUnit → σ → Prop} :
    Ensures (modify change : Program ε σ PUnit) normal raised =
      fun state => normal ⟨⟩ (change state) := rfl

@[simp] theorem ensures_ofExcept {result : Except ε α} :
    Ensures (ofExcept result : Program ε σ α) normal raised =
      fun state => (∀ value, result = .ok value → normal value state) ∧
        ∀ failure, result = .error failure → raised failure state := by
  funext state
  cases result <;> simp [ofExcept]

end Rules

/-- Weakening both postconditions. -/
theorem Ensures.mono {program : Program ε σ α} {normal normal' : α → σ → Prop}
    {raised raised' : ε → σ → Prop} {state : σ}
    (ensured : Ensures program normal raised state)
    (normalWeakens : ∀ value next, normal value next → normal' value next)
    (raisedWeakens : ∀ failure next, raised failure next → raised' failure next) :
    Ensures program normal' raised' state := by
  unfold Ensures at ensured ⊢
  cases outcome : program state with
  | ok value next =>
      rw [outcome] at ensured
      exact normalWeakens value next ensured
  | error failure next =>
      rw [outcome] at ensured
      exact raisedWeakens failure next ensured

/-- A property of the starting state alone may be carried to both endings. -/
theorem Ensures.and {program : Program ε σ α} {normal normal' : α → σ → Prop}
    {raised raised' : ε → σ → Prop} {state : σ}
    (first : Ensures program normal raised state)
    (second : Ensures program normal' raised' state) :
    Ensures program (fun value next => normal value next ∧ normal' value next)
      (fun failure next => raised failure next ∧ raised' failure next) state := by
  unfold Ensures at first second ⊢
  cases outcome : program state with
  | ok value next =>
      rw [outcome] at first second
      exact ⟨first, second⟩
  | error failure next =>
      rw [outcome] at first second
      exact ⟨first, second⟩

/-- What a program that returned has established. -/
theorem Ensures.of_ok {program : Program ε σ α} {normal : α → σ → Prop} {raised : ε → σ → Prop}
    {state next : σ} {value : α} (ensured : Ensures program normal raised state)
    (returned : program state = .ok value next) : normal value next := by
  unfold Ensures at ensured
  rw [returned] at ensured
  exact ensured

/-- What a program that raised has established. -/
theorem Ensures.of_error {program : Program ε σ α} {normal : α → σ → Prop}
    {raised : ε → σ → Prop} {state next : σ} {failure : ε}
    (ensured : Ensures program normal raised state)
    (raises : program state = .error failure next) : raised failure next := by
  unfold Ensures at ensured
  rw [raises] at ensured
  exact ensured

theorem exists_ok_of_succeeds {program : Program ε σ α} {state : σ}
    (returns : succeeds program state = true) :
    ∃ value, program state = .ok value (finalState program state) := by
  unfold succeeds at returns
  unfold finalState
  cases outcome : program state with
  | ok value next => exact ⟨value, rfl⟩
  | error failure next =>
      rw [outcome] at returns
      cases returns

theorem eq_ok_of_succeeds {program : Program ε σ PUnit} {state : σ}
    (returns : succeeds program state = true) :
    program state = .ok ⟨⟩ (finalState program state) :=
  (exists_ok_of_succeeds returns).elim fun _ returned => returned

/-- A property every ending satisfies holds of the final state. -/
theorem Ensures.finalState {program : Program ε σ α} (property : σ → Prop) {state : σ}
    (ensured : Ensures program (fun _ => property) (fun _ => property) state) :
    property (finalState program state) := by
  unfold Ensures at ensured
  unfold Program.finalState
  cases outcome : program state <;> simpa [outcome] using ensured

/-- The loop rule of a body without a value. The invariant knows the items that are
still to come. -/
theorem ensures_forM (invariant : List β → σ → Prop) {items : List β}
    {body : β → Program ε σ PUnit} {raised : ε → σ → Prop} {state : σ}
    (holds : invariant items state)
    (keeps : ∀ item rest current, item ∈ items → invariant (item :: rest) current →
      Ensures (body item) (fun _ => invariant rest) raised current) :
    Ensures (forM items body) (fun _ => invariant []) raised state := by
  induction items generalizing state with
  | nil => exact holds
  | cons item rest ih =>
      rw [List.forM_cons, ensures_bind]
      refine (keeps item rest state (by simp) holds).mono ?_ (fun _ _ failed => failed)
      intro _ next kept
      exact ih kept fun later others current member => keeps later others current (by simp [member])

/-- A program that cannot return raises, and its final state is the one it
raised in. -/
theorem Ensures.raises {program : Program ε σ α} {property : σ → Prop} {state : σ}
    (ensured : Ensures program (fun _ _ => False) (fun _ => property) state) :
    succeeds program state = false ∧ property (Program.finalState program state) := by
  unfold Ensures at ensured
  unfold succeeds Program.finalState
  cases outcome : program state with
  | ok value next =>
      rw [outcome] at ensured
      exact ensured.elim
  | error failure next =>
      rw [outcome] at ensured
      exact ⟨rfl, ensured⟩

/-- A program that cannot raise returns. -/
theorem Ensures.returns {program : Program ε σ α} {normal : α → σ → Prop} {state : σ}
    (ensured : Ensures program normal (fun _ _ => False) state) :
    ∃ value next, program state = .ok value next ∧ normal value next := by
  cases outcome : program state with
  | ok value next => exact ⟨value, next, rfl, ensured.of_ok outcome⟩
  | error failure next => exact (ensured.of_error outcome).elim

/-- A program that never changes what `view` sees of the state, on neither
ending. -/
structure Preserves {γ : Type} (view : σ → γ) (program : Program ε σ α) : Prop where
  ensures : ∀ state, Ensures program (fun _ next => view next = view state)
    (fun _ next => view next = view state) state

section Preservation

variable {γ : Type} {view : σ → γ}

theorem preserves_pure (value : α) : Preserves view (pure value : Program ε σ α) :=
  ⟨fun _ => rfl⟩

theorem preserves_throw (failure : ε) : Preserves view (throw failure : Program ε σ α) :=
  ⟨fun _ => rfl⟩

theorem preserves_get : Preserves view (get : Program ε σ σ) := ⟨fun _ => rfl⟩

theorem preserves_ofExcept (result : Except ε α) :
    Preserves view (ofExcept result : Program ε σ α) := by
  constructor
  intro state
  cases result <;> rfl

theorem preserves_modify {change : σ → σ} (unseen : ∀ state, view (change state) = view state) :
    Preserves view (modify change : Program ε σ PUnit) := ⟨unseen⟩

theorem Preserves.bind {program : Program ε σ β} {rest : β → Program ε σ α}
    (first : Preserves view program) (later : ∀ value, Preserves view (rest value)) :
    Preserves view (program >>= rest) := by
  constructor
  intro state
  rw [ensures_bind]
  refine (first.ensures state).mono ?_ (fun _ _ same => same)
  intro value next same
  refine ((later value).ensures next).mono ?_ ?_
  · exact fun _ _ same' => same'.trans same
  · exact fun _ _ same' => same'.trans same

theorem Preserves.ite {condition : Prop} [Decidable condition] {first second : Program ε σ α}
    (whenTrue : Preserves view first) (whenFalse : Preserves view second) :
    Preserves view (if condition then first else second) := by
  split
  · exact whenTrue
  · exact whenFalse

end Preservation

/-- A program that never changes what `view` sees of the state, and whose value is
related to it by `post`. -/
structure Keeps {γ : Type} (view : σ → γ) (program : Program ε σ α) (post : γ → α → Prop) :
    Prop where
  ensures : ∀ state, Ensures program
    (fun value next => view next = view state ∧ post (view state) value)
    (fun _ next => view next = view state) state

section Keeping

variable {γ : Type} {view : σ → γ} {post : γ → α → Prop}

theorem keeps_pure (value : α) :
    Keeps view (pure value : Program ε σ α) (fun _ other => other = value) :=
  ⟨fun _ => ⟨rfl, rfl⟩⟩

theorem keeps_throw (failure : ε) : Keeps view (throw failure : Program ε σ α) post :=
  ⟨fun _ => rfl⟩

theorem keeps_ofExcept (result : Except ε α) :
    Keeps view (ofExcept result : Program ε σ α) (fun _ value => result = .ok value) := by
  constructor
  intro state
  cases result with
  | error failure => exact rfl
  | ok value => exact ⟨rfl, rfl⟩

theorem Keeps.mono {weaker : γ → α → Prop} {program : Program ε σ α}
    (keeps : Keeps view program post) (weakens : ∀ seen value, post seen value → weaker seen value) :
    Keeps view program weaker := by
  constructor
  intro state
  refine (keeps.ensures state).mono ?_ (fun _ _ same => same)
  rintro value next ⟨same, holds⟩
  exact ⟨same, weakens _ value holds⟩

/-- Sequencing: what relates the two values to the view relates the last one. -/
theorem Keeps.bind {postFirst : γ → β → Prop} {program : Program ε σ β}
    {rest : β → Program ε σ α} (first : Keeps view program postFirst)
    (later : ∀ value, Keeps view (rest value) (fun seen last => postFirst seen value → post seen last)) :
    Keeps view (program >>= rest) post := by
  constructor
  intro state
  rw [ensures_bind]
  refine (first.ensures state).mono ?_ (fun _ _ same => same)
  rintro value next ⟨same, holds⟩
  refine ((later value).ensures next).mono ?_ ?_
  · rintro last final ⟨same', related⟩
    rw [same] at related
    exact ⟨same'.trans same, related holds⟩
  · exact fun _ final same' => same'.trans same

/-- A coarser view is kept as well. -/
theorem Keeps.coarsen {δ : Type} (summary : γ → δ) (coarse : δ → α → Prop)
    {program : Program ε σ α}
    (keeps : Keeps view program (fun seen value => coarse (summary seen) value)) :
    Keeps (fun state => summary (view state)) program coarse := by
  constructor
  intro state
  refine (keeps.ensures state).mono ?_ (fun _ _ same => congrArg summary same)
  rintro value next ⟨same, holds⟩
  exact ⟨congrArg summary same, holds⟩

theorem keeps_get : Keeps view (get : Program ε σ σ) (fun seen value => view value = seen) :=
  ⟨fun _ => ⟨rfl, rfl⟩⟩

/-- A handler that keeps the view, and is not held to the relation unless it returns. -/
theorem Keeps.tryCatch {program : Program ε σ α} {handler : ε → Program ε σ α}
    (first : Keeps view program post) (later : ∀ failure, Keeps view (handler failure) post) :
    Keeps view (tryCatch program handler) post := by
  constructor
  intro state
  rw [ensures_tryCatch]
  refine (first.ensures state).mono (fun _ _ kept => kept) ?_
  intro failure next same
  refine ((later failure).ensures next).mono ?_ ?_
  · rintro value final ⟨same', holds⟩
    rw [same] at same' holds
    exact ⟨same', holds⟩
  · exact fun _ _ same' => same'.trans same

theorem Keeps.ite {condition : Prop} [Decidable condition] {first second : Program ε σ α}
    (whenTrue : condition → Keeps view first post) (whenFalse : ¬condition → Keeps view second post) :
    Keeps view (if condition then first else second) post := by
  split
  · rename_i holds
    exact whenTrue holds
  · rename_i fails
    exact whenFalse fails

/-- Of a program that need not keep anything, a relation speaks of the value alone. -/
theorem keeps_nothing (program : Program ε σ α) :
    Keeps (fun _ : σ => ()) program (fun _ _ => True) := by
  constructor
  intro state
  unfold Ensures
  cases program state with
  | ok value next => exact ⟨rfl, trivial⟩
  | error failure next => rfl

end Keeping

-- Symbolic runs go through the rules above; unfolding a whole program is never wanted.
attribute [irreducible] Ensures

end Program

end Foundation
