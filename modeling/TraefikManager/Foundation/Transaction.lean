import TraefikManager.Foundation.Program

/-!
# Database sessions

A session keeps the committed data next to the data its open transaction sees.
Reads and writes go to the working copy. Committing publishes it, rolling back
discards it. What lies outside the database (files, remote services, counters)
is a third component that no rollback touches.
-/

namespace Foundation

/-- Committed data, the open transaction's view of it, and everything else. -/
structure Session (D X : Type) where
  stored : D
  working : D
  outside : X

namespace Session

variable {D X ε α : Type}

/-- The session with its open transaction discarded. -/
def rolledBack (session : Session D X) : Session D X :=
  { session with working := session.stored }

@[simp] theorem rolledBack_stored (session : Session D X) :
    session.rolledBack.stored = session.stored := rfl

@[simp] theorem rolledBack_working (session : Session D X) :
    session.rolledBack.working = session.stored := rfl

@[simp] theorem rolledBack_outside (session : Session D X) :
    session.rolledBack.outside = session.outside := rfl

/-- Run `body` in a transaction of its own: the session is opened on the stored
data, `close` publishes what the body did, and any error of either discards the
transaction and is raised again. -/
def transaction (close : Program ε (Session D X) PUnit) (body : Program ε (Session D X) α) :
    Program ε (Session D X) α := do
  modify rolledBack
  try
    let value ← body
    close
    pure value
  catch failure =>
    modify rolledBack
    throw failure

/-- The transaction rule: the body starts on the stored data, and an error is
observed only after the rollback. -/
theorem ensures_transaction {close : Program ε (Session D X) PUnit}
    {body : Program ε (Session D X) α} {normal : α → Session D X → Prop}
    {raised : ε → Session D X → Prop} {session : Session D X} :
    Program.Ensures (transaction close body) normal raised session ↔
      Program.Ensures body
        (fun value next => Program.Ensures close (fun _ => normal value)
          (fun failure final => raised failure final.rolledBack) next)
        (fun failure next => raised failure next.rolledBack) session.rolledBack := by
  simp [transaction]

/-- What the open transaction and the rest of the world hold. -/
def contents (session : Session D X) : D × X := (session.working, session.outside)

/-- A program that leaves the stored data alone, however it ends. When it returns, its
value relates what the open transaction and the rest of the world held before and after. -/
structure Transacts (program : Program ε (Session D X) α)
    (relation : D × X → α → D × X → Prop) : Prop where
  ensures : ∀ session, Program.Ensures program
    (fun value next => next.stored = session.stored ∧
      relation session.contents value next.contents)
    (fun _ next => next.stored = session.stored) session

section Transacting

variable {β : Type} {relation : D × X → α → D × X → Prop}

theorem transacts_pure (value : α) :
    Transacts (pure value : Program ε (Session D X) α)
      (fun before other after => other = value ∧ after = before) :=
  ⟨fun _ => by simp⟩

theorem transacts_throw (failure : ε) :
    Transacts (throw failure : Program ε (Session D X) α) relation :=
  ⟨fun _ => by simp⟩

theorem transacts_ofExcept (result : Except ε α) :
    Transacts (Program.ofExcept result : Program ε (Session D X) α)
      (fun before value after => result = .ok value ∧ after = before) := by
  constructor
  intro session
  cases result with
  | error failure => simp [Program.ofExcept]
  | ok value => simp [Program.ofExcept]

/-- A program that keeps a view which shows the stored data. -/
theorem Transacts.of_keeps {γ : Type} {view : Session D X → γ} {post : γ → α → Prop}
    {program : Program ε (Session D X) α} (keeps : Program.Keeps view program post)
    (shows : ∀ first second : Session D X, view first = view second →
      first.stored = second.stored)
    (implies : ∀ (before after : Session D X) value, view after = view before →
      post (view before) value → relation before.contents value after.contents) :
    Transacts program relation := by
  constructor
  intro session
  refine (keeps.ensures session).mono ?_ (fun _ next same => shows next session same)
  rintro value next ⟨same, holds⟩
  exact ⟨shows next session same, implies session next value same holds⟩

theorem Transacts.mono {weaker : D × X → α → D × X → Prop} {program : Program ε (Session D X) α}
    (transacts : Transacts program relation)
    (weakens : ∀ before value after, relation before value after → weaker before value after) :
    Transacts program weaker := by
  constructor
  intro session
  refine (transacts.ensures session).mono ?_ (fun _ _ same => same)
  rintro value next ⟨same, related⟩
  exact ⟨same, weakens _ value _ related⟩

/-- Two relations a program establishes, it establishes together. -/
theorem Transacts.and {other : D × X → α → D × X → Prop} {program : Program ε (Session D X) α}
    (first : Transacts program relation) (second : Transacts program other) :
    Transacts program (fun before value after =>
      relation before value after ∧ other before value after) := by
  constructor
  intro session
  refine ((first.ensures session).and (second.ensures session)).mono ?_ ?_
  · rintro value next ⟨⟨same, related⟩, -, related'⟩
    exact ⟨same, related, related'⟩
  · exact fun _ _ same => same.1

/-- Sequencing: the relation of the whole follows from those of the parts. -/
theorem Transacts.bind {first : D × X → β → D × X → Prop} {program : Program ε (Session D X) β}
    {rest : β → Program ε (Session D X) α} (transacts : Transacts program first)
    (later : ∀ value, Transacts (rest value) (fun middle last after =>
      ∀ before, first before value middle → relation before last after)) :
    Transacts (program >>= rest) relation := by
  constructor
  intro session
  rw [Program.ensures_bind]
  refine (transacts.ensures session).mono ?_ (fun _ _ same => same)
  rintro value next ⟨same, related⟩
  refine ((later value).ensures next).mono ?_ ?_
  · rintro last final ⟨same', follows⟩
    exact ⟨same'.trans same, follows _ related⟩
  · exact fun _ final same' => same'.trans same

theorem Transacts.ite {condition : Prop} [Decidable condition]
    {first second : Program ε (Session D X) α}
    (whenTrue : condition → Transacts first relation)
    (whenFalse : ¬condition → Transacts second relation) :
    Transacts (if condition then first else second) relation := by
  split
  · rename_i holds
    exact whenTrue holds
  · rename_i fails
    exact whenFalse fails

/-- A handler that only raises again. -/
theorem Transacts.tryCatch {program : Program ε (Session D X) α}
    {handler : ε → Program ε (Session D X) α} (transacts : Transacts program relation)
    (raises : ∀ failure, Transacts (handler failure) (fun _ _ _ => False)) :
    Transacts (tryCatch program handler) relation := by
  constructor
  intro session
  rw [Program.ensures_tryCatch]
  refine (transacts.ensures session).mono (fun _ _ related => related) ?_
  intro failure next same
  refine ((raises failure).ensures next).mono ?_ ?_
  · exact fun _ _ impossible => impossible.2.elim
  · exact fun _ _ same' => same'.trans same

end Transacting

end Session

end Foundation
