import TraefikManager.Foundation.Transaction

/-!
# Programs on a part of a session's data

A program on the first part of what a session stores runs on the whole session; the
second part stays as it is, whichever way the program ends.
-/

namespace Foundation.Session

variable {D L X ε α : Type}

/-- The session of the first part. -/
def first (session : Session (D × L) X) : Session D X :=
  ⟨session.stored.1, session.working.1, session.outside⟩

/-- The session with another first part. -/
def withFirst (session : Session (D × L) X) (part : Session D X) : Session (D × L) X :=
  ⟨(part.stored, session.stored.2), (part.working, session.working.2), part.outside⟩

/-- Run a program on the first part. -/
def onFirst (program : Program ε (Session D X) α) : Program ε (Session (D × L) X) α := fun session =>
  match program session.first with
  | .ok value part => .ok value (session.withFirst part)
  | .error failure part => .error failure (session.withFirst part)

private theorem ensures_onFirst {program : Program ε (Session D X) α}
    {normal : α → Session (D × L) X → Prop} {raised : ε → Session (D × L) X → Prop}
    {session : Session (D × L) X}
    (ensured : Program.Ensures program (fun value part => normal value (session.withFirst part))
      (fun failure part => raised failure (session.withFirst part)) session.first) :
    Program.Ensures (onFirst program) normal raised session := by
  unfold Program.Ensures onFirst at *
  cases outcome : program session.first with
  | ok value part =>
      rw [outcome] at ensured
      exact ensured
  | error failure part =>
      rw [outcome] at ensured
      exact ensured

/-- What a program relates of the first part, it relates on the whole session. -/
theorem Transacts.onFirst {program : Program ε (Session D X) α}
    {relation : D × X → α → D × X → Prop} (transacts : Transacts program relation) :
    Transacts (Session.onFirst program : Program ε (Session (D × L) X) α)
      (fun before value after =>
        relation (before.1.1, before.2) value (after.1.1, after.2) ∧ after.1.2 = before.1.2) := by
  constructor
  intro session
  apply ensures_onFirst
  refine (transacts.ensures session.first).mono ?_ ?_
  · intro value part related
    exact ⟨congrArg (·, session.stored.2) related.1, related.2, rfl⟩
  · intro _ part same
    exact congrArg (·, session.stored.2) same

theorem transacts_get :
    Transacts (get : Program ε (Session D X) (Session D X)) (fun before session after =>
      session.contents = before ∧ after = before) := by
  constructor
  intro session
  simp

end Foundation.Session
