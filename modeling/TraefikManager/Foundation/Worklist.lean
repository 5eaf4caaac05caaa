import Mathlib.Data.List.Nodup
import Mathlib.Logic.Relation

/-!
# Exploring a finite graph from a work list

A loop takes an item off a stack. One that is reached already or not known is skipped, another
is reached and its neighbours are put on the stack. Over finitely many known items the loop
ends, and what it has reached is what can be walked to from the item it began with.
-/

namespace Foundation

variable {ι : Type} [DecidableEq ι]

section Loop

/-- The known items that are not reached yet. -/
def unreached (known reached : List ι) : List ι := known.filter fun item => item ∉ reached

private theorem length_unreached_lt {known reached : List ι} {item : ι} (isKnown : item ∈ known)
    (isNew : item ∉ reached) :
    (unreached known (item :: reached)).length < (unreached known reached).length := by
  have smaller : unreached known (item :: reached) =
      (unreached known reached).filter fun other => other ≠ item := by
    unfold unreached
    rw [List.filter_filter]
    exact List.filter_congr fun other _ => by simp
  rw [smaller]
  apply List.length_filter_lt_length_iff_exists.mpr
  exact ⟨item, List.mem_filter.mpr ⟨isKnown, by simpa using isNew⟩, by simp⟩

/-- The loop, with what it has reached and the stack, its top first. -/
def explore (known : List ι) (neighbours : ι → List ι) : List ι → List ι → List ι
  | reached, [] => reached
  | reached, item :: pending =>
      if _skipped : item ∈ reached ∨ item ∉ known then explore known neighbours reached pending
      else explore known neighbours (item :: reached) (neighbours item ++ pending)
termination_by reached pending => ((unreached known reached).length, pending.length)
decreasing_by
  · exact .right _ (Nat.lt_succ_self _)
  · rw [not_or, not_not] at _skipped
    exact .left _ _ (length_unreached_lt _skipped.2 _skipped.1)

end Loop

section Reaching

variable {known : List ι} {neighbours : ι → List ι} {reached pending : List ι} {start item : ι}

/-- One step of a walk among the known items. -/
def Step (known : List ι) (neighbours : ι → List ι) (first second : ι) : Prop :=
  second ∈ neighbours first ∧ second ∈ known

/-- Nothing is reached twice. -/
theorem nodup_explore (distinct : reached.Nodup) :
    (explore known neighbours reached pending).Nodup := by
  fun_induction explore known neighbours reached pending with
  | case1 reached => exact distinct
  | case2 reached item pending skipped ih => exact ih distinct
  | case3 reached item pending taken ih =>
      exact ih (List.nodup_cons.mpr ⟨fun old => taken (.inl old), distinct⟩)

private theorem subset_explore : reached ⊆ explore known neighbours reached pending := by
  fun_induction explore known neighbours reached pending with
  | case1 reached => exact List.Subset.refl _
  | case2 reached item pending skipped ih => exact ih
  | case3 reached item pending taken ih => exact List.subset_of_cons_subset ih

/-- What is pending is reached if it is known. -/
theorem mem_explore_of_pending (isPending : item ∈ pending) (isKnown : item ∈ known) :
    item ∈ explore known neighbours reached pending := by
  fun_induction explore known neighbours reached pending with
  | case1 reached => cases isPending
  | case2 reached top pending skipped ih =>
      rcases List.mem_cons.mp isPending with rfl | below
      · exact subset_explore (skipped.resolve_right (not_not.mpr isKnown))
      · exact ih below
  | case3 reached top pending taken ih =>
      rcases List.mem_cons.mp isPending with rfl | below
      · exact subset_explore List.mem_cons_self
      · exact ih (List.mem_append_right _ below)

/-- A property that walks keep holds of all that is reached. -/
theorem explore_invariant (holds : ι → Prop)
    (keeps : ∀ first second, Step known neighbours first second → holds first → holds second)
    (ofReached : ∀ item ∈ reached, holds item)
    (ofPending : ∀ item ∈ pending, item ∈ known → holds item) :
    ∀ item ∈ explore known neighbours reached pending, holds item := by
  fun_induction explore known neighbours reached pending with
  | case1 reached => exact ofReached
  | case2 reached top pending skipped ih =>
      exact ih ofReached fun item below => ofPending item (List.mem_cons_of_mem _ below)
  | case3 reached top pending taken ih =>
      rw [not_or, not_not] at taken
      have ofTop : holds top := ofPending top List.mem_cons_self taken.2
      apply ih
      · exact List.forall_mem_cons.mpr ⟨ofTop, ofReached⟩
      · intro item isPending isKnown
        rcases List.mem_append.mp isPending with isNeighbour | below
        · exact keeps top item ⟨isNeighbour, isKnown⟩ ofTop
        · exact ofPending item (List.mem_cons_of_mem _ below) isKnown

/-- No step leads out of what is reached, when the stack has held the way on from all that was
reached before. -/
theorem explore_closed
    (onward : ∀ first ∈ reached, ∀ second, Step known neighbours first second →
      second ∈ reached ∨ second ∈ pending) :
    ∀ first ∈ explore known neighbours reached pending, ∀ second,
      Step known neighbours first second →
        second ∈ explore known neighbours reached pending := by
  fun_induction explore known neighbours reached pending with
  | case1 reached =>
      intro first isReached second step
      exact (onward first isReached second step).resolve_right List.not_mem_nil
  | case2 reached top pending skipped ih =>
      apply ih
      intro first isReached second step
      rcases onward first isReached second step with old | isPending
      · exact .inl old
      · rcases List.mem_cons.mp isPending with rfl | below
        · exact .inl (skipped.resolve_right (not_not.mpr step.2))
        · exact .inr below
  | case3 reached top pending taken ih =>
      apply ih
      intro first isReached second step
      rcases List.mem_cons.mp isReached with rfl | old
      · exact .inr (List.mem_append_left _ step.1)
      · rcases onward first old second step with known | isPending
        · exact .inl (List.mem_cons_of_mem _ known)
        · rcases List.mem_cons.mp isPending with rfl | below
          · exact .inl List.mem_cons_self
          · exact .inr (List.mem_append_right _ below)

/-- **Exploration.** What is reached from a known item is what walks from it lead to. -/
theorem mem_explore_iff (isKnown : start ∈ known) :
    item ∈ explore known neighbours [] [start] ↔
      Relation.ReflTransGen (Step known neighbours) start item := by
  constructor
  · apply explore_invariant (Relation.ReflTransGen (Step known neighbours) start)
    · exact fun first second step walk => walk.tail step
    · exact fun _ isReached => absurd isReached List.not_mem_nil
    · intro other isPending _
      rw [List.mem_singleton.mp isPending]
  · intro walk
    induction walk with
    | refl => exact mem_explore_of_pending (List.mem_singleton_self start) isKnown
    | tail _ step ih =>
        exact explore_closed (fun _ isReached => absurd isReached List.not_mem_nil) _ ih _ step

end Reaching

end Foundation
