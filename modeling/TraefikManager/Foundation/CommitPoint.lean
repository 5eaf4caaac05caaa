import Mathlib.Data.List.Basic

/-!
# Commit points

A party changes a state by one operation after the other and may stop after any of them. If one
operation makes the change, those before it prepare it and those after it tidy up, then whoever
looks at the state later finds it as it was or as it was meant to be.
-/

namespace Foundation

section Cuts

variable {σ Op : Type} {apply : σ → Op → σ} {ops before after : List Op} {commit : Op}
  {state : σ} {count : Nat}

/-- The state that is left when only some of the operations were carried out. -/
def cut (apply : σ → Op → σ) (ops : List Op) (count : Nat) (state : σ) : σ :=
  (ops.take count).foldl apply state

/-- What each operation preserves is there wherever the party stops. -/
theorem cut_keeps {holds : σ → Prop} (start : holds state)
    (keeps : ∀ op ∈ ops, ∀ state, holds state → holds (apply state op)) :
    holds (cut apply ops count state) := by
  have each : ∀ op ∈ ops.take count, ∀ state, holds state → holds (apply state op) :=
    fun op listed => keeps op (List.mem_of_mem_take listed)
  unfold cut
  generalize ops.take count = made at each
  induction made generalizing state with
  | nil => exact start
  | cons op made ih =>
      exact ih (each op List.mem_cons_self state start) fun other later =>
        each other (List.mem_cons_of_mem op later)

private theorem cut_append : cut apply (before ++ after) count state =
    cut apply after (count - before.length) (cut apply before count state) := by
  rw [cut, cut, cut, List.take_append, List.foldl_append]

private theorem cut_of_length_le (whole : ops.length ≤ count) :
    cut apply ops count state = ops.foldl apply state := by
  rw [cut, List.take_of_length_le whole]

/-- **All or nothing.** Wherever a party stops, the state is as before the commit or as after it. -/
theorem commit_atomic (old new : σ → Prop) (start : old state)
    (keepsOld : ∀ op ∈ before, ∀ state, old state → old (apply state op))
    (commits : new (apply (before.foldl apply state) commit))
    (keepsNew : ∀ op ∈ after, ∀ state, new state → new (apply state op)) :
    old (cut apply (before ++ commit :: after) count state) ∨
      new (cut apply (before ++ commit :: after) count state) := by
  rw [cut_append]
  cases left : count - before.length with
  | zero =>
      left
      show old (cut apply before count state)
      exact cut_keeps start keepsOld
  | succ more =>
      right
      rw [cut_of_length_le (show before.length ≤ count by omega)]
      show new (cut apply after more (apply (before.foldl apply state) commit))
      exact cut_keeps commits keepsNew

end Cuts

end Foundation
