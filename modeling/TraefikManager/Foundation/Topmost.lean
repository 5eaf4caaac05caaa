import Mathlib.Data.List.Basic
import Mathlib.Order.Lattice

/-!
# The topmost of the values seen

Values arrive one by one, and one of them is kept. Where each value ranks at least as high as
the one kept, or the lower ones are dropped, what is kept is the topmost value, whatever the
order in which the values arrived.
-/

namespace Foundation

variable {α β : Type} [LinearOrder β] {rank : α → β} {kept kept' : Option α}
  {values values' : List α} {value top : α}

/-- Nothing is kept of no values; else one of the values is, and the others rank lower. -/
def IsTopmost (rank : α → β) (kept : Option α) (values : List α) : Prop :=
  match kept with
  | none => values = []
  | some top => top ∈ values ∧ ∀ value ∈ values, value = top ∨ rank value < rank top

theorem isTopmost_nil : IsTopmost rank none [] := rfl

/-- A value that ranks at least as high replaces the one kept. -/
theorem IsTopmost.replace (isTopmost : IsTopmost rank kept values)
    (higher : ∀ top, kept = some top → top = value ∨ rank top < rank value) :
    IsTopmost rank (some value) (values ++ [value]) := by
  refine ⟨by simp, fun other listed => ?_⟩
  rw [List.mem_append, List.mem_singleton] at listed
  obtain earlier | new := listed
  · cases kept with
    | none => cases (show values = [] from isTopmost) ▸ earlier
    | some top =>
        obtain isTop | below := isTopmost.2 other earlier
        · exact isTop ▸ higher top rfl
        · obtain same | lower := higher top rfl
          · exact .inr (same ▸ below)
          · exact .inr (below.trans lower)
  · exact .inl new

/-- A value that ranks lower is dropped. -/
theorem IsTopmost.drop (isTopmost : IsTopmost rank (some top) values)
    (lower : value = top ∨ rank value < rank top) :
    IsTopmost rank (some top) (values ++ [value]) := by
  refine ⟨List.mem_append_left _ isTopmost.1, fun other listed => ?_⟩
  rw [List.mem_append, List.mem_singleton] at listed
  obtain earlier | rfl := listed
  · exact isTopmost.2 other earlier
  · exact lower

theorem IsTopmost.le (isTopmost : IsTopmost rank (some top) values) (listed : value ∈ values) :
    rank value ≤ rank top := by
  obtain rfl | below := isTopmost.2 value listed
  · exact le_refl _
  · exact below.le

theorem IsTopmost.exists_of_mem (isTopmost : IsTopmost rank kept values)
    (listed : value ∈ values) : ∃ top, kept = some top := by
  cases kept with
  | none => cases (show values = [] from isTopmost) ▸ listed
  | some top => exact ⟨top, rfl⟩

/-- The same values have the same topmost value. -/
theorem IsTopmost.unique (isTopmost : IsTopmost rank kept values)
    (isTopmost' : IsTopmost rank kept' values') (same : ∀ value, value ∈ values ↔ value ∈ values') :
    kept = kept' := by
  cases kept with
  | none =>
      cases kept' with
      | none => rfl
      | some top' =>
          have listed := (same top').mpr isTopmost'.1
          cases (show values = [] from isTopmost) ▸ listed
  | some top =>
      obtain ⟨top', rfl⟩ := isTopmost'.exists_of_mem ((same top).mp isTopmost.1)
      obtain isTop | below := isTopmost'.2 top ((same top).mp isTopmost.1)
      · rw [isTop]
      · have above := isTopmost.le ((same top').mpr isTopmost'.1)
        exact absurd below (not_lt.mpr above)

end Foundation
