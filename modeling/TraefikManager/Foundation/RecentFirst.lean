import Mathlib.Data.Finset.Max
import Mathlib.Data.List.TakeWhile

/-!
# What a sequence of steps recorded

Each step of a sequence may record a value. The record is read the latest value first, as far
as a condition holds, or up to the first value that meets one.
-/

namespace Foundation

variable {β : Type} {record : ℕ → Option β} {n : ℕ}

/-- What the steps before the `n`-th recorded, the latest first. -/
def recentFirst (record : ℕ → Option β) : ℕ → List β
  | 0 => []
  | n + 1 => (record n).toList ++ recentFirst record n

theorem mem_recentFirst {value : β} :
    value ∈ recentFirst record n ↔ ∃ step < n, record step = some value := by
  induction n with
  | zero => simp [recentFirst]
  | succ n ih =>
      simp only [recentFirst, List.mem_append, Option.mem_toList, ih]
      constructor
      · rintro (last | ⟨step, before, recorded⟩)
        · exact ⟨n, by omega, last⟩
        · exact ⟨step, by omega, recorded⟩
      · rintro ⟨step, before, recorded⟩
        by_cases last : step = n
        · subst last
          exact .inl recorded
        · exact .inr ⟨step, by omega, recorded⟩

theorem length_recentFirst_le : (recentFirst record n).length ≤ n := by
  induction n with
  | zero => exact le_rfl
  | succ n ih =>
      unfold recentFirst
      cases record n <;> simp <;> omega

/-- A reader that goes back as long as a condition holds sees at least the values recorded
since it has held. -/
theorem card_le_length_takeWhile {holds : β → Bool} (since : ℕ) {steps : Finset ℕ}
    (each : ∀ step ∈ steps, since ≤ step ∧ step < n ∧ (record step).isSome)
    (steady : ∀ step, since ≤ step → step < n → ∀ value ∈ record step, holds value) :
    steps.card ≤ ((recentFirst record n).takeWhile holds).length := by
  induction n generalizing steps with
  | zero =>
      have empty : steps = ∅ := by
        apply Finset.eq_empty_of_forall_notMem
        intro step member
        have := (each step member).2.1
        omega
      simp [empty]
  | succ n ih =>
      have earlier : ∀ step ∈ steps.erase n, since ≤ step ∧ step < n ∧ (record step).isSome := by
        intro step member
        obtain ⟨other, member⟩ := Finset.mem_erase.mp member
        obtain ⟨late, before, recorded⟩ := each step member
        exact ⟨late, by omega, recorded⟩
      have rest := ih earlier fun step late before => steady step late (by omega)
      unfold recentFirst
      cases last : record n with
      | none =>
          have absent : n ∉ steps := by
            intro member
            have := (each n member).2.2
            simp [last] at this
          rw [Finset.erase_eq_of_notMem absent] at rest
          exact rest
      | some value =>
          by_cases late : since ≤ n
          · have holdsLast := steady n late (by omega) value last
            have := Finset.pred_card_le_card_erase (s := steps) (a := n)
            simp only [Option.toList_some, List.singleton_append, List.takeWhile_cons, holdsLast,
              ↓reduceIte, List.length_cons]
            omega
          · have empty : steps = ∅ := by
              apply Finset.eq_empty_of_forall_notMem
              intro step member
              have := each step member
              omega
            simp [empty]

/-- What is read while a condition holds meets it. -/
theorem holds_of_mem_take {holds : β → Bool} {values : List β} {count : ℕ}
    (enough : count ≤ (values.takeWhile holds).length) {value : β}
    (member : value ∈ values.take count) : holds value := by
  obtain ⟨rest, parts⟩ := List.takeWhile_prefix (l := values) holds
  rw [← parts, List.take_append_of_le_length enough] at member
  exact List.mem_takeWhile_imp (List.mem_of_mem_take member)

/-- The first value that meets a condition is the one recorded last. -/
theorem find?_recentFirst {meets : β → Bool} {value : β}
    (found : (recentFirst record n).find? meets = some value) :
    ∃ step < n, record step = some value ∧ meets value ∧
      ∀ later, step < later → later < n → ∀ other ∈ record later, ¬ meets other := by
  induction n with
  | zero => cases found
  | succ n ih =>
      unfold recentFirst at found
      cases last : record n with
      | none =>
          rw [last] at found
          obtain ⟨step, before, recorded, met, none⟩ := ih found
          refine ⟨step, by omega, recorded, met, fun later after inRange other recordedLater => ?_⟩
          by_cases isLast : later = n
          · subst isLast
            rw [last] at recordedLater
            cases recordedLater
          · exact none later after (by omega) other recordedLater
      | some newest =>
          rw [last, Option.toList_some, List.singleton_append, List.find?_cons] at found
          cases met : meets newest with
          | true =>
              rw [met] at found
              cases found
              exact ⟨n, by omega, last, met, fun later after inRange => by omega⟩
          | false =>
              rw [met] at found
              obtain ⟨step, before, recorded, meetsValue, none⟩ := ih found
              refine ⟨step, by omega, recorded, meetsValue,
                fun later after inRange other recordedLater => ?_⟩
              by_cases isLast : later = n
              · subst isLast
                rw [last] at recordedLater
                cases recordedLater
                simp [met]
              · exact none later after (by omega) other recordedLater

end Foundation
