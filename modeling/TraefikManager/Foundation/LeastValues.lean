import Mathlib.Order.Bounds.Basic
import Mathlib.Data.List.Dedup
import Mathlib.Order.MinMax
import TraefikManager.Foundation.Dict

/-!
# Least values

A dictionary keeps the least of the values that are reported for each key, in whatever order
the reports come. A walk that may fail on an item fails on a list exactly if it fails on some
item of it.
-/

namespace Foundation

/-- The order in which a set is gone through; a list stands for the set of its values. -/
structure SetOrder (α : Type) [DecidableEq α] where
  list : List α → List α
  perm : ∀ values, (list values).Perm values.dedup

theorem SetOrder.mem_list {α : Type} [DecidableEq α] (order : SetOrder α) {values : List α}
    {value : α} : value ∈ order.list values ↔ value ∈ values := by
  rw [(order.perm values).mem_iff, List.mem_dedup]

section Least

variable {κ ν : Type} [DecidableEq κ] [LinearOrder ν] {dict : Dict κ ν} {key : κ} {value : ν}
  {reports : κ → ν → Prop} {entries : List (κ × ν)}

namespace Dict

/-- Set the value of a key unless it has one as small. -/
def lower (dict : Dict κ ν) (key : κ) (value : ν) : Dict κ ν :=
  match dict.get? key with
  | none => dict.set key value
  | some existing => if value < existing then dict.set key value else dict

/-- Report the entries of a list one after the other. -/
def lowerAll (dict : Dict κ ν) (entries : List (κ × ν)) : Dict κ ν :=
  entries.foldl (fun dict entry => dict.lower entry.1 entry.2) dict

private theorem get?_lower_of_ne {other : κ} (different : other ≠ key) :
    (dict.lower key value).get? other = dict.get? other := by
  unfold lower
  split
  · rw [get?_set, if_neg different]
  · split
    · rw [get?_set, if_neg different]
    · rfl

private theorem get?_lower_self (dict : Dict κ ν) (key : κ) (value : ν) :
    (dict.lower key value).get? key =
      some ((dict.get? key).elim value (min · value)) := by
  unfold lower
  cases found : dict.get? key with
  | none => rw [get?_set, if_pos rfl, Option.elim_none]
  | some existing =>
      rw [Option.elim_some]
      dsimp only
      split
      · rename_i smaller
        rw [get?_set, if_pos rfl, min_eq_right smaller.le]
      · rename_i notSmaller
        rw [found, min_eq_left (not_lt.mp notSmaller)]

/-- Each key has the least of the values reported for it. -/
structure KeepsLeast (dict : Dict κ ν) (reports : κ → ν → Prop) : Prop where
  least : ∀ key value, dict.get? key = some value → IsLeast {value | reports key value} value
  unreported : ∀ key, dict.get? key = none → ∀ value, ¬ reports key value

theorem keepsLeast_empty : (empty : Dict κ ν).KeepsLeast fun _ _ => False where
  least := fun _ _ found => by cases found
  unreported := fun _ _ _ => id

/-- The reports determine what a dictionary finds. -/
theorem KeepsLeast.get?_eq_some_iff (keeps : dict.KeepsLeast reports) :
    dict.get? key = some value ↔ IsLeast {value | reports key value} value := by
  constructor
  · exact keeps.least key value
  · intro isLeast
    cases found : dict.get? key with
    | none => exact absurd isLeast.1 (keeps.unreported key found value)
    | some other => rw [(keeps.least key other found).unique isLeast]

theorem KeepsLeast.congr {others : κ → ν → Prop} (keeps : dict.KeepsLeast reports)
    (same : ∀ key value, reports key value ↔ others key value) : dict.KeepsLeast others := by
  have equal : reports = others := funext fun key => funext fun value => propext (same key value)
  exact equal ▸ keeps

theorem KeepsLeast.lower (keeps : dict.KeepsLeast reports) (key : κ) (value : ν) :
    (dict.lower key value).KeepsLeast fun other reported =>
      reports other reported ∨ (other, reported) = (key, value) := by
  constructor
  · intro other found isFound
    by_cases same : other = key
    · subst same
      rw [get?_lower_self, Option.some.injEq] at isFound
      subst isFound
      cases before : dict.get? other with
      | none =>
          refine ⟨.inr rfl, ?_⟩
          intro reported isReported
          obtain isBefore | isNew := isReported
          · exact absurd isBefore (keeps.unreported other before reported)
          · exact (congrArg Prod.snd isNew).ge
      | some existing =>
          have isLeast := keeps.least other existing before
          rw [Option.elim_some]
          constructor
          · obtain isOld | isNew := min_choice existing value
            · left
              rw [isOld]
              exact isLeast.1
            · right
              rw [isNew]
          · intro reported isReported
            obtain isBefore | isNew := isReported
            · exact (min_le_left _ _).trans (isLeast.2 isBefore)
            · exact (min_le_right _ _).trans (congrArg Prod.snd isNew).ge
    · rw [get?_lower_of_ne same] at isFound
      have isLeast := keeps.least other found isFound
      refine ⟨.inl isLeast.1, ?_⟩
      intro reported isReported
      obtain isBefore | isNew := isReported
      · exact isLeast.2 isBefore
      · exact absurd (congrArg Prod.fst isNew) same
  · intro other missing reported isReported
    by_cases same : other = key
    · subst same
      rw [get?_lower_self] at missing
      cases missing
    · rw [get?_lower_of_ne same] at missing
      obtain isBefore | isNew := isReported
      · exact keeps.unreported other missing reported isBefore
      · exact same (congrArg Prod.fst isNew)

theorem KeepsLeast.lowerAll (keeps : dict.KeepsLeast reports) (entries : List (κ × ν)) :
    (dict.lowerAll entries).KeepsLeast fun key value =>
      reports key value ∨ (key, value) ∈ entries := by
  induction entries generalizing dict reports with
  | nil => exact keeps.congr fun key value => by simp
  | cons entry entries ih =>
      apply (ih (keeps.lower entry.1 entry.2)).congr
      intro key value
      rw [List.mem_cons, or_assoc]

/-- The dictionary of the reports of a list. -/
theorem keepsLeast_lowerAll (entries : List (κ × ν)) :
    ((empty : Dict κ ν).lowerAll entries).KeepsLeast fun key value => (key, value) ∈ entries := by
  apply (keepsLeast_empty.lowerAll entries).congr
  intro key value
  rw [false_or]

private theorem lowerAll_append (dict : Dict κ ν) (first second : List (κ × ν)) :
    dict.lowerAll (first ++ second) = (dict.lowerAll first).lowerAll second :=
  List.foldl_append

/-- Set the entries whose keys have no value yet. -/
def fill (dict : Dict κ ν) (entries : List (κ × ν)) : Dict κ ν :=
  entries.foldl (fun dict entry =>
    if entry.1 ∈ dict.keys then dict else dict.set entry.1 entry.2) dict

omit [LinearOrder ν] in
theorem get?_fill (dict : Dict κ ν) (entries : List (κ × ν)) (key : κ) :
    (dict.fill entries).get? key =
      (dict.get? key).or ((entries.find? (·.1 = key)).map Prod.snd) := by
  induction entries generalizing dict with
  | nil => simp [fill]
  | cons entry entries ih =>
      have step : dict.fill (entry :: entries) =
          (if entry.1 ∈ dict.keys then dict else dict.set entry.1 entry.2).fill entries := rfl
      rw [step, ih]
      by_cases same : entry.1 = key
      · subst same
        by_cases known : entry.1 ∈ dict.keys
        · obtain ⟨value, isValue⟩ := mem_keys_iff.mp known
          simp [known, isValue]
        · simp [known, get?_set, get?_eq_none_iff.mpr known]
      · by_cases known : entry.1 ∈ dict.keys <;> simp [known, get?_set, Ne.symm same, same]

/-- Reporting what comes of each item is reporting what comes of all of them. -/
theorem foldl_lowerAll {α : Type} (reported : α → List (κ × ν)) (items : List α)
    (dict : Dict κ ν) :
    items.foldl (fun dict item => dict.lowerAll (reported item)) dict =
      dict.lowerAll (items.flatMap reported) := by
  induction items generalizing dict with
  | nil => rfl
  | cons item items ih => rw [List.foldl_cons, ih, List.flatMap_cons, lowerAll_append]

end Dict

end Least

section Guarded

variable {ε α β : Type} {step : β → α → Except ε β} {valid : α → Bool} {next : β → α → β}

/-- A step that fails exactly on the items that are not valid. -/
structure Guarded (step : β → α → Except ε β) (valid : α → Bool) (next : β → α → β) : Prop where
  passes : ∀ state item, valid item = true → step state item = .ok (next state item)
  fails : ∀ state item, valid item = false → ∃ failure, step state item = .error failure

/-- A list fails exactly if some item of it does. -/
theorem Guarded.foldlM (guarded : Guarded step valid next) :
    Guarded (fun state (items : List α) => items.foldlM step state) (fun items => items.all valid)
      fun state items => items.foldl next state where
  passes := by
    intro state items isValid
    induction items generalizing state with
    | nil => rfl
    | cons item items ih =>
        rw [List.all_cons, Bool.and_eq_true] at isValid
        rw [List.foldlM_cons, guarded.passes state item isValid.1]
        exact ih _ isValid.2
  fails := by
    intro state items isInvalid
    induction items generalizing state with
    | nil => cases isInvalid
    | cons item items ih =>
        rw [List.foldlM_cons]
        cases isValid : valid item with
        | false =>
            obtain ⟨failure, isFailure⟩ := guarded.fails state item isValid
            exact ⟨failure, by rw [isFailure]; rfl⟩
        | true =>
            rw [List.all_cons, isValid, Bool.true_and] at isInvalid
            rw [guarded.passes state item isValid]
            exact ih _ isInvalid

/-- What a guarded step returns. -/
theorem Guarded.ok_iff (guarded : Guarded step valid next) {state result : β} {item : α} :
    step state item = .ok result ↔ valid item = true ∧ next state item = result := by
  cases isValid : valid item with
  | true => simp [guarded.passes state item isValid]
  | false =>
      obtain ⟨failure, isFailure⟩ := guarded.fails state item isValid
      simp [isFailure]

end Guarded

end Foundation
