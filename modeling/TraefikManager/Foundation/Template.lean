import Mathlib.Data.List.Basic
import Mathlib.Algebra.BigOperators.Group.List.Basic
import Mathlib.Algebra.GroupWithZero.Nat

/-!
# Filled templates

A template is a sequence of fixed parts, and filling it puts a value in front of each. Where
every fixed part but the last begins with a symbol that does not occur in the values of one
filling, no other values fill the template to the same text.
-/

namespace Foundation.Template

variable {α : Type} [DecidableEq α] {template values expected : List (List α)}

/-- The values, each followed by the fixed part after it. -/
def fill : List (List α) → List (List α) → List α
  | value :: values, part :: template => value ++ part ++ fill values template
  | _, _ => []

/-- Every fixed part but the last begins with a symbol that is in none of the values. -/
def Separates (template values : List (List α)) : Prop :=
  ∀ part ∈ template.dropLast, ∃ symbol rest, part = symbol :: rest ∧ ∀ value ∈ values, symbol ∉ value

instance : Decidable (Separates template values) :=
  decidable_of_iff
    (∀ part ∈ template.dropLast, (part.head?.any fun symbol => values.all (symbol ∉ ·)) = true) <| by
    refine forall₂_congr fun part _ => ?_
    cases part with
    | nil => simp
    | cons symbol rest => simp

omit [DecidableEq α] in
private theorem fill_cons (value part : List α) :
    fill (value :: values) (part :: template) = value ++ part ++ fill values template := rfl

/-- The fixed parts contribute the same symbols to every filling. -/
theorem count_fill (symbol : α) (fits : values.length = template.length) :
    (fill values template).count symbol =
      (values.map (List.count symbol)).sum + (template.map (List.count symbol)).sum := by
  induction template generalizing values with
  | nil =>
      obtain rfl := List.length_eq_zero_iff.mp fits
      rfl
  | cons part template ih =>
      obtain ⟨value, values, rfl⟩ := List.exists_cons_of_length_eq_add_one fits
      rw [fill_cons, List.count_append, List.count_append, ih (Nat.succ.inj fits)]
      simp only [List.map_cons, List.sum_cons]
      omega

/-- A symbol that one filling does not put in is not put in by a filling to the same text. -/
theorem notMem_of_fill_eq {symbol : α} (fits : values.length = template.length)
    (fits' : expected.length = template.length)
    (same : fill values template = fill expected template)
    (absent : ∀ value ∈ expected, symbol ∉ value) : ∀ value ∈ values, symbol ∉ value := by
  have counts := congrArg (List.count symbol) same
  rw [count_fill symbol fits, count_fill symbol fits'] at counts
  have none : (expected.map (List.count symbol)).sum = 0 := by
    refine List.sum_eq_zero fun count listed => ?_
    obtain ⟨value, inExpected, rfl⟩ := List.mem_map.mp listed
    exact List.count_eq_zero.mpr (absent value inExpected)
  intro value listed
  have zero : (values.map (List.count symbol)).sum = 0 := by omega
  exact List.count_eq_zero.mp
    (List.sum_eq_zero_iff_forall_eq_nat.mp zero _ (List.mem_map_of_mem listed))

omit [DecidableEq α] in
/-- Two texts before the first occurrence of a symbol are compared by themselves. -/
theorem append_cons_cancel {symbol : α} {first second rest rest' : List α}
    (absent : symbol ∉ first) (absent' : symbol ∉ second)
    (same : first ++ symbol :: rest = second ++ symbol :: rest') :
    first = second ∧ rest = rest' := by
  induction first generalizing second with
  | nil =>
      cases second with
      | nil => exact ⟨rfl, (List.cons.inj same).2⟩
      | cons other second =>
          cases (List.cons.inj same).1
          exact absurd List.mem_cons_self absent'
  | cons head first ih =>
      cases second with
      | nil =>
          cases (List.cons.inj same).1
          exact absurd List.mem_cons_self absent
      | cons other second =>
          obtain ⟨rfl, sameTail⟩ := List.cons.inj same
          obtain ⟨rfl, sameRest⟩ := ih (fun inFirst => absent (List.mem_cons_of_mem _ inFirst))
            (fun inSecond => absent' (List.mem_cons_of_mem _ inSecond)) sameTail
          exact ⟨rfl, sameRest⟩

omit [DecidableEq α] in
private theorem eq_of_fill_eq (fits : values.length = template.length)
    (fits' : expected.length = template.length) (separates : Separates template values)
    (separates' : ∀ part ∈ template.dropLast, ∀ symbol ∈ part.head?,
      ∀ value ∈ expected, symbol ∉ value)
    (same : fill values template = fill expected template) : values = expected := by
  induction template generalizing values expected with
  | nil => rw [List.length_eq_zero_iff.mp fits, List.length_eq_zero_iff.mp fits']
  | cons part template ih =>
      obtain ⟨value, values, rfl⟩ := List.exists_cons_of_length_eq_add_one fits
      obtain ⟨value', expected, rfl⟩ := List.exists_cons_of_length_eq_add_one fits'
      replace fits := Nat.succ.inj fits
      replace fits' := Nat.succ.inj fits'
      rw [fill_cons, fill_cons] at same
      cases template with
      | nil =>
          rw [List.length_eq_zero_iff.mp fits, List.length_eq_zero_iff.mp fits'] at same ⊢
          simp only [fill, List.append_nil] at same
          rw [List.append_cancel_right same]
      | cons next template =>
          obtain ⟨symbol, rest, rfl, absent⟩ := separates part List.mem_cons_self
          have absent' := separates' (symbol :: rest) List.mem_cons_self symbol rfl
          rw [List.append_assoc, List.append_assoc, List.cons_append, List.cons_append] at same
          obtain ⟨rfl, sameRest⟩ := append_cons_cancel (absent value List.mem_cons_self)
            (absent' value' List.mem_cons_self) same
          have later := List.append_cancel_left sameRest
          rw [ih fits fits' ?_ ?_ later]
          · intro part listed
            obtain ⟨symbol, rest, isCons, absent⟩ := separates part (List.mem_cons_of_mem _ listed)
            exact ⟨symbol, rest, isCons, fun value inValues =>
              absent value (List.mem_cons_of_mem _ inValues)⟩
          · intro part listed symbol isHead value inExpected
            exact separates' part (List.mem_cons_of_mem _ listed) symbol isHead value
              (List.mem_cons_of_mem _ inExpected)

/-- **Unique filling.** A filling whose values the fixed parts separate is the only one to its
text. -/
theorem fill_eq_iff (fits : values.length = template.length)
    (fits' : expected.length = template.length) (separates : Separates template expected) :
    fill values template = fill expected template ↔ values = expected := by
  constructor
  · intro same
    refine eq_of_fill_eq fits fits' ?_ ?_ same
    · intro part listed
      obtain ⟨symbol, rest, isCons, absent⟩ := separates part listed
      exact ⟨symbol, rest, isCons, notMem_of_fill_eq fits fits' same absent⟩
    · intro part listed symbol isHead value inExpected
      obtain ⟨first, rest, rfl, absent⟩ := separates part listed
      cases isHead
      exact absent value inExpected
  · intro same
    rw [same]

end Foundation.Template
