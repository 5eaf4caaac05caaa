import Mathlib.Algebra.BigOperators.Group.List.Basic
import Mathlib.Algebra.Ring.Int.Defs
import TraefikManager.Foundation.Dict

/-!
# Tallies

A dictionary of whole numbers counts by keys. Amounts are added under their keys one after the
other; the sum of a tally and the count of each key grow by what is added. A tally that takes only
so many keys counts everything else under one key for the rest.
-/

namespace Foundation

section Sums

variable {α : Type}

/-- The sum over some items is that over all, with nothing for the others. -/
theorem sum_map_filter (keep : α → Bool) (weight : α → Int) (items : List α) :
    ((items.filter keep).map weight).sum =
      (items.map fun item => if keep item then weight item else 0).sum := by
  induction items with
  | nil => rfl
  | cons item items ih =>
      by_cases kept : keep item = true
      · rw [List.filter_cons_of_pos kept, List.map_cons, List.sum_cons, ih, List.map_cons,
          List.sum_cons, if_pos kept]
      · rw [List.filter_cons_of_neg kept, ih, List.map_cons, List.sum_cons, if_neg kept, zero_add]

/-- A change of one item changes the sum by as much. -/
theorem sum_map_modify {change : α → α} {weight : α → Int} {amount : Int}
    (adds : ∀ item, weight (change item) = weight item + amount) {items : List α} {index : Nat}
    (inside : index < items.length) :
    ((items.modify index change).map weight).sum = (items.map weight).sum + amount := by
  induction items generalizing index with
  | nil => cases inside
  | cons item items ih =>
      cases index with
      | zero =>
          rw [List.modify_zero_cons, List.map_cons, List.sum_cons, List.map_cons, List.sum_cons,
            adds]
          omega
      | succ index =>
          rw [List.modify_succ_cons, List.map_cons, List.sum_cons, List.map_cons, List.sum_cons,
            ih (Nat.lt_of_succ_lt_succ inside)]
          omega

/-- A change of one item is not seen where it does not show. -/
theorem map_modify_of_same {β : Type} {change : α → α} {view : α → β}
    (same : ∀ item, view (change item) = view item) (items : List α) (index : Nat) :
    (items.modify index change).map view = items.map view := by
  apply List.ext_getElem?
  intro position
  rw [List.getElem?_map, List.getElem?_modify, List.getElem?_map]
  cases items[position]? with
  | none => rfl
  | some item =>
      by_cases here : index = position
      · simp [here, same]
      · simp [here]

/-- What one item adds, seen at each position. -/
theorem getD_modify {change : α → α} {weight : α → Int} {amount : Int}
    (adds : ∀ item, weight (change item) = weight item + amount) {items : List α} {index : Nat}
    (inside : index < items.length) (position : Nat) :
    ((items.modify index change)[position]?.map weight).getD 0 =
      (items[position]?.map weight).getD 0 + if index = position then amount else 0 := by
  rw [List.getElem?_modify]
  by_cases here : index = position
  · subst here
    rw [List.getElem?_eq_getElem inside, if_pos rfl]
    simp [adds]
  · cases items[position]? <;> simp [here]

end Sums

section Accumulating

variable {ε σ α ι : Type} {step : σ → α → Except ε σ} {holds : σ → Prop} {measure : ι → σ → Int}
  {weight : ι → α → Int} {items : List α} {state : σ}

/-- What each item adds to some measures of a state, all items together add. -/
theorem foldlM_adds
    (each : ∀ state item, item ∈ items → holds state → ∃ next, step state item = .ok next ∧
      holds next ∧ ∀ index, measure index next = measure index state + weight index item)
    (starts : holds state) :
    ∃ last, items.foldlM step state = .ok last ∧ holds last ∧
      ∀ index, measure index last = measure index state + (items.map (weight index)).sum := by
  induction items generalizing state with
  | nil => exact ⟨state, rfl, starts, fun index => (Int.add_zero _).symm⟩
  | cons item items ih =>
      obtain ⟨next, isNext, holdsNext, added⟩ := each state item List.mem_cons_self starts
      obtain ⟨last, isLast, holdsLast, addedLater⟩ :=
        ih (fun state other listed => each state other (List.mem_cons_of_mem _ listed)) holdsNext
      refine ⟨last, ?_, holdsLast, ?_⟩
      · rw [List.foldlM_cons, isNext]
        exact isLast
      · intro index
        rw [addedLater, added, List.map_cons, List.sum_cons, Int.add_assoc]

end Accumulating

namespace Dict

section Tallies

variable {κ ν : Type} [DecidableEq κ] {counts : Dict κ Int} {key other : κ} {amount : Int}

/-- The count of a key; a key that is missing counts as zero. -/
def count (counts : Dict κ Int) (key : κ) : Int := (counts.get? key).getD 0

/-- `counts[key] = counts.get(key, 0) + amount`. -/
def add (counts : Dict κ Int) (key : κ) (amount : Int) : Dict κ Int :=
  counts.set key (counts.count key + amount)

theorem count_add : (counts.add key amount).count other =
    counts.count other + if other = key then amount else 0 := by
  rw [add, count, get?_set]
  by_cases same : other = key
  · rw [if_pos same, if_pos same, same, Option.getD_some]
  · rw [if_neg same, if_neg same, Int.add_zero, count]

private theorem total_add : (counts.add key amount).total id = counts.total id + amount := by
  rw [add, total_set, Option.map_id, id, id, count]
  omega

/-- Amounts are added under their keys, one after the other. -/
def addAll (weight : ν → Int) (counts : Dict κ Int) (entries : List (κ × ν)) : Dict κ Int :=
  entries.foldl (fun counts entry => counts.add entry.1 (weight entry.2)) counts

theorem total_addAll (weight : ν → Int) (counts : Dict κ Int) (dict : Dict κ ν) :
    (addAll weight counts dict.entries).total id = counts.total id + dict.total weight := by
  have sum : dict.total weight = (dict.entries.map fun entry => weight entry.2).sum := by
    rw [total, values, List.map_map]
    rfl
  rw [sum, addAll]
  generalize dict.entries = entries
  induction entries generalizing counts with
  | nil => exact (Int.add_zero _).symm
  | cons entry entries ih =>
      rw [List.foldl_cons, ih, total_add, List.map_cons, List.sum_cons, Int.add_assoc]

theorem count_addAll (weight : ν → Int) (counts : Dict κ Int) (dict : Dict κ ν) (key : κ) :
    (addAll weight counts dict.entries).count key =
      counts.count key + ((dict.get? key).map weight).getD 0 := by
  obtain ⟨entries, distinct⟩ := dict
  unfold addAll get?
  induction entries generalizing counts with
  | nil => simp
  | cons entry entries ih =>
      obtain ⟨fresh, distinctRest⟩ := List.nodup_cons.mp distinct
      rw [List.foldl_cons, ih _ distinctRest, count_add]
      by_cases same : key = entry.1
      · have missing : entries.find? (fun entry => entry.1 = key) = none := by
          rw [List.find?_eq_none]
          intro other listed isKey
          exact fresh (List.mem_map.mpr ⟨other, listed, (of_decide_eq_true isKey).trans same⟩)
        rw [if_pos same, List.find?_cons_of_pos (by simp [same]), missing]
        simp
      · rw [if_neg same, Int.add_zero, List.find?_cons_of_neg (by simp [Ne.symm same])]

end Tallies

section Spilling

variable {κ ν : Type} [DecidableEq κ] {dict : Dict κ ν} {limit : Nat} {rest : κ}

/-- A dictionary with at most so many keys, and one more only for the rest. -/
def Spills (limit : Nat) (rest : κ) (dict : Dict κ ν) : Prop :=
  dict.keys.length ≤ limit ∨ dict.keys.length = limit + 1 ∧ rest ∈ dict.keys

omit [DecidableEq κ] in
theorem spills_empty : Spills limit rest (∅ : Dict κ ν) := .inl (Nat.zero_le limit)

omit [DecidableEq κ] in
theorem Spills.length_le (spills : Spills limit rest dict) : dict.keys.length ≤ limit + 1 := by
  obtain few | ⟨full, -⟩ := spills
  · exact Nat.le_succ_of_le few
  · exact Nat.le_of_eq full

/-- A key that is no longer taken is set under the key for the rest. -/
theorem Spills.set (spills : Spills limit rest dict) (key : κ) (value : ν) :
    Spills limit rest
      (dict.set (if key ∉ dict.keys ∧ limit ≤ dict.keys.length then rest else key) value) := by
  unfold Spills at *
  by_cases spilled : key ∉ dict.keys ∧ limit ≤ dict.keys.length
  · rw [if_pos spilled, keys_set]
    by_cases known : rest ∈ dict.keys
    · rw [if_pos known]
      exact spills
    · rw [if_neg known, List.length_append, List.length_singleton]
      right
      obtain few | full := spills
      · exact ⟨by omega, by simp⟩
      · exact absurd full.2 known
  · rw [if_neg spilled, keys_set]
    by_cases known : key ∈ dict.keys
    · rw [if_pos known]
      exact spills
    · rw [if_neg known, List.length_append, List.length_singleton]
      left
      have room : ¬limit ≤ dict.keys.length := fun full => spilled ⟨known, full⟩
      omega

end Spilling

end Dict

end Foundation
