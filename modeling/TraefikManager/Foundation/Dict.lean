import Mathlib.Algebra.Ring.Int.Defs
import Mathlib.Data.List.Nodup
import Mathlib.Data.List.Basic

/-!
# Insertion-ordered dictionaries

A dictionary keeps its entries in the order in which the keys were first set.
Setting a key that is present replaces the value in place, setting a new one
appends it. Distinctness of the keys is part of the value.
-/

namespace Foundation

/-- A dictionary: entries in insertion order, no key twice. -/
structure Dict (κ ν : Type) where
  entries : List (κ × ν)
  distinct : (entries.map Prod.fst).Nodup

namespace Dict

variable {κ ν : Type}

@[ext] theorem ext {first second : Dict κ ν} (same : first.entries = second.entries) :
    first = second := by
  cases first
  cases second
  cases same
  rfl

instance [DecidableEq κ] [DecidableEq ν] : DecidableEq (Dict κ ν) := fun first second =>
  decidable_of_iff (first.entries = second.entries) ⟨ext, congrArg entries⟩

instance [Repr κ] [Repr ν] : Repr (Dict κ ν) := ⟨fun dict => reprPrec dict.entries⟩

/-- The dictionary without entries. -/
def empty : Dict κ ν := ⟨[], List.nodup_nil⟩

instance : EmptyCollection (Dict κ ν) := ⟨empty⟩

instance : Inhabited (Dict κ ν) := ⟨empty⟩

def keys (dict : Dict κ ν) : List κ := dict.entries.map Prod.fst

def values (dict : Dict κ ν) : List ν := dict.entries.map Prod.snd

@[simp] theorem keys_empty : (empty : Dict κ ν).keys = [] := rfl

@[simp] theorem entries_empty : (empty : Dict κ ν).entries = [] := rfl

variable [DecidableEq κ]

/-- The value of a key. -/
def get? (dict : Dict κ ν) (key : κ) : Option ν :=
  (dict.entries.find? fun entry => entry.1 = key).map Prod.snd

private def replace (entries : List (κ × ν)) (key : κ) (value : ν) : List (κ × ν) :=
  entries.map fun entry => if entry.1 = key then (key, value) else entry

private theorem keys_replace (entries : List (κ × ν)) (key : κ) (value : ν) :
    (replace entries key value).map Prod.fst = entries.map Prod.fst := by
  unfold replace
  rw [List.map_map]
  refine List.map_congr_left fun entry _ => ?_
  by_cases same : entry.1 = key <;> simp [same]

/-- `dict[key] = value`. -/
def set (dict : Dict κ ν) (key : κ) (value : ν) : Dict κ ν :=
  if present : key ∈ dict.entries.map Prod.fst then
    { entries := replace dict.entries key value
      distinct := by rw [keys_replace]; exact dict.distinct }
  else
    { entries := dict.entries ++ [(key, value)]
      distinct := by
        rw [List.map_append, List.nodup_append]
        refine ⟨dict.distinct, by simp, ?_⟩
        intro old known new added same
        have isKey : new = key := by simpa using added
        exact present (isKey ▸ same ▸ known) }

/-- Set the entries of a list one after the other. -/
def setAll (dict : Dict κ ν) (entries : List (κ × ν)) : Dict κ ν :=
  entries.foldl (fun dict entry => dict.set entry.1 entry.2) dict

/-- The dictionary a literal with these entries builds. -/
def ofList (entries : List (κ × ν)) : Dict κ ν := setAll empty entries

private theorem entries_set_of_notMem {dict : Dict κ ν} {key : κ} (absent : key ∉ dict.keys)
    (value : ν) : (dict.set key value).entries = dict.entries ++ [(key, value)] := by
  have missing : key ∉ dict.entries.map Prod.fst := absent
  unfold set
  rw [dif_neg missing]

theorem keys_set (dict : Dict κ ν) (key : κ) (value : ν) :
    (dict.set key value).keys = if key ∈ dict.keys then dict.keys else dict.keys ++ [key] := by
  unfold set keys
  by_cases present : key ∈ dict.entries.map Prod.fst
  · rw [dif_pos present, if_pos present, keys_replace]
  · rw [dif_neg present, if_neg present]
    simp

@[simp] theorem mem_keys_set {dict : Dict κ ν} {key other : κ} {value : ν} :
    other ∈ (dict.set key value).keys ↔ other ∈ dict.keys ∨ other = key := by
  rw [keys_set]
  by_cases present : key ∈ dict.keys
  · rw [if_pos present]
    constructor
    · exact .inl
    · rintro (member | rfl)
      · exact member
      · exact present
  · simp [present]

theorem get?_eq_some_iff {dict : Dict κ ν} {key : κ} {value : ν} :
    dict.get? key = some value ↔ (key, value) ∈ dict.entries := by
  obtain ⟨entries, distinct⟩ := dict
  unfold get?
  induction entries with
  | nil => simp
  | cons entry rest ih =>
      obtain ⟨fresh, distinctRest⟩ := List.nodup_cons.mp distinct
      by_cases here : entry.1 = key
      · subst here
        simp only [List.find?_cons, decide_true, Option.map_some, Option.some.injEq,
          List.mem_cons]
        constructor
        · rintro rfl
          exact .inl rfl
        · rintro (same | later)
          · rw [← same]
          · exact absurd (List.mem_map.mpr ⟨_, later, rfl⟩) fresh
      · simp only [List.find?_cons, here, decide_false, List.mem_cons]
        have elsewhere : (key, value) ≠ entry := fun same => here (by rw [← same])
        simp only [elsewhere, false_or]
        exact ih distinctRest

theorem get?_eq_none_iff {dict : Dict κ ν} {key : κ} : dict.get? key = none ↔ key ∉ dict.keys := by
  unfold get? keys
  rw [Option.map_eq_none_iff, List.find?_eq_none, List.mem_map]
  constructor
  · rintro differs ⟨entry, member, same⟩
    exact differs entry member (by simpa using same)
  · intro missing entry member same
    exact missing ⟨entry, member, by simpa using same⟩

theorem mem_keys_iff {dict : Dict κ ν} {key : κ} :
    key ∈ dict.keys ↔ ∃ value, dict.get? key = some value := by
  simp only [get?_eq_some_iff, keys, List.mem_map, Prod.exists, exists_and_right, exists_eq_right]

@[simp] theorem get?_empty {key : κ} : (empty : Dict κ ν).get? key = none := rfl

theorem get?_set (dict : Dict κ ν) (key other : κ) (value : ν) :
    (dict.set key value).get? other = if other = key then some value else dict.get? other := by
  have replaced : ∀ entries : List (κ × ν), (replace entries key value).find? (·.1 = other) =
      if other = key then (entries.find? (·.1 = key)).map fun _ => (key, value)
      else entries.find? (·.1 = other) := by
    intro entries
    induction entries with
    | nil => simp [replace]
    | cons entry rest ih =>
        unfold replace at ih ⊢
        rw [List.map_cons, List.find?_cons, ih]
        by_cases here : entry.1 = key
        · by_cases same : other = key
          · simp [here, same]
          · simp [here, same, Ne.symm same]
        · by_cases same : other = key
          · simp [here, same]
          · simp [here, same, List.find?_cons]
  unfold set get?
  by_cases present : key ∈ dict.entries.map Prod.fst
  · rw [dif_pos present]
    simp only [replaced]
    by_cases same : other = key
    · have found : (dict.entries.find? fun entry => entry.1 = key).isSome := by
        simpa using present
      obtain ⟨entry, isEntry⟩ := Option.isSome_iff_exists.mp found
      simp [same, isEntry]
    · simp [same]
  · rw [dif_neg present]
    by_cases same : other = key
    · have missing : dict.entries.find? (fun entry => entry.1 = key) = none := by
        rw [List.find?_eq_none]
        intro entry member isKey
        exact present (List.mem_map.mpr ⟨entry, member, by simpa using isKey⟩)
      simp [same, List.find?_append, missing]
    · simp [same, Ne.symm same, List.find?_append]

@[simp] theorem setAll_nil (dict : Dict κ ν) : dict.setAll [] = dict := rfl

@[simp] theorem setAll_cons (dict : Dict κ ν) (entry : κ × ν) (rest : List (κ × ν)) :
    dict.setAll (entry :: rest) = (dict.set entry.1 entry.2).setAll rest := rfl

@[simp] theorem mem_keys_setAll {dict : Dict κ ν} {entries : List (κ × ν)} {key : κ} :
    key ∈ (dict.setAll entries).keys ↔ key ∈ dict.keys ∨ key ∈ entries.map Prod.fst := by
  induction entries generalizing dict with
  | nil => simp
  | cons entry rest ih =>
      rw [setAll_cons, ih, mem_keys_set, List.map_cons, List.mem_cons, or_assoc]

@[simp] theorem mem_keys_ofList {entries : List (κ × ν)} {key : κ} :
    key ∈ (ofList entries).keys ↔ key ∈ entries.map Prod.fst := by
  simp [ofList]

/-- A key has the value it was last set to. -/
theorem get?_setAll (dict : Dict κ ν) (entries : List (κ × ν)) (key : κ) :
    (dict.setAll entries).get? key =
      match (entries.filter (·.1 = key)).getLast? with
      | some entry => some entry.2
      | none => dict.get? key := by
  induction entries generalizing dict with
  | nil => rfl
  | cons entry rest ih =>
      rw [setAll_cons, ih]
      by_cases here : entry.1 = key
      · rw [List.filter_cons_of_pos (by simpa using here), List.getLast?_cons]
        cases (rest.filter (·.1 = key)).getLast? with
        | none => simp [get?_set, here]
        | some last => simp
      · rw [List.filter_cons_of_neg (by simpa using here)]
        cases (rest.filter (·.1 = key)).getLast? with
        | none => simp [get?_set, Ne.symm here]
        | some last => simp

theorem get?_ofList (entries : List (κ × ν)) (key : κ) :
    (ofList entries).get? key = ((entries.filter (·.1 = key)).getLast?).map Prod.snd := by
  rw [ofList, get?_setAll]
  cases (entries.filter (·.1 = key)).getLast? <;> rfl

/-- An entry of the result was there before or is one of those set. -/
theorem mem_entries_setAll {dict : Dict κ ν} {entries : List (κ × ν)} {entry : κ × ν}
    (member : entry ∈ (dict.setAll entries).entries) :
    entry ∈ dict.entries ∨ entry ∈ entries := by
  induction entries generalizing dict with
  | nil => exact .inl member
  | cons first rest ih =>
      rcases ih member with before | after
      · have found := get?_eq_some_iff.mpr before
        rw [get?_set] at found
        split at found
        · rename_i same
          refine .inr (List.mem_cons.mpr (.inl ?_))
          exact Prod.ext same (Option.some.inj found).symm
        · exact .inl (get?_eq_some_iff.mp found)
      · exact .inr (List.mem_cons_of_mem _ after)

theorem mem_entries_ofList {entries : List (κ × ν)} {entry : κ × ν}
    (member : entry ∈ (ofList entries).entries) : entry ∈ entries := by
  simpa using mem_entries_setAll member

/-- Setting entries with new, distinct keys appends them. -/
theorem entries_setAll_of_fresh {dict : Dict κ ν} {entries : List (κ × ν)}
    (distinct : (entries.map Prod.fst).Nodup)
    (fresh : ∀ key ∈ entries.map Prod.fst, key ∉ dict.keys) :
    (dict.setAll entries).entries = dict.entries ++ entries := by
  induction entries generalizing dict with
  | nil => simp
  | cons entry rest ih =>
      obtain ⟨notLater, distinctRest⟩ := List.nodup_cons.mp distinct
      have absent : entry.1 ∉ dict.keys := fresh entry.1 (by simp)
      rw [setAll_cons, ih distinctRest, entries_set_of_notMem absent]
      · simp
      · intro key member
        rw [mem_keys_set, not_or]
        exact ⟨fresh key (List.mem_cons_of_mem _ member), fun same => notLater (same ▸ member)⟩

/-- A literal with distinct keys has the entries it lists. -/
theorem entries_ofList {entries : List (κ × ν)} (distinct : (entries.map Prod.fst).Nodup) :
    (ofList entries).entries = entries := by
  have appended : (empty.setAll entries).entries = empty.entries ++ entries :=
    entries_setAll_of_fresh distinct (by simp)
  exact appended

theorem get?_ofList_of_mem {entries : List (κ × ν)} (distinct : (entries.map Prod.fst).Nodup)
    {key : κ} {value : ν} (member : (key, value) ∈ entries) :
    (ofList entries).get? key = some value := by
  rw [get?_eq_some_iff, entries_ofList distinct]
  exact member

/-- The entries that are kept, in their order. -/
def filter (dict : Dict κ ν) (keep : κ × ν → Bool) : Dict κ ν where
  entries := dict.entries.filter keep
  distinct := dict.distinct.sublist (List.filter_sublist.map _)

theorem get?_filter_of_keep {dict : Dict κ ν} {keep : κ × ν → Bool} {key : κ}
    (kept : ∀ value, keep (key, value) = true) : (dict.filter keep).get? key = dict.get? key := by
  have same : ∀ value, (dict.filter keep).get? key = some value ↔ dict.get? key = some value := by
    intro value
    rw [get?_eq_some_iff, get?_eq_some_iff, filter, List.mem_filter]
    exact and_iff_left (kept value)
  exact Option.ext same

theorem get?_of_get?_filter {dict : Dict κ ν} {keep : κ × ν → Bool} {key : κ} {value : ν}
    (found : (dict.filter keep).get? key = some value) : dict.get? key = some value := by
  rw [get?_eq_some_iff, filter, List.mem_filter] at found
  exact get?_eq_some_iff.mpr found.1

/-- The sum of the weights of the values. -/
def total (weight : ν → Int) (dict : Dict κ ν) : Int := (dict.values.map weight).sum

omit [DecidableEq κ] in
@[simp] theorem total_empty (weight : ν → Int) : (empty : Dict κ ν).total weight = 0 := rfl

/-- A value that is set counts in the place of the one before it. -/
theorem total_set (weight : ν → Int) (dict : Dict κ ν) (key : κ) (value : ν) :
    (dict.set key value).total weight =
      dict.total weight + weight value - ((dict.get? key).map weight).getD 0 := by
  obtain ⟨entries, distinct⟩ := dict
  unfold total values set get?
  by_cases present : key ∈ entries.map Prod.fst
  · rw [dif_pos present]
    induction entries with
    | nil => simp at present
    | cons entry rest ih =>
        obtain ⟨fresh, distinctRest⟩ := List.nodup_cons.mp distinct
        by_cases here : entry.1 = key
        · have same : replace rest key value = rest := by
            have kept : rest.map (fun other => if other.1 = key then (key, value) else other) =
                rest.map id := by
              apply List.map_congr_left
              intro other listed
              have differs : other.1 ≠ key := fun isKey =>
                fresh (List.mem_map.mpr ⟨other, listed, isKey.trans here.symm⟩)
              rw [if_neg differs, id]
            rw [replace, kept, List.map_id]
          simp only [replace] at same ⊢
          simp only [List.map_cons, here, if_true, List.find?_cons, decide_true, Option.map_some,
            Option.getD_some, List.sum_cons, same]
          omega
        · have inRest : key ∈ rest.map Prod.fst := by
            obtain isKey | later := List.mem_cons.mp present
            · exact absurd isKey.symm here
            · exact later
          have others := ih distinctRest inRest
          simp only [replace] at others ⊢
          simp only [List.map_cons, here, if_false, List.find?_cons, decide_false, List.sum_cons,
            others]
          omega
  · rw [dif_neg present]
    have missing : entries.find? (fun entry => entry.1 = key) = none := by
      rw [List.find?_eq_none]
      intro entry listed isKey
      exact present (List.mem_map.mpr ⟨entry, listed, by simpa using isKey⟩)
    simp [missing]

/-- A dictionary is the literal of its entries. -/
theorem ofList_entries (dict : Dict κ ν) : ofList dict.entries = dict :=
  ext (entries_ofList dict.distinct)

end Dict

end Foundation
