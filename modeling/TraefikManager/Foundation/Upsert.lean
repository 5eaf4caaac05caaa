import Mathlib.Data.Finset.Card
import TraefikManager.Foundation.Table

/-!
# Upserts by a unique column

An upsert looks a value up in a column. The row that has the value is saved again under
its key; when no row has it, a new row is saved under a fresh key. A run of upserts looks
every value up in the table its predecessors left, so that a value occurring twice is
found the second time.
-/

namespace Foundation.Table

variable {α κ β : Type} {key : α → κ} {column : α → β}

/-- Both the key and the column name their rows. -/
structure Keyed (key : α → κ) (column : α → β) (rows : List α) : Prop where
  keys : (rows.map key).Nodup
  values : (rows.map column).Nodup

theorem keyed_nil : Keyed key column [] := ⟨by simp, by simp⟩

variable [DecidableEq κ]

/-- What upserting `wanted` does to a table, and whether a row had the value. -/
inductive Upserted (key : α → κ) (column : α → β) (fresh : κ) (wanted : β) (before : List α) :
    Bool → List α → Prop where
  | update {existing row : α} (listed : existing ∈ before) (had : column existing = wanted)
      (sameKey : key row = key existing) (has : column row = wanted) :
      Upserted key column fresh wanted before true (save key before row)
  | create {row : α} (missing : ∀ other ∈ before, column other ≠ wanted)
      (newKey : key row = fresh) (has : column row = wanted) :
      Upserted key column fresh wanted before false (save key before row)

namespace Upserted

variable {fresh : κ} {wanted : β} {before after : List α} {found : Bool}

private theorem found_iff (upserted : Upserted key column fresh wanted before found after) :
    found = true ↔ wanted ∈ before.map column := by
  cases upserted with
  | update listed had _ _ => simpa using ⟨_, listed, had⟩
  | create missing _ _ => simpa using missing

theorem keyed (upserted : Upserted key column fresh wanted before found after)
    (wasKeyed : Keyed key column before) : Keyed key column after := by
  cases upserted with
  | update listed had sameKey has =>
      refine ⟨nodup_save wasKeyed.keys _, nodup_map_save wasKeyed.keys wasKeyed.values ?_⟩
      intro other isOther differs same
      have isExisting := eq_of_key wasKeyed.values isOther listed (by rw [same, has, had])
      exact differs (by rw [isExisting, sameKey])
  | create missing newKey has =>
      refine ⟨nodup_save wasKeyed.keys _, nodup_map_save wasKeyed.keys wasKeyed.values ?_⟩
      intro other isOther _
      rw [has]
      exact missing other isOther

/-- An upsert adds its value to the column and removes none. -/
theorem mem_column (upserted : Upserted key column fresh wanted before found after)
    (wasKeyed : Keyed key column before) (isFresh : fresh ∉ before.map key) {value : β} :
    value ∈ after.map column ↔ value = wanted ∨ value ∈ before.map column := by
  cases upserted with
  | @update existing row listed had sameKey has =>
      simp only [List.mem_map, mem_save]
      constructor
      · rintro ⟨other, rfl | ⟨isOther, -⟩, rfl⟩
        · exact .inl has
        · exact .inr ⟨other, isOther, rfl⟩
      · rintro (rfl | ⟨other, isOther, rfl⟩)
        · exact ⟨row, .inl rfl, has⟩
        · by_cases same : key other = key row
          · have isExisting := eq_of_key wasKeyed.keys isOther listed (same.trans sameKey)
            exact ⟨row, .inl rfl, by rw [has, isExisting, had]⟩
          · exact ⟨other, .inr ⟨isOther, same⟩, rfl⟩
  | @create row missing newKey has =>
      simp only [List.mem_map, mem_save]
      constructor
      · rintro ⟨other, rfl | ⟨isOther, -⟩, rfl⟩
        · exact .inl has
        · exact .inr ⟨other, isOther, rfl⟩
      · rintro (rfl | ⟨other, isOther, rfl⟩)
        · exact ⟨row, .inl rfl, has⟩
        · refine ⟨other, .inr ⟨isOther, fun same => isFresh ?_⟩, rfl⟩
          exact List.mem_map.mpr ⟨other, isOther, same.trans newKey⟩

/-- The keys of the rows: at most the fresh one is new. -/
theorem mem_key (upserted : Upserted key column fresh wanted before found after) {other : κ}
    (listed : other ∈ after.map key) : other = fresh ∨ other ∈ before.map key := by
  obtain ⟨saved, isSaved, rfl⟩ := List.mem_map.mp listed
  cases upserted with
  | update isExisting _ sameKey _ =>
      rcases mem_save.mp isSaved with rfl | ⟨stays, -⟩
      · exact .inr (List.mem_map.mpr ⟨_, isExisting, sameKey.symm⟩)
      · exact .inr (List.mem_map.mpr ⟨saved, stays, rfl⟩)
  | create _ newKey _ =>
      rcases mem_save.mp isSaved with rfl | ⟨stays, -⟩
      · exact .inl newKey
      · exact .inr (List.mem_map.mpr ⟨saved, stays, rfl⟩)

end Upserted

/-- A run of upserts, each with the fresh key it would use, and how many values a row had. -/
inductive UpsertRun (key : α → κ) (column : α → β) :
    List (κ × β) → List α → Nat → List α → Prop where
  | nil {rows : List α} : UpsertRun key column [] rows 0 rows
  | cons {fresh : κ} {wanted : β} {rest : List (κ × β)} {before middle after : List α}
      {found : Bool} {count : Nat} (first : Upserted key column fresh wanted before found middle)
      (later : UpsertRun key column rest middle count after) :
      UpsertRun key column ((fresh, wanted) :: rest) before (if found then count + 1 else count)
        after

namespace UpsertRun

variable {entries : List (κ × β)} {before after : List α} {count : Nat}

omit [DecidableEq κ] in
private theorem fresh_head {fresh : κ} {wanted : β} {rest : List (κ × β)}
    (distinct : (((fresh, wanted) :: rest).map Prod.fst ++ before.map key).Nodup) :
    fresh ∉ before.map key := by
  simp only [List.map_cons, List.cons_append, List.nodup_cons, List.mem_append, not_or] at distinct
  exact distinct.1.2

/-- Keys that are fresh for a run stay so for its rest. -/
theorem fresh_rest {fresh : κ} {wanted : β} {rest : List (κ × β)} {middle : List α}
    {found : Bool} (first : Upserted key column fresh wanted before found middle)
    (wasKeyed : Keyed key column before)
    (distinct : (((fresh, wanted) :: rest).map Prod.fst ++ before.map key).Nodup) :
    (rest.map Prod.fst ++ middle.map key).Nodup := by
  simp only [List.map_cons, List.cons_append, List.nodup_cons, List.mem_append, not_or] at distinct
  obtain ⟨⟨notLater, -⟩, others⟩ := distinct
  obtain ⟨later, -, apart⟩ := List.nodup_append.mp others
  refine List.nodup_append.mpr ⟨later, (first.keyed wasKeyed).keys, ?_⟩
  intro other isLater stored inMiddle same
  rcases first.mem_key inMiddle with isFresh | wasStored
  · rw [same, isFresh] at isLater
    exact notLater isLater
  · exact apart other isLater stored wasStored same

/-- A run adds its values to the column and removes none. -/
theorem mem_column (run : UpsertRun key column entries before count after)
    (wasKeyed : Keyed key column before)
    (distinct : (entries.map Prod.fst ++ before.map key).Nodup) {value : β} :
    value ∈ after.map column ↔ value ∈ entries.map Prod.snd ∨ value ∈ before.map column := by
  induction run with
  | nil => simp
  | cons first _ ih =>
      rw [ih (first.keyed wasKeyed) (fresh_rest first wasKeyed distinct),
        first.mem_column wasKeyed (fresh_head distinct), List.map_cons, List.mem_cons]
      tauto

variable [DecidableEq β]

/-- The values of a run are those a row had and those that were new, each new one once. -/
theorem count_add_card (run : UpsertRun key column entries before count after)
    (wasKeyed : Keyed key column before)
    (distinct : (entries.map Prod.fst ++ before.map key).Nodup) :
    count + ((entries.map Prod.snd).toFinset \ (before.map column).toFinset).card =
      entries.length := by
  induction run with
  | nil => simp
  | @cons fresh wanted rest before middle after found count first _ ih =>
      have rested := ih (first.keyed wasKeyed) (fresh_rest first wasKeyed distinct)
      have columns : (middle.map column).toFinset = insert wanted (before.map column).toFinset := by
        ext value
        rw [Finset.mem_insert, List.mem_toFinset, List.mem_toFinset]
        exact first.mem_column wasKeyed (fresh_head distinct)
      rw [columns] at rested
      simp only [List.map_cons, List.toFinset_cons, List.length_cons]
      by_cases had : wanted ∈ before.map column
      · have known : wanted ∈ (before.map column).toFinset := List.mem_toFinset.mpr had
        rw [first.found_iff.mpr had, if_pos rfl, Finset.insert_sdiff_of_mem _ known]
        rw [Finset.insert_eq_of_mem known] at rested
        omega
      · have unknown : wanted ∉ (before.map column).toFinset := by simpa using had
        have notFound : found = false := by
          rw [← Bool.not_eq_true, first.found_iff]
          exact had
        rw [notFound, if_neg Bool.false_ne_true]
        have split : insert wanted (rest.map Prod.snd).toFinset \ (before.map column).toFinset =
            insert wanted ((rest.map Prod.snd).toFinset \
              insert wanted (before.map column).toFinset) := by
          ext value
          simp only [Finset.mem_sdiff, Finset.mem_insert]
          by_cases same : value = wanted
          · simp [same, unknown]
          · simp [same]
        rw [split, Finset.card_insert_of_notMem (by simp)]
        omega

end UpsertRun

/-- Counting the occurrences of what is new agrees with counting the new values when, and
only when, none of them occurs twice. -/
theorem length_filter_eq_card_iff [DecidableEq β] (values stored : List β) :
    (values.filter (· ∉ stored)).length = (values.toFinset \ stored.toFinset).card ↔
      (values.filter (· ∉ stored)).Nodup := by
  have sameSet : values.toFinset \ stored.toFinset = (values.filter (· ∉ stored)).toFinset := by
    ext value
    simp
  rw [sameSet]
  constructor
  · intro same
    exact Multiset.toFinset_card_eq_card_iff_nodup.mp same.symm
  · intro distinct
    exact (List.toFinset_card_of_nodup distinct).symm

end Foundation.Table
