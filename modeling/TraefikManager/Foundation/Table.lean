import Mathlib.Data.List.Nodup
import Mathlib.Data.List.Basic

/-!
# Tables with a primary key

A table is a list of rows, each with a key. Saving a row replaces the row of its
key or appends it; deleting removes the row of a key.
-/

namespace Foundation.Table

variable {α κ : Type} [DecidableEq κ] (key : α → κ)

/-- The row of a key. -/
def find (rows : List α) (wanted : κ) : Option α := rows.find? fun row => key row = wanted

/-- Replace the row of the same key, or append the row. -/
def save (rows : List α) (row : α) : List α :=
  if key row ∈ rows.map key then rows.map fun old => if key old = key row then row else old
  else rows ++ [row]

/-- Remove the row of a key. -/
def delete (rows : List α) (unwanted : κ) : List α := rows.filter fun row => key row ≠ unwanted

variable {key}

theorem mem_of_find {rows : List α} {wanted : κ} {row : α}
    (found : find key rows wanted = some row) : row ∈ rows ∧ key row = wanted := by
  refine ⟨List.mem_of_find?_eq_some found, ?_⟩
  simpa using List.find?_some found

omit [DecidableEq κ] in
/-- Keys without repetition name their rows. -/
theorem eq_of_key {rows : List α} (distinct : (rows.map key).Nodup) {first second : α}
    (inFirst : first ∈ rows) (inSecond : second ∈ rows) (same : key first = key second) :
    first = second :=
  List.inj_on_of_nodup_map distinct inFirst inSecond same

/-- After saving a row the table has it, and the rows of the other keys. -/
@[simp] theorem mem_save {rows : List α} {row other : α} :
    other ∈ save key rows row ↔ other = row ∨ other ∈ rows ∧ key other ≠ key row := by
  unfold save
  split
  · rename_i known
    obtain ⟨old, listed, isKey⟩ := List.mem_map.mp known
    simp only [List.mem_map]
    constructor
    · rintro ⟨source, inRows, rfl⟩
      split
      · exact .inl rfl
      · rename_i differs
        exact .inr ⟨inRows, differs⟩
    · rintro (rfl | ⟨inRows, differs⟩)
      · exact ⟨old, listed, if_pos isKey⟩
      · exact ⟨other, inRows, if_neg differs⟩
  · rename_i unknown
    have differs : ∀ old ∈ rows, key old ≠ key row :=
      fun old listed same => unknown (List.mem_map.mpr ⟨old, listed, same⟩)
    simp only [List.mem_append, List.mem_singleton]
    constructor
    · rintro (inRows | rfl)
      · exact .inr ⟨inRows, differs other inRows⟩
      · exact .inl rfl
    · rintro (rfl | ⟨inRows, -⟩)
      · exact .inr rfl
      · exact .inl inRows

@[simp] theorem mem_delete {rows : List α} {unwanted : κ} {row : α} :
    row ∈ delete key rows unwanted ↔ row ∈ rows ∧ key row ≠ unwanted := by
  simp [delete]

/-- The row just saved is found under its key. -/
theorem find_save {rows : List α} (row : α) :
    find key (save key rows row) (key row) = some row := by
  unfold find save
  split
  · rename_i known
    induction rows with
    | nil => simp at known
    | cons old rest ih =>
        by_cases isKey : key old = key row
        · simp [isKey]
        · have later : key row ∈ rest.map key := by
            rcases List.mem_cons.mp known with first | later
            · exact absurd first.symm isKey
            · exact later
          simpa [isKey] using ih later
  · rename_i unknown
    rw [List.find?_append]
    have missing : rows.find? (fun old => key old = key row) = none := by
      rw [List.find?_eq_none]
      intro old listed same
      exact unknown (List.mem_map.mpr ⟨old, listed, by simpa using same⟩)
    simp [missing]

theorem nodup_save {rows : List α} (distinct : (rows.map key).Nodup) (row : α) :
    ((save key rows row).map key).Nodup := by
  unfold save
  split
  · have same : (rows.map fun old => if key old = key row then row else old).map key =
        rows.map key := by
      rw [List.map_map]
      refine List.map_congr_left fun old _ => ?_
      simp only [Function.comp_apply]
      split
      · rename_i isKey
        exact isKey.symm
      · rfl
    rwa [same]
  · rename_i unknown
    rw [List.map_append, List.map_singleton]
    simpa using List.Nodup.concat unknown distinct

/-- A column without repetition stays so when the saved row brings a value of its own. -/
theorem nodup_map_save {β : Type} {column : α → β} {rows : List α} {row : α}
    (distinct : (rows.map key).Nodup) (values : (rows.map column).Nodup)
    (fresh : ∀ other ∈ rows, key other ≠ key row → column other ≠ column row) :
    ((save key rows row).map column).Nodup := by
  refine List.Nodup.map_on ?_ (nodup_save distinct row).of_map
  intro first inFirst second inSecond same
  rcases mem_save.mp inFirst with isRow | ⟨firstStays, differs⟩
  · rcases mem_save.mp inSecond with isRow' | ⟨secondStays, differs⟩
    · exact isRow.trans isRow'.symm
    · rw [isRow] at same
      exact absurd same.symm (fresh second secondStays differs)
  · rcases mem_save.mp inSecond with isRow | ⟨secondStays, -⟩
    · rw [isRow] at same
      exact absurd same (fresh first firstStays differs)
    · exact List.inj_on_of_nodup_map values firstStays secondStays same

/-- Deleting one key and then some others is deleting them all. -/
theorem filter_delete (rows : List α) (unwanted : κ) (keys : List κ) :
    (delete key rows unwanted).filter (fun row => key row ∉ keys) =
      rows.filter fun row => key row ∉ unwanted :: keys := by
  unfold delete
  rw [List.filter_filter]
  refine List.filter_congr fun row _ => ?_
  simp [List.mem_cons, Bool.and_comm]

theorem nodup_delete {rows : List α} (distinct : (rows.map key).Nodup) (unwanted : κ) :
    ((delete key rows unwanted).map key).Nodup :=
  distinct.sublist (List.filter_sublist.map key)

end Foundation.Table
