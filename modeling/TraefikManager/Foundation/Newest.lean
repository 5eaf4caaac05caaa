import Mathlib.Data.Finset.Card
import Mathlib.Data.Finset.Dedup
import Mathlib.Data.List.DropRight
import Mathlib.Data.List.Sort

/-!
# The newest of some values

A list of values is cut to its greatest ones, each once and in ascending order. What is left
does not depend on values below it, so that cutting may be done little by little. A list that
is sorted by a key, the greatest first, is cut to its beginning.
-/

namespace Foundation

section Newest

variable {α : Type} [LinearOrder α] {count : ℕ} {values others : List α} {value : α}

/-- The values above a value. -/
def later (values : List α) (value : α) : Finset α := values.toFinset.filter (value < ·)

/-- The greatest values, each once, the greatest last. -/
def newest (count : ℕ) (values : List α) : List α := values.dedup.mergeSort.rtake count

private theorem mem_later {other : α} :
    other ∈ later values value ↔ other ∈ values ∧ value < other := by
  simp [later]

theorem later_mono (subset : values ⊆ others) : later values value ⊆ later others value := by
  intro other above
  rw [mem_later] at above ⊢
  exact ⟨subset above.1, above.2⟩

/-- What stands at the beginning of a descending list has few values above it. -/
theorem mem_take_of_descending {sorted : List α} (descending : sorted.Pairwise (· > ·)) :
    value ∈ sorted.take count ↔ value ∈ sorted ∧ (later sorted value).card < count := by
  induction sorted generalizing count with
  | nil => simp
  | cons greatest rest ih =>
      obtain ⟨above, descending⟩ := List.pairwise_cons.mp descending
      have new : greatest ∉ rest := fun inRest => lt_irrefl _ (above greatest inRest)
      cases count with
      | zero => simp
      | succ count =>
          rw [List.take_succ_cons, List.mem_cons, List.mem_cons, ih descending]
          by_cases isGreatest : value = greatest
          · subst isGreatest
            have none : later (value :: rest) value = ∅ := by
              apply Finset.eq_empty_of_forall_notMem
              intro other isLater
              obtain ⟨listed, greater⟩ := mem_later.mp isLater
              obtain rfl | inRest := List.mem_cons.mp listed
              · exact lt_irrefl _ greater
              · exact lt_asymm greater (above other inRest)
            simp [none]
          · by_cases inRest : value ∈ rest
            · have split : later (greatest :: rest) value = insert greatest (later rest value) := by
                ext other
                rw [Finset.mem_insert, mem_later, mem_later, List.mem_cons]
                constructor
                · intro isLater
                  exact isLater.1.imp id fun listed => ⟨listed, isLater.2⟩
                · intro isLater
                  obtain rfl | isLater := isLater
                  · exact ⟨.inl rfl, above value inRest⟩
                  · exact ⟨.inr isLater.1, isLater.2⟩
              have absent : greatest ∉ later rest value := fun isLater => new (mem_later.mp isLater).1
              rw [split, Finset.card_insert_of_notMem absent]
              simp [isGreatest, inRest]
            · simp [isGreatest, inRest]

private theorem pairwise_mergeSort_dedup (values : List α) :
    values.dedup.mergeSort.Pairwise (· < ·) := by
  have sorted : values.dedup.mergeSort.Pairwise (· ≤ ·) := List.pairwise_mergeSort' (· ≤ ·) _
  have nodup : values.dedup.mergeSort.Pairwise (· ≠ ·) :=
    (List.mergeSort_perm _ _).nodup_iff.mpr values.nodup_dedup
  exact sorted.imp₂ (fun _ _ => lt_of_le_of_ne) nodup

/-- A value is among the newest unless enough values are above it. -/
theorem mem_newest :
    value ∈ newest count values ↔ value ∈ values ∧ (later values value).card < count := by
  have descending : values.dedup.mergeSort.reverse.Pairwise (· > ·) :=
    List.pairwise_reverse.mpr (pairwise_mergeSort_dedup values)
  have same : later values.dedup.mergeSort.reverse value = later values value := by
    ext other
    simp [mem_later]
  rw [newest, List.rtake_eq_reverse_take_reverse, List.mem_reverse,
    mem_take_of_descending descending, same, List.mem_reverse, List.mem_mergeSort, List.mem_dedup]

theorem newest_subset : newest count values ⊆ values := fun _ isNewest => (mem_newest.mp isNewest).1

/-- The newest values are in ascending order. -/
theorem pairwise_newest (count : ℕ) (values : List α) : (newest count values).Pairwise (· < ·) :=
  (pairwise_mergeSort_dedup values).sublist (List.drop_sublist _ _)

/-- Where some value is not among the newest, the newest are as many as were asked for. -/
theorem length_newest_of_notMem (listed : value ∈ values) (old : value ∉ newest count values) :
    (newest count values).length = count := by
  have least : count ≤ (later values value).card := by
    by_contra few
    exact old (mem_newest.mpr ⟨listed, by omega⟩)
  have most : (later values value).card ≤ values.dedup.length := by
    rw [← List.card_toFinset]
    exact Finset.card_le_card (Finset.filter_subset _ _)
  rw [newest, List.rtake_eq_reverse_take_reverse, List.length_reverse, List.length_take,
    List.length_reverse, List.length_mergeSort]
  omega

/-- What is not among the newest is below each of them. -/
theorem lt_of_notMem_newest (listed : value ∈ values) (old : value ∉ newest count values)
    {other : α} (isNewest : other ∈ newest count values) : value < other := by
  by_contra notAbove
  have fewer : later values value ⊆ later values other := by
    intro above isLater
    rw [mem_later] at isLater ⊢
    exact ⟨isLater.1, (le_of_not_gt notAbove).trans_lt isLater.2⟩
  exact old (mem_newest.mpr ⟨listed,
    (Finset.card_le_card fewer).trans_lt (mem_newest.mp isNewest).2⟩)

/-- A value that is listed and is not among the newest has as many newer ones. -/
theorem count_le_card_later (listed : value ∈ values) (old : value ∉ newest count values)
    (kept : newest count values ⊆ others) : count ≤ (later others value).card := by
  have nodup : (newest count values).Nodup := (pairwise_newest count values).imp ne_of_lt
  rw [← length_newest_of_notMem listed old, ← List.toFinset_card_of_nodup nodup]
  apply Finset.card_le_card
  intro other isNewest
  rw [List.mem_toFinset] at isNewest
  exact mem_later.mpr ⟨kept isNewest, lt_of_notMem_newest listed old isNewest⟩

/-- The newest values do not depend on the others. -/
theorem newest_eq_of_subset (subset : values ⊆ others) (kept : newest count others ⊆ values) :
    newest count values = newest count others := by
  apply (pairwise_newest count values).eq_of_mem_iff (pairwise_newest count others)
  intro value
  constructor
  · intro isNewest
    by_contra old
    obtain ⟨listed, few⟩ := mem_newest.mp isNewest
    have := count_le_card_later (subset listed) old kept
    omega
  · intro isNewest
    obtain ⟨listed, few⟩ := mem_newest.mp isNewest
    exact mem_newest.mpr ⟨kept isNewest, (Finset.card_le_card (later_mono subset)).trans_lt few⟩

end Newest

section SortedByKey

variable {β κ : Type} [LinearOrder κ] {key : β → κ}

/-- `sorted(values, key=key)`. -/
def sortAscending (key : β → κ) (values : List β) : List β :=
  values.mergeSort fun first second => key first ≤ key second

theorem perm_sortAscending (values : List β) : (sortAscending key values).Perm values :=
  List.mergeSort_perm _ _

theorem mem_sortAscending {values : List β} {value : β} :
    value ∈ sortAscending key values ↔ value ∈ values := List.mem_mergeSort

theorem pairwise_sortAscending (values : List β) :
    (sortAscending key values).Pairwise fun first second => key first ≤ key second := by
  have trans : IsTrans β fun first second => key first ≤ key second :=
    ⟨fun _ _ _ first second => first.trans second⟩
  have total : Std.Total fun first second : β => key first ≤ key second :=
    ⟨fun first second => le_total (key first) (key second)⟩
  exact List.pairwise_mergeSort' (fun first second => key first ≤ key second) values

end SortedByKey

end Foundation
