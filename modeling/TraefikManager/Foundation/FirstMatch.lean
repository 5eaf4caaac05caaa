import Mathlib.Data.List.Basic
import Mathlib.Data.List.Nodup
import Mathlib.Data.Nat.Basic

/-!
# The first match in a sorted list

The items of a list are tried by a size, the largest first; items of one size are tried in the
order of the list. The first that fits is the one that is no smaller than any other that fits.
-/

namespace Foundation

variable {α : Type} {items : List α} {first second : α}

/-- The first item stands before the second one. -/
def StandsBefore (items : List α) (first second : α) : Prop := [first, second].Sublist items

theorem StandsBefore.mem (before : StandsBefore items first second) :
    first ∈ items ∧ second ∈ items :=
  ⟨before.subset (by simp), before.subset (by simp)⟩

/-- Of two items that are listed once only one stands before the other. -/
theorem StandsBefore.asymm (before : StandsBefore items first second) (nodup : items.Nodup) :
    ¬ StandsBefore items second first := by
  induction items with
  | nil => exact fun after => nomatch after.mem.1
  | cons item items ih =>
      obtain ⟨fresh, nodup⟩ := List.nodup_cons.mp nodup
      intro after
      cases before with
      | cons _ later =>
          cases after with
          | cons _ later' => exact ih later nodup later'
          | cons_cons _ _ => exact fresh (StandsBefore.mem later).2
      | cons_cons _ later =>
          cases after with
          | cons _ later' => exact fresh (StandsBefore.mem later').2
          | cons_cons _ _ => exact fresh (List.singleton_sublist.mp later)

private theorem standsBefore_or (isFirst : first ∈ items) (isSecond : second ∈ items)
    (differ : first ≠ second) : StandsBefore items first second ∨ StandsBefore items second first := by
  induction items with
  | nil => cases isFirst
  | cons item items ih =>
      obtain rfl | inRest := List.mem_cons.mp isFirst
      · obtain same | inRest' := List.mem_cons.mp isSecond
        · exact absurd same.symm differ
        · exact .inl (.cons_cons _ (List.singleton_sublist.mpr inRest'))
      · obtain rfl | inRest' := List.mem_cons.mp isSecond
        · exact .inr (.cons_cons _ (List.singleton_sublist.mpr inRest))
        · exact (ih inRest inRest').imp (.cons _) (.cons _)

/-- What is found fits, and whatever else fits stands behind it. -/
theorem standsBefore_of_find? {fits : α → Bool} (found : items.find? fits = some first)
    (isSecond : second ∈ items) (alsoFits : fits second = true) (differ : second ≠ first) :
    StandsBefore items first second := by
  obtain ⟨-, front, back, rfl, misfits⟩ := List.find?_eq_some_iff_append.mp found
  rw [List.mem_append, List.mem_cons] at isSecond
  obtain inFront | same | inBack := isSecond
  · have misfit := misfits second inFront
    simp [alsoFits] at misfit
  · exact absurd same differ
  · exact List.Sublist.trans (.cons_cons _ (List.singleton_sublist.mpr inBack))
      (List.sublist_append_right front _)

variable {size : α → ℕ} {fits : α → Bool}

/-- The items, the largest first. -/
def largestFirst (size : α → ℕ) (items : List α) : List α :=
  items.mergeSort fun first second => size second ≤ size first

theorem mem_largestFirst : first ∈ largestFirst size items ↔ first ∈ items :=
  (List.mergeSort_perm items _).mem_iff

/-- The first item of a sorted list that fits is larger than the others that fit, or as large
and stands before them in the list. -/
theorem find?_largestFirst (nodup : items.Nodup) :
    (largestFirst size items).find? fits = some first ↔
      first ∈ items ∧ fits first = true ∧ ∀ other ∈ items, fits other = true → other ≠ first →
        size other < size first ∨ size other = size first ∧ StandsBefore items first other := by
  have total : ∀ a b : α, (decide (size b ≤ size a) || decide (size a ≤ size b)) = true := by
    intro a b
    simp only [Bool.or_eq_true, decide_eq_true_eq]
    omega
  have trans : ∀ a b c : α, decide (size b ≤ size a) = true → decide (size c ≤ size b) = true →
      decide (size c ≤ size a) = true := by
    intro a b c
    simp only [decide_eq_true_eq]
    omega
  have sortedNodup : (largestFirst size items).Nodup :=
    (List.mergeSort_perm items _).nodup_iff.mpr nodup
  have descending := List.pairwise_mergeSort trans total items
  -- An item that is found is as large as any other, and stands before those of its size.
  have forward : ∀ found, (largestFirst size items).find? fits = some found →
      found ∈ items ∧ fits found = true ∧ ∀ other ∈ items, fits other = true → other ≠ found →
        size other < size found ∨ size other = size found ∧ StandsBefore items found other := by
    intro found isFound
    have listed : found ∈ items := mem_largestFirst.mp (List.mem_of_find?_eq_some isFound)
    refine ⟨listed, List.find?_some isFound, fun other isOther fitsOther differ => ?_⟩
    have sorted := standsBefore_of_find? isFound (mem_largestFirst.mpr isOther) fitsOther differ
    have smaller : size other ≤ size found := by
      simpa using List.pairwise_iff_forall_sublist.mp descending sorted
    obtain less | same := Nat.lt_or_eq_of_le smaller
    · exact .inl less
    · refine .inr ⟨same, (standsBefore_or listed isOther differ.symm).resolve_right fun before => ?_⟩
      have kept : StandsBefore (largestFirst size items) other found :=
        List.pair_sublist_mergeSort trans total (by simp [same]) before
      exact sorted.asymm sortedNodup kept
  refine ⟨forward first, ?_⟩
  rintro ⟨listed, isFit, others⟩
  have exists_found : ((largestFirst size items).find? fits).isSome = true :=
    List.find?_isSome.mpr ⟨first, mem_largestFirst.mpr listed, isFit⟩
  obtain ⟨found, isFound⟩ := Option.isSome_iff_exists.mp exists_found
  obtain ⟨foundListed, foundFits, foundOthers⟩ := forward found isFound
  by_cases same : found = first
  · rw [isFound, same]
  · have isBehind := others found foundListed foundFits same
    have isBefore := foundOthers first listed isFit (Ne.symm same)
    obtain less | ⟨sameSize, before⟩ := isBehind
    · obtain less' | ⟨sameSize', -⟩ := isBefore <;> omega
    · obtain less' | ⟨-, before'⟩ := isBefore
      · omega
      · exact absurd before' (before.asymm nodup)

end Foundation
