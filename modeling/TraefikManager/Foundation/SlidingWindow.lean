import Mathlib.Algebra.Order.Group.Basic
import Mathlib.Data.List.Sort
import Mathlib.Data.List.TakeWhile
import Mathlib.Order.Bounds.Basic

/-!
# The fullest window of a given length

Over the times of some events, a window of a given length is moved along the events, and the most
events that it holds are counted: one index runs over the sorted times, a second one follows it and
skips those that the window no longer reaches. What is found is the most that any window of that
length holds, wherever it ends.
-/

namespace Foundation.SlidingWindow

section Sorted

variable {α : Type} {ordered front rest : List α} {last : α} {below : α → Bool}

/-- In a sorted list, the elements below a bound are the run at its beginning. -/
theorem takeWhile_eq_filter [LinearOrder α] (sorted : ordered.Pairwise (· ≤ ·))
    (closed : ∀ first second, first ≤ second → below second = true → below first = true) :
    ordered.takeWhile below = ordered.filter below := by
  induction ordered with
  | nil => rfl
  | cons first rest ih =>
      obtain ⟨least, sorted⟩ := List.pairwise_cons.mp sorted
      by_cases isBelow : below first = true
      · rw [List.takeWhile_cons_of_pos isBelow, List.filter_cons_of_pos isBelow, ih sorted]
      · have none : rest.filter below = [] := by
          rw [List.filter_eq_nil_iff]
          intro other listed otherBelow
          exact isBelow (closed first other (least other listed) otherBelow)
        rw [List.takeWhile_cons_of_neg isBelow, List.filter_cons_of_neg isBelow, none]

/-- The run at the beginning ends before an element that is not below the bound. -/
theorem takeWhile_append_cons (above : below last = false) :
    (front ++ last :: rest).takeWhile below = front.takeWhile below := by
  induction front with
  | nil => simp [above]
  | cons first front ih =>
      by_cases isBelow : below first = true
      · rw [List.cons_append, List.takeWhile_cons_of_pos isBelow,
          List.takeWhile_cons_of_pos isBelow, ih]
      · rw [List.cons_append, List.takeWhile_cons_of_neg isBelow,
          List.takeWhile_cons_of_neg isBelow]

/-- An element comes after those before it. -/
theorem le_of_mem_front [LinearOrder α] (sorted : (front ++ last :: rest).Pairwise (· ≤ ·))
    {time : α} (listed : time ∈ front ++ [last]) : time ≤ last := by
  obtain inFront | isLast := List.mem_append.mp listed
  · exact (List.pairwise_append.mp sorted).2.2 time inFront last List.mem_cons_self
  · rw [List.mem_singleton.mp isLast]

end Sorted

variable {α : Type} [AddCommGroup α] [LinearOrder α]

/-- The number of times in the closed window that ends at a time. -/
def within (times : List α) (window last : α) : Nat :=
  times.countP fun time => last - window ≤ time ∧ time ≤ last

/-- The first index that the window ending at a time reaches, searched from an index on. -/
def advance (ordered : List α) (window last : α) (start : Nat) : Nat :=
  start + ((ordered.drop start).takeWhile fun time => window < last - time).length

/-- The window moves to the next time: its first index, and the most times it held. -/
def step (ordered : List α) (window : α) (state : Nat × Nat) (entry : α × Nat) : Nat × Nat :=
  let start := advance ordered window entry.1 state.1
  (start, max state.2 (entry.2 - start + 1))

/-- The most times that the window held. -/
def peak (window : α) (ordered : List α) : Nat :=
  (ordered.zipIdx.foldl (step ordered window) (0, 0)).2

section Scan

variable {ordered front rest : List α} {window last : α} {start : Nat} {state : Nat × Nat}

/-- What the search skips may be skipped from the beginning. -/
theorem advance_eq {start : Nat} (small : start ≤ ordered.length)
    (passed : ∀ time ∈ ordered.take start, window < last - time) :
    advance ordered window last start =
      (ordered.takeWhile fun time => window < last - time).length := by
  have all : ∀ time ∈ ordered.take start, decide (window < last - time) = true :=
    fun time listed => decide_eq_true (passed time listed)
  have whole : (ordered.takeWhile fun time => window < last - time) = ordered.take start ++
      (ordered.drop start).takeWhile fun time => window < last - time := by
    conv_lhs => rw [← List.take_append_drop start ordered]
    exact List.takeWhile_append_of_pos all
  rw [advance, whole, List.length_append, List.length_take, min_eq_left small]

/-- What is known when the window has moved over the beginning of the list. -/
structure Scanned (window : α) (ordered front : List α) (state : Nat × Nat) : Prop where
  small : state.1 ≤ front.length
  passed : ∀ time ∈ ordered.take state.1, ∃ last ∈ front, window < last - time
  held : state.2 = 0 ∨ ∃ last ∈ front, state.2 ≤ within ordered window last
  most : ∀ before last, before ++ [last] <+: front →
    (before ++ [last]).countP (last - window ≤ ·) ≤ state.2

/-- Each time before the next one is no later, so that the window holds it when it reaches it. -/
theorem countP_le_within (sorted : (front ++ last :: rest).Pairwise (· ≤ ·)) :
    (front ++ [last]).countP (last - window ≤ ·) ≤
      within (front ++ last :: rest) window last := by
  have inside : (front ++ [last]).countP (last - window ≤ ·) =
      within (front ++ [last]) window last := by
    apply List.countP_congr
    intro time listed
    rw [decide_eq_true_eq, decide_eq_true_eq, and_iff_left (le_of_mem_front sorted listed)]
  rw [inside]
  apply List.Sublist.countP_le
  exact (List.Sublist.refl front).append (List.singleton_sublist.mpr List.mem_cons_self)

private theorem within_perm {times : List α} (isPerm : ordered.Perm times) (window last : α) :
    within ordered window last = within times window last :=
  isPerm.countP_eq _

variable [IsOrderedAddMonoid α]

/-- The times that the window ending at the next time does not reach are those at the beginning. -/
theorem length_takeWhile_next (nonneg : 0 ≤ window)
    (sorted : (front ++ last :: rest).Pairwise (· ≤ ·)) :
    ((front ++ last :: rest).takeWhile fun time => window < last - time).length =
      front.countP fun time => window < last - time := by
  have reached : decide (window < last - last) = false := by
    rw [sub_self]
    exact decide_eq_false (not_lt.mpr nonneg)
  have cut : ((front ++ last :: rest).takeWhile fun time => window < last - time) =
      front.takeWhile fun time => window < last - time :=
    takeWhile_append_cons reached
  rw [cut, List.countP_eq_length_filter]
  apply congrArg List.length
  apply takeWhile_eq_filter (List.pairwise_append.mp sorted).1
  intro first second ascends past
  exact decide_eq_true ((of_decide_eq_true past).trans_le (sub_le_sub_left ascends last))

private theorem advance_next (sorted : (front ++ last :: rest).Pairwise (· ≤ ·))
    (scanned : Scanned window (front ++ last :: rest) front state) :
    advance (front ++ last :: rest) window last state.1 =
      ((front ++ last :: rest).takeWhile fun time => window < last - time).length := by
  apply advance_eq
  · rw [List.length_append]
    exact Nat.le_add_right_of_le scanned.small
  · intro time listed
    obtain ⟨earlier, inFront, past⟩ := scanned.passed time listed
    have ascends := le_of_mem_front sorted (List.mem_append_left [last] inFront)
    exact past.trans_le (sub_le_sub_right ascends time)

/-- The window that ends at the next time holds the times before it that it reaches. -/
theorem held_next (nonneg : 0 ≤ window) :
    front.length - (front.countP fun time => window < last - time) + 1 =
      (front ++ [last]).countP (last - window ≤ ·) := by
  have parts := List.length_eq_countP_add_countP (fun time => decide (window < last - time))
    (l := front)
  have others : (front.countP fun time => ¬ decide (window < last - time) = true) =
      front.countP (last - window ≤ ·) := by
    apply List.countP_congr
    intro time _
    rw [decide_eq_true_eq, decide_eq_true_eq, decide_eq_true_eq, not_lt, sub_le_comm]
  have reached : decide (last - window ≤ last) = true := decide_eq_true (sub_le_self last nonneg)
  rw [List.countP_append, List.countP_singleton, if_pos reached]
  rw [others] at parts
  omega

private theorem scanned_step (nonneg : 0 ≤ window)
    (sorted : (front ++ last :: rest).Pairwise (· ≤ ·))
    (scanned : Scanned window (front ++ last :: rest) front state) :
    Scanned window (front ++ last :: rest) (front ++ [last])
      (step (front ++ last :: rest) window state (last, front.length)) := by
  have start := advance_next sorted scanned
  have count := length_takeWhile_next nonneg sorted
  have held : front.length - advance (front ++ last :: rest) window last state.1 + 1 =
      (front ++ [last]).countP (last - window ≤ ·) := by
    rw [start, count]
    exact held_next nonneg
  constructor
  · change advance _ _ _ _ ≤ _
    rw [start, count, List.length_append]
    exact Nat.le_add_right_of_le List.countP_le_length
  · intro time listed
    change time ∈ List.take (advance _ _ _ _) _ at listed
    rw [start, ← List.prefix_iff_eq_take.mp (List.takeWhile_prefix _)] at listed
    have past := List.mem_takeWhile_imp listed
    exact ⟨last, by simp, of_decide_eq_true past⟩
  · change max state.2 _ = 0 ∨ ∃ _ ∈ _, max state.2 _ ≤ _
    rw [held]
    obtain less | more := le_total state.2 ((front ++ [last]).countP (last - window ≤ ·))
    · rw [max_eq_right less]
      exact .inr ⟨last, by simp, countP_le_within sorted⟩
    · rw [max_eq_left more]
      apply scanned.held.imp_right
      intro ⟨earlier, inFront, isHeld⟩
      exact ⟨earlier, List.mem_append_left _ inFront, isHeld⟩
  · intro before earlier isPrefix
    change _ ≤ max state.2 _
    rw [held]
    obtain whole | inFront := List.prefix_concat_iff.mp isPrefix
    · obtain ⟨rfl, isLast⟩ := List.append_inj' whole rfl
      cases isLast
      exact le_max_right _ _
    · exact (scanned.most before earlier inFront).trans (le_max_left _ _)

/-- The window moves over the whole list. -/
theorem scanned_foldl (nonneg : 0 ≤ window) (sorted : (front ++ rest).Pairwise (· ≤ ·))
    (scanned : Scanned window (front ++ rest) front state) :
    Scanned window (front ++ rest) (front ++ rest)
      ((rest.zipIdx front.length).foldl (step (front ++ rest) window) state) := by
  induction rest generalizing front state with
  | nil => simpa using scanned
  | cons last rest ih =>
      have next := scanned_step nonneg sorted scanned
      rw [List.append_cons] at sorted next ⊢
      rw [List.zipIdx_cons, List.foldl_cons]
      have later := ih sorted next
      rwa [List.length_append, List.length_singleton] at later

end Scan

section Peak

variable [IsOrderedAddMonoid α] {ordered times : List α} {window last : α}

private theorem scanned_peak (nonneg : 0 ≤ window) (sorted : ordered.Pairwise (· ≤ ·)) :
    Scanned window ordered ordered (ordered.zipIdx.foldl (step ordered window) (0, 0)) := by
  have begins : Scanned window ([] ++ ordered) [] (0, 0) := by
    refine ⟨Nat.zero_le _, nofun, .inl rfl, ?_⟩
    intro before last isPrefix
    exact absurd (List.prefix_nil.mp isPrefix) (by simp)
  have moved : Scanned window ([] ++ ordered) ([] ++ ordered) _ :=
    scanned_foldl nonneg sorted begins
  exact moved

/-- No window holds more. -/
theorem within_le_peak (nonneg : 0 ≤ window) (sorted : ordered.Pairwise (· ≤ ·)) (last : α) :
    within ordered window last ≤ peak window ordered := by
  have counted : within ordered window last =
      (ordered.takeWhile (· ≤ last)).countP (last - window ≤ ·) := by
    have closed : ∀ first second, first ≤ second → decide (second ≤ last) = true →
        decide (first ≤ last) = true :=
      fun first second ascends isBelow => decide_eq_true (ascends.trans (of_decide_eq_true isBelow))
    rw [takeWhile_eq_filter sorted closed, List.countP_filter]
    apply List.countP_congr
    intro time _
    simp
  rw [counted]
  obtain none | ⟨before, newest, isFront⟩ :=
    List.eq_nil_or_concat' (ordered.takeWhile (· ≤ last))
  · rw [none]
    exact Nat.zero_le _
  · have isNewest : newest ∈ ordered.takeWhile (· ≤ last) := by
      rw [isFront]
      simp
    have early := List.mem_takeWhile_imp isNewest
    rw [decide_eq_true_eq] at early
    have most := (scanned_peak nonneg sorted).most before newest
      (isFront ▸ List.takeWhile_prefix _)
    rw [isFront]
    refine (List.countP_mono_left fun time _ reached => ?_).trans most
    exact decide_eq_true ((sub_le_sub_right early window).trans (of_decide_eq_true reached))

/-- A window that ends at one of the times holds as many. -/
theorem exists_within_eq_peak (nonneg : 0 ≤ window) (sorted : ordered.Pairwise (· ≤ ·))
    (nonempty : ordered ≠ []) :
    ∃ last ∈ ordered, within ordered window last = peak window ordered := by
  obtain ⟨first, rest, rfl⟩ := List.exists_cons_of_ne_nil nonempty
  have positive : 0 < peak window (first :: rest) := by
    have reached : 0 < within (first :: rest) window first :=
      List.countP_pos_iff.mpr ⟨first, List.mem_cons_self, by simp [nonneg]⟩
    exact reached.trans_le (within_le_peak nonneg sorted first)
  obtain none | ⟨last, listed, isHeld⟩ := (scanned_peak nonneg sorted).held
  · exact absurd none positive.ne'
  · exact ⟨last, listed, (within_le_peak nonneg sorted last).antisymm isHeld⟩

/-- The peak is the most that a window of its length holds that lies between two bounds, when all
times do. -/
theorem isGreatest_peak {low high : α} (nonneg : 0 ≤ window) (room : low + window ≤ high)
    (inside : ∀ time ∈ times, low ≤ time ∧ time ≤ high) (sorted : ordered.Pairwise (· ≤ ·))
    (isPerm : ordered.Perm times) :
    IsGreatest {count | ∃ last, low ≤ last - window ∧ last ≤ high ∧
      count = within times window last} (peak window ordered) := by
  constructor
  · obtain rfl | nonempty := eq_or_ne ordered []
    · refine ⟨high, le_sub_right_of_add_le room, le_rfl, ?_⟩
      rw [← within_perm isPerm]
      rfl
    · obtain ⟨last, listed, isPeak⟩ := exists_within_eq_peak nonneg sorted nonempty
      have inList := inside last (isPerm.mem_iff.mp listed)
      refine ⟨max last (low + window), le_sub_right_of_add_le (le_max_right _ _),
        max_le inList.2 room, ?_⟩
      rw [← within_perm isPerm]
      apply Nat.le_antisymm _ (within_le_peak nonneg sorted _)
      rw [← isPeak]
      apply List.countP_mono_left
      intro time timeListed held
      obtain ⟨reached, early⟩ := of_decide_eq_true held
      refine decide_eq_true ⟨?_, early.trans (le_max_left _ _)⟩
      obtain less | more := le_total last (low + window)
      · rw [max_eq_right less, add_sub_cancel_right]
        exact (inside time (isPerm.mem_iff.mp timeListed)).1
      · rw [max_eq_left more]
        exact reached
  · rintro count ⟨last, -, -, rfl⟩
    rw [← within_perm isPerm]
    exact within_le_peak nonneg sorted last

end Peak

end Foundation.SlidingWindow
