import Mathlib.Data.List.Chain
import Mathlib.Data.List.DropRight

/-!
# Blanks in a text

Over any alphabet with a class of blanks: removing the blanks at both ends of a text, and writing
each run of blanks as one space. A text whose ends are no blanks and whose blanks are single spaces
is left alone by both.
-/

namespace Foundation.Blanks

variable {α : Type} {blank : α → Bool} {space : α} {text : List α}

/-- The text without the blanks at its ends. -/
def trim (blank : α → Bool) (text : List α) : List α :=
  (text.dropWhile blank).rdropWhile blank

/-- The text with one space for each run of blanks; it stands for the last blank of the run. -/
def collapse (blank : α → Bool) (space : α) : List α → List α
  | [] => []
  | [c] => if blank c then [space] else [c]
  | c :: d :: rest =>
      if blank c then
        if blank d then collapse blank space (d :: rest)
        else space :: collapse blank space (d :: rest)
      else c :: collapse blank space (d :: rest)

/-- No blank stands at an end. -/
structure IsTrimmed (blank : α → Bool) (text : List α) : Prop where
  first : ∀ c, text.head? = some c → blank c = false
  last : ∀ c, text.getLast? = some c → blank c = false

/-- The blanks are spaces, no two of them side by side. -/
structure IsCollapsed (blank : α → Bool) (space : α) (text : List α) : Prop where
  single : text.IsChain fun c d => blank c = true → blank d = false
  spaces : ∀ c ∈ text, blank c = true → c = space

section Trimming

private theorem dropWhile_of_head (first : ∀ c, text.head? = some c → blank c = false) :
    text.dropWhile blank = text := by
  cases text with
  | nil => rfl
  | cons c rest => rw [List.dropWhile_cons_of_neg (by simp [first c rfl])]

/-- A text without outer blanks stays as it is. -/
theorem trim_of_isTrimmed (trimmed : IsTrimmed blank text) : trim blank text = text := by
  rw [trim, dropWhile_of_head trimmed.first, List.rdropWhile_eq_self_iff]
  intro nonempty
  simp [trimmed.last _ (List.getLast?_eq_some_getLast nonempty)]

/-- Trimming leaves no outer blanks. -/
theorem isTrimmed_trim : IsTrimmed blank (trim blank text) where
  first c isHead := by
    have isPrefix : trim blank text <+: text.dropWhile blank := List.rdropWhile_prefix blank _
    have nonempty : trim blank text ≠ [] := by
      intro isNil
      simp [isNil] at isHead
    have head := isPrefix.head nonempty
    rw [List.head?_eq_some_head nonempty, Option.some.injEq] at isHead
    rw [← isHead, head]
    exact List.head_dropWhile_not blank _
  last c isLast := by
    have nonempty : trim blank text ≠ [] := by
      intro isNil
      simp [isNil] at isLast
    rw [List.getLast?_eq_some_getLast nonempty, Option.some.injEq] at isLast
    rw [← isLast]
    exact Bool.eq_false_iff.mpr (List.rdropWhile_last_not blank _ nonempty)

end Trimming

section Collapsing

private theorem head?_collapse (blank : α → Bool) (space : α) (text : List α) :
    (collapse blank space text).head? =
      text.head?.map fun c => if blank c then space else c := by
  induction text with
  | nil => rfl
  | cons c rest ih =>
      cases rest with
      | nil => by_cases isBlank : blank c <;> simp [collapse, isBlank]
      | cons d rest =>
          by_cases isBlank : blank c
          · by_cases next : blank d
            · simpa [collapse, isBlank, next] using ih
            · simp [collapse, isBlank, next]
          · simp [collapse, isBlank]

private theorem collapse_ne_nil {c : α} {rest : List α} :
    collapse blank space (c :: rest) ≠ [] := by
  intro isNil
  have head := head?_collapse blank space (c :: rest)
  simp [isNil] at head

private theorem getLast?_collapse (text : List α) :
    (collapse blank space text).getLast? =
      text.getLast?.map fun c => if blank c then space else c := by
  induction text with
  | nil => rfl
  | cons c rest ih =>
      cases rest with
      | nil => by_cases isBlank : blank c <;> simp [collapse, isBlank]
      | cons d rest =>
          have skip : ∀ first, (first :: collapse blank space (d :: rest)).getLast? =
              (collapse blank space (d :: rest)).getLast? := by
            intro first
            rw [List.getLast?_cons, List.getLast?_eq_some_getLast collapse_ne_nil]
            rfl
          rw [List.getLast?_cons_cons, ← ih]
          by_cases isBlank : blank c
          · by_cases next : blank d
            · simp [collapse, isBlank, next]
            · simp [collapse, isBlank, next, skip]
          · simp [collapse, isBlank, skip]

private theorem isCollapsed_cons {c : α} (isRest : IsCollapsed blank space text)
    (isSpace : blank c = true → c = space)
    (next : blank c = true → ∀ d, text.head? = some d → blank d = false) :
    IsCollapsed blank space (c :: text) where
  single := List.isChain_cons.mpr ⟨fun d isHead isBlank => next isBlank d isHead, isRest.single⟩
  spaces := List.forall_mem_cons.mpr ⟨isSpace, isRest.spaces⟩

/-- Collapsing leaves single spaces only. -/
theorem isCollapsed_collapse (text : List α) :
    IsCollapsed blank space (collapse blank space text) := by
  induction text with
  | nil => exact ⟨.nil, nofun⟩
  | cons c rest ih =>
      cases rest with
      | nil =>
          rw [collapse]
          split
          · exact isCollapsed_cons ⟨.nil, nofun⟩ (fun _ => rfl) nofun
          · rename_i visible
            exact isCollapsed_cons ⟨.nil, nofun⟩ (fun isBlank => absurd isBlank visible) nofun
      | cons d rest =>
          rw [collapse]
          split
          · split
            · exact ih
            · rename_i visible
              apply isCollapsed_cons ih fun _ => rfl
              intro _ first isHead
              rw [head?_collapse, List.head?_cons, Option.map_some, if_neg visible] at isHead
              rw [← Option.some.inj isHead]
              exact Bool.eq_false_iff.mpr visible
          · rename_i visible
            exact isCollapsed_cons ih (fun isBlank => absurd isBlank visible)
              fun isBlank => absurd isBlank visible

/-- A text with single spaces only stays as it is. -/
theorem collapse_of_isCollapsed (collapsed : IsCollapsed blank space text) :
    collapse blank space text = text := by
  induction text with
  | nil => rfl
  | cons c rest ih =>
      obtain ⟨next, single⟩ := List.isChain_cons.mp collapsed.single
      obtain ⟨isSpace, spaces⟩ := List.forall_mem_cons.mp collapsed.spaces
      cases rest with
      | nil =>
          rw [collapse]
          split
          · rename_i isBlank
            rw [isSpace isBlank]
          · rfl
      | cons d rest =>
          rw [collapse, ih ⟨single, spaces⟩]
          split
          · rename_i isBlank
            rw [if_neg (Bool.eq_false_iff.mp (next d rfl isBlank)), isSpace isBlank]
          · rfl

/-- Cutting a text keeps its single spaces. -/
theorem IsCollapsed.take (collapsed : IsCollapsed blank space text) (count : Nat) :
    IsCollapsed blank space (text.take count) where
  single := collapsed.single.take count
  spaces c listed := collapsed.spaces c (List.mem_of_mem_take listed)

/-- Collapsing keeps the ends. -/
theorem IsTrimmed.collapse (trimmed : IsTrimmed blank text) (space : α) :
    IsTrimmed blank (collapse blank space text) where
  first c isHead := by
    rw [head?_collapse] at isHead
    obtain ⟨first, isFirst, rfl⟩ := Option.map_eq_some_iff.mp isHead
    have visible := trimmed.first first isFirst
    rwa [if_neg (Bool.eq_false_iff.mp visible)]
  last c isLast := by
    rw [getLast?_collapse] at isLast
    obtain ⟨last, isEnd, rfl⟩ := Option.map_eq_some_iff.mp isLast
    have visible := trimmed.last last isEnd
    rwa [if_neg (Bool.eq_false_iff.mp visible)]

end Collapsing

end Foundation.Blanks
