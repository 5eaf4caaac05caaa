import Mathlib.Algebra.GroupWithZero.Nat
import Mathlib.Data.List.Infix
import TraefikManager.Foundation.Text

/-!
# Occurrences of a text in a text

Searching, counting and replacing as Python's strings do, and the line ends of a file
that is read as text.
-/

namespace Foundation.Text

section Occurrences

variable {needle text before after : List Char}

/-- What stands before and after the first occurrence. -/
def splitFirst (needle : List Char) : List Char → Option (List Char × List Char)
  | [] => if needle = [] then some ([], []) else none
  | c :: rest =>
      if needle.isPrefixOf (c :: rest) then some ([], (c :: rest).drop needle.length)
      else (splitFirst needle rest).map fun (before, after) => (c :: before, after)

/-- The occurrences that do not overlap, from the left. -/
def countFrom (needle : List Char) : Nat → List Char → Nat
  | 0, _ => 0
  | fuel + 1, text =>
      match splitFirst needle text with
      | none => 0
      | some (_, after) => countFrom needle fuel after + 1

/-- `text.count(needle)` for a needle that is not empty. -/
def count (needle text : List Char) : Nat := countFrom needle (text.length + 1) text

/-- `text.replace(needle, new, 1)`. -/
def replaceFirst (needle new text : List Char) : List Char :=
  match splitFirst needle text with
  | none => text
  | some (before, after) => before ++ new ++ after

theorem append_of_splitFirst (found : splitFirst needle text = some (before, after)) :
    before ++ needle ++ after = text := by
  induction text generalizing before with
  | nil =>
      unfold splitFirst at found
      split at found
      · rename_i empty
        cases found
        simp [empty]
      · cases found
  | cons c rest ih =>
      unfold splitFirst at found
      split at found
      · rename_i isPrefix
        obtain ⟨others, isText⟩ := List.isPrefixOf_iff_prefix.mp isPrefix
        cases found
        rw [← isText]
        simp
      · obtain ⟨⟨front, back⟩, inRest, isFound⟩ := Option.map_eq_some_iff.mp found
        cases isFound
        rw [List.cons_append, List.cons_append, ih inRest]

/-- A single occurrence is found. -/
theorem exists_of_count (once : count needle text = 1) :
    ∃ before after, splitFirst needle text = some (before, after) := by
  unfold count countFrom at once
  split at once
  · cases once
  · rename_i before after found
    exact ⟨before, after, found⟩

theorem replaceFirst_of_splitFirst (found : splitFirst needle text = some (before, after))
    (new : List Char) : replaceFirst needle new text = before ++ new ++ after := by
  rw [replaceFirst, found]

/-- A replacement brings in no character that the new text does not have. -/
theorem notMem_replaceFirst {c : Char} {new : List Char} (inNew : c ∉ new) (inText : c ∉ text) :
    c ∉ replaceFirst needle new text := by
  rw [replaceFirst]
  split
  · exact inText
  · rename_i before after found
    rw [← append_of_splitFirst found] at inText
    simp only [List.mem_append, not_or] at inText ⊢
    exact ⟨⟨inText.1.1, inNew⟩, inText.2⟩

/-- No occurrence begins in a text that is followed by another. -/
def Skips (needle text after : List Char) : Prop :=
  ∀ count < text.length, ¬ needle <+: text.drop count ++ after

theorem Skips.append {first second : List Char} (isFirst : Skips needle first (second ++ after))
    (isSecond : Skips needle second after) : Skips needle (first ++ second) after := by
  intro count inBoth
  rw [List.length_append] at inBoth
  by_cases inFirst : count < first.length
  · rw [List.drop_append_of_le_length (by omega), List.append_assoc]
    exact isFirst count inFirst
  · have skipped : (first ++ second).drop count = second.drop (count - first.length) := by
      rw [List.drop_append, List.drop_eq_nil_of_le (by omega), List.nil_append]
    rw [skipped]
    exact isSecond _ (by omega)

theorem Skips.cons {c : Char} (notHere : ¬ needle <+: c :: (text ++ after))
    (rest : Skips needle text after) : Skips needle (c :: text) after := by
  intro count inBoth
  cases count with
  | zero => exact notHere
  | succ count => exact rest count (Nat.lt_of_succ_lt_succ inBoth)

/-- An occurrence begins with its first character. -/
theorem skips_of_notMem {c : Char} (absent : c ∉ text) (after : List Char) :
    Skips (c :: needle) text after := by
  induction text with
  | nil => exact nofun
  | cons other text ih =>
      rw [List.mem_cons, not_or] at absent
      apply Skips.cons ?_ (ih absent.2)
      intro isPrefix
      exact absent.1 (List.cons_prefix_cons.mp isPrefix).1

theorem splitFirst_append (skips : Skips needle before (needle ++ after)) :
    splitFirst needle (before ++ (needle ++ after)) = some (before, after) := by
  induction before with
  | nil =>
      rw [List.nil_append]
      cases both : needle ++ after with
      | nil =>
          obtain ⟨rfl, rfl⟩ := List.append_eq_nil_iff.mp both
          rfl
      | cons c rest =>
          have isPrefix : needle.isPrefixOf (c :: rest) = true :=
            List.isPrefixOf_iff_prefix.mpr (both ▸ List.prefix_append needle after)
          have isAfter : (c :: rest).drop needle.length = after := by rw [← both, List.drop_left]
          rw [splitFirst, if_pos isPrefix, isAfter]
  | cons c before ih =>
      have notHere : ¬ needle.isPrefixOf (c :: (before ++ (needle ++ after))) = true := by
        intro isPrefix
        exact skips 0 (Nat.succ_pos _) (List.isPrefixOf_iff_prefix.mp isPrefix)
      have later := ih fun count inBefore => skips (count + 1) (Nat.succ_lt_succ inBefore)
      rw [List.cons_append, splitFirst, if_neg notHere, later]
      rfl

end Occurrences

section LineEnds

/-- A file opened as text: every line end is read as a line feed. -/
def universalNewlines : List Char → List Char
  | [] => []
  | '\r' :: '\n' :: rest => '\n' :: universalNewlines rest
  | '\r' :: rest => '\n' :: universalNewlines rest
  | c :: rest => c :: universalNewlines rest

theorem notMem_universalNewlines (text : List Char) : '\r' ∉ universalNewlines text := by
  induction text using universalNewlines.induct with
  | case1 => simp [universalNewlines]
  | case2 rest ih => simpa [universalNewlines] using ih
  | case3 rest notFeed ih =>
      rw [universalNewlines]
      · simpa using ih
      · exact notFeed
  | case4 c rest notPair notReturn ih =>
      rw [universalNewlines]
      · rw [List.mem_cons]
        rintro (rfl | later)
        · exact notReturn rfl
        · exact ih later
      · exact notPair
      · exact notReturn

/-- Reading as text changes nothing exactly when there is no carriage return. -/
theorem universalNewlines_eq_self {text : List Char} :
    universalNewlines text = text ↔ '\r' ∉ text := by
  constructor
  · intro same
    rw [← same]
    exact notMem_universalNewlines text
  · intro none
    induction text with
    | nil => rfl
    | cons c rest ih =>
        rw [List.mem_cons, not_or] at none
        rw [universalNewlines]
        · rw [ih none.2]
        · rintro others rfl
          exact absurd rfl none.1
        · rintro rfl
          exact absurd rfl none.1

/-- `str.splitlines`. -/
def splitLines (text : String) : List String :=
  let parts := (universalNewlines text.toList).splitOnP isLineBreak
  (if parts.getLast? = some [] then parts.dropLast else parts).map String.ofList

private theorem splitOnP_lines {lines : List (List Char)}
    (oneLine : ∀ line ∈ lines, ∀ c ∈ line, isLineBreak c = false) :
    (lines.flatMap (· ++ ['\n'])).splitOnP isLineBreak = lines ++ [[]] := by
  induction lines with
  | nil => rfl
  | cons line lines ih =>
      have others : ∀ other ∈ lines, ∀ c ∈ other, isLineBreak c = false := fun other listed =>
        oneLine other (List.mem_cons_of_mem _ listed)
      rw [List.flatMap_cons, List.append_assoc, List.singleton_append,
        List.splitOnP_append_cons_of_forall_mem (oneLine line List.mem_cons_self) '\n' (by decide),
        ih others, List.cons_append]

/-- The lines of a text of lines. -/
theorem splitLines_lines {lines : List (List Char)}
    (oneLine : ∀ line ∈ lines, ∀ c ∈ line, isLineBreak c = false) :
    splitLines (String.ofList (lines.flatMap (· ++ ['\n']))) = lines.map String.ofList := by
  have noReturn : '\r' ∉ lines.flatMap (· ++ ['\n']) := by
    intro listed
    obtain ⟨line, inLines, inLine⟩ := List.mem_flatMap.mp listed
    obtain inLine | isEnd := List.mem_append.mp inLine
    · have noBreak := oneLine line inLines '\r' inLine
      cases noBreak
    · simp at isEnd
  have last : (lines ++ [([] : List Char)]).getLast? = some [] := by simp
  rw [splitLines, String.toList_ofList, universalNewlines_eq_self.mpr noReturn,
    splitOnP_lines oneLine, if_pos last, List.dropLast_concat]

private theorem length_splitOnP (separates : Char → Bool) (text : List Char) :
    (text.splitOnP separates).length = text.countP separates + 1 := by
  induction text with
  | nil => simp
  | cons c rest ih =>
      rw [List.splitOnP_cons_eq_if_modifyHead]
      split
      · rename_i isEnd
        rw [List.length_cons, ih, List.countP_cons_of_pos isEnd]
      · rename_i inLine
        rw [List.length_modifyHead, ih, List.countP_cons_of_neg inLine]

/-- A text of lines has a line for each of them and for each character in them that breaks one. -/
theorem length_splitLines {lines : List (List Char)} (noReturn : ∀ line ∈ lines, '\r' ∉ line) :
    (splitLines (String.ofList (lines.flatMap (· ++ ['\n'])))).length =
      lines.length + (lines.map (·.countP isLineBreak)).sum := by
  obtain rfl | ⟨front, last, rfl⟩ := List.eq_nil_or_concat' lines
  · rfl
  have count : ∀ lines : List (List Char), (lines.flatMap (· ++ ['\n'])).countP isLineBreak =
      lines.length + (lines.map (·.countP isLineBreak)).sum := by
    intro lines
    induction lines with
    | nil => rfl
    | cons line rest ih =>
        have isEnd : ['\n'].countP isLineBreak = 1 := by decide
        simp only [List.flatMap_cons, List.countP_append, ih, isEnd, List.length_cons,
          List.map_cons, List.sum_cons]
        omega
  have noReturns : '\r' ∉ (front ++ [last]).flatMap (· ++ ['\n']) := by
    intro listed
    obtain ⟨line, inLines, inLine⟩ := List.mem_flatMap.mp listed
    obtain inLine | isEnd := List.mem_append.mp inLine
    · exact noReturn line inLines inLine
    · simp at isEnd
  have isText : (front ++ [last]).flatMap (· ++ ['\n']) =
      (front.flatMap (· ++ ['\n']) ++ last) ++ ['\n'] := by
    simp
  have parts : ((front.flatMap (· ++ ['\n']) ++ last) ++ ['\n']).splitOnP isLineBreak =
      (front.flatMap (· ++ ['\n']) ++ last).splitOnP isLineBreak ++ [[]] :=
    List.splitOnP_append_cons _ _ (by decide)
  have ends : ((front.flatMap (· ++ ['\n']) ++ last).splitOnP isLineBreak ++
      [([] : List Char)]).getLast? = some [] := by
    simp
  rw [splitLines, String.toList_ofList, universalNewlines_eq_self.mpr noReturns, isText, parts,
    if_pos ends, List.dropLast_concat, List.length_map, length_splitOnP, ← count, isText]
  have isEnd : isLineBreak '\n' = true := by decide
  simp only [List.countP_append, List.countP_singleton, isEnd, if_true]

end LineEnds

section Infixes

/-- `needle in text`. -/
def includes (needle text : List Char) : Bool := decide (needle <:+: text)

variable {separator : Char} {needle before after : List Char}

/-- What does not contain a separator stands before it or after it. -/
theorem infix_of_separator (absent : separator ∉ needle)
    (isInfix : needle <:+: before ++ separator :: after) :
    needle <:+: before ∨ needle <:+: after := by
  obtain ⟨front, back, whole⟩ := isInfix
  obtain ⟨rest, isBefore, -⟩ | ⟨rest, isFront, isAfter⟩ := List.append_eq_append_iff.mp whole
  · exact .inl ⟨front, rest, isBefore.symm⟩
  · cases rest with
    | nil => exact .inl ⟨front, [], by simpa using isFront⟩
    | cons c rest =>
        obtain ⟨rfl, rfl⟩ := List.cons.inj isAfter
        obtain ⟨inner, -, isNeedle⟩ | ⟨inner, isFront', isNeedle⟩ :=
          List.append_eq_append_iff.mp isFront
        · exact absurd (isNeedle ▸ List.mem_append_right _ List.mem_cons_self) absent
        · cases inner with
          | nil =>
              rw [List.nil_append] at isNeedle
              exact absurd (isNeedle ▸ List.mem_cons_self) absent
          | cons c inner =>
              obtain ⟨-, rfl⟩ := List.cons.inj isNeedle
              exact .inr ⟨inner, back, rfl⟩

/-- What has no line end stands in a line. -/
theorem infix_lines (absent : separator ∉ needle) (nonempty : needle ≠ [])
    (lines : List (List Char)) :
    needle <:+: lines.flatMap (· ++ [separator]) ↔ ∃ line ∈ lines, needle <:+: line := by
  induction lines with
  | nil => simp [nonempty]
  | cons line lines ih =>
      rw [List.flatMap_cons, List.append_assoc, List.singleton_append]
      constructor
      · intro isInfix
        obtain here | later := infix_of_separator absent isInfix
        · exact ⟨line, List.mem_cons_self, here⟩
        · obtain ⟨other, listed, isInfix⟩ := ih.mp later
          exact ⟨other, List.mem_cons_of_mem _ listed, isInfix⟩
      · rintro ⟨other, listed, isInfix⟩
        obtain rfl | later := List.mem_cons.mp listed
        · exact isInfix.trans (List.prefix_append _ _).isInfix
        · refine (ih.mpr ⟨other, later, isInfix⟩).trans ?_
          exact ((List.suffix_cons _ _).trans (List.suffix_append _ _)).isInfix

private theorem flatMap_splitOn (separator : Char) (text : List Char) :
    (text.splitOn separator).flatMap (· ++ [separator]) = text ++ [separator] := by
  have closed : ∀ parts : List (List Char), parts ≠ [] →
      parts.flatMap (· ++ [separator]) = [separator].intercalate parts ++ [separator] := by
    intro parts nonempty
    induction parts with
    | nil => exact absurd rfl nonempty
    | cons part rest ih =>
        cases rest with
        | nil => simp
        | cons next rest =>
            rw [List.flatMap_cons, ih (List.cons_ne_nil _ _), List.intercalate_cons_cons]
            simp
  rw [closed _ (List.splitOn_ne_nil _ _), List.intercalate_splitOn]

/-- What has no separator stands in a part between separators. -/
theorem infix_splitOn (absent : separator ∉ needle) (nonempty : needle ≠ []) (text : List Char) :
    needle <:+: text ↔ ∃ part ∈ text.splitOn separator, needle <:+: part := by
  rw [← infix_lines absent nonempty, flatMap_splitOn]
  constructor
  · exact fun isInfix => isInfix.trans (List.prefix_append _ _).isInfix
  · intro isInfix
    obtain here | later := infix_of_separator absent isInfix
    · exact here
    · exact absurd (List.infix_nil.mp later) nonempty

end Infixes

end Foundation.Text
