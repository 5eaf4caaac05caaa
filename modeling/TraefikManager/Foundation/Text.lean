import Mathlib.Data.List.DropRight

/-!
# Text operations of the source language

The string methods the modelled code calls, defined on the characters of a
string so that they compute. `List.splitOn`, `List.intercalate` and
`List.rdropWhile` do the work; what is added here are the character classes and
the facts that stripping and splitting are stable.
-/

namespace Foundation.Text

/-- Whether all characters of a list are of a kind is decided on the list, whichever of the
library's instances for characters are at hand. -/
instance decidableForallMem (chars : List Char) (kind : Char → Prop) [DecidablePred kind] :
    Decidable (∀ c ∈ chars, kind c) :=
  List.decidableBAll kind chars

/-- Lists of characters are compared by equality. -/
instance lawfulBEqChars : LawfulBEq (List Char) := inferInstance

/-- The characters `str.isspace` accepts, which are those `str.strip` removes. -/
def isSpace (c : Char) : Bool :=
  c.toNat ∈ [9, 10, 11, 12, 13, 28, 29, 30, 31, 32, 0x85, 0xa0, 0x1680, 0x2028, 0x2029, 0x202f,
    0x205f, 0x3000] ∨ (0x2000 ≤ c.toNat ∧ c.toNat ≤ 0x200a)

/-- The characters at which `str.splitlines` breaks a line. -/
def isLineBreak (c : Char) : Bool :=
  c.toNat ∈ [10, 11, 12, 13, 28, 29, 30, 0x85, 0x2028, 0x2029]

def isDigit (c : Char) : Bool := '0' ≤ c ∧ c ≤ '9'

/-- The digit zero of each script; its nine other digits follow it. -/
def decimalZeros : List Nat :=
  [0x30, 0x660, 0x6f0, 0x7c0, 0x966, 0x9e6, 0xa66, 0xae6, 0xb66, 0xbe6, 0xc66, 0xce6, 0xd66,
    0xde6, 0xe50, 0xed0, 0xf20, 0x1040, 0x1090, 0x17e0, 0x1810, 0x1946, 0x19d0, 0x1a80, 0x1a90,
    0x1b50, 0x1bb0, 0x1c40, 0x1c50, 0xa620, 0xa8d0, 0xa900, 0xa9d0, 0xa9f0, 0xaa50, 0xabf0,
    0xff10, 0x104a0, 0x10d30, 0x11066, 0x110f0, 0x11136, 0x111d0, 0x112f0, 0x11450, 0x114d0,
    0x11650, 0x116c0, 0x11730, 0x118e0, 0x11950, 0x11c50, 0x11d50, 0x11da0, 0x11f50, 0x16a60,
    0x16ac0, 0x16b50, 0x1d7ce, 0x1d7d8, 0x1d7e2, 0x1d7ec, 0x1d7f6, 0x1e140, 0x1e2f0, 0x1e4f0,
    0x1e950, 0x1fbf0]

/-- The characters `\d` matches in a pattern. -/
def isDecimal (c : Char) : Bool :=
  decimalZeros.any fun zero => zero ≤ c.toNat && c.toNat < zero + 10

def isLetter (c : Char) : Bool := ('a' ≤ c ∧ c ≤ 'z') ∨ ('A' ≤ c ∧ c ≤ 'Z')

/-- `str.strip` on characters. -/
def stripChars (chars : List Char) : List Char :=
  (chars.dropWhile isSpace).rdropWhile isSpace

/-- `str.strip` without an argument. -/
def strip (text : String) : String := String.ofList (stripChars text.toList)

/-- `str.lower` on one character. The Kelvin sign is the only character outside
ASCII that becomes a single ASCII letter; the other characters outside ASCII
stay outside ASCII and are left alone. -/
def lowerChar (c : Char) : Char := if c.toNat = 0x212a then 'k' else c.toLower

def lower (text : String) : String := String.ofList (text.toList.map lowerChar)

/-- `str.split` with a one-character separator. -/
def split (separator : Char) (text : String) : List String :=
  (text.toList.splitOn separator).map String.ofList

/-- `separator.join(parts)`. -/
def join (separator : String) (parts : List String) : String :=
  String.ofList (separator.toList.intercalate (parts.map String.toList))

/-- `str.replace` of one character by another. -/
def replaceChar (old new : Char) (text : String) : String :=
  String.ofList (text.toList.map fun c => if c = old then new else c)

/-- The slice `text[:count]`. -/
def takeChars (count : Nat) (text : String) : String := String.ofList (text.toList.take count)

/-- `text.startswith(start)`. -/
def startsWith (start text : String) : Bool := start.toList.isPrefixOf text.toList

/-- `text.endswith(finish)`. -/
def endsWith (finish text : String) : Bool := finish.toList.isSuffixOf text.toList

/-- `c in text` for a single character. -/
def containsChar (c : Char) (text : String) : Bool := text.toList.contains c

/-- The value of a non-empty run of ASCII digits. -/
def digitsValue (digits : List Char) : Option Nat :=
  if digits ≠ [] ∧ digits.all isDigit then
    some (digits.foldl (fun value c => value * 10 + (c.toNat - '0'.toNat)) 0)
  else
    none

/-- `text.split()` without an argument: the runs between blanks. -/
def words (chars : List Char) : List (List Char) := (chars.splitOnP isSpace).filter (· ≠ [])

/-- `" ".join(text.split())`. -/
def joinWords (text : String) : String := String.ofList ([' '].intercalate (words text.toList))

/-- What a pattern that ends in `$` has to match: one final line feed may follow. -/
def dropFinalNewline (chars : List Char) : List Char :=
  if chars.getLast? = some '\n' then chars.dropLast else chars

/-- The UTF-8 bytes of a character. -/
def utf8Bytes (c : Char) : List Nat :=
  let code := c.toNat
  if code < 0x80 then [code]
  else if code < 0x800 then [0xc0 + code / 64, 0x80 + code % 64]
  else if code < 0x10000 then [0xe0 + code / 4096, 0x80 + code / 64 % 64, 0x80 + code % 64]
  else
    [0xf0 + code / 262144, 0x80 + code / 4096 % 64, 0x80 + code / 64 % 64, 0x80 + code % 64]

/-- A character as `quote(text, safe="")` writes it. -/
def quoteChar (c : Char) : List Char :=
  if isLetter c ∨ isDigit c ∨ c ∈ ['_', '.', '-', '~'] then [c]
  else
    (utf8Bytes c).flatMap fun byte =>
      ['%', (Nat.digitChar (byte / 16)).toUpper, (Nat.digitChar (byte % 16)).toUpper]

/-- `quote(text, safe="")`. -/
def quote (text : String) : String := String.ofList (text.toList.flatMap quoteChar)

/-- `re.escape` on one character. -/
def escapeChar (c : Char) : List Char :=
  if c ∈ "()[]\x7b\x7d?*+-|^$\\.&~# \t\n\r\x0b\x0c".toList then ['\\', c] else [c]

/-- `re.escape(text)`. -/
def escape (text : String) : String := String.ofList (text.toList.flatMap escapeChar)

/-- `text.rstrip(c)` for a single character. -/
def rstripChar (c : Char) (text : String) : String := String.ofList (text.toList.rdropWhile (· = c))

/-- `int(text)` for decimal text: surrounding blanks and a sign are allowed. -/
def parseInt (text : String) : Option Int :=
  match stripChars text.toList with
  | '-' :: digits => (digitsValue digits).map fun value => -(value : Int)
  | '+' :: digits => (digitsValue digits).map fun value => (value : Int)
  | digits => (digitsValue digits).map fun value => (value : Int)

private theorem toLower_toLower (c : Char) : c.toLower.toLower = c.toLower := by
  have notUpper : ¬(c.toLower.val ≥ 'A'.val ∧ c.toLower.val ≤ 'Z'.val) := by
    unfold Char.toLower
    split
    · rename_i upper
      have := upper.1
      have := upper.2
      grind [UInt32.toNat_add, Char.toNat_val]
    · assumption
  rw [Char.toLower.eq_def c.toLower, dif_neg notUpper]

private theorem lowerChar_lowerChar (c : Char) : lowerChar (lowerChar c) = lowerChar c := by
  unfold lowerChar
  by_cases kelvin : c.toNat = 0x212a
  · simp [kelvin]
  · have ascii : c.toLower.toNat ≠ 0x212a := by
      unfold Char.toLower
      split
      · rename_i upper
        have letter := upper.2
        simp only [← Char.toNat_val, UInt32.toNat_add, UInt32.le_iff_toNat_le] at letter ⊢
        simp at letter ⊢
        omega
      · exact kelvin
    rw [if_neg kelvin, if_neg ascii, toLower_toLower]

/-- Lower case stays as it is. -/
@[simp] theorem lower_lower (text : String) : lower (lower text) = lower text := by
  unfold lower
  simp [Function.comp_def, lowerChar_lowerChar]

section Decimals

/-- The decimal digits of a number are a non-empty run with its value. -/
theorem digits_toDigits (n : Nat) :
    Nat.toDigits 10 n ≠ [] ∧ (Nat.toDigits 10 n).all isDigit = true ∧
      (Nat.toDigits 10 n).foldl (fun value c => value * 10 + (c.toNat - '0'.toNat)) 0 = n := by
  have ofDigit : ∀ d < 10, isDigit d.digitChar = true ∧ d.digitChar.toNat - '0'.toNat = d := by
    decide
  induction n using Nat.strong_induction_on with
  | h n ih =>
      by_cases small : n < 10
      · obtain ⟨isDigit, value⟩ := ofDigit n small
        rw [Nat.toDigits_of_lt_base small]
        refine ⟨by simp, by simp [isDigit], ?_⟩
        rw [List.foldl_cons, List.foldl_nil, value]
        omega
      · obtain ⟨isDigit, value⟩ := ofDigit (n % 10) (Nat.mod_lt n (by decide))
        obtain ⟨_, digits, front⟩ := ih (n / 10) (by omega)
        rw [Nat.toDigits_of_base_le (by omega) (by omega)]
        refine ⟨by simp, by rw [List.all_append, digits]; simp [isDigit], ?_⟩
        rw [List.foldl_append, front, List.foldl_cons, List.foldl_nil, value]
        omega

/-- Reading the decimal digits of a number gives the number. -/
@[simp] theorem digitsValue_toDigits (n : Nat) : digitsValue (Nat.toDigits 10 n) = some n := by
  obtain ⟨nonempty, digits, value⟩ := digits_toDigits n
  rw [digitsValue, if_pos ⟨nonempty, digits⟩, value]

theorem repr_injective : Function.Injective Nat.repr := by
  intro first second same
  have digits : Nat.toDigits 10 first = Nat.toDigits 10 second := by
    simpa using congrArg String.toList same
  have values := congrArg digitsValue digits
  simpa using values

end Decimals

section Stripping

private theorem dropWhile_of_isPrefixOf {p : Char → Bool} {l chars : List Char}
    (isPrefix : l <+: chars.dropWhile p) : l.dropWhile p = l := by
  rw [List.dropWhile_eq_self_iff]
  intro nonempty
  have head := List.dropWhile_get_zero_not p chars
    (lt_of_lt_of_le nonempty isPrefix.length_le)
  rwa [List.get_eq_getElem, ← isPrefix.getElem nonempty] at head

theorem stripChars_stripChars (chars : List Char) :
    stripChars (stripChars chars) = stripChars chars := by
  unfold stripChars
  rw [dropWhile_of_isPrefixOf (List.rdropWhile_prefix isSpace _), List.rdropWhile_idempotent]

@[simp] theorem toList_strip (text : String) : (strip text).toList = stripChars text.toList := by
  simp [strip]

/-- A text whose ends are no blanks is stripped already. -/
theorem stripChars_of_ends {chars : List Char}
    (first : ∀ c, chars.head? = some c → isSpace c = false)
    (last : ∀ c, chars.getLast? = some c → isSpace c = false) : stripChars chars = chars := by
  have front : chars.dropWhile isSpace = chars := by
    cases chars with
    | nil => rfl
    | cons c rest => rw [List.dropWhile_cons_of_neg (by simp [first c rfl])]
  rw [stripChars, front, List.rdropWhile_eq_self_iff]
  intro nonempty
  simp [last _ (List.getLast?_eq_some_getLast nonempty)]

theorem isSpace_of_head?_stripChars {chars : List Char} {c : Char}
    (first : (stripChars chars).head? = some c) : isSpace c = false := by
  have fixed : (stripChars chars).dropWhile isSpace = stripChars chars := by
    rw [stripChars]
    exact dropWhile_of_isPrefixOf (List.rdropWhile_prefix isSpace _)
  cases parts : stripChars chars with
  | nil => simp [parts] at first
  | cons d rest =>
      rw [parts] at first fixed
      cases first
      by_contra blank
      rw [Bool.not_eq_false] at blank
      rw [List.dropWhile_cons_of_pos blank] at fixed
      have shorter := (List.dropWhile_suffix (p := isSpace) (l := rest)).length_le
      rw [fixed, List.length_cons] at shorter
      omega

theorem isSpace_of_getLast?_stripChars {chars : List Char} {c : Char}
    (last : (stripChars chars).getLast? = some c) : isSpace c = false := by
  have fixed : (stripChars chars).rdropWhile isSpace = stripChars chars := by
    rw [stripChars, List.rdropWhile_idempotent]
  have nonempty : stripChars chars ≠ [] := by
    intro none
    simp [none] at last
  have isLast := List.rdropWhile_eq_self_iff.mp fixed nonempty
  rw [List.getLast?_eq_some_getLast nonempty] at last
  cases last
  simpa using isLast

/-- Stripping twice removes nothing more. -/
@[simp] theorem strip_strip (text : String) : strip (strip text) = strip text := by
  rw [strip, toList_strip, stripChars_stripChars, ← strip]

theorem rstripChar_rstripChar (c : Char) (text : String) :
    rstripChar c (rstripChar c text) = rstripChar c text := by
  rw [rstripChar, rstripChar, String.toList_ofList, List.rdropWhile_idempotent]

theorem stripChars_subset (chars : List Char) : stripChars chars ⊆ chars :=
  fun _ member =>
    (List.dropWhile_suffix isSpace).subset ((List.rdropWhile_prefix isSpace _).subset member)

end Stripping

section Splitting

/-- A character of joined parts stands in one of them or is the separator. -/
theorem mem_intercalate {separator c : Char} {parts : List (List Char)}
    (joined : c ∈ [separator].intercalate parts) :
    c = separator ∨ ∃ part ∈ parts, c ∈ part := by
  induction parts with
  | nil => simp at joined
  | cons first rest ih =>
      cases rest with
      | nil => exact .inr ⟨first, by simp, by simpa using joined⟩
      | cons second rest =>
          simp only [List.intercalate_cons_cons, List.mem_append, List.mem_singleton] at joined
          rcases joined with (inFirst | isSeparator) | later
          · exact .inr ⟨first, by simp, inFirst⟩
          · exact .inl isSeparator
          · exact (ih later).imp_right fun ⟨part, listed, inPart⟩ =>
              ⟨part, List.mem_cons_of_mem _ listed, inPart⟩

/-- A character of a text stands in one of its parts or is a separator. -/
theorem mem_splitOn (separator : Char) {c : Char} {chars : List Char} (member : c ∈ chars) :
    c = separator ∨ ∃ part ∈ chars.splitOn separator, c ∈ part := by
  apply mem_intercalate
  rwa [List.intercalate_splitOn]

private theorem mem_intercalate_of_mem {separator c : Char} {part : List Char}
    {parts : List (List Char)}
    (listed : part ∈ parts) (inPart : c ∈ part) : c ∈ [separator].intercalate parts := by
  induction parts with
  | nil => cases listed
  | cons first rest ih =>
      cases rest with
      | nil =>
          rw [List.mem_singleton] at listed
          simpa [← listed] using inPart
      | cons second rest =>
          simp only [List.intercalate_cons_cons, List.mem_append]
          obtain rfl | later := List.mem_cons.mp listed
          · exact .inl (.inl inPart)
          · exact .inr (ih later)

/-- A character of a part stands in the text. -/
theorem mem_of_mem_splitOn {separator c : Char} {chars part : List Char}
    (listed : part ∈ chars.splitOn separator) (inPart : c ∈ part) : c ∈ chars := by
  have whole : [separator].intercalate (chars.splitOn separator) = chars :=
    List.intercalate_splitOn separator
  rw [← whole]
  exact mem_intercalate_of_mem listed inPart

/-- No part contains a character that separates. -/
theorem not_of_mem_splitOnP {separates : Char → Bool} {chars part : List Char}
    (listed : part ∈ chars.splitOnP separates) : ∀ c ∈ part, separates c = false := by
  induction chars generalizing part with
  | nil =>
      rw [List.splitOnP_nil, List.mem_singleton] at listed
      simp [listed]
  | cons c rest ih =>
      rw [List.splitOnP_cons_eq_if_modifyHead] at listed
      split at listed
      · rcases List.mem_cons.mp listed with rfl | later
        · simp
        · exact ih later
      · rename_i differs
        cases parts : rest.splitOnP separates with
        | nil => exact absurd parts (List.splitOnP_ne_nil _ _)
        | cons first others =>
            rw [parts, List.modifyHead_cons] at listed
            rcases List.mem_cons.mp listed with rfl | later
            · have inFirst := ih (parts ▸ by simp : first ∈ rest.splitOnP separates)
              rintro other (_ | ⟨_, member⟩)
              · simpa using differs
              · exact inFirst other member
            · exact ih (by simp [parts, later])

/-- No part contains the separator. -/
theorem notMem_of_mem_splitOn {separator : Char} {chars part : List Char}
    (listed : part ∈ chars.splitOn separator) : separator ∉ part := by
  intro member
  rw [List.splitOn_eq_splitOnP] at listed
  have differs := not_of_mem_splitOnP listed separator member
  simp at differs

/-- A text up to its first separator. -/
theorem takeWhile_separator (separator : Char) (text : List Char) :
    text.takeWhile (· ≠ separator) = text ∨
      ∃ rest, text = text.takeWhile (· ≠ separator) ++ separator :: rest := by
  induction text with
  | nil => exact .inl rfl
  | cons c text ih =>
      by_cases same : c = separator
      · exact .inr ⟨text, by simp [same]⟩
      · rw [List.takeWhile_cons_of_pos (by simpa using same)]
        obtain whole | ⟨rest, split⟩ := ih
        · exact .inl (congrArg (c :: ·) whole)
        · exact .inr ⟨rest, congrArg (c :: ·) split⟩

/-- A text from behind its last separator. -/
theorem rtakeWhile_separator (separator : Char) (text : List Char) :
    text.rtakeWhile (· ≠ separator) = text ∨
      ∃ front, text = front ++ separator :: text.rtakeWhile (· ≠ separator) := by
  rw [List.rtakeWhile]
  obtain whole | ⟨rest, split⟩ := takeWhile_separator separator text.reverse
  · exact .inl (by rw [whole, List.reverse_reverse])
  · have turned := congrArg List.reverse split
    rw [List.reverse_reverse] at turned
    exact .inr ⟨rest.reverse, by simpa using turned⟩

/-- Whatever stands in the middle of a text, the parts before and after its part are the same. -/
theorem splitOn_middle (separator : Char) (before after : List Char) :
    ∃ front back, ∀ middle : List Char, separator ∉ middle →
      (before ++ middle ++ after).splitOn separator =
        front ++ (before.rtakeWhile (· ≠ separator) ++ middle ++
          after.takeWhile (· ≠ separator)) :: back := by
  have ends : ∃ back, ∀ start : List Char, separator ∉ start →
      (start ++ after).splitOn separator =
        (start ++ after.takeWhile (· ≠ separator)) :: back := by
    obtain whole | ⟨rest, split⟩ := takeWhile_separator separator after
    · refine ⟨[], fun start absent => ?_⟩
      have one : separator ∉ start ++ after := by
        rw [← whole, List.mem_append, not_or]
        exact ⟨absent, fun listed => by simpa using List.mem_takeWhile_imp listed⟩
      rw [whole, List.splitOn_eq_singleton one]
    · refine ⟨rest.splitOn separator, fun start absent => ?_⟩
      have one : separator ∉ start ++ after.takeWhile (· ≠ separator) := by
        rw [List.mem_append, not_or]
        exact ⟨absent, fun listed => by simpa using List.mem_takeWhile_imp listed⟩
      rw [← List.singleton_append, ← List.splitOn_eq_singleton one,
        ← List.splitOn_append_cons_self, List.append_assoc, ← split]
  obtain ⟨back, isBack⟩ := ends
  have plain : ∀ middle : List Char, separator ∉ middle →
      separator ∉ before.rtakeWhile (· ≠ separator) ++ middle := by
    intro middle absent
    rw [List.mem_append, not_or]
    exact ⟨fun listed => by simpa using List.mem_rtakeWhile_imp listed, absent⟩
  obtain whole | ⟨front, split⟩ := rtakeWhile_separator separator before
  · refine ⟨[], back, fun middle absent => ?_⟩
    rw [whole] at plain ⊢
    exact isBack _ (plain middle absent)
  · refine ⟨front.splitOn separator, back, fun middle absent => ?_⟩
    have turned : before ++ middle ++ after =
        front ++ separator :: (before.rtakeWhile (· ≠ separator) ++ middle ++ after) := by
      rw [← List.cons_append, ← List.cons_append, ← List.append_assoc, ← List.append_assoc, ← split]
    rw [turned, List.splitOn_append_cons_self, isBack _ (plain middle absent)]

/-- The words of joined words are the words. -/
theorem words_intercalate {parts : List (List Char)}
    (nonempty : ∀ part ∈ parts, part ≠ []) (plain : ∀ part ∈ parts, ∀ c ∈ part, isSpace c = false) :
    words ([' '].intercalate parts) = parts := by
  induction parts with
  | nil => rfl
  | cons first rest ih =>
      have isFirst := nonempty first (by simp)
      have plainFirst := plain first (by simp)
      cases rest with
      | nil =>
          rw [List.intercalate_singleton, words, List.splitOnP_eq_singleton plainFirst]
          simp [isFirst]
      | cons second rest =>
          have later := ih (fun part member => nonempty part (by simp [member]))
            (fun part member => plain part (by simp [member]))
          rw [List.intercalate_cons_cons, words, List.append_assoc, List.singleton_append,
            List.splitOnP_append_cons_of_forall_mem plainFirst ' ' (by decide),
            List.filter_cons_of_pos (by simpa using isFirst), ← words, later]

/-- Joining words twice is joining them once. -/
theorem joinWords_joinWords (text : String) : joinWords (joinWords text) = joinWords text := by
  unfold joinWords
  rw [String.toList_ofList, words_intercalate]
  · intro part member
    simpa using (List.mem_filter.mp member).2
  · intro part member
    exact not_of_mem_splitOnP (List.mem_filter.mp member).1

/-- Joining one more part appends the separator and the part. -/
theorem intercalate_concat {separator last : List Char} {front : List (List Char)}
    (nonempty : front ≠ []) :
    separator.intercalate (front ++ [last]) = separator.intercalate front ++ separator ++ last := by
  induction front with
  | nil => exact absurd rfl nonempty
  | cons first rest ih =>
      cases rest with
      | nil => simp
      | cons second rest =>
          simp only [List.cons_append, List.intercalate_cons_cons] at ih ⊢
          rw [ih (by simp)]
          simp

end Splitting

end Foundation.Text
