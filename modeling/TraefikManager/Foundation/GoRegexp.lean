import TraefikManager.Foundation.Text

/-!
# Replacing a match in Go

`ReplaceAllString` puts the expanded template in the place of a match: `$$` is a dollar sign,
`$name` and `${name}` stand for a group, and any other `$` for itself. The patterns are those
that are anchored at the start, have only literal characters, some of them optional, and end in
a group for the rest of the line. Which characters make up a name is a parameter.
-/

namespace Foundation.GoRegexp

section Templates

/-- The group with a number, or one with a name. -/
inductive Reference where
  | group (index : Nat)
  | named (name : List Char)
  deriving DecidableEq, Repr

/-- A name of digits without a leading zero is a number, unless it is too long. -/
def referenceOf (name : List Char) : Reference :=
  match Text.digitsValue name with
  | some index =>
      if (name.head? = some '0' ∧ 1 < name.length) ∨ 9 < name.length then .named name
      else .group index
  | none => .named name

variable (isNameRune : Char → Bool)

/-- `extract`: the reference at the start of a text that follows a `$`, and what follows it. -/
def extract (template : List Char) : Option (Reference × List Char) :=
  match template with
  | '\x7b' :: body =>
      match body.takeWhile isNameRune, body.dropWhile isNameRune with
      | name, '\x7d' :: after => if name = [] then none else some (referenceOf name, after)
      | _, _ => none
  | _ =>
      if template.takeWhile isNameRune = [] then none
      else some (referenceOf (template.takeWhile isNameRune), template.dropWhile isNameRune)

variable {isNameRune}

private theorem length_dropWhile_lt {holds : Char → Bool} {text : List Char}
    (some_hold : text.takeWhile holds ≠ []) : (text.dropWhile holds).length < text.length := by
  have parts := congrArg List.length (List.takeWhile_append_dropWhile (p := holds) (l := text))
  have positive := List.length_pos_iff.mpr some_hold
  rw [List.length_append] at parts
  omega

private theorem extract_length {template after : List Char} {reference : Reference}
    (found : extract isNameRune template = some (reference, after)) :
    after.length < template.length := by
  unfold extract at found
  split at found
  · rename_i body
    split at found
    · rename_i name rest isRest
      split at found
      · cases found
      · cases found
        have shorter := List.length_dropWhile_le isNameRune body
        rw [isRest] at shorter
        simp only [List.length_cons] at shorter ⊢
        omega
    · cases found
  · split at found
    · cases found
    · rename_i nonempty
      cases found
      exact length_dropWhile_lt nonempty

/-- What a reference stands for, where no group has a name. -/
def Reference.value (groups : Nat → List Char) : Reference → List Char
  | .group index => groups index
  | .named _ => []

variable (isNameRune) in
/-- `expand`: the template with its references replaced. -/
def expand (groups : Nat → List Char) : List Char → List Char
  | [] => []
  | c :: rest =>
      if c ≠ '$' then c :: expand groups rest
      else if rest.head? = some '$' then '$' :: expand groups rest.tail
      else
        match _found : extract isNameRune rest with
        | some (reference, after) => reference.value groups ++ expand groups after
        | none => '$' :: expand groups rest
termination_by template => template.length
decreasing_by
  · simp
  · rw [List.length_tail, List.length_cons]
    omega
  · have := extract_length _found
    simp
    omega
  · simp

variable {groups : Nat → List Char}

@[simp]
theorem expand_nil : expand isNameRune groups [] = [] := by
  rw [expand]

private theorem expand_of_ne {c : Char} (differs : c ≠ '$') (rest : List Char) :
    expand isNameRune groups (c :: rest) = c :: expand isNameRune groups rest := by
  rw [expand, if_pos differs]

private theorem expand_dollar_dollar (rest : List Char) :
    expand isNameRune groups ('$' :: '$' :: rest) = '$' :: expand isNameRune groups rest := by
  rw [expand, if_neg (by simp), if_pos (by rfl)]
  rfl

private theorem expand_reference {rest after : List Char} {reference : Reference}
    (noDollar : rest.head? ≠ some '$')
    (found : extract isNameRune rest = some (reference, after)) :
    expand isNameRune groups ('$' :: rest) =
      reference.value groups ++ expand isNameRune groups after := by
  rw [expand, if_neg (by simp), if_neg noDollar]
  split
  · rename_i again
    rw [found] at again
    cases again
    rfl
  · rename_i none
    rw [found] at none
    cases none

private theorem expand_raw {rest : List Char} (noDollar : rest.head? ≠ some '$')
    (none : extract isNameRune rest = none) :
    expand isNameRune groups ('$' :: rest) = '$' :: expand isNameRune groups rest := by
  rw [expand, if_neg (by simp), if_neg noDollar]
  split
  · rename_i found
    rw [none] at found
    cases found
  · rfl

end Templates

section FirstGroup

variable {isNameRune : Char → Bool} {groups : Nat → List Char} {base : List Char}

/-- What is known of the characters of a name. -/
structure NameRunes (isNameRune : Char → Bool) : Prop where
  one : isNameRune '1' = true
  dollar : isNameRune '$' = false
  close : isNameRune '\x7d' = false

/-- A template that ends in what stands for the first group. -/
def withFirstGroup (base : List Char) : List Char := base ++ ['$', '\x7b', '1', '\x7d']

/-- A text after a `$` makes it more than a dollar sign. -/
def Refers (isNameRune : Char → Bool) (after : List Char) : Prop :=
  after.head? = some '$' ∨ (extract isNameRune after).isSome

instance (isNameRune : Char → Bool) (after : List Char) : Decidable (Refers isNameRune after) :=
  inferInstanceAs (Decidable (_ ∨ _))

/-- Every `$` before the reference to the first group is a dollar sign. -/
def Inert (isNameRune : Char → Bool) : List Char → Prop
  | [] => True
  | c :: rest => (c = '$' → ¬ Refers isNameRune (withFirstGroup rest)) ∧ Inert isNameRune rest

instance decidableInert (isNameRune : Char → Bool) :
    ∀ base, Decidable (Inert isNameRune base)
  | [] => .isTrue trivial
  | _ :: rest =>
      have := decidableInert isNameRune rest
      inferInstanceAs (Decidable (_ ∧ _))

private theorem extract_firstGroup (runes : NameRunes isNameRune) :
    extract isNameRune ['\x7b', '1', '\x7d'] = some (.group 1, []) := by
  simp [extract, runes.one, runes.close]
  decide

private theorem expand_firstGroup (runes : NameRunes isNameRune) :
    expand isNameRune groups (withFirstGroup []) = groups 1 := by
  have first : expand isNameRune groups ['$', '\x7b', '1', '\x7d'] =
      (Reference.group 1).value groups ++ expand isNameRune groups [] :=
    expand_reference (by simp) (extract_firstGroup runes)
  simpa [withFirstGroup, Reference.value] using first

/-- An inert text comes out of the expansion as it is. -/
theorem expand_of_inert (runes : NameRunes isNameRune) (inert : Inert isNameRune base) :
    expand isNameRune groups (withFirstGroup base) = base ++ groups 1 := by
  induction base with
  | nil => exact expand_firstGroup runes
  | cons c rest ih =>
      obtain ⟨here, later⟩ := inert
      have unfolded : withFirstGroup (c :: rest) = c :: withFirstGroup rest := rfl
      rw [unfolded]
      by_cases dollar : c = '$'
      · subst dollar
        have raw := here rfl
        simp only [Refers, not_or, Option.not_isSome_iff_eq_none] at raw
        rw [expand_raw raw.1 raw.2, ih later]
        rfl
      · rw [expand_of_ne dollar, ih later]
        rfl

private theorem span_append (holds : Char → Bool) (first : List Char) {second : List Char}
    (stops : ∀ c ∈ second.head?, holds c = false) :
    (first ++ second).takeWhile holds = first.takeWhile holds ∧
      (first ++ second).dropWhile holds = first.dropWhile holds ++ second := by
  induction first with
  | nil =>
      cases second with
      | nil => simp
      | cons c rest =>
          have := stops c rfl
          simp [this]
  | cons c rest ih =>
      cases here : holds c <;> simp [here, ih]

/-- A reference before that to the first group ends before it. -/
theorem extract_withFirstGroup (runes : NameRunes isNameRune) {after : List Char}
    {reference : Reference} (nonempty : base ≠ [])
    (found : extract isNameRune (withFirstGroup base) = some (reference, after)) :
    ∃ rest, rest.length < base.length ∧ rest.count '$' ≤ base.count '$' ∧
      after = withFirstGroup rest := by
  have stops : ∀ c ∈ (['$', '\x7b', '1', '\x7d'] : List Char).head?, isNameRune c = false := by
    simp [runes.dollar]
  obtain ⟨c, rest, rfl⟩ := List.exists_cons_of_ne_nil nonempty
  by_cases brace : c = '\x7b'
  · subst brace
    have body : extract isNameRune (withFirstGroup ('\x7b' :: rest)) =
        match (withFirstGroup rest).takeWhile isNameRune,
            (withFirstGroup rest).dropWhile isNameRune with
        | name, '\x7d' :: after => if name = [] then none else some (referenceOf name, after)
        | _, _ => none := rfl
    obtain ⟨taken, dropped⟩ := span_append isNameRune rest stops
    rw [body, withFirstGroup, taken, dropped] at found
    cases closing : rest.dropWhile isNameRune with
    | nil => simp [closing] at found
    | cons d later =>
        rw [closing, List.cons_append] at found
        split at found
        · rename_i isClosing
          split at found
          · cases found
          · cases found
            cases isClosing
            have part : ('\x7d' :: later).Sublist rest := closing ▸ List.dropWhile_sublist _
            have inBase : later.Sublist ('\x7b' :: rest) :=
              ((List.sublist_cons_self _ later).trans part).cons _
            have shorter := part.length_le
            simp only [List.length_cons] at shorter ⊢
            exact ⟨later, by omega, List.Sublist.count_le _ inBase, rfl⟩
        · cases found
  · unfold extract at found
    split at found
    · rename_i body isBrace
      simp only [withFirstGroup, List.cons_append, List.cons.injEq] at isBrace
      exact absurd isBrace.1 brace
    · split at found
      · cases found
      · rename_i someName
        cases found
        have parts := span_append isNameRune (c :: rest) stops
        rw [withFirstGroup, parts.1] at someName
        exact ⟨_, length_dropWhile_lt someName,
          List.Sublist.count_le _ (List.dropWhile_sublist _), parts.2⟩

private theorem expand_literal :
    expand isNameRune groups ['\x7b', '1', '\x7d'] = ['\x7b', '1', '\x7d'] := by
  rw [expand_of_ne (by decide), expand_of_ne (by decide), expand_of_ne (by decide), expand_nil]

/-- What the expansion does to a template, by what its first character is. -/
theorem expand_cases (runes : NameRunes isNameRune) (groups : Nat → List Char) (c : Char)
    (rest : List Char) :
    (¬ (c = '$' ∧ Refers isNameRune (withFirstGroup rest)) ∧
      expand isNameRune groups (withFirstGroup (c :: rest)) =
        c :: expand isNameRune groups (withFirstGroup rest)) ∨
    (c = '$' ∧ rest = [] ∧ expand isNameRune groups (withFirstGroup (c :: rest)) =
      ['$', '\x7b', '1', '\x7d']) ∨
    (c = '$' ∧ ∃ later, rest = '$' :: later ∧
      expand isNameRune groups (withFirstGroup (c :: rest)) =
        '$' :: expand isNameRune groups (withFirstGroup later)) ∨
    (c = '$' ∧ ∃ (reference : Reference) (later : List Char), later.length < rest.length ∧
      later.count '$' ≤ rest.count '$' ∧
      expand isNameRune groups (withFirstGroup (c :: rest)) =
        reference.value groups ++ expand isNameRune groups (withFirstGroup later)) := by
  have unfolded : withFirstGroup (c :: rest) = c :: withFirstGroup rest := rfl
  rw [unfolded]
  by_cases dollar : c = '$'
  · subst dollar
    by_cases again : (withFirstGroup rest).head? = some '$'
    · cases rest with
      | nil =>
          refine .inr (.inl ⟨rfl, rfl, ?_⟩)
          have template : withFirstGroup [] = '$' :: ['\x7b', '1', '\x7d'] := rfl
          rw [template, expand_dollar_dollar, expand_literal]
      | cons d later =>
          obtain rfl : d = '$' := by simpa [withFirstGroup] using again
          exact .inr (.inr (.inl ⟨rfl, later, rfl, expand_dollar_dollar _⟩))
    · cases found : extract isNameRune (withFirstGroup rest) with
      | none =>
          refine .inl ⟨fun both => ?_, expand_raw again found⟩
          rcases both.2 with isDollar | isReference
          · exact again isDollar
          · simp [found] at isReference
      | some result =>
          obtain ⟨reference, after⟩ := result
          have nonempty : rest ≠ [] := by
            intro empty
            subst empty
            exact again rfl
          obtain ⟨later, shorter, fewer, rfl⟩ := extract_withFirstGroup runes nonempty found
          exact .inr (.inr (.inr ⟨rfl, reference, later, shorter, fewer,
            expand_reference again found⟩))
  · exact .inl ⟨fun both => dollar both.1, expand_of_ne dollar _⟩

private theorem count_value (noDollar : ∀ index, '$' ∉ groups index) (reference : Reference) :
    (reference.value groups).count '$' = 0 := by
  cases reference with
  | group index => exact List.count_eq_zero.mpr (noDollar index)
  | named name => rfl

/-- Expanding adds no dollar sign. -/
theorem count_expand_le (runes : NameRunes isNameRune) (noDollar : ∀ index, '$' ∉ groups index)
    (base : List Char) :
    (expand isNameRune groups (withFirstGroup base)).count '$' ≤ base.count '$' := by
  induction length : base.length using Nat.strong_induction_on generalizing base with
  | _ size ih =>
      subst length
      cases base with
      | nil =>
          rw [expand_firstGroup runes, List.count_eq_zero.mpr (noDollar 1)]
          exact Nat.zero_le _
      | cons c rest =>
          rcases expand_cases runes groups c rest with
            ⟨-, result⟩ | ⟨rfl, rfl, result⟩ | ⟨rfl, later, rfl, result⟩ |
              ⟨rfl, reference, later, shorter, fewer, result⟩
          · rw [result, List.count_cons, List.count_cons]
            exact Nat.add_le_add_right (ih _ (by simp) rest rfl) _
          · rw [result]
            decide
          · have := ih _ (by simp only [List.length_cons]; omega) later rfl
            rw [result, List.count_cons_self, List.count_cons_self, List.count_cons_self]
            omega
          · have := ih _ (by simp only [List.length_cons]; omega) later rfl
            rw [result, List.count_append, count_value noDollar, List.count_cons_self]
            omega

/-- A text that comes out as it is, with nothing for the first group, is inert. -/
theorem inert_of_expand_eq (runes : NameRunes isNameRune)
    (noDollar : ∀ index, '$' ∉ groups index)
    (same : expand isNameRune groups (withFirstGroup base) = base) : Inert isNameRune base := by
  induction base with
  | nil => trivial
  | cons c rest ih =>
      rcases expand_cases runes groups c rest with
        ⟨raw, result⟩ | ⟨rfl, rfl, result⟩ | ⟨rfl, later, rfl, result⟩ |
          ⟨rfl, reference, later, shorter, fewer, result⟩
      · rw [result] at same
        exact ⟨fun dollar refers => raw ⟨dollar, refers⟩, ih (List.cons.inj same).2⟩
      · rw [result] at same
        exact absurd same (by decide)
      · have counted := congrArg (List.count '$') same
        have := count_expand_le runes noDollar later
        rw [result, List.count_cons_self, List.count_cons_self, List.count_cons_self] at counted
        omega
      · have counted := congrArg (List.count '$') same
        have := count_expand_le runes noDollar later
        rw [result, List.count_append, count_value noDollar, List.count_cons_self] at counted
        omega

end FirstGroup

section Patterns

/-- A part of a pattern that stands for one character, or for none. -/
inductive Piece where
  | char (c : Char)
  | optional (c : Char)
  deriving DecidableEq, Repr

/-- A character that stands for itself without a backslash. -/
def isPlain (c : Char) : Bool := c ∉ "\\.+*?()|[]\x7b\x7d^$".toList

/-- A character that a backslash makes stand for itself. -/
def isEscapable (c : Char) : Bool := c.toNat < 128 ∧ ¬ Text.isLetter c ∧ ¬ Text.isDigit c

/-- The parts of a pattern up to a group for the rest of the line. -/
def parsePieces : List Char → Option (List Piece)
  | ['(', '.', '*', ')'] => some []
  | '\\' :: c :: rest =>
      if isEscapable c then (parsePieces rest).map (.char c :: ·) else none
  | c :: '?' :: rest => if isPlain c then (parsePieces rest).map (.optional c :: ·) else none
  | c :: rest => if isPlain c then (parsePieces rest).map (.char c :: ·) else none
  | [] => none

/-- The parts of an anchored pattern. -/
def parsePattern (pattern : List Char) : Option (List Piece) :=
  match pattern with
  | '^' :: rest => parsePieces rest
  | _ => none

/-- What follows the parts in a text; an optional character is taken where that leads to a
match. -/
def consume : List Piece → List Char → Option (List Char)
  | [], text => some text
  | .char c :: pieces, d :: text => if c = d then consume pieces text else none
  | .char _ :: _, [] => none
  | .optional c :: pieces, text =>
      match text with
      | [] => consume pieces []
      | d :: rest =>
          if c = d then (consume pieces rest).orElse fun _ => consume pieces text
          else consume pieces text

/-- The match and its group, when so much of a text follows the parts of the pattern. -/
def groupsOf (text rest : List Char) : Nat → List Char
  | 0 => text.take (text.length - (rest.dropWhile (· ≠ '\n')).length)
  | 1 => rest.takeWhile (· ≠ '\n')
  | _ => []

/-- `ReplaceAllString` of a text with a match: the match is expanded, and what follows it is
kept. -/
def replaceAll (isNameRune : Char → Bool) (pattern template text : List Char) :
    Option (List Char) := do
  let pieces ← parsePattern pattern
  let rest ← consume pieces text
  return expand isNameRune (groupsOf text rest) template ++ rest.dropWhile (· ≠ '\n')

/-- The parts that stand for a text. -/
def literal (text : List Char) : List Piece := text.map .char

@[simp]
theorem consume_nil (text : List Char) : consume [] text = some text := by
  rw [consume]

theorem replaceAll_eq (isNameRune : Char → Bool) {pattern text rest : List Char}
    {pieces : List Piece} (template : List Char) (parsed : parsePattern pattern = some pieces)
    (consumed : consume pieces text = some rest) :
    replaceAll isNameRune pattern template text =
      some (expand isNameRune (groupsOf text rest) template ++ rest.dropWhile (· ≠ '\n')) := by
  rw [replaceAll, parsed, Option.bind_eq_bind, Option.bind_some, consumed, Option.bind_eq_bind,
    Option.bind_some]
  rfl

@[simp]
theorem consume_literal (text rest : List Char) (pieces : List Piece) :
    consume (literal text ++ pieces) (text ++ rest) = consume pieces rest := by
  induction text with
  | nil => rfl
  | cons c text ih =>
      change (if c = c then consume (literal text ++ pieces) (text ++ rest) else none) = _
      rw [if_pos rfl, ih]

/-- What is escaped may be escaped, and what is not stands for itself. -/
theorem escapeChar_cases (c : Char) :
    (Text.escapeChar c = ['\\', c] ∧ isEscapable c = true) ∨
      (Text.escapeChar c = [c] ∧ isPlain c = true ∧ c ≠ '?') := by
  have escapable : ∀ special ∈ "()[]\x7b\x7d?*+-|^$\\.&~# \t\n\r\x0b\x0c".toList,
      isEscapable special = true := by decide
  have covered : ∀ special ∈ "\\.+*?()|[]\x7b\x7d^$".toList,
      special ∈ "()[]\x7b\x7d?*+-|^$\\.&~# \t\n\r\x0b\x0c".toList := by decide
  unfold Text.escapeChar
  split
  · rename_i special
    exact .inl ⟨rfl, escapable c special⟩
  · rename_i plain
    refine .inr ⟨rfl, decide_eq_true fun special => plain (covered c special), ?_⟩
    rintro rfl
    exact plain (by decide)

private theorem parsePieces_escaped {c : Char} (escapable : isEscapable c = true)
    (rest : List Char) :
    parsePieces ('\\' :: c :: rest) = (parsePieces rest).map (.char c :: ·) := by
  rw [parsePieces, if_pos escapable]

private theorem parsePieces_plain {c : Char} (plain : isPlain c = true) {rest : List Char}
    (notOptional : rest.head? ≠ some '?') :
    parsePieces (c :: rest) = (parsePieces rest).map (.char c :: ·) := by
  rw [parsePieces.eq_def]
  split
  · rename_i isGroup
    cases isGroup
    exact absurd plain (by decide)
  · rename_i isEscape
    cases isEscape
    exact absurd plain (by decide)
  · rename_i isOptional
    cases isOptional
    exact absurd rfl notOptional
  · rename_i parts
    cases parts
    rw [if_pos plain]
  · rename_i isNil
    cases isNil

theorem parsePieces_optional {c : Char} (plain : isPlain c = true) (rest : List Char) :
    parsePieces (c :: '?' :: rest) = (parsePieces rest).map (.optional c :: ·) := by
  rw [parsePieces.eq_def]
  split
  · rename_i isGroup
    cases isGroup
  · rename_i isEscape
    cases isEscape
    exact absurd plain (by decide)
  · rename_i parts
    cases parts
    rw [if_pos plain]
  · rename_i noOptional parts
    cases parts
    exact (noOptional rest rfl).elim
  · rename_i isNil
    cases isNil

/-- An escaped text stands for itself. -/
theorem parsePieces_escape (text : List Char) {rest : List Char}
    (notOptional : rest.head? ≠ some '?') :
    parsePieces (text.flatMap Text.escapeChar ++ rest) =
      (parsePieces rest).map (literal text ++ ·) := by
  induction text with
  | nil => simp [literal]
  | cons c text ih =>
      have follows : (text.flatMap Text.escapeChar ++ rest).head? ≠ some '?' := by
        cases text with
        | nil => exact notOptional
        | cons d text =>
            rcases escapeChar_cases d with ⟨escaped, -⟩ | ⟨alone, -, differs⟩
            · simp [escaped]
            · simpa [alone] using differs
      have whole : (c :: text).flatMap Text.escapeChar ++ rest =
          Text.escapeChar c ++ (text.flatMap Text.escapeChar ++ rest) := by
        rw [List.flatMap_cons, List.append_assoc]
      rw [whole]
      rcases escapeChar_cases c with ⟨escaped, escapable⟩ | ⟨alone, plain, -⟩
      · rw [escaped, List.cons_append, List.cons_append, List.nil_append,
          parsePieces_escaped escapable, ih, Option.map_map]
        rfl
      · rw [alone, List.cons_append, List.nil_append, parsePieces_plain plain follows, ih,
          Option.map_map]
        rfl

end Patterns

end Foundation.GoRegexp
