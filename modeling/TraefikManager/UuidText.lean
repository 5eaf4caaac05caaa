import TraefikManager.Runtime
import Mathlib.Tactic.Ring

/-!
# Reading the texts of identifiers

`UUID(text)` reads the text that `str(uuid)` writes as the same identifier.
-/

namespace TraefikManager

open Foundation

section HexDigits

/-- The characters of `hexDigits`. -/
def lowerHexDigits : List Char :=
  ['0', '1', '2', '3', '4', '5', '6', '7', '8', '9', 'a', 'b', 'c', 'd', 'e', 'f']

private theorem digitChar_mem_lowerHexDigits :
    ∀ digit < 16, Nat.digitChar digit ∈ lowerHexDigits := by
  decide

/-- A hexadecimal text has lower-case digits only. -/
theorem mem_lowerHexDigits {width value : Nat} {c : Char} (listed : c ∈ hexDigits width value) :
    c ∈ lowerHexDigits := by
  obtain ⟨place, -, rfl⟩ := List.mem_map.mp listed
  exact digitChar_mem_lowerHexDigits _ (Nat.mod_lt _ (by decide))

theorem length_hexDigits (width value : Nat) : (hexDigits width value).length = width := by
  simp [hexDigits]

private theorem hexDigits_succ (width value : Nat) :
    hexDigits (width + 1) value =
      Nat.digitChar (value / 16 ^ width % 16) :: hexDigits width value := by
  simp [hexDigits, List.range_succ]

private theorem foldlM_hexDigits (width value before : Nat) :
    (hexDigits width value).foldlM (fun value c => (Ip.hexDigitValue c).map (value * 16 + ·)) before =
      some (before * 16 ^ width + value % 16 ^ width) := by
  have ofDigit : ∀ digit < 16, Ip.hexDigitValue (Nat.digitChar digit) = some digit := by decide
  induction width generalizing before with
  | zero => simp [hexDigits, Nat.mod_one]
  | succ width ih =>
      rw [hexDigits_succ, List.foldlM_cons, ofDigit _ (Nat.mod_lt _ (by decide)),
        Option.map_some, Option.bind_eq_bind, Option.bind_some, ih, Nat.mod_pow_succ]
      congr 1
      ring

end HexDigits

section Parsing

private theorem removeText_of_notMem {first : Char} {pattern chars : List Char}
    (absent : first ∉ chars) : removeText (first :: pattern) 0 chars = chars := by
  induction chars with
  | nil => rfl
  | cons c rest ih =>
      rw [List.mem_cons, not_or] at absent
      have noMatch : ¬ (first :: pattern).isPrefixOf (c :: rest) = true := by
        simp [List.isPrefixOf, absent.1]
      rw [removeText, if_neg noMatch, ih absent.2]

private theorem parseHexadecimal_hexDigits {width value : Nat} (nonempty : 0 < width)
    (small : value < 16 ^ width) : parseHexadecimal (hexDigits width value) = some value := by
  have each : ∀ c ∈ hexDigits width value, c ∈ lowerHexDigits := fun c => mem_lowerHexDigits
  have plain : ∀ c ∈ lowerHexDigits,
      Text.isSpace c = false ∧ c ≠ '+' ∧ c ≠ 'x' ∧ c ≠ 'X' ∧ c ≠ '_' := by
    decide
  have notNil : hexDigits width value ≠ [] := by
    apply List.ne_nil_of_length_pos
    rwa [length_hexDigits]
  have sum := foldlM_hexDigits width value 0
  rw [Nat.zero_mul, Nat.zero_add, Nat.mod_eq_of_lt small] at sum
  generalize hexDigits width value = digits at *
  have trimmed : Text.stripChars digits = digits := by
    apply Text.stripChars_of_ends
    · intro c isHead
      exact (plain c (each c (List.mem_of_mem_head? isHead))).1
    · intro c isLast
      exact (plain c (each c (List.mem_of_mem_getLast? isLast))).1
  have whole : digits.splitOn '_' = [digits] := by
    apply List.splitOn_eq_singleton
    intro listed
    exact (plain '_' (each '_' listed)).2.2.2.2 rfl
  have absent : ∀ c ∈ ['+', 'x', 'X'], c ∉ digits := by
    intro c listed inDigits
    have differs := plain c (each c inDigits)
    simp only [List.mem_cons, List.not_mem_nil, or_false] at listed
    obtain rfl | rfl | rfl := listed
    · exact differs.2.1 rfl
    · exact differs.2.2.1 rfl
    · exact differs.2.2.2.1 rfl
  have result : (if [] ∈ digits.splitOn '_' then none else (digits.splitOn '_').flatten.foldlM
      (fun value c => (Ip.hexDigitValue c).map (value * 16 + ·)) 0) = some value := by
    rw [whole, if_neg (by simpa using Ne.symm notNil), List.flatten_singleton]
    exact sum
  -- neither a sign nor a prefix stands before the digits
  have noPlus : ∀ rest, digits ≠ '+' :: rest := by
    intro rest isList
    exact absent '+' (by decide) (isList ▸ List.mem_cons_self)
  have noPrefix : ∀ c rest, c ∈ ['x', 'X'] → digits ≠ '0' :: c :: rest := by
    intro c rest listed isList
    exact absent c (List.mem_cons_of_mem _ listed) (isList ▸ by simp)
  unfold parseHexadecimal
  rw [trimmed]
  dsimp only
  split
  all_goals
    rename_i isList
    split at isList
    · exact absurd rfl (noPlus _)
  · exact absurd isList (noPrefix 'x' _ (by decide))
  · exact absurd isList (noPrefix 'X' _ (by decide))
  · exact absurd isList (noPrefix 'x' _ (by decide))
  · exact absurd isList (noPrefix 'X' _ (by decide))
  · exact result

/-- Digits with dashes between groups of them. -/
def dashed (digits : List Char) : List Char :=
  digits.take 8 ++ '-' :: (digits.drop 8).take 4 ++ '-' :: (digits.drop 12).take 4 ++
    '-' :: (digits.drop 16).take 4 ++ '-' :: digits.drop 20

private theorem mem_dashed {digits : List Char} {c : Char} (listed : c ∈ dashed digits) :
    c ∈ digits ∨ c = '-' := by
  simp only [dashed, List.mem_append, List.mem_cons] at listed
  obtain (((inGroup | same | inGroup) | same | inGroup) | same | inGroup) | same | inGroup := listed
  · exact .inl (List.mem_of_mem_take inGroup)
  · exact .inr same
  · exact .inl (List.mem_of_mem_drop (List.mem_of_mem_take inGroup))
  · exact .inr same
  · exact .inl (List.mem_of_mem_drop (List.mem_of_mem_take inGroup))
  · exact .inr same
  · exact .inl (List.mem_of_mem_drop (List.mem_of_mem_take inGroup))
  · exact .inr same
  · exact .inl (List.mem_of_mem_drop inGroup)

private theorem filter_dashed {digits : List Char} (noDash : '-' ∉ digits) :
    (dashed digits).filter (· ≠ '-') = digits := by
  have group : ∀ part : List Char, (∀ c ∈ part, c ∈ digits) → part.filter (· ≠ '-') = part := by
    intro part inside
    apply List.filter_eq_self.mpr
    intro c inPart
    exact decide_eq_true fun isDash => noDash (isDash ▸ inside c inPart)
  have taken : ∀ start size, ((digits.drop start).take size).filter (· ≠ '-') =
      (digits.drop start).take size := fun start size =>
    group _ fun c inPart => List.mem_of_mem_drop (List.mem_of_mem_take inPart)
  have first := group (digits.take 8) fun c => List.mem_of_mem_take
  have last := group (digits.drop 20) fun c => List.mem_of_mem_drop
  have cutDash : ∀ rest : List Char, ('-' :: rest).filter (· ≠ '-') = rest.filter (· ≠ '-') :=
    fun rest => List.filter_cons_of_neg (by simp)
  have joins : ∀ start, (digits.drop start).take 4 ++ digits.drop (start + 4) = digits.drop start := by
    intro start
    rw [← List.drop_drop, List.take_append_drop]
  unfold dashed
  rw [List.filter_append, List.filter_append, List.filter_append, List.filter_append, cutDash,
    cutDash, cutDash, cutDash, first, last, taken, taken, taken, List.append_assoc,
    List.append_assoc, List.append_assoc, joins 16, joins 12, joins 8, List.take_append_drop]

/-- **Round trip.** The text of an identifier is read as that identifier. -/
theorem Uuid.parse_text (id : Uuid) : Uuid.parse id.text = some id := by
  have each : ∀ c ∈ hexDigits 32 id.bits.toNat, c ∈ lowerHexDigits := fun c => mem_lowerHexDigits
  have isHex : parseHexadecimal (hexDigits 32 id.bits.toNat) = some id.bits.toNat :=
    parseHexadecimal_hexDigits (by decide) id.bits.isLt
  have long := length_hexDigits 32 id.bits.toNat
  have isText : id.text.toList = dashed (hexDigits 32 id.bits.toNat) := String.toList_ofList
  generalize hexDigits 32 id.bits.toNat = digits at *
  have others : ∀ c ∈ ['u', '\x7b', '\x7d'], c ∉ dashed digits := by
    have plain : ∀ c ∈ ['u', '\x7b', '\x7d'], c ∉ lowerHexDigits ∧ c ≠ '-' := by decide
    intro c listed inText
    obtain inDigits | isDash := mem_dashed inText
    · exact (plain c listed).1 (each c inDigits)
    · exact (plain c listed).2 isDash
  have noBrace : ∀ c ∈ dashed digits, ¬ c ∈ ['\x7b', '\x7d'] := fun c inText isBrace =>
    others c (List.mem_cons_of_mem _ isBrace) inText
  have noDash : '-' ∉ digits := by
    intro inDigits
    exact absurd (each '-' inDigits) (by decide)
  have unbraced : ((dashed digits).dropWhile (· ∈ ['\x7b', '\x7d'])).rdropWhile
      (· ∈ ['\x7b', '\x7d']) = dashed digits := by
    have front : (dashed digits).dropWhile (· ∈ ['\x7b', '\x7d']) = dashed digits := by
      rw [List.dropWhile_eq_self_iff]
      intro nonempty
      simpa using noBrace _ (List.getElem_mem nonempty)
    rw [front, List.rdropWhile_eq_self_iff]
    intro nonempty
    simpa using noBrace _ (List.getLast_mem nonempty)
  unfold Uuid.parse
  rw [isText, show "urn:".toList = ['u', 'r', 'n', ':'] from rfl,
    show "uuid:".toList = ['u', 'u', 'i', 'd', ':'] from rfl,
    removeText_of_notMem (others 'u' (by decide)), removeText_of_notMem (others 'u' (by decide))]
  dsimp only
  rw [unbraced, filter_dashed noDash, if_pos long, isHex]
  simp

/-- An identifier is never the empty text. -/
theorem Uuid.text_ne_empty (id : Uuid) : id.text ≠ "" := by
  intro isEmpty
  have parsed := Uuid.parse_text id
  rw [isEmpty] at parsed
  cases parsed

end Parsing

end TraefikManager
