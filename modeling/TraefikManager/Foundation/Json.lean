import Mathlib.Data.List.Basic
import TraefikManager.Foundation.Text

/-!
# JSON texts

Values, the compact text `json.dumps` writes without escaping other than what the format
asks for, and the reader `json.loads`. What is written is read back as the same value.
-/

namespace Foundation

/-- A JSON value. A number that is no integer keeps its text. -/
inductive Json where
  | null
  | bool (value : Bool)
  | int (value : Int)
  | real (literal : String)
  | string (value : String)
  | array (items : List Json)
  | object (fields : List (String × Json))

namespace Json

/-- The value of a key of an object: a repeated key keeps its last value. -/
def get? (fields : List (String × Json)) (key : String) : Option Json :=
  (fields.reverse.find? (·.1 = key)).map (·.2)

/-- A text or null. -/
def ofOption : Option String → Json
  | some text => .string text
  | none => .null

section Writing

/-- The escape of a character that has a short one. -/
def shortEscapes : List (Char × Char) :=
  [('"', '"'), ('\\', '\\'), ('\n', 'n'), ('\r', 'r'), ('\t', 't'), ('\x08', 'b'), ('\x0c', 'f')]

/-- A character as it stands in a string. -/
def escapeChar (c : Char) : List Char :=
  match shortEscapes.lookup c with
  | some short => ['\\', short]
  | none =>
      if c.toNat < 32 then
        ['\\', 'u', '0', '0', Nat.digitChar (c.toNat / 16), Nat.digitChar (c.toNat % 16)]
      else [c]

/-- A string with its quotes. -/
def quote (text : List Char) : List Char := '"' :: text.flatMap escapeChar ++ ['"']

mutual

/-- `json.dumps(value, ensure_ascii=False, separators=(",", ":"))`. -/
def write : Json → List Char
  | null => ['n', 'u', 'l', 'l']
  | bool true => ['t', 'r', 'u', 'e']
  | bool false => ['f', 'a', 'l', 's', 'e']
  | int (.ofNat value) => Nat.toDigits 10 value
  | int (.negSucc value) => '-' :: Nat.toDigits 10 (value + 1)
  | real literal => literal.toList
  | string value => quote value.toList
  | array [] => ['[', ']']
  | array (item :: items) => '[' :: write item ++ writeItems items
  | object [] => ['\x7b', '\x7d']
  | object (field :: fields) => '\x7b' :: writeField field ++ writeFields fields

/-- The items of an array after the first, and its end. -/
def writeItems : List Json → List Char
  | [] => [']']
  | item :: items => ',' :: write item ++ writeItems items

/-- A field of an object. -/
def writeField : String × Json → List Char
  | (key, value) => quote key.toList ++ ':' :: write value

/-- The fields of an object after the first, and its end. -/
def writeFields : List (String × Json) → List Char
  | [] => ['\x7d']
  | field :: fields => ',' :: writeField field ++ writeFields fields

end

def dumps (value : Json) : String := String.ofList value.write

end Writing

section Reading

def isBlank (c : Char) : Bool := c ∈ [' ', '\t', '\n', '\r']

def skipBlanks (chars : List Char) : List Char := chars.dropWhile isBlank

/-- The value of a hexadecimal digit. -/
def hexDigit? (c : Char) : Option Nat :=
  if '0' ≤ c ∧ c ≤ '9' then some (c.toNat - '0'.toNat)
  else if 'a' ≤ c ∧ c ≤ 'f' then some (c.toNat - 'a'.toNat + 10)
  else if 'A' ≤ c ∧ c ≤ 'F' then some (c.toNat - 'A'.toNat + 10)
  else none

/-- The code of four hexadecimal digits. -/
def hexCode? (a b c d : Char) : Option Nat := do
  let a ← hexDigit? a
  let b ← hexDigit? b
  let c ← hexDigit? c
  let d ← hexDigit? d
  some (a * 4096 + b * 256 + c * 16 + d)

def isHighSurrogate (code : Nat) : Bool := 0xd800 ≤ code ∧ code < 0xdc00

def isLowSurrogate (code : Nat) : Bool := 0xdc00 ≤ code ∧ code < 0xe000

/-- The character of a short escape; a slash may be escaped as well. -/
def shortEscape? (short : Char) : Option Char :=
  if short = '/' then some '/' else (shortEscapes.find? (·.2 = short)).map (·.1)

-- What stands for an escaped surrogate that is alone: Python keeps it in its text, but it is no
-- character. Without a stand-in, a text with one is refused.
variable (lone : Option Char)

/-- The rest of a string after its opening quote. -/
def readString : List Char → Option (List Char × List Char)
  | [] => none
  | c :: rest =>
      if c = '"' then some ([], rest)
      else if c = '\\' then
        match rest with
        | [] => none
        | escape :: rest =>
            if escape = 'u' then
              match rest with
              | a :: b :: c :: d :: rest =>
                  match hexCode? a b c d with
                  | none => none
                  | some code =>
                      if isHighSurrogate code then
                        match rest with
                        | '\\' :: 'u' :: a :: b :: c :: d :: after =>
                            match hexCode? a b c d with
                            | none => none
                            | some low =>
                                if isLowSurrogate low then
                                  (readString after).map fun (chars, rest) =>
                                    (Char.ofNat (0x10000 + (code - 0xd800) * 1024 + (low - 0xdc00))
                                      :: chars, rest)
                                else
                                  lone.bind fun stand =>
                                    (readString ('\\' :: 'u' :: a :: b :: c :: d :: after)).map
                                      fun (chars, rest) => (stand :: chars, rest)
                        | rest =>
                            lone.bind fun c =>
                              (readString rest).map fun (chars, rest) => (c :: chars, rest)
                      else if isLowSurrogate code then
                        lone.bind fun c =>
                          (readString rest).map fun (chars, rest) => (c :: chars, rest)
                      else (readString rest).map fun (chars, rest) =>
                        (Char.ofNat code :: chars, rest)
              | _ => none
            else
              match shortEscape? escape with
              | none => none
              | some c => (readString rest).map fun (chars, rest) => (c :: chars, rest)
      else if c.toNat < 32 then none
      else (readString rest).map fun (chars, rest) => (c :: chars, rest)

/-- The longest run of digits. -/
def readDigits (chars : List Char) : List Char × List Char :=
  (chars.takeWhile Text.isDigit, chars.dropWhile Text.isDigit)

/-- The digits of a fraction, with its point. -/
def readFraction : List Char → List Char × List Char
  | '.' :: rest =>
      match readDigits rest with
      | ([], _) => ([], '.' :: rest)
      | (digits, rest) => ('.' :: digits, rest)
  | chars => ([], chars)

/-- The digits of an exponent, with its letter and sign. -/
def readExponent : List Char → List Char × List Char
  | [] => ([], [])
  | letter :: rest =>
      if letter = 'e' ∨ letter = 'E' then
        let (sign, afterSign) :=
          match rest with
          | '+' :: rest => (['+'], rest)
          | '-' :: rest => (['-'], rest)
          | _ => ([], rest)
        match readDigits afterSign with
        | ([], _) => ([], letter :: rest)
        | (digits, rest) => (letter :: sign ++ digits, rest)
      else ([], letter :: rest)

/-- A number without its sign. A zero ends the integer part. -/
def readMagnitude (negative : Bool) (chars : List Char) : Option (Json × List Char) :=
  let (digits, rest) :=
    match chars with
    | '0' :: rest => (['0'], rest)
    | chars => readDigits chars
  match Text.digitsValue digits with
  | none => none
  | some value =>
      let (fraction, rest) := readFraction rest
      let (exponent, rest) := readExponent rest
      if fraction = [] ∧ exponent = [] then
        some (.int (if negative then -(value : Int) else value), rest)
      else
        some (.real (String.ofList
          ((if negative then ['-'] else []) ++ digits ++ fraction ++ exponent)), rest)

/-- A constant or a number. -/
def readScalar (chars : List Char) : Option (Json × List Char) :=
  match chars with
  | 'n' :: 'u' :: 'l' :: 'l' :: rest => some (.null, rest)
  | 't' :: 'r' :: 'u' :: 'e' :: rest => some (.bool true, rest)
  | 'f' :: 'a' :: 'l' :: 's' :: 'e' :: rest => some (.bool false, rest)
  | 'N' :: 'a' :: 'N' :: rest => some (.real "NaN", rest)
  | 'I' :: 'n' :: 'f' :: 'i' :: 'n' :: 'i' :: 't' :: 'y' :: rest => some (.real "Infinity", rest)
  | '-' :: 'I' :: 'n' :: 'f' :: 'i' :: 'n' :: 'i' :: 't' :: 'y' :: rest =>
      some (.real "-Infinity", rest)
  | '-' :: rest => readMagnitude true rest
  | _ => readMagnitude false chars

mutual

/-- A value, of as many parts as the fuel. -/
def read : Nat → List Char → Option (Json × List Char)
  | 0, _ => none
  | _ + 1, [] => none
  | fuel + 1, c :: rest =>
      if c = '"' then
        (readString lone rest).map fun (chars, rest) => (.string (String.ofList chars), rest)
      else if c = '[' then
        match skipBlanks rest with
        | ']' :: rest => some (.array [], rest)
        | rest => (readItems fuel rest).map fun (items, rest) => (.array items, rest)
      else if c = '\x7b' then
        match skipBlanks rest with
        | '\x7d' :: rest => some (.object [], rest)
        | rest => (readFields fuel rest).map fun (fields, rest) => (.object fields, rest)
      else readScalar (c :: rest)

/-- The items of an array that is not empty, and its end. -/
def readItems : Nat → List Char → Option (List Json × List Char)
  | 0, _ => none
  | fuel + 1, chars =>
      match read fuel chars with
      | none => none
      | some (item, rest) =>
          match skipBlanks rest with
          | ',' :: rest =>
              (readItems fuel (skipBlanks rest)).map fun (items, rest) => (item :: items, rest)
          | ']' :: rest => some ([item], rest)
          | _ => none

/-- The fields of an object that is not empty, and its end. -/
def readFields : Nat → List Char → Option (List (String × Json) × List Char)
  | 0, _ => none
  | fuel + 1, chars =>
      match chars with
      | '"' :: rest =>
          match readString lone rest with
          | none => none
          | some (key, rest) =>
              match skipBlanks rest with
              | ':' :: rest =>
                  match read fuel (skipBlanks rest) with
                  | none => none
                  | some (value, rest) =>
                      match skipBlanks rest with
                      | ',' :: rest =>
                          (readFields fuel (skipBlanks rest)).map fun (fields, rest) =>
                            ((String.ofList key, value) :: fields, rest)
                      | '\x7d' :: rest => some ([(String.ofList key, value)], rest)
                      | _ => none
              | _ => none
      | _ => none

end

/-- `json.loads` with that character for a surrogate that is alone; `none` stands for its
`JSONDecodeError`. The limits of the interpreter on the digits of a number and on the depth of a
value are left out. -/
def loadsWith (text : String) : Option Json :=
  let chars := skipBlanks text.toList
  match read lone (chars.length + 1) chars with
  | some (value, rest) => if skipBlanks rest = [] then some value else none
  | none => none

/-- `json.loads` of a text of characters: one with a surrogate that is alone is refused. -/
def loads (text : String) : Option Json := loadsWith none text

end Reading

section RoundTrip

variable {lone : Option Char}

/-- Digits that a number can have after a point or in its exponent. -/
def IsDigits (chars : List Char) : Prop := chars ≠ [] ∧ ∀ c ∈ chars, Text.isDigit c = true

def IsFraction (chars : List Char) : Prop :=
  chars = [] ∨ ∃ digits, IsDigits digits ∧ chars = '.' :: digits

def IsExponent (chars : List Char) : Prop :=
  chars = [] ∨ ∃ sign ∈ [[], ['+'], ['-']], ∃ digits, IsDigits digits ∧
    chars = 'e' :: sign ++ digits

/-- The literals of the numbers that are no integers, as `repr` writes a float. -/
inductive RealLiteral : String → Prop where
  | nan : RealLiteral "NaN"
  | infinity : RealLiteral "Infinity"
  | negativeInfinity : RealLiteral "-Infinity"
  | decimal (negative : Bool) (whole : Nat) {fraction exponent : List Char}
      (isFraction : IsFraction fraction) (isExponent : IsExponent exponent)
      (noInteger : ¬ (fraction = [] ∧ exponent = [])) :
      RealLiteral (String.ofList ((if negative then ['-'] else []) ++ Nat.toDigits 10 whole ++
        fraction ++ exponent))

/-- A value whose numbers have the texts that `json.dumps` writes for numbers. -/
inductive Exact : Json → Prop where
  | null : Exact .null
  | bool (value : Bool) : Exact (.bool value)
  | int (value : Int) : Exact (.int value)
  | real {literal : String} (isReal : RealLiteral literal) : Exact (.real literal)
  | string (value : String) : Exact (.string value)
  | array {items : List Json} (each : ∀ item ∈ items, Exact item) : Exact (.array items)
  | object {fields : List (String × Json)} (each : ∀ field ∈ fields, Exact field.2) :
      Exact (.object fields)

private theorem hexDigit?_digitChar :
    ∀ digit < 16, hexDigit? (Nat.digitChar digit) = some digit := by
  decide

private theorem readString_cons {c : Char} (notQuote : c ≠ '"') (notBackslash : c ≠ '\\')
    (printable : 32 ≤ c.toNat) (rest : List Char) :
    readString lone (c :: rest) = (readString lone rest).map fun (chars, rest) => (c :: chars, rest) := by
  conv_lhs => rw [readString.eq_def]
  dsimp only
  rw [if_neg notQuote, if_neg notBackslash, if_neg (by omega)]

private theorem readString_short {short c : Char} (notUnicode : short ≠ 'u')
    (known : shortEscape? short = some c) (rest : List Char) :
    readString lone ('\\' :: short :: rest) =
      (readString lone rest).map fun (chars, rest) => (c :: chars, rest) := by
  conv_lhs => rw [readString.eq_def]
  dsimp only
  rw [if_neg (by decide), if_pos rfl, if_neg notUnicode, known]

private theorem readString_control {c : Char} (control : c.toNat < 32) (rest : List Char) :
    readString lone ('\\' :: 'u' :: '0' :: '0' :: Nat.digitChar (c.toNat / 16) ::
        Nat.digitChar (c.toNat % 16) :: rest) =
      (readString lone rest).map fun (chars, rest) => (c :: chars, rest) := by
  have code : hexCode? '0' '0' (Nat.digitChar (c.toNat / 16)) (Nat.digitChar (c.toNat % 16)) =
      some c.toNat := by
    rw [hexCode?, hexDigit?_digitChar _ (by omega), hexDigit?_digitChar _ (by omega)]
    have zero : hexDigit? '0' = some 0 := by decide
    simp only [zero, Option.bind_eq_bind, Option.bind_some, Option.some.injEq]
    omega
  conv_lhs => rw [readString.eq_def]
  dsimp only
  rw [if_neg (by decide), if_pos rfl, if_pos rfl, code]
  dsimp only
  have notHigh : isHighSurrogate c.toNat = false := by
    simp only [isHighSurrogate, decide_eq_false_iff_not]
    omega
  have notLow : isLowSurrogate c.toNat = false := by
    simp only [isLowSurrogate, decide_eq_false_iff_not]
    omega
  simp [notHigh, notLow, Char.ofNat_toNat]

/-- An escaped character is read back. -/
theorem readString_escapeChar (c : Char) (rest : List Char) :
    readString lone (escapeChar c ++ rest) =
      (readString lone rest).map fun (chars, rest) => (c :: chars, rest) := by
  unfold escapeChar
  cases known : shortEscapes.lookup c with
  | some short =>
      have listed : (c, short) ∈ shortEscapes := by
        obtain ⟨before, after, isList, -⟩ := List.lookup_eq_some_iff.mp known
        rw [isList]
        simp
      have reads : ∀ pair ∈ shortEscapes, pair.2 ≠ 'u' ∧ shortEscape? pair.2 = some pair.1 := by
        decide
      obtain ⟨notUnicode, isShort⟩ := reads _ listed
      exact readString_short notUnicode isShort rest
  | none =>
      have notListed : ∀ pair ∈ shortEscapes, c ≠ pair.1 := by
        simpa [List.lookup_eq_none_iff] using known
      dsimp only
      by_cases control : c.toNat < 32
      · rw [if_pos control]
        exact readString_control control rest
      · rw [if_neg control]
        exact readString_cons (notListed ('"', '"') (by decide)) (notListed ('\\', '\\') (by decide))
          (by omega) rest

private theorem readString_quote (text rest : List Char) :
    readString lone (text.flatMap escapeChar ++ '"' :: rest) = some (text, rest) := by
  induction text with
  | nil =>
      rw [List.flatMap_nil, List.nil_append, readString.eq_def]
      exact if_pos rfl
  | cons c text ih =>
      rw [List.flatMap_cons, List.append_assoc, readString_escapeChar, ih]
      rfl

/-- What may follow a number: nothing that continues it. -/
def EndsNumber (rest : List Char) : Prop :=
  ∀ c ∈ rest.head?, Text.isDigit c = false ∧ c ≠ '.' ∧ c ≠ 'e' ∧ c ≠ 'E'

private theorem readDigits_append {digits rest : List Char}
    (each : ∀ c ∈ digits, Text.isDigit c = true) (ends : ∀ c ∈ rest.head?, Text.isDigit c = false) :
    readDigits (digits ++ rest) = (digits, rest) := by
  have stops : rest.takeWhile Text.isDigit = [] ∧ rest.dropWhile Text.isDigit = rest := by
    cases rest with
    | nil => exact ⟨rfl, rfl⟩
    | cons c rest =>
        have isEnd := ends c rfl
        simp [isEnd]
  rw [readDigits, List.takeWhile_append_of_pos each, List.dropWhile_append_of_pos each, stops.1,
    stops.2, List.append_nil]

private theorem head?_toDigits {value : Nat} (positive : 0 < value) :
    (Nat.toDigits 10 value).head? ≠ some '0' := by
  have ofDigit : ∀ digit < 10, 0 < digit → Nat.digitChar digit ≠ '0' := by decide
  induction value using Nat.strong_induction_on with
  | h value ih =>
      by_cases small : value < 10
      · rw [Nat.toDigits_of_lt_base small]
        simpa using ofDigit value small positive
      · have nonempty : Nat.toDigits 10 (value / 10) ≠ [] := (Text.digits_toDigits _).1
        rw [Nat.toDigits_of_base_le (by omega) (by omega), List.head?_append_of_ne_nil _ nonempty]
        exact ih (value / 10) (by omega) (by omega)

/-- Past the digits of a whole number. -/
def EndsDigits (rest : List Char) : Prop := ∀ c ∈ rest.head?, Text.isDigit c = false

private theorem EndsNumber.endsDigits {rest : List Char} (ends : EndsNumber rest) :
    EndsDigits rest :=
  fun c isHead => (ends c isHead).1

private theorem readFraction_append {fraction rest : List Char} (isFraction : IsFraction fraction)
    (ends : EndsDigits rest) (noPoint : ∀ c ∈ rest.head?, c ≠ '.') :
    readFraction (fraction ++ rest) = (fraction, rest) := by
  obtain rfl | ⟨digits, ⟨nonempty, each⟩, rfl⟩ := isFraction
  · cases rest with
    | nil => rfl
    | cons c rest =>
        rw [List.nil_append]
        unfold readFraction
        split
        · rename_i isPoint
          exact absurd (List.cons.inj isPoint).1 (noPoint c rfl)
        · rfl
  · rw [List.cons_append, readFraction]
    split
    · rename_i noDigits
      rw [readDigits_append each ends] at noDigits
      exact absurd (Prod.mk.inj noDigits).1 nonempty
    · rename_i digits' rest' _ isRun
      rw [readDigits_append each ends] at isRun
      cases isRun
      rfl

private theorem readExponent_append {exponent rest : List Char} (isExponent : IsExponent exponent)
    (ends : EndsNumber rest) : readExponent (exponent ++ rest) = (exponent, rest) := by
  obtain rfl | ⟨sign, isSign, digits, ⟨nonempty, each⟩, rfl⟩ := isExponent
  · cases rest with
    | nil => rfl
    | cons c rest =>
        obtain ⟨-, -, notLower, notUpper⟩ := ends c rfl
        rw [List.nil_append, readExponent.eq_def]
        dsimp only
        rw [if_neg (by simp [notLower, notUpper])]
  · obtain ⟨digit, others, rfl⟩ := List.exists_cons_of_ne_nil nonempty
    have isDigit := each digit List.mem_cons_self
    have noSign : digit ≠ '+' ∧ digit ≠ '-' := by
      constructor <;> intro isSign <;> subst isSign <;> cases isDigit
    have isRun := readDigits_append each ends.endsDigits
    rw [List.cons_append] at isRun
    have unsigned : (match digit :: (others ++ rest) with
        | '+' :: rest => (['+'], rest)
        | '-' :: rest => (['-'], rest)
        | _ => ([], digit :: (others ++ rest))) = ([], digit :: (others ++ rest)) := by
      split
      · rename_i isPlus
        exact absurd (List.cons.inj isPlus).1 noSign.1
      · rename_i isMinus
        exact absurd (List.cons.inj isMinus).1 noSign.2
      · rfl
    rw [List.cons_append, List.cons_append, readExponent.eq_def]
    dsimp only
    rw [if_pos (.inl rfl)]
    simp only [List.mem_cons, List.not_mem_nil, or_false] at isSign
    obtain rfl | rfl | rfl := isSign
    · simp only [List.nil_append, List.cons_append]
      rw [unsigned, isRun]
      rfl
    all_goals
      simp only [List.cons_append, List.nil_append]
      rw [isRun]

private theorem endsDigits_exponent {exponent rest : List Char} (isExponent : IsExponent exponent)
    (ends : EndsNumber rest) :
    EndsDigits (exponent ++ rest) ∧ ∀ c ∈ (exponent ++ rest).head?, c ≠ '.' := by
  obtain rfl | ⟨sign, -, digits, -, rfl⟩ := isExponent
  · exact ⟨ends.endsDigits, fun c isHead => (ends c isHead).2.1⟩
  · constructor
    · intro c isHead
      cases isHead
      rfl
    · intro c isHead
      cases isHead
      decide

private theorem endsDigits_fraction {fraction rest : List Char} (isFraction : IsFraction fraction)
    (ends : EndsDigits rest) : EndsDigits (fraction ++ rest) := by
  obtain rfl | ⟨digits, -, rfl⟩ := isFraction
  · exact ends
  · intro c isHead
    cases isHead
    rfl

/-- A number is read as it was written: an integer when it has no fraction and no exponent. -/
theorem readMagnitude_append (negative : Bool) (value : Nat) {fraction exponent rest : List Char}
    (isFraction : IsFraction fraction) (isExponent : IsExponent exponent)
    (ends : EndsNumber rest) :
    readMagnitude negative (Nat.toDigits 10 value ++ (fraction ++ (exponent ++ rest))) =
      some (if fraction = [] ∧ exponent = [] then
          .int (if negative then -(value : Int) else value)
        else .real (String.ofList ((if negative then ['-'] else []) ++ Nat.toDigits 10 value ++
          fraction ++ exponent)), rest) := by
  obtain ⟨endsExponent, noPoint⟩ := endsDigits_exponent isExponent ends
  have endsWhole := endsDigits_fraction isFraction endsExponent
  obtain ⟨nonempty, each, -⟩ := Text.digits_toDigits value
  have parts : (match Nat.toDigits 10 value ++ (fraction ++ (exponent ++ rest)) with
      | '0' :: rest => (['0'], rest)
      | chars => readDigits chars) = (Nat.toDigits 10 value, fraction ++ (exponent ++ rest)) := by
    by_cases zero : value = 0
    · rw [zero]
      rfl
    · have notZero := head?_toDigits (Nat.pos_of_ne_zero zero)
      split
      · rename_i others isZero
        rw [← List.head?_append_of_ne_nil _ nonempty, isZero] at notZero
        exact absurd rfl notZero
      · exact readDigits_append (List.all_eq_true.mp each) endsWhole
  unfold readMagnitude
  rw [parts]
  dsimp only
  rw [Text.digitsValue_toDigits]
  dsimp only
  rw [readFraction_append isFraction endsExponent noPoint]
  dsimp only
  rw [readExponent_append isExponent ends]
  dsimp only
  split_ifs <;> rfl

private theorem readMagnitude_toDigits (negative : Bool) (value : Nat) {rest : List Char}
    (ends : EndsNumber rest) :
    readMagnitude negative (Nat.toDigits 10 value ++ rest) =
      some (.int (if negative then -(value : Int) else value), rest) :=
  readMagnitude_append negative value (.inl rfl) (.inl rfl) ends

private theorem skipBlanks_cons {c : Char} (visible : isBlank c = false) (rest : List Char) :
    skipBlanks (c :: rest) = c :: rest := by
  simp [skipBlanks, visible]

/-- A number starts with a digit or a sign. -/
theorem write_int (value : Int) : ∃ c rest, write (.int value) = c :: rest ∧
    (Text.isDigit c = true ∨ c = '-') := by
  cases value with
  | ofNat value =>
      obtain ⟨nonempty, each, -⟩ := Text.digits_toDigits value
      obtain ⟨c, rest, isList⟩ := List.exists_cons_of_ne_nil nonempty
      refine ⟨c, rest, isList, .inl (List.all_eq_true.mp each c ?_)⟩
      simp [isList]
  | negSucc value => exact ⟨'-', _, rfl, .inr rfl⟩

/-- A number that is no integer starts with a digit, a sign or a capital letter. -/
theorem write_real {literal : String} (isReal : RealLiteral literal) :
    ∃ c rest, write (.real literal) = c :: rest ∧ (Text.isDigit c = true ∨ c ∈ ['-', 'N', 'I']) := by
  cases isReal with
  | nan => exact ⟨'N', _, rfl, .inr (by decide)⟩
  | infinity => exact ⟨'I', _, rfl, .inr (by decide)⟩
  | negativeInfinity => exact ⟨'-', _, rfl, .inr (by decide)⟩
  | decimal negative whole isFraction isExponent noInteger =>
      obtain ⟨nonempty, each, -⟩ := Text.digits_toDigits whole
      obtain ⟨c, others, isList⟩ := List.exists_cons_of_ne_nil nonempty
      rw [write, String.toList_ofList, isList]
      cases negative with
      | false => exact ⟨c, _, rfl, .inl (List.all_eq_true.mp each c (by simp [isList]))⟩
      | true => exact ⟨'-', _, rfl, .inr (by decide)⟩

private theorem visible_of_number {c : Char}
    (starts : Text.isDigit c = true ∨ c ∈ ['-', 'N', 'I']) :
    isBlank c = false ∧ c ∉ ['"', '[', ']', '\x7b'] := by
  obtain digit | letter := starts
  · have others : ∀ c ∈ [' ', '\t', '\n', '\r', '"', '[', ']', '\x7b'], Text.isDigit c = false := by
      decide
    constructor
    · by_contra blank
      have isSpace : c ∈ [' ', '\t', '\n', '\r'] :=
        of_decide_eq_true (Bool.not_eq_false _ ▸ blank)
      rw [others c (List.mem_append_left ['"', '[', ']', '\x7b'] isSpace)] at digit
      cases digit
    · intro structural
      rw [others c (List.mem_append_right [' ', '\t', '\n', '\r'] structural)] at digit
      cases digit
  · have each : ∀ c ∈ ['-', 'N', 'I'], isBlank c = false ∧ c ∉ ['"', '[', ']', '\x7b'] := by decide
    exact each c letter

/-- Where a value starts, no blank and no closing bracket stands. -/
theorem write_head {value : Json} (exact : Exact value) : ∃ c rest, write value = c :: rest ∧
    isBlank c = false ∧ c ≠ ']' := by
  cases exact with
  | null => exact ⟨'n', _, rfl, by decide, by decide⟩
  | bool value => cases value <;> exact ⟨_, _, rfl, by decide, by decide⟩
  | int value =>
      obtain ⟨c, rest, isList, starts⟩ := write_int value
      obtain ⟨visible, noBracket⟩ := visible_of_number (starts.imp_right (by simp [·]))
      exact ⟨c, rest, isList, visible, by simp at noBracket; exact noBracket.2.2.1⟩
  | real isReal =>
      obtain ⟨c, rest, isList, starts⟩ := write_real isReal
      obtain ⟨visible, noBracket⟩ := visible_of_number starts
      exact ⟨c, rest, isList, visible, by simp at noBracket; exact noBracket.2.2.1⟩
  | string value => exact ⟨'"', _, rfl, by decide, by decide⟩
  | array each =>
      rename_i items
      cases items <;> exact ⟨'[', _, rfl, by decide, by decide⟩
  | object each =>
      rename_i fields
      cases fields <;> exact ⟨'\x7b', _, rfl, by decide, by decide⟩

private theorem skipBlanks_write {value : Json} (exact : Exact value) (rest : List Char) :
    skipBlanks (write value ++ rest) = write value ++ rest := by
  obtain ⟨c, others, isList, visible, -⟩ := write_head exact
  rw [isList, List.cons_append, skipBlanks_cons visible]

/-- The value is read back from its text, whatever follows. -/
def ReadsBack (lone : Option Char) (value : Json) : Prop :=
  ∀ fuel rest, value.write.length ≤ fuel → EndsNumber rest →
    read lone fuel (value.write ++ rest) = some (value, rest)

/-- A number is no constant. -/
theorem readScalar_toDigits (value : Nat) (rest : List Char) :
    readScalar (Nat.toDigits 10 value ++ rest) = readMagnitude false (Nat.toDigits 10 value ++ rest) ∧
      readScalar ('-' :: (Nat.toDigits 10 value ++ rest)) =
        readMagnitude true (Nat.toDigits 10 value ++ rest) := by
  obtain ⟨nonempty, each, -⟩ := Text.digits_toDigits value
  obtain ⟨c, others, isList⟩ := List.exists_cons_of_ne_nil nonempty
  have digit : Text.isDigit c = true := List.all_eq_true.mp each c (by simp [isList])
  have differs : ∀ letter ∈ ['n', 't', 'f', 'N', 'I', '-'], c ≠ letter := by
    have letters : ∀ c ∈ ['n', 't', 'f', 'N', 'I', '-'], Text.isDigit c = false := by decide
    intro letter listed isLetter
    rw [isLetter, letters letter listed] at digit
    cases digit
  rw [isList, List.cons_append]
  constructor
  · unfold readScalar
    split <;> first
      | rfl
      | (rename_i isText; exact absurd (List.cons.inj isText).1 (differs _ (by decide)))
  · unfold readScalar
    split <;> simp_all

private theorem readScalar_write_int (value : Int) {rest : List Char} (ends : EndsNumber rest) :
    readScalar (write (.int value) ++ rest) = some (.int value, rest) := by
  cases value with
  | ofNat value =>
      rw [write, (readScalar_toDigits value rest).1]
      exact readMagnitude_toDigits false value ends
  | negSucc value =>
      rw [write, List.cons_append, (readScalar_toDigits (value + 1) rest).2,
        readMagnitude_toDigits true (value + 1) ends]
      rfl

private theorem readScalar_write_real {literal : String} (isReal : RealLiteral literal)
    {rest : List Char} (ends : EndsNumber rest) :
    readScalar (write (.real literal) ++ rest) = some (.real literal, rest) := by
  cases isReal with
  | nan => rfl
  | infinity => rfl
  | negativeInfinity => rfl
  | decimal negative whole isFraction isExponent noInteger =>
      have isNumber := readMagnitude_append negative whole isFraction isExponent ends
      rw [if_neg noInteger] at isNumber
      rw [write, String.toList_ofList, ← isNumber]
      cases negative with
      | false =>
          simp only [Bool.false_eq_true, if_false, List.nil_append, List.append_assoc]
          exact (readScalar_toDigits whole _).1
      | true =>
          simp only [if_true, List.cons_append, List.nil_append, List.append_assoc]
          exact (readScalar_toDigits whole _).2

private theorem endsNumber_of_structural {c : Char} (structural : c ∈ [',', ']', '\x7d'])
    (rest : List Char) : EndsNumber (c :: rest) := by
  have each : ∀ c ∈ [',', ']', '\x7d'],
      Text.isDigit c = false ∧ c ≠ '.' ∧ c ≠ 'e' ∧ c ≠ 'E' := by decide
  rintro other isHead
  cases isHead
  exact each c structural

/-- What follows an item: the end of the array or the next item. -/
theorem endsNumber_writeItems (items : List Json) (rest : List Char) :
    EndsNumber (writeItems items ++ rest) := by
  cases items with
  | nil => exact endsNumber_of_structural (by decide) _
  | cons item items => exact endsNumber_of_structural (by decide) _

private theorem endsNumber_writeFields (fields : List (String × Json)) (rest : List Char) :
    EndsNumber (writeFields fields ++ rest) := by
  cases fields with
  | nil => exact endsNumber_of_structural (by decide) _
  | cons field fields => exact endsNumber_of_structural (by decide) _

section Steps

variable {fuel : Nat} {chars rest after : List Char} {item value : Json}

private theorem readItems_next (first : read lone fuel chars = some (item, ',' :: rest)) :
    readItems lone (fuel + 1) chars = (readItems lone fuel (skipBlanks rest)).map
      fun (items, rest) => (item :: items, rest) := by
  rw [readItems, first]
  dsimp only
  rw [skipBlanks_cons (by decide)]
  rfl

private theorem readItems_last (first : read lone fuel chars = some (item, ']' :: rest)) :
    readItems lone (fuel + 1) chars = some ([item], rest) := by
  rw [readItems, first]
  dsimp only
  rw [skipBlanks_cons (by decide)]
  rfl

private theorem readFields_next {key : List Char}
    (isKey : readString lone chars = some (key, ':' :: rest))
    (isValue : read lone fuel (skipBlanks rest) = some (value, ',' :: after)) :
    readFields lone (fuel + 1) ('"' :: chars) = (readFields lone fuel (skipBlanks after)).map
      fun (fields, rest) => ((String.ofList key, value) :: fields, rest) := by
  rw [readFields]
  simp only [isKey, skipBlanks_cons (show isBlank ':' = false by decide), isValue,
    skipBlanks_cons (show isBlank ',' = false by decide)]

private theorem readFields_last {key : List Char}
    (isKey : readString lone chars = some (key, ':' :: rest))
    (isValue : read lone fuel (skipBlanks rest) = some (value, '\x7d' :: after)) :
    readFields lone (fuel + 1) ('"' :: chars) = some ([(String.ofList key, value)], after) := by
  rw [readFields]
  simp only [isKey, skipBlanks_cons (show isBlank ':' = false by decide), isValue,
    skipBlanks_cons (show isBlank '\x7d' = false by decide)]

end Steps

/-- The items of an array are read back when each of them is. -/
theorem readItems_write (items : List Json) (each : ∀ item ∈ items, Exact item ∧ ReadsBack lone item)
    {item : Json} (reads : ReadsBack lone item) (fuel : Nat) (rest : List Char)
    (enough : (write item ++ writeItems items).length ≤ fuel) :
    readItems lone fuel (write item ++ (writeItems items ++ rest)) = some (item :: items, rest) := by
  induction items generalizing item fuel with
  | nil =>
      simp only [writeItems, List.length_append, List.length_singleton] at enough
      obtain ⟨fuel, rfl⟩ : ∃ less, fuel = less + 1 := ⟨fuel - 1, by omega⟩
      exact readItems_last (reads fuel _ (by omega) (endsNumber_writeItems [] rest))
  | cons next items ih =>
      simp only [writeItems, List.length_append, List.length_cons] at enough
      obtain ⟨fuel, rfl⟩ : ∃ less, fuel = less + 1 := ⟨fuel - 1, by omega⟩
      obtain ⟨exact, readsNext⟩ := each next (by simp)
      have later := ih (fun other listed => each other (by simp [listed])) readsNext fuel
        (by simp only [List.length_append]; omega)
      have first : read lone fuel (write item ++ (writeItems (next :: items) ++ rest)) =
          some (item, ',' :: (write next ++ (writeItems items ++ rest))) := by
        rw [reads fuel _ (by omega) (endsNumber_writeItems (next :: items) rest)]
        simp [writeItems]
      rw [readItems_next first, skipBlanks_write exact, later]
      rfl

/-- The fields of an object are read back when each of their values is. -/
theorem readFields_write (fields : List (String × Json))
    (each : ∀ field ∈ fields, Exact field.2 ∧ ReadsBack lone field.2) (key : String) {value : Json}
    (exact : Exact value) (reads : ReadsBack lone value) (fuel : Nat) (rest : List Char)
    (enough : (writeField (key, value) ++ writeFields fields).length ≤ fuel) :
    readFields lone fuel (writeField (key, value) ++ (writeFields fields ++ rest)) =
      some ((key, value) :: fields, rest) := by
  have start : ∀ after, writeField (key, value) ++ after =
      '"' :: (key.toList.flatMap escapeChar ++ '"' :: ':' :: (write value ++ after)) := by
    simp [writeField, quote]
  induction fields generalizing key value fuel with
  | nil =>
      simp only [writeField, writeFields, quote, List.length_append, List.length_cons] at enough
      obtain ⟨fuel, rfl⟩ : ∃ less, fuel = less + 1 := ⟨fuel - 1, by omega⟩
      have isValue := reads fuel _ (by omega) (endsNumber_writeFields [] rest)
      rw [start, readFields_last (readString_quote _ _) ((skipBlanks_write exact _).symm ▸ isValue)]
      simp
  | cons next fields ih =>
      obtain ⟨nextKey, nextValue⟩ := next
      simp only [writeField, writeFields, quote, List.length_append, List.length_cons] at enough
      obtain ⟨fuel, rfl⟩ : ∃ less, fuel = less + 1 := ⟨fuel - 1, by omega⟩
      obtain ⟨nextExact, readsNext⟩ := each (nextKey, nextValue) (by simp)
      have later := ih (fun other listed => each other (by simp [listed])) nextKey nextExact
        readsNext fuel (by simp only [writeField, quote, List.length_append, List.length_cons]; omega)
          (by simp [writeField, quote])
      have isValue : read lone fuel (skipBlanks (write value ++
          (writeFields ((nextKey, nextValue) :: fields) ++ rest))) =
            some (value, ',' :: (writeField (nextKey, nextValue) ++ (writeFields fields ++ rest))) := by
        rw [skipBlanks_write exact, reads fuel _ (by omega)
          (endsNumber_writeFields ((nextKey, nextValue) :: fields) rest)]
        simp [writeFields]
      have visible : skipBlanks (writeField (nextKey, nextValue) ++ (writeFields fields ++ rest)) =
          writeField (nextKey, nextValue) ++ (writeFields fields ++ rest) :=
        skipBlanks_cons (by decide) _
      rw [start, readFields_next (readString_quote _ _) isValue, visible, later]
      simp

/-- A text that starts with none of these characters is read as a scalar. -/
theorem read_scalar {c : Char} (notQuote : c ≠ '"') (notArray : c ≠ '[') (notObject : c ≠ '\x7b')
    (fuel : Nat) (rest : List Char) : read lone (fuel + 1) (c :: rest) = readScalar (c :: rest) := by
  rw [read, if_neg notQuote, if_neg notArray, if_neg notObject]

private theorem readsBack_scalar {value : Json} {c : Char} {others : List Char}
    (isList : write value = c :: others) (starts : c ∉ ['"', '[', '\x7b'])
    (isRead : ∀ rest, EndsNumber rest → readScalar (write value ++ rest) = some (value, rest)) :
    ReadsBack lone value := by
  intro fuel rest enough ends
  obtain ⟨fuel, rfl⟩ : ∃ less, fuel = less + 1 := ⟨fuel - 1, by simp [isList] at enough; omega⟩
  simp only [List.mem_cons, List.not_mem_nil, or_false, not_or] at starts
  rw [← isRead rest ends, isList, List.cons_append]
  exact read_scalar starts.1 starts.2.1 starts.2.2 _ _

private theorem readsBack_array {items : List Json}
    (each : ∀ item ∈ items, Exact item ∧ ReadsBack lone item) : ReadsBack lone (.array items) := by
  intro fuel rest enough ends
  cases items with
  | nil =>
      obtain ⟨fuel, rfl⟩ : ∃ less, fuel = less + 1 := ⟨fuel - 1, by simp [write] at enough; omega⟩
      rw [write, List.cons_append, List.singleton_append, read, if_neg (by decide), if_pos rfl,
        skipBlanks_cons (by decide)]
      rfl
  | cons item items =>
      obtain ⟨⟨exact, reads⟩, later⟩ := List.forall_mem_cons.mp each
      simp only [write, List.length_cons, List.length_append] at enough
      obtain ⟨fuel, rfl⟩ : ∃ less, fuel = less + 1 := ⟨fuel - 1, by omega⟩
      have inner := readItems_write items later reads fuel rest
        (by simp only [List.length_append]; omega)
      obtain ⟨c, others, isList, visible, notEnd⟩ := write_head exact
      rw [write, List.cons_append, List.cons_append, List.append_assoc, read,
        if_neg (by decide), if_pos rfl, skipBlanks_write exact]
      split
      · rename_i isEnd
        rw [isList, List.cons_append] at isEnd
        exact absurd (List.cons.inj isEnd).1 notEnd
      · rw [inner]
        rfl

private theorem readsBack_object {fields : List (String × Json)}
    (each : ∀ field ∈ fields, Exact field.2 ∧ ReadsBack lone field.2) :
    ReadsBack lone (.object fields) := by
  intro fuel rest enough ends
  cases fields with
  | nil =>
      obtain ⟨fuel, rfl⟩ : ∃ less, fuel = less + 1 := ⟨fuel - 1, by simp [write] at enough; omega⟩
      rw [write, List.cons_append, List.singleton_append, read, if_neg (by decide),
        if_neg (by decide), if_pos rfl, skipBlanks_cons (by decide)]
      rfl
  | cons field fields =>
      obtain ⟨key, value⟩ := field
      obtain ⟨⟨exact, reads⟩, later⟩ := List.forall_mem_cons.mp each
      simp only [write, List.length_cons, List.length_append] at enough
      obtain ⟨fuel, rfl⟩ : ∃ less, fuel = less + 1 := ⟨fuel - 1, by omega⟩
      have inner := readFields_write fields later key exact reads fuel rest
        (by simp only [List.length_append]; omega)
      have visible : skipBlanks (writeField (key, value) ++ (writeFields fields ++ rest)) =
          writeField (key, value) ++ (writeFields fields ++ rest) :=
        skipBlanks_cons (by decide) _
      rw [write, List.cons_append, List.cons_append, List.append_assoc, read,
        if_neg (by decide), if_neg (by decide), if_pos rfl, visible]
      split
      · rename_i isEnd
        exact absurd (List.cons.inj isEnd).1 (by decide)
      · rw [inner]
        rfl

/-- Every exact value is read back from its text. -/
theorem readsBack {value : Json} (exact : Exact value) : ReadsBack lone value := by
  induction exact with
  | null => exact readsBack_scalar rfl (by decide) fun _ _ => rfl
  | bool value =>
      cases value with
      | true => exact readsBack_scalar rfl (by decide) fun _ _ => rfl
      | false => exact readsBack_scalar rfl (by decide) fun _ _ => rfl
  | int value =>
      obtain ⟨c, others, isList, starts⟩ := write_int value
      obtain ⟨-, differs⟩ := visible_of_number (starts.imp_right (by simp [·]))
      exact readsBack_scalar isList (by simp_all) fun _ => readScalar_write_int value
  | real isReal =>
      obtain ⟨c, others, isList, starts⟩ := write_real isReal
      obtain ⟨-, differs⟩ := visible_of_number starts
      exact readsBack_scalar isList (by simp_all) fun _ => readScalar_write_real isReal
  | string value =>
      intro fuel rest enough ends
      obtain ⟨fuel, rfl⟩ : ∃ less, fuel = less + 1 :=
        ⟨fuel - 1, by simp [write, quote] at enough; omega⟩
      simp only [write, quote, List.cons_append, List.append_assoc, List.nil_append]
      rw [read, if_pos rfl, readString_quote]
      simp
  | array each ih => exact readsBack_array fun item listed => ⟨each item listed, ih item listed⟩
  | object each ih => exact readsBack_object fun field listed => ⟨each field listed, ih field listed⟩

private theorem endsNumber_of_isBlank {rest : List Char} (blank : ∀ c ∈ rest, isBlank c = true) :
    EndsNumber rest := by
  have each : ∀ c ∈ [' ', '\t', '\n', '\r'],
      Text.isDigit c = false ∧ c ≠ '.' ∧ c ≠ 'e' ∧ c ≠ 'E' := by decide
  intro c isHead
  exact each c (of_decide_eq_true (blank c (List.mem_of_mem_head? isHead)))

/-- A value is read back from its text, with blanks after it. -/
theorem loadsWith_write_append (lone : Option Char) {value : Json} (exact : Exact value)
    {rest : List Char} (blank : ∀ c ∈ rest, isBlank c = true) :
    loadsWith lone (String.ofList (value.write ++ rest)) = some value := by
  have whole : read lone _ (value.write ++ rest) = _ :=
    readsBack exact ((value.write ++ rest).length + 1) rest
      (by rw [List.length_append]; omega) (endsNumber_of_isBlank blank)
  have noRest : skipBlanks rest = [] := List.dropWhile_eq_nil_iff.mpr blank
  simp only [loadsWith, String.toList_ofList, skipBlanks_write exact, whole, noRest, if_true]

/-- **Round trip.** What `json.dumps` writes of an exact value, `json.loads` reads back. -/
theorem loadsWith_dumps (lone : Option Char) {value : Json} (exact : Exact value) :
    loadsWith lone value.dumps = some value := by
  have whole : loadsWith lone (String.ofList (value.write ++ [])) = some value :=
    loadsWith_write_append lone exact (by simp)
  rwa [List.append_nil] at whole

theorem loads_write_append {value : Json} (exact : Exact value) {rest : List Char}
    (blank : ∀ c ∈ rest, isBlank c = true) :
    loads (String.ofList (value.write ++ rest)) = some value :=
  loadsWith_write_append none exact blank

theorem loads_dumps {value : Json} (exact : Exact value) : loads value.dumps = some value :=
  loadsWith_dumps none exact

end RoundTrip

section Printable

/-- Characters that are no control characters. -/
def Printable (chars : List Char) : Prop := ∀ c ∈ chars, 32 ≤ c.toNat

instance (chars : List Char) : Decidable (Printable chars) := by
  unfold Printable
  infer_instance

theorem Printable.append {first second : List Char} (isFirst : Printable first)
    (isSecond : Printable second) : Printable (first ++ second) := by
  intro c inBoth
  obtain inFirst | inSecond := List.mem_append.mp inBoth
  · exact isFirst c inFirst
  · exact isSecond c inSecond

theorem Printable.cons {c : Char} {rest : List Char} (visible : 32 ≤ c.toNat)
    (isRest : Printable rest) : Printable (c :: rest) := by
  intro other inBoth
  obtain rfl | inRest := List.mem_cons.mp inBoth
  · exact visible
  · exact isRest other inRest

private theorem printable_of_digits {chars : List Char}
    (each : ∀ c ∈ chars, Text.isDigit c = true) : Printable chars := by
  intro c listed
  have isDigit := each c listed
  simp only [Text.isDigit, decide_eq_true_eq] at isDigit
  have least : '0'.toNat ≤ c.toNat := isDigit.1
  exact Nat.le_trans (by decide) least

private theorem printable_escapeChar (c : Char) : Printable (escapeChar c) := by
  have digits : ∀ digit < 16, 32 ≤ (Nat.digitChar digit).toNat := by decide
  have shorts : ∀ entry ∈ shortEscapes, 32 ≤ entry.2.toNat := by decide
  unfold escapeChar
  split
  · rename_i short known
    obtain ⟨before, after, isList, -⟩ := List.lookup_eq_some_iff.mp known
    have visible := shorts (c, short) (by rw [isList]; simp)
    exact .cons (by decide) (.cons visible (by simp [Printable]))
  · split_ifs with control
    · intro other listed
      simp only [List.mem_cons, List.not_mem_nil, or_false] at listed
      obtain rfl | rfl | rfl | rfl | rfl | rfl := listed
      any_goals decide
      · exact digits _ (by omega)
      · exact digits _ (by omega)
    · exact .cons (Nat.le_of_not_lt control) (by simp [Printable])

private theorem printable_quote (text : List Char) : Printable (quote text) := by
  have inner : Printable (text.flatMap escapeChar) := by
    intro c listed
    obtain ⟨source, -, isChar⟩ := List.mem_flatMap.mp listed
    exact printable_escapeChar source c isChar
  exact .cons (by decide) (inner.append (by simp [Printable]))

private theorem printable_real {literal : String} (isReal : RealLiteral literal) :
    Printable literal.toList := by
  have digits : ∀ {chars}, IsDigits chars → Printable chars := fun ⟨_, each⟩ =>
    printable_of_digits each
  cases isReal with
  | nan => decide
  | infinity => decide
  | negativeInfinity => decide
  | decimal negative whole isFraction isExponent noInteger =>
      rw [String.toList_ofList]
      refine .append (.append (.append ?_ ?_) ?_) ?_
      · cases negative <;> decide
      · exact printable_of_digits (List.all_eq_true.mp (Text.digits_toDigits whole).2.1)
      · obtain rfl | ⟨chars, areDigits, rfl⟩ := isFraction
        · simp [Printable]
        · exact .cons (by decide) (digits areDigits)
      · obtain rfl | ⟨sign, isSign, chars, areDigits, rfl⟩ := isExponent
        · simp [Printable]
        · have signs : ∀ sign ∈ [[], ['+'], ['-']], ∀ c ∈ sign, 32 ≤ c.toNat := by decide
          exact .cons (by decide) (.append (signs sign isSign) (digits areDigits))

private theorem printable_writeItems {items : List Json}
    (each : ∀ item ∈ items, Printable item.write) : Printable (writeItems items) := by
  induction items with
  | nil => simp [writeItems, Printable]
  | cons item items ih =>
      exact .cons (by decide) ((each item List.mem_cons_self).append
        (ih fun other listed => each other (List.mem_cons_of_mem _ listed)))

private theorem printable_writeField {key : String} {value : Json}
    (isValue : Printable value.write) : Printable (writeField (key, value)) :=
  (printable_quote _).append (.cons (by decide) isValue)

private theorem printable_writeFields {fields : List (String × Json)}
    (each : ∀ field ∈ fields, Printable field.2.write) : Printable (writeFields fields) := by
  induction fields with
  | nil => simp [writeFields, Printable]
  | cons field fields ih =>
      exact .cons (by decide) ((printable_writeField (each field List.mem_cons_self)).append
        (ih fun other listed => each other (List.mem_cons_of_mem _ listed)))

/-- What `json.dumps` writes stands on one line, without control characters. -/
theorem printable_write {value : Json} (exact : Exact value) : Printable value.write := by
  induction exact with
  | null => decide
  | bool value => cases value <;> decide
  | int value =>
      have digits : ∀ value, Printable (Nat.toDigits 10 value) := fun value =>
        printable_of_digits (List.all_eq_true.mp (Text.digits_toDigits value).2.1)
      cases value with
      | ofNat value => exact digits value
      | negSucc value => exact .cons (by decide) (digits (value + 1))
  | real isReal => exact printable_real isReal
  | string value => exact printable_quote value.toList
  | array each ih =>
      rename_i items
      cases items with
      | nil => simp [write, Printable]
      | cons item items =>
          exact .cons (by decide) ((ih item List.mem_cons_self).append
            (printable_writeItems fun other listed => ih other (List.mem_cons_of_mem _ listed)))
  | object each ih =>
      rename_i fields
      cases fields with
      | nil => simp [write, Printable]
      | cons field fields =>
          exact .cons (by decide) ((printable_writeField (ih field List.mem_cons_self)).append
            (printable_writeFields fun other listed => ih other (List.mem_cons_of_mem _ listed)))

theorem newline_notMem_dumps {value : Json} (exact : Exact value) : '\n' ∉ value.dumps.toList := by
  rw [dumps, String.toList_ofList]
  intro listed
  exact absurd (printable_write exact _ listed) (by decide)

end Printable

section Plain

/-- Characters that stand in a string as they are. -/
def Plain (text : List Char) : Prop := ∀ c ∈ text, escapeChar c = [c]

instance (text : List Char) : Decidable (Plain text) := by
  unfold Plain
  infer_instance

private theorem Plain.of_flatMap {chars : List Char} (plain : Plain chars) :
    chars.flatMap escapeChar = chars := by
  induction chars with
  | nil => rfl
  | cons c rest ih =>
      rw [List.flatMap_cons, plain c List.mem_cons_self,
        ih fun other listed => plain other (List.mem_cons_of_mem _ listed)]
      rfl

theorem Plain.quote_eq {text : List Char} (plain : Plain text) :
    quote text = '"' :: text ++ ['"'] := by
  rw [quote, plain.of_flatMap]

/-- An object with the keys and values it has. -/
theorem write_object (fields : List (String × Json)) :
    write (.object fields) = '\x7b' :: [','].intercalate (fields.map writeField) ++ ['\x7d'] := by
  have others : ∀ fields : List (String × Json),
      writeFields fields = fields.flatMap (',' :: writeField ·) ++ ['\x7d'] := by
    intro fields
    induction fields with
    | nil => simp [writeFields]
    | cons field fields ih => simp [writeFields, ih]
  have joined : ∀ (field : String × Json) (fields : List (String × Json)),
      [','].intercalate ((field :: fields).map writeField) =
        writeField field ++ fields.flatMap (',' :: writeField ·) := by
    intro field fields
    induction fields generalizing field with
    | nil => simp [List.intercalate]
    | cons next fields ih =>
        have later := ih next
        simp only [List.map_cons] at later ⊢
        rw [List.intercalate_cons_cons, later]
        simp
  cases fields with
  | nil => simp [write, List.intercalate]
  | cons field fields =>
      rw [write, joined, others]
      simp

theorem Plain.quote_notMem {text : List Char} (plain : Plain text) : '"' ∉ text := by
  intro listed
  exact absurd (plain _ listed) (by decide)

end Plain

section Beyond

variable {c : Char}

private theorem escapeChar_of_beyond (beyond : 128 ≤ c.toNat) : escapeChar c = [c] := by
  have ascii : ∀ entry ∈ shortEscapes, entry.1.toNat < 128 := by decide
  have unlisted : shortEscapes.lookup c = none := by
    rw [List.lookup_eq_none_iff]
    intro entry listed
    rw [bne_iff_ne]
    rintro rfl
    exact absurd (ascii entry listed) (Nat.not_lt.mpr beyond)
  rw [escapeChar, unlisted]
  exact if_neg (by omega)

private theorem ascii_of_mem_escapeChar {other : Char} (listed : c ∈ escapeChar other) :
    c = other ∨ c.toNat < 128 := by
  have escapes : ∀ entry ∈ shortEscapes, entry.2.toNat < 128 := by decide
  have digits : ∀ digit < 16, (Nat.digitChar digit).toNat < 128 := by decide
  unfold escapeChar at listed
  split at listed
  · rename_i short known
    obtain ⟨before, after, isList, -⟩ := List.lookup_eq_some_iff.mp known
    have isShort := escapes (other, short) (by rw [isList]; simp)
    obtain rfl | inShort := List.mem_cons.mp listed
    · exact .inr (by decide)
    · rw [List.mem_singleton.mp inShort]
      exact .inr isShort
  · split at listed
    · simp only [List.mem_cons, List.not_mem_nil, or_false] at listed
      obtain rfl | rfl | rfl | rfl | rfl | rfl := listed
      · exact .inr (by decide)
      · exact .inr (by decide)
      · exact .inr (by decide)
      · exact .inr (by decide)
      · exact .inr (digits _ (by omega))
      · exact .inr (digits _ (by omega))
    · exact .inl (List.mem_singleton.mp listed)

/-- A character beyond ASCII stands in a string as it is. -/
theorem mem_quote_iff (beyond : 128 ≤ c.toNat) {text : List Char} : c ∈ quote text ↔ c ∈ text := by
  have notQuote : c ≠ '"' := by
    rintro rfl
    exact absurd beyond (by decide)
  have inEscape : ∀ other, c ∈ escapeChar other ↔ c = other := by
    intro other
    constructor
    · intro listed
      exact (ascii_of_mem_escapeChar listed).resolve_right (Nat.not_lt.mpr beyond)
    · rintro rfl
      rw [escapeChar_of_beyond beyond]
      exact List.mem_singleton_self c
  simp [quote, notQuote, inEscape]

/-- In an object, it stands in a key or in a value. -/
theorem mem_write_object_iff (beyond : 128 ≤ c.toNat) (fields : List (String × Json)) :
    c ∈ write (.object fields) ↔ ∃ field ∈ fields, c ∈ field.1.toList ∨ c ∈ write field.2 := by
  have apart : ∀ other : Char, other.toNat < 128 → c ≠ other := by
    rintro other ascii rfl
    omega
  have inField : ∀ field, c ∈ writeField field ↔ c ∈ field.1.toList ∨ c ∈ write field.2 := by
    intro (key, value)
    simp [writeField, mem_quote_iff beyond, apart ':' (by decide)]
  have inRest : c ∈ writeFields fields ↔ ∃ field ∈ fields, c ∈ writeField field := by
    induction fields with
    | nil => simp [writeFields, apart '\x7d' (by decide)]
    | cons field rest ih => simp [writeFields, ih, apart ',' (by decide)]
  cases fields with
  | nil => simp [write, apart '\x7b' (by decide), apart '\x7d' (by decide)]
  | cons field rest =>
      have isRest : c ∈ write (.object (field :: rest)) ↔ c ∈ writeFields (field :: rest) := by
        simp [write, writeFields, apart '\x7b' (by decide), apart ',' (by decide)]
      rw [isRest, inRest]
      exact exists_congr fun other => and_congr_right fun _ => inField other

/-- No number has it. -/
theorem notMem_write_int (beyond : 128 ≤ c.toNat) (value : Int) : c ∉ write (.int value) := by
  have digits : ∀ value, c ∉ Nat.toDigits 10 value := by
    intro value listed
    have isDigit := List.all_eq_true.mp (Text.digits_toDigits value).2.1 c listed
    simp only [Text.isDigit, decide_eq_true_eq] at isDigit
    have high : c.toNat ≤ '9'.toNat := isDigit.2
    exact absurd (Nat.le_trans beyond high) (by decide)
  cases value with
  | ofNat value => exact digits value
  | negSucc value =>
      rw [write, List.mem_cons, not_or]
      refine ⟨?_, digits _⟩
      rintro rfl
      exact absurd beyond (by decide)

end Beyond

end Json

end Foundation
