import TraefikManager.Foundation.Text

/-!
# A rule language with raw literals

Rules combine matchers such as ``Name(`value`)`` with `&&`, `||`, `!` and
parentheses. A literal stands between backticks, holds every character up to the
next backtick, and loses its carriage returns, as raw string literals of Go do. Like the
source text of a Go program, a rule has no null character and a byte order mark only at its
beginning, where it is skipped.

A rule is read in two steps, into tokens and then into an expression. Reading
keeps the literals: those of the expression are those of the text, in order
(`matchers_of_read`).
-/

namespace Foundation.Rule

inductive Token where
  | word (name : String)
  | literal (value : String)
  | opening
  | closing
  | and
  | or
  | not
  deriving DecidableEq, Repr

/-- What a reader of the text is in the middle of. -/
inductive Mode where
  | plain
  /-- A word with these letters, the last one first. -/
  | word (letters : List Char)
  /-- A literal with these characters, the last one first. -/
  | raw (body : List Char)
  /-- An operator whose first character was `&` or `|`. -/
  | operator (c : Char)
  deriving DecidableEq, Repr

/-- The literal with this body. -/
def rawLiteral (body : List Char) : Token :=
  .literal (String.ofList (body.filter (· ≠ '\r')))

def isBlank (c : Char) : Bool := c ∈ [' ', '\t', '\n', '\r']

def isWordChar (c : Char) : Bool := Text.isLetter c || Text.isDigit c || c = '_'

/-- The token of a character that stands for itself. -/
def single (c : Char) : Option Token :=
  if c = '(' then some .opening
  else if c = ')' then some .closing
  else if c = '!' then some .not
  else none

/-- What a character outside words and literals leads to: a token at once, and
the mode in which the text goes on. -/
def plainStep (c : Char) : Option (List Token × Mode) :=
  if c = '`' then some ([], .raw [])
  else if c = '&' ∨ c = '|' then some ([], .operator c)
  else if isBlank c then some ([], .plain)
  else if isWordChar c then some ([], .word [c])
  else (single c).map fun token => ([token], .plain)

/-- One character of the text. -/
def step : Mode → Char → Option (List Token × Mode)
  | .plain, c => plainStep c
  | .word letters, c =>
      if isWordChar c then some ([], .word (c :: letters))
      else
        (plainStep c).map fun (tokens, mode) =>
          (.word (String.ofList letters.reverse) :: tokens, mode)
  | .raw body, c =>
      if c = '`' then some ([rawLiteral body.reverse], .plain) else some ([], .raw (c :: body))
  | .operator first, c =>
      if c = first then some ([if c = '&' then .and else .or], .plain) else none

/-- The tokens of a text from a mode on, and the mode at its end. -/
def advance : Mode → List Char → Option (List Token × Mode)
  | mode, [] => some ([], mode)
  | mode, c :: rest => do
      let (tokens, next) ← step mode c
      let (later, last) ← advance next rest
      pure (tokens ++ later, last)

/-- What the end of the text leads to. -/
def finish : Mode → Option (List Token)
  | .plain => some []
  | .word letters => some [.word (String.ofList letters.reverse)]
  | .raw _ => none
  | .operator _ => none

/-- The tokens of a text. -/
def lex (text : List Char) : Option (List Token) := do
  let (tokens, mode) ← advance .plain text
  let last ← finish mode
  pure (tokens ++ last)

inductive Expr where
  | matcher (name value : String)
  | conj (left right : Expr)
  | disj (left right : Expr)
  | neg (body : Expr)
  deriving DecidableEq, Repr

/-- What a parser looks for: a factor, a conjunction or a disjunction. -/
inductive Level where
  | factor
  | conj
  | disj
  deriving DecidableEq, Repr

/-- An expression at the front of the tokens, with the tokens after it. Each
level and each opened construct uses one unit of fuel. -/
def parse : Nat → Level → List Token → Option (Expr × List Token)
  | 0, _, _ => none
  | fuel + 1, .factor, .not :: rest => do
      let (body, rest) ← parse fuel .factor rest
      pure (.neg body, rest)
  | fuel + 1, .factor, .opening :: rest => do
      let (body, rest) ← parse fuel .disj rest
      match rest with
      | .closing :: rest => pure (body, rest)
      | _ => none
  | _ + 1, .factor, .word name :: .opening :: .literal value :: .closing :: rest =>
      some (.matcher name value, rest)
  | _ + 1, .factor, _ => none
  | fuel + 1, .conj, tokens => do
      let (left, rest) ← parse fuel .factor tokens
      match rest with
      | .and :: rest =>
          let (right, rest) ← parse fuel .conj rest
          pure (.conj left right, rest)
      | rest => pure (left, rest)
  | fuel + 1, .disj, tokens => do
      let (left, rest) ← parse fuel .conj tokens
      match rest with
      | .or :: rest =>
          let (right, rest) ← parse fuel .disj rest
          pure (.disj left right, rest)
      | rest => pure (left, rest)

/-- The expression of a sequence of tokens. -/
def parseAll (tokens : List Token) : Option Expr :=
  match parse (3 * tokens.length + 3) .disj tokens with
  | some (expr, []) => some expr
  | _ => none

/-- The byte order mark. -/
def byteOrderMark : Char := Char.ofNat 0xFEFF

/-- Whether a character may occur in a rule, past its beginning. -/
def isLegal (c : Char) : Bool := c ≠ Char.ofNat 0 ∧ c ≠ byteOrderMark

/-- A text without a byte order mark at its beginning. -/
def skipMark : List Char → List Char
  | [] => []
  | c :: rest => if c = byteOrderMark then rest else c :: rest

/-- The expression of a rule, when it is one. -/
def read (rule : String) : Option Expr :=
  let text := skipMark rule.toList
  if text.all isLegal then (lex text).bind parseAll else none

namespace Expr

/-- The values of the matchers, from left to right. -/
def values : Expr → List String
  | matcher _ value => [value]
  | conj left right => left.values ++ right.values
  | disj left right => left.values ++ right.values
  | neg body => body.values

/-- Whether the rule matches, given what each matcher answers. -/
def holds (answer : String → String → Bool) : Expr → Bool
  | matcher name value => answer name value
  | conj left right => left.holds answer && right.holds answer
  | disj left right => left.holds answer || right.holds answer
  | neg body => !body.holds answer

end Expr

/-- The value of a literal. -/
def Token.literal? : Token → Option String
  | .literal value => some value
  | _ => none

/-- The literals among the tokens, in order. -/
def literals (tokens : List Token) : List String := tokens.filterMap (·.literal?)

@[simp] theorem literals_nil : literals [] = [] := rfl

@[simp] theorem literals_cons (token : Token) (rest : List Token) :
    literals (token :: rest) = token.literal?.toList ++ literals rest := by
  cases token <;> rfl

@[simp] theorem literals_append (first second : List Token) :
    literals (first ++ second) = literals first ++ literals second :=
  List.filterMap_append

section Parsing

/-- What is parsed takes the literals it contains from the front of the tokens. -/
theorem literals_of_parse {fuel : Nat} {level : Level} {tokens rest : List Token} {expr : Expr}
    (parsed : parse fuel level tokens = some (expr, rest)) :
    literals tokens = expr.values ++ literals rest := by
  fun_induction parse fuel level tokens generalizing expr rest with
  | case1 => cases parsed
  | case2 fuel tokens ih =>
      simp only [Option.bind_eq_bind, Option.bind_eq_some_iff, Option.pure_def,
        Option.some.injEq, Prod.mk.injEq, Prod.exists] at parsed
      obtain ⟨body, after, bodyParsed, rfl, rfl⟩ := parsed
      have inBody : literals tokens = body.values ++ literals after := ih bodyParsed
      simpa [Token.literal?, Expr.values] using inBody
  | case3 fuel tokens ih =>
      simp only [Option.bind_eq_bind, Option.bind_eq_some_iff, Prod.exists] at parsed
      obtain ⟨body, after, bodyParsed, closed⟩ := parsed
      have inBody : literals tokens = body.values ++ literals after := ih bodyParsed
      split at closed
      · cases closed
        simpa [Token.literal?] using inBody
      · cases closed
  | case4 =>
      cases parsed
      rfl
  | case5 => cases parsed
  | case6 fuel tokens ihLeft ihRight =>
      simp only [Option.bind_eq_bind, Option.bind_eq_some_iff, Prod.exists] at parsed
      obtain ⟨left, after, leftParsed, continued⟩ := parsed
      have inLeft : literals tokens = left.values ++ literals after := ihLeft leftParsed
      split at continued
      · simp only [Option.bind_eq_some_iff, Option.pure_def, Option.some.injEq, Prod.mk.injEq,
          Prod.exists] at continued
        obtain ⟨right, _, rightParsed, rfl, rfl⟩ := continued
        rw [inLeft, literals_cons, ihRight _ rightParsed]
        simp [Token.literal?, Expr.values]
      · cases continued
        exact inLeft
  | case7 fuel tokens ihLeft ihRight =>
      simp only [Option.bind_eq_bind, Option.bind_eq_some_iff, Prod.exists] at parsed
      obtain ⟨left, after, leftParsed, continued⟩ := parsed
      have inLeft : literals tokens = left.values ++ literals after := ihLeft leftParsed
      split at continued
      · simp only [Option.bind_eq_some_iff, Option.pure_def, Option.some.injEq, Prod.mk.injEq,
          Prod.exists] at continued
        obtain ⟨right, _, rightParsed, rfl, rfl⟩ := continued
        rw [inLeft, literals_cons, ihRight _ rightParsed]
        simp [Token.literal?, Expr.values]
      · cases continued
        exact inLeft

theorem literals_of_parseAll {tokens : List Token} {expr : Expr}
    (parsed : parseAll tokens = some expr) : literals tokens = expr.values := by
  unfold parseAll at parsed
  split at parsed
  · rename_i found
    cases parsed
    simpa using literals_of_parse found
  · cases parsed

end Parsing

section Lexing

/-- A rule that begins like a word is read from all its characters, which must be legal. -/
theorem read_eq {rule : String} (isWord : rule.toList.head?.any isWordChar = true) :
    read rule = if rule.toList.all isLegal then (lex rule.toList).bind parseAll else none := by
  cases text : rule.toList with
  | nil => simp [text] at isWord
  | cons c rest =>
      simp only [text, List.head?_cons, Option.any_some] at isWord
      have noMark : c ≠ byteOrderMark := by
        rintro rfl
        exact absurd isWord (by decide)
      simp only [read, text, skipMark, if_neg noMark]

theorem advance_append (mode : Mode) (front back : List Char) :
    advance mode (front ++ back) = (do
      let (tokens, next) ← advance mode front
      let (later, last) ← advance next back
      pure (tokens ++ later, last)) := by
  induction front generalizing mode with
  | nil =>
      simp only [List.nil_append, advance, Option.bind_eq_bind, Option.pure_def, Option.bind_some]
      exact (Option.bind_fun_some (advance mode back)).symm
  | cons c front ih =>
      simp only [List.cons_append, advance, ih, Option.bind_eq_bind, Option.pure_def,
        Option.bind_assoc, Option.bind_some, List.append_assoc]

/-- Inside a literal, everything up to a backtick belongs to the literal. -/
theorem advance_raw {body : List Char} (clean : '`' ∉ body) (before : List Char) :
    advance (.raw before) body = some ([], .raw (body.reverse ++ before)) := by
  induction body generalizing before with
  | nil => rfl
  | cons c body ih =>
      obtain ⟨isOther, cleanRest⟩ := not_or.mp (mt List.mem_cons.mpr clean)
      simp only [advance, step, if_neg (Ne.symm isOther)]
      simp [ih cleanRest]

/-- A literal with its closing backtick. -/
theorem advance_literal {body : List Char} (clean : '`' ∉ body) (back : List Char) :
    advance (.raw []) (body ++ '`' :: back) = (do
      let (later, last) ← advance .plain back
      pure (rawLiteral body :: later, last)) := by
  rw [advance_append, advance_raw clean]
  simp [advance, step, Option.bind_assoc]

/-- Inside a word, letters belong to the word. -/
theorem advance_word {letters : List Char} (isWord : ∀ c ∈ letters, isWordChar c = true)
    (before : List Char) :
    advance (.word before) letters = some ([], .word (letters.reverse ++ before)) := by
  induction letters generalizing before with
  | nil => rfl
  | cons c letters ih =>
      simp only [advance, step, if_pos (isWord c (by simp))]
      simp [ih fun other member => isWord other (by simp [member])]

private theorem plainStep_of_isWordChar {c : Char} (isWord : isWordChar c = true) :
    plainStep c = some ([], .word [c]) := by
  have differs : ∀ other : Char, isWordChar other = false → c ≠ other := by
    rintro other notWord rfl
    rw [isWord] at notWord
    cases notWord
  have notBlank : isBlank c = false := by
    simp [isBlank, differs ' ' (by decide), differs '\t' (by decide), differs '\n' (by decide),
      differs '\r' (by decide)]
  simp [plainStep, differs '`' (by decide), differs '&' (by decide), differs '|' (by decide),
    notBlank, isWord]

/-- The text of a matcher up to the beginning of its literal. -/
theorem advance_matcherName {name : List Char} (nonempty : name ≠ [])
    (word : name.all isWordChar = true) :
    advance .plain (name ++ ['(', '`']) =
      some ([.word (String.ofList name), .opening], .raw []) := by
  have isWord : ∀ c ∈ name, isWordChar c = true := List.all_eq_true.mp word
  obtain ⟨first, others, rfl⟩ := List.exists_cons_of_ne_nil nonempty
  have started : plainStep first = some ([], .word [first]) :=
    plainStep_of_isWordChar (isWord first (by simp))
  have continued : advance (.word [first]) others = some ([], .word (others.reverse ++ [first])) :=
    advance_word (fun c member => isWord c (by simp [member])) [first]
  have opened : advance (.word (others.reverse ++ [first])) ['(', '`'] =
      some ([.word (String.ofList (first :: others)), .opening], .raw []) := by
    simp [advance, step, show isWordChar '(' = false by decide, plainStep, single, isBlank]
  have named : advance .plain (first :: others) =
      some ([], .word (others.reverse ++ [first])) := by
    simp [advance, step, started, continued]
  rw [advance_append, named]
  simp only [Option.bind_eq_bind, Option.bind_some, opened]
  rfl

/-- The text of a matcher is read as its name and its literal in parentheses. -/
theorem advance_matcher {name value : List Char} (nonempty : name ≠ [])
    (word : name.all isWordChar = true) (clean : '`' ∉ value) :
    advance .plain (name ++ ['(', '`'] ++ value ++ ['`', ')']) =
      some ([.word (String.ofList name), .opening, rawLiteral value, .closing], .plain) := by
  rw [List.append_assoc, advance_append, advance_matcherName nonempty word]
  simp [advance_literal clean, advance, step, plainStep, single, isBlank, isWordChar,
    Text.isLetter, Text.isDigit]

end Lexing

end Foundation.Rule
