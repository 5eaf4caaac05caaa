import TraefikManager.Foundation.Text

/-!
# Integers in a text

What `int` makes of a text: digits of any script, which single underscores may separate, behind a
sign and between blanks.
-/

namespace Foundation.Text

/-- The digit a character stands for, in any script. -/
def digitOf? (c : Char) : Option Nat :=
  (decimalZeros.find? fun first => first ≤ c.toNat ∧ c.toNat < first + 10).map (c.toNat - ·)

/-- The number of some digits, which single underscores may separate. -/
def naturalOf? (chars : List Char) : Option Nat :=
  let groups := chars.splitOn '_'
  if [] ∈ groups ∨ 4300 < groups.flatten.length then none
  else (groups.flatten.mapM digitOf?).map fun digits =>
    digits.foldl (fun number digit => number * 10 + digit) 0

/-- `int(text)`; `none` stands for its `ValueError`. -/
def intOf? (text : String) : Option Int :=
  match stripChars text.toList with
  | '-' :: digits => (naturalOf? digits).map fun number => -(number : Int)
  | '+' :: digits => (naturalOf? digits).map fun number => (number : Int)
  | digits => (naturalOf? digits).map fun number => (number : Int)

example : intOf? " -1_000 " = some (-1000) := by decide +kernel

end Foundation.Text
