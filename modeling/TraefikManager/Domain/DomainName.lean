import TraefikManager.Runtime

/-!
# Domain names

A domain name is one or more labels of up to 63 letters, digits and inner
dashes, followed by a top level of at least two letters. The pattern is matched
with a trailing `$`, which also accepts one line feed at the very end.
-/

namespace TraefikManager.Domain

open Foundation

def isAlphanumeric (c : Char) : Bool := Text.isLetter c || Text.isDigit c

/-- `[a-zA-Z0-9]([a-zA-Z0-9\-]{0,61}[a-zA-Z0-9])?` -/
def isLabel (chars : List Char) : Bool :=
  chars ≠ [] ∧ chars.length ≤ 63 ∧ chars.all (fun c => isAlphanumeric c || c = '-') ∧
    chars.head?.any isAlphanumeric ∧ chars.getLast?.any isAlphanumeric

/-- `[a-zA-Z]{2,}` -/
def isTopLevel (chars : List Char) : Bool := 2 ≤ chars.length ∧ chars.all Text.isLetter

/-- The domain pattern on the characters it has to match. -/
def isDomainChars (chars : List Char) : Bool :=
  let parts := chars.splitOn '.'
  2 ≤ parts.length ∧ parts.dropLast.all isLabel ∧ parts.getLast?.any isTopLevel

/-- `re.match` of the domain pattern. -/
def matchesDomainPattern (value : String)   : Bool :=
  isDomainChars (Text.dropFinalNewline value.toList)

/-- A domain name; a value outside the pattern cannot be built. -/
structure DomainName where
  value : String
  valid : matchesDomainPattern value = true
  deriving DecidableEq

instance : Repr DomainName := ⟨fun domain => reprPrec domain.value⟩

/-- `DomainName(value)`. -/
def DomainName.make (value : String) : Except PyException DomainName :=
  if valid : matchesDomainPattern value = true then
    .ok ⟨value, valid⟩
  else
    .error (.valueError ("유효하지 않은 도메인: " ++ value))

namespace DomainName

@[ext] theorem ext {first second : DomainName} (same : first.value = second.value) :
    first = second := by
  cases first
  cases second
  cases same
  rfl

@[simp] theorem make_value (domain : DomainName) : make domain.value = .ok domain := by
  simp [make, domain.valid]

theorem make_ok {value : String} {domain : DomainName} (made : make value = .ok domain) :
    domain.value = value := by
  unfold make at made
  split at made
  · cases made
    rfl
  · cases made

end DomainName

/-- The characters a domain can consist of, the final line feed apart. -/
def isDomainChar (c : Char) : Bool := isAlphanumeric c || c = '-' || c = '.'

private theorem isDomainChar_of_isDomainChars {chars : List Char}
    (valid : isDomainChars chars = true) : ∀ c ∈ chars, isDomainChar c = true := by
  unfold isDomainChars at valid
  simp only [Bool.decide_and, Bool.and_eq_true, decide_eq_true_eq, List.all_eq_true] at valid
  obtain ⟨many, labels, top⟩ := valid
  have parts : ∀ part ∈ chars.splitOn '.', ∀ c ∈ part, isDomainChar c = true := by
    intro part member c inPart
    have nonempty : chars.splitOn '.' ≠ [] := by
      intro none
      simp [none] at many
    rw [← List.dropLast_append_getLast nonempty, List.mem_append, List.mem_singleton] at member
    rcases member with label | rfl
    · have ofLabel := labels part label
      simp only [isLabel, Bool.decide_and, Bool.and_eq_true, decide_eq_true_eq,
        List.all_eq_true] at ofLabel
      have isChar := ofLabel.2.2.1 c inPart
      simp only [isDomainChar, Bool.or_eq_true]
      exact .inl (by simpa using isChar)
    · rw [List.getLast?_eq_some_getLast nonempty, Option.any_some] at top
      simp only [isTopLevel, Bool.decide_and, Bool.and_eq_true, decide_eq_true_eq,
        List.all_eq_true] at top
      simp [isDomainChar, isAlphanumeric, top.2 c inPart]
  intro c member
  obtain rfl | ⟨part, listed, inPart⟩ : c = '.' ∨ ∃ part ∈ chars.splitOn '.', c ∈ part :=
    Text.mem_splitOn '.' member
  · rfl
  · exact parts part listed c inPart

/-- Every character of a domain is a domain character or the final line feed. -/
theorem DomainName.isDomainChar_of_mem (domain : DomainName) {c : Char}
    (member : c ∈ domain.value.toList) : isDomainChar c = true ∨ c = '\n' := by
  have chars : ∀ c ∈ Text.dropFinalNewline domain.value.toList, isDomainChar c = true :=
    isDomainChar_of_isDomainChars domain.valid
  unfold Text.dropFinalNewline at chars
  split at chars
  · rename_i final
    rw [← List.dropLast_append_getLast? '\n' final, List.mem_append] at member
    rcases member with front | last
    · exact .inl (chars c front)
    · exact .inr (by simpa using last)
  · exact .inl (chars c member)

/-- A domain ends in a dot and a top level of letters. -/
theorem exists_topLevel {chars : List Char} (valid : isDomainChars chars = true) :
    ∃ body top, chars = body ++ '.' :: top ∧ isTopLevel top = true := by
  unfold isDomainChars at valid
  simp only [Bool.decide_and, Bool.and_eq_true, decide_eq_true_eq] at valid
  obtain ⟨many, _, top⟩ := valid
  have joined : ['.'].intercalate (chars.splitOn '.') = chars := List.intercalate_splitOn '.'
  have nonempty : chars.splitOn '.' ≠ [] := List.splitOn_ne_nil '.' chars
  rw [List.getLast?_eq_some_getLast nonempty, Option.any_some] at top
  refine ⟨['.'].intercalate (chars.splitOn '.').dropLast, _, ?_, top⟩
  conv_lhs => rw [← joined, ← List.dropLast_append_getLast nonempty]
  have front : (chars.splitOn '.').dropLast ≠ [] := by
    intro none
    have := congrArg List.length none
    simp only [List.length_dropLast, List.length_nil] at this
    omega
  rw [Text.intercalate_concat front]
  simp

/-- A domain ends in a letter or the final line feed. -/
theorem DomainName.getLast? (domain : DomainName) :
    ∃ c, domain.value.toList.getLast? = some c ∧ (Text.isLetter c = true ∨ c = '\n') := by
  by_cases final : domain.value.toList.getLast? = some '\n'
  · exact ⟨'\n', final, .inr rfl⟩
  · have valid : isDomainChars domain.value.toList = true := by
      simpa [matchesDomainPattern, Text.dropFinalNewline, final] using domain.valid
    obtain ⟨body, top, chars, isTop⟩ := exists_topLevel valid
    simp only [isTopLevel, Bool.decide_and, Bool.and_eq_true, decide_eq_true_eq,
      List.all_eq_true] at isTop
    have nonempty : top ≠ [] := by
      rintro rfl
      simp at isTop
    refine ⟨top.getLast nonempty, ?_, .inl (isTop.2 _ (List.getLast_mem nonempty))⟩
    rw [chars, List.getLast?_append_of_ne_nil _ (by simp), List.getLast?_cons,
      List.getLast?_eq_some_getLast nonempty]
    rfl

end TraefikManager.Domain
