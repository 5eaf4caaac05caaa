import TraefikManager.Foundation.ShellRead
import TraefikManager.Scripts.UnitBaseline

/-!
# The baseline file

Each line of the file holds a digest, a role and a unit. The watchdog writes the lines with
`printf` and takes them apart with `read`.
-/

namespace TraefikManager.Scripts

open Foundation

section Text

/-- `read -r hash role unit extra`. -/
def readFields (line : List Char) : BaselineLine :=
  let (words, extra) := Shell.readWords 3 line
  { hash := String.ofList (words.getD 0 [])
    role := String.ofList (words.getD 1 [])
    unit := String.ofList (words.getD 2 [])
    extra := String.ofList extra }

def baselineLines (content : String) : List BaselineLine :=
  (Shell.completeLines content.toList).map readFields

/-- The line `printf '%s %s %s\n'` writes, without its end. -/
def BaselineLine.written (line : BaselineLine) : List Char :=
  Shell.wordsText [line.hash.toList, line.role.toList, line.unit.toList]

def baselineText (lines : List BaselineLine) : String :=
  String.ofList (Shell.linesText (lines.map BaselineLine.written))

/-- `read_baseline` of a file, `none` standing for one that is missing. -/
def readBaselineFile (file : Option String) : Option (List BaselineLine) :=
  match file with
  | none => none
  | some content =>
      -- an empty file has no timer either
      if readBaseline (baselineLines content) then some (baselineLines content) else none

end Text

section RoundTrip

variable {line : BaselineLine} {lines : List BaselineLine}

/-- A line as the watchdog writes them. -/
structure BaselineLine.IsPlain (line : BaselineLine) : Prop where
  hash : isDigest line.hash = true
  role : line.role = "timer" ∨ line.role = "service"
  unit : validUnitName line.unit = true
  extra : line.extra = ""

/-- The characters that end a word or a line. -/
def breaksWord (c : Char) : Bool := c ∈ [' ', '\t', '\n']

private theorem isBlank_of_not_breaksWord {c : Char} (within : breaksWord c = false) :
    Shell.isBlank c = false ∧ c ≠ '\n' := by
  simp only [breaksWord, List.mem_cons, List.not_mem_nil, or_false, decide_eq_false_iff_not,
    not_or] at within
  obtain ⟨space, tab, newline⟩ := within
  exact ⟨by simp [Shell.isBlank, space, tab], newline⟩

private theorem unbroken_of_all {kind : Char → Bool}
    (apart : ∀ c ∈ [' ', '\t', '\n'], kind c = false)
    {text : List Char} (each : text.all kind = true) : ∀ c ∈ text, breaksWord c = false := by
  intro c listed
  have isKind := List.all_eq_true.mp each c listed
  rw [breaksWord, decide_eq_false_iff_not]
  intro breaks
  exact Bool.false_ne_true ((apart c breaks).symm.trans isKind)

private theorem unit_chars {unit : String} (valid : validUnitName unit = true) :
    unit.toList ≠ [] ∧ ∀ c ∈ unit.toList, breaksWord c = false := by
  unfold validUnitName isUnitName at valid
  split at valid
  · cases valid
  · rename_i kind isKind
    simp only [Bool.and_eq_true, decide_eq_true_eq] at valid
    refine ⟨?_, unbroken_of_all (by decide) valid.1.2⟩
    intro isEmpty
    rw [isEmpty] at valid
    exact absurd valid.2 (Nat.not_lt_zero _)

private theorem hash_chars {hash : String} (digest : isDigest hash = true) :
    hash.toList ≠ [] ∧ ∀ c ∈ hash.toList, breaksWord c = false := by
  simp only [isDigest, Bool.and_eq_true, decide_eq_true_eq] at digest
  refine ⟨?_, unbroken_of_all (by decide) digest.2⟩
  intro isEmpty
  rw [isEmpty] at digest
  cases digest.1

/-- The three words of a line are read as they were written. -/
theorem BaselineLine.IsPlain.words (plain : line.IsPlain) :
    ∀ word ∈ [line.hash.toList, line.role.toList, line.unit.toList],
      word ≠ [] ∧ ∀ c ∈ word, breaksWord c = false := by
  have ofRole : line.role.toList ≠ [] ∧ ∀ c ∈ line.role.toList, breaksWord c = false := by
    obtain isRole | isRole := plain.role <;> rw [isRole] <;> decide
  simp only [List.forall_mem_cons, List.not_mem_nil, false_implies, implies_true, and_true]
  exact ⟨hash_chars plain.hash, ofRole, unit_chars plain.unit⟩

private theorem readFields_written (plain : line.IsPlain) : readFields line.written = line := by
  have areWords : ∀ word ∈ [line.hash.toList, line.role.toList, line.unit.toList],
      Shell.IsWord word := by
    intro word listed
    obtain ⟨nonempty, within⟩ := plain.words word listed
    exact ⟨nonempty, fun c inWord => (isBlank_of_not_breaksWord (within c inWord)).1⟩
  have read := Shell.readWords_wordsText areWords
  rw [List.length_cons, List.length_cons, List.length_cons, List.length_nil] at read
  obtain ⟨hash, role, unit, extra⟩ := line
  obtain rfl : extra = "" := plain.extra
  simp only [readFields, BaselineLine.written]
  rw [read]
  simp

private theorem newline_notMem_written (plain : line.IsPlain) : '\n' ∉ line.written := by
  intro listed
  have inside : ∀ word ∈ [line.hash.toList, line.role.toList, line.unit.toList], '\n' ∉ word := by
    intro word isWord inWord
    exact (isBlank_of_not_breaksWord ((plain.words word isWord).2 _ inWord)).2 rfl
  simp only [List.forall_mem_cons] at inside
  obtain ⟨notHash, notRole, notUnit, -⟩ := inside
  simp [BaselineLine.written, Shell.wordsText, notHash, notRole, notUnit] at listed

/-- What the watchdog writes is what it reads. -/
theorem baselineLines_baselineText (plain : ∀ line ∈ lines, line.IsPlain) :
    baselineLines (baselineText lines) = lines := by
  have oneLine : ∀ text ∈ lines.map BaselineLine.written, '\n' ∉ text := by
    intro text listed
    obtain ⟨line, inLines, rfl⟩ := List.mem_map.mp listed
    exact newline_notMem_written (plain line inLines)
  rw [baselineLines, baselineText, String.toList_ofList, Shell.completeLines_linesText oneLine,
    List.map_map]
  have same : ∀ line ∈ lines, (readFields ∘ BaselineLine.written) line = id line :=
    fun line inLines => readFields_written (plain line inLines)
  rw [List.map_congr_left same, List.map_id]

end RoundTrip

end TraefikManager.Scripts
