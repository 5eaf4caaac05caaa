import Mathlib.Data.List.Basic

/-!
# Lines and words that a shell reads

`read` takes the next line of a file and a word of it for each of its variables. What `printf`
wrote as words in lines is what it reads.
-/

namespace Foundation.Shell

section Lines

/-- The lines a loop over `read` goes through: what follows the last line end is not one. -/
def completeLines (text : List Char) : List (List Char) := (text.splitOn '\n').dropLast

/-- What a `printf` for each line leaves. -/
def linesText (lines : List (List Char)) : List Char := lines.flatMap (· ++ ['\n'])

/-- The lines that were written are read. -/
theorem completeLines_linesText {lines : List (List Char)} (oneLine : ∀ line ∈ lines, '\n' ∉ line) :
    completeLines (linesText lines) = lines := by
  have parts : (linesText lines).splitOn '\n' = lines ++ [[]] := by
    induction lines with
    | nil => rfl
    | cons line lines ih =>
        obtain ⟨here, others⟩ := List.forall_mem_cons.mp oneLine
        rw [linesText, List.flatMap_cons, List.append_assoc, List.singleton_append,
          List.splitOn_append_cons_self_of_not_mem here]
        exact congrArg (line :: ·) (ih others)
  rw [completeLines, parts, List.dropLast_concat]

end Lines

section Words

/-- The blanks between the words of a line. -/
def isBlank (c : Char) : Bool := c = ' ' || c = '\t'

/-- A text that `read` takes for one word. -/
def IsWord (text : List Char) : Prop := text ≠ [] ∧ ∀ c ∈ text, isBlank c = false

/-- The first word of a line and what stands after it. -/
def nextWord (line : List Char) : List Char × List Char :=
  let text := line.dropWhile isBlank
  (text.takeWhile fun c => !isBlank c, text.dropWhile fun c => !isBlank c)

/-- What `read -r` gives its variables: a word to each but the last, which gets the rest of the
line. Blanks around them are dropped. -/
def readWords : Nat → List Char → List (List Char) × List Char
  | 0, line => ([], ((line.dropWhile isBlank).reverse.dropWhile isBlank).reverse)
  | count + 1, line =>
      let (word, later) := nextWord line
      let read := readWords count later
      (word :: read.1, read.2)

/-- Words with a blank between them. -/
def wordsText : List (List Char) → List Char
  | [] => []
  | word :: words => word ++ words.flatMap (' ' :: ·)

variable {word : List Char} {words : List (List Char)}

private theorem nextWord_append (isWord : IsWord word) (words : List (List Char)) :
    nextWord (word ++ words.flatMap (' ' :: ·)) = (word, words.flatMap (' ' :: ·)) := by
  obtain ⟨nonempty, noBlank⟩ := isWord
  have begins : (word ++ words.flatMap (' ' :: ·)).dropWhile isBlank =
      word ++ words.flatMap (' ' :: ·) := by
    cases word with
    | nil => exact absurd rfl nonempty
    | cons c rest =>
        rw [List.cons_append, List.dropWhile_cons_of_neg]
        rw [noBlank c List.mem_cons_self]
        exact Bool.false_ne_true
  have inWord : ∀ c ∈ word, (!isBlank c) = true := fun c listed => by rw [noBlank c listed]; rfl
  rw [nextWord, begins, List.takeWhile_append_of_pos inWord, List.dropWhile_append_of_pos inWord]
  cases words with
  | nil => simp
  | cons next words =>
      have ends : (!isBlank ' ') = false := rfl
      simp only [List.flatMap_cons, List.cons_append, List.takeWhile_cons, List.dropWhile_cons, ends,
        Bool.false_eq_true, if_false, List.append_nil]

private theorem nextWord_blank (line : List Char) : nextWord (' ' :: line) = nextWord line := rfl

private theorem readWords_flatMap (areWords : ∀ word ∈ words, IsWord word) :
    readWords words.length (words.flatMap (' ' :: ·)) = (words, []) := by
  induction words with
  | nil => rfl
  | cons word words ih =>
      obtain ⟨isWord, others⟩ := List.forall_mem_cons.mp areWords
      simp only [List.length_cons, List.flatMap_cons, readWords, List.cons_append, nextWord_blank,
        nextWord_append isWord, ih others]

/-- Words that were written with a blank between them are read, and nothing is left over. -/
theorem readWords_wordsText (areWords : ∀ word ∈ words, IsWord word) :
    readWords words.length (wordsText words) = (words, []) := by
  cases words with
  | nil => rfl
  | cons word words =>
      obtain ⟨isWord, others⟩ := List.forall_mem_cons.mp areWords
      simp only [wordsText, List.length_cons, readWords, nextWord_append isWord,
        readWords_flatMap others]

end Words

end Foundation.Shell
