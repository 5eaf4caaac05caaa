import Mathlib.Data.List.Basic

/-!
# Lines of bytes

Texts as UTF-8 bytes, and the lines a reader takes from a file of bytes when it asks for at
most a given number of them at a time. A line that fits is read whole; of a longer one the
reader first gets a piece of the size it asked for.
-/

namespace Foundation

/-- The content of a file. -/
abbrev Bytes := List UInt8

namespace Bytes

section Encoding

/-- `text.encode("utf-8")`. -/
def encode (text : List Char) : Bytes := text.flatMap String.utf8EncodeChar

/-- `bytes.decode("utf-8")`; `none` stands for its `UnicodeDecodeError`. -/
def decode (bytes : Bytes) : Option String := String.fromUTF8? bytes.toByteArray

@[simp] theorem encode_append (first second : List Char) :
    encode (first ++ second) = encode first ++ encode second :=
  List.flatMap_append

theorem decode_encode (text : List Char) : decode (encode text) = some (String.ofList text) := by
  have valid : (encode text).toByteArray.IsValidUTF8 := ⟨text, rfl⟩
  rw [decode, String.fromUTF8?, dif_pos valid]
  rfl

/-- A byte below 128 of a character's encoding is the character itself. -/
theorem toNat_eq_of_mem {c : Char} {byte : UInt8} (inChar : byte ∈ String.utf8EncodeChar c)
    (low : byte.toNat < 128) : c.toNat = byte.toNat := by
  unfold String.utf8EncodeChar at inChar
  show c.val.toNat = byte.toNat
  generalize c.val.toNat = code at *
  dsimp only at inChar
  split_ifs at inChar <;> simp only [List.mem_cons, List.not_mem_nil, or_false] at inChar
  · subst inChar
    simp only [UInt8.toNat_ofNat']
    omega
  all_goals
    exfalso
    repeat' (obtain rfl | inChar := inChar)
    all_goals
      simp only [UInt8.toNat_ofNat'] at low
      omega

/-- A text without line ends is encoded without them. -/
theorem newline_notMem_encode {text : List Char} (oneLine : '\n' ∉ text) : 10 ∉ encode text := by
  intro inBytes
  obtain ⟨c, inText, inChar⟩ := List.mem_flatMap.mp inBytes
  have isNewline : c = '\n' := Char.toNat_inj.mp (toNat_eq_of_mem inChar (by decide))
  exact oneLine (isNewline ▸ inText)

end Encoding

section Lines

/-- Whether `bytes.strip()` drops the byte. -/
def isSpace (byte : UInt8) : Bool := byte ∈ [9, 10, 11, 12, 13, 32]

/-- What the calls of `file.readline(size)` return until the end of the file, when
`line` has been read of the line at hand. -/
def readLines (size : Nat) : Bytes → Bytes → List Bytes
  | line, [] => if line = [] then [] else [line]
  | line, byte :: rest =>
      if byte = 10 ∨ line.length + 1 = size then (line ++ [byte]) :: readLines size [] rest
      else readLines size (line ++ [byte]) rest

variable {size : Nat} {line body rest : Bytes}

/-- A line within the size asked for is read whole, with its end. -/
theorem readLines_line (oneLine : 10 ∉ body) (fits : line.length + body.length + 1 ≤ size) :
    readLines size line (body ++ 10 :: rest) = (line ++ body ++ [10]) :: readLines size [] rest := by
  induction body generalizing line with
  | nil => simp [readLines]
  | cons byte body ih =>
      simp only [List.mem_cons, not_or] at oneLine
      simp only [List.length_cons] at fits
      have continues : ¬ (byte = 10 ∨ line.length + 1 = size) := by
        rintro (isEnd | full)
        · exact oneLine.1 isEnd.symm
        · omega
      rw [List.cons_append, readLines, if_neg continues, ih oneLine.2 (by simp; omega)]
      simp

/-- Of a longer line the first piece has the size asked for. -/
theorem readLines_long (oneLine : 10 ∉ body) (short : line.length < size)
    (long : size ≤ line.length + body.length) :
    ∃ piece later, readLines size line (body ++ rest) = piece :: later ∧ piece.length = size := by
  induction body generalizing line with
  | nil =>
      simp only [List.length_nil] at long
      omega
  | cons byte body ih =>
      simp only [List.mem_cons, not_or] at oneLine
      by_cases full : line.length + 1 = size
      · refine ⟨line ++ [byte], readLines size [] (body ++ rest), ?_, by simp [full]⟩
        rw [List.cons_append, readLines, if_pos (.inr full)]
      · have continues : ¬ (byte = 10 ∨ line.length + 1 = size) := by
          rintro (isEnd | isFull)
          · exact oneLine.1 isEnd.symm
          · exact full isFull
        simp only [List.length_cons] at long
        have longer : (line ++ [byte]).length = line.length + 1 := by simp
        obtain ⟨piece, later, isPiece, isSize⟩ :=
          ih oneLine.2 (show (line ++ [byte]).length < size by omega) (by omega)
        exact ⟨piece, later, by rw [List.cons_append, readLines, if_neg continues, isPiece], isSize⟩

/-- A file of lines. -/
def ofLines (lines : List Bytes) : Bytes := lines.flatMap (· ++ [10])

end Lines

end Bytes

end Foundation
