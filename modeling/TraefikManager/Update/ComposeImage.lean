import Mathlib.Data.List.DropRight
import TraefikManager.Foundation.Collect
import TraefikManager.Update.Preflight

/-!
# The image in the compose file

The runner takes the only occurrence of `image: ` with the running image for the image value of
the service. It is one if nothing but blanks stands before it on its line, and nothing but
blanks and a comment behind it.
-/

namespace TraefikManager.Update

open Foundation

section Values

def isBlank (c : Char) : Bool := c = ' ' || c = '\t'

/-- What stands before a comment; a number sign begins one after a blank. -/
def withoutComment : Bool → List Char → List Char
  | _, [] => []
  | afterBlank, c :: rest =>
      if c = '#' ∧ afterBlank = true then [] else c :: withoutComment (isBlank c) rest

def trimBlanks (chars : List Char) : List Char := (chars.dropWhile isBlank).rdropWhile isBlank

/-- The value of the key `image` that stands on a line of a compose file. YAML is read by its lines,
without flow mappings, block scalars and quoted keys. -/
def imageValue? (line : List Char) : Option (List Char) :=
  let entry := line.dropWhile isBlank
  if "image:".toList <+: entry then
    match entry.drop 6 with
    | [] => some []
    | c :: rest => if isBlank c then some (trimBlanks (withoutComment false (c :: rest))) else none
  else none

/-- The texts have the same lines but for one, whose image value was the current image and is
the target image, another one. -/
def ReplacesImage (original result currentImage targetImage : List Char) : Prop :=
  currentImage ≠ targetImage ∧ ∃ lines later start finish,
    original.splitOn '\n' = lines ++ (start ++ currentImage ++ finish) :: later ∧
    result.splitOn '\n' = lines ++ (start ++ targetImage ++ finish) :: later ∧
    imageValue? (start ++ currentImage ++ finish) = some currentImage ∧
    imageValue? (start ++ targetImage ++ finish) = some targetImage

/-- Nothing but blanks stands before the first occurrence of the needle on its line, nothing but
blanks and a comment behind it, and the text has no carriage returns. -/
def isWholeValue (needle text : List Char) : Bool :=
  match Text.splitFirst needle text with
  | none => false
  | some (before, after) =>
      (before.rtakeWhile (· ≠ '\n')).all isBlank &&
        (withoutComment false (after.takeWhile (· ≠ '\n'))).all isBlank && '\r' ∉ text

/-- A name of an image: it ends no value and no line. -/
structure IsPlainImage (image : List Char) : Prop where
  nonempty : image ≠ []
  plain : ∀ c ∈ image, c ∉ [' ', '\t', '\n', '\r', '#']

variable {text before after first second image value : List Char}

private theorem IsPlainImage.isBlank_eq (isPlain : IsPlainImage image) :
    ∀ c ∈ image, isBlank c = false := by
  intro c listed
  have notBlank := isPlain.plain c listed
  simp only [List.mem_cons, not_or] at notBlank
  simp [isBlank, notBlank.1, notBlank.2.1]

private theorem IsPlainImage.notMem (isPlain : IsPlainImage image) {c : Char}
    (special : c ∈ [' ', '\t', '\n', '\r', '#']) : c ∉ image :=
  fun listed => isPlain.plain c listed special

/-- A comment begins in the first part of a text or the first part is kept. -/
theorem withoutComment_append (afterBlank : Bool) (first : List Char) :
    (∃ kept, ∀ second, withoutComment afterBlank (first ++ second) = kept) ∨
      ∃ state, ∀ second, withoutComment afterBlank (first ++ second) =
        first ++ withoutComment state second := by
  induction first generalizing afterBlank with
  | nil => exact .inr ⟨afterBlank, fun _ => rfl⟩
  | cons c rest ih =>
      by_cases begins : c = '#' ∧ afterBlank = true
      · exact .inl ⟨[], fun second => by rw [List.cons_append, withoutComment, if_pos begins]⟩
      · have step : ∀ second, withoutComment afterBlank (c :: rest ++ second) =
            c :: withoutComment (isBlank c) (rest ++ second) := fun second => by
          rw [List.cons_append, withoutComment, if_neg begins]
        obtain ⟨kept, isKept⟩ | ⟨state, isState⟩ := ih (isBlank c)
        · exact .inl ⟨c :: kept, fun second => by rw [step, isKept]⟩
        · exact .inr ⟨state, fun second => by rw [step, isState, List.cons_append]⟩

/-- The name of an image is kept, and no comment begins right after it. -/
theorem IsPlainImage.withoutComment_append (isPlain : IsPlainImage image) (afterBlank : Bool)
    (rest : List Char) :
    withoutComment afterBlank (image ++ rest) = image ++ withoutComment false rest := by
  have nonempty := isPlain.nonempty
  have notSign := isPlain.notMem (show '#' ∈ [' ', '\t', '\n', '\r', '#'] by decide)
  have notBlank := isPlain.isBlank_eq
  clear isPlain
  induction image generalizing afterBlank with
  | nil => exact absurd rfl nonempty
  | cons c image ih =>
      rw [List.mem_cons, not_or] at notSign
      obtain ⟨here, others⟩ := List.forall_mem_cons.mp notBlank
      rw [List.cons_append, withoutComment, if_neg fun begins => notSign.1 begins.1.symm, here]
      cases image with
      | nil => rfl
      | cons next image => rw [ih false nofun notSign.2 others]; rfl

theorem dropWhile_append_cons {c : Char} (visible : isBlank c = false) (first rest : List Char) :
    (first ++ c :: rest).dropWhile isBlank = first.dropWhile isBlank ++ c :: rest := by
  induction first with
  | nil => rw [List.nil_append, List.dropWhile_cons_of_neg (by simp [visible])]; rfl
  | cons other first ih =>
      cases isOther : isBlank other with
      | true =>
          rw [List.cons_append, List.dropWhile_cons_of_pos isOther, ih,
            List.dropWhile_cons_of_pos isOther]
      | false =>
          rw [List.cons_append, List.dropWhile_cons_of_neg (by simp [isOther]),
            List.dropWhile_cons_of_neg (by simp [isOther]), List.cons_append]

theorem rdropWhile_append_cons {c : Char} (visible : isBlank c = false) (first rest : List Char) :
    (first ++ c :: rest).rdropWhile isBlank = first ++ c :: rest.rdropWhile isBlank := by
  have turned : (first ++ c :: rest).reverse = rest.reverse ++ c :: first.reverse := by simp
  rw [List.rdropWhile, turned, dropWhile_append_cons visible, List.rdropWhile]
  simp

/-- What is left of a name of an image and what follows it. -/
theorem IsPlainImage.trimBlanks_eq (isPlain : IsPlainImage image) (rest : List Char) :
    trimBlanks (' ' :: (image ++ rest)) = image ++ rest.rdropWhile isBlank := by
  have visible := isPlain.isBlank_eq
  obtain ⟨front, last, rfl⟩ := (List.eq_nil_or_concat' image).resolve_left isPlain.nonempty
  have isLast : isBlank last = false := visible last (by simp)
  have kept : (' ' :: (front ++ [last] ++ rest)).dropWhile isBlank = front ++ last :: rest := by
    rw [List.dropWhile_cons_of_pos (by decide), List.append_assoc, List.singleton_append]
    cases front with
    | nil => rw [List.nil_append, List.dropWhile_cons_of_neg (by simp [isLast])]
    | cons c front =>
        rw [List.cons_append, List.dropWhile_cons_of_neg (by simp [visible c])]
  rw [trimBlanks, kept, rdropWhile_append_cons isLast]
  simp

/-- A blank between other characters is not trimmed. -/
theorem mem_trimBlanks {c c' : Char} (visible : isBlank c = false) (visible' : isBlank c' = false)
    (first rest : List Char) : ' ' ∈ trimBlanks (first ++ c :: ' ' :: c' :: rest) := by
  have split : first.dropWhile isBlank ++ c :: ' ' :: c' :: rest =
      (first.dropWhile isBlank ++ [c, ' ']) ++ c' :: rest := by simp
  rw [trimBlanks, dropWhile_append_cons visible, split, rdropWhile_append_cons visible']
  simp

/-- The line of an image whose entry begins the line and ends it. -/
theorem IsPlainImage.imageValue?_eq (isPlain : IsPlainImage image) {indent : List Char}
    (isIndent : indent.all isBlank = true) (rest : List Char) :
    imageValue? (indent ++ ("image: ".toList ++ (image ++ rest))) =
      some (image ++ (withoutComment false rest).rdropWhile isBlank) := by
  have entry : (indent ++ ("image: ".toList ++ (image ++ rest))).dropWhile isBlank =
      "image:".toList ++ ' ' :: (image ++ rest) := by
    have dropped : indent.dropWhile isBlank = [] := by
      simpa [List.dropWhile_eq_nil_iff] using isIndent
    have split : "image: ".toList ++ (image ++ rest) = 'i' :: ("mage: ".toList ++ (image ++ rest)) :=
      rfl
    rw [split, dropWhile_append_cons (by decide), dropped]
    rfl
  have begins : withoutComment false (' ' :: (image ++ rest)) =
      ' ' :: (image ++ withoutComment false rest) := by
    rw [withoutComment, if_neg (by decide), isPlain.withoutComment_append]
  have dropSix : ("image:".toList ++ ' ' :: (image ++ rest)).drop 6 = ' ' :: (image ++ rest) := rfl
  simp only [imageValue?]
  rw [entry, if_pos (List.prefix_append _ _), dropSix]
  simp only
  rw [if_pos (by decide), begins, isPlain.trimBlanks_eq]

/-- An entry that begins a line and has an image after other characters: the image is no value
of both lines. -/
theorem image_of_shifted {currentImage targetImage shift rest : List Char}
    (isCurrent : IsPlainImage currentImage) (differ : currentImage ≠ targetImage)
    (current : trimBlanks (withoutComment false
      (shift ++ "image: ".toList ++ (currentImage ++ rest))) = currentImage)
    (target : trimBlanks (withoutComment false
      (shift ++ "image: ".toList ++ (targetImage ++ rest))) = targetImage) : False := by
  obtain ⟨kept, isKept⟩ | ⟨state, isState⟩ :=
    withoutComment_append false (shift ++ "image: ".toList)
  · -- A comment begins before the image: both lines have the same value.
    rw [isKept] at current target
    exact differ (current.symm.trans target)
  · -- The image and the key before it are kept, and a blank stands between them.
    rw [isState, isCurrent.withoutComment_append] at current
    cases shape : currentImage with
    | nil => exact isCurrent.nonempty shape
    | cons c image =>
        have listed : ' ' ∈ trimBlanks (shift ++ "image: ".toList ++
            (c :: image ++ withoutComment false rest)) := by
          have split : shift ++ "image: ".toList ++ (c :: image ++ withoutComment false rest) =
              (shift ++ "image".toList) ++ ':' :: ' ' :: c :: (image ++ withoutComment false rest) := by
            simp
          rw [split]
          apply mem_trimBlanks (by decide)
          exact isCurrent.isBlank_eq c (by simp [shape])
        rw [← shape, current] at listed
        exact isCurrent.notMem (by decide) listed

/-- No key begins inside the name of the key. -/
theorem key_of_prefix {entry rest : List Char} (visible : entry ≠ [])
    (begins : "image:".toList <+: entry ++ ("image: ".toList ++ rest)) :
    ∃ shift, entry = "image:".toList ++ shift := by
  obtain ⟨shift, isEntry⟩ | short :=
    List.prefix_or_prefix_of_prefix begins (List.prefix_append _ _)
  · exact ⟨shift, isEntry.symm⟩
  · rw [← List.mem_inits] at short
    have cases : entry ∈ ["".toList, "i".toList, "im".toList, "ima".toList, "imag".toList,
        "image".toList, "image:".toList] := short
    simp only [List.mem_cons, List.not_mem_nil, or_false] at cases
    obtain rfl | rfl | rfl | rfl | rfl | rfl | rfl := cases
    · exact absurd rfl visible
    · simp at begins
    · simp at begins
    · simp at begins
    · simp at begins
    · simp at begins
    · exact ⟨[], rfl⟩

/-- Behind other characters the key is part of a value or of no value, whatever follows it. -/
theorem imageValue?_behind {indent : List Char} (visible : indent.all isBlank ≠ true) :
    (∀ rest, imageValue? (indent ++ ("image: ".toList ++ rest)) = none) ∨
      ∃ shift, ∀ rest, imageValue? (indent ++ ("image: ".toList ++ rest)) =
        some (trimBlanks (withoutComment false (shift ++ "image: ".toList ++ rest))) := by
  have remains : indent.dropWhile isBlank ≠ [] := by
    simpa [List.dropWhile_eq_nil_iff] using visible
  have dropped : ∀ rest : List Char, (indent ++ ("image: ".toList ++ rest)).dropWhile isBlank =
      indent.dropWhile isBlank ++ ("image: ".toList ++ rest) := fun rest =>
    dropWhile_append_cons (by decide) indent ("mage: ".toList ++ rest)
  by_cases keyed : ∃ shift, indent.dropWhile isBlank = "image:".toList ++ shift
  · obtain ⟨shift, isEntry⟩ := keyed
    have entry : ∀ rest, (indent ++ ("image: ".toList ++ rest)).dropWhile isBlank =
        "image:".toList ++ (shift ++ "image: ".toList ++ rest) := by
      intro rest
      rw [dropped, isEntry]
      simp
    have dropSix : ∀ rest, ("image:".toList ++ (shift ++ "image: ".toList ++ rest)).drop 6 =
        shift ++ "image: ".toList ++ rest := fun _ => rfl
    cases shape : shift ++ "image: ".toList with
    | nil => simp at shape
    | cons c others =>
        by_cases blank : isBlank c = true
        · refine .inr ⟨shift, fun rest => ?_⟩
          simp only [imageValue?]
          rw [entry, if_pos (List.prefix_append _ _), dropSix, shape, List.cons_append]
          exact if_pos blank
        · refine .inl fun rest => ?_
          simp only [imageValue?]
          rw [entry, if_pos (List.prefix_append _ _), dropSix, shape, List.cons_append]
          exact if_neg blank
  · refine .inl fun rest => ?_
    simp only [imageValue?]
    rw [dropped, if_neg fun begins => keyed <| key_of_prefix remains begins]

/-- The line has the current image for its value, and the target image after the replacement,
exactly if nothing but blanks stands before the entry, and nothing but blanks and a comment
behind it. -/
theorem imageValue?_replaced {currentImage targetImage indent rest : List Char}
    (isCurrent : IsPlainImage currentImage) (isTarget : IsPlainImage targetImage)
    (differ : currentImage ≠ targetImage) :
    (imageValue? (indent ++ ("image: ".toList ++ (currentImage ++ rest))) = some currentImage ∧
      imageValue? (indent ++ ("image: ".toList ++ (targetImage ++ rest))) = some targetImage) ↔
      indent.all isBlank = true ∧ (withoutComment false rest).all isBlank = true := by
  by_cases isIndent : indent.all isBlank = true
  · rw [isCurrent.imageValue?_eq isIndent, isTarget.imageValue?_eq isIndent]
    simp [isIndent, List.rdropWhile_eq_nil_iff]
  · simp only [isIndent, false_and, iff_false, not_and, Bool.false_eq_true]
    intro current target
    obtain isNone | ⟨shift, isValue⟩ := imageValue?_behind isIndent
    · rw [isNone] at current
      cases current
    · rw [isValue] at current target
      exact image_of_shifted isCurrent differ (Option.some.inj current) (Option.some.inj target)

end Values

section Lines

variable {original currentImage targetImage : List Char}

/-- Two lists that differ in one place differ there in one way. -/
theorem eq_of_one_change {α : Type} {first first' second second' : α}
    {front front' back back' : List α}
    (before : front ++ first :: back = front' ++ first' :: back')
    (after : front ++ second :: back = front' ++ second' :: back')
    (differ : first ≠ second) (differ' : first' ≠ second') :
    first = first' ∧ second = second' := by
  induction front generalizing front' with
  | nil =>
      cases front' with
      | nil => exact ⟨(List.cons.inj before).1, (List.cons.inj after).1⟩
      | cons same front' =>
          exact absurd ((List.cons.inj before).1.trans (List.cons.inj after).1.symm) differ
  | cons same front ih =>
      cases front' with
      | nil => exact absurd ((List.cons.inj before).1.symm.trans (List.cons.inj after).1) differ'
      | cons same' front' => exact ih (List.cons.inj before).2 (List.cons.inj after).2

/-- A replacement of a line keeps the carriage returns of a text. -/
theorem ReplacesImage.notMem {result : List Char}
    (replaces : ReplacesImage original result currentImage targetImage)
    (isCurrent : IsPlainImage currentImage) (absent : '\r' ∉ result) : '\r' ∉ original := by
  obtain ⟨-, lines, later, start, finish, before, after, -, -⟩ := replaces
  have inResult : ∀ part ∈ lines ++ (start ++ targetImage ++ finish) :: later, '\r' ∉ part := by
    intro part listed inPart
    rw [← after] at listed
    exact absent (Text.mem_of_mem_splitOn listed inPart)
  rw [List.forall_mem_append, List.forall_mem_cons] at inResult
  simp only [List.mem_append, not_or] at inResult
  obtain ⟨inLines, ⟨⟨inStart, -⟩, inFinish⟩, inLater⟩ := inResult
  intro listed
  obtain isFeed | ⟨part, inParts, inPart⟩ := Text.mem_splitOn '\n' listed
  · cases isFeed
  · rw [before, List.mem_append, List.mem_cons] at inParts
    obtain inFront | rfl | inBack := inParts
    · exact inLines part inFront inPart
    · simp [inStart, inFinish, isCurrent.notMem] at inPart
    · exact inLater part inBack inPart

theorem isPlain_needle (isPlain : IsPlainImage image) :
    '\n' ∉ "image: ".toList ++ image ∧ '\r' ∉ "image: ".toList ++ image := by
  simp [isPlain.notMem]

/-- The replacement changes one image value exactly if the text has it for a whole value. -/
theorem replacesImage_iff (isCurrent : IsPlainImage currentImage)
    (isTarget : IsPlainImage targetImage)
    (once : Text.count ("image: ".toList ++ currentImage) (Text.universalNewlines original) = 1) :
    ReplacesImage original
        (Text.replaceFirst ("image: ".toList ++ currentImage) ("image: ".toList ++ targetImage)
          (Text.universalNewlines original)) currentImage targetImage ↔
      currentImage ≠ targetImage ∧
        isWholeValue ("image: ".toList ++ currentImage) original = true := by
  obtain ⟨before, after, found⟩ := Text.exists_of_count once
  have isText := Text.append_of_splitFirst found
  by_cases returns : '\r' ∈ original
  · have absent : '\r' ∉ Text.replaceFirst ("image: ".toList ++ currentImage)
        ("image: ".toList ++ targetImage) (Text.universalNewlines original) :=
      Text.notMem_replaceFirst (isPlain_needle isTarget).2 (Text.notMem_universalNewlines original)
    have notWhole : isWholeValue ("image: ".toList ++ currentImage) original = false := by
      rw [isWholeValue]
      split
      · rfl
      · simp [returns]
    simp only [notWhole, Bool.false_eq_true, and_false, iff_false]
    intro replaces
    exact replaces.notMem isCurrent absent returns
  · have same := Text.universalNewlines_eq_self.mpr returns
    rw [Text.replaceFirst_of_splitFirst found]
    rw [same] at found isText
    obtain ⟨lines, later, split⟩ := Text.splitOn_middle '\n' before after
    have isOriginal := split _ (isPlain_needle isCurrent).1
    have isResult := split _ (isPlain_needle isTarget).1
    rw [isText] at isOriginal
    have whole : isWholeValue ("image: ".toList ++ currentImage) original = true ↔
        (before.rtakeWhile (· ≠ '\n')).all isBlank = true ∧
          (withoutComment false (after.takeWhile (· ≠ '\n'))).all isBlank = true := by
      rw [isWholeValue, found]
      simp only [returns, not_false_eq_true, decide_true, Bool.and_true, Bool.and_eq_true]
    rw [whole, ReplacesImage]
    apply and_congr_right
    intro differ
    rw [← imageValue?_replaced isCurrent isTarget differ]
    simp only [List.append_assoc] at isOriginal isResult ⊢
    constructor
    · rintro ⟨lines', later', start, finish, first, second, current, target⟩
      rw [isOriginal] at first
      rw [isResult] at second
      obtain ⟨isLine, isLine'⟩ := eq_of_one_change first second (by simpa using differ)
        (by simpa using differ)
      rw [isLine, isLine']
      exact ⟨current, target⟩
    · rintro ⟨current, target⟩
      refine ⟨lines, later, before.rtakeWhile (· ≠ '\n') ++ "image: ".toList,
        after.takeWhile (· ≠ '\n'), ?_, ?_, ?_, ?_⟩
      · simpa using isOriginal
      · simpa using isResult
      · simpa using current
      · simpa using target

end Lines

section Images

variable {version image repository targetVersion : String}

private theorem digits_of_decimalNumber? {digits : List Char} {value : Nat}
    (isNumber : decimalNumber? digits = some value) :
    ∀ c ∈ digits, (decimalValue? c).isSome = true := by
  intro c listed
  rw [decimalNumber?] at isNumber
  split at isNumber
  · cases isNumber
  · obtain ⟨values, mapped, -⟩ := Option.map_eq_some_iff.mp isNumber
    obtain ⟨digit, -, isDigit⟩ := exists_of_mapM_some mapped c listed
    exact Option.isSome_of_eq_some isDigit

/-- The characters of a version. -/
theorem mem_version (valid : isVersion version = true) :
    ∀ c ∈ version.toList, c = 'v' ∨ c = '.' ∨ (decimalValue? c).isSome = true := by
  rw [isVersion, Option.isSome_iff_exists] at valid
  obtain ⟨numbers, isNumbers⟩ := valid
  rw [versionNumbers] at isNumbers
  split at isNumbers
  · rename_i rest isText
    split at isNumbers
    · rename_i major minor patch parts
      simp only [Option.bind_eq_bind, Option.bind_eq_some_iff] at isNumbers
      obtain ⟨_, isMajor, _, isMinor, _, isPatch, -⟩ := isNumbers
      intro c listed
      rw [isText, List.mem_cons] at listed
      obtain isStart | inRest := listed
      · exact .inl isStart
      · obtain isDot | ⟨part, inParts, inPart⟩ := Text.mem_splitOn '.' inRest
        · exact .inr (.inl isDot)
        · rw [parts] at inParts
          simp only [List.mem_cons, List.not_mem_nil, or_false] at inParts
          obtain rfl | rfl | rfl := inParts
          · exact .inr (.inr (digits_of_decimalNumber? isMajor c inPart))
          · exact .inr (.inr (digits_of_decimalNumber? isMinor c inPart))
          · exact .inr (.inr (digits_of_decimalNumber? isPatch c inPart))
    · cases isNumbers
  · cases isNumbers

/-- A character that no official image has. -/
theorem notMem_image {special : Char} (official : repository ∈ officialRepositories)
    (valid : isVersion version = true)
    (absent : ∀ repository ∈ officialRepositories, special ∉ repository.toList)
    (differs : special ≠ ':' ∧ special ≠ 'v' ∧ special ≠ '.' ∧ decimalValue? special = none) :
    special ∉ (repository ++ ":" ++ version).toList := by
  intro listed
  obtain ⟨notColon, notStart, notDot, notDigit⟩ := differs
  simp only [String.toList_append, List.mem_append] at listed
  obtain (inRepository | isColon) | inVersion := listed
  · exact absent repository official inRepository
  · exact notColon (by simpa using isColon)
  · obtain isStart | isDot | isDigit := mem_version valid special inVersion
    · exact notStart isStart
    · exact notDot isDot
    · rw [notDigit] at isDigit
      cases isDigit

/-- A version of an official image is an image. -/
theorem isPlainImage_of_version (official : repository ∈ officialRepositories)
    (valid : isVersion version = true) : IsPlainImage (repository ++ ":" ++ version).toList := by
  have plain : ∀ c ∈ [' ', '\t', '\n', '\r', '#'],
      ∀ repository ∈ officialRepositories, c ∉ repository.toList := by decide
  have differs : ∀ c ∈ [' ', '\t', '\n', '\r', '#'],
      c ≠ ':' ∧ c ≠ 'v' ∧ c ≠ '.' ∧ decimalValue? c = none := by decide
  refine ⟨by simp, fun c listed special => ?_⟩
  exact notMem_image official valid (plain c special) (differs c special) listed

private theorem eq_of_splitImage (split : splitImage image = some (repository, version)) :
    image = repository ++ ":" ++ version := by
  rw [splitImage] at split
  have parts := List.takeWhile_append_dropWhile (p := (· ≠ ':')) (l := image.toList.reverse)
  simp only at split
  split at split
  · cases split
  · rename_i first before dropped
    obtain ⟨rfl, rfl⟩ := Prod.mk.inj (Option.some.inj split)
    have isColon : first = ':' := by
      have stops := List.head?_dropWhile_not (· ≠ ':') image.toList.reverse
      rw [dropped] at stops
      simpa using stops
    rw [dropped, isColon] at parts
    generalize image.toList.reverse.takeWhile (· ≠ ':') = tag at parts
    have turned := congrArg List.reverse parts
    rw [List.reverse_reverse] at turned
    rw [← String.toList_inj, ← turned]
    simp

end Images

section Replacement

variable {environment : UpdateEnvironment} {config : RunnerConfig} {targetVersion : String}
  {currentImage targetImage : String} {path : Path} {host host' : Host} {found : Preflight}

private theorem isVersion_of_isForwardPatch {current target : String}
    (forward : isForwardPatch current target = true) : isVersion target = true := by
  rw [isForwardPatch] at forward
  split at forward
  · rename_i isCurrent isTarget
    rw [isVersion, isTarget]
    rfl
  · cases forward

/-- The images of an update are two versions of an official image. -/
theorem images_of_preflight
    (checked : preflight environment config targetVersion host = .ok found) :
    ∃ repository ∈ officialRepositories,
      isVersion found.currentVersion = true ∧ isVersion targetVersion = true ∧
        found.currentImage = repository ++ ":" ++ found.currentVersion ∧
        found.targetImage = repository ++ ":" ++ targetVersion := by
  simp only [preflight, bind_eq_ok] at checked
  obtain ⟨-, -, currentImage, -, ⟨repository, currentVersion⟩, isChecked, -, -, file, -, isFound⟩ :=
    checked
  cases isFound
  simp only [checkImage, bind_eq_ok] at isChecked
  obtain ⟨version, isVersionOf, isChecked⟩ := isChecked
  rw [versionFromImage] at isVersionOf
  split at isVersionOf
  · cases isVersionOf
  · rename_i name tag isSplit
    split at isVersionOf
    · rename_i valid
      cases isVersionOf
      rw [isSplit] at isChecked
      split at isChecked
      · cases isChecked
      · rename_i allowed
        simp only [Option.map_some, Option.getD_some] at isChecked
        split at isChecked
        · cases isChecked
        · rename_i official
          cases isChecked
          refine ⟨repository, not_not.mp official, valid, ?_, eq_of_splitImage isSplit, rfl⟩
          by_cases same : currentVersion = targetVersion
          · exact same ▸ valid
          · have forward := not_not.mp fun notForward => allowed ⟨same, notForward⟩
            exact isVersion_of_isForwardPatch forward
    · cases isVersionOf

/-- What the replacement of an image reads and writes. -/
theorem replaceComposeImage_ok
    (replaced : replaceComposeImage environment path currentImage targetImage host =
      .ok ⟨⟩ host') :
    ∃ original result,
      host.content path = some original ∧ host'.content path = some result ∧
      (∀ other, other ≠ path → host'.file? other = host.file? other) ∧
      Text.count (imageNeedle currentImage) (Text.universalNewlines original.toList) = 1 ∧
      result.toList = Text.replaceFirst (imageNeedle currentImage) (imageNeedle targetImage)
        (Text.universalNewlines original.toList) := by
  have ensured : Program.Ensures
      (replaceComposeImage environment path currentImage targetImage)
      (fun _ next => ∃ original result,
        host.content path = some original ∧ next.content path = some result ∧
        (∀ other, other ≠ path → next.file? other = host.file? other) ∧
        Text.count (imageNeedle currentImage) (Text.universalNewlines original.toList) = 1 ∧
        result.toList = Text.replaceFirst (imageNeedle currentImage) (imageNeedle targetImage)
          (Text.universalNewlines original.toList)) (fun _ _ => True) host := by
    simp only [replaceComposeImage, Program.ensures_bind, Program.ensures_get,
      Program.ensures_ofExcept]
    refine ⟨fun text isText => ?_, fun _ _ => trivial⟩
    simp only [readText, bind_eq_ok] at isText
    obtain ⟨-, -, isText⟩ := isText
    split at isText
    · cases isText
    rename_i original isOriginal
    cases isText
    by_cases once : Text.count (imageNeedle currentImage)
        (Text.universalNewlines original.toList) = 1
    · simp only [once, ne_eq, not_true_eq_false, if_false, reach, Program.ensures_bind,
        Program.ensures_ofExcept, Program.ensures_modify]
      refine ⟨fun _ _ => ⟨original, _, isOriginal, ?_, ?_, once, String.toList_ofList⟩,
        fun _ _ => trivial⟩
      · simp [Host.content]
      · intro other differs
        simp [differs]
    · rw [if_pos once, Program.ensures_bind, Program.ensures_throw]
      trivial
  exact ensured.of_ok replaced

/-- The replacement after the checks of an update changes the image of one line and nothing else
exactly if the versions differ and the compose file has the running image for a whole value. -/
theorem replaceComposeImage_iff {checkedHost : Host}
    (checked : preflight environment config targetVersion checkedHost = .ok found)
    (replaced : replaceComposeImage environment found.imageComposeFile found.currentImage
      found.targetImage host = .ok ⟨⟩ host') :
    ∃ original result,
      host.content found.imageComposeFile = some original ∧
      host'.content found.imageComposeFile = some result ∧
      (∀ other, other ≠ found.imageComposeFile → host'.file? other = host.file? other) ∧
      (ReplacesImage original.toList result.toList found.currentImage.toList
          found.targetImage.toList ↔
        found.currentVersion ≠ targetVersion ∧
          isWholeValue (imageNeedle found.currentImage) original.toList = true) := by
  obtain ⟨repository, official, currentValid, targetValid, isCurrent, isTarget⟩ :=
    images_of_preflight checked
  obtain ⟨original, result, isOriginal, isResult, others, once, isReplaced⟩ :=
    replaceComposeImage_ok replaced
  have needle : ∀ image : String, imageNeedle image = "image: ".toList ++ image.toList :=
    fun image => String.toList_append
  have differ : found.currentImage.toList ≠ found.targetImage.toList ↔
      found.currentVersion ≠ targetVersion := by
    rw [isCurrent, isTarget, ne_eq, String.toList_inj]
    simp
  rw [needle] at once
  rw [needle, needle] at isReplaced
  refine ⟨original, result, isOriginal, isResult, others, ?_⟩
  rw [isReplaced, needle, ← differ]
  apply replacesImage_iff ?_ ?_ once
  · exact isCurrent ▸ isPlainImage_of_version official currentValid
  · exact isTarget ▸ isPlainImage_of_version official targetValid

end Replacement

section Samples

def sampleNetworks : Json := .object [("proxy", .object [])]

/-- A docker that runs the image `traefik:v3.5.1`. -/
def sampleEnvironment : UpdateEnvironment where
  runs
    | .inspect _ .image => .exited 0 "traefik:v3.5.1" ""
    | .inspect _ .networks => .exited 0 sampleNetworks.dumps ""
    | .composeServices => .exited 0 "traefik" ""
    | _ => .exited 0 "" ""

def sampleConfig : RunnerConfig where
  composeDir := ["srv"]
  composeFiles := [["srv", "compose.yml"]]
  acmeFile := ["srv", "acme.json"]
  service := "traefik"
  network := "proxy"
  managerHealthUrl := "http://localhost:8000/health"
  serviceValid := by decide
  networkValid := by decide
  composeFilesNodup := by decide

def sampleHost (compose : String) : Host where
  files := [(["srv", "compose.yml"], ⟨compose, 0o600⟩), (["srv", "acme.json"], ⟨"x", 0o600⟩)]

def samplePreflight : Preflight where
  currentImage := "traefik:v3.5.1"
  currentVersion := "v3.5.1"
  targetImage := "traefik:v3.5.2"
  imageComposeFile := ["srv", "compose.yml"]

theorem jsonFields_sample :
    Json.loads sampleNetworks.dumps = some sampleNetworks ∧
      jsonFields sampleNetworks.dumps = some [("proxy", .object [])] := by
  have loaded : Json.loads sampleNetworks.dumps = some sampleNetworks := by
    apply Json.loads_dumps
    apply Json.Exact.object
    rw [List.forall_mem_singleton]
    exact .object nofun
  refine ⟨loaded, ?_⟩
  rw [jsonFields, loaded]
  rfl

/-- A docker that runs the image `traefik:v3.5.1`, as far as the checks before an update ask. -/
structure AnswersChecks (environment : UpdateEnvironment) : Prop where
  image : dockerInspect environment .preflight .image = .ok "traefik:v3.5.1"
  networks : dockerInspect environment .preflight .networks = .ok sampleNetworks.dumps
  services : runCommand environment .composeServices = .ok "traefik"
  passes : environment.fails = fun _ => none

private theorem AnswersChecks.reached_eq {environment : UpdateEnvironment}
    (answers : AnswersChecks environment) (step : Step) :
    reached environment step = .ok ⟨⟩ := by
  rw [reached, answers.passes]

theorem AnswersChecks.preflight_eq {environment : UpdateEnvironment} {compose : String}
    (answers : AnswersChecks environment)
    (once : Text.count (imageNeedle "traefik:v3.5.1") (Text.universalNewlines compose.toList) = 1) :
    preflight environment sampleConfig "v3.5.2" (sampleHost compose) = .ok samplePreflight := by
  have files : checkFiles environment sampleConfig (sampleHost compose) = .ok ⟨⟩ := by
    rw [checkFiles]
    simp only [answers.reached_eq]
    rfl
  have checked : checkImage "traefik:v3.5.1" "v3.5.2" = .ok ("traefik", "v3.5.1") := by decide
  have surroundings : checkSurroundings environment sampleConfig = .ok ⟨⟩ := by
    rw [checkSurroundings, answers.networks]
    simp only [bind, Except.bind, jsonFields_sample.1, jsonFields_sample.2]
    rw [answers.services]
    decide
  have file : findImageComposeFile environment sampleConfig "traefik:v3.5.1"
      (sampleHost compose) = .ok ["srv", "compose.yml"] := by
    have text : readText environment (.readComposeFile 0) ["srv", "compose.yml"]
        (sampleHost compose) = .ok (Text.universalNewlines compose.toList) := by
      rw [readText, answers.reached_eq]
      rfl
    simp only [findImageComposeFile, sampleConfig, List.zipIdx_cons, List.zipIdx_nil,
      List.mapM_cons, List.mapM_nil, text, once, bind, Except.bind, pure, Except.pure]
    rfl
  rw [preflight, files]
  simp only [bind, Except.bind]
  rw [answers.image]
  simp only [checked, surroundings, file]
  rfl

private theorem preflight_sample {compose : String}
    (once : Text.count (imageNeedle "traefik:v3.5.1") (Text.universalNewlines compose.toList) = 1) :
    preflight sampleEnvironment sampleConfig "v3.5.2" (sampleHost compose) =
      .ok samplePreflight := by
  have answers : AnswersChecks sampleEnvironment :=
    { image := by decide, networks := by decide, services := by decide, passes := rfl }
  exact answers.preflight_eq once

private theorem replaceComposeImage_sample {compose : String}
    (once : Text.count (imageNeedle "traefik:v3.5.1") (Text.universalNewlines compose.toList) = 1) :
    replaceComposeImage sampleEnvironment ["srv", "compose.yml"] "traefik:v3.5.1"
        "traefik:v3.5.2" (sampleHost compose) =
      .ok ⟨⟩ ((sampleHost compose).write ["srv", "compose.yml"]
        ⟨String.ofList (Text.replaceFirst (imageNeedle "traefik:v3.5.1")
          (imageNeedle "traefik:v3.5.2") (Text.universalNewlines compose.toList)), 0o600⟩) := by
  have text : readText sampleEnvironment .readReplaced ["srv", "compose.yml"]
      (sampleHost compose) = .ok (Text.universalNewlines compose.toList) := rfl
  simp only [replaceComposeImage, bind, EStateM.bind, get, getThe, MonadStateOf.get]
  delta EStateM.get
  simp only [text, Program.ofExcept, pure, EStateM.pure, once]
  rfl

theorem replaceComposeImage_iff_sample :
    ∃ host, replaceComposeImage sampleEnvironment samplePreflight.imageComposeFile
        samplePreflight.currentImage samplePreflight.targetImage
        (sampleHost "services:\n  traefik:\n    image: traefik:v3.5.1 # pinned\n") = .ok ⟨⟩ host ∧
      host.content ["srv", "compose.yml"] =
        some "services:\n  traefik:\n    image: traefik:v3.5.2 # pinned\n" ∧
      ReplacesImage "services:\n  traefik:\n    image: traefik:v3.5.1 # pinned\n".toList
        "services:\n  traefik:\n    image: traefik:v3.5.2 # pinned\n".toList
        samplePreflight.currentImage.toList samplePreflight.targetImage.toList := by
  have once : Text.count (imageNeedle "traefik:v3.5.1") (Text.universalNewlines
      "services:\n  traefik:\n    image: traefik:v3.5.1 # pinned\n".toList) = 1 := by decide
  have replaced : Text.replaceFirst (imageNeedle "traefik:v3.5.1") (imageNeedle "traefik:v3.5.2")
      (Text.universalNewlines
        "services:\n  traefik:\n    image: traefik:v3.5.1 # pinned\n".toList) =
        "services:\n  traefik:\n    image: traefik:v3.5.2 # pinned\n".toList := by decide
  have run := replaceComposeImage_sample once
  rw [replaced, String.ofList_toList] at run
  obtain ⟨original, result, isOriginal, isResult, -, whole⟩ :=
    replaceComposeImage_iff (preflight_sample once) run
  have written : ((sampleHost "services:\n  traefik:\n    image: traefik:v3.5.1 # pinned\n").write
      ["srv", "compose.yml"] ⟨"services:\n  traefik:\n    image: traefik:v3.5.2 # pinned\n",
        0o600⟩).content ["srv", "compose.yml"] =
          some "services:\n  traefik:\n    image: traefik:v3.5.2 # pinned\n" := by
    rw [Host.content, Host.file?_write, if_pos rfl, Option.map_some]
  refine ⟨_, run, written, ?_⟩
  cases isOriginal.symm.trans
    (rfl : _ = some "services:\n  traefik:\n    image: traefik:v3.5.1 # pinned\n")
  cases isResult.symm.trans written
  exact whole.mpr ⟨by decide, by decide⟩

/-- The running image is found in a longer tag, and the digits behind it are kept. -/
theorem longer_tag_is_replaced :
    ∃ host, preflight sampleEnvironment sampleConfig "v3.5.2"
        (sampleHost "services:\n  traefik:\n    image: traefik:v3.5.10\n") = .ok samplePreflight ∧
      replaceComposeImage sampleEnvironment samplePreflight.imageComposeFile
        samplePreflight.currentImage samplePreflight.targetImage
        (sampleHost "services:\n  traefik:\n    image: traefik:v3.5.10\n") = .ok ⟨⟩ host ∧
      host.content ["srv", "compose.yml"] =
        some "services:\n  traefik:\n    image: traefik:v3.5.20\n" ∧
      ¬ ReplacesImage "services:\n  traefik:\n    image: traefik:v3.5.10\n".toList
        "services:\n  traefik:\n    image: traefik:v3.5.20\n".toList
        samplePreflight.currentImage.toList samplePreflight.targetImage.toList := by
  have once : Text.count (imageNeedle "traefik:v3.5.1") (Text.universalNewlines
      "services:\n  traefik:\n    image: traefik:v3.5.10\n".toList) = 1 := by decide
  have replaced : Text.replaceFirst (imageNeedle "traefik:v3.5.1") (imageNeedle "traefik:v3.5.2")
      (Text.universalNewlines "services:\n  traefik:\n    image: traefik:v3.5.10\n".toList) =
        "services:\n  traefik:\n    image: traefik:v3.5.20\n".toList := by decide
  have current : IsPlainImage "traefik:v3.5.1".toList := ⟨by decide, by decide⟩
  have target : IsPlainImage "traefik:v3.5.2".toList := ⟨by decide, by decide⟩
  refine ⟨_, preflight_sample once, replaceComposeImage_sample once, ?_, ?_⟩
  · rw [Host.content, Host.file?_write, if_pos rfl, replaced, Option.map_some,
      String.ofList_toList]
  · rw [← replaced]
    intro replaces
    have whole := (replacesImage_iff current target once).mp replaces
    exact absurd whole.2 (by decide)

end Samples

end TraefikManager.Update
