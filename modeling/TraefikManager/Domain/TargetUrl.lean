import TraefikManager.Domain.RedirectHost

/-!
# Addresses a redirect may point to

An absolute web address with a host, and a bare host with a port and a path: what each of
them names, how the splitting of addresses reads it, and that a bare host becomes the web
address that names the same.
-/

namespace TraefikManager.Domain

open Foundation

/-- What an address points to. -/
structure Target where
  host : List Char
  port : Option (List Char)
  path : List Char
  query : List Char
  deriving DecidableEq, Repr

/-- The target of a host with its port and what follows them. -/
def Target.of (hostAndPort : List Char × Option (List Char)) (tail : List Char) : Target :=
  let (path, query, _) := Url.splitTail tail
  { host := hostAndPort.1, port := hostAndPort.2, path, query }

/-- An absolute `http` or `https` address whose host is not empty. -/
inductive IsWebAddress : List Char → Target → Prop
  | address (scheme authority tail : List Char)
      (web : isWebScheme (scheme.map Text.lowerChar) = true)
      (inside : ∀ c ∈ authority, Url.isDelimiter c = false)
      (ends : Url.EndsAuthority tail)
      (readable : Url.checkNetloc authority = .ok ())
      (host : (Url.hostinfo authority).1 ≠ []) :
      IsWebAddress (scheme ++ ':' :: '/' :: '/' :: (authority ++ tail))
        (Target.of (Url.hostinfo authority) tail)

/-- A host name or an address of version four, as far as its characters go. -/
structure IsHost (host : List Char) : Prop where
  nonempty : host ≠ []
  chars : ∀ c ∈ host, isHostChar c = true

/-- A port whose digits are of one class. -/
structure IsPort (digit : Char → Bool) (port : List Char) : Prop where
  nonempty : port ≠ []
  digits : ∀ c ∈ port, digit c = true

/-- Nothing, or a path with what follows it. -/
def IsPath (tail : List Char) : Prop := tail = [] ∨ tail.head? = some '/'

/-- A bare host with an optional port and an optional path. -/
inductive IsBareAddress (digit : Char → Bool) : List Char → Target → Prop
  | host (host tail : List Char) (isHost : IsHost host) (isPath : IsPath tail) :
      IsBareAddress digit (host ++ tail) (Target.of (host, none) tail)
  | hostPort (host port tail : List Char) (isHost : IsHost host) (isPort : IsPort digit port)
      (isPath : IsPath tail) :
      IsBareAddress digit (host ++ ':' :: (port ++ tail)) (Target.of (host, some port) tail)

section Characters

variable {c : Char} {chars : List Char} {digit : Char → Bool}

private theorem notMem_of_all {p : Char → Bool} (all : ∀ c ∈ chars, p c = true)
    (fails : p c = false) : c ∉ chars := by
  intro member
  rw [all c member] at fails
  cases fails

private theorem isDigit_iff : Text.isDigit c = true ↔ 48 ≤ c.toNat ∧ c.toNat ≤ 57 := by
  simp [Text.isDigit, Char.le_def, UInt32.le_iff_toNat_le]

private theorem isLetter_iff : Text.isLetter c = true ↔
    97 ≤ c.toNat ∧ c.toNat ≤ 122 ∨ 65 ≤ c.toNat ∧ c.toNat ≤ 90 := by
  simp [Text.isLetter, Char.le_def, UInt32.le_iff_toNat_le]

theorem isDecimal_of_isDigit (isDigit : Text.isDigit c = true) : Text.isDecimal c = true := by
  obtain ⟨low, high⟩ := isDigit_iff.mp isDigit
  rw [Text.isDecimal, List.any_eq_true]
  refine ⟨0x30, by decide, ?_⟩
  simp only [Bool.and_eq_true, decide_eq_true_eq]
  omega

private theorem isHostChar_ascii (isChar : isHostChar c = true) : c.toNat < 128 := by
  simp only [isHostChar, Bool.or_eq_true, isLetter_iff, isDigit_iff, decide_eq_true_eq,
    List.mem_cons, List.not_mem_nil, or_false] at isChar
  rcases isChar with (letter | digit) | rfl | rfl
  · omega
  · omega
  · decide
  · decide

private theorem unmasked_of_isHostChar (isChar : isHostChar c = true) : Url.isMasked c = false := by
  have small := isHostChar_ascii isChar
  by_contra masked
  rw [Bool.not_eq_false, Url.isMasked, decide_eq_true_eq] at masked
  have large : ∀ code ∈ Url.maskedCodes, 128 ≤ code := by decide
  exact absurd small (Nat.not_lt.mpr (large _ masked))

private theorem unmasked_of_isDecimal (isDecimal : Text.isDecimal c = true) :
    Url.isMasked c = false := by
  by_contra masked
  rw [Bool.not_eq_false, Url.isMasked, decide_eq_true_eq] at masked
  have apart : ∀ code ∈ Url.maskedCodes, (Text.decimalZeros.any fun start =>
      start ≤ code && code < start + 10) = false := by decide
  rw [Text.isDecimal, apart _ masked] at isDecimal
  cases isDecimal

end Characters

section Bare

variable {digit : Char → Bool} {host port tail text : List Char} {target : Target}

/-- What follows a path's start is not part of a run the slash does not belong to. -/
theorem IsPath.stops (isPath : IsPath tail) {p : Char → Bool} (noSlash : p '/' = false) :
    tail.takeWhile p = [] ∧ tail.dropWhile p = tail := by
  cases tail with
  | nil => exact ⟨rfl, rfl⟩
  | cons c rest =>
      have isSlash : c = '/' := by simpa [IsPath] using isPath
      subst isSlash
      simp [noSlash]

private theorem IsPath.endsAuthority (isPath : IsPath tail) : Url.EndsAuthority tail := by
  intro c first
  rcases isPath with rfl | slash
  · cases first
  · rw [slash] at first
    cases first
    decide

theorem IsPort.mono {wider : Char → Bool} (isPort : IsPort digit port)
    (le : ∀ c, digit c = true → wider c = true) : IsPort wider port :=
  ⟨isPort.nonempty, fun c member => le c (isPort.digits c member)⟩

theorem IsBareAddress.mono {wider : Char → Bool} (bare : IsBareAddress digit text target)
    (le : ∀ c, digit c = true → wider c = true) : IsBareAddress wider text target := by
  cases bare with
  | host host tail isHost isPath => exact .host host tail isHost isPath
  | hostPort host port tail isHost isPort isPath =>
      exact .hostPort host port tail isHost (isPort.mono le) isPath

/-- The pattern of bare targets matches the bare addresses, with digits of any script. -/
theorem isBareTarget_iff :
    isBareTarget text = true ↔ ∃ target, IsBareAddress Text.isDecimal text target := by
  constructor
  · intro accepted
    unfold isBareTarget at accepted
    dsimp only at accepted
    rw [decide_eq_true_eq] at accepted
    obtain ⟨nonempty, ends⟩ := accepted
    have isHost : IsHost (text.takeWhile isHostChar) :=
      ⟨nonempty, fun c member => List.mem_takeWhile_imp member⟩
    have isText := List.takeWhile_append_dropWhile (p := isHostChar) (l := text)
    split at ends
    · rename_i rest isRest
      rw [isRest] at isText
      split at ends
      · rename_i startsWithDigit
        have isPort : IsPort Text.isDecimal (rest.takeWhile Text.isDecimal) := by
          refine ⟨?_, fun c member => List.mem_takeWhile_imp member⟩
          cases rest with
          | nil => cases startsWithDigit
          | cons c others =>
              have isDigit : Text.isDecimal c = true := startsWithDigit
              simp [isDigit]
        have isRest' := List.takeWhile_append_dropWhile (p := Text.isDecimal) (l := rest)
        have bare := IsBareAddress.hostPort _ _ _ isHost isPort ends
        rw [isRest', isText] at bare
        exact ⟨_, bare⟩
      · rw [isRest] at ends
        simp at ends
    · have bare : IsBareAddress Text.isDecimal _ _ := .host _ _ isHost ends
      rw [isText] at bare
      exact ⟨_, bare⟩
  · rintro ⟨target, bare⟩
    unfold isBareTarget
    dsimp only
    rw [decide_eq_true_eq]
    cases bare with
    | host host tail isHost isPath =>
        obtain ⟨noHost, allTail⟩ := isPath.stops (p := isHostChar) (by decide)
        rw [List.takeWhile_append_of_pos isHost.chars, List.dropWhile_append_of_pos isHost.chars,
          noHost, allTail, List.append_nil]
        refine ⟨isHost.nonempty, ?_⟩
        split
        · rename_i rest
          simp [IsPath] at isPath
        · exact isPath
    | hostPort host port tail isHost isPort isPath =>
        obtain ⟨-, allTail⟩ := isPath.stops (p := Text.isDecimal) (by decide)
        have noColon : isHostChar ':' = false := by decide
        rw [List.takeWhile_append_of_pos isHost.chars, List.dropWhile_append_of_pos isHost.chars]
        simp only [List.takeWhile_cons, List.dropWhile_cons, noColon, Bool.false_eq_true, if_false,
          List.append_nil]
        refine ⟨isHost.nonempty, ?_⟩
        obtain ⟨first, others, rfl⟩ := List.exists_cons_of_ne_nil isPort.nonempty
        have startsWithDigit : Text.isDecimal first = true := isPort.digits first (by simp)
        rw [if_pos, List.dropWhile_append_of_pos isPort.digits, allTail]
        · exact isPath
        · exact startsWithDigit

end Bare

section Web

variable {host port tail text : List Char} {target : Target}

/-- The characters a bare host and its port are written with. -/
def isBareChar (c : Char) : Bool := isHostChar c || Text.isDecimal c || c = ':'

private theorem unmasked_of_isBareChar {c : Char} (isChar : isBareChar c = true) :
    Url.isMasked c = false := by
  simp only [isBareChar, Bool.or_eq_true, decide_eq_true_eq] at isChar
  rcases isChar with (isHostChar | isDecimal) | rfl
  · exact unmasked_of_isHostChar isHostChar
  · exact unmasked_of_isDecimal isDecimal
  · decide

private theorem delimiter_of_isBareChar {c : Char} (isChar : isBareChar c = true) :
    Url.isDelimiter c = false := by
  by_contra delimits
  rw [Bool.not_eq_false, Url.isDelimiter, decide_eq_true_eq] at delimits
  have outside : ∀ c ∈ ['/', '?', '#'], isBareChar c = false := by decide
  rw [outside c delimits] at isChar
  cases isChar

/-- What is written with these characters is an authority that is read. -/
theorem IsWebAddress.of_bareChars {authority : List Char}
    (chars : ∀ c ∈ authority, isBareChar c = true) (isPath : IsPath tail)
    (hasHost : (Url.hostinfo authority).1 ≠ []) :
    IsWebAddress ("https://".toList ++ (authority ++ tail))
      (Target.of (Url.hostinfo authority) tail) := by
  have web : isWebScheme ("https".toList.map Text.lowerChar) = true := by decide
  have inside : ∀ c ∈ authority, Url.isDelimiter c = false := fun c member =>
    delimiter_of_isBareChar (chars c member)
  have unmasked : authority.any Url.isMasked = false := by
    rw [List.any_eq_false]
    intro c member
    simp [unmasked_of_isBareChar (chars c member)]
  have readable := Url.checkNetloc_plain (notMem_of_all chars (by decide))
    (notMem_of_all chars (by decide)) unmasked
  exact .address "https".toList authority tail web inside isPath.endsAuthority readable hasHost

/-- A bare address with the scheme in front is a web address of the same target. -/
theorem IsBareAddress.web (bare : IsBareAddress Text.isDecimal text target) :
    IsWebAddress ("https://".toList ++ text) target := by
  cases bare with
  | host host tail isHost isPath =>
      have read : Url.hostinfo host = (host, none) :=
        Url.hostinfo_name (notMem_of_all isHost.chars (by decide))
          (notMem_of_all isHost.chars (by decide)) (notMem_of_all isHost.chars (by decide))
      rw [← read]
      apply IsWebAddress.of_bareChars _ isPath
      · rw [read]
        exact isHost.nonempty
      · intro c member
        simp [isBareChar, isHost.chars c member]
  | hostPort host port tail isHost isPort isPath =>
      have chars : ∀ c ∈ host ++ ':' :: port, isBareChar c = true := by
        intro c member
        rw [List.mem_append, List.mem_cons] at member
        rcases member with inHost | rfl | inPort
        · simp [isBareChar, isHost.chars c inHost]
        · decide
        · simp [isBareChar, isPort.digits c inPort]
      have read : Url.hostinfo (host ++ ':' :: port) = (host, some port) :=
        Url.hostinfo_port (notMem_of_all chars (by decide)) (notMem_of_all chars (by decide))
          (notMem_of_all isHost.chars (by decide)) isPort.nonempty
      have address := IsWebAddress.of_bareChars chars isPath (by
        rw [read]
        exact isHost.nonempty)
      rw [read, List.append_assoc, List.cons_append] at address
      exact address

end Web

section Reading

variable {host port tail text scheme : List Char} {target : Target}

/-- There is no blank in the text. -/
def NoBlanks (text : List Char) : Prop := ∀ c ∈ text, Text.isSpace c = false

theorem cleaned_of_noBlanks (noBlanks : NoBlanks text) :
    Url.cleaned text = text.dropWhile Url.isControlOrSpace := by
  rw [Url.cleaned, List.filter_eq_self]
  intro c member
  have blankFree := noBlanks c (List.dropWhile_sublist _ |>.subset member)
  by_contra removed
  simp only [Url.isRemoved, Bool.not_eq_true', decide_eq_false_iff_not, not_not] at removed
  have allBlank : ∀ c ∈ ['\t', '\r', '\n'], Text.isSpace c = true := by decide
  rw [allBlank c removed] at blankFree
  cases blankFree

/-- A text that starts with no control character is split as it is. -/
theorem cleaned_of_first (noBlanks : NoBlanks text)
    (first : ∀ c, text.head? = some c → Url.isControlOrSpace c = false) : Url.cleaned text = text := by
  rw [cleaned_of_noBlanks noBlanks]
  cases text with
  | nil => rfl
  | cons c rest => simp [first c rfl]

theorem printable_of_isLetter {c : Char} (letter : Text.isLetter c = true) :
    Url.isControlOrSpace c = false := by
  have := isLetter_iff.mp letter
  simp only [Url.isControlOrSpace, decide_eq_false_iff_not]
  omega

private theorem printable_of_isHostChar {c : Char} (isChar : isHostChar c = true) :
    Url.isControlOrSpace c = false := by
  simp only [isHostChar, Bool.or_eq_true, isLetter_iff, isDigit_iff, decide_eq_true_eq,
    List.mem_cons, List.not_mem_nil, or_false] at isChar
  rcases isChar with (letter | digit) | rfl | rfl
  · simp only [Url.isControlOrSpace, decide_eq_false_iff_not]
    omega
  · simp only [Url.isControlOrSpace, decide_eq_false_iff_not]
    omega
  · decide
  · decide

private theorem isLetter_of_lowerChar {c : Char} (lower : Text.lowerChar c ∈ ['h', 't', 'p', 's']) :
    Text.isLetter c = true := by
  by_cases kelvin : c.toNat = 0x212a
  · rw [Text.lowerChar, if_pos kelvin] at lower
    exact absurd lower (by decide)
  · rw [Text.lowerChar, if_neg kelvin, Char.toLower.eq_def] at lower
    split at lower
    · rename_i upper
      rw [isLetter_iff]
      right
      exact ⟨upper.1, upper.2⟩
    · have letters : ∀ c ∈ ['h', 't', 'p', 's'], Text.isLetter c = true := by decide
      exact letters c lower

theorem isScheme_of_isWebScheme (web : isWebScheme (scheme.map Text.lowerChar) = true) :
    Url.IsScheme scheme := by
  have letters : ∀ c ∈ scheme, Text.isLetter c = true := by
    intro c member
    have lower : Text.lowerChar c ∈ scheme.map Text.lowerChar := List.mem_map_of_mem member
    rw [isWebScheme, decide_eq_true_eq] at web
    apply isLetter_of_lowerChar
    have inWeb : ∀ web ∈ ["http".toList, "https".toList], ∀ c ∈ web, c ∈ ['h', 't', 'p', 's'] := by
      decide
    exact inWeb _ web _ lower
  constructor
  · cases scheme with
    | nil => exact absurd web (by decide)
    | cons c rest => exact letters c (by simp)
  · rw [List.all_eq_true]
    intro c member
    simp [Url.isSchemeChar, letters c member]

/-- What the splitting makes of a scheme and what follows it. -/
theorem split_of_isScheme (noBlanks : NoBlanks (scheme ++ ':' :: tail)) (valid : Url.IsScheme scheme) :
    Url.splitScheme (Url.cleaned (scheme ++ ':' :: tail)) = (scheme.map Text.lowerChar, tail) := by
  rw [cleaned_of_first noBlanks, Url.splitScheme_of_isScheme valid]
  intro c first
  cases scheme with
  | nil => cases valid.letter
  | cons letter rest =>
      cases first
      exact printable_of_isLetter valid.letter

theorem IsWebAddress.read (web : IsWebAddress text target) (noBlanks : NoBlanks text) :
    ∃ parsed, Url.urlsplit text = .ok parsed ∧ isWebScheme parsed.scheme = true := by
  cases web with
  | address scheme authority tail web inside ends readable hasHost =>
      have split := split_of_isScheme noBlanks (isScheme_of_isWebScheme web)
      have reads := Url.splitNetloc_slashes inside ends
      obtain ⟨parsed, isParsed, isScheme⟩ :=
        Url.exists_urlsplit (scheme ++ ':' :: '/' :: '/' :: (authority ++ tail)) (by
          rw [split, reads]
          exact readable)
      refine ⟨parsed, isParsed, ?_⟩
      rw [isScheme, split]
      exact web

theorem IsHost.isScheme_iff (isHost : IsHost host) :
    Url.IsScheme host ↔ host.head?.any Text.isLetter = true := by
  constructor
  · exact Url.IsScheme.letter
  · intro letter
    refine ⟨letter, List.all_eq_true.mpr fun c member => ?_⟩
    have isChar := isHost.chars c member
    simp only [isHostChar, Url.isSchemeChar, Bool.or_eq_true, decide_eq_true_eq, List.mem_cons,
      List.not_mem_nil, or_false] at isChar ⊢
    tauto

/-- Without two slashes there is no authority to refuse. -/
theorem splitNetloc_of_first {url : List Char} (noSlash : url.head? ≠ some '/') :
    Url.splitNetloc url = ([], url) := by
  unfold Url.splitNetloc
  split
  · exact absurd rfl noSlash
  · rfl

/-- A text that starts with a host and has no scheme is split without one. -/
theorem read_unschemed {rest : List Char} (isHost : IsHost host) (noBlanks : NoBlanks (host ++ rest))
    (noScheme : (Url.splitScheme (host ++ rest)).1 = []) :
    ∃ parsed, Url.urlsplit (host ++ rest) = .ok parsed ∧ parsed.scheme = [] := by
  obtain ⟨first, others, rfl⟩ := List.exists_cons_of_ne_nil isHost.nonempty
  have isChar : isHostChar first = true := isHost.chars first (by simp)
  have whole : Url.cleaned (first :: others ++ rest) = first :: others ++ rest := by
    apply cleaned_of_first noBlanks
    intro c same
    cases same
    exact printable_of_isHostChar isChar
  have noSlash : (first :: others ++ rest).head? ≠ some '/' := by
    intro slash
    cases slash
    exact absurd isChar (by decide)
  obtain ⟨parsed, isParsed, isScheme⟩ := Url.exists_urlsplit (first :: others ++ rest) (by
    rw [whole, Url.splitScheme_of_none noScheme, splitNetloc_of_first noSlash]
    rfl)
  refine ⟨parsed, isParsed, ?_⟩
  rw [isScheme, whole, noScheme]

/-- A bare host without a port is split without a scheme. -/
theorem read_host (isHost : IsHost host) (isPath : IsPath tail) (noBlanks : NoBlanks (host ++ tail)) :
    ∃ parsed, Url.urlsplit (host ++ tail) = .ok parsed ∧ parsed.scheme = [] := by
  apply read_unschemed isHost noBlanks
  by_contra found
  obtain ⟨scheme, rest, valid, isText, -⟩ := Url.isScheme_of_splitScheme found
  -- The colon stands neither in the host nor, with the path before it, after a scheme.
  rcases List.append_eq_append_iff.mp isText with ⟨more, isScheme, isTail⟩ | ⟨more, isHostText, isRest⟩
  · cases more with
    | nil =>
        rw [List.nil_append] at isTail
        simp [IsPath, isTail] at isPath
    | cons c others =>
        have slash : c = '/' := by
          rw [isTail] at isPath
          simpa [IsPath] using isPath
        have inScheme : '/' ∈ scheme := by simp [isScheme, slash]
        exact absurd (List.all_eq_true.mp valid.chars '/' inScheme) (by decide)
  · cases more with
    | nil =>
        rw [List.nil_append] at isRest
        simp [IsPath, ← isRest] at isPath
    | cons c others =>
        rw [List.cons_append, List.cons.injEq] at isRest
        have inHost : ':' ∈ host := by simp [isHostText, ← isRest.1]
        exact absurd (isHost.chars ':' inHost) (by decide)

/-- A bare host with a port is split at its colon when it starts with a letter. -/
theorem read_hostPort (isHost : IsHost host) (isPort : IsPort Text.isDecimal port)
    (noBlanks : NoBlanks (host ++ ':' :: (port ++ tail))) :
    ∃ parsed, Url.urlsplit (host ++ ':' :: (port ++ tail)) = .ok parsed ∧
      parsed.scheme =
        if host.head?.any Text.isLetter then host.map Text.lowerChar else [] := by
  by_cases letter : host.head?.any Text.isLetter = true
  · have split := split_of_isScheme noBlanks (isHost.isScheme_iff.mpr letter)
    have noSlash : (port ++ tail).head? ≠ some '/' := by
      obtain ⟨digit, others, rfl⟩ := List.exists_cons_of_ne_nil isPort.nonempty
      intro slash
      cases slash
      exact absurd (isPort.digits '/' (by simp)) (by decide)
    obtain ⟨parsed, isParsed, isScheme⟩ := Url.exists_urlsplit (host ++ ':' :: (port ++ tail)) (by
      rw [split, splitNetloc_of_first noSlash]
      rfl)
    refine ⟨parsed, isParsed, ?_⟩
    rw [isScheme, split, if_pos letter]
  · have noColon : ':' ∉ host := notMem_of_all isHost.chars (by decide)
    have noScheme : (Url.splitScheme (host ++ ':' :: (port ++ tail))).1 = [] := by
      by_contra found
      obtain ⟨scheme, rest, valid, isText, -⟩ := Url.isScheme_of_splitScheme found
      have cut : Url.before ':' (host ++ ':' :: (port ++ tail)) = host := Url.before_append noColon
      have same : host = scheme := by
        rw [← cut, isText, Url.before_append valid.noColon]
      exact letter (isHost.isScheme_iff.mp (same ▸ valid))
    rw [if_neg letter]
    exact read_unschemed isHost noBlanks noScheme

end Reading

end TraefikManager.Domain
