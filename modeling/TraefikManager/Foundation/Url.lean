import TraefikManager.Foundation.IpNetwork
import Mathlib.Data.List.DropRight

/-!
# Splitting web addresses

`urllib.parse.urlsplit` and the reading of host and port from an authority: which scheme is
found, where the authority ends and which authorities are refused. The splitting checks no
more than this, so that an address without a host is split like any other.
-/

namespace Foundation.Url

open Foundation.Text

/-- The parts of an address. -/
structure SplitResult where
  scheme : List Char
  netloc : List Char
  path : List Char
  query : List Char
  fragment : List Char
  deriving DecidableEq, Repr

/-- The reasons for which an authority is refused. -/
inductive UrlError where
  | invalidIpv6
  | ipvFuture
  | ipv4InBrackets
  | notAnAddress (hostname : List Char)
  | invalidCharacters (netloc : List Char)
  deriving DecidableEq, Repr

/-- The text of the error. The host is quoted plainly, where `repr` escapes some characters. -/
def UrlError.message : UrlError → String
  | invalidIpv6 => "Invalid IPv6 URL"
  | ipvFuture => "IPvFuture address is invalid"
  | ipv4InBrackets => "An IPv4 address cannot be in brackets"
  | notAnAddress hostname =>
      "'" ++ String.ofList hostname ++ "' does not appear to be an IPv4 or IPv6 address"
  | invalidCharacters netloc =>
      "netloc '" ++ String.ofList netloc ++ "' contains invalid characters under NFKC normalization"

section Characters

/-- The characters taken off the front of an address. -/
def isControlOrSpace (c : Char) : Bool := c.toNat ≤ 32

/-- The characters taken out of an address wherever they stand. -/
def isRemoved (c : Char) : Bool := c ∈ ['\t', '\r', '\n']

def isSchemeChar (c : Char) : Bool := isLetter c || isDigit c || c ∈ ['+', '-', '.']

/-- The characters at which an authority ends. -/
def isDelimiter (c : Char) : Bool := c ∈ ['/', '?', '#']

/-- The characters whose compatibility form has one of `/`, `?`, `#`, `@` and `:`. -/
def maskedCodes : List Nat :=
  [0x2047, 0x2048, 0x2049, 0x2100, 0x2101, 0x2105, 0x2106, 0x2a74, 0xfe13, 0xfe16, 0xfe55, 0xfe56,
    0xfe5f, 0xfe6b, 0xff03, 0xff0f, 0xff1a, 0xff1f, 0xff20]

def isMasked (c : Char) : Bool := c.toNat ∈ maskedCodes

end Characters

/-- The text before the first occurrence of a character. -/
def before (separator : Char) (chars : List Char) : List Char := chars.takeWhile (· ≠ separator)

/-- The text after the first occurrence of a character, empty when there is none. -/
def after (separator : Char) (chars : List Char) : List Char :=
  (chars.dropWhile (· ≠ separator)).drop 1

/-- The text after the last occurrence of a character, everything when there is none. -/
def afterLast (separator : Char) (chars : List Char) : List Char :=
  chars.rtakeWhile (· ≠ separator)

/-- An address as it is split. -/
def cleaned (url : List Char) : List Char :=
  (url.dropWhile isControlOrSpace).filter fun c => !isRemoved c

/-- The scheme in small letters and what follows its colon. -/
def splitScheme (url : List Char) : List Char × List Char :=
  let scheme := before ':' url
  if scheme.length < url.length ∧ scheme.head?.any isLetter ∧ scheme.all isSchemeChar then
    (scheme.map lowerChar, after ':' url)
  else
    ([], url)

/-- The authority and what follows it. -/
def splitNetloc : List Char → List Char × List Char
  | '/' :: '/' :: rest => (rest.takeWhile (!isDelimiter ·), rest.dropWhile (!isDelimiter ·))
  | url => ([], url)

/-- `v[a-fA-F0-9]+\..+` -/
def isFutureAddress : List Char → Bool
  | 'v' :: rest =>
      let version := rest.takeWhile fun c => (Ip.hexDigitValue c).isSome
      match rest.dropWhile fun c => (Ip.hexDigitValue c).isSome with
      | '.' :: address => version ≠ [] ∧ address ≠ [] ∧ '\n' ∉ address
      | _ => false
  | _ => false

/-- `_check_bracketed_host`. -/
def checkBracketedHost (hostname : List Char) : Except UrlError Unit :=
  if hostname.head? = some 'v' then
    if isFutureAddress hostname then .ok () else .error .ipvFuture
  else
    match Ip.ipAddress (String.ofList hostname) with
    | some (.v6 _ _) => .ok ()
    | some (.v4 _) => .error .ipv4InBrackets
    | none => .error (.notAnAddress hostname)

/-- `_check_bracketed_netloc`. -/
def checkBracketedNetloc (netloc : List Char) : Except UrlError Unit :=
  let hostnameAndPort := afterLast '@' netloc
  if '[' ∈ hostnameAndPort then
    let port := after ']' (after '[' hostnameAndPort)
    if before '[' hostnameAndPort ≠ [] then .error .invalidIpv6
    else if port ≠ [] ∧ port.head? ≠ some ':' then .error .invalidIpv6
    else checkBracketedHost (before ']' (after '[' hostnameAndPort))
  else
    checkBracketedHost (before ':' hostnameAndPort)

/-- The checks an authority has to pass. -/
def checkNetloc (netloc : List Char) : Except UrlError Unit := do
  if ('[' ∈ netloc ∧ ']' ∉ netloc) ∨ (']' ∈ netloc ∧ '[' ∉ netloc) then .error .invalidIpv6
  if '[' ∈ netloc ∧ ']' ∈ netloc then checkBracketedNetloc netloc
  if netloc.any isMasked then .error (.invalidCharacters netloc)

/-- Path, query and fragment of what follows the authority. -/
def splitTail (tail : List Char) : List Char × List Char × List Char :=
  (before '?' (before '#' tail), after '?' (before '#' tail), after '#' tail)

/-- `urlsplit`. -/
def urlsplit (url : List Char) : Except UrlError SplitResult := do
  let (scheme, rest) := splitScheme (cleaned url)
  let (netloc, tail) := splitNetloc rest
  checkNetloc netloc
  let (path, query, fragment) := splitTail tail
  pure { scheme, netloc, path, query, fragment }

/-- Host and port of an authority; an empty port is none. -/
def hostinfo (netloc : List Char) : List Char × Option (List Char) :=
  let hostinfo := afterLast '@' netloc
  let (hostname, port) :=
    if '[' ∈ hostinfo then
      (before ']' (after '[' hostinfo), after ':' (after ']' (after '[' hostinfo)))
    else
      (before ':' hostinfo, after ':' hostinfo)
  (hostname, if port = [] then none else some port)

section Separators

variable {separator : Char} {front rest chars : List Char}

theorem before_append (notIn : separator ∉ front) :
    before separator (front ++ separator :: rest) = front := by
  have kept : ∀ c ∈ front, decide (c ≠ separator) = true := by
    intro c member
    exact decide_eq_true (ne_of_mem_of_not_mem member notIn)
  rw [before, List.takeWhile_append_of_pos kept]
  simp

theorem after_append (notIn : separator ∉ front) :
    after separator (front ++ separator :: rest) = rest := by
  have dropped : ∀ c ∈ front, decide (c ≠ separator) = true := by
    intro c member
    exact decide_eq_true (ne_of_mem_of_not_mem member notIn)
  rw [after, List.dropWhile_append_of_pos dropped]
  simp

private theorem before_of_notMem (notIn : separator ∉ chars) : before separator chars = chars := by
  rw [before, List.takeWhile_eq_self_iff]
  intro c member
  exact decide_eq_true (ne_of_mem_of_not_mem member notIn)

private theorem after_of_notMem (notIn : separator ∉ chars) : after separator chars = [] := by
  have allDropped : chars.dropWhile (· ≠ separator) = [] := by
    rw [List.dropWhile_eq_nil_iff]
    intro c member
    exact decide_eq_true (ne_of_mem_of_not_mem member notIn)
  rw [after, allDropped]
  rfl

private theorem afterLast_of_notMem (notIn : separator ∉ chars) :
    afterLast separator chars = chars := by
  rw [afterLast, List.rtakeWhile_eq_self_iff]
  intro c member
  exact decide_eq_true (ne_of_mem_of_not_mem member notIn)

/-- A text with a separator is what stands before the first one, the separator and the rest. -/
theorem before_after (present : before separator chars ≠ chars) :
    before separator chars ++ separator :: after separator chars = chars := by
  induction chars with
  | nil => exact absurd rfl present
  | cons c others ih =>
      by_cases isSeparator : c = separator
      · subst isSeparator
        simp [before, after]
      · have takes : before separator (c :: others) = c :: before separator others := by
          simp [before, isSeparator]
        have drops : after separator (c :: others) = after separator others := by
          simp [after, isSeparator]
        rw [takes] at present ⊢
        rw [drops, List.cons_append, ih fun same => present (congrArg _ same)]

end Separators

section Splitting

variable {url scheme rest authority tail : List Char}

/-- A letter, then letters, digits, plus signs, hyphens and dots. -/
structure IsScheme (scheme : List Char) : Prop where
  letter : scheme.head?.any isLetter = true
  chars : scheme.all isSchemeChar = true

theorem IsScheme.noColon (valid : IsScheme scheme) : ':' ∉ scheme := by
  intro member
  have isChar := List.all_eq_true.mp valid.chars ':' member
  exact absurd isChar (by decide)

/-- What ends an authority: nothing, or one of its delimiters. -/
def EndsAuthority (tail : List Char) : Prop := ∀ c, tail.head? = some c → isDelimiter c = true

theorem splitScheme_of_isScheme (valid : IsScheme scheme) (rest : List Char) :
    splitScheme (scheme ++ ':' :: rest) = (scheme.map lowerChar, rest) := by
  unfold splitScheme
  rw [before_append valid.noColon, after_append valid.noColon]
  apply if_pos
  refine ⟨?_, valid.letter, valid.chars⟩
  rw [List.length_append, List.length_cons]
  omega

/-- The splitting finds a scheme only where one stands. -/
theorem isScheme_of_splitScheme (found : (splitScheme url).1 ≠ []) :
    ∃ scheme rest, IsScheme scheme ∧ url = scheme ++ ':' :: rest ∧
      splitScheme url = (scheme.map lowerChar, rest) := by
  unfold splitScheme at found ⊢
  dsimp only at found ⊢
  split at found
  · rename_i accepted
    obtain ⟨shorter, letter, chars⟩ := accepted
    have present : before ':' url ≠ url := by
      intro same
      rw [same] at shorter
      exact absurd shorter (lt_irrefl _)
    refine ⟨before ':' url, after ':' url, ⟨letter, chars⟩, (before_after present).symm, ?_⟩
    exact if_pos ⟨shorter, letter, chars⟩
  · exact absurd rfl found

theorem splitScheme_of_none (noScheme : (splitScheme url).1 = []) : splitScheme url = ([], url) := by
  unfold splitScheme at noScheme ⊢
  dsimp only at noScheme ⊢
  split at noScheme
  · rename_i accepted
    obtain ⟨-, letter, -⟩ := accepted
    rw [List.map_eq_nil_iff] at noScheme
    rw [noScheme] at letter
    cases letter
  · rename_i refused
    exact if_neg refused

theorem splitNetloc_slashes (inside : ∀ c ∈ authority, isDelimiter c = false)
    (ends : EndsAuthority tail) :
    splitNetloc ('/' :: '/' :: (authority ++ tail)) = (authority, tail) := by
  have kept : ∀ c ∈ authority, (!isDelimiter c) = true := by
    intro c member
    rw [inside c member]
    rfl
  show ((authority ++ tail).takeWhile _, (authority ++ tail).dropWhile _) = _
  rw [List.takeWhile_append_of_pos kept, List.dropWhile_append_of_pos kept]
  cases tail with
  | nil => simp
  | cons c others =>
      have stops : isDelimiter c = true := ends c rfl
      simp [stops]

/-- Two slashes and an authority that is not empty are the only way to have one. -/
theorem slashes_of_splitNetloc (found : (splitNetloc url).1 ≠ []) :
    url = '/' :: '/' :: ((splitNetloc url).1 ++ (splitNetloc url).2) ∧
      (∀ c ∈ (splitNetloc url).1, isDelimiter c = false) ∧ EndsAuthority (splitNetloc url).2 := by
  unfold splitNetloc at found ⊢
  split
  · rename_i rest
    refine ⟨by rw [List.takeWhile_append_dropWhile], ?_, ?_⟩
    · intro c member
      simpa using List.mem_takeWhile_imp member
    · intro c first
      have stops := List.head?_dropWhile_not (!isDelimiter ·) rest
      rw [first] at stops
      simpa using stops
  · rename_i notSlashes
    split at found
    · rename_i rest
      exact absurd rfl (notSlashes rest)
    · exact absurd rfl found

/-- The splitting fails only on an authority that is refused. -/
theorem urlsplit_eq_ok {parsed : SplitResult} (done : urlsplit url = .ok parsed) :
    parsed.scheme = (splitScheme (cleaned url)).1 ∧
      checkNetloc (splitNetloc (splitScheme (cleaned url)).2).1 = .ok () := by
  cases checked : checkNetloc (splitNetloc (splitScheme (cleaned url)).2).1 with
  | error failure =>
      simp only [urlsplit, checked] at done
      cases done
  | ok nothing =>
      simp only [urlsplit, checked] at done
      cases done
      exact ⟨rfl, rfl⟩

theorem exists_urlsplit (url : List Char)
    (readable : checkNetloc (splitNetloc (splitScheme (cleaned url)).2).1 = .ok ()) :
    ∃ parsed, urlsplit url = .ok parsed ∧ parsed.scheme = (splitScheme (cleaned url)).1 := by
  simp only [urlsplit, readable]
  exact ⟨_, rfl, rfl⟩

/-- An authority without brackets and masked characters is read. -/
theorem checkNetloc_plain {netloc : List Char} (opening : '[' ∉ netloc) (closing : ']' ∉ netloc)
    (unmasked : netloc.any isMasked = false) : checkNetloc netloc = .ok () := by
  simp [checkNetloc, opening, closing, unmasked]
  rfl

theorem hostinfo_name {host : List Char} (noAt : '@' ∉ host) (noBracket : '[' ∉ host)
    (noColon : ':' ∉ host) : hostinfo host = (host, none) := by
  simp [hostinfo, afterLast_of_notMem noAt, noBracket, before_of_notMem noColon,
    after_of_notMem noColon]

theorem hostinfo_port {host port : List Char} (noAt : '@' ∉ host ++ ':' :: port)
    (noBracket : '[' ∉ host ++ ':' :: port) (noColon : ':' ∉ host) (nonempty : port ≠ []) :
    hostinfo (host ++ ':' :: port) = (host, some port) := by
  unfold hostinfo
  dsimp only
  rw [afterLast_of_notMem noAt, if_neg noBracket, before_append noColon, after_append noColon,
    if_neg nonempty]

end Splitting

end Foundation.Url
