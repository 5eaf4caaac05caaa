import TraefikManager.Domain.ResourceNormalized

/-!
# Which redirect targets are accepted

A target should be an absolute web address with a host, or a bare host with an optional port
and path. The splitting of addresses finds a web scheme also where no host follows it, and it
takes a bare host name with a port for a scheme, so the two languages differ; outside these
texts the function does what it is for.
-/

namespace TraefikManager.Domain

open Foundation

/-- The texts a redirect target may be, with what they point to. -/
def InLanguage (text : List Char) (target : Target) : Prop :=
  NoBlanks text ∧ (IsWebAddress text target ∨ IsBareAddress Text.isDigit text target)

/-- The function accepts exactly the language at this text, and what it returns is a web
address of the same target that is left alone. -/
structure NormalizesExactly (raw : String) : Prop where
  accepts : (∃ value, normalizeTargetUrl raw = .ok value) ↔
    ∃ target, InLanguage (Text.strip raw).toList target
  result : ∀ value, normalizeTargetUrl raw = .ok value →
    (∃ target, InLanguage (Text.strip raw).toList target ∧ IsWebAddress value.toList target) ∧
      normalizeTargetUrl value = .ok value

/-- The texts that are taken for something else. -/
inductive Misread : List Char → Prop
  /-- A web scheme that is not at the very start, or that no host follows. -/
  | noHost (controls scheme rest : List Char)
      (isControl : ∀ c ∈ controls, Url.isControlOrSpace c = true)
      (web : isWebScheme (scheme.map Text.lowerChar) = true)
      (readable : Url.checkNetloc (Url.splitNetloc rest).1 = .ok ())
      (missing : controls ≠ [] ∨ (Url.hostinfo (Url.splitNetloc rest).1).1 = []) :
      Misread (controls ++ (scheme ++ ':' :: rest))
  /-- A host name with a port, which looks like a scheme. -/
  | portOfName (host port tail : List Char) (isHost : IsHost host)
      (letter : host.head?.any Text.isLetter = true) (isPort : IsPort Text.isDigit port)
      (isPath : IsPath tail) : Misread (host ++ ':' :: (port ++ tail))
  /-- A port with digits of another script. -/
  | foreignDigits (host port tail : List Char) (isHost : IsHost host)
      (noLetter : host.head?.any Text.isLetter = false) (isPort : IsPort Text.isDecimal port)
      (foreign : ∃ c ∈ port, Text.isDigit c = false) (isPath : IsPath tail) :
      Misread (host ++ ':' :: (port ++ tail))

section Texts

variable {controls scheme rest host port tail text : List Char} {target : Target}
  {parsed : Url.SplitResult}

/-- Control characters in front of a scheme are passed over. -/
theorem split_of_controls (noBlanks : NoBlanks (controls ++ (scheme ++ ':' :: rest)))
    (isControl : ∀ c ∈ controls, Url.isControlOrSpace c = true) (valid : Url.IsScheme scheme) :
    Url.splitScheme (Url.cleaned (controls ++ (scheme ++ ':' :: rest))) =
      (scheme.map Text.lowerChar, rest) := by
  have noBlanks' : NoBlanks (scheme ++ ':' :: rest) := fun c member =>
    noBlanks c (List.mem_append_right _ member)
  rw [cleaned_of_noBlanks noBlanks, List.dropWhile_append_of_pos isControl,
    ← cleaned_of_noBlanks noBlanks']
  exact split_of_isScheme noBlanks' valid

/-- Where a web scheme is found, one stands after control characters. -/
theorem webScheme_of_split (noBlanks : NoBlanks text) (isParsed : Url.urlsplit text = .ok parsed)
    (web : isWebScheme parsed.scheme = true) :
    ∃ controls scheme rest, text = controls ++ (scheme ++ ':' :: rest) ∧
      (∀ c ∈ controls, Url.isControlOrSpace c = true) ∧
      isWebScheme (scheme.map Text.lowerChar) = true ∧
      Url.checkNetloc (Url.splitNetloc rest).1 = .ok () := by
  obtain ⟨isScheme, readable⟩ := Url.urlsplit_eq_ok isParsed
  rw [isScheme] at web
  have found : (Url.splitScheme (Url.cleaned text)).1 ≠ [] := by
    intro none
    rw [none] at web
    cases web
  obtain ⟨scheme, rest, -, isCleaned, split⟩ := Url.isScheme_of_splitScheme found
  rw [split] at web readable
  refine ⟨text.takeWhile Url.isControlOrSpace, scheme, rest, ?_, ?_, web, readable⟩
  · rw [← isCleaned, cleaned_of_noBlanks noBlanks, List.takeWhile_append_dropWhile]
  · intro c member
    exact List.mem_takeWhile_imp member

/-- A web scheme at the start with a host after it begins a web address. -/
theorem webAddress_of_host (web : isWebScheme (scheme.map Text.lowerChar) = true)
    (readable : Url.checkNetloc (Url.splitNetloc rest).1 = .ok ())
    (hasHost : (Url.hostinfo (Url.splitNetloc rest).1).1 ≠ []) :
    ∃ target, IsWebAddress (scheme ++ ':' :: rest) target := by
  have found : (Url.splitNetloc rest).1 ≠ [] := by
    intro none
    rw [none] at hasHost
    exact hasHost rfl
  obtain ⟨isRest, inside, ends⟩ := Url.slashes_of_splitNetloc found
  have address := IsWebAddress.address scheme _ _ web inside ends readable hasHost
  rw [← isRest] at address
  exact ⟨_, address⟩

/-- A web address starts with its scheme, and its host is read after it. -/
theorem IsWebAddress.hasHost (address : IsWebAddress text target)
    (isText : text = controls ++ (scheme ++ ':' :: rest))
    (isControl : ∀ c ∈ controls, Url.isControlOrSpace c = true) (valid : Url.IsScheme scheme) :
    controls = [] ∧ (Url.hostinfo (Url.splitNetloc rest).1).1 ≠ [] := by
  cases address with
  | address scheme' authority tail web inside ends readable hasHost =>
      have valid' := isScheme_of_isWebScheme web
      have noControls : controls = [] := by
        cases controls with
        | nil => rfl
        | cons c others =>
            obtain ⟨letter, more, rfl⟩ : ∃ letter more, scheme' = letter :: more := by
              cases scheme' with
              | nil => cases valid'.letter
              | cons letter more => exact ⟨letter, more, rfl⟩
            rw [List.cons_append, List.cons_append, List.cons.injEq] at isText
            have printable := printable_of_isLetter valid'.letter
            rw [isText.1, isControl c (by simp)] at printable
            cases printable
      subst noControls
      rw [List.nil_append] at isText
      have cut : Url.after ':' (scheme' ++ ':' :: '/' :: '/' :: (authority ++ tail)) =
          '/' :: '/' :: (authority ++ tail) := Url.after_append valid'.noColon
      have isRest : '/' :: '/' :: (authority ++ tail) = rest := by
        rw [← cut, isText, Url.after_append valid.noColon]
      rw [← isRest, Url.splitNetloc_slashes inside ends]
      exact ⟨rfl, hasHost⟩

/-- The host, the port and the rest of a bare address with a port are where they are. -/
theorem IsBareAddress.digits (bare : IsBareAddress Text.isDigit text target)
    (isText : text = host ++ ':' :: (port ++ tail)) (isHost : IsHost host)
    (isPort : IsPort Text.isDecimal port) (isPath : IsPath tail) :
    ∀ c ∈ port, Text.isDigit c = true := by
  have noColon : isHostChar ':' = false := by decide
  have dropped : (host ++ ':' :: (port ++ tail)).dropWhile isHostChar = ':' :: (port ++ tail) := by
    rw [List.dropWhile_append_of_pos isHost.chars]
    simp [noColon]
  cases bare with
  | host host' tail' isHost' isPath' =>
      obtain ⟨-, allTail⟩ := isPath'.stops (p := isHostChar) (by decide)
      rw [← isText, List.dropWhile_append_of_pos isHost'.chars, allTail] at dropped
      simp [IsPath, dropped] at isPath'
  | hostPort host' port' tail' isHost' isPort' isPath' =>
      rw [← isText, List.dropWhile_append_of_pos isHost'.chars] at dropped
      have same : port' ++ tail' = port ++ tail := by simpa [noColon] using dropped
      obtain ⟨noTail, -⟩ := isPath.stops (p := Text.isDecimal) (by decide)
      obtain ⟨noTail', -⟩ := isPath'.stops (p := Text.isDecimal) (by decide)
      have wide := isPort'.mono fun _ => isDecimal_of_isDigit
      have samePort : port' = port := by
        have taken := congrArg (List.takeWhile Text.isDecimal) same
        rw [List.takeWhile_append_of_pos wide.digits, List.takeWhile_append_of_pos isPort.digits,
          noTail, noTail', List.append_nil, List.append_nil] at taken
        exact taken
      rw [← samePort]
      exact isPort'.digits

end Texts

section Exactly

variable {raw value : String} {target : Target}

/-- What is accepted and not misread is in the language, and is returned with its target. -/
theorem target_of_accepted (wellRead : ¬Misread (Text.strip raw).toList)
    (accepted : normalizeTargetUrl raw = .ok value) :
    ∃ target, InLanguage (Text.strip raw).toList target ∧ IsWebAddress value.toList target := by
  obtain ⟨noBlanks, parsed, isParsed, ⟨web, rfl⟩ | ⟨noScheme, bare, rfl⟩⟩ :=
    normalizeTargetUrl_eq_ok.mp accepted
  · obtain ⟨controls, scheme, rest, isText, isControl, isWeb, readable⟩ :=
      webScheme_of_split noBlanks isParsed web
    have whole : ¬(controls ≠ [] ∨ (Url.hostinfo (Url.splitNetloc rest).1).1 = []) := by
      intro missing
      apply wellRead
      rw [isText]
      exact .noHost controls scheme rest isControl isWeb readable missing
    rw [not_or, not_not] at whole
    obtain ⟨rfl, hasHost⟩ := whole
    obtain ⟨target, address⟩ := webAddress_of_host isWeb readable hasHost
    rw [List.nil_append] at isText
    rw [← isText] at address
    exact ⟨target, ⟨noBlanks, .inl address⟩, address⟩
  · obtain ⟨target, isBare⟩ := isBareTarget_iff.mp bare
    have address := isBare.web
    rw [← String.toList_append] at address
    refine ⟨target, ⟨noBlanks, .inr ?_⟩, address⟩
    generalize isText : (Text.strip raw).toList = text at wellRead noBlanks isParsed isBare
    cases isBare with
    | host host tail isHost isPath => exact .host host tail isHost isPath
    | hostPort host port tail isHost isPort isPath =>
        obtain ⟨split, isSplit, isScheme⟩ := read_hostPort isHost isPort noBlanks
        cases isSplit.symm.trans isParsed
        have noLetter : host.head?.any Text.isLetter = false := by
          by_contra letter
          rw [Bool.not_eq_false] at letter
          rw [if_pos letter, noScheme, eq_comm, List.map_eq_nil_iff] at isScheme
          exact isHost.nonempty isScheme
        have digits : ∀ c ∈ port, Text.isDigit c = true := by
          by_contra foreign
          push Not at foreign
          simp only [ne_eq, Bool.not_eq_true] at foreign
          exact wellRead (.foreignDigits host port tail isHost noLetter isPort foreign isPath)
        exact .hostPort host port tail isHost ⟨isPort.nonempty, digits⟩ isPath

/-- What is in the language and not misread is accepted. -/
theorem accepted_of_inLanguage (wellRead : ¬Misread (Text.strip raw).toList)
    (inLanguage : InLanguage (Text.strip raw).toList target) :
    ∃ value, normalizeTargetUrl raw = .ok value := by
  obtain ⟨noBlanks, web | bare⟩ := inLanguage
  · obtain ⟨parsed, isParsed, isWeb⟩ := web.read noBlanks
    exact ⟨_, normalizeTargetUrl_eq_ok.mpr ⟨noBlanks, parsed, isParsed, .inl ⟨isWeb, rfl⟩⟩⟩
  · have matches' := isBareTarget_iff.mpr ⟨target, bare.mono fun _ => isDecimal_of_isDigit⟩
    have unschemed : ∃ parsed, Url.urlsplit (Text.strip raw).toList = .ok parsed ∧
        parsed.scheme = [] := by
      generalize (Text.strip raw).toList = text at wellRead noBlanks bare
      cases bare with
      | host host tail isHost isPath => exact read_host isHost isPath noBlanks
      | hostPort host port tail isHost isPort isPath =>
          obtain ⟨parsed, isParsed, isScheme⟩ :=
            read_hostPort isHost (isPort.mono fun _ => isDecimal_of_isDigit) noBlanks
          have noLetter : ¬host.head?.any Text.isLetter = true := fun letter =>
            wellRead (.portOfName host port tail isHost letter isPort isPath)
          rw [if_neg noLetter] at isScheme
          exact ⟨parsed, isParsed, isScheme⟩
    obtain ⟨parsed, isParsed, noScheme⟩ := unschemed
    exact ⟨_, normalizeTargetUrl_eq_ok.mpr
      ⟨noBlanks, parsed, isParsed, .inr ⟨noScheme, matches', rfl⟩⟩⟩

/-- A web scheme without a host is accepted all the same. -/
theorem accepted_of_noHost {controls scheme rest : List Char}
    (isText : (Text.strip raw).toList = controls ++ (scheme ++ ':' :: rest))
    (noBlanks : NoBlanks (Text.strip raw).toList)
    (isControl : ∀ c ∈ controls, Url.isControlOrSpace c = true)
    (web : isWebScheme (scheme.map Text.lowerChar) = true)
    (readable : Url.checkNetloc (Url.splitNetloc rest).1 = .ok ()) :
    normalizeTargetUrl raw = .ok (Text.strip raw) := by
  rw [normalizeTargetUrl_eq_ok]
  refine ⟨noBlanks, ?_⟩
  rw [isText] at noBlanks ⊢
  have split := split_of_controls noBlanks isControl (isScheme_of_isWebScheme web)
  obtain ⟨parsed, isParsed, isScheme⟩ :=
    Url.exists_urlsplit (controls ++ (scheme ++ ':' :: rest)) (by
      rw [split]
      exact readable)
  rw [split] at isScheme
  refine ⟨parsed, isParsed, .inl ⟨?_, rfl⟩⟩
  rw [isScheme]
  exact web

/-- A text that is misread is not normalized as it should be. -/
theorem not_exactly_of_misread {text : List Char} (isText : (Text.strip raw).toList = text)
    (noBlanks : NoBlanks text) (misread : Misread text) : ¬NormalizesExactly raw := by
  intro exactly
  cases misread with
  | noHost controls scheme rest isControl web readable missing =>
      have accepted := accepted_of_noHost isText (isText ▸ noBlanks) isControl web readable
      obtain ⟨⟨target, -, address⟩, -⟩ := exactly.result _ accepted
      obtain ⟨noControls, hasHost⟩ :=
        address.hasHost isText isControl (isScheme_of_isWebScheme web)
      exact missing.elim (absurd noControls) hasHost
  | portOfName host port tail isHost letter isPort isPath =>
      have bare : IsBareAddress Text.isDigit (host ++ ':' :: (port ++ tail)) _ :=
        .hostPort host port tail isHost isPort isPath
      have wide := isPort.mono fun _ => isDecimal_of_isDigit
      obtain ⟨value, accepted⟩ := exactly.accepts.mpr ⟨_, isText ▸ noBlanks, .inr (isText ▸ bare)⟩
      obtain ⟨⟨target, -, address⟩, -⟩ := exactly.result _ accepted
      obtain ⟨-, parsed, isParsed, outcome⟩ := normalizeTargetUrl_eq_ok.mp accepted
      obtain ⟨split, isSplit, isScheme⟩ := read_hostPort isHost wide noBlanks
      rw [isText, isSplit] at isParsed
      cases isParsed
      rw [if_pos letter] at isScheme
      rcases outcome with ⟨-, rfl⟩ | ⟨noScheme, -⟩
      · have noNetloc : (Url.splitNetloc (port ++ tail)).1 = [] := by
          rw [splitNetloc_of_first]
          obtain ⟨digit, others, rfl⟩ := List.exists_cons_of_ne_nil isPort.nonempty
          intro slash
          cases slash
          exact absurd (isPort.digits '/' (by simp)) (by decide)
        have noControl : ∀ c ∈ ([] : List Char), Url.isControlOrSpace c = true := by simp
        have inText : (Text.strip raw).toList = [] ++ (host ++ ':' :: (port ++ tail)) := isText
        obtain ⟨-, hasHost⟩ := address.hasHost inText noControl (isHost.isScheme_iff.mpr letter)
        rw [noNetloc] at hasHost
        exact hasHost rfl
      · rw [noScheme, eq_comm, List.map_eq_nil_iff] at isScheme
        exact isHost.nonempty isScheme
  | foreignDigits host port tail isHost noLetter isPort foreign isPath =>
      obtain ⟨parsed, isParsed, isScheme⟩ := read_hostPort isHost isPort noBlanks
      rw [noLetter, if_neg Bool.false_ne_true] at isScheme
      have matches' := isBareTarget_iff.mpr ⟨_, .hostPort host port tail isHost isPort isPath⟩
      rw [← isText] at matches' isParsed noBlanks
      have accepted := normalizeTargetUrl_eq_ok.mpr
        ⟨noBlanks, parsed, isParsed, .inr ⟨isScheme, matches', rfl⟩⟩
      obtain ⟨target, -, web | bare⟩ := exactly.accepts.mp ⟨_, accepted⟩
      · obtain ⟨split, isSplit, isWeb⟩ := web.read noBlanks
        cases isSplit.symm.trans isParsed
        rw [isScheme] at isWeb
        cases isWeb
      · obtain ⟨c, inPort, noDigit⟩ := foreign
        rw [bare.digits isText isHost isPort isPath c inPort] at noDigit
        cases noDigit

/-- A target is normalized as it should be exactly when it is not misread. -/
theorem normalizesExactly_iff (raw : String) :
    NormalizesExactly raw ↔
      ¬(NoBlanks (Text.strip raw).toList ∧ Misread (Text.strip raw).toList) := by
  constructor
  · intro exactly misread
    exact not_exactly_of_misread rfl misread.1 misread.2 exactly
  · intro wellRead
    have unlessBlank (noBlanks : NoBlanks (Text.strip raw).toList) :
        ¬Misread (Text.strip raw).toList := fun misread => wellRead ⟨noBlanks, misread⟩
    constructor
    · constructor
      · intro accepted
        obtain ⟨value, accepted⟩ := accepted
        have noBlanks := (normalizeTargetUrl_eq_ok.mp accepted).1
        obtain ⟨target, inLanguage, -⟩ := target_of_accepted (unlessBlank noBlanks) accepted
        exact ⟨target, inLanguage⟩
      · intro known
        obtain ⟨target, inLanguage⟩ := known
        exact accepted_of_inLanguage (unlessBlank inLanguage.1) inLanguage
    · intro value accepted
      have noBlanks := (normalizeTargetUrl_eq_ok.mp accepted).1
      exact ⟨target_of_accepted (unlessBlank noBlanks) accepted, (targetUrl_result accepted).fixed⟩

/-- A host name with a port is refused, and a scheme without a host is accepted. -/
theorem named_port_refused : ¬NormalizesExactly "example.com:8080" ∧ ¬NormalizesExactly "https://" := by
  constructor
  · intro exactly
    have bare : IsBareAddress Text.isDigit "example.com:8080".toList _ :=
      .hostPort "example.com".toList "8080".toList [] ⟨by decide, by decide⟩
        ⟨by decide, by decide⟩ (.inl rfl)
    obtain ⟨value, accepted⟩ := exactly.accepts.mpr ⟨_, by unfold NoBlanks; decide, .inr bare⟩
    have refused : normalizeTargetUrl "example.com:8080" =
        .error (.valueError "리다이렉트 대상 URL은 http 또는 https만 지원합니다") := by decide
    rw [refused] at accepted
    cases accepted
  · intro exactly
    have accepted : normalizeTargetUrl "https://" = .ok "https://" := by decide
    obtain ⟨⟨target, -, address⟩, -⟩ := exactly.result _ accepted
    have noControl : ∀ c ∈ ([] : List Char), Url.isControlOrSpace c = true := by simp
    have isText : "https://".toList = [] ++ ("https".toList ++ ':' :: "//".toList) := rfl
    obtain ⟨-, hasHost⟩ := address.hasHost isText noControl ⟨by decide, by decide⟩
    exact hasHost (by decide)

end Exactly

end TraefikManager.Domain
