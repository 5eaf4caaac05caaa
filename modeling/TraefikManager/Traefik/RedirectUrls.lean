import TraefikManager.Foundation.GoRegexp
import TraefikManager.Traefik.SharedConfig

/-!
# Where a redirect leads

A request for the domain of a redirect host is sent to the target, followed by what follows the
domain in its address. The target stands in a template, where a `$` may be read as a reference
to a part of the request.
-/

namespace TraefikManager.Traefik

open Foundation Domain

section Requests

/-- What may follow the host of an address. -/
def IsSuffix (suffix : String) : Prop :=
  suffix = "" ∨ suffix.toList.head? = some '/' ∨ suffix.toList.head? = some ':'

/-- The parts of Traefik that a redirect rests on: the characters of a name in a template, and
`redirectScheme`, which may drop a port from what follows the host. -/
structure TraefikProxy where
  isNameRune : Char → Bool
  nameRunes : GoRegexp.NameRunes isNameRune
  redirectScheme : String → String → String
  afterHop : String → String
  redirectScheme_https : ∀ (domain : DomainName) suffix, IsSuffix suffix →
    redirectScheme "https" ("http://" ++ domain.value ++ suffix) =
      "https://" ++ domain.value ++ afterHop suffix

variable (proxy : TraefikProxy)

/-- The address a middleware redirects to. -/
def redirection (url : String) : Middleware → Option String
  | .redirectRegex regex replacement _ =>
      (GoRegexp.replaceAll proxy.isNameRune regex.toList replacement.toList url.toList).map
        String.ofList
  | .redirectScheme scheme _ => some (proxy.redirectScheme scheme url)
  | _ => none

/-- The address the router of an entry point redirects to. All routers of the document of a
redirect host have the rule of its domain. -/
def redirectionAt (config : HttpConfig) (entryPoint url : String) : Option String := do
  let (_, router) ← config.routers.entries.find? fun entry => entryPoint ∈ entry.2.entryPoints
  let middleware ← config.middlewares.get? (← router.middlewares.head?)
  redirection proxy url middleware

variable (settings : Settings) (redirectHost : RedirectHost)

/-- Where a request for the domain ends. A request by HTTPS arrives at the entry point for it
where the host has TLS, and at the other one where something in front of Traefik ends TLS; where
the host has TLS, a request by HTTP is sent to HTTPS first. -/
def redirectedUrl (secure : Bool) (suffix : String) : Option String :=
  let config := generateRedirectHost settings redirectHost
  let address := (if secure then "https://" else "http://") ++ redirectHost.domain.value ++ suffix
  if redirectHost.tlsEnabled then
    if secure then redirectionAt proxy config "websecure" address
    else
      (redirectionAt proxy config "web" address).bind fun secured =>
        redirectionAt proxy config "websecure" secured
  else redirectionAt proxy config "web" address

/-- What follows the domain when the request is sent to the target. -/
def finalSuffix (secure : Bool) (suffix : String) : String :=
  if redirectHost.tlsEnabled ∧ ¬ secure then proxy.afterHop suffix else suffix

/-- Every request is sent to the target without its final slashes, followed by what follows the
domain. -/
def RedirectsExactly : Prop :=
  ∀ secure suffix, IsSuffix suffix →
    redirectedUrl proxy settings redirectHost secure suffix =
      some (Text.rstripChar '/' redirectHost.targetUrl ++
        finalSuffix proxy redirectHost secure suffix)

end Requests

section Middlewares

variable (proxy : TraefikProxy) (domain : DomainName)

/-- The parts of the pattern of a redirect host. -/
theorem parsePattern_redirect :
    GoRegexp.parsePattern ("^https?://" ++ Text.escape domain.value ++ "(.*)").toList =
      some (GoRegexp.literal ['h', 't', 't', 'p'] ++
        (.optional 's' :: GoRegexp.literal (':' :: '/' :: '/' :: domain.value.toList))) := by
  have chars : ("^https?://" ++ Text.escape domain.value ++ "(.*)").toList =
      '^' :: (['h', 't', 't', 'p'].flatMap Text.escapeChar ++ ('s' :: '?' ::
        ((':' :: '/' :: '/' :: domain.value.toList).flatMap Text.escapeChar ++
          ['(', '.', '*', ')']))) := by
    have plain : ∀ c ∈ ['h', 't', 't', 'p', ':', '/'], Text.escapeChar c = [c] := by decide
    simp [Text.escape, plain]
  have group : GoRegexp.parsePieces ['(', '.', '*', ')'] = some [] := rfl
  rw [chars, GoRegexp.parsePattern, GoRegexp.parsePieces_escape _ (by simp),
    GoRegexp.parsePieces_optional (by decide), GoRegexp.parsePieces_escape _ (by simp), group]
  simp

/-- An address of the domain matches, whichever its scheme is. -/
theorem consume_redirect (secure : Bool) (suffix : String) :
    GoRegexp.consume (GoRegexp.literal ['h', 't', 't', 'p'] ++
        (.optional 's' :: GoRegexp.literal (':' :: '/' :: '/' :: domain.value.toList)))
      ((if secure then "https://" else "http://") ++ domain.value ++ suffix).toList =
        some suffix.toList := by
  have whole : GoRegexp.consume (GoRegexp.literal (':' :: '/' :: '/' :: domain.value.toList))
      ((':' :: '/' :: '/' :: domain.value.toList) ++ suffix.toList) = some suffix.toList := by
    have := GoRegexp.consume_literal (':' :: '/' :: '/' :: domain.value.toList) suffix.toList []
    simpa using this
  cases secure with
  | true =>
      have chars : ("https://" ++ domain.value ++ suffix).toList = ['h', 't', 't', 'p'] ++
          ('s' :: ((':' :: '/' :: '/' :: domain.value.toList) ++ suffix.toList)) := by
        simp
      rw [if_pos rfl, chars, GoRegexp.consume_literal, GoRegexp.consume]
      simp only [↓reduceIte, whole]
      rfl
  | false =>
      have chars : ("http://" ++ domain.value ++ suffix).toList = ['h', 't', 't', 'p'] ++
          ((':' :: '/' :: '/' :: domain.value.toList) ++ suffix.toList) := by
        simp
      rw [if_neg (by simp), chars, GoRegexp.consume_literal]
      exact whole

variable (targetUrl : String) (permanent : Bool)

/-- What the target without its final slashes is expanded to. -/
def expandedTarget (secure : Bool) (suffix : String) : List Char :=
  GoRegexp.expand proxy.isNameRune
    (GoRegexp.groupsOf ((if secure then "https://" else "http://") ++ domain.value ++ suffix).toList
      suffix.toList)
    (GoRegexp.withFirstGroup (Text.rstripChar '/' targetUrl).toList)

private theorem redirection_redirectRegex (secure : Bool) (suffix : String) :
    redirection proxy ((if secure then "https://" else "http://") ++ domain.value ++ suffix)
        (.redirectRegex ("^https?://" ++ Text.escape domain.value ++ "(.*)")
          (redirectReplacement targetUrl) permanent) =
      some (String.ofList (expandedTarget proxy domain targetUrl secure suffix ++
        suffix.toList.dropWhile (· ≠ '\n'))) := by
  have template : (redirectReplacement targetUrl).toList =
      GoRegexp.withFirstGroup (Text.rstripChar '/' targetUrl).toList := by
    simp [redirectReplacement, GoRegexp.withFirstGroup]
  rw [redirection, GoRegexp.replaceAll_eq _ _ (parsePattern_redirect domain)
    (consume_redirect domain secure suffix), template]
  rfl

private theorem redirection_of_inert
    (inert : GoRegexp.Inert proxy.isNameRune (Text.rstripChar '/' targetUrl).toList)
    (secure : Bool) (suffix : String) :
    redirection proxy ((if secure then "https://" else "http://") ++ domain.value ++ suffix)
        (.redirectRegex ("^https?://" ++ Text.escape domain.value ++ "(.*)")
          (redirectReplacement targetUrl) permanent) =
      some (Text.rstripChar '/' targetUrl ++ suffix) := by
  rw [redirection_redirectRegex, expandedTarget, GoRegexp.expand_of_inert proxy.nameRunes inert]
  apply congrArg some
  apply String.toList_injective
  simp [GoRegexp.groupsOf, List.takeWhile_append_dropWhile]

private theorem noDollar_domain : '$' ∉ domain.value.toList := by
  intro member
  rcases domain.isDomainChar_of_mem member with isChar | isLineEnd
  · exact absurd isChar (by decide)
  · exact absurd isLineEnd (by decide)

/-- A target that is right even with nothing behind the domain has no reference in it. -/
theorem inert_of_redirection
    (exact : redirection proxy ("https://" ++ domain.value ++ "")
        (.redirectRegex ("^https?://" ++ Text.escape domain.value ++ "(.*)")
          (redirectReplacement targetUrl) permanent) =
      some (Text.rstripChar '/' targetUrl ++ "")) :
    GoRegexp.Inert proxy.isNameRune (Text.rstripChar '/' targetUrl).toList := by
  have noDollar : ∀ index,
      '$' ∉ GoRegexp.groupsOf ("https://" ++ domain.value ++ "").toList [] index := by
    intro index member
    match index with
    | 0 =>
        have inAddress := List.mem_of_mem_take member
        simp [noDollar_domain] at inAddress
    | 1 => cases member
    | _ + 2 => cases member
  have expanded := redirection_redirectRegex proxy domain targetUrl permanent true ""
  rw [if_pos rfl, exact] at expanded
  have chars := congrArg String.toList (Option.some.inj expanded)
  have same : expandedTarget proxy domain targetUrl true "" =
      (Text.rstripChar '/' targetUrl).toList := by
    simpa using chars.symm
  exact GoRegexp.inert_of_expand_eq proxy.nameRunes noDollar same

end Middlewares

section Documents

variable (proxy : TraefikProxy) (settings : Settings) (redirectHost : RedirectHost)

/-- The middleware that sends to the target. -/
def hostRedirect : Middleware :=
  .redirectRegex ("^https?://" ++ Text.escape redirectHost.domain.value ++ "(.*)")
    (redirectReplacement redirectHost.targetUrl) redirectHost.permanent

private theorem redirectNames_ne {first second : String} (apart : first ≠ second) :
    middlewareName (redirectBaseName redirectHost.domain) first ≠
      middlewareName (redirectBaseName redirectHost.domain) second :=
  fun same => apart (middlewareName_injective _ same)

private theorem entries_redirectRouters :
    (generateRedirectHost settings redirectHost).routers.entries =
      redirectRouters settings redirectHost := by
  apply Dict.entries_ofList
  have apart := redirectNames_ne redirectHost (show "web" ≠ "websecure" by decide)
  unfold redirectRouters
  cases redirectHost.tlsEnabled <;> simp [apart]

private theorem get?_redirectMiddlewares (name : String) (middleware : Middleware)
    (member : (name, middleware) ∈ redirectMiddlewares redirectHost) :
    (generateRedirectHost settings redirectHost).middlewares.get? name = some middleware := by
  refine Dict.get?_ofList_of_mem ?_ member
  have apart := redirectNames_ne redirectHost (show "host-redirect" ≠ "force-https" by decide)
  unfold redirectMiddlewares
  cases redirectHost.tlsEnabled <;> simp [apart]

/-- A host without TLS sends every request to the target, one with TLS those by HTTPS. -/
theorem redirectionAt_target (url : String) :
    redirectionAt proxy (generateRedirectHost settings redirectHost)
        (if redirectHost.tlsEnabled then "websecure" else "web") url =
      redirection proxy url (hostRedirect redirectHost) := by
  have found := get?_redirectMiddlewares settings redirectHost _ _ (List.mem_cons_self ..)
  rw [redirectionAt, entries_redirectRouters]
  cases tls : redirectHost.tlsEnabled with
  | true =>
      simp only [redirectRouters, tls, ↓reduceIte]
      rw [List.find?_cons_of_neg (by simp), List.find?_cons_of_pos (by simp)]
      simp [found, hostRedirect]
  | false =>
      simp only [redirectRouters, tls, Bool.false_eq_true, ↓reduceIte]
      rw [List.find?_cons_of_pos (by simp)]
      simp [found, hostRedirect]

/-- A host with TLS sends the other requests to HTTPS. -/
theorem redirectionAt_https (tls : redirectHost.tlsEnabled = true) (url : String) :
    redirectionAt proxy (generateRedirectHost settings redirectHost) "web" url =
      some (proxy.redirectScheme "https" url) := by
  have found := get?_redirectMiddlewares settings redirectHost
    (middlewareName (redirectBaseName redirectHost.domain) "force-https")
    (.redirectScheme "https" redirectHost.permanent) (by simp [redirectMiddlewares, tls])
  rw [redirectionAt, entries_redirectRouters]
  simp only [redirectRouters, tls, ↓reduceIte]
  rw [List.find?_cons_of_pos (by simp)]
  simp [found, redirection]

/-- A request by HTTPS is sent to the target at once. -/
theorem redirectedUrl_secure (suffix : String) :
    redirectedUrl proxy settings redirectHost true suffix =
      redirection proxy ("https://" ++ redirectHost.domain.value ++ suffix)
        (hostRedirect redirectHost) := by
  rw [← redirectionAt_target proxy settings]
  unfold redirectedUrl
  cases redirectHost.tlsEnabled <;> rfl

/-- A request by HTTP is, where the host has TLS only once it has been sent to HTTPS. -/
theorem redirectedUrl_plain {suffix : String} (isSuffix : IsSuffix suffix) :
    redirectedUrl proxy settings redirectHost false suffix =
      redirection proxy ((if redirectHost.tlsEnabled then "https://" else "http://") ++
        redirectHost.domain.value ++ finalSuffix proxy redirectHost false suffix)
        (hostRedirect redirectHost) := by
  rw [← redirectionAt_target proxy settings]
  unfold redirectedUrl finalSuffix
  cases tls : redirectHost.tlsEnabled with
  | true =>
      simp only [↓reduceIte, Bool.false_eq_true, not_false_eq_true, and_self]
      rw [redirectionAt_https proxy settings redirectHost tls, Option.bind_some,
        proxy.redirectScheme_https redirectHost.domain suffix isSuffix]
  | false => simp

/-- **Redirects are exact** just when no `$` of the target refers to anything. -/
theorem redirectsExactly_iff (proxy : TraefikProxy) (settings : Settings)
    (redirectHost : RedirectHost) :
    RedirectsExactly proxy settings redirectHost ↔
      GoRegexp.Inert proxy.isNameRune (Text.rstripChar '/' redirectHost.targetUrl).toList := by
  constructor
  · intro exact
    apply inert_of_redirection proxy redirectHost.domain redirectHost.targetUrl
      redirectHost.permanent
    have ofHttps := exact true "" (.inl rfl)
    rw [redirectedUrl_secure] at ofHttps
    simpa [finalSuffix, hostRedirect] using ofHttps
  · intro inert secure suffix isSuffix
    have each := redirection_of_inert proxy redirectHost.domain redirectHost.targetUrl
      redirectHost.permanent inert
    cases secure with
    | true =>
        have ofHttps := each true suffix
        rw [redirectedUrl_secure]
        simpa [finalSuffix, hostRedirect] using ofHttps
    | false =>
        rw [redirectedUrl_plain proxy settings redirectHost isSuffix]
        exact each redirectHost.tlsEnabled _

/-- A proxy whose names are those of ASCII and which leaves a port alone. -/
def asciiProxy : TraefikProxy where
  isNameRune c := Text.isLetter c || Text.isDigit c || c = '_'
  nameRunes := ⟨by decide, by decide, by decide⟩
  redirectScheme scheme url := scheme ++ String.ofList (url.toList.drop 4)
  afterHop suffix := suffix
  redirectScheme_https domain suffix _ := by
    apply String.toList_injective
    simp

/-- A price in the target is taken for a reference to a group that does not exist. -/
theorem redirect_drops_reference :
    ¬ ∀ proxy settings domain targetUrl permanent tlsEnabled id redirectHost,
      RedirectHost.create domain targetUrl permanent tlsEnabled id = .ok redirectHost →
      RedirectsExactly proxy settings redirectHost := by
  intro exact
  have := exact asciiProxy defaultSettings "old.example.com" "https://example.com/?price=$5" true
    true ⟨0⟩ _ rfl
  rw [redirectsExactly_iff] at this
  revert this
  decide

end Documents

end TraefikManager.Traefik
