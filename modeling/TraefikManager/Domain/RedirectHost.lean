import TraefikManager.Domain.DomainName
import TraefikManager.Foundation.Url

/-!
# Redirect hosts

A redirect host answers a domain with a redirect to a target URL. Targets
without a scheme become `https` targets.
-/

namespace TraefikManager.Domain

open Foundation

structure RedirectHost where
  id : Uuid
  domain : DomainName
  targetUrl : String
  permanent : Bool
  tlsEnabled : Bool
  deriving DecidableEq, Repr

/-- The schemes a target may have. -/
def isWebScheme (scheme : List Char) : Bool := scheme ∈ ["http".toList, "https".toList]

def isHostChar (c : Char) : Bool := Text.isLetter c || Text.isDigit c || c ∈ ['.', '-']

/-- `^[A-Za-z0-9.-]+(:\d+)?(/.*)?$` on text without blanks. -/
def isBareTarget (value : List Char) : Bool :=
  let host := value.takeWhile isHostChar
  let afterHost := value.dropWhile isHostChar
  let afterPort :=
    match afterHost with
    | ':' :: rest => if rest.head?.any Text.isDecimal then rest.dropWhile Text.isDecimal else afterHost
    | rest => rest
  host ≠ [] ∧ (afterPort = [] ∨ afterPort.head? = some '/')

/-- `_normalize_target_url`. -/
def normalizeTargetUrl (targetUrl : String) : Except PyException String :=
  let value := Text.strip targetUrl
  if value = "" then .error (.valueError "리다이렉트 대상 URL은 필수입니다")
  else if value.toList.any Text.isSpace then
    .error (.valueError "리다이렉트 대상 URL에는 공백을 포함할 수 없습니다")
  else
    match Url.urlsplit value.toList with
    | .error failure => .error (.valueError failure.message)
    | .ok parsed =>
        if isWebScheme parsed.scheme then .ok value
        else if parsed.scheme ≠ [] then
          .error (.valueError "리다이렉트 대상 URL은 http 또는 https만 지원합니다")
        else if isBareTarget value.toList then .ok ("https://" ++ value)
        else .error (.valueError "유효하지 않은 리다이렉트 대상 URL입니다")

namespace RedirectHost

/-- `RedirectHost.create` with the drawn identifier. -/
def create (domain targetUrl : String) (permanent tlsEnabled : Bool) (id : Uuid) :
    Except PyException RedirectHost := do
  let domain ← DomainName.make domain
  let targetUrl ← normalizeTargetUrl targetUrl
  pure { id, domain, targetUrl, permanent, tlsEnabled }

/-- `RedirectHost.update`: an absent argument leaves its field. -/
def update (redirectHost : RedirectHost) (domain targetUrl : Option String)
    (permanent tlsEnabled : Option Bool) : Except PyException RedirectHost := do
  let newDomain ← match domain with
    | some text => DomainName.make text
    | none => pure redirectHost.domain
  let newTarget ← match targetUrl with
    | some text => normalizeTargetUrl text
    | none => pure redirectHost.targetUrl
  pure { redirectHost with
         domain := newDomain
         targetUrl := newTarget
         permanent := permanent.getD redirectHost.permanent
         tlsEnabled := tlsEnabled.getD redirectHost.tlsEnabled }

end RedirectHost

end TraefikManager.Domain
