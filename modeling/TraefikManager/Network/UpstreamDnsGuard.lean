import TraefikManager.Domain.DomainName
import TraefikManager.Domain.Upstream
import TraefikManager.Foundation.Substring

/-!
# The guard of upstream hosts

The guard checks a host against the policy kept in the system settings: an allowlist of
domain suffixes, and a strict mode in which every address the host resolves to must be
allowed as an upstream.
-/

namespace TraefikManager.Network

open Foundation Domain

structure UpstreamSecurityPolicy where
  dnsStrictMode : Bool
  allowlistEnabled : Bool
  allowedDomainSuffixes : List String
  allowDockerServiceNames : Bool
  allowPrivateNetworks : Bool
  deriving DecidableEq, Repr

/-- The values of the system settings by their keys. -/
abbrev SystemSettings := String → Option String

/-- The addresses a host resolves to; a host may be missing, and resolving may raise. -/
abbrev Resolver := Option String → Except PyException (List String)

section Suffixes

/-- The loop that drops leading `*.`. -/
def dropWildcards : List Char → List Char
  | '*' :: '.' :: rest => dropWildcards rest
  | chars => chars

/-- `[a-z0-9](?:[a-z0-9-]{0,61}[a-z0-9])?` -/
def isSuffixLabel (chars : List Char) : Bool := isLabel chars && chars.all fun c => !c.isUpper

/-- `DOMAIN_SUFFIX_PATTERN`; the final `$` lets one line feed pass. -/
def matchesSuffixPattern (chars : List Char) : Bool :=
  ((Text.dropFinalNewline chars).splitOn '.').all isSuffixLabel

/-- `normalize_domain_suffix`. -/
def normalizeDomainSuffix (value : String) : Except PyException String :=
  let normalized := dropWildcards (Text.lower (Text.strip value)).toList
  let normalized := (normalized.dropWhile (· = '.')).rdropWhile (· = '.')
  if matchesSuffixPattern normalized then .ok (String.ofList normalized)
  else .error (.valueError ("유효하지 않은 도메인 suffix입니다: " ++ value))

/-- The loop of `normalize_domain_suffixes`, with the suffixes seen so far. -/
def normalizeSuffixesFrom : List String → List String → Except PyException (List String)
  | _, [] => .ok []
  | seen, value :: rest => do
      let item ← normalizeDomainSuffix value
      if item ∈ seen then normalizeSuffixesFrom seen rest
      else do
        let others ← normalizeSuffixesFrom (item :: seen) rest
        pure (item :: others)

/-- `normalize_domain_suffixes`. -/
def normalizeDomainSuffixes (values : List String) : Except PyException (List String) :=
  normalizeSuffixesFrom [] values

/-- `matches_domain_suffix`. -/
def matchesDomainSuffix (host : String) (suffixes : List String) : Bool :=
  let normalizedHost := Text.rstripChar '.' (Text.lower (Text.strip host))
  suffixes.any fun suffix =>
    normalizedHost = suffix || Text.endsWith ("." ++ suffix) normalizedHost

end Suffixes

section Policy

/-- `_get_bool`. -/
def getBool (settings : SystemSettings) (key : String) (default : Bool) : Bool :=
  match settings key with
  | none => default
  | some value => Text.lower (Text.strip value) = "true"

/-- `_split_suffixes`. -/
def splitSuffixes (value : Option String) : List String :=
  match value with
  | none => []
  | some value =>
      ((Text.splitLines (Text.replaceChar ',' '\n' value)).map Text.strip).filter (· ≠ "")

/-- `_load_policy`. -/
def loadPolicy (settings : SystemSettings) : Except PyException UpstreamSecurityPolicy := do
  let allowedDomainSuffixes ←
    normalizeDomainSuffixes (splitSuffixes (settings "upstream_allowed_domain_suffixes"))
  pure
    { dnsStrictMode := getBool settings "upstream_dns_strict_mode" false
      allowlistEnabled := getBool settings "upstream_allowlist_enabled" false
      allowedDomainSuffixes
      allowDockerServiceNames := getBool settings "upstream_allow_docker_service_names" true
      allowPrivateNetworks := getBool settings "upstream_allow_private_networks" true }

end Policy

section Guard

/-- `IPV4_RFC1918_NETWORKS` and `IPV4_TAILSCALE_NETWORK`. -/
def privateNetworks : List Ip.Network :=
  [.v4 0x0a000000 8, .v4 0xac100000 12, .v4 0xc0a80000 16, .v4 0x64400000 10]

/-- `is_private_network_upstream_ip`; the networks hold addresses of version 4 only. -/
def isPrivateNetworkUpstreamIp (address : Ip.Address) : Bool :=
  privateNetworks.any (·.contains address)

/-- `_ensure_allowlisted`. A missing host has no characters to look through. -/
def ensureAllowlisted (host : Option String) (policy : UpstreamSecurityPolicy) :
    Except PyException Unit :=
  match host with
  | none => .error (.typeError "argument of type 'NoneType' is not iterable")
  | some host =>
      match Ip.ipAddress host with
      | some address =>
          if policy.allowPrivateNetworks && isPrivateNetworkUpstreamIp address then .ok ()
          else .error (.valueError ("업스트림 allowlist에서 허용되지 않은 IP 주소입니다: " ++ host))
      | none =>
          if !Text.containsChar '.' host then
            if policy.allowDockerServiceNames then .ok ()
            else .error (.valueError
              ("업스트림 allowlist에서 Docker 서비스명 사용이 비활성화되어 있습니다: " ++ host))
          else if matchesDomainSuffix host policy.allowedDomainSuffixes then .ok ()
          else .error (.valueError ("업스트림 allowlist에 없는 외부 도메인입니다: " ++ host))

/-- A host as a message shows it. -/
def shownHost (host : Option String) : String := host.getD "None"

/-- The check of one resolved address. -/
def ensureResolvedIpAllowed (host : Option String) (resolvedIp : String) :
    Except PyException Unit :=
  let refused : PyException := .valueError
    ("DNS strict mode에서 금지된 주소로 해석됩니다: " ++ shownHost host ++ " -> " ++ resolvedIp)
  match Ip.ipAddress resolvedIp with
  | none => .error refused
  | some address => (validateUpstreamIpAddress resolvedIp address).mapError fun _ => refused

/-- The strict mode of the guard. -/
def ensureResolvesSafely (resolver : Resolver) (host : Option String) : Except PyException Unit :=
  let unresolved : PyException := .valueError
    ("DNS strict mode에서 upstream 호스트를 해석할 수 없습니다: " ++ shownHost host)
  match resolver host with
  | .error _ => .error unresolved
  | .ok [] => .error unresolved
  | .ok resolvedIps => resolvedIps.forM (ensureResolvedIpAllowed host)

/-- `is_ip_literal`. -/
def isIpLiteral (host : Option String) : Bool := (host.bind Ip.ipAddress).isSome

/-- `ensure_safe`, once the policy is loaded. -/
def ensureAllowed (policy : UpstreamSecurityPolicy) (resolver : Resolver) (host : Option String) :
    Except PyException Unit := do
  if policy.allowlistEnabled then ensureAllowlisted host policy
  if isIpLiteral host || !policy.dnsStrictMode then pure ()
  else ensureResolvesSafely resolver host

/-- `ensure_safe`. -/
def ensureSafe (settings : SystemSettings) (resolver : Resolver) (host : Option String) :
    Except PyException Unit := do
  let policy ← loadPolicy settings
  ensureAllowed policy resolver host

end Guard

end TraefikManager.Network
