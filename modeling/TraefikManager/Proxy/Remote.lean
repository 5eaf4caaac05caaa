import TraefikManager.Foundation.IpNetwork
import TraefikManager.Runtime

/-!
# Remote services of the proxy

The objects the application keeps in Authentik and in the Cloudflare zones. An
object has the key its service gave it: creating appends an object, deleting
removes the objects of a key.
-/

namespace TraefikManager.Proxy

open Foundation

section Authentik

structure ProxyProvider where
  pk : String
  name : String
  externalHost : String
  deriving DecidableEq, Repr

structure Application where
  pk : String
  name : String
  slug : String
  provider : String
  deriving DecidableEq, Repr

structure ExpressionPolicy where
  pk : String
  name : String
  expression : String
  deriving DecidableEq, Repr

structure PolicyBinding where
  pk : String
  target : String
  policy : String
  order : Nat := 0
  enabled : Bool := true
  negate : Bool := false
  timeout : Nat := 30
  deriving DecidableEq, Repr

structure Authentik where
  providers : List ProxyProvider := []
  applications : List Application := []
  policies : List ExpressionPolicy := []
  bindings : List PolicyBinding := []
  deriving DecidableEq, Repr

namespace Authentik

variable (authentik : Authentik)

/-- `create_proxy_provider`. -/
def createProxyProvider (pk name domain : String) : Authentik :=
  { authentik with
    providers := authentik.providers ++ [{ pk, name, externalHost := "https://" ++ domain }] }

/-- `create_application`. -/
def createApplication (pk name slug provider : String) : Authentik :=
  { authentik with applications := authentik.applications ++ [{ pk, name, slug, provider }] }

/-- `get_application_by_slug`. -/
def getApplicationBySlug (slug : String) : Option Application :=
  authentik.applications.find? (·.slug = slug)

/-- `group_name.replace('"', '\\"')`. -/
def escapeGroupName (groupName : String) : String :=
  String.ofList (groupName.toList.flatMap fun c => if c = '"' then ['\\', '"'] else [c])

/-- `create_group_policy`. -/
def createGroupPolicy (pk name groupName : String) : Authentik :=
  let expression := "return request.user.is_authenticated and " ++
    "request.user.ak_groups.filter(name=\"" ++ escapeGroupName groupName ++ "\").exists()"
  { authentik with policies := authentik.policies ++ [{ pk, name, expression }] }

/-- `bind_policy_to_application`. -/
def bindPolicyToApplication (pk target policy : String) : Authentik :=
  { authentik with bindings := authentik.bindings ++ [{ pk, target, policy }] }

/-- `delete_policy_binding`. -/
def deletePolicyBinding (bindingId : String) : Authentik :=
  { authentik with bindings := authentik.bindings.filter (·.pk ≠ bindingId) }

/-- `delete_policy`. -/
def deletePolicy (policyId : String) : Authentik :=
  { authentik with policies := authentik.policies.filter (·.pk ≠ policyId) }

/-- `delete_application`. -/
def deleteApplication (slug : String) : Authentik :=
  { authentik with applications := authentik.applications.filter (·.slug ≠ slug) }

/-- `delete_provider`. -/
def deleteProvider (providerId : String) : Authentik :=
  { authentik with providers := authentik.providers.filter (·.pk ≠ providerId) }

end Authentik

end Authentik

section Cloudflare

structure CloudflareZoneConfig where
  zoneId : String
  zoneName : Option String := none
  recordTarget : Option String := none
  proxied : Bool := false
  deriving DecidableEq, Repr

/-- `matches_domain`. -/
def CloudflareZoneConfig.matchesDomain (config : CloudflareZoneConfig) (domain : String) : Bool :=
  match config.zoneName with
  | none => false
  | some zoneName =>
      zoneName ≠ "" ∧ (domain = zoneName ∨ Text.endsWith ("." ++ zoneName) domain)

/-- `find_matching_zone`: the first of the matching zones with the longest name. -/
def findMatchingZone (configs : List CloudflareZoneConfig) (domain : String) :
    Option CloudflareZoneConfig :=
  (configs.filter (·.matchesDomain domain)).foldl
    (fun best config =>
      match best with
      | none => some config
      | some other =>
          if (other.zoneName.getD "").length < (config.zoneName.getD "").length then some config
          else some other)
    none

/-- What a record says, apart from its key. -/
structure DnsRecordPayload where
  type : String
  name : String
  content : String
  ttl : Nat
  proxied : Bool
  comment : String
  deriving DecidableEq, Repr

structure DnsRecord where
  id : String
  zoneId : String
  payload : DnsRecordPayload
  deriving DecidableEq, Repr

def managedRecordComment : String := "managed-by-traefik-manager"

/-- `detect_record_type`. -/
def detectRecordType (content : String) : String :=
  match Ip.ipAddress content with
  | some (.v4 _) => "A"
  | some (.v6 ..) => "AAAA"
  | none => "CNAME"

/-- `build_service_record_payload`. -/
def buildServiceRecordPayload (domain fallbackTarget : String) (config : CloudflareZoneConfig) :
    Except PyException DnsRecordPayload :=
  let content := Text.strip (orElse (config.recordTarget.getD "") fallbackTarget)
  if content = "" then .error (.cloudflareClientError "Cloudflare 레코드 대상 값이 없습니다")
  else
    .ok
      { type := detectRecordType content, name := domain, content, ttl := 1
        proxied := config.proxied, comment := managedRecordComment }

/-- `find_dns_records`. -/
def findDnsRecords (records : List DnsRecord) (zoneId domain : String) (type : Option String) :
    List DnsRecord :=
  records.filter fun record =>
    record.zoneId = zoneId ∧ record.payload.name = domain ∧
      (type = none ∨ type = some record.payload.type)

/-- The fields `upsert_service_dns_record` compares. -/
def DnsRecordPayload.sameRecord (first second : DnsRecordPayload) : Bool :=
  first.type = second.type ∧ first.name = second.name ∧ first.content = second.content ∧
    first.ttl = second.ttl ∧ first.proxied = second.proxied

/-- `upsert_service_dns_record`: the key of the record, and the records after it.
A record that is in the way is kept when it says the same, else overwritten. -/
def upsertServiceDnsRecord (records : List DnsRecord) (zoneId freshId : String)
    (payload : DnsRecordPayload) : String × List DnsRecord :=
  match (findDnsRecords records zoneId payload.name (some payload.type)).head? with
  | some existing =>
      if existing.payload.sameRecord payload then (existing.id, records)
      else
        (existing.id, records.map fun record =>
          if record.zoneId = zoneId ∧ record.id = existing.id then { record with payload }
          else record)
  | none => (freshId, records ++ [{ id := freshId, zoneId, payload }])

/-- `delete_service_dns_record`: the record of the key, or without a key every
record of the domain. -/
def deleteServiceDnsRecord (records : List DnsRecord) (zoneId domain : String)
    (recordId : Option String) : List DnsRecord :=
  let ofDomain := (findDnsRecords records zoneId domain none).map DnsRecord.id
  let targets :=
    match recordId with
    | some id => if id = "" then ofDomain else [id]
    | none => ofDomain
  records.filter fun record => ¬(record.zoneId = zoneId ∧ record.id ∈ targets)

end Cloudflare

end TraefikManager.Proxy
