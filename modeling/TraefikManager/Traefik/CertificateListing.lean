import TraefikManager.Foundation.Newest
import TraefikManager.Monitoring.CertificateMonitor
import TraefikManager.Monitoring.EncodedPathBlocks
import TraefikManager.Traefik.AcmeStore
import Mathlib.Data.Prod.Lex
import Mathlib.Data.String.Basic

/-!
# The certificate listing

The domains of the routers with TLS are listed with what is known of their certificates. Names
and dates come from the overview of Traefik, wherever they stand in it, and from the ACME store
for the names that the overview does not have.
-/

namespace TraefikManager.Traefik

open Foundation Monitoring

section Overview

variable (tools : LogTools)

/-- `add_domain_entry`. -/
def addDomainEntry (item : List (String × Json)) : List String :=
  ((Json.get? item "main").bind nonemptyText?).toList ++
    (sansOf (Json.get? item "sans")).filterMap nonemptyText?

/-- What an item of `domains` adds. -/
def domainItem : Json → List String
  | .string text => (nonemptyText? (.string text)).toList
  | .object item => addDomainEntry item
  | _ => []

/-- `extract_domain_candidates`; a list stands for the set of its texts. -/
def extractDomainCandidates (node : List (String × Json)) : List String :=
  ((Json.get? node "domain").map domainItem).getD [] ++
    (sansOf (Json.get? node "domains")).flatMap domainItem

/-- `parse_datetime` of a value of any type. -/
def parseDatetime : Option Json → Option Int
  | some (.string value) => tools.parseDatetime value
  | _ => none

/-- `extract_expiry`. -/
def extractNodeExpiry (node : List (String × Json)) : Option Int :=
  ["notAfter", "not_after", "expiresAt", "expires_at", "expiration", "expirationDate",
    "expiryDate"].findSome? fun key => parseDatetime tools (Json.get? node key)

variable (order : SetOrder String)

/-- What `walk` notes at an object. -/
def noteNode (expiryMap : Dict String Int) (node : List (String × Json)) : Dict String Int :=
  match extractNodeExpiry tools node with
  | none => expiryMap
  | some expiresAt => expiryMap.lowerAll
      ((order.list (extractDomainCandidates node)).map (·, expiresAt))

mutual

/-- `walk` of `extract_expiry_map`. The keys of an object that has been decoded are distinct. -/
def walk (expiryMap : Dict String Int) : Json → Dict String Int
  | .object fields => walkFields (noteNode tools order expiryMap fields) fields
  | .array items => walkItems expiryMap items
  | _ => expiryMap

def walkItems (expiryMap : Dict String Int) : List Json → Dict String Int
  | [] => expiryMap
  | item :: rest => walkItems (walk expiryMap item) rest

def walkFields (expiryMap : Dict String Int) : List (String × Json) → Dict String Int
  | [] => expiryMap
  | (_, value) :: rest => walkFields (walk expiryMap value) rest

end

/-- `extract_expiry_map`. -/
def extractExpiryMap (payload : Json) : Dict String Int := walk tools order .empty payload

/-- A name with an asterisk as its first label, taken as an ending of a domain. -/
def endsInWildcard (certDomain domain : String) : Bool :=
  Text.startsWith "*." certDomain &&
    (certDomain.toList.drop 1).isSuffixOf domain.toList

/-- `find_expiry`. -/
def findExpiry (domain : String) (expiryMap : Dict String Int) : Option Int :=
  match expiryMap.get? domain with
  | some expiresAt => some expiresAt
  | none => (expiryMap.entries.find? fun entry => endsInWildcard entry.1 domain).map Prod.snd

end Overview

section Routers

/-- The fields of a value that is an object. -/
def objectFields? : Json → Option (List (String × Json))
  | .object fields => some fields
  | _ => none

/-- `normalize_routers`, without the names of the routers. -/
def normalizeRouters : Json → List (List (String × Json))
  | .array items => items.filterMap objectFields?
  | .object payload =>
      match Json.get? payload "routers" with
      | some (.array items) => items.filterMap objectFields?
      | _ => (payload.mapM fun field => objectFields? field.2).getD []
  | _ => []

/-- What `Host\(([^)]+)\)` finds at the beginning of a text. -/
def hostArgument (chars : List Char) : Option (List Char) :=
  if "Host(".toList <+: chars then
    let inside := (chars.drop 5).takeWhile (· ≠ ')')
    if inside ≠ [] ∧ (chars.drop (5 + inside.length)).head? = some ')' then some inside else none
  else none

/-- `re.findall(r"Host\(([^)]+)\)", rule)`; the first argument counts the characters of the last
match that are still to come. -/
def hostArguments : Nat → List Char → List (List Char)
  | _, [] => []
  | skip + 1, _ :: rest => hostArguments skip rest
  | 0, c :: rest =>
      match hostArgument (c :: rest) with
      | some inside => inside :: hostArguments (inside.length + 5) rest
      | none => hostArguments 0 rest

/-- `text.strip(mark)`. -/
def stripMark (mark : Char) (chars : List Char) : List Char :=
  (chars.dropWhile (· = mark)).rdropWhile (· = mark)

/-- `extract_domains_from_rule`. -/
def extractDomainsFromRule (rule : String) : List String :=
  (hostArguments 0 rule.toList).flatMap fun inside =>
    (inside.splitOn ',').filterMap fun token =>
      let value := stripMark '\'' (stripMark '"' (stripMark '`' (Text.stripChars token)))
      if value = [] then none else some (String.ofList value)

/-- `extract_domains_from_router`. -/
def extractDomainsFromRouter (router : List (String × Json)) : List String :=
  let ofRule :=
    match Json.get? router "rule" with
    | some (.string rule) => extractDomainsFromRule rule
    | _ => []
  let ofTls :=
    match Json.get? router "tls" with
    | some (.object tls) =>
        ((sansOf (Json.get? tls "domains")).filterMap objectFields?).flatMap addDomainEntry
    | _ => []
  (ofRule ++ ofTls).dedup.mergeSort

/-- The resolver a router names for its certificates. -/
def certResolver (tools : LogTools) (router : List (String × Json)) : Option String :=
  match Json.get? router "tls" with
  | some (.object tls) =>
      let resolver := Json.get? tls "certResolver"
      if Monitoring.truthy resolver then resolver.map tools.str else none
  | _ => none

end Routers

section Listing

variable (tools : LogTools) (order : SetOrder String) (now : String → Int)

/-- What the loop over the routers does with one: the resolvers of each domain are collected. -/
def noteRouter (certificates : Dict String (List String)) (router : List (String × Json)) :
    Dict String (List String) :=
  if Monitoring.truthy (Json.get? router "tls") then
    (extractDomainsFromRouter router).foldl (fun certificates domain =>
      certificates.set domain
        (((certificates.get? domain).getD []) ++ (certResolver tools router).toList)) certificates
  else certificates

/-- `ceil((expires_at - now).total_seconds() / 86400)`. -/
def daysUntil (expiresAt now : Int) : Int := -((now - expiresAt) / 86400000000)

/-- `to_certificate_response`. Each certificate has its own reading of the clock. -/
def toCertificateResponse (domain : String) (certResolvers : List String)
    (expiresAt : Option Int) : Certificate :=
  { domain := domain
    status :=
      match expiresAt with
      | some expiresAt =>
          if expiresAt < now domain then "error"
          else if expiresAt - now domain ≤ 30 * 86400000000 then "warning"
          else "active"
      | none => if certResolvers ≠ [] then "pending" else "inactive"
    certResolvers := certResolvers.dedup.mergeSort
    expiresAt := expiresAt.map .utc
    daysRemaining := expiresAt.map (daysUntil · (now domain)) }

/-- The key the listing is sorted by. -/
def listingKey (certificate : Certificate) : Bool ×ₗ (Int ×ₗ String) :=
  let days := certificate.daysRemaining.getD 0
  toLex (certificate.daysRemaining.isNone,
    toLex (if days = 0 then 99999 else days, certificate.domain))

/-- `build_certificate_listing`. -/
def buildCertificateListing (overview routersPayload : Json) (acmeExpiryMap : Dict String Int) :
    List Certificate :=
  let expiryMap := (extractExpiryMap tools order overview).fill acmeExpiryMap.entries
  let certificates := (normalizeRouters routersPayload).foldl (noteRouter tools) .empty
  sortAscending listingKey (certificates.entries.map fun (domain, certResolvers) =>
    toCertificateResponse now domain certResolvers (findExpiry domain expiryMap))

/-- `list_certificates` of what Traefik answers and of what the ACME store holds. -/
def listCertificates (extractor : ExpiryExtractor) (overview routersPayload : Json)
    (acmeText : String) : Except PyException (List Certificate) := do
  let acmeExpiryMap ← parseAcmeExpiryMap extractor acmeText
  .ok (buildCertificateListing tools order now overview routersPayload acmeExpiryMap)

end Listing

section Known

variable {tools : LogTools} {order : SetOrder String} {node : List (String × Json)} {name : String}
  {expiresAt : Int}

/-- An object stands somewhere in a payload. -/
inductive Occurs (node : List (String × Json)) : Json → Prop
  | here : Occurs node (.object node)
  | item {items : List Json} {value : Json} (listed : value ∈ items) (inside : Occurs node value) :
      Occurs node (.array items)
  | field {fields : List (String × Json)} {field : String × Json} (listed : field ∈ fields)
      (inside : Occurs node field.2) : Occurs node (.object fields)

/-- An object that has the name and an expiry. -/
def NodeCarries (tools : LogTools) (node : List (String × Json)) (name : String) (expiresAt : Int) :
    Prop :=
  name ∈ extractDomainCandidates node ∧ extractNodeExpiry tools node = some expiresAt

/-- Somewhere in the overview an object has the name and an expiry. -/
def OverviewCarries (tools : LogTools) (overview : Json) (name : String) (expiresAt : Int) : Prop :=
  ∃ node, Occurs node overview ∧ NodeCarries tools node name expiresAt

private theorem overviewCarries_array {items : List Json} :
    OverviewCarries tools (.array items) name expiresAt ↔
      ∃ item ∈ items, OverviewCarries tools item name expiresAt := by
  constructor
  · intro carries
    obtain ⟨node, occurs, isNode⟩ := carries
    cases occurs with
    | item listed inside => exact ⟨_, listed, node, inside, isNode⟩
  · intro carries
    obtain ⟨item, listed, node, inside, isNode⟩ := carries
    exact ⟨node, .item listed inside, isNode⟩

private theorem overviewCarries_object {fields : List (String × Json)} :
    OverviewCarries tools (.object fields) name expiresAt ↔
      NodeCarries tools fields name expiresAt ∨
        ∃ field ∈ fields, OverviewCarries tools field.2 name expiresAt := by
  constructor
  · intro carries
    obtain ⟨node, occurs, isNode⟩ := carries
    cases occurs with
    | here => exact .inl isNode
    | field listed inside => exact .inr ⟨_, listed, node, inside, isNode⟩
  · intro carries
    obtain isNode | ⟨field, listed, node, inside, isNode⟩ := carries
    · exact ⟨fields, .here, isNode⟩
    · exact ⟨node, .field listed inside, isNode⟩

/-- A payload without objects has no names. -/
theorem keepsLeast_leaf {payload : Json} {expiryMap : Dict String Int}
    {reports : String → Int → Prop} (keeps : expiryMap.KeepsLeast reports)
    (leaf : ∀ node, ¬ Occurs node payload) :
    expiryMap.KeepsLeast fun name expiresAt =>
      reports name expiresAt ∨ OverviewCarries tools payload name expiresAt := by
  apply keeps.congr
  intro name expiresAt
  rw [iff_self_or]
  intro carries
  obtain ⟨node, occurs, -⟩ := carries
  exact absurd occurs (leaf node)

private theorem keepsLeast_noteNode {expiryMap : Dict String Int} {reports : String → Int → Prop}
    (keeps : expiryMap.KeepsLeast reports) (node : List (String × Json)) :
    (noteNode tools order expiryMap node).KeepsLeast fun name expiresAt =>
      reports name expiresAt ∨ NodeCarries tools node name expiresAt := by
  unfold noteNode NodeCarries
  cases extractNodeExpiry tools node with
  | none => exact keeps.congr fun name expiresAt => by simp
  | some expiry =>
      apply (keeps.lowerAll _).congr
      intro name expiresAt
      simp [order.mem_list]

mutual

private theorem keepsLeast_walk : ∀ (payload : Json) {expiryMap : Dict String Int}
    {reports : String → Int → Prop}, expiryMap.KeepsLeast reports →
      (walk tools order expiryMap payload).KeepsLeast fun name expiresAt =>
        reports name expiresAt ∨ OverviewCarries tools payload name expiresAt
  | .object fields, _, _, keeps => by
      rw [walk]
      apply (keepsLeast_walkFields fields (keepsLeast_noteNode keeps fields)).congr
      intro name expiresAt
      rw [overviewCarries_object, or_assoc]
  | .array items, _, _, keeps => by
      rw [walk]
      apply (keepsLeast_walkItems items keeps).congr
      intro name expiresAt
      rw [overviewCarries_array]
  | .null, _, _, keeps => keepsLeast_leaf keeps fun _ => nofun
  | .bool _, _, _, keeps => keepsLeast_leaf keeps fun _ => nofun
  | .int _, _, _, keeps => keepsLeast_leaf keeps fun _ => nofun
  | .real _, _, _, keeps => keepsLeast_leaf keeps fun _ => nofun
  | .string _, _, _, keeps => keepsLeast_leaf keeps fun _ => nofun

private theorem keepsLeast_walkItems : ∀ (items : List Json) {expiryMap : Dict String Int}
    {reports : String → Int → Prop}, expiryMap.KeepsLeast reports →
      (walkItems tools order expiryMap items).KeepsLeast fun name expiresAt =>
        reports name expiresAt ∨ ∃ item ∈ items, OverviewCarries tools item name expiresAt
  | [], _, _, keeps => keeps.congr fun _ _ => by simp
  | item :: rest, _, _, keeps => by
      rw [walkItems]
      apply (keepsLeast_walkItems rest (keepsLeast_walk item keeps)).congr
      intro name expiresAt
      simp only [List.mem_cons, exists_eq_or_imp, or_assoc]

private theorem keepsLeast_walkFields :
    ∀ (fields : List (String × Json)) {expiryMap : Dict String Int}
    {reports : String → Int → Prop}, expiryMap.KeepsLeast reports →
      (walkFields tools order expiryMap fields).KeepsLeast fun name expiresAt =>
        reports name expiresAt ∨ ∃ field ∈ fields, OverviewCarries tools field.2 name expiresAt
  | [], _, _, keeps => keeps.congr fun _ _ => by simp
  | (key, value) :: rest, _, _, keeps => by
      rw [walkFields]
      apply (keepsLeast_walkFields rest (keepsLeast_walk value keeps)).congr
      intro name expiresAt
      simp only [List.mem_cons, exists_eq_or_imp, or_assoc]

end

/-- The overview gives each name the earliest expiry it has for it. -/
theorem keepsLeast_extractExpiryMap (tools : LogTools) (order : SetOrder String) (overview : Json) :
    (extractExpiryMap tools order overview).KeepsLeast (OverviewCarries tools overview) := by
  apply (keepsLeast_walk overview Dict.keepsLeast_empty).congr
  intro name expiresAt
  rw [false_or]

end Known

section Expiries

variable {tools : LogTools} {order : SetOrder String} {extractor : ExpiryExtractor}
  {overview : Json} {acmeText name domain : String} {acmeExpiryMap : Dict String Int}
  {expiresAt : Int}

/-- The earliest expiry known for a name: the earliest one of the overview or, if the overview
does not have the name, the earliest one of the store. -/
def EarliestKnown (tools : LogTools) (extractor : ExpiryExtractor) (overview : Json)
    (acmeText name : String) (expiresAt : Int) : Prop :=
  IsLeast {expiry | OverviewCarries tools overview name expiry} expiresAt ∨
    (∀ expiry, ¬ OverviewCarries tools overview name expiry) ∧
      IsLeast {expiry | StoreCarries extractor acmeText name expiry} expiresAt

/-- The domain is the ending of the name behind one label for the asterisk. -/
def StandsForOneLabel (name domain : String) : Prop :=
  ∃ label rest, label ≠ [] ∧ '.' ∉ label ∧ name.toList = '*' :: '.' :: rest ∧
    domain.toList = label ++ '.' :: rest

/-- The domain is the name, or the asterisk of the name stands for its first label. -/
def Covers (name domain : String) : Prop := name = domain ∨ StandsForOneLabel name domain

private theorem get?_fill_eq_some_iff (order : SetOrder String) (overview : Json)
    (acme : acmeExpiryMap.KeepsLeast (StoreCarries extractor acmeText)) :
    ((extractExpiryMap tools order overview).fill acmeExpiryMap.entries).get? name =
      some expiresAt ↔ EarliestKnown tools extractor overview acmeText name expiresAt := by
  have keeps := keepsLeast_extractExpiryMap tools order overview
  have ofStore : (acmeExpiryMap.entries.find? (·.1 = name)).map Prod.snd =
      acmeExpiryMap.get? name := rfl
  rw [Dict.get?_fill, ofStore, EarliestKnown]
  cases found : (extractExpiryMap tools order overview).get? name with
  | none =>
      have unknown := keeps.unreported name found
      have noLeast : ¬ IsLeast {expiry | OverviewCarries tools overview name expiry} expiresAt :=
        fun isLeast => unknown expiresAt isLeast.1
      rw [Option.none_or, acme.get?_eq_some_iff, or_iff_right noLeast, and_iff_right unknown]
  | some expiry =>
      have isLeast := keeps.least name expiry found
      have known : ¬ ∀ expiry, ¬ OverviewCarries tools overview name expiry :=
        fun unknown => unknown expiry isLeast.1
      rw [Option.some_or, Option.some.injEq, or_iff_left fun both => known both.1]
      constructor
      · intro same
        exact same ▸ isLeast
      · intro other
        exact isLeast.unique other

private theorem exists_of_findExpiry {expiryMap : Dict String Int}
    (found : findExpiry domain expiryMap = some expiresAt) :
    expiryMap.get? domain = some expiresAt ∨
      ∃ name, expiryMap.get? name = some expiresAt ∧ endsInWildcard name domain = true := by
  unfold findExpiry at found
  split at found
  · rename_i exact
    exact .inl (found ▸ exact)
  · obtain ⟨entry, isEntry, rfl⟩ := Option.map_eq_some_iff.mp found
    have ends := List.find?_some isEntry
    refine .inr ⟨entry.1, ?_, ends⟩
    rw [Dict.get?_eq_some_iff]
    exact List.mem_of_find?_eq_some isEntry

end Expiries

section Collecting

variable {tools : LogTools} {now : String → Int} {certificates : Dict String (List String)}
  {domain : String}

/-- A router with TLS that is for the domain. -/
def IsForDomain (domain : String) (router : List (String × Json)) : Prop :=
  Monitoring.truthy (Json.get? router "tls") = true ∧ domain ∈ extractDomainsFromRouter router

private theorem mem_keys_noteRouter {router : List (String × Json)} :
    domain ∈ (noteRouter tools certificates router).keys ↔
      domain ∈ certificates.keys ∨ IsForDomain domain router := by
  have each : ∀ (domains resolvers : List String) (certificates : Dict String (List String)),
      domain ∈ (domains.foldl (fun certificates domain => certificates.set domain
        (((certificates.get? domain).getD []) ++ resolvers)) certificates).keys ↔
        domain ∈ certificates.keys ∨ domain ∈ domains := by
    intro domains resolvers certificates
    induction domains generalizing certificates with
    | nil => simp
    | cons first rest ih => rw [List.foldl_cons, ih, Dict.mem_keys_set, List.mem_cons, or_assoc]
  unfold noteRouter IsForDomain
  split
  · rename_i secured
    rw [each, and_iff_right secured]
  · rename_i plain
    simp [plain]

private theorem mem_keys_noteRouters {routers : List (List (String × Json))} :
    domain ∈ (routers.foldl (noteRouter tools) certificates).keys ↔
      domain ∈ certificates.keys ∨ ∃ router ∈ routers, IsForDomain domain router := by
  induction routers generalizing certificates with
  | nil => simp
  | cons router routers ih =>
      rw [List.foldl_cons, ih, mem_keys_noteRouter, or_assoc]
      simp only [List.mem_cons, exists_eq_or_imp]

end Collecting

section Correctness

variable {tools : LogTools} {order : SetOrder String} {now : String → Int}
  {extractor : ExpiryExtractor} {overview routersPayload : Json} {acmeText : String}
  {listing : List Certificate}

/-- The first certificate has as few days left as the second, or the second has no expiry. -/
def FewerDays (first second : Certificate) : Prop :=
  ∀ later, second.daysRemaining = some later →
    ∃ sooner, first.daysRemaining = some sooner ∧ sooner ≤ later

/-- What the listing shows. For a domain that a wildcard name matches with another ending than
behind its first label it says nothing of the expiry, and nothing of where the certificates of
the last day stand among those with an expiry. -/
structure IsListing (tools : LogTools) (extractor : ExpiryExtractor)
    (overview routersPayload : Json) (acmeText : String) (listing : List Certificate) : Prop where
  once : (listing.map (·.domain)).Nodup
  complete : ∀ domain, domain ∈ listing.map (·.domain) ↔
    ∃ router ∈ normalizeRouters routersPayload, IsForDomain domain router
  covered : ∀ certificate ∈ listing, ∀ moment, certificate.expiresAt = some moment →
    (∀ name expiresAt, EarliestKnown tools extractor overview acmeText name expiresAt →
      endsInWildcard name certificate.domain = true →
        StandsForOneLabel name certificate.domain) →
    ∃ name, Covers name certificate.domain ∧
      EarliestKnown tools extractor overview acmeText name moment.micros
  exact : ∀ certificate ∈ listing, ∀ expiresAt,
    EarliestKnown tools extractor overview acmeText certificate.domain expiresAt →
      certificate.expiresAt = some (.utc expiresAt)
  ascending : (listing.filter (·.daysRemaining ≠ some 0)).Pairwise FewerDays
  unknownLast : listing.Pairwise fun first second =>
    first.daysRemaining = none → second.daysRemaining = none

/-- The order of the keys is the order of the days left, where none of these is zero. -/
theorem fewerDays_of_listingKey {first second : Certificate}
    (ordered : listingKey first ≤ listingKey second) (firstDays : first.daysRemaining ≠ some 0)
    (secondDays : second.daysRemaining ≠ some 0) : FewerDays first second := by
  intro later isLater
  rw [isLater] at secondDays
  have notZero : later ≠ 0 := fun isZero => secondDays (congrArg some isZero)
  unfold listingKey at ordered
  rw [isLater, Prod.Lex.le_iff, Prod.Lex.le_iff] at ordered
  cases isSooner : first.daysRemaining with
  | none =>
      simp [isSooner] at ordered
      exact absurd ordered (by decide)
  | some sooner =>
      rw [isSooner] at firstDays
      have nonzero : sooner ≠ 0 := fun isZero => firstDays (congrArg some isZero)
      simp [isSooner, notZero, nonzero] at ordered
      refine ⟨sooner, rfl, ?_⟩
      obtain less | same := ordered
      · exact less.le
      · exact same.1.le

private theorem unknown_of_listingKey {first second : Certificate}
    (ordered : listingKey first ≤ listingKey second) (unknown : first.daysRemaining = none) :
    second.daysRemaining = none := by
  unfold listingKey at ordered
  rw [unknown, Prod.Lex.le_iff] at ordered
  cases isSecond : second.daysRemaining with
  | none => rfl
  | some days =>
      simp [isSecond] at ordered
      exact absurd ordered (by decide)

/-- **The certificate listing.** -/
theorem listCertificates_isListing (order : SetOrder String) (now : String → Int)
    (lists : listCertificates tools order now extractor overview routersPayload acmeText =
      .ok listing) : IsListing tools extractor overview routersPayload acmeText listing := by
  obtain ⟨acmeExpiryMap, reads, built⟩ : ∃ acmeExpiryMap,
      parseAcmeExpiryMap extractor acmeText = .ok acmeExpiryMap ∧
        buildCertificateListing tools order now overview routersPayload acmeExpiryMap =
          listing := by
    unfold listCertificates at lists
    cases reads : parseAcmeExpiryMap extractor acmeText with
    | error failure => rw [reads] at lists; cases lists
    | ok acmeExpiryMap => rw [reads] at lists; exact ⟨acmeExpiryMap, rfl, Except.ok.inj lists⟩
  -- Each entry of the listing is that of a domain some router is for.
  have each : ∀ certificate ∈ listing, ∃ domain certResolvers,
      certificate = toCertificateResponse now domain certResolvers (findExpiry domain
        ((extractExpiryMap tools order overview).fill acmeExpiryMap.entries)) := by
    intro certificate listed
    rw [← built, buildCertificateListing, mem_sortAscending] at listed
    obtain ⟨entry, -, rfl⟩ := List.mem_map.mp listed
    exact ⟨entry.1, entry.2, rfl⟩
  have domains : (listing.map (·.domain)).Perm
      ((normalizeRouters routersPayload).foldl (noteRouter tools) .empty).keys := by
    rw [← built, buildCertificateListing]
    apply ((perm_sortAscending _).map _).trans
    rw [List.map_map]
    exact .refl _
  have sorted : listing.Pairwise fun first second => listingKey first ≤ listingKey second := by
    rw [← built, buildCertificateListing]
    exact pairwise_sortAscending _
  have acme := keepsLeast_of_parse reads
  constructor
  · exact domains.nodup_iff.mpr (Dict.distinct _)
  · intro domain
    rw [domains.mem_iff, mem_keys_noteRouters]
    simp
  · intro certificate listed moment expires oneLabel
    obtain ⟨domain, certResolvers, rfl⟩ := each certificate listed
    obtain ⟨expiresAt, found, rfl⟩ := Option.map_eq_some_iff.mp expires
    obtain isExact | ⟨name, isName, ends⟩ := exists_of_findExpiry found
    · exact ⟨domain, .inl rfl, (get?_fill_eq_some_iff order overview acme).mp isExact⟩
    · have earliest := (get?_fill_eq_some_iff order overview acme).mp isName
      exact ⟨name, .inr (oneLabel name expiresAt earliest ends), earliest⟩
  · intro certificate listed expiresAt earliest
    obtain ⟨domain, certResolvers, rfl⟩ := each certificate listed
    have isExact := (get?_fill_eq_some_iff order overview acme).mpr earliest
    have found : findExpiry domain ((extractExpiryMap tools order overview).fill
        acmeExpiryMap.entries) = some expiresAt := by
      unfold findExpiry
      rw [show ((extractExpiryMap tools order overview).fill acmeExpiryMap.entries).get? domain =
        some expiresAt from isExact]
    exact congrArg (Option.map Datetime.utc) found
  · apply (sorted.filter _).imp_of_mem
    intro first second inFirst inSecond ordered
    have firstDays := of_decide_eq_true (List.mem_filter.mp inFirst).2
    have secondDays := of_decide_eq_true (List.mem_filter.mp inSecond).2
    exact fewerDays_of_listingKey ordered firstDays secondDays
  · exact sorted.imp unknown_of_listingKey

end Correctness

section Sample

def sampleTools : LogTools :=
  { parsedateToDatetime := fun _ => none, sha256 := id, hostname := some
    isDecimal := Text.isDigit, isWord := Text.isDigit, str := fun _ => ""
    truncate := fun _ => .ok 0 }

def sampleOrder : SetOrder String := ⟨List.dedup, fun _ => .refl _⟩

/-- The overview has a certificate for ten days. -/
def sampleOverview : Json :=
  .object [("domain", .string "shop.example.org"), ("notAfter", .string "1970-01-11T00:00:00Z")]

def sampleRouter : List (String × Json) :=
  [("tls", .object [("domains", .array
    (["a.b.example.com", "shop.example.org", "today.example.org"].map fun domain =>
      .object [("main", .string domain)]))])]

/-- The certificates of the store run out at once or in five days. -/
def sampleExtractor : ExpiryExtractor := fun certificate =>
  if certificate = "old" then some 0 else some 432000000000

def sampleCertificates : List Json :=
  [("new", "*.example.com"), ("new", "shop.example.org"), ("old", "today.example.org")].map
    fun (certificate, domain) => .object [("certificate", .string certificate),
      ("domain", .object [("main", .string domain)])]

def sampleStore : Json :=
  .object [("letsencrypt", .object [("Certificates", .array sampleCertificates)])]

def sampleExpiryMap : Dict String Int :=
  Dict.ofList [("*.example.com", 432000000000), ("shop.example.org", 432000000000),
    ("today.example.org", 0)]

private theorem exact_sampleStore : sampleStore.Exact := by
  apply Json.Exact.object
  rw [List.forall_mem_singleton]
  apply Json.Exact.object
  rw [List.forall_mem_singleton]
  apply Json.Exact.array
  intro entry listed
  obtain ⟨names, -, rfl⟩ := List.mem_map.mp listed
  apply Json.Exact.object
  simp only [List.forall_mem_cons]
  refine ⟨.string _, ?_, nofun⟩
  apply Json.Exact.object
  rw [List.forall_mem_singleton]
  exact .string _

private theorem parse_sampleStore :
    parseAcmeExpiryMap sampleExtractor sampleStore.dumps = .ok sampleExpiryMap := by
  rw [parseAcmeExpiryMap, Json.loads_dumps exact_sampleStore]
  rfl

private theorem listCertificates_sample :
    listCertificates sampleTools sampleOrder (fun _ => 0) sampleExtractor sampleOverview
      (.array [.object sampleRouter]) sampleStore.dumps =
    .ok (buildCertificateListing sampleTools sampleOrder (fun _ => 0) sampleOverview
      (.array [.object sampleRouter]) sampleExpiryMap) := by
  rw [listCertificates, parse_sampleStore]
  rfl

/-- What is listed for the sample: domain, expiry and days left. -/
theorem buildCertificateListing_sample :
    (buildCertificateListing sampleTools sampleOrder (fun _ => 0) sampleOverview
      (.array [.object sampleRouter]) sampleExpiryMap).map
        (fun certificate =>
          (certificate.domain, certificate.expiresAt, certificate.daysRemaining)) =
      [("a.b.example.com", some (.utc 432000000000), some 5),
        ("shop.example.org", some (.utc 864000000000), some 10),
        ("today.example.org", some (.utc 0), some 0)] := by
  have domains : extractDomainsFromRouter sampleRouter =
      ["a.b.example.com", "shop.example.org", "today.example.org"] := by
    apply List.mergeSort_of_pairwise
    decide
  have certificates : (normalizeRouters (.array [.object sampleRouter])).foldl
      (noteRouter sampleTools) .empty =
        Dict.ofList [("a.b.example.com", []), ("shop.example.org", []),
          ("today.example.org", [])] := by
    have routers : normalizeRouters (.array [.object sampleRouter]) = [sampleRouter] := rfl
    rw [routers, List.foldl_cons, List.foldl_nil, noteRouter, domains]
    rfl
  rw [buildCertificateListing, certificates]
  dsimp only
  rw [sortAscending, List.mergeSort_of_pairwise]
  · rfl
  · decide +kernel

theorem listCertificates_isListing_sample :
    IsListing sampleTools sampleExtractor sampleOverview (.array [.object sampleRouter])
      sampleStore.dumps (buildCertificateListing sampleTools sampleOrder (fun _ => 0)
        sampleOverview (.array [.object sampleRouter]) sampleExpiryMap) :=
  listCertificates_isListing sampleOrder (fun _ => 0) listCertificates_sample

private theorem not_covers_two_labels : ¬ Covers "*.example.com" "a.b.example.com" := by
  intro covers
  obtain same | ⟨label, rest, -, noDot, isName, isDomain⟩ := covers
  · exact absurd same (by decide)
  · have isRest : rest = "example.com".toList := by
      have whole : "*.example.com".toList = '*' :: '.' :: "example.com".toList := by decide
      rw [whole, List.cons.injEq, List.cons.injEq] at isName
      exact isName.2.2.symm
    have isLabel : label = "a.b".toList := by
      have whole : "a.b.example.com".toList = "a.b".toList ++ '.' :: "example.com".toList := by
        decide
      rw [whole, isRest] at isDomain
      exact (List.append_cancel_right isDomain).symm
    rw [isLabel] at noDot
    exact noDot (by decide)

/-- The listing takes an expiry from a name that does not cover the domain, prefers a later
expiry of the overview to that of the store, and puts the certificate of the last day last. -/
theorem listing_misleads : ∃ listing,
    listCertificates sampleTools sampleOrder (fun _ => 0) sampleExtractor sampleOverview
      (.array [.object sampleRouter]) sampleStore.dumps = .ok listing ∧
    listing.map (fun certificate =>
        (certificate.domain, certificate.expiresAt, certificate.daysRemaining)) =
      [("a.b.example.com", some (.utc 432000000000), some 5),
        ("shop.example.org", some (.utc 864000000000), some 10),
        ("today.example.org", some (.utc 0), some 0)] ∧
    (∀ name expiresAt, EarliestKnown sampleTools sampleExtractor sampleOverview sampleStore.dumps
      name expiresAt → ¬ Covers name "a.b.example.com") ∧
    StoreCarries sampleExtractor sampleStore.dumps "shop.example.org" 432000000000 ∧
    ¬ listing.Pairwise FewerDays := by
  refine ⟨_, listCertificates_sample, buildCertificateListing_sample, ?_, ?_, ?_⟩
  · intro name expiresAt earliest
    have acme := keepsLeast_of_parse parse_sampleStore
    have found := (get?_fill_eq_some_iff sampleOrder sampleOverview acme).mpr earliest
    have listed : (name, expiresAt) ∈ [("shop.example.org", (864000000000 : Int)),
        ("*.example.com", 432000000000), ("today.example.org", 0)] :=
      Dict.get?_eq_some_iff.mp found
    simp only [List.mem_cons, Prod.mk.injEq, List.not_mem_nil, or_false] at listed
    have plain : ∀ name : String, name ≠ "a.b.example.com" → name.toList.head? ≠ some '*' →
        ¬ Covers name "a.b.example.com" := by
      intro name different noAsterisk covers
      obtain same | ⟨label, rest, -, -, isName, -⟩ := covers
      · exact different same
      · rw [isName] at noAsterisk
        exact noAsterisk rfl
    obtain ⟨rfl, -⟩ | ⟨rfl, -⟩ | ⟨rfl, -⟩ := listed
    · exact plain _ (by decide) (by decide)
    · exact not_covers_two_labels
    · exact plain _ (by decide) (by decide)
  · refine ⟨_, Json.loads_dumps exact_sampleStore,
      .object [("Certificates", .array sampleCertificates)], List.mem_singleton.mpr rfl, ?_⟩
    apply mem_resolverReports.mp
    have reports : resolverReports sampleExtractor
        (.object [("Certificates", .array sampleCertificates)]) =
          [("*.example.com", 432000000000), ("shop.example.org", 432000000000),
            ("today.example.org", 0)] := rfl
    rw [reports]
    decide
  · intro ascending
    have days : ((buildCertificateListing sampleTools sampleOrder (fun _ => 0) sampleOverview
        (.array [.object sampleRouter]) sampleExpiryMap).map fun certificate =>
          (certificate.domain, certificate.expiresAt, certificate.daysRemaining)).Pairwise
        fun first second => ∀ later, second.2.2 = some later →
          ∃ sooner, first.2.2 = some sooner ∧ sooner ≤ later :=
      List.pairwise_map.mpr ascending
    rw [buildCertificateListing_sample] at days
    simp at days

end Sample

end TraefikManager.Traefik
