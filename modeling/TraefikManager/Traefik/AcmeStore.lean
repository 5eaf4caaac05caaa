import TraefikManager.Foundation.LeastValues
import TraefikManager.Monitoring.MonitorState

/-!
# The ACME store

Traefik keeps its certificates in a JSON file: an object with an object for each resolver,
which lists the certificates and the names they are for. The backend takes from it the earliest
expiry of each name.
-/

namespace TraefikManager.Traefik

open Foundation

section Reading

/-- What is given of a certificate: `extract_acme_certificate_expiry` of its text, by openssl,
in microseconds. -/
abbrev ExpiryExtractor := String → Option Int

/-- A text that is not empty. -/
def nonemptyText? : Json → Option String
  | .string text => if text = "" then none else some text
  | _ => none

/-- `for item in value`. -/
def iterate : Json → Except PyException (List Json)
  | .array items => .ok items
  | .object fields => .ok ((Dict.ofList fields).keys.map .string)
  | .string text => .ok (text.toList.map fun c => .string (String.ofList [c]))
  | .null => .error (.typeError "'NoneType' object is not iterable")
  | .bool _ => .error (.typeError "'bool' object is not iterable")
  | .int _ => .error (.typeError "'int' object is not iterable")
  | .real _ => .error (.typeError "'float' object is not iterable")

/-- `[main] + sans`. -/
def concatenate (main : Json) : Json → Except PyException (List Json)
  | .array sans => .ok (main :: sans)
  | .object _ => .error (.typeError "can only concatenate list (not \"dict\") to list")
  | .string _ => .error (.typeError "can only concatenate list (not \"str\") to list")
  | .null => .error (.typeError "can only concatenate list (not \"NoneType\") to list")
  | .bool _ => .error (.typeError "can only concatenate list (not \"bool\") to list")
  | .int _ => .error (.typeError "can only concatenate list (not \"int\") to list")
  | .real _ => .error (.typeError "can only concatenate list (not \"float\") to list")

variable (extractor : ExpiryExtractor)

/-- The extractor of a value that may be no text: decoding that fails, and this is caught. -/
def extractExpiry : Json → Option Int
  | .string text => extractor text
  | _ => none

/-- The end of the loop over the certificates: the expiry is noted for each name. -/
def noteExpiry (expiryMap : Dict String Int) (certB64 : Json) (allDomains : List String) :
    Dict String Int :=
  if ¬Monitoring.truthy (some certB64) ∨ allDomains = [] then expiryMap
  else
    match extractExpiry extractor certB64 with
    | none => expiryMap
    | some expiresAt => allDomains.foldl (fun map domain => map.lower domain expiresAt) expiryMap

/-- What the loop over the certificates does with one. -/
def addCertificate (expiryMap : Dict String Int) (certEntry : Json) :
    Except PyException (Dict String Int) :=
  match certEntry with
  | .object fields =>
      let certB64 := (Json.get? fields "certificate").getD (.string "")
      match (Json.get? fields "domain").getD (.object []) with
      | .object domainInfo => do
          let main := (Json.get? domainInfo "main").getD (.string "")
          let sans := Json.get? domainInfo "sans"
          let all ← concatenate main (if Monitoring.truthy sans then sans.getD .null else .array [])
          .ok (noteExpiry extractor expiryMap certB64 (all.filterMap nonemptyText?))
      | _ => .ok expiryMap
  | _ => .ok expiryMap

/-- What the loop over the resolvers does with one. -/
def addResolver (expiryMap : Dict String Int) (resolverData : Json) :
    Except PyException (Dict String Int) :=
  match resolverData with
  | .object fields => do
      let certificates ← iterate ((Json.get? fields "Certificates").getD (.array []))
      certificates.foldlM (addCertificate extractor) expiryMap
  | _ => .ok expiryMap

/-- `parse_acme_expiry_map`. -/
def parseAcmeExpiryMap (rawText : String) : Except PyException (Dict String Int) :=
  match Json.loads rawText with
  | some (.object resolvers) =>
      (Dict.ofList resolvers).values.foldlM (addResolver extractor) Dict.empty
  | _ => .ok Dict.empty

end Reading

section Names

variable {extractor : ExpiryExtractor} {certEntry resolverData : Json} {domain text : String}
  {expiresAt : Int}

/-- A well-formed entry: it has a certificate with an expiry, and the name as the main name or
as one of the others. -/
def CarriesName (extractor : ExpiryExtractor) (certEntry : Json) (domain : String)
    (expiresAt : Int) : Prop :=
  ∃ fields certificate domainInfo, certEntry = .object fields ∧
    Json.get? fields "certificate" = some (.string certificate) ∧ certificate ≠ "" ∧
    extractor certificate = some expiresAt ∧
    Json.get? fields "domain" = some (.object domainInfo) ∧ domain ≠ "" ∧
    (Json.get? domainInfo "main" = some (.string domain) ∨
      ∃ sans, Json.get? domainInfo "sans" = some (.array sans) ∧ .string domain ∈ sans)

/-- A resolver lists a well-formed entry with the name. -/
def ResolverCarries (extractor : ExpiryExtractor) (resolverData : Json) (domain : String)
    (expiresAt : Int) : Prop :=
  ∃ fields certificates, resolverData = .object fields ∧
    Json.get? fields "Certificates" = some (.array certificates) ∧
    ∃ certEntry ∈ certificates, CarriesName extractor certEntry domain expiresAt

/-- Some resolver of the store lists a well-formed entry with the name. -/
def StoreCarries (extractor : ExpiryExtractor) (rawText domain : String) (expiresAt : Int) : Prop :=
  ∃ resolvers, Json.loads rawText = some (.object resolvers) ∧
    ∃ resolverData ∈ (Dict.ofList resolvers).values,
      ResolverCarries extractor resolverData domain expiresAt

/-- The other names are a list or count as none. -/
def isReadableSans : Option Json → Bool
  | some (.array _) => true
  | sans => !Monitoring.truthy sans

/-- The other names of an entry can be read. -/
def isReadableEntry : Json → Bool
  | .object fields =>
      match (Json.get? fields "domain").getD (.object []) with
      | .object domainInfo => isReadableSans (Json.get? domainInfo "sans")
      | _ => true
  | _ => true

/-- The certificates of a resolver can be gone through, and each of them can be read. -/
def isReadableResolver : Json → Bool
  | .object fields =>
      match Json.get? fields "Certificates" with
      | some (.array certificates) => certificates.all isReadableEntry
      | some .null | some (.bool _) | some (.int _) | some (.real _) => false
      | _ => true
  | _ => true

/-- Each resolver of the store can be read. -/
def isReadableStore (rawText : String) : Bool :=
  match Json.loads rawText with
  | some (.object resolvers) => (Dict.ofList resolvers).values.all isReadableResolver
  | _ => true

/-- The items of the other names. -/
def sansOf : Option Json → List Json
  | some (.array sans) => sans
  | _ => []

/-- The names of a domain part. -/
def namesOf (domainInfo : List (String × Json)) : List String :=
  ((Json.get? domainInfo "main").getD (.string "") ::
    sansOf (Json.get? domainInfo "sans")).filterMap nonemptyText?

/-- What a certificate reports of some names. -/
def certificateReports (extractor : ExpiryExtractor) (certificate : Option Json)
    (names : List String) : List (String × Int) :=
  match certificate with
  | some (.string certificate) =>
      if certificate = "" then []
      else
        match extractor certificate with
        | some expiresAt => names.map (·, expiresAt)
        | none => []
  | _ => []

/-- What an entry reports of its names. -/
def entryReports (extractor : ExpiryExtractor) : Json → List (String × Int)
  | .object fields =>
      match (Json.get? fields "domain").getD (.object []) with
      | .object domainInfo =>
          certificateReports extractor (Json.get? fields "certificate") (namesOf domainInfo)
      | _ => []
  | _ => []

private theorem nonemptyText?_eq_some_iff {value : Json} :
    nonemptyText? value = some domain ↔ value = .string domain ∧ domain ≠ "" := by
  cases value with
  | string text =>
      rw [nonemptyText?, Json.string.injEq]
      by_cases isEmpty : text = ""
      · rw [if_pos isEmpty, isEmpty]
        simp [eq_comm]
      · rw [if_neg isEmpty, Option.some.injEq, iff_self_and]
        exact fun same => same ▸ isEmpty
  | _ => simp [nonemptyText?]

private theorem mem_namesOf {domainInfo : List (String × Json)} : domain ∈ namesOf domainInfo ↔
    domain ≠ "" ∧ (Json.get? domainInfo "main" = some (.string domain) ∨
      ∃ sans, Json.get? domainInfo "sans" = some (.array sans) ∧ .string domain ∈ sans) := by
  have isMain : (Json.get? domainInfo "main").getD (.string "") = .string domain ∧ domain ≠ "" ↔
      Json.get? domainInfo "main" = some (.string domain) ∧ domain ≠ "" := by
    cases Json.get? domainInfo "main" with
    | none => simp [eq_comm]
    | some main => simp
  unfold namesOf
  simp only [List.mem_filterMap, List.mem_cons, nonemptyText?_eq_some_iff, or_and_right,
    exists_or, exists_eq_left, isMain]
  cases Json.get? domainInfo "sans" with
  | none => simp [sansOf, and_comm]
  | some sans => cases sans <;> simp [sansOf, and_comm, and_or_left]

private theorem mem_entryReports : (domain, expiresAt) ∈ entryReports extractor certEntry ↔
    CarriesName extractor certEntry domain expiresAt := by
  constructor
  · intro listed
    cases certEntry with
    | object fields =>
        unfold entryReports at listed
        dsimp only at listed
        split at listed
        · rename_i domainInfo isDomain
          unfold certificateReports at listed
          split at listed
          · rename_i certificate isCertificate
            by_cases isEmpty : certificate = ""
            · rw [if_pos isEmpty] at listed
              cases listed
            rw [if_neg isEmpty] at listed
            split at listed
            · rename_i found expiry
              obtain ⟨name, isName, same⟩ := List.mem_map.mp listed
              cases same
              obtain ⟨nonempty, carried⟩ := mem_namesOf.mp isName
              refine ⟨fields, certificate, domainInfo, rfl, isCertificate, isEmpty, expiry, ?_,
                nonempty, carried⟩
              -- Without a domain part there are no names.
              cases present : Json.get? fields "domain" with
              | some domainPart =>
                  rw [present, Option.getD_some] at isDomain
                  rw [isDomain]
              | none =>
                  rw [present, Option.getD_none, Json.object.injEq] at isDomain
                  subst isDomain
                  simp [Json.get?] at carried
            · cases listed
          · cases listed
        · cases listed
    | _ => cases listed
  · intro carries
    obtain ⟨fields, certificate, domainInfo, rfl, isCertificate, nonempty, expiry, isDomain,
      isName⟩ := carries
    simp only [entryReports, isDomain, Option.getD_some, certificateReports, isCertificate, nonempty,
      if_false, expiry]
    exact List.mem_map_of_mem (mem_namesOf.mpr isName)

/-- The names of a list of names, each with the one expiry. -/
theorem foldl_lower (expiryMap : Dict String Int) (names : List String) (expiresAt : Int) :
    names.foldl (fun map domain => map.lower domain expiresAt) expiryMap =
      expiryMap.lowerAll (names.map (·, expiresAt)) := by
  rw [Dict.lowerAll, List.foldl_map]

private theorem concatenate_of_readable {sans : Option Json} (main : Json)
    (readable : isReadableSans sans = true) :
    concatenate main (if Monitoring.truthy sans then sans.getD .null else .array []) =
      .ok (main :: sansOf sans) := by
  by_cases given : Monitoring.truthy sans = true
  · rw [if_pos given]
    match sans with
    | some (.array items) => rfl
    | none => cases given
    | some .null => cases given
    | some (.bool _) | some (.int _) | some (.real _) | some (.string _) | some (.object _) =>
        rw [isReadableSans, given] at readable
        · cases readable
        · exact nofun
  · rw [if_neg given]
    match sans with
    | some (.array []) => rfl
    | some (.array (_ :: _)) => exact absurd rfl given
    | none | some .null | some (.bool _) | some (.int _) | some (.real _) | some (.string _)
    | some (.object _) => rfl

private theorem concatenate_of_unreadable {sans : Option Json} (main : Json)
    (unreadable : isReadableSans sans = false) : ∃ failure,
      concatenate main (if Monitoring.truthy sans then sans.getD .null else .array []) =
        .error failure := by
  have given : Monitoring.truthy sans = true := by
    match sans with
    | some (.array _) => cases unreadable
    | none => cases unreadable
    | some .null | some (.bool _) | some (.int _) | some (.real _) | some (.string _)
    | some (.object _) => simpa [isReadableSans] using unreadable
  rw [if_pos given]
  match sans with
  | some (.array _) => cases unreadable
  | none => cases given
  | some .null | some (.bool _) | some (.int _) | some (.real _) | some (.string _)
  | some (.object _) => exact ⟨_, rfl⟩

private theorem noteExpiry_eq (extractor : ExpiryExtractor) (expiryMap : Dict String Int)
    (certificate : Option Json) (names : List String) :
    noteExpiry extractor expiryMap (certificate.getD (.string "")) names =
      expiryMap.lowerAll (certificateReports extractor certificate names) := by
  unfold noteExpiry certificateReports
  cases certificate with
  | none => rfl
  | some certificate =>
      cases certificate with
      | string certificate =>
          by_cases isEmpty : certificate = ""
          · simp [Monitoring.truthy, isEmpty, Dict.lowerAll]
          · by_cases unnamed : names = []
            · cases expiry : extractor certificate <;>
                simp [unnamed, isEmpty, expiry, Dict.lowerAll]
            · have given : ¬(¬Monitoring.truthy (some (.string certificate)) ∨ names = []) := by
                simp [Monitoring.truthy, isEmpty, unnamed]
              rw [Option.getD_some, if_neg given, extractExpiry]
              cases expiry : extractor certificate with
              | none => simp [isEmpty, expiry, Dict.lowerAll]
              | some expiresAt =>
                  simp only [isEmpty, if_false, expiry]
                  exact foldl_lower _ _ _
      | _ => simp [extractExpiry, Dict.lowerAll]

private theorem guarded_addCertificate (extractor : ExpiryExtractor) :
    Guarded (addCertificate extractor) isReadableEntry
      fun expiryMap certEntry => expiryMap.lowerAll (entryReports extractor certEntry) where
  passes := by
    intro expiryMap certEntry readable
    cases certEntry with
    | object fields =>
        unfold isReadableEntry at readable
        unfold addCertificate entryReports
        dsimp only at readable ⊢
        split at readable
        · rename_i domainInfo isDomain
          rw [concatenate_of_readable _ readable]
          exact congrArg Except.ok (noteExpiry_eq _ _ _ _)
        · rfl
    | _ => rfl
  fails := by
    intro expiryMap certEntry unreadable
    cases certEntry with
    | object fields =>
        unfold isReadableEntry at unreadable
        unfold addCertificate
        dsimp only at unreadable ⊢
        split at unreadable
        · rename_i domainInfo isDomain
          obtain ⟨failure, isFailure⟩ := concatenate_of_unreadable
            ((Json.get? domainInfo "main").getD (.string "")) unreadable
          exact ⟨failure, by rw [isFailure]; rfl⟩
        · cases unreadable
    | _ => cases unreadable

/-- What a resolver reports of its names. -/
def resolverReports (extractor : ExpiryExtractor) : Json → List (String × Int)
  | .object fields =>
      match Json.get? fields "Certificates" with
      | some (.array certificates) => certificates.flatMap (entryReports extractor)
      | _ => []
  | _ => []

theorem mem_resolverReports : (domain, expiresAt) ∈ resolverReports extractor resolverData ↔
    ResolverCarries extractor resolverData domain expiresAt := by
  unfold ResolverCarries
  cases resolverData with
  | object fields =>
      simp only [resolverReports, Json.object.injEq, exists_and_left, exists_eq_left']
      cases Json.get? fields "Certificates" with
      | none => simp
      | some certificates =>
          cases certificates <;> simp [List.mem_flatMap, mem_entryReports]
  | _ => simp [resolverReports]

/-- What is no object is passed over, also if it is a key or a character of a text. -/
theorem foldlM_addCertificate_strings (expiryMap : Dict String Int) {items : List Json}
    (texts : ∀ item ∈ items, ∃ text, item = .string text) :
    items.foldlM (addCertificate extractor) expiryMap = .ok expiryMap := by
  induction items with
  | nil => rfl
  | cons item items ih =>
      obtain ⟨⟨text, rfl⟩, others⟩ := List.forall_mem_cons.mp texts
      rw [List.foldlM_cons]
      exact ih others

private theorem guarded_addResolver (extractor : ExpiryExtractor) :
    Guarded (addResolver extractor) isReadableResolver
      fun expiryMap resolverData => expiryMap.lowerAll (resolverReports extractor resolverData) where
  passes := by
    intro expiryMap resolverData readable
    cases resolverData with
    | object fields =>
        unfold isReadableResolver at readable
        unfold addResolver resolverReports
        dsimp only at readable ⊢
        cases listed : Json.get? fields "Certificates" with
        | none => rfl
        | some certificates =>
            rw [listed] at readable
            cases certificates with
            | array certificates =>
                change certificates.foldlM (addCertificate extractor) expiryMap = _
                rw [(guarded_addCertificate extractor).foldlM.passes _ _ readable,
                  Dict.foldl_lowerAll]
            | string text =>
                apply foldlM_addCertificate_strings
                intro item isItem
                obtain ⟨c, -, rfl⟩ := List.mem_map.mp isItem
                exact ⟨_, rfl⟩
            | object certificates =>
                apply foldlM_addCertificate_strings
                intro item isItem
                obtain ⟨key, -, rfl⟩ := List.mem_map.mp isItem
                exact ⟨_, rfl⟩
            | _ => cases readable
    | _ => rfl
  fails := by
    intro expiryMap resolverData unreadable
    cases resolverData with
    | object fields =>
        unfold isReadableResolver at unreadable
        unfold addResolver
        dsimp only at unreadable ⊢
        cases listed : Json.get? fields "Certificates" with
        | none => rw [listed] at unreadable; cases unreadable
        | some certificates =>
            rw [listed] at unreadable
            cases certificates with
            | array certificates =>
                exact (guarded_addCertificate extractor).foldlM.fails expiryMap _ unreadable
            | string text => cases unreadable
            | object certificates => cases unreadable
            | _ => exact ⟨_, rfl⟩
    | _ => cases unreadable

end Names

section Store

variable {extractor : ExpiryExtractor} {rawText : String} {expiryMap : Dict String Int}

/-- What is read of a store that is the JSON of an object. -/
theorem parse_object {resolvers : List (String × Json)}
    (loaded : Json.loads rawText = some (.object resolvers)) :
    parseAcmeExpiryMap extractor rawText = .ok expiryMap ↔ isReadableStore rawText = true ∧
      Dict.empty.lowerAll ((Dict.ofList resolvers).values.flatMap (resolverReports extractor)) =
        expiryMap := by
  rw [parseAcmeExpiryMap, isReadableStore, loaded]
  dsimp only
  rw [(guarded_addResolver extractor).foldlM.ok_iff, Dict.foldl_lowerAll]

/-- What is read of any other store. -/
theorem parse_other (extractor : ExpiryExtractor)
    (noObject : ∀ resolvers, Json.loads rawText ≠ some (.object resolvers)) :
    parseAcmeExpiryMap extractor rawText = .ok .empty ∧ isReadableStore rawText = true := by
  unfold parseAcmeExpiryMap isReadableStore
  split
  · rename_i resolvers loaded
    exact absurd loaded (noObject resolvers)
  · exact ⟨rfl, rfl⟩

/-- Each name has the earliest expiry of the well-formed entries with it. -/
theorem keepsLeast_of_parse (reads : parseAcmeExpiryMap extractor rawText = .ok expiryMap) :
    expiryMap.KeepsLeast (StoreCarries extractor rawText) := by
  by_cases isObject : ∃ resolvers, Json.loads rawText = some (.object resolvers)
  · obtain ⟨resolvers, loaded⟩ := isObject
    obtain ⟨-, rfl⟩ := (parse_object loaded).mp reads
    apply (Dict.keepsLeast_lowerAll _).congr
    intro domain expiresAt
    simp only [List.mem_flatMap, mem_resolverReports, StoreCarries, loaded, Option.some.injEq,
      Json.object.injEq, exists_eq_left']
  · obtain ⟨isEmpty, -⟩ := parse_other extractor (not_exists.mp isObject)
    rw [isEmpty, Except.ok.injEq] at reads
    subst reads
    apply Dict.keepsLeast_empty.congr
    intro domain expiresAt
    rw [false_iff]
    intro carries
    obtain ⟨resolvers, loaded, -⟩ := carries
    exact isObject ⟨resolvers, loaded⟩

private theorem exists_parse_iff :
    (∃ expiryMap, parseAcmeExpiryMap extractor rawText = .ok expiryMap) ↔
      isReadableStore rawText = true := by
  by_cases isObject : ∃ resolvers, Json.loads rawText = some (.object resolvers)
  · obtain ⟨resolvers, loaded⟩ := isObject
    simp only [parse_object loaded, exists_and_left, exists_eq', and_true]
  · obtain ⟨isEmpty, readable⟩ := parse_other extractor (not_exists.mp isObject)
    exact iff_of_true ⟨_, isEmpty⟩ readable

/-- **Robustness.** The store is read, and each name has the earliest expiry of the well-formed
entries with it, if and only if each resolver of the store can be read. -/
theorem readsStore_iff (extractor : ExpiryExtractor) (rawText : String) :
    (∃ expiryMap, parseAcmeExpiryMap extractor rawText = .ok expiryMap ∧
      expiryMap.KeepsLeast (StoreCarries extractor rawText)) ↔ isReadableStore rawText = true := by
  rw [← exists_parse_iff]
  constructor
  · intro reads
    obtain ⟨expiryMap, reads, -⟩ := reads
    exact ⟨expiryMap, reads⟩
  · intro reads
    obtain ⟨expiryMap, reads⟩ := reads
    exact ⟨expiryMap, reads, keepsLeast_of_parse reads⟩

/-- A resolver whose certificates are null stops the reading of all of them. -/
theorem null_certificates_stop_reading :
    parseAcmeExpiryMap (fun _ => some 0) "\x7b\"letsencrypt\":\x7b\"Certificates\":null\x7d\x7d" =
      .error (.typeError "'NoneType' object is not iterable") ∧
    ¬ ∃ expiryMap, parseAcmeExpiryMap (fun _ => some 0)
        "\x7b\"letsencrypt\":\x7b\"Certificates\":null\x7d\x7d" = .ok expiryMap ∧
      expiryMap.KeepsLeast (StoreCarries (fun _ => some 0)
        "\x7b\"letsencrypt\":\x7b\"Certificates\":null\x7d\x7d") := by
  have isText : "\x7b\"letsencrypt\":\x7b\"Certificates\":null\x7d\x7d" =
      (Json.object [("letsencrypt", .object [("Certificates", .null)])]).dumps := by
    decide
  have exact : (Json.object [("letsencrypt", .object [("Certificates", .null)])]).Exact := by
    apply Json.Exact.object
    rw [List.forall_mem_singleton]
    apply Json.Exact.object
    rw [List.forall_mem_singleton]
    exact .null
  have raised : parseAcmeExpiryMap (fun _ => some 0)
      "\x7b\"letsencrypt\":\x7b\"Certificates\":null\x7d\x7d" =
        .error (.typeError "'NoneType' object is not iterable") := by
    rw [isText, parseAcmeExpiryMap, Json.loads_dumps exact]
    rfl
  refine ⟨raised, ?_⟩
  intro reads
  obtain ⟨expiryMap, reads, -⟩ := reads
  rw [raised] at reads
  cases reads

end Store

end TraefikManager.Traefik
