import Mathlib.Algebra.BigOperators.Group.List.Basic
import TraefikManager.Foundation.FirstMatch
import TraefikManager.Monitoring.EncodedPathBlocks
import TraefikManager.Traefik.Isolation

/-!
# The services of blocked requests

Blocked requests are counted by router, and a report names services. A router is traced back to
the service whose folded domain begins its name, the longest one that does.
-/

namespace TraefikManager.Monitoring

open Foundation Domain Traefik

section Resolution

/-- A service of the report, or a router that belongs to none. -/
structure TargetService where
  serviceName : String
  domain : Option String
  blockedRequestCount : Int
  deriving DecidableEq, Repr

/-- `value` where `isinstance(value, int)`, which truth values pass too. -/
def instanceOfInt? : Json → Option Int
  | .int number => some number
  | .bool truth => some (if truth then 1 else 0)
  | _ => none

/-- The name and the count of an entry of the router counts, where it has both. -/
def targetRouter? : Json → Option (String × Int)
  | .object fields =>
      match Json.get? fields "router_name", Json.get? fields "blocked_request_count" with
      | some (.string routerName), some count => (instanceOfInt? count).map (routerName, ·)
      | _, _ => none
  | _ => none

/-- The entries of the router counts that are counted. -/
def validTargets : Json → List (String × Int)
  | .array targets => targets.filterMap targetRouter?
  | _ => []

/-- `router_name.split("@", 1)[0]`. -/
def routerBase (routerName : String) : String :=
  String.ofList (routerName.toList.takeWhile (· ≠ '@'))

/-- `str(service.domain).replace(".", "-")`. -/
def safeDomain (service : Service) : String := Text.replaceChar '.' '-' service.domain.value

/-- Whether the name of a router begins with a folded domain. -/
def fitsRouter (base : String) (service : Service) : Bool :=
  base = safeDomain service ∨ Text.startsWith (safeDomain service ++ "-") base

/-- Whether a router stands for the host of a request. -/
def isHostRouter (base : String) : Bool := Text.startsWith "host:" base

variable (tools : LogTools) (services : List Service)

/-- `services_by_host_hash`. -/
def servicesByHostHash : Dict String Service :=
  Dict.ofList (services.filterMap fun service =>
    (hashRequestHost tools (some (.string service.domain.value))).map (·, service))

/-- `service_candidates`. -/
def serviceCandidates : List Service :=
  largestFirst (fun service => (safeDomain service).length) services

/-- `matched_service`. -/
def matchedService (base : String) : Option Service :=
  if isHostRouter base then
    (servicesByHostHash tools services).get? (String.ofList (base.toList.drop 5))
  else (serviceCandidates services).find? (fitsRouter base)

/-- Where the count of a router goes: the key of the totals and what a new entry there says,
or to the other requests. -/
def chargedTarget? (routerName : String) : Option (String × TargetService) :=
  let base := routerBase routerName
  match matchedService tools services base with
  | some service =>
      some (service.domain.value, ⟨service.name, some service.domain.value, 0⟩)
  | none =>
      if isHostRouter base ∨ base = "unknown" then none
      else some (base, ⟨if base = "unknown" then "알 수 없음" else base, none, 0⟩)

/-- The counts of some routers: by service, and those of no service. -/
structure TargetCounts where
  totals : Dict String TargetService := ∅
  otherTargetRequestCount : Int := 0

/-- One round of the loop over the router counts. -/
def addTarget (counts : TargetCounts) (target : String × Int) : TargetCounts :=
  match chargedTarget? tools services target.1 with
  | none =>
      { counts with otherTargetRequestCount := counts.otherTargetRequestCount + target.2 }
  | some (key, entry) =>
      let current := (counts.totals.get? key).getD entry
      { counts with
        totals := counts.totals.set key
          { current with blockedRequestCount := current.blockedRequestCount + target.2 } }

def countTargets (targets : List (String × Int)) : TargetCounts :=
  targets.foldl (addTarget tools services) {}

/-- The order of the report: the highest count first, then by name. -/
def ranksBefore (first second : TargetService) : Bool :=
  second.blockedRequestCount < first.blockedRequestCount ∨
    (first.blockedRequestCount = second.blockedRequestCount ∧
      first.serviceName ≤ second.serviceName)

/-- `_resolve_target_services`; the report asks for five services. -/
def resolveTargetServices (targetRouters : Json) (limit : Nat) : List TargetService × Int :=
  let counts := countTargets tools services (validTargets targetRouters)
  let ordered := counts.totals.values.mergeSort ranksBefore
  (ordered.take limit, counts.otherTargetRequestCount +
    ((ordered.drop limit).map (·.blockedRequestCount)).sum)

end Resolution

section Sums

variable {tools : LogTools} {services : List Service} {counts : TargetCounts}

/-- All that is counted. -/
def TargetCounts.sum (counts : TargetCounts) : Int :=
  counts.totals.total (·.blockedRequestCount) + counts.otherTargetRequestCount

private theorem blockedRequestCount_chargedTarget? {routerName key : String} {entry : TargetService}
    (isEntry : chargedTarget? tools services routerName = some (key, entry)) :
    entry.blockedRequestCount = 0 := by
  simp only [chargedTarget?] at isEntry
  split at isEntry
  · cases isEntry
    rfl
  · split at isEntry
    · cases isEntry
    · cases isEntry
      rfl

private theorem sum_addTarget (target : String × Int) :
    (addTarget tools services counts target).sum = counts.sum + target.2 := by
  rw [addTarget]
  split
  · simp only [TargetCounts.sum]
    omega
  · rename_i key entry isEntry
    have new := blockedRequestCount_chargedTarget? isEntry
    simp only [TargetCounts.sum, Dict.total_set]
    cases counts.totals.get? key with
    | none =>
        simp only [Option.getD_none, Option.map_none]
        omega
    | some current =>
        simp only [Option.getD_some, Option.map_some]
        omega

/-- No count is lost. -/
theorem sum_countTargets (targets : List (String × Int)) :
    (countTargets tools services targets).sum = (targets.map (·.2)).sum := by
  have general : ∀ counts : TargetCounts,
      (targets.foldl (addTarget tools services) counts).sum =
        counts.sum + (targets.map (·.2)).sum := by
    induction targets with
    | nil => simp
    | cons target targets ih =>
        intro counts
        rw [List.foldl_cons, ih, sum_addTarget, List.map_cons, List.sum_cons]
        omega
  rw [countTargets, general]
  simp [TargetCounts.sum]
  rfl

private theorem ranksBefore_total (first second : TargetService) :
    (ranksBefore first second || ranksBefore second first) = true := by
  simp only [ranksBefore, Bool.or_eq_true, decide_eq_true_eq]
  obtain less | same | more :=
    lt_trichotomy first.blockedRequestCount second.blockedRequestCount
  · exact .inr (.inl less)
  · obtain before | after := le_total first.serviceName second.serviceName
    · exact .inl (.inr ⟨same, before⟩)
    · exact .inr (.inr ⟨same.symm, after⟩)
  · exact .inl (.inl more)

private theorem ranksBefore_trans (first second third : TargetService)
    (before : ranksBefore first second = true) (after : ranksBefore second third = true) :
    ranksBefore first third = true := by
  simp only [ranksBefore, decide_eq_true_eq] at before after ⊢
  obtain less | ⟨same, before⟩ := before
  · obtain less' | ⟨same', -⟩ := after
    · exact .inl (less'.trans less)
    · exact .inl (same' ▸ less)
  · obtain less' | ⟨same', after⟩ := after
    · exact .inl (same ▸ less')
    · exact .inr ⟨same.trans same', before.trans after⟩

/-- The report is a descending list within its limit, and with the other requests it sums up
to all counts. -/
theorem resolveTargetServices_report (targetRouters : Json) (limit : Nat) :
    let report := resolveTargetServices tools services targetRouters limit
    report.1.length ≤ limit ∧
      report.1.Pairwise (fun first second =>
        second.blockedRequestCount ≤ first.blockedRequestCount) ∧
      (report.1.map (·.blockedRequestCount)).sum + report.2 =
        ((validTargets targetRouters).map (·.2)).sum := by
  simp only [resolveTargetServices]
  generalize isOrdered : (countTargets tools services
    (validTargets targetRouters)).totals.values.mergeSort ranksBefore = ordered
  have descending : ordered.Pairwise fun first second =>
      second.blockedRequestCount ≤ first.blockedRequestCount := by
    rw [← isOrdered]
    apply (List.pairwise_mergeSort ranksBefore_trans ranksBefore_total _).imp
    intro first second before
    simp only [ranksBefore, decide_eq_true_eq] at before
    omega
  have all : (ordered.map (·.blockedRequestCount)).sum =
      (countTargets tools services (validTargets targetRouters)).totals.total
        (·.blockedRequestCount) := by
    rw [← isOrdered]
    exact ((List.mergeSort_perm _ _).map _).sum_eq
  refine ⟨List.length_take_le _ _, descending.sublist (List.take_sublist _ _), ?_⟩
  have parts : (ordered.map (·.blockedRequestCount)).sum =
      ((ordered.take limit).map (·.blockedRequestCount)).sum +
        ((ordered.drop limit).map (·.blockedRequestCount)).sum := by
    rw [← List.sum_append, ← List.map_append, List.take_append_drop]
  have sums := @sum_countTargets tools services (validTargets targetRouters)
  rw [TargetCounts.sum] at sums
  omega

end Sums

section Attribution

variable (tools : LogTools) (settings : Settings) (services : List Service)

/-- The name is one of a router that config generation produced for the service. -/
def ProducesRouter (service : Service) (name : String) : Prop :=
  ∃ middlewareTemplates, name ∈
    (Resource.ofService service middlewareTemplates).names settings HttpConfig.routers

/-- The count of a router is found under the name and the domain of the service. -/
def IsAttributed (targets : List (String × Int)) (routerName : String) (service : Service) : Prop :=
  (chargedTarget? tools services routerName).map (·.1) = some service.domain.value ∧
    ∃ entry, (countTargets tools services targets).totals.get? service.domain.value = some entry ∧
      entry.serviceName = service.name ∧ entry.domain = some service.domain.value

/-- No other service is tried before the service whose router it is. -/
def IsTriedFirst (base : String) (service : Service) : Prop :=
  ∀ other ∈ services, fitsRouter base other = true → other ≠ service →
    (safeDomain other).length < (safeDomain service).length ∨
      (safeDomain other).length = (safeDomain service).length ∧
        StandsBefore services service other

/-- The router is named as the domain of the service, and no service has routers of such names. -/
def IsForeign (service : Service) (routerName : String) : Prop :=
  routerBase routerName = service.domain.value ∧
    ∀ other ∈ services, fitsRouter service.domain.value other = false

/-- The domain of the service stands in the report for the service: no foreign router has taken
it before. -/
def IsOwnEntry (targets : List (String × Int)) (service : Service) : Prop :=
  ∀ front foreign rest, targets = front ++ foreign :: rest →
    IsForeign services service foreign.1 →
    ∃ earlier ∈ front, matchedService tools services (routerBase earlier.1) = some service

variable {tools settings services} {service : Service} {targets : List (String × Int)}
  {routerName base : String}

private theorem safeDomain_eq (service : Service) :
    safeDomain service = toSafeName service.domain.value :=
  replaceDots_eq_toSafeName service.domain

/-- A router of a service begins with its folded domain. -/
theorem ProducesRouter.eq_or (produces : ProducesRouter settings service base) :
    base = safeDomain service ∨ ∃ suffix, base = safeDomain service ++ "-" ++ suffix := by
  obtain ⟨middlewareTemplates, listed⟩ := produces
  obtain ⟨-, same | ⟨suffix, -, same⟩⟩ := mem_routerNames_service.mp listed
  · exact .inl (same.trans (safeDomain_eq service).symm)
  · exact .inr ⟨suffix, by rw [same, middlewareName, safeDomain_eq]⟩

private theorem ProducesRouter.fitsRouter (produces : ProducesRouter settings service base) :
    fitsRouter base service = true := by
  simp only [Monitoring.fitsRouter, decide_eq_true_eq]
  obtain same | ⟨suffix, same⟩ := produces.eq_or
  · exact .inl same
  · right
    have whole : (safeDomain service ++ "-" ++ suffix).toList =
        (safeDomain service ++ "-").toList ++ suffix.toList := String.toList_append
    rw [same, Text.startsWith, List.isPrefixOf_iff_prefix, whole]
    exact List.prefix_append _ _

/-- A domain has a dot, and folded a dash and no dot and no colon. -/
theorem mem_domain (service : Service) : '.' ∈ service.domain.value.toList := by
  obtain ⟨body, top, isDomain, -⟩ := exists_topLevel service.domain.valid
  have listed : '.' ∈ Text.dropFinalNewline service.domain.value.toList := by simp [isDomain]
  rw [Text.dropFinalNewline] at listed
  split at listed
  · exact List.mem_of_mem_dropLast listed
  · exact listed

private theorem mem_safeDomain (service : Service) : '-' ∈ (safeDomain service).toList := by
  rw [safeDomain, Text.replaceChar, String.toList_ofList, List.mem_map]
  exact ⟨'.', mem_domain service, rfl⟩

private theorem notMem_safeDomain (service : Service) :
    '.' ∉ (safeDomain service).toList ∧ ':' ∉ (safeDomain service).toList := by
  rw [safeDomain_eq]
  constructor
  · intro listed
    have isChar := mem_toSafeName listed
    revert isChar
    decide
  · intro listed
    have isChar := mem_toSafeName listed
    revert isChar
    decide

private theorem prefix_of_fitsRouter (fits : fitsRouter base service = true) :
    (safeDomain service).toList <+: base.toList := by
  simp only [fitsRouter, decide_eq_true_eq] at fits
  obtain same | extends_ := fits
  · rw [same]
  · rw [Text.startsWith, List.isPrefixOf_iff_prefix, String.toList_append] at extends_
    exact (List.prefix_append _ _).trans extends_

/-- A name that fits a service is not that of a host. -/
theorem not_isHostRouter (fits : fitsRouter base service = true) : isHostRouter base = false := by
  by_contra isHost
  rw [Bool.not_eq_false, isHostRouter, Text.startsWith, List.isPrefixOf_iff_prefix] at isHost
  obtain inside | outside := List.prefix_or_prefix_of_prefix isHost (prefix_of_fitsRouter fits)
  · exact (notMem_safeDomain service).2 (inside.subset (by decide))
  · have listed := outside.subset (mem_safeDomain service)
    revert listed
    decide

/-- A router that fits a service is traced back to the service that is tried first. -/
theorem matchedService_iff (tools : LogTools) (nodup : services.Nodup) (listed : service ∈ services)
    (fits : fitsRouter base service = true) :
    matchedService tools services base = some service ↔ IsTriedFirst services base service := by
  rw [matchedService, if_neg (by simp [not_isHostRouter fits]), serviceCandidates,
    find?_largestFirst nodup]
  exact ⟨fun found => found.2.2, fun first => ⟨listed, fits, first⟩⟩

private theorem exists_matchedService (tools : LogTools) (listed : service ∈ services)
    (fits : fitsRouter base service = true) :
    ∃ other ∈ services, matchedService tools services base = some other := by
  rw [matchedService, if_neg (by simp [not_isHostRouter fits]), serviceCandidates]
  have found : ((largestFirst (fun service => (safeDomain service).length) services).find?
      (Monitoring.fitsRouter base)).isSome = true :=
    List.find?_isSome.mpr ⟨service, mem_largestFirst.mpr listed, fits⟩
  obtain ⟨other, isFound⟩ := Option.isSome_iff_exists.mp found
  exact ⟨other, mem_largestFirst.mp (List.mem_of_find?_eq_some isFound), isFound⟩

private theorem mem_of_matchedService
    (isMatched : matchedService tools services base = some service) : service ∈ services := by
  rw [matchedService] at isMatched
  split at isMatched
  · rw [servicesByHostHash] at isMatched
    obtain ⟨other, listed, hashed⟩ := List.mem_filterMap.mp
      (Dict.mem_entries_ofList (Dict.get?_eq_some_iff.mp isMatched))
    obtain ⟨hash, -, same⟩ := Option.map_eq_some_iff.mp hashed
    cases same
    exact listed
  · exact mem_largestFirst.mp (List.mem_of_find?_eq_some isMatched)

/-- The name and the domain that an entry of the totals shows. -/
def TargetService.label (entry : TargetService) : String × Option String :=
  (entry.serviceName, entry.domain)

/-- An entry of the totals shows what the first router that goes there says. -/
theorem label_countTargets (tools : LogTools) (services : List Service)
    (targets : List (String × Int)) (key : String) :
    ((countTargets tools services targets).totals.get? key).map TargetService.label =
      (targets.findSome? fun target =>
        (chargedTarget? tools services target.1).filter (·.1 = key)).map (·.2.label) := by
  induction targets using List.reverseRecOn with
  | nil => rfl
  | append_singleton targets target ih =>
      rw [List.findSome?_append, countTargets, List.foldl_append, List.foldl_cons, List.foldl_nil,
        ← countTargets, addTarget]
      cases isEntry : chargedTarget? tools services target.1 with
      | none => simpa [isEntry] using ih
      | some there =>
          obtain ⟨other, entry⟩ := there
          simp only [Dict.get?_set]
          by_cases same : key = other
          · subst same
            generalize (targets.findSome? fun target =>
              (chargedTarget? tools services target.1).filter (·.1 = key)) = earlier at ih ⊢
            cases found : (countTargets tools services targets).totals.get? key with
            | none =>
                rw [found, Option.map_none, eq_comm, Option.map_eq_none_iff] at ih
                subst ih
                simp [isEntry, TargetService.label]
            | some current =>
                rw [found, Option.map_some, eq_comm, Option.map_eq_some_iff] at ih
                obtain ⟨first, rfl, isLabel⟩ := ih
                simpa [TargetService.label] using isLabel.symm
          · rw [if_neg same, ih]
            simp [isEntry, Ne.symm same]

/-- Where a router goes whose count is added under the domain of a service. -/
def chargedDomain? (tools : LogTools) (services : List Service) (service : Service)
    (target : String × Int) : Option (String × TargetService) :=
  (chargedTarget? tools services target.1).filter (·.1 = service.domain.value)

private theorem eq_of_domain (distinct : (services.map (·.domain)).Nodup) {other : Service}
    (listed : service ∈ services) (isOther : other ∈ services)
    (same : other.domain.value = service.domain.value) : other = service :=
  List.inj_on_of_nodup_map distinct isOther listed (DomainName.ext same)

private theorem chargedTarget?_of_matched
    (isMatched : matchedService tools services (routerBase routerName) = some service) :
    chargedTarget? tools services routerName =
      some (service.domain.value, ⟨service.name, some service.domain.value, 0⟩) := by
  rw [chargedTarget?, isMatched]

private theorem chargedDomain?_of_matched {target : String × Int}
    (isMatched : matchedService tools services (routerBase target.1) = some service) :
    chargedDomain? tools services service target =
      some (service.domain.value, ⟨service.name, some service.domain.value, 0⟩) := by
  rw [chargedDomain?, chargedTarget?_of_matched isMatched, Option.filter_some]
  simp

private theorem not_isHostRouter_domain (service : Service) :
    isHostRouter service.domain.value = false := by
  by_contra isHost
  rw [Bool.not_eq_false, isHostRouter, Text.startsWith, List.isPrefixOf_iff_prefix] at isHost
  obtain isChar | isFeed := service.domain.isDomainChar_of_mem (isHost.subset (by decide : ':' ∈ _))
  · revert isChar
    decide
  · cases isFeed

private theorem chargedDomain?_of_isForeign (tools : LogTools) {target : String × Int}
    (isForeign : IsForeign services service target.1) :
    ∃ entry, chargedDomain? tools services service target = some (service.domain.value, entry) ∧
      entry.domain = none := by
  obtain ⟨isDomain, noFit⟩ := isForeign
  have unmatched : matchedService tools services service.domain.value = none := by
    rw [matchedService, if_neg (by simp [not_isHostRouter_domain]), List.find?_eq_none]
    intro other listed
    simp [noFit other (mem_largestFirst.mp listed)]
  have known : service.domain.value ≠ "unknown" := by
    intro same
    have listed := mem_domain service
    rw [same] at listed
    revert listed
    decide
  refine ⟨⟨service.domain.value, none, 0⟩, ?_, rfl⟩
  rw [chargedDomain?, chargedTarget?, isDomain]
  simp [unmatched, not_isHostRouter_domain, known]

/-- Under the domain of a service go its own routers and foreign ones. -/
theorem cases_of_chargedDomain? (distinct : (services.map (·.domain)).Nodup)
    (listed : service ∈ services) {target : String × Int} {there : String × TargetService}
    (isThere : chargedDomain? tools services service target = some there) :
    matchedService tools services (routerBase target.1) = some service ∧
        there.2.label = (service.name, some service.domain.value) ∨
      IsForeign services service target.1 ∧ there.2.domain = none := by
  obtain ⟨isEntry, isDomain⟩ := Option.filter_eq_some_iff.mp isThere
  rw [decide_eq_true_eq] at isDomain
  rw [chargedTarget?] at isEntry
  cases isMatched : matchedService tools services (routerBase target.1) with
  | some other =>
      left
      rw [isMatched] at isEntry
      cases isEntry
      have same := eq_of_domain distinct listed (mem_of_matchedService isMatched) isDomain
      subst same
      exact ⟨rfl, rfl⟩
  | none =>
      right
      simp only [isMatched] at isEntry
      split at isEntry
      · cases isEntry
      · rename_i known
        cases isEntry
        refine ⟨⟨isDomain, fun other isOther => ?_⟩, rfl⟩
        rw [not_or] at known
        rw [matchedService, if_neg known.1, List.find?_eq_none] at isMatched
        have noFit := isMatched other (mem_largestFirst.mpr isOther)
        have isBase : routerBase target.1 = service.domain.value := isDomain
        rw [isBase] at noFit
        simpa using noFit

/-- The first router under the domain of a service is its own, unless a foreign one is. -/
theorem label_chargedDomain? (distinct : (services.map (·.domain)).Nodup)
    (listed : service ∈ services) {first : String × TargetService}
    (isFirst : targets.findSome? (chargedDomain? tools services service) = some first) :
    first.2.label = (service.name, some service.domain.value) ↔
      IsOwnEntry tools services targets service := by
  constructor
  · intro isOwn front foreign rest isList isForeign
    rw [isList, List.findSome?_append] at isFirst
    cases inFront : front.findSome? (chargedDomain? tools services service) with
    | none =>
        obtain ⟨entry, isEntry, noDomain⟩ := chargedDomain?_of_isForeign tools isForeign
        rw [inFront, Option.none_or, List.findSome?_cons, isEntry] at isFirst
        cases isFirst
        have domains := congrArg Prod.snd isOwn
        simp only [TargetService.label, noDomain] at domains
        cases domains
    | some earlierFirst =>
        rw [inFront, Option.some_or] at isFirst
        cases isFirst
        obtain ⟨before, earlier, after, rfl, isThere, -⟩ := List.findSome?_eq_some_iff.mp inFront
        obtain ⟨isMatched, -⟩ | ⟨-, noDomain⟩ := cases_of_chargedDomain? distinct listed isThere
        · exact ⟨earlier, by simp, isMatched⟩
        · have domains := congrArg Prod.snd isOwn
          simp only [TargetService.label, noDomain] at domains
          cases domains
  · intro isOwn
    obtain ⟨front, target, rest, isList, isThere, missing⟩ := List.findSome?_eq_some_iff.mp isFirst
    obtain ⟨-, isLabel⟩ | ⟨isForeign, -⟩ := cases_of_chargedDomain? distinct listed isThere
    · exact isLabel
    · obtain ⟨earlier, inFront, isMatched⟩ := isOwn front target rest isList isForeign
      have none := missing earlier inFront
      rw [chargedDomain?_of_matched isMatched] at none
      cases none

/-- The count of a router of a service is found with the service exactly if no other service is
tried before it and no foreign router has taken its domain. -/
theorem isAttributed_iff (distinct : (services.map (·.domain)).Nodup) (listed : service ∈ services)
    {target : String × Int} (inTargets : target ∈ targets)
    (produces : ProducesRouter settings service (routerBase target.1)) :
    IsAttributed tools services targets target.1 service ↔
      IsTriedFirst services (routerBase target.1) service ∧
        IsOwnEntry tools services targets service := by
  have fits := produces.fitsRouter
  rw [← matchedService_iff tools (List.Nodup.of_map _ distinct) listed fits]
  obtain ⟨other, isOther, isMatched⟩ := exists_matchedService tools listed fits
  have key : (chargedTarget? tools services target.1).map (·.1) = some service.domain.value ↔
      matchedService tools services (routerBase target.1) = some service := by
    rw [chargedTarget?_of_matched isMatched, isMatched, Option.map_some, Option.some.injEq,
      Option.some.injEq]
    exact ⟨eq_of_domain distinct listed isOther, fun same => by rw [same]⟩
  rw [IsAttributed, key]
  apply and_congr_right
  intro isOwn
  have found : (targets.findSome? (chargedDomain? tools services service)).isSome = true := by
    rw [List.findSome?_isSome_iff]
    exact ⟨target, inTargets, by rw [chargedDomain?_of_matched isOwn]; rfl⟩
  obtain ⟨first, isFirst⟩ := Option.isSome_iff_exists.mp found
  rw [← label_chargedDomain? distinct listed isFirst]
  have label := label_countTargets tools services targets service.domain.value
  have isFirst' : targets.findSome? (fun target =>
      (chargedTarget? tools services target.1).filter (·.1 = service.domain.value)) = some first :=
    isFirst
  rw [isFirst', Option.map_some, Option.map_eq_some_iff] at label
  obtain ⟨entry, isEntry, isLabel⟩ := label
  rw [isEntry, ← isLabel]
  simp [TargetService.label]

/-- The report is a descending list within its limit and no count is lost; and every count of a
router that config generation produced is found with its service exactly if no other service is
tried before it and no foreign router has taken its domain. -/
theorem resolveTargetServices_iff (tools : LogTools) (settings : Settings)
    (distinct : (services.map (·.domain)).Nodup) (targetRouters : Json) (limit : Nat) :
    let targets := validTargets targetRouters
    let report := resolveTargetServices tools services targetRouters limit
    (report.1.length ≤ limit ∧
      report.1.Pairwise (fun first second =>
        second.blockedRequestCount ≤ first.blockedRequestCount) ∧
      (report.1.map (·.blockedRequestCount)).sum + report.2 = (targets.map (·.2)).sum) ∧
    ((∀ service ∈ services, ∀ target ∈ targets,
        ProducesRouter settings service (routerBase target.1) →
          IsAttributed tools services targets target.1 service) ↔
      ∀ service ∈ services, ∀ target ∈ targets,
        ProducesRouter settings service (routerBase target.1) →
          IsTriedFirst services (routerBase target.1) service ∧
            IsOwnEntry tools services targets service) := by
  refine ⟨resolveTargetServices_report targetRouters limit, ?_⟩
  apply forall₂_congr
  intro service listed
  apply forall₂_congr
  intro target inTargets
  apply forall_congr'
  exact isAttributed_iff distinct listed inTargets

end Attribution

section Samples

def sampleLogTools : LogTools where
  parsedateToDatetime _ := none
  sha256 text := text
  hostname text := some text
  isDecimal := Text.isDigit
  isWord c := Text.isLetter c || Text.isDigit c || c = '_'
  str _ := ""
  truncate _ := .ok 0

def sampleTarget (routerName : String) (count : Int) : Json :=
  .array [.object [("router_name", .string routerName), ("blocked_request_count", .int count)]]

private theorem isValid_app : matchesDomainPattern "app.example.com" = true := by decide

/-- A service that blocks a path. -/
def blockingService : Service where
  id := ⟨1⟩
  name := "Application"
  domain := ⟨"app.example.com", isValid_app⟩
  upstream := ⟨"10.0.0.1", 80, by decide⟩
  tlsEnabled := true
  authEnabled := false
  blockedPaths := ["/admin"]

/-- A service with a domain of its own. -/
def plainService : Service where
  id := ⟨3⟩
  name := "Shop"
  domain := ⟨"shop.example.com", by decide⟩
  upstream := ⟨"10.0.0.3", 80, by decide⟩
  tlsEnabled := true
  authEnabled := false

/-- A service whose domain continues that of the other one. -/
def longerService : Service where
  id := ⟨2⟩
  name := "Block list"
  domain := ⟨"app.example.com.block", by decide⟩
  upstream := ⟨"10.0.0.2", 80, by decide⟩
  tlsEnabled := true
  authEnabled := false

private theorem producesRouter_sample :
    ProducesRouter defaultSettings blockingService (routerBase "app-example-com-block-0@file") := by
  refine ⟨[], mem_routerNames_service.mpr ⟨by decide, .inr ⟨"block-0", by decide, by decide⟩⟩⟩

private theorem validTargets_sample : validTargets (sampleTarget "app-example-com-block-0@file" 7) =
    [("app-example-com-block-0@file", 7)] := by decide

/-- The counts of four routers, one of which is Traefik's own. -/
def routerCounts : Json :=
  .array ([("app-example-com-block-0@file", 7), ("shop-example-com@file", 2), ("api@internal", 1),
    ("app-example-com@file", 4)].map fun (count : String × Int) =>
      .object [("router_name", .string count.1), ("blocked_request_count", .int count.2)])

theorem resolveTargetServices_iff_sample :
    ProducesRouter defaultSettings blockingService (routerBase "app-example-com-block-0@file") ∧
      ∀ service ∈ [blockingService, plainService], ∀ target ∈ validTargets routerCounts,
        ProducesRouter defaultSettings service (routerBase target.1) →
          IsAttributed sampleLogTools [blockingService, plainService] (validTargets routerCounts)
            target.1 service := by
  refine ⟨producesRouter_sample, (resolveTargetServices_iff sampleLogTools defaultSettings
    (by decide : ([blockingService, plainService].map (·.domain)).Nodup) routerCounts 5).2.mpr ?_⟩
  have alone : ∀ target ∈ validTargets routerCounts,
      ∀ service ∈ [blockingService, plainService], ∀ other ∈ [blockingService, plainService],
        fitsRouter (routerBase target.1) service = true →
          fitsRouter (routerBase target.1) other = true → other = service := by
    decide +kernel
  have unnamed : ∀ target ∈ validTargets routerCounts,
      ∀ service ∈ [blockingService, plainService], routerBase target.1 ≠ service.domain.value := by
    decide +kernel
  intro service listed target inTargets produces
  constructor
  · intro other isOther fits differ
    exact absurd (alone target inTargets service listed other isOther produces.fitsRouter fits) differ
  · intro front foreign rest isList isForeign
    have inList : foreign ∈ validTargets routerCounts := by simp [isList]
    exact absurd isForeign.1 (unnamed foreign inList service listed)

/-- The requests on a blocked path of one service are counted for another one whose domain
continues the first domain. -/
theorem longer_domain_takes_router :
    ProducesRouter defaultSettings blockingService (routerBase "app-example-com-block-0@file") ∧
      ([longerService, blockingService].map (·.domain)).Nodup ∧
      resolveTargetServices sampleLogTools [longerService, blockingService]
          (sampleTarget "app-example-com-block-0@file" 7) 5 =
        ([⟨"Block list", some "app.example.com.block", 7⟩], 0) := by
  refine ⟨producesRouter_sample, by decide, ?_⟩
  have isMatched : matchedService sampleLogTools [longerService, blockingService]
      (routerBase "app-example-com-block-0@file") = some longerService := by
    rw [matchedService_iff _ (by decide) List.mem_cons_self (by decide)]
    intro other isOther _ differ
    rw [List.mem_cons, List.mem_singleton] at isOther
    left
    rw [isOther.resolve_left differ]
    decide
  have counts : (countTargets sampleLogTools [longerService, blockingService]
      [("app-example-com-block-0@file", 7)]).totals.values =
        [⟨"Block list", some "app.example.com.block", 7⟩] := by
    rw [countTargets, List.foldl_cons, List.foldl_nil, addTarget]
    simp only [chargedTarget?_of_matched isMatched]
    rfl
  have other : (countTargets sampleLogTools [longerService, blockingService]
      [("app-example-com-block-0@file", 7)]).otherTargetRequestCount = 0 := by
    rw [countTargets, List.foldl_cons, List.foldl_nil, addTarget]
    simp only [chargedTarget?_of_matched isMatched]
  simp only [resolveTargetServices, validTargets_sample, counts, other, List.mergeSort_singleton]
  rfl

end Samples

end TraefikManager.Monitoring
