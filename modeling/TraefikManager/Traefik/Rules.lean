import TraefikManager.Foundation.RuleLanguage
import TraefikManager.Traefik.ServiceConfig

/-!
# What Traefik reads in the rules

The rules splice a domain and a path between backticks. A domain never contains
a character with a meaning there. A path can, and its rule is read as intended
exactly when it has no backtick, no carriage return, no null character and no byte
order mark.
-/

namespace TraefikManager.Traefik

open Foundation Domain

/-- What the rule of a domain should be read as. -/
def hostExpr (domain : DomainName) : Rule.Expr := .matcher "Host" domain.value

/-- What the rule of a path of a domain should be read as. -/
def pathExpr (domain : DomainName) (path : String) : Rule.Expr :=
  .conj (hostExpr domain) (.matcher "PathPrefix" path)

/-- Whether a literal gives the text back: no backtick ends it early, no carriage return is
dropped, and no character makes the rule unreadable. -/
def isQuotable (text : String) : Bool :=
  !Text.containsChar '`' text && !Text.containsChar '\r' text && text.toList.all Rule.isLegal

private theorem isQuotable_iff {text : String} :
    isQuotable text = true ↔
      '`' ∉ text.toList ∧ '\r' ∉ text.toList ∧ text.toList.all Rule.isLegal = true := by
  simp [isQuotable, Text.containsChar, and_assoc]

/-- A domain has no character with a meaning in a rule. -/
theorem isQuotable_domain (domain : DomainName) : isQuotable domain.value = true := by
  have absent : ∀ c, ¬(isDomainChar c = true ∨ c = '\n') → c ∉ domain.value.toList :=
    fun c other member => other (domain.isDomainChar_of_mem member)
  rw [isQuotable_iff, List.all_eq_true]
  refine ⟨absent _ (by decide), absent _ (by decide), fun c member => ?_⟩
  have notNull : c ≠ Char.ofNat 0 := fun isNull => absent _ (by decide) (isNull ▸ member)
  have noMark : c ≠ Rule.byteOrderMark := fun isMark => absent _ (by decide) (isMark ▸ member)
  simp [Rule.isLegal, notNull, noMark]

private theorem rawLiteral_of_isQuotable {text : String} (quotable : isQuotable text = true) :
    Rule.rawLiteral text.toList = .literal text := by
  have noReturn := (isQuotable_iff.mp quotable).2.1
  have kept : text.toList.filter (· ≠ '\r') = text.toList := by
    rw [List.filter_eq_self]
    rintro c member
    simp only [ne_eq, decide_eq_true_eq]
    rintro rfl
    exact noReturn member
  rw [Rule.rawLiteral, kept, String.ofList_toList]

/-- The tokens of a rule up to the literal of its path. -/
def pathRuleHead (domain : DomainName) : List Rule.Token :=
  [.word "Host", .opening, .literal domain.value, .closing, .and, .word "PathPrefix", .opening]

private theorem advance_host (domain : DomainName) :
    Rule.advance .plain ("Host".toList ++ ['(', '`'] ++ domain.value.toList ++ ['`', ')']) =
      some ([.word "Host", .opening, .literal domain.value, .closing], .plain) := by
  have quotable := isQuotable_domain domain
  rw [Rule.advance_matcher (by decide) (by decide) (isQuotable_iff.mp quotable).1,
    rawLiteral_of_isQuotable quotable]
  rfl

private theorem legal_domain (domain : DomainName) : domain.value.toList.all Rule.isLegal = true :=
  (isQuotable_iff.mp (isQuotable_domain domain)).2.2

/-- The rule of a domain is read as intended. -/
@[simp] theorem read_hostRule (domain : DomainName) :
    Rule.read (hostRule domain) = some (hostExpr domain) := by
  have text : (hostRule domain).toList =
      "Host".toList ++ ['(', '`'] ++ domain.value.toList ++ ['`', ')'] := by
    simp [hostRule]
  have legal : (hostRule domain).toList.all Rule.isLegal = true := by
    rw [text, List.all_append, List.all_append, legal_domain]
    decide
  rw [Rule.read_eq (by rw [text]; rfl), if_pos legal, text, Rule.lex, advance_host]
  rfl

/-- The rule of a path is read when the path has no illegal character. -/
theorem read_pathRule (domain : DomainName) (path : String) :
    Rule.read (pathRule domain path) =
      if path.toList.all Rule.isLegal then
        (Rule.lex (pathRule domain path).toList).bind Rule.parseAll
      else none := by
  have text : (pathRule domain path).toList =
      "Host(`".toList ++ domain.value.toList ++ "`) && PathPrefix(`".toList ++ path.toList ++
        "`)".toList := by
    simp [pathRule]
  have legal : (pathRule domain path).toList.all Rule.isLegal = path.toList.all Rule.isLegal := by
    have opening : "Host(`".toList.all Rule.isLegal = true := by decide
    have between : "`) && PathPrefix(`".toList.all Rule.isLegal = true := by decide
    have closing : "`)".toList.all Rule.isLegal = true := by decide
    simp only [text, List.all_append, legal_domain, opening, between, closing, Bool.true_and,
      Bool.and_true]
  rw [Rule.read_eq (by rw [text]; rfl), legal]

private theorem advance_pathRule (domain : DomainName) (path : String) :
    Rule.advance .plain (pathRule domain path).toList = (do
      let (later, last) ← Rule.advance (.raw []) (path.toList ++ ['`', ')'])
      pure (pathRuleHead domain ++ later, last)) := by
  have text : (pathRule domain path).toList =
      ("Host".toList ++ ['(', '`'] ++ domain.value.toList ++ ['`', ')']) ++
        (" && ".toList ++ (("PathPrefix".toList ++ ['(', '`']) ++ (path.toList ++ ['`', ')']))) := by
    simp [pathRule]
  have operator : Rule.advance .plain " && ".toList = some ([.and], .plain) := by decide
  have name : Rule.advance .plain ("PathPrefix".toList ++ ['(', '`']) =
      some ([.word "PathPrefix", .opening], .raw []) := by decide
  rw [text, Rule.advance_append, advance_host]
  simp only [Option.bind_eq_bind, Option.bind_some, Rule.advance_append _ " && ".toList, operator,
    Rule.advance_append _ ("PathPrefix".toList ++ ['(', '`']), name, Option.bind_assoc,
    Option.pure_def]
  rfl

/-- Reading a path literal first yields the path up to its first backtick. -/
theorem advance_pathLiteral {path back : List Char} {tokens : List Rule.Token} {last : Rule.Mode}
    (read : Rule.advance (.raw []) (path ++ '`' :: back) = some (tokens, last)) :
    ∃ later, tokens = Rule.rawLiteral (path.takeWhile (· ≠ '`')) :: later := by
  have clean : '`' ∉ path.takeWhile (· ≠ '`') := by
    intro member
    simpa using List.mem_takeWhile_imp member
  obtain ⟨after, split⟩ : ∃ after, path ++ '`' :: back =
      path.takeWhile (· ≠ '`') ++ '`' :: after := by
    cases rest : path.dropWhile (· ≠ '`') with
    | nil =>
        refine ⟨back, ?_⟩
        conv_lhs => rw [← List.takeWhile_append_dropWhile (p := (· ≠ '`')) (l := path), rest]
        simp
    | cons c after =>
        have isBacktick : c = '`' := by
          have nonempty : path.dropWhile (· ≠ '`') ≠ [] := by
            rw [rest]
            exact List.cons_ne_nil c after
          have notOther := List.head_dropWhile_not (· ≠ '`') nonempty
          simp only [rest, List.head_cons] at notOther
          simpa using notOther
        refine ⟨after ++ '`' :: back, ?_⟩
        conv_lhs => rw [← List.takeWhile_append_dropWhile (p := (· ≠ '`')) (l := path), rest]
        simp [isBacktick]
  rw [split, Rule.advance_literal clean] at read
  simp only [Option.bind_eq_bind, Option.bind_eq_some_iff, Option.pure_def, Option.some.injEq,
    Prod.mk.injEq, Prod.exists] at read
  obtain ⟨later, _, _, rfl, _⟩ := read
  exact ⟨later, rfl⟩

/-- Whatever the rule of a path is read as, the path has no illegal character, and the second
literal is the path up to the first backtick, without carriage returns. -/
theorem values_of_read_pathRule {domain : DomainName} {path : String} {expr : Rule.Expr}
    (parsed : Rule.read (pathRule domain path) = some expr) :
    path.toList.all Rule.isLegal = true ∧ ∃ later, expr.values = domain.value ::
      String.ofList ((path.toList.takeWhile (· ≠ '`')).filter (· ≠ '\r')) :: later := by
  rw [read_pathRule, Option.ite_none_right_eq_some, Option.bind_eq_some_iff] at parsed
  obtain ⟨legal, tokens, lexed, parsedTokens⟩ := parsed
  refine ⟨legal, ?_⟩
  rw [Rule.lex, advance_pathRule] at lexed
  simp only [Option.bind_eq_bind, Option.bind_eq_some_iff, Option.pure_def, Option.some.injEq,
    Prod.exists, Prod.mk.injEq] at lexed
  obtain ⟨_, _, ⟨literal, mode, read, rfl, rfl⟩, final, _, rfl⟩ := lexed
  obtain ⟨later, rfl⟩ := advance_pathLiteral read
  refine ⟨Rule.literals (later ++ final), ?_⟩
  rw [← Rule.literals_of_parseAll parsedTokens]
  simp [pathRuleHead, Rule.rawLiteral, Rule.Token.literal?]

/-- A legal text that survives the reading of its literal is quotable. -/
theorem isQuotable_of_survives {text : String} (legal : text.toList.all Rule.isLegal = true)
    (survives : String.ofList ((text.toList.takeWhile (· ≠ '`')).filter (· ≠ '\r')) = text) :
    isQuotable text = true := by
  have chars : (text.toList.takeWhile (· ≠ '`')).filter (· ≠ '\r') = text.toList := by
    conv_rhs => rw [← survives, String.toList_ofList]
  have kept : ∀ c ∈ text.toList, c ≠ '\r' ∧ c ∈ text.toList.takeWhile (· ≠ '`') := by
    intro c member
    rw [← chars, List.mem_filter] at member
    exact ⟨by simpa using member.2, member.1⟩
  rw [isQuotable_iff]
  refine ⟨fun backtick => ?_, fun carriageReturn => (kept _ carriageReturn).1 rfl, legal⟩
  simpa using List.mem_takeWhile_imp (kept _ backtick).2

/-- **The rule of a path is read as intended exactly when the path is quotable.** -/
theorem read_pathRule_iff {domain : DomainName} {path : String} :
    Rule.read (pathRule domain path) = some (pathExpr domain path) ↔ isQuotable path = true := by
  constructor
  · intro parsed
    obtain ⟨legal, later, values⟩ := values_of_read_pathRule parsed
    apply isQuotable_of_survives legal
    have same : [domain.value, path] = domain.value ::
        String.ofList ((path.toList.takeWhile (· ≠ '`')).filter (· ≠ '\r')) :: later := values
    simp only [List.cons.injEq, true_and] at same
    exact same.1.symm
  · intro quotable
    obtain ⟨clean, -, legal⟩ := isQuotable_iff.mp quotable
    have literal : Rule.advance (.raw []) (path.toList ++ ['`', ')']) =
        some ([.literal path, .closing], .plain) := by
      rw [Rule.advance_literal clean, rawLiteral_of_isQuotable quotable]
      rfl
    rw [read_pathRule, if_pos legal, Rule.lex, advance_pathRule, literal]
    rfl

section Documents

variable (settings : Settings)

/-- What the rules of an active service are meant to say, router by router. -/
def intendedServiceRules (routerName : String) (service : Service) : List (String × Rule.Expr) :=
  (routerName, hostExpr service.domain) ::
    (middlewareName routerName "redirect", hostExpr service.domain) ::
    (middlewareName routerName "authentik-outpost",
      pathExpr service.domain authentikOutpostPathPrefix) ::
    service.blockedPaths.zipIdx.map fun (path, index) =>
      (middlewareName routerName (blockSuffix index), pathExpr service.domain path)

/-- What the rules of a service under maintenance are meant to say. -/
def intendedMaintenanceRules (routerName : String) (service : Service) :
    List (String × Rule.Expr) :=
  [(routerName, hostExpr service.domain),
    (middlewareName routerName "redirect", hostExpr service.domain),
    (middlewareName routerName "maintenance-assets", pathExpr service.domain "/_next/")]

def intendedRules (service : Service) : List (String × Rule.Expr) :=
  let routerName := toSafeName service.domain.value
  match service.routingMode with
  | .maintenance => intendedMaintenanceRules routerName service
  | .active | .disabled => intendedServiceRules routerName service

private theorem intendedRules_maintenance {service : Service}
    (maintenance : service.routingMode = .maintenance) :
    intendedRules service =
      intendedMaintenanceRules (toSafeName service.domain.value) service := by
  rw [intendedRules, maintenance]

private theorem intendedRules_active {service : Service}
    (active : service.routingMode ≠ .maintenance) :
    intendedRules service = intendedServiceRules (toSafeName service.domain.value) service := by
  unfold intendedRules
  split
  · rename_i maintenance
    exact absurd maintenance active
  · rfl
  · rfl

/-- Every router's rule is read as what it is meant to say. -/
def RulesFaithful (service : Service) (middlewareTemplates : List MiddlewareTemplate) : Prop :=
  ∀ name router,
    (generate settings service middlewareTemplates).routers.get? name = some router →
      ∃ expr, (name, expr) ∈ intendedRules service ∧ Rule.read router.rule = some expr

private theorem rulesFaithful_maintenance {service : Service}
    (maintenance : service.routingMode = .maintenance)
    (middlewareTemplates : List MiddlewareTemplate) :
    RulesFaithful settings service middlewareTemplates := by
  intro name router found
  rw [generate_maintenance maintenance, get?_maintenanceRouters, mem_maintenanceRouters,
    Prod.ext_iff, Prod.ext_iff, Prod.ext_iff] at found
  rw [intendedRules_maintenance maintenance]
  rcases found with ⟨rfl, rfl⟩ | ⟨rfl, rfl⟩ | ⟨_, rfl, rfl⟩
  · refine ⟨hostExpr service.domain, List.mem_cons_self, ?_⟩
    rw [maintenanceRouter, assignEntrypoint_rule, read_hostRule]
  · refine ⟨pathExpr service.domain "/_next/",
      List.mem_cons_of_mem _ (List.mem_cons_of_mem _ List.mem_cons_self), ?_⟩
    rw [maintenanceAssetsRouter, assignEntrypoint_rule]
    exact read_pathRule_iff.mpr (by decide)
  · refine ⟨hostExpr service.domain, List.mem_cons_of_mem _ List.mem_cons_self, ?_⟩
    rw [maintenanceRedirectRouter, read_hostRule]

/-- What the rule of a blocked path is meant to say. -/
theorem intendedRule_of_blockedPath {routerName : String} {service : Service} {index : Nat}
    {path : String} {expr : Rule.Expr} (listed : service.blockedPaths[index]? = some path)
    (intended : (middlewareName routerName (blockSuffix index), expr) ∈
      intendedServiceRules routerName service) : expr = pathExpr service.domain path := by
  have injective := middlewareName_injective routerName
  have notRedirect : blockSuffix index ≠ "redirect" := blockSuffix_ne index (by decide)
  have notOutpost : blockSuffix index ≠ "authentik-outpost" := blockSuffix_ne index (by decide)
  rw [intendedServiceRules, List.mem_cons, List.mem_cons, List.mem_cons, List.mem_map] at intended
  rcases intended with main | redirect | outpost | ⟨⟨other, position⟩, found, same⟩
  · exact absurd (congrArg Prod.fst main) (middlewareName_ne routerName _)
  · exact absurd (injective (congrArg Prod.fst redirect)) notRedirect
  · exact absurd (injective (congrArg Prod.fst outpost)) notOutpost
  · obtain rfl : position = index := blockSuffix_injective (injective (congrArg Prod.fst same))
    rw [List.mem_zipIdx_iff_getElem?, listed, Option.some.injEq] at found
    rw [found]
    exact (congrArg Prod.snd same).symm

private theorem isQuotable_of_rulesFaithful {service : Service}
    {middlewareTemplates : List MiddlewareTemplate} (active : service.routingMode ≠ .maintenance)
    (faithful : RulesFaithful settings service middlewareTemplates) :
    ∀ path ∈ service.blockedPaths, isQuotable path = true := by
  intro path member
  obtain ⟨index, listed⟩ := List.mem_iff_getElem?.mp member
  have found : (generate settings service middlewareTemplates).routers.get?
      (middlewareName (toSafeName service.domain.value) (blockSuffix index)) =
        some (blockedPathRouter settings (toSafeName service.domain.value) service path
          index).2 := by
    rw [generate_active active, get?_serviceRouters, mem_serviceRouters]
    exact .inr (.inl ⟨index, path, listed, rfl⟩)
  obtain ⟨expr, intended, parsed⟩ := faithful _ _ found
  rw [intendedRules_active active] at intended
  obtain rfl := intendedRule_of_blockedPath listed intended
  rw [blockedPathRouter, assignEntrypoint_rule] at parsed
  exact read_pathRule_iff.mp parsed

private theorem rulesFaithful_of_isQuotable {service : Service}
    (active : service.routingMode ≠ .maintenance)
    (quotable : ∀ path ∈ service.blockedPaths, isQuotable path = true)
    (middlewareTemplates : List MiddlewareTemplate) :
    RulesFaithful settings service middlewareTemplates := by
  intro name router found
  rw [generate_active active, get?_serviceRouters, mem_serviceRouters] at found
  simp only [Prod.ext_iff] at found
  rw [intendedRules_active active]
  rcases found with ⟨rfl, rfl⟩ | ⟨index, path, listed, rfl, rfl⟩ | ⟨_, rfl, rfl⟩ | ⟨_, rfl, rfl⟩
  · refine ⟨hostExpr service.domain, List.mem_cons_self, ?_⟩
    rw [secureRouter, assignEntrypoint_rule, read_hostRule]
  · refine ⟨pathExpr service.domain path, ?_, ?_⟩
    · refine List.mem_cons_of_mem _ (List.mem_cons_of_mem _ (List.mem_cons_of_mem _ ?_))
      exact List.mem_map.mpr ⟨(path, index), List.mem_zipIdx_iff_getElem?.mpr listed, rfl⟩
    · rw [blockedPathRouter, assignEntrypoint_rule]
      exact read_pathRule_iff.mpr (quotable path (List.mem_of_getElem? listed))
  · refine ⟨hostExpr service.domain, List.mem_cons_of_mem _ List.mem_cons_self, ?_⟩
    rw [httpsRedirectRouter, read_hostRule]
  · refine ⟨pathExpr service.domain authentikOutpostPathPrefix,
      List.mem_cons_of_mem _ (List.mem_cons_of_mem _ List.mem_cons_self), ?_⟩
    rw [authentikOutpostRouter, assignEntrypoint_rule]
    exact read_pathRule_iff.mpr (by decide)

/-- **The rules of a service are faithful exactly when its blocked paths are
quotable**, or when it is under maintenance and has no router for them. -/
theorem rulesFaithful_iff (service : Service) (middlewareTemplates : List MiddlewareTemplate) :
    RulesFaithful settings service middlewareTemplates ↔
      service.routingMode = .maintenance ∨
        ∀ path ∈ service.blockedPaths, isQuotable path = true := by
  constructor
  · intro faithful
    exact or_iff_not_imp_left.mpr fun active => isQuotable_of_rulesFaithful settings active faithful
  · intro condition
    by_cases maintenance : service.routingMode = .maintenance
    · exact rulesFaithful_maintenance settings maintenance middlewareTemplates
    · exact rulesFaithful_of_isQuotable settings maintenance (condition.resolve_left maintenance)
        middlewareTemplates

end Documents

section SplicedRule

/-- `validate_blocked_paths` of the request schema. -/
def validateBlockedPaths (values : List String) : Except PyException (List String) :=
  match values.find? fun path => !Text.startsWith "/" path with
  | some path => .error (.valueError ("차단 경로는 '/'로 시작해야 합니다: " ++ path))
  | none => .ok values

/-- A request that blocks a path with backticks in it. -/
def splicedPathArguments : ServiceCreateArguments :=
  { name := "shop", domain := "shop.example.com", upstreamHost := "app", upstreamPort := 8080
    blockedPaths := some ["/x`) || Host(`b.org"] }

/-- The schema and the normalizers accept the path, and its rule also matches
another domain. -/
theorem splicedPath_unfaithful :
    ∃ service, Service.create splicedPathArguments ⟨1⟩ "" = .ok service ∧
      validateBlockedPaths service.blockedPaths = .ok service.blockedPaths ∧
      Rule.read (pathRule service.domain "/x`) || Host(`b.org") =
        some (.disj (pathExpr service.domain "/x") (.matcher "Host" "b.org")) ∧
      ¬RulesFaithful defaultSettings service [] := by
  have created : (Service.create splicedPathArguments ⟨1⟩ "").map (fun service =>
      (service.domain.value, service.routingMode, service.blockedPaths)) =
        .ok ("shop.example.com", .active, ["/x`) || Host(`b.org"]) := by
    decide
  obtain ⟨service, isService, fields⟩ := exists_of_map_ok created
  simp only [Prod.mk.injEq] at fields
  obtain ⟨domain, active, blocked⟩ := fields
  refine ⟨service, isService, ?_, ?_, ?_⟩
  · rw [blocked]
    decide
  · have literals : Rule.advance (.raw []) ("/x`) || Host(`b.org".toList ++ ['`', ')']) =
        some ([.literal "/x", .closing, .or, .word "Host", .opening, .literal "b.org", .closing],
          .plain) := by
      decide
    rw [read_pathRule, if_pos (by decide), Rule.lex, advance_pathRule, literals]
    rfl
  · intro faithful
    have quotable := isQuotable_of_rulesFaithful defaultSettings (by simp [active]) faithful
      "/x`) || Host(`b.org" (by simp [blocked])
    revert quotable
    decide

end SplicedRule

end TraefikManager.Traefik
