import TraefikManager.Foundation.Substring
import TraefikManager.Scripts.BlueGreenRuntime

/-!
# The route of the manager

The initializer writes a route file that names the upstream of one slot. The deployment script and
the backends read from the file which slot is active, each in its own way.
-/

namespace TraefikManager.Background

open Foundation Scripts

section Writing

/-- `${name:-default}`. -/
def orDefault (value : Option String) (default : String) : String :=
  match value with
  | some text => if text = "" then default else text
  | none => default

/-- `""|*[!A-Za-z0-9.-]*` does not match. -/
def isFrontendDomain (text : String) : Bool :=
  text ≠ "" ∧ text.toList.all fun c => Text.isLetter c || Text.isDigit c || c ∈ ['.', '-']

/-- `""|*[!A-Za-z0-9_-]*` does not match. -/
def isEntrypoint (text : String) : Bool :=
  text ≠ "" ∧ text.toList.all fun c => Text.isLetter c || Text.isDigit c || c ∈ ['_', '-']

/-- The routers for the public domain. -/
def publicRouters (domain : String) : List String :=
  ["    traefik-manager-frontend-file:",
    "      rule: \"Host(`" ++ domain ++ "`)\"",
    "      entryPoints:",
    "        - websecure",
    "      service: traefik-manager-frontend-file",
    "      tls:",
    "        certResolver: letsencrypt",
    "    traefik-manager-frontend-http-file:",
    "      rule: \"Host(`" ++ domain ++ "`)\"",
    "      entryPoints:",
    "        - web",
    "      middlewares:",
    "        - traefik-manager-frontend-https-file",
    "      service: traefik-manager-frontend-file"]

/-- The router for the tailnet. -/
def tailnetRouters (entrypoint : String) : List String :=
  ["    traefik-manager-tailnet-file:",
    "      rule: \"PathPrefix(`/`)\"",
    "      entryPoints:",
    "        - " ++ entrypoint,
    "      middlewares:",
    "        - security-headers@file",
    "      service: traefik-manager-frontend-file"]

def routeServices (upstream : String) : List String :=
  ["  services:",
    "    traefik-manager-frontend-file:",
    "      loadBalancer:",
    "        servers:",
    "          - url: \"" ++ upstream ++ "\""]

def publicMiddlewares : List String :=
  ["  middlewares:",
    "    traefik-manager-frontend-https-file:",
    "      redirectScheme:",
    "        scheme: https",
    "        permanent: true"]

/-- `init-traefik-config.sh`: the lines of the route file, unless a setting is refused. -/
def initTraefikConfig (environment : String → Option String) : Option (List String) :=
  let upstream := orDefault (environment "TRAEFIK_MANAGER_FRONTEND_UPSTREAM")
    "http://traefik-manager-frontend:3000"
  let publicEnabled := orDefault (environment "TRAEFIK_MANAGER_PUBLIC_ROUTER_ENABLED") "true"
  let tailnetEnabled := orDefault (environment "TRAEFIK_MANAGER_TAILNET_ROUTER_ENABLED") "false"
  let entrypoint := orDefault (environment "TRAEFIK_MANAGER_TAILNET_ENTRYPOINT") "manager-tailnet"
  let domain := orDefault (environment "FRONTEND_DOMAIN") ""
  if publicEnabled ∉ ["true", "false"] ∨ tailnetEnabled ∉ ["true", "false"] then none
  else if publicEnabled = "false" ∧ tailnetEnabled = "false" then none
  else if publicEnabled = "true" ∧ ¬isFrontendDomain domain then none
  else if tailnetEnabled = "true" ∧ ¬isEntrypoint entrypoint then none
  else if upstream ∉ [Slot.single, .blue, .green].map upstreamForSlot then none
  else some <| ["http:", "  routers:"] ++
    (if publicEnabled = "true" then publicRouters domain else []) ++
    (if tailnetEnabled = "true" then tailnetRouters entrypoint else []) ++
    routeServices upstream ++ if publicEnabled = "true" then publicMiddlewares else []

/-- A file of lines. -/
def fileOf (lines : List String) : List Char :=
  (lines.map String.toList).flatMap (· ++ ['\n'])

end Writing

section Reading

/-- `url: "…"` in a route file. -/
def urlOf (upstream : String) : List Char := ("url: \"" ++ upstream ++ "\"").toList

/-- `grep -Fq` finds a line that holds a text. -/
def grep (needle content : List Char) : Bool := (content.splitOn '\n').any (Text.includes needle)

/-- `infer_active_slot`, with the route file when there is one. -/
def inferActiveSlotOf : Option (List Char) → String
  | none => "unknown"
  | some content =>
      if grep (urlOf (upstreamForSlot .blue)) content then "blue"
      else if grep (urlOf (upstreamForSlot .green)) content then "green"
      else if grep (urlOf (upstreamForSlot .single)) content then "single"
      else "unknown"

/-- What reading the route file gives: its text, an `OSError`, or another error. -/
inductive RouteRead where
  | text (content : List Char)
  | osError
  | invalid
  deriving DecidableEq, Repr

/-- `MANAGER_SLOTS`. -/
def managerSlots : List String := ["single", "blue", "green"]

/-- `is_manager_slot_active`; `none` stands for the error that it raises. -/
def isManagerSlotActive (slot : String) (route : RouteRead) : Option Bool :=
  let normalized := Text.lower (Text.strip slot)
  if normalized ∉ managerSlots then some false
  else
    match route with
    | .osError => some false
    | .invalid => none
    | .text content =>
        let frontend :=
          if normalized ≠ "single" then "traefik-manager-frontend-" ++ normalized
          else "traefik-manager-frontend"
        some (Text.includes (urlOf ("http://" ++ frontend ++ ":3000")) content)

end Reading

section Agreement

variable {upstream : String} {line : List Char} {slot other : Slot}

/-- A line without a slash names no upstream. -/
theorem not_includes_of_slash (absent : '/' ∉ line) (slot : Slot) :
    Text.includes (urlOf (upstreamForSlot slot)) line = false := by
  refine decide_eq_false fun isInfix => absent ?_
  have inUrl : '/' ∈ urlOf (upstreamForSlot slot) := by
    cases slot <;> decide
  exact isInfix.subset inUrl

/-- The lines name no upstream. -/
def Silent (lines : List String) : Prop :=
  ∀ slot, lines.any (fun line => Text.includes (urlOf (upstreamForSlot slot)) line.toList) = false

private theorem silent_of_slash {lines : List String}
    (slashless : ∀ line ∈ lines, '/' ∉ line.toList) : Silent lines := by
  intro slot
  rw [List.any_eq_false]
  intro line listed
  rw [not_includes_of_slash (slashless line listed)]
  exact Bool.false_ne_true

theorem Silent.append {first second : List String} (isFirst : Silent first)
    (isSecond : Silent second) : Silent (first ++ second) := by
  intro slot
  rw [List.any_append, isFirst slot, isSecond slot]
  rfl

private theorem silent_publicRouters {domain : String} (valid : isFrontendDomain domain = true) :
    Silent (publicRouters domain) := by
  have absent : '/' ∉ domain.toList := by
    intro listed
    simp only [isFrontendDomain, Bool.decide_and, Bool.and_eq_true, decide_eq_true_eq] at valid
    exact absurd (List.all_eq_true.mp valid.2 '/' listed) (by decide)
  exact silent_of_slash (by simp [publicRouters, absent])

private theorem silent_tailnetRouters {entrypoint : String}
    (valid : isEntrypoint entrypoint = true) : Silent (tailnetRouters entrypoint) := by
  have absent : '/' ∉ entrypoint.toList := by
    intro listed
    simp only [isEntrypoint, Bool.decide_and, Bool.and_eq_true, decide_eq_true_eq] at valid
    exact absurd (List.all_eq_true.mp valid.2 '/' listed) (by decide)
  have rule : Silent ["      rule: \"PathPrefix(`/`)\""] := by
    intro slot
    cases slot <;> decide +kernel
  have others : Silent ["      entryPoints:", "        - " ++ entrypoint, "      middlewares:",
      "        - security-headers@file", "      service: traefik-manager-frontend-file"] :=
    silent_of_slash (by simp [absent])
  have name : Silent ["    traefik-manager-tailnet-file:"] := silent_of_slash (by simp)
  exact name.append (rule.append others)

private theorem includes_routeServices :
    (routeServices (upstreamForSlot other)).any
      (fun line => Text.includes (urlOf (upstreamForSlot slot)) line.toList) =
        decide (slot = other) := by
  have services : Silent ["  services:", "    traefik-manager-frontend-file:",
      "      loadBalancer:", "        servers:"] := silent_of_slash (by simp)
  have url : Text.includes (urlOf (upstreamForSlot slot))
      ("          - url: \"" ++ upstreamForSlot other ++ "\"").toList =
        decide (slot = other) := by
    cases slot <;> cases other <;> decide +kernel
  rw [show routeServices (upstreamForSlot other) = ["  services:",
      "    traefik-manager-frontend-file:", "      loadBalancer:", "        servers:"] ++
        ["          - url: \"" ++ upstreamForSlot other ++ "\""] from rfl, List.any_append,
    services slot, Bool.false_or, List.any_cons, url, List.any_nil, Bool.or_false]

/-- The lines that name an upstream name the one of the file. -/
theorem includes_initTraefikConfig {environment : String → Option String} {lines : List String}
    (written : initTraefikConfig environment = some lines) :
    ∃ active, orDefault (environment "TRAEFIK_MANAGER_FRONTEND_UPSTREAM")
        "http://traefik-manager-frontend:3000" = upstreamForSlot active ∧
      ∀ slot, lines.any (fun line => Text.includes (urlOf (upstreamForSlot slot)) line.toList) =
        decide (slot = active) := by
  unfold initTraefikConfig at written
  dsimp only at written
  split at written
  · cases written
  · split at written
    · cases written
    · split at written
      · cases written
      · rename_i isPublic
        split at written
        · cases written
        · rename_i isTailnet
          split at written
          · cases written
          · rename_i isUpstream
            obtain ⟨active, -, isActive⟩ := List.mem_map.mp (not_not.mp isUpstream)
            refine ⟨active, isActive.symm, fun slot => ?_⟩
            cases written
            rw [← isActive]
            have routers : Silent (["http:", "  routers:"] ++
                (if orDefault (environment "TRAEFIK_MANAGER_PUBLIC_ROUTER_ENABLED") "true" = "true"
                  then publicRouters (orDefault (environment "FRONTEND_DOMAIN") "") else []) ++
                if orDefault (environment "TRAEFIK_MANAGER_TAILNET_ROUTER_ENABLED") "false" = "true"
                  then tailnetRouters (orDefault (environment "TRAEFIK_MANAGER_TAILNET_ENTRYPOINT")
                    "manager-tailnet") else []) := by
              refine ((silent_of_slash (by simp)).append ?_).append ?_
              · split
                · rename_i enabled
                  exact silent_publicRouters (by simpa [enabled] using isPublic)
                · exact fun _ => rfl
              · split
                · rename_i enabled
                  exact silent_tailnetRouters (by simpa [enabled] using isTailnet)
                · exact fun _ => rfl
            have middlewares : Silent (if orDefault
                (environment "TRAEFIK_MANAGER_PUBLIC_ROUTER_ENABLED") "true" = "true"
                  then publicMiddlewares else []) := by
              split
              · exact silent_of_slash (by simp [publicMiddlewares])
              · exact fun _ => rfl
            rw [List.any_append, List.any_append, routers slot, middlewares slot,
              includes_routeServices, Bool.false_or, Bool.or_false]

/-- A text that a line can hold is in a file when it is in one of its lines. -/
theorem includes_fileOf {needle : List Char} {lines : List String} (nonempty : needle ≠ [])
    (absent : '\n' ∉ needle) : Text.includes needle (fileOf lines) =
      lines.any fun line => Text.includes needle line.toList := by
  rw [Bool.eq_iff_iff, List.any_eq_true, Text.includes, decide_eq_true_eq, fileOf,
    Text.infix_lines absent nonempty]
  simp [Text.includes]

private theorem grep_eq_includes {needle content : List Char} (nonempty : needle ≠ [])
    (absent : '\n' ∉ needle) : grep needle content = Text.includes needle content := by
  rw [Bool.eq_iff_iff, Text.includes, decide_eq_true_eq, Text.infix_splitOn absent nonempty]
  simp [grep, Text.includes]

private theorem urlOf_nonempty (slot : Slot) : urlOf (upstreamForSlot slot) ≠ [] := by
  cases slot <;> decide

private theorem newline_not_in_urlOf (slot : Slot) : '\n' ∉ urlOf (upstreamForSlot slot) := by
  cases slot <;> decide

/-- The upstream that a backend looks for is the one of its slot. -/
theorem isManagerSlotActive_text {text : String} {content : List Char}
    (normalized : Text.lower (Text.strip text) = slot.name) :
    isManagerSlotActive text (.text content) =
      some (Text.includes (urlOf (upstreamForSlot slot)) content) := by
  rw [isManagerSlotActive, normalized]
  cases slot <;> rfl

/-- A backend without one of the slots is never active. -/
theorem isManagerSlotActive_unknown {text : String} {route : RouteRead}
    (unknown : ∀ slot : Slot, Text.lower (Text.strip text) ≠ slot.name) :
    isManagerSlotActive text route = some false := by
  unfold isManagerSlotActive
  refine if_pos fun known => ?_
  simp only [managerSlots, List.mem_cons, List.not_mem_nil, or_false] at known
  obtain isSingle | isBlue | isGreen := known
  · exact unknown .single isSingle
  · exact unknown .blue isBlue
  · exact unknown .green isGreen

private theorem slot_name_inj : slot.name = other.name ↔ slot = other := by
  cases slot <;> cases other <;> decide

/-- Of a file that the initializer has written, the backends of its slot are active. -/
theorem isManagerSlotActive_fileOf {lines : List String} {active : Slot}
    (names : ∀ slot, lines.any (fun line =>
      Text.includes (urlOf (upstreamForSlot slot)) line.toList) = decide (slot = active))
    (text : String) : isManagerSlotActive text (.text (fileOf lines)) =
      some (decide (Text.lower (Text.strip text) = active.name)) := by
  by_cases known : ∃ slot : Slot, Text.lower (Text.strip text) = slot.name
  · obtain ⟨slot, normalized⟩ := known
    rw [isManagerSlotActive_text normalized,
      includes_fileOf (urlOf_nonempty slot) (newline_not_in_urlOf slot), names, normalized]
    exact congrArg some (decide_eq_decide.mpr slot_name_inj.symm)
  · rw [isManagerSlotActive_unknown (not_exists.mp known), decide_eq_false]
    exact fun same => known ⟨active, same⟩

/-- **The programs agree on the active slot.** Of a route file that the initializer has written, the
deployment script infers the slot of the upstream it was written for, and the backends of this slot
and no others take themselves for active. -/
theorem activeSlot_of_initTraefikConfig (environment : String → Option String)
    {lines : List String} (written : initTraefikConfig environment = some lines) :
    ∃ active, orDefault (environment "TRAEFIK_MANAGER_FRONTEND_UPSTREAM")
        "http://traefik-manager-frontend:3000" = upstreamForSlot active ∧
      inferActiveSlotOf (some (fileOf lines)) = active.name ∧
      inferActiveSlot (some (upstreamForSlot active)) = active.name ∧
      ∀ slot, isManagerSlotActive slot (.text (fileOf lines)) =
        some (decide (Text.lower (Text.strip slot) = active.name)) := by
  obtain ⟨active, isUpstream, names⟩ := includes_initTraefikConfig written
  have found : ∀ slot, grep (urlOf (upstreamForSlot slot)) (fileOf lines) =
      decide (slot = active) := by
    intro slot
    rw [grep_eq_includes (urlOf_nonempty slot) (newline_not_in_urlOf slot),
      includes_fileOf (urlOf_nonempty slot) (newline_not_in_urlOf slot), names]
  refine ⟨active, isUpstream, ?_, by cases active <;> decide, isManagerSlotActive_fileOf names⟩
  rw [inferActiveSlotOf, found, found, found]
  cases active <;> rfl

def sampleRouteEnvironment (name : String) : Option String :=
  if name = "FRONTEND_DOMAIN" then some "manager.example.com"
  else if name = "TRAEFIK_MANAGER_FRONTEND_UPSTREAM" then
    some "http://traefik-manager-frontend-blue:3000"
  else none

/-- The route file of the blue slot. -/
theorem activeSlot_of_blue : ∃ lines, initTraefikConfig sampleRouteEnvironment = some lines ∧
    inferActiveSlotOf (some (fileOf lines)) = "blue" ∧
    isManagerSlotActive " Blue" (.text (fileOf lines)) = some true := by
  obtain ⟨lines, written⟩ := Option.isSome_iff_exists.mp
    (show (initTraefikConfig sampleRouteEnvironment).isSome = true from rfl)
  obtain ⟨active, isUpstream, inferred, -, isActive⟩ :=
    activeSlot_of_initTraefikConfig sampleRouteEnvironment written
  have isBlue : active = .blue := by
    cases active with
    | blue => rfl
    | _ => exact absurd isUpstream (by decide)
  subst isBlue
  exact ⟨lines, written, inferred, isActive " Blue"⟩

end Agreement

end TraefikManager.Background
