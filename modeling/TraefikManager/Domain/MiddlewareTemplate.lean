import TraefikManager.Domain.Normalizers

/-!
# Middleware templates

A reusable middleware definition that services refer to by identifier. The
stored configuration is always a normalized one of its type.
-/

namespace TraefikManager.Domain

open Foundation

inductive MiddlewareTemplateType where
  | ipAllowList
  | rateLimit
  | basicAuth
  | headers
  deriving DecidableEq, Repr

/-- The parts of a submitted configuration that have the shape a type asks for. -/
structure RawTemplateConfig where
  sourceRange : Option (List String) := none
  average : Option Int := none
  burst : Option Int := none
  users : Option (List String) := none
  customResponseHeaders : Option (Dict String String) := none
  deriving DecidableEq, Repr

/-- A normalized configuration; its constructor is the template's type. -/
inductive TemplateConfig where
  | ipAllowList (sourceRange : List String)
  | rateLimit (average burst : Int)
  | basicAuth (users : List String)
  | headers (customResponseHeaders : Dict String String)
  deriving DecidableEq, Repr

namespace TemplateConfig

def type : TemplateConfig → MiddlewareTemplateType
  | ipAllowList _ => .ipAllowList
  | rateLimit _ _ => .rateLimit
  | basicAuth _ => .basicAuth
  | headers _ => .headers

/-- The configuration as it would be submitted again. -/
def raw : TemplateConfig → RawTemplateConfig
  | ipAllowList sourceRange => { sourceRange := some sourceRange }
  | rateLimit average burst => { average := some average, burst := some burst }
  | basicAuth users => { users := some users }
  | headers customResponseHeaders => { customResponseHeaders := some customResponseHeaders }

end TemplateConfig

/-- One user entry of a basic authentication template. -/
def templateUser (item : String) : Except PyException (Option String) :=
  let value := Text.strip item
  if value = "" ∨ ¬Text.containsChar ':' value ∨ hasLineEnd value then
    .error (.valueError "basicAuth users 형식이 올바르지 않습니다")
  else
    .ok (some value)

/-- `_normalize_config`. -/
def normalizeConfig (type : MiddlewareTemplateType) (raw : RawTemplateConfig) :
    Except PyException TemplateConfig :=
  match type with
  | .ipAllowList =>
      match raw.sourceRange with
      | some (first :: rest) =>
          (collect (fun item => (networkText (Text.strip item)).map some) [] (first :: rest)).map
            .ipAllowList
      | _ => .error (.valueError "ipAllowList 템플릿은 sourceRange 목록이 필요합니다")
  | .rateLimit => do
      let average ← match raw.average with
        | some average => if 0 < average then pure average else
            throw (.valueError "rateLimit 템플릿의 average는 1 이상의 정수여야 합니다")
        | none => throw (.valueError "rateLimit 템플릿의 average는 1 이상의 정수여야 합니다")
      let burst ← match raw.burst with
        | some burst => if 0 < burst then pure burst else
            throw (.valueError "rateLimit 템플릿의 burst는 1 이상의 정수여야 합니다")
        | none => throw (.valueError "rateLimit 템플릿의 burst는 1 이상의 정수여야 합니다")
      pure (.rateLimit average burst)
  | .basicAuth =>
      match raw.users with
      | some (first :: rest) => (collect templateUser [] (first :: rest)).map .basicAuth
      | _ => .error (.valueError "basicAuth 템플릿은 users 목록이 필요합니다")
  | .headers =>
      match raw.customResponseHeaders with
      | some headers =>
          if headers.entries = [] then
            .error (.valueError "headers 템플릿은 customResponseHeaders가 필요합니다")
          else
            match gather customHeader headers.entries with
            | .error failure => .error failure
            | .ok [] => .error (.valueError "headers 템플릿은 최소 1개 이상의 헤더가 필요합니다")
            | .ok entries => .ok (.headers (Dict.ofList entries))
      | none => .error (.valueError "headers 템플릿은 customResponseHeaders가 필요합니다")

structure MiddlewareTemplate where
  id : Uuid
  name : String
  config : TemplateConfig
  deriving DecidableEq, Repr

/-- `_normalize_name`. -/
def normalizeTemplateName (name : String) : Except PyException String :=
  let value := Text.strip name
  if value = "" then .error (.valueError "미들웨어 템플릿 이름은 필수입니다") else .ok value

namespace MiddlewareTemplate

/-- `MiddlewareTemplate.create` with the drawn identifier. -/
def create (name : String) (type : MiddlewareTemplateType) (config : RawTemplateConfig) (id : Uuid) :
    Except PyException MiddlewareTemplate := do
  let name ← normalizeTemplateName name
  let config ← normalizeConfig type config
  pure { id, name, config }

/-- `MiddlewareTemplate.update`: the configuration is normalized again under the
type in force, whether or not it was submitted. -/
def update (template : MiddlewareTemplate) (name : Option String)
    (type : Option MiddlewareTemplateType) (config : Option RawTemplateConfig) :
    Except PyException MiddlewareTemplate := do
  let newName ← match name with
    | some text => normalizeTemplateName text
    | none => pure template.name
  let newConfig ← normalizeConfig (type.getD template.config.type)
    (config.getD template.config.raw)
  pure { template with name := newName, config := newConfig }

/-- The identifier without dashes, cut to eight digits. -/
def shortId (template : MiddlewareTemplate) : String :=
  String.ofList ((hexDigits 32 template.id.bits.toNat).take 8)

/-- The name of the template's middleware in the shared file. -/
def sharedName (template : MiddlewareTemplate) : String := "shared-" ++ template.shortId

end MiddlewareTemplate

end TraefikManager.Domain
