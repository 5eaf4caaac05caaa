import TraefikManager.Proxy.World

/-!
# Resolving template references

A service refers to its templates by the text of their identifiers. Resolving
fails for text that is no identifier and for identifiers of no stored template.
-/

namespace TraefikManager.Proxy

open Foundation Domain

/-- `_parse_template_ids`. -/
def parseTemplateIds (templateIds : List String) : Except PyException (List Uuid) :=
  templateIds.mapM fun item =>
    match Uuid.parse item with
    | some id => .ok id
    | none => .error (.valueError ("유효하지 않은 미들웨어 템플릿 ID입니다: " ++ item))

/-- The template of each reference, in order. -/
def lookUpTemplates (templates : List MiddlewareTemplate) (templateIds : List String) :
    Except PyException (List MiddlewareTemplate) :=
  templateIds.mapM fun templateId =>
    match templates.find? fun template => template.id.text = templateId with
    | some template => .ok template
    | none => .error (.valueError ("미들웨어 템플릿을 찾을 수 없습니다: " ++ templateId))

/-- `find_many_by_ids`. -/
def templatesOfIds (templates : List MiddlewareTemplate) (ids : List Uuid) :
    List MiddlewareTemplate :=
  templates.filter (·.id ∈ ids)

/-- What a resolution answers on these tables. -/
def resolvedTemplates (database : Database) (templateIds : List String) :
    Except PyException (List MiddlewareTemplate) :=
  if templateIds = [] then .ok []
  else do
    let parsedIds ← parseTemplateIds templateIds
    lookUpTemplates (templatesOfIds database.middlewareTemplates parsedIds) templateIds

/-- `ServiceMiddlewareTemplateResolver.resolve`. -/
def resolve (environment : ProxyEnvironment) (templateIds : List String) :
    ProxyProgram (List MiddlewareTemplate) :=
  if templateIds = [] then pure []
  else do
    let parsedIds ← Program.ofExcept (parseTemplateIds templateIds)
    let templates ← query environment .findTemplatesByIds fun database =>
      templatesOfIds database.middlewareTemplates parsedIds
    Program.ofExcept (lookUpTemplates templates templateIds)

/-- `validate_auth_conflict`. -/
def validateAuthConflict (service : Service) (templates : List MiddlewareTemplate) :
    Except PyException Unit :=
  if service.authEnabled ∧ templates.any (·.config.type = .basicAuth) then
    .error (.valueError "인증 모드와 BasicAuth 미들웨어 템플릿은 동시에 사용할 수 없습니다")
  else
    .ok ()

theorem keeps_resolve (environment : ProxyEnvironment) (templateIds : List String) :
    Program.Keeps onDisk (resolve environment templateIds)
      (fun seen templates => resolvedTemplates seen.2.1 templateIds = .ok templates) := by
  unfold resolve
  refine .ite ?_ ?_
  · rintro rfl
    refine (Program.keeps_pure _).mono ?_
    rintro seen templates rfl
    rfl
  · intro some
    refine (Program.keeps_ofExcept _).bind fun parsedIds => ?_
    refine (keeps_query _ _).bind fun templates => ?_
    refine (Program.keeps_ofExcept _).mono ?_
    intro seen resolved found isTemplates parsed
    rw [isTemplates] at found
    rw [resolvedTemplates, if_neg some, parsed]
    exact found

end TraefikManager.Proxy
