import TraefikManager.Proxy.ServiceUseCases

/-!
# Use cases of middleware templates

Changing a template rewrites the files of the services that refer to it; a template
some service refers to is not deleted.
-/

namespace TraefikManager.Proxy

open Foundation Domain Traefik

variable (environment : ProxyEnvironment)

/-- `MiddlewareTemplateCreate`. -/
structure MiddlewareTemplateCreate where
  name : String
  type : MiddlewareTemplateType
  config : RawTemplateConfig

/-- The submitted fields of `MiddlewareTemplateUpdate`. -/
structure MiddlewareTemplateUpdate where
  name : Option String := none
  type : Option MiddlewareTemplateType := none
  config : Option RawTemplateConfig := none

/-- `find_by_id`. -/
def findTemplateById (templateId : Uuid) : ProxyProgram (Option MiddlewareTemplate) :=
  query environment .findTemplateById fun database =>
    Table.find MiddlewareTemplate.id database.middlewareTemplates templateId

/-- `save`. -/
def saveTemplate (template : MiddlewareTemplate) : ProxyProgram PUnit :=
  write environment .saveTemplate fun database =>
    { database with
      middlewareTemplates := Table.save MiddlewareTemplate.id database.middlewareTemplates template }

/-- `delete`. -/
def deleteTemplateRow (templateId : Uuid) : ProxyProgram PUnit :=
  write environment .deleteTemplateRow fun database =>
    { database with
      middlewareTemplates :=
        Table.delete MiddlewareTemplate.id database.middlewareTemplates templateId }

/-- `_find_services_using_template`. -/
def findServicesUsingTemplate (templateId : Uuid) : ProxyProgram (List Service) :=
  query environment .findAllServices fun database =>
    database.services.filter (templateId.text ∈ ·.middlewareTemplateIds)

/-- `_validate_auth_conflicts`. -/
def validateAuthConflicts (template : MiddlewareTemplate) (services : List Service) :
    Except PyException Unit :=
  let conflicted := (services.filter (·.authEnabled)).map (·.name)
  if template.config.type = .basicAuth ∧ conflicted ≠ [] then
    let joined := Text.join ", " (conflicted.take 3)
    let listed :=
      if 3 < conflicted.length then joined ++ " 외 " ++ toString (conflicted.length - 3) ++ "개"
      else joined
    .error (.valueError
      ("인증 모드를 쓰는 서비스에는 BasicAuth 템플릿을 적용할 수 없습니다: " ++ listed))
  else
    .ok ()

/-- `_resolve_templates`: references to no stored template are passed over. -/
def resolveKnownTemplates (templateIds : List String) : ProxyProgram (List MiddlewareTemplate) :=
  if templateIds = [] then pure []
  else do
    let parsedIds ← Program.ofExcept (templateIds.mapM fun item =>
      match Uuid.parse item with
      | some id => .ok id
      | none => .error (.valueError "badly formed hexadecimal UUID string"))
    let templates ← query environment .findTemplatesByIds fun database =>
      templatesOfIds database.middlewareTemplates parsedIds
    pure (templateIds.filterMap fun templateId => templates.find? (·.id.text = templateId))

/-- `_rewrite_services`, from a round of the loop on. -/
def rewriteServices : Nat → List Service → ProxyProgram PUnit
  | _, [] => pure ⟨⟩
  | round, service :: rest => do
      let during := environment.inRound .rewriteServices round
      let templates ← resolveKnownTemplates during service.middlewareTemplateIds
      writeServiceFile during service templates
      rewriteServices (round + 1) rest

/-- `create_template`. -/
def createTemplate (data : MiddlewareTemplateCreate) : ProxyProgram MiddlewareTemplate := do
  let template ← Program.ofExcept
    (MiddlewareTemplate.create data.name data.type data.config environment.newId)
  saveTemplate environment template
  syncSharedMiddlewareTemplates environment
  pure template

/-- `update_template`. -/
def updateTemplate (templateId : Uuid) (data : MiddlewareTemplateUpdate) :
    ProxyProgram (Option MiddlewareTemplate) := do
  match ← findTemplateById environment templateId with
  | none => pure none
  | some template =>
      let updated ← Program.ofExcept (template.update data.name data.type data.config)
      let affected ← findServicesUsingTemplate environment templateId
      Program.ofExcept (validateAuthConflicts updated affected)
      saveTemplate environment updated
      syncSharedMiddlewareTemplates environment
      rewriteServices environment 0 affected
      pure (some updated)

/-- `delete_template`. -/
def deleteTemplate (templateId : Uuid) : ProxyProgram PUnit := do
  let services ← findServicesUsingTemplate environment templateId
  if services ≠ [] then
    throw (.valueError "해당 템플릿을 사용하는 서비스가 있어 삭제할 수 없습니다")
  deleteTemplateRow environment templateId
  syncSharedMiddlewareTemplates environment

end TraefikManager.Proxy
