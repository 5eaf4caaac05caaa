import TraefikManager.Cloudflare.Reconcile

/-!
# Diagnosing the drift of the zones

The diagnosis compares the records of every zone with the services of the zone: a record
is missing, or says something else than the payload of its service, or is managed and
belongs to no service. It changes nothing.
-/

namespace TraefikManager.Cloudflare

open Foundation Domain Proxy

section Response

inductive DriftIssue where
  | missing
  | mismatch
  | orphan
  deriving DecidableEq, Repr

structure CloudflareDriftRecordResponse where
  domain : String
  issue : DriftIssue
  detail : String
  expectedType : Option String := none
  expectedContent : Option String := none
  expectedProxied : Option Bool := none
  actualType : Option String := none
  actualContent : Option String := none
  actualProxied : Option Bool := none
  recordId : Option String := none
  deriving DecidableEq, Repr

structure CloudflareDriftZoneResponse where
  zoneName : String
  eligibleServices : Nat
  healthyServices : Nat
  missingRecords : List CloudflareDriftRecordResponse
  mismatchedRecords : List CloudflareDriftRecordResponse
  orphanRecords : List CloudflareDriftRecordResponse
  deriving DecidableEq, Repr

structure CloudflareExcludedServiceResponse where
  domain : String
  reason : String
  deriving DecidableEq, Repr

structure CloudflareDriftCheckResponse where
  success : Bool
  message : String
  detail : Option String
  zoneCount : Nat := 0
  totalServices : Nat := 0
  eligibleServices : Nat := 0
  skippedServices : Nat := 0
  healthyServices : Nat := 0
  zones : List CloudflareDriftZoneResponse := []
  excludedServices : List CloudflareExcludedServiceResponse := []
  missingRecords : List CloudflareDriftRecordResponse := []
  mismatchedRecords : List CloudflareDriftRecordResponse := []
  orphanRecords : List CloudflareDriftRecordResponse := []
  deriving DecidableEq, Repr

structure CloudflareDriftSummary where
  result : CloudflareDriftCheckResponse
  totalServiceCount : Nat := 0
  eligibleServiceCount : Nat := 0
  skippedCount : Nat := 0
  healthyCount : Nat := 0
  zoneCount : Nat := 0
  missingRecords : List CloudflareDriftRecordResponse := []
  mismatchedRecords : List CloudflareDriftRecordResponse := []
  orphanRecords : List CloudflareDriftRecordResponse := []
  zoneResults : List CloudflareDriftZoneResponse := []
  excludedServices : List CloudflareExcludedServiceResponse := []
  deriving DecidableEq, Repr

/-- `build_drift_response`. -/
def buildDriftResponse (summary : CloudflareDriftSummary) : CloudflareDriftCheckResponse :=
  if summary.missingRecords = [] ∧ summary.mismatchedRecords = [] ∧ summary.orphanRecords = [] then
    { success := true
      message := "Cloudflare DNS 드리프트가 없습니다"
      detail := some (Text.join ", "
        (["Cloudflare 관리 대상 서비스 " ++ toString summary.healthyCount ++
            "개가 목표 상태와 일치합니다"] ++
          countedPart "비Cloudflare 도메인 " summary.skippedCount "개는 제외되었습니다"))
      zoneCount := summary.zoneCount
      totalServices := summary.totalServiceCount
      eligibleServices := summary.eligibleServiceCount
      skippedServices := summary.skippedCount
      healthyServices := summary.healthyCount
      zones := summary.zoneResults
      excludedServices := summary.excludedServices }
  else
    { success := false
      message := "Cloudflare DNS 드리프트가 감지되었습니다 (누락 " ++
        toString summary.missingRecords.length ++ "개, 불일치 " ++
        toString summary.mismatchedRecords.length ++ "개, 고아 " ++
        toString summary.orphanRecords.length ++ "개)"
      detail := some (Text.join ", "
        (["정상 " ++ toString summary.healthyCount ++ "개"] ++
          countedPart "비Cloudflare 도메인 " summary.skippedCount "개 제외"))
      zoneCount := summary.zoneCount
      totalServices := summary.totalServiceCount
      eligibleServices := summary.eligibleServiceCount
      skippedServices := summary.skippedCount
      healthyServices := summary.healthyCount
      zones := summary.zoneResults
      excludedServices := summary.excludedServices
      missingRecords := summary.missingRecords
      mismatchedRecords := summary.mismatchedRecords
      orphanRecords := summary.orphanRecords }

/-- `build_empty_services_response`. -/
def buildEmptyServicesResponse (summary : CloudflareDriftSummary) : CloudflareDriftCheckResponse where
  success := true
  message := "진단할 서비스가 없습니다"
  detail := some "등록된 서비스가 없어 Cloudflare DNS 드리프트를 검사하지 않았습니다"
  zoneCount := summary.zoneCount

/-- `build_no_eligible_services_response`. -/
def buildNoEligibleServicesResponse (summary : CloudflareDriftSummary) :
    CloudflareDriftCheckResponse where
  success := true
  message := "Cloudflare DNS 진단 대상이 없습니다"
  detail := some ("현재 서비스 " ++ toString summary.totalServiceCount ++
    "개가 모두 Cloudflare 관리 대상 zone 밖에 있습니다")
  zoneCount := summary.zoneCount
  totalServices := summary.totalServiceCount
  skippedServices := summary.skippedCount
  excludedServices := summary.excludedServices

/-- `build_failure_response`. -/
def buildFailureResponse (summary : CloudflareDriftSummary) (detail : String) :
    CloudflareDriftCheckResponse where
  success := false
  message := "Cloudflare DNS 드리프트 진단에 실패했습니다"
  detail := some detail
  zoneCount := summary.zoneCount
  totalServices := summary.totalServiceCount
  eligibleServices := summary.eligibleServiceCount
  skippedServices := summary.skippedCount
  healthyServices := summary.healthyCount
  zones := summary.zoneResults
  excludedServices := summary.excludedServices

end Response

section Comparison

/-- What the diagnosis finds for one service. -/
inductive ServiceDrift where
  | healthy
  | missing (issue : CloudflareDriftRecordResponse)
  | mismatched (issue : CloudflareDriftRecordResponse)
  deriving DecidableEq, Repr

/-- `build_mismatch_reasons`. -/
def buildMismatchReasons (matching expected : DnsRecordPayload) : List String :=
  (if matching.content = expected.content then []
    else ["content 현재값=" ++ orElse matching.content "-" ++ " 기대값=" ++ expected.content]) ++
  if matching.proxied = expected.proxied then []
  else
    let text (proxied : Bool) := if proxied then "활성" else "비활성"
    ["proxied 현재값=" ++ text matching.proxied ++ " 기대값=" ++ text expected.proxied]

/-- The issue of a record that is not what its service expects. -/
def mismatchOf (expected : DnsRecordPayload) (actual : DnsRecord) (detail : String) :
    CloudflareDriftRecordResponse where
  domain := expected.name
  issue := .mismatch
  detail := detail
  expectedType := some expected.type
  expectedContent := some expected.content
  expectedProxied := some expected.proxied
  actualType := some actual.payload.type
  actualContent := some actual.payload.content
  actualProxied := some actual.payload.proxied
  recordId := some actual.id

/-- The comparison of `collect_service_drift`, once the payload is built. -/
def compareRecords (expected : DnsRecordPayload) (domainRecords : List DnsRecord) : ServiceDrift :=
  match domainRecords with
  | [] =>
      .missing
        { domain := expected.name
          issue := .missing
          detail := "기대하는 DNS 레코드가 존재하지 않습니다"
          expectedType := some expected.type
          expectedContent := some expected.content
          expectedProxied := some expected.proxied }
  | first :: _ =>
      match domainRecords.find? (·.payload.type = expected.type) with
      | none =>
          .mismatched (mismatchOf expected first
            ("기대 타입 " ++ expected.type ++ " 레코드가 없고 현재 다른 타입 레코드가 존재합니다"))
      | some matching =>
          let reasons := buildMismatchReasons matching.payload expected
          if reasons = [] then .healthy
          else .mismatched (mismatchOf expected matching (Text.join ", " reasons))

/-- `group_records_by_name(records).get(domain, [])`. -/
def recordsByName (records : List DnsRecord) (domain : String) : List DnsRecord :=
  records.filter (·.payload.name = domain)

/-- `collect_service_drift`. -/
def collectServiceDrift (config : CloudflareZoneConfig) (records : List DnsRecord)
    (service : Service) : Except PyException ServiceDrift := do
  let expected ← servicePayload config service
  pure (compareRecords expected (recordsByName records service.domain.value))

/-- `collect_orphan_records`. -/
def collectOrphanRecords (records : List DnsRecord) (currentDomains : List String) :
    List CloudflareDriftRecordResponse :=
  (records.filter fun record =>
      record.payload.comment = managedRecordComment ∧ record.payload.name ∉ currentDomains).map
    fun record =>
      { domain := record.payload.name
        issue := .orphan
        detail := "현재 관리 대상 서비스와 연결되지 않은 manager 레코드입니다"
        actualType := some record.payload.type
        actualContent := some record.payload.content
        actualProxied := some record.payload.proxied
        recordId := some record.id }

end Comparison

section Model

namespace CloudflareDriftSummary

/-- Enter what was found for one service. -/
def add (summary : CloudflareDriftSummary) : ServiceDrift → CloudflareDriftSummary
  | .healthy => { summary with healthyCount := summary.healthyCount + 1 }
  | .missing issue => { summary with missingRecords := summary.missingRecords ++ [issue] }
  | .mismatched issue => { summary with mismatchedRecords := summary.mismatchedRecords ++ [issue] }

end CloudflareDriftSummary

/-- The result of one zone. -/
def zoneResult (config : CloudflareZoneConfig) (drifts : List ServiceDrift)
    (orphans : List CloudflareDriftRecordResponse) : CloudflareDriftZoneResponse where
  zoneName := orElse (config.zoneName.getD "") config.zoneId
  eligibleServices := drifts.length
  healthyServices := drifts.countP (· = .healthy)
  missingRecords := drifts.filterMap fun
    | .missing issue => some issue
    | _ => none
  mismatchedRecords := drifts.filterMap fun
    | .mismatched issue => some issue
    | _ => none
  orphanRecords := orphans

variable (api : Api) (configs : List CloudflareZoneConfig)

/-- The loop of `collect_drift_by_zone` over the services of a zone. -/
def collectServices (config : CloudflareZoneConfig) (records : List DnsRecord) :
    List Service → CloudflareProgram CloudflareDriftSummary (List ServiceDrift)
  | [] => pure []
  | service :: services => do
      let drift ← Program.ofExcept (collectServiceDrift config records service)
      setVars (·.add drift)
      let others ← collectServices config records services
      pure (drift :: others)

/-- One round of `collect_drift_by_zone`. -/
def collectDriftOfZone (grouped : List (Service × String)) (config : CloudflareZoneConfig) :
    CloudflareProgram CloudflareDriftSummary PUnit := do
  let zoneServices := servicesOf grouped config.zoneId
  let records ← listRecords api config
  let drifts ← collectServices config records zoneServices
  let orphans := collectOrphanRecords records (zoneServices.map (·.domain.value))
  setVars fun summary => { summary with
    orphanRecords := summary.orphanRecords ++ orphans
    zoneResults := summary.zoneResults ++ [zoneResult config drifts orphans] }

/-- `group_services_by_zone`. -/
def groupServicesByZone (services : List Service) :
    CloudflareProgram CloudflareDriftSummary (List (Service × String)) :=
  groupByZone api configs
    (fun service summary => { summary with
      excludedServices := summary.excludedServices ++
        [⟨service.domain.value, "Cloudflare 관리 대상 zone이 아니므로 진단에서 제외됩니다"⟩] })
    services

/-- The diagnosis, once the services are grouped. -/
def diagnoseGroups (services : List Service) (grouped : List (Service × String)) :
    CloudflareProgram CloudflareDriftSummary PUnit :=
  if services = [] then
    setVars fun summary => { summary with result := buildEmptyServicesResponse summary }
  else if grouped = [] then
    setVars fun summary => { summary with result := buildNoEligibleServicesResponse summary }
  else do
    forM configs (collectDriftOfZone api grouped)
    setVars fun summary => { summary with result := buildDriftResponse summary }

/-- The `try` block of `diagnose_cloudflare_dns_drift_records`. -/
def tryDiagnose : CloudflareProgram CloudflareDriftSummary PUnit := do
  let configs ← ensureZoneNames api configs
  setVars fun summary => { summary with zoneCount := configs.length }
  requireZones configs
  let services ← findAll api
  setVars fun summary => { summary with totalServiceCount := services.length }
  let grouped ← groupServicesByZone api configs services
  setVars fun summary => { summary with
    eligibleServiceCount := grouped.length
    skippedCount := summary.excludedServices.length }
  diagnoseGroups api configs services grouped

/-- `diagnose_cloudflare_dns_drift_records`. -/
def diagnoseCloudflareDnsDriftRecords : CloudflareProgram CloudflareDriftSummary PUnit :=
  if configs = [] then pure ⟨⟩
  else
    tryCatch (tryDiagnose api configs) fun failure =>
      match failure with
      | .cloudflareClientError message =>
          setVars fun summary => { summary with result := buildFailureResponse summary message }
      | other => throw other

/-- The call on stored services and given zones, before its first request. -/
def startDiagnosis (zones : Zones) (services : List Service) : Call CloudflareDriftSummary where
  zones := zones
  stored := services
  vars :=
    { result :=
        { success := false
          message := "Cloudflare DNS 드리프트 진단에 실패했습니다"
          detail := some "Cloudflare 영역 설정을 먼저 저장해야 합니다" } }

end Model

section Rules

variable {api : Api} {configs : List CloudflareZoneConfig}

/-- No issue has been entered. -/
def CloudflareDriftSummary.NoIssues (summary : CloudflareDriftSummary) : Prop :=
  summary.missingRecords = [] ∧ summary.mismatchedRecords = [] ∧ summary.orphanRecords = []

/-- The report says that there is no drift. -/
def CloudflareDriftCheckResponse.Clean (response : CloudflareDriftCheckResponse) : Prop :=
  response.success = true ∧ response.missingRecords = [] ∧ response.mismatchedRecords = [] ∧
    response.orphanRecords = []

private theorem clean_buildDriftResponse (summary : CloudflareDriftSummary) :
    (buildDriftResponse summary).Clean ↔ summary.NoIssues := by
  unfold buildDriftResponse CloudflareDriftCheckResponse.Clean CloudflareDriftSummary.NoIssues
  split
  · rename_i none
    simp [none]
  · rename_i some
    simp only [Bool.false_eq_true, false_and, false_iff]
    exact some

private theorem noIssues_add (summary : CloudflareDriftSummary) (drift : ServiceDrift) :
    (summary.add drift).NoIssues ↔ summary.NoIssues ∧ drift = .healthy := by
  cases drift <;> simp [CloudflareDriftSummary.add, CloudflareDriftSummary.NoIssues]

private theorem servicePayload_error {config : CloudflareZoneConfig} {service : Service}
    {failure : PyException} (failed : servicePayload config service = .error failure) :
    ∃ message, failure = .cloudflareClientError message := by
  unfold servicePayload buildServiceRecordPayload at failed
  generalize Text.strip (orElse (config.recordTarget.getD "") service.upstream.host) = content
    at failed
  simp only at failed
  split at failed
  · exact ⟨_, (Except.error.inj failed).symm⟩
  · exact absurd failed (by simp)

/-- The loop over the services of a zone. It raises only where one of them is not found
healthy. -/
theorem ensures_collectServices (config : CloudflareZoneConfig) (records : List DnsRecord)
    (services : List Service) (call : Call CloudflareDriftSummary) :
    Program.Ensures (collectServices config records services)
      (fun _ next => next.zones = call.zones ∧ (next.vars.NoIssues ↔ call.vars.NoIssues ∧
        ∀ service ∈ services, collectServiceDrift config records service = .ok .healthy))
      (fun failure _ => (∃ message, failure = .cloudflareClientError message) ∧
        ∃ service ∈ services, collectServiceDrift config records service ≠ .ok .healthy)
      call := by
  induction services generalizing call with
  | nil =>
      unfold collectServices
      rw [Program.ensures_pure]
      simp
  | cons service rest ih =>
      unfold collectServices
      simp only [Program.ensures_bind, Program.ensures_ofExcept, ensures_setVars,
        Program.ensures_pure]
      refine ⟨fun drift found => (ih _).mono ?_ ?_, fun failure failed => ?_⟩
      · rintro _ next ⟨sameZones, noIssues⟩
        refine ⟨sameZones, ?_⟩
        rw [noIssues, noIssues_add, List.forall_mem_cons, found, Except.ok.injEq, and_assoc]
      · rintro _ next ⟨known, other, member, unhealthy⟩
        exact ⟨known, other, List.mem_cons_of_mem _ member, unhealthy⟩
      · refine ⟨?_, service, List.mem_cons_self .., by simp [failed]⟩
        cases built : servicePayload config service with
        | ok payload => simp [collectServiceDrift, built] at failed
        | error raised =>
            simp only [collectServiceDrift, built, bind, Except.bind] at failed
            cases failed
            exact servicePayload_error built

/-- What the diagnosis has to find in a zone for a clean report. -/
def NoDrift (configs : List CloudflareZoneConfig) (services : List Service) (zones : Zones)
    (config : CloudflareZoneConfig) : Prop :=
  (∀ service ∈ zoneServices configs services config.zoneId,
    collectServiceDrift config (zones.ofZone config.zoneId) service = .ok .healthy) ∧
  collectOrphanRecords (zones.ofZone config.zoneId)
    (currentDomains configs services config.zoneId) = []

/-- One zone. -/
theorem ensures_collectDriftOfZone (calm : api.Calm) (services : List Service)
    (config : CloudflareZoneConfig) (call : Call CloudflareDriftSummary) :
    Program.Ensures (collectDriftOfZone api (zoneEntries configs services) config)
      (fun _ next => next.zones = call.zones ∧ (next.vars.NoIssues ↔ call.vars.NoIssues ∧
        NoDrift configs services call.zones config))
      (fun failure _ => (∃ message, failure = .cloudflareClientError message) ∧
        ¬NoDrift configs services call.zones config) call := by
  unfold collectDriftOfZone
  simp only [servicesOf_zoneEntries]
  rw [Program.ensures_bind]
  refine ((reads_ask fun zones _ => zones.ofZone config.zoneId).ensures call).mono ?_
    fun _ _ ⟨_, storm⟩ => absurd calm storm
  rintro _ first ⟨same, rfl⟩
  obtain ⟨sameZones, -, sameVars⟩ : first.zones = call.zones ∧ first.stored = call.stored ∧
      first.vars = call.vars := by simpa [Call.contents] using same
  simp only [Program.ensures_bind, ensures_setVars]
  refine (ensures_collectServices config (call.zones.ofZone config.zoneId)
    (zoneServices configs services config.zoneId) first).mono ?_ ?_
  · rintro drifts next ⟨zonesKept, noIssues⟩
    refine ⟨zonesKept.trans sameZones, ?_⟩
    rw [sameVars] at noIssues
    unfold CloudflareDriftSummary.NoIssues at noIssues ⊢
    unfold NoDrift currentDomains
    simp only [List.append_eq_nil_iff]
    tauto
  · rintro _ next ⟨known, service, member, unhealthy⟩
    exact ⟨known, fun noDrift => unhealthy (noDrift.1 service member)⟩

/-- The loop over the zones. -/
theorem ensures_collectDrift (calm : api.Calm) (services : List Service)
    (zones : Zones) (rounds : List CloudflareZoneConfig) (call : Call CloudflareDriftSummary)
    (sameZones : call.zones = zones) :
    Program.Ensures (forM rounds (collectDriftOfZone api (zoneEntries configs services)))
      (fun _ next => next.vars.NoIssues ↔ call.vars.NoIssues ∧
        ∀ config ∈ rounds, NoDrift configs services zones config)
      (fun failure _ => (∃ message, failure = .cloudflareClientError message) ∧
        ∃ config ∈ rounds, ¬NoDrift configs services zones config) call := by
  induction rounds generalizing call with
  | nil =>
      rw [List.forM_nil, Program.ensures_pure]
      simp
  | cons config rest ih =>
      rw [List.forM_cons, Program.ensures_bind]
      refine (ensures_collectDriftOfZone calm services config call).mono ?_ ?_
      · rintro _ next ⟨zonesKept, noIssues⟩
        refine (ih next (zonesKept.trans sameZones)).mono ?_ ?_
        · rintro _ last lastIssues
          rw [lastIssues, noIssues, sameZones, List.forall_mem_cons, and_assoc]
        · rintro _ last ⟨known, other, member, drifts⟩
          exact ⟨known, other, List.mem_cons_of_mem _ member, drifts⟩
      · rintro _ next ⟨known, drifts⟩
        exact ⟨known, config, List.mem_cons_self .., sameZones ▸ drifts⟩

end Rules

section Diagnosis

variable {api : Api}

/-- The report of a diagnosis. -/
def driftReport (api : Api) (configs : List CloudflareZoneConfig) (zones : Zones)
    (services : List Service) : CloudflareDriftCheckResponse :=
  (Program.finalState (diagnoseCloudflareDnsDriftRecords api configs)
    (startDiagnosis zones services)).vars.result

/-- The issues entered so far. -/
def CloudflareDriftSummary.issues (summary : CloudflareDriftSummary) :
    List CloudflareDriftRecordResponse × List CloudflareDriftRecordResponse ×
      List CloudflareDriftRecordResponse :=
  (summary.missingRecords, summary.mismatchedRecords, summary.orphanRecords)

private theorem issues_exclude (service : Service) (summary : CloudflareDriftSummary) :
    ({ summary with excludedServices := summary.excludedServices ++
        [⟨service.domain.value, "Cloudflare 관리 대상 zone이 아니므로 진단에서 제외됩니다"⟩] } :
      CloudflareDriftSummary).issues = summary.issues := rfl

private theorem ensures_diagnoseGroups (calm : api.Calm) (configs : List CloudflareZoneConfig)
    (services : List Service) (call : Call CloudflareDriftSummary)
    (fresh : call.vars.NoIssues) :
    Program.Ensures
      (diagnoseGroups api configs services (zoneEntries configs services))
      (fun _ next => next.vars.result.Clean ↔ zoneEntries configs services = [] ∨
        ∀ config ∈ configs, NoDrift configs services call.zones config)
      (fun failure _ => (∃ message, failure = .cloudflareClientError message) ∧
        ¬(zoneEntries configs services = [] ∨
          ∀ config ∈ configs, NoDrift configs services call.zones config)) call := by
  unfold diagnoseGroups
  split
  · rename_i noServices
    rw [ensures_setVars, noServices]
    exact ⟨fun _ => .inl rfl, fun _ => ⟨rfl, rfl, rfl, rfl⟩⟩
  · split
    · rename_i noEntries
      rw [ensures_setVars]
      exact ⟨fun _ => .inl noEntries, fun _ => ⟨rfl, rfl, rfl, rfl⟩⟩
    · rename_i entries
      rw [Program.ensures_bind]
      refine (ensures_collectDrift calm services call.zones configs call rfl).mono ?_ ?_
      · intro _ next noIssues
        rw [ensures_setVars]
        simp only [clean_buildDriftResponse, noIssues, fresh, true_and, entries, false_or]
      · rintro _ next ⟨known, config, member, drifts⟩
        refine ⟨known, ?_⟩
        rintro (noEntries | noDrift)
        · exact entries noEntries
        · exact drifts (noDrift config member)

/-- When a report is clean: the diagnosis looked into no zone, or found all of them without
drift. -/
theorem driftReport_clean_iff (calm : api.Calm) (configs : List CloudflareZoneConfig)
    (zones : Zones) (services : List Service) :
    (driftReport api configs zones services).Clean ↔ configs ≠ [] ∧
      (zoneEntries (configs.map (named zones.zoneName)) services = [] ∨
        ∀ config ∈ configs.map (named zones.zoneName),
          NoDrift (configs.map (named zones.zoneName)) services zones config) := by
  unfold driftReport
  refine Program.Ensures.finalState (fun next : Call CloudflareDriftSummary =>
    next.vars.result.Clean ↔ _) ?_
  unfold diagnoseCloudflareDnsDriftRecords
  split
  · rename_i noConfigs
    rw [Program.ensures_pure]
    simp [startDiagnosis, CloudflareDriftCheckResponse.Clean, noConfigs]
  · rename_i nonempty
    have someZone : configs.map (named zones.zoneName) ≠ [] := by simpa using nonempty
    simp only [nonempty, not_false_eq_true, ne_eq, true_and]
    rw [Program.ensures_tryCatch]
    unfold tryDiagnose
    rw [Program.ensures_bind]
    refine ((reads_ensureZoneNames configs).ensures (startDiagnosis zones services)).mono ?_
      fun _ _ failed => absurd calm failed.2
    rintro filled first ⟨same, rfl⟩
    obtain ⟨firstZones, firstStored, firstVars⟩ : first.zones = zones ∧ first.stored = services ∧
        first.vars = (startDiagnosis zones services).vars := by
      simpa [Call.contents, startDiagnosis] using same
    rw [show (startDiagnosis zones services).zones = zones from rfl,
      requireZones_of_ne someZone]
    simp only [Program.ensures_bind, ensures_setVars, Program.ensures_pure]
    refine ((reads_ask fun _ stored => stored).ensures _).mono ?_
      fun _ _ failed => absurd calm failed.2
    rintro _ second ⟨same', rfl⟩
    obtain ⟨secondZones, -, secondVars⟩ : second.zones = first.zones ∧
        second.stored = first.stored ∧ second.vars = _ := by simpa [Call.contents] using same'
    have sameZones : second.zones = zones := secondZones.trans firstZones
    have fresh : second.vars.issues = ([], [], []) := by
      rw [secondVars, firstVars]
      rfl
    rw [firstStored]
    unfold groupServicesByZone
    refine (ensures_groupByZone CloudflareDriftSummary.issues issues_exclude services _
      (by rw [sameZones]; exact named_map zones.zoneName configs)).mono ?_
      fun _ _ failed => absurd calm failed.2.2
    rintro _ third ⟨thirdZones, thirdVars, rfl⟩
    have stillFresh : third.vars.NoIssues := by
      have same := thirdVars.trans fresh
      simp only [CloudflareDriftSummary.issues, Prod.mk.injEq] at same
      exact same
    refine (ensures_diagnoseGroups calm (configs.map (named zones.zoneName)) services
      { third with vars := { third.vars with
          eligibleServiceCount := _
          skippedCount := third.vars.excludedServices.length } } stillFresh).mono ?_ ?_
    · intro _ last clean
      rw [clean, thirdZones, sameZones]
    · rintro _ last ⟨⟨message, rfl⟩, drifts⟩
      rw [ensures_setVars]
      rw [thirdZones, sameZones] at drifts
      refine ⟨fun clean => ?_, fun noDrift => absurd noDrift drifts⟩
      simp [buildFailureResponse, CloudflareDriftCheckResponse.Clean] at clean

end Diagnosis

end TraefikManager.Cloudflare
