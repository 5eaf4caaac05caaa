import TraefikManager.Cloudflare.Client

/-!
# Reconciling the zones with the services

Every zone gets the records of its services, and loses the managed records whose name
is no domain of them. A service belongs to the zone its domain matches. What goes wrong
for one record is counted, and the rest goes on.
-/

namespace TraefikManager.Cloudflare

open Foundation Domain Proxy

section Response

structure SettingsTestActionResponse where
  success : Bool
  message : String
  detail : Option String
  provider : Option String
  deriving DecidableEq, Repr

structure CloudflareReconcileSummary where
  result : SettingsTestActionResponse
  totalServiceCount : Nat := 0
  eligibleServiceCount : Nat := 0
  skippedCount : Nat := 0
  syncedCount : Nat := 0
  failedCount : Nat := 0
  cleanedCount : Nat := 0
  cleanupFailedCount : Nat := 0
  zoneCount : Nat := 0
  deriving DecidableEq, Repr

/-- The result of a run that stops before its first zone. -/
def reconcileFailed (detail : String) : SettingsTestActionResponse :=
  ⟨false, "Cloudflare DNS 재동기화에 실패했습니다", some detail, none⟩

/-- A part of a message about a number of things, left out when there are none. -/
def countedPart (before : String) (count : Nat) (after : String) : List String :=
  if count = 0 then [] else [before ++ toString count ++ after]

/-- `_build_reconcile_response`. -/
def buildReconcileResponse (summary : CloudflareReconcileSummary) (failureMessages : List String) :
    SettingsTestActionResponse :=
  if summary.totalServiceCount = 0 then
    ⟨true, "재동기화할 서비스가 없습니다",
      some "등록된 서비스가 없어 Cloudflare DNS 재동기화를 수행하지 않았습니다", none⟩
  else if summary.eligibleServiceCount = 0 then
    ⟨true, "Cloudflare DNS 재동기화 대상이 없습니다",
      some ("현재 서비스 " ++ toString summary.totalServiceCount ++
        "개가 모두 Cloudflare 관리 대상 zone 밖에 있습니다"), none⟩
  else if summary.failedCount = 0 ∧ summary.cleanupFailedCount = 0 then
    let detailParts :=
      ["Cloudflare 관리 대상 서비스 " ++ toString summary.syncedCount ++ "개를 동기화했습니다"] ++
        countedPart "고아 레코드 " summary.cleanedCount "개를 정리했습니다" ++
        countedPart "비Cloudflare 도메인 " summary.skippedCount "개는 제외했습니다"
    ⟨true, "Cloudflare DNS 재동기화가 완료되었습니다", some (Text.join ", " detailParts), none⟩
  else
    let failurePreview := Text.join " / " (failureMessages.take 3) ++
      Text.join "" (countedPart " 외 " (failureMessages.length - 3) "건")
    let skippedDetail := countedPart ", 비Cloudflare 도메인 " summary.skippedCount "개 제외"
    let cleanupDetail := countedPart ", 고아 레코드 정리 실패 " summary.cleanupFailedCount "개"
    ⟨false, "Cloudflare DNS 재동기화 중 일부 실패가 발생했습니다 (성공 " ++
      toString summary.syncedCount ++ "개, 실패 " ++ toString summary.failedCount ++ "개" ++
      Text.join "" (cleanupDetail ++ skippedDetail) ++ ")", some failurePreview, none⟩

/-- `str(exc)`. -/
def exceptionText : PyException → String
  | .httpException statusCode detail => toString statusCode ++ ": " ++ detail
  | .valueError message => message
  | .typeError message => message
  | .validationError field => field
  | .multipleResultsFound => "Multiple rows were found when one or none was required"
  | .httpError message => message
  | .cloudflareClientError message => message
  | .databaseError message => message
  | .osError message => message

end Response

section Model

/-- The records that were gone after one record had been cleaned up. Nothing reads it. -/
structure CleanUp where
  listedIn : String
  removed : List DnsRecord

/-- The local variables of a run: the keys the loaded services were given stand beside
the summary and the messages. -/
structure Reconcile where
  summary : CloudflareReconcileSummary
  failureMessages : List String := []
  recordIds : List (Uuid × Option String) := []
  cleanUps : List CleanUp := []

namespace Reconcile

/-- `service.cloudflare_record_id`, which an earlier round may have set. -/
def recordIdOf (reconcile : Reconcile) (service : Service) : Option String :=
  (reconcile.recordIds.lookup service.id).getD service.cloudflareRecordId

def setRecordId (reconcile : Reconcile) (service : Service) (recordId : Option String) :
    Reconcile :=
  { reconcile with recordIds := (service.id, recordId) :: reconcile.recordIds }

def setZoneCount (reconcile : Reconcile) (count : Nat) : Reconcile :=
  { reconcile with summary := { reconcile.summary with zoneCount := count } }

def setTotal (reconcile : Reconcile) (count : Nat) : Reconcile :=
  { reconcile with summary := { reconcile.summary with totalServiceCount := count } }

def setEligible (reconcile : Reconcile) (count : Nat) : Reconcile :=
  { reconcile with summary := { reconcile.summary with eligibleServiceCount := count } }

def setResult (reconcile : Reconcile) (result : SettingsTestActionResponse) : Reconcile :=
  { reconcile with summary := { reconcile.summary with result := result } }

def skip (reconcile : Reconcile) : Reconcile :=
  { reconcile with
    summary := { reconcile.summary with skippedCount := reconcile.summary.skippedCount + 1 } }

def synced (reconcile : Reconcile) : Reconcile :=
  { reconcile with
    summary := { reconcile.summary with syncedCount := reconcile.summary.syncedCount + 1 } }

def failed (reconcile : Reconcile) (message : String) : Reconcile :=
  { reconcile with
    summary := { reconcile.summary with failedCount := reconcile.summary.failedCount + 1 }
    failureMessages := reconcile.failureMessages ++ [message] }

def cleaned (reconcile : Reconcile) : Reconcile :=
  { reconcile with
    summary := { reconcile.summary with cleanedCount := reconcile.summary.cleanedCount + 1 } }

def cleanupFailed (reconcile : Reconcile) (message : String) : Reconcile :=
  { reconcile with
    summary :=
      { reconcile.summary with cleanupFailedCount := reconcile.summary.cleanupFailedCount + 1 }
    failureMessages := reconcile.failureMessages ++ [message] }

def note (reconcile : Reconcile) (cleanUp : CleanUp) : Reconcile :=
  { reconcile with cleanUps := reconcile.cleanUps ++ [cleanUp] }

end Reconcile

variable (api : Api) (configs : List CloudflareZoneConfig)

/-- Keep the key of a service's record, if it is another one. -/
def recordService (service : Service) (recordId : Option String) :
    CloudflareProgram Reconcile PUnit := do
  let call ← get
  if recordId = call.vars.recordIdOf service then pure ⟨⟩
  else do
    setVars (·.setRecordId service recordId)
    save api { service with cloudflareRecordId := recordId }

/-- One round of the loop over the services of a zone. -/
def syncService (service : Service) : CloudflareProgram Reconcile PUnit :=
  tryCatch
    (do
      let recordId ← upsertServiceRecord api configs service.domain.value service.upstream.host
      recordService api service recordId
      setVars Reconcile.synced)
    fun failure =>
      setVars (·.failed (service.domain.value ++ ": " ++ exceptionText failure))

/-- Note which records have gone since `before`. -/
def noteCleanUp (zoneId : String) (before : Zones) : CloudflareProgram Reconcile PUnit :=
  modify fun call => { call with
    vars := call.vars.note ⟨zoneId, before.records.filter (· ∉ call.zones.records)⟩ }

/-- One round of the loop over the orphan records of a zone. -/
def cleanOrphan (zoneId : String) (record : DnsRecord) : CloudflareProgram Reconcile PUnit := do
  let before ← get
  tryCatch
    (do
      deleteServiceRecord api configs record.payload.name (some record.id)
      setVars Reconcile.cleaned)
    fun failure =>
      setVars (·.cleanupFailed (record.payload.name ++ " 정리 실패: " ++ exceptionText failure))
  noteCleanUp zoneId before.zones

/-- The clean-up of a zone. -/
def cleanZone (config : CloudflareZoneConfig) (currentDomains : List String) :
    CloudflareProgram Reconcile PUnit := do
  match ← Program.attempt (listManagedRecords api config) with
  | .error failure =>
      setVars (·.cleanupFailed (orElse (config.zoneName.getD "") config.zoneId ++
        " 관리 레코드 조회 실패: " ++ exceptionText failure))
  | .ok managedRecords =>
      forM (managedRecords.filter (·.payload.name ∉ currentDomains))
        (cleanOrphan api configs config.zoneId)

/-- The services and the key of the zone each belongs to, those without a zone left
out: the entries of `services_by_zone`, in the order they are made. -/
def groupByZone {locals : Type} (noteSkipped : Service → locals → locals) :
    List Service → CloudflareProgram locals (List (Service × String))
  | [] => pure []
  | service :: services => do
      match ← getMatchingZone api configs service.domain.value with
      | none =>
          setVars (noteSkipped service)
          groupByZone noteSkipped services
      | some config =>
          let others ← groupByZone noteSkipped services
          pure ((service, config.zoneId) :: others)

/-- The grouping of `reconcile_cloudflare_dns_records`, which counts what it skips. -/
def groupServices (services : List Service) :
    CloudflareProgram Reconcile (List (Service × String)) :=
  groupByZone api configs (fun _ => Reconcile.skip) services

/-- `services_by_zone.get(zone_id, [])`. -/
def servicesOf (grouped : List (Service × String)) (zoneId : String) : List Service :=
  (grouped.filter (·.2 = zoneId)).map (·.1)

/-- One round of the loop over the zones. -/
def reconcileZone (grouped : List (Service × String)) (config : CloudflareZoneConfig) :
    CloudflareProgram Reconcile PUnit := do
  let zoneServices := servicesOf grouped config.zoneId
  forM zoneServices (syncService api configs)
  if zoneServices = [] then pure ⟨⟩
  else cleanZone api configs config (zoneServices.map (·.domain.value))

/-- A client that knows no zone cannot go on. -/
def requireZones {locals : Type} (configs : List CloudflareZoneConfig) :
    CloudflareProgram locals PUnit :=
  if configs = [] then throw (.cloudflareClientError "Zone 이름을 확인할 수 없습니다")
  else pure ⟨⟩

/-- The loop over the zones and the response. -/
def reconcileZones (services : List Service) : CloudflareProgram Reconcile PUnit := do
  setVars (·.setTotal services.length)
  let grouped ← groupServices api configs services
  setVars (·.setEligible grouped.length)
  forM configs (reconcileZone api configs grouped)
  setVars fun vars => vars.setResult (buildReconcileResponse vars.summary vars.failureMessages)

/-- The `try` block of `reconcile_cloudflare_dns_records`. -/
def tryReconcile : CloudflareProgram Reconcile PUnit := do
  let configs ← ensureZoneNames api configs
  setVars (·.setZoneCount configs.length)
  requireZones configs
  let services ← findAll api
  reconcileZones api configs services

/-- `reconcile_cloudflare_dns_records`. -/
def reconcileCloudflareDnsRecords : CloudflareProgram Reconcile PUnit :=
  if configs = [] then pure ⟨⟩
  else
    tryCatch (tryReconcile api configs) fun failure =>
      match failure with
      | .cloudflareClientError message => setVars (·.setResult (reconcileFailed message))
      | other => throw other

/-- The call on stored services and given zones, before its first request. -/
def startReconcile (zones : Zones) (services : List Service) : Call Reconcile where
  zones := zones
  stored := services
  vars := { summary := { result := reconcileFailed "Cloudflare 영역 설정을 먼저 저장해야 합니다" } }

@[simp] theorem zones_startReconcile (zones : Zones) (services : List Service) :
    (startReconcile zones services).zones = zones := rfl

theorem requireZones_of_ne {locals : Type} {configs : List CloudflareZoneConfig}
    (nonempty : configs ≠ []) :
    (requireZones configs : CloudflareProgram locals PUnit) = pure ⟨⟩ := if_neg nonempty

end Model

section Rules

variable {api : Api} {configs : List CloudflareZoneConfig}

/-- One step of the search for the longest zone name. -/
def pickLongest (best : Option CloudflareZoneConfig) (config : CloudflareZoneConfig) :
    Option CloudflareZoneConfig :=
  match best with
  | none => some config
  | some other =>
      if (other.zoneName.getD "").length < (config.zoneName.getD "").length then some config
      else some other

private theorem pickLongest_eq (best : Option CloudflareZoneConfig)
    (config : CloudflareZoneConfig) :
    pickLongest best config = best ∨ pickLongest best config = some config := by
  unfold pickLongest
  split
  · exact .inr rfl
  · split
    · exact .inr rfl
    · exact .inl rfl

/-- The matching zone is one of the configured ones. -/
theorem findMatchingZone_mem {domain : String} {config : CloudflareZoneConfig}
    (matched : findMatchingZone configs domain = some config) : config ∈ configs := by
  have picked : ∀ (candidates : List CloudflareZoneConfig) (best : Option CloudflareZoneConfig),
      candidates.foldl pickLongest best = some config → best = some config ∨ config ∈ candidates := by
    intro candidates
    induction candidates with
    | nil => exact fun best isBest => .inl isBest
    | cons candidate rest ih =>
        intro best isPicked
        rcases ih _ isPicked with isBest | later
        · rcases pickLongest_eq best candidate with kept | taken
          · exact .inl (kept.symm.trans isBest)
          · exact .inr (List.mem_cons.mpr (.inl (Option.some.inj (isBest.symm.trans taken))))
        · exact .inr (List.mem_cons_of_mem _ later)
  rcases picked (configs.filter (·.matchesDomain domain)) none matched with absurdity | member
  · cases absurdity
  · exact List.mem_of_mem_filter member

/-- The zone a domain belongs to, by its key. -/
def matchingZoneId (configs : List CloudflareZoneConfig) (domain : String) : Option String :=
  (findMatchingZone configs domain).map CloudflareZoneConfig.zoneId

/-- The services of a zone. -/
def zoneServices (configs : List CloudflareZoneConfig) (services : List Service)
    (zoneId : String) : List Service :=
  services.filter fun service => matchingZoneId configs service.domain.value = some zoneId

/-- The domains of a zone's services. -/
def currentDomains (configs : List CloudflareZoneConfig) (services : List Service)
    (zoneId : String) : List String :=
  (zoneServices configs services zoneId).map (·.domain.value)

/-- The orphans of a zone: the managed records whose name is no domain of its services. -/
def orphansOf (configs : List CloudflareZoneConfig) (services : List Service) (zones : Zones)
    (zoneId : String) : List DnsRecord :=
  ((zones.ofZone zoneId).filter (·.payload.comment = managedRecordComment)).filter
    (·.payload.name ∉ currentDomains configs services zoneId)

theorem mem_orphansOf {services : List Service} {zones : Zones} {zoneId : String}
    {record : DnsRecord} :
    record ∈ orphansOf configs services zones zoneId ↔ record ∈ zones.records ∧
      record.zoneId = zoneId ∧ record.payload.comment = managedRecordComment ∧
      record.payload.name ∉ currentDomains configs services zoneId := by
  simp only [orphansOf, Zones.ofZone, List.mem_filter, decide_eq_true_eq]
  tauto

theorem nodup_orphansOf (services : List Service) (zones : Zones) (zoneId : String) :
    (orphansOf configs services zones zoneId).Nodup :=
  ((zones.ids_nodup.of_map.filter _).filter _).filter _

/-- The entries of `services_by_zone`. -/
def zoneEntries (configs : List CloudflareZoneConfig) (services : List Service) :
    List (Service × String) :=
  services.filterMap fun service =>
    (matchingZoneId configs service.domain.value).map fun zoneId => (service, zoneId)

theorem servicesOf_zoneEntries (services : List Service) (zoneId : String) :
    servicesOf (zoneEntries configs services) zoneId = zoneServices configs services zoneId := by
  unfold servicesOf zoneEntries zoneServices
  induction services with
  | nil => rfl
  | cons service rest ih =>
      rw [List.filterMap_cons, List.filter_cons]
      cases matched : matchingZoneId configs service.domain.value with
      | none => simpa using ih
      | some other =>
          by_cases same : other = zoneId
          · simpa [same] using ih
          · simpa [same] using ih

/-- Grouping answers the entries, and changes nothing but what it notes of the skipped
services. -/
theorem ensures_groupByZone {locals γ : Type} {noteSkipped : Service → locals → locals}
    (view : locals → γ) (unseen : ∀ service vars, view (noteSkipped service vars) = view vars)
    (services : List Service) (call : Call locals)
    (areNamed : Named call.zones.zoneName configs) :
    Program.Ensures (groupByZone api configs noteSkipped services)
      (fun grouped next => next.zones = call.zones ∧ view next.vars = view call.vars ∧
        grouped = zoneEntries configs services)
      (fun _ next => next.zones = call.zones ∧ view next.vars = view call.vars ∧ ¬api.Calm)
      call := by
  induction services generalizing call with
  | nil =>
      unfold groupByZone
      rw [Program.ensures_pure]
      exact ⟨rfl, rfl, rfl⟩
  | cons service rest ih =>
      unfold groupByZone
      rw [Program.ensures_bind]
      refine ((reads_getMatchingZone configs service.domain.value).ensures call).mono ?_ ?_
      · rintro zone next ⟨same, isZone⟩
        rw [areNamed] at isZone
        obtain ⟨sameZones, -, sameVars⟩ : next.zones = call.zones ∧ next.stored = call.stored ∧
            next.vars = call.vars := by simpa [Call.contents] using same
        have entries : zoneEntries configs (service :: rest) =
            (zone.map fun config => (service, config.zoneId)).toList ++ zoneEntries configs rest := by
          unfold zoneEntries matchingZoneId
          rw [List.filterMap_cons, ← isZone]
          cases zone <;> rfl
        cases zone with
        | none =>
            simp only [Program.ensures_bind, ensures_setVars]
            refine (ih { next with vars := noteSkipped service next.vars }
              (by rwa [sameZones])).mono ?_ ?_
            · rintro grouped final ⟨zonesKept, viewKept, isGrouped⟩
              refine ⟨zonesKept.trans sameZones, ?_, ?_⟩
              · rw [viewKept, unseen, sameVars]
              · rw [isGrouped, entries]
                rfl
            · rintro _ final ⟨zonesKept, viewKept, storm⟩
              refine ⟨zonesKept.trans sameZones, ?_, storm⟩
              rw [viewKept, unseen, sameVars]
        | some config =>
            simp only [Program.ensures_bind, Program.ensures_pure]
            refine (ih next (by rwa [sameZones])).mono ?_ ?_
            · rintro grouped final ⟨zonesKept, viewKept, isGrouped⟩
              refine ⟨zonesKept.trans sameZones, by rw [viewKept, sameVars], ?_⟩
              rw [isGrouped, entries]
              rfl
            · rintro _ final ⟨zonesKept, viewKept, storm⟩
              exact ⟨zonesKept.trans sameZones, by rw [viewKept, sameVars], storm⟩
      · rintro _ next ⟨same, storm⟩
        obtain ⟨sameZones, -, sameVars⟩ : next.zones = call.zones ∧ next.stored = call.stored ∧
            next.vars = call.vars := by simpa [Call.contents] using same
        exact ⟨sameZones, by rw [sameVars], storm⟩

/-- The counts and the clean-ups that the loop over the services leaves alone. -/
def Reconcile.cleaning (vars : Reconcile) : List CleanUp × Nat × Nat × Nat × Nat :=
  (vars.cleanUps, vars.summary.cleanedCount, vars.summary.cleanupFailedCount,
    vars.summary.totalServiceCount, vars.summary.eligibleServiceCount)

private theorem ensures_recordService (service : Service) (recordId : Option String)
    (call : Call Reconcile) :
    Program.Ensures (recordService api service recordId)
      (fun _ next => next.zones = call.zones ∧ next.vars.cleaning = call.vars.cleaning ∧
        next.vars.summary = call.vars.summary)
      (fun _ next => next.zones = call.zones ∧ next.vars.cleaning = call.vars.cleaning ∧
        ¬api.Calm) call := by
  unfold recordService
  simp only [Program.ensures_bind, Program.ensures_get]
  split
  · rw [Program.ensures_pure]
    exact ⟨rfl, rfl, rfl⟩
  · simp only [Program.ensures_bind, ensures_setVars]
    refine (ensures_save _ _).mono ?_ ?_
    · rintro _ next ⟨zonesKept, varsKept⟩
      rw [varsKept]
      exact ⟨zonesKept, rfl, rfl⟩
    · rintro _ next ⟨zonesKept, varsKept, storm⟩
      rw [varsKept]
      exact ⟨zonesKept, rfl, storm⟩

/-- The payload of a service's record, built for the zone it belongs to. -/
def servicePayload (config : CloudflareZoneConfig) (service : Service) :
    Except PyException DnsRecordPayload :=
  buildServiceRecordPayload service.domain.value service.upstream.host config

/-- One service either gets its record, or the zones stay as they are. Unless a request
raises, the second happens exactly when its payload cannot be built, and is counted. -/
theorem ensures_syncService {service : Service} {config : CloudflareZoneConfig}
    (call : Call Reconcile) (areNamed : Named call.zones.zoneName configs)
    (matched : findMatchingZone configs service.domain.value = some config) :
    Program.Ensures (syncService api configs service)
      (fun _ next => next.vars.cleaning = call.vars.cleaning ∧
        ((∃ payload, servicePayload config service = .ok payload ∧
            next.zones = (call.zones.upserted api config.zoneId payload).2 ∧
            (api.Calm → next.vars.summary.failedCount = call.vars.summary.failedCount)) ∨
          next.zones = call.zones ∧ (api.Calm →
            (∃ failure, servicePayload config service = .error failure) ∧
            next.vars.summary.failedCount = call.vars.summary.failedCount + 1)))
      (fun _ _ => False) call := by
  unfold syncService
  simp only [Program.ensures_tryCatch, Program.ensures_bind, ensures_setVars]
  refine (ensures_upsertServiceRecord service.domain.value service.upstream.host call
    areNamed).mono ?_ ?_
  · rintro recordId next ⟨-, varsKept, upserted⟩
    simp only [matched] at upserted
    obtain ⟨payload, built, -, zonesAfter⟩ := upserted
    refine (ensures_recordService service recordId next).mono ?_ ?_
    · rintro _ final ⟨zonesKept, cleaningKept, summaryKept⟩
      refine ⟨?_, .inl ⟨payload, built, zonesKept.trans zonesAfter, fun _ => ?_⟩⟩
      · rw [varsKept] at cleaningKept
        exact cleaningKept
      · simp [Reconcile.synced, summaryKept, varsKept]
    · rintro failure final ⟨zonesKept, cleaningKept, storm⟩
      refine ⟨?_, .inl ⟨payload, built, zonesKept.trans zonesAfter, fun calm => absurd calm storm⟩⟩
      rw [varsKept] at cleaningKept
      exact cleaningKept
  · rintro failure next ⟨same, unlessStorm⟩
    obtain ⟨sameZones, -, sameVars⟩ : next.zones = call.zones ∧ next.stored = call.stored ∧
        next.vars = call.vars := by simpa [Call.contents] using same
    rw [sameVars]
    refine ⟨rfl, .inr ⟨sameZones, fun calm => ?_⟩⟩
    obtain ⟨other, raised, isMatch, notBuilt⟩ := unlessStorm calm
    rw [matched] at isMatch
    cases isMatch
    exact ⟨⟨raised, notBuilt⟩, rfl⟩

/-- What deleting a record by its key takes away: the zone is looked up by its name. -/
def removal (configs : List CloudflareZoneConfig) (record : DnsRecord) : List DnsRecord :=
  if matchingZoneId configs record.payload.name = some record.zoneId then [record] else []

/-- The zones after deleting a record by its key. -/
def Zones.withoutRemoval (zones : Zones) (configs : List CloudflareZoneConfig)
    (record : DnsRecord) : Zones :=
  if matchingZoneId configs record.payload.name = some record.zoneId then
    zones.remove record.zoneId record.id
  else zones

/-- Removing a key from a zone that does not have it changes nothing. -/
theorem Zones.remove_of_not_mem {zones : Zones} {zoneId id : String}
    (absent : ∀ record ∈ zones.records, record.zoneId = zoneId → record.id ≠ id) :
    zones.remove zoneId id = zones := by
  have same : (zones.remove zoneId id).records = zones.records := by
    refine List.filter_eq_self.mpr fun record member => decide_eq_true ?_
    exact fun ⟨inZone, isRecord⟩ => absent record member inZone isRecord
  cases zones
  simp only [Zones.remove] at same ⊢
  simp only [same]

private theorem Zones.filter_notMem_remove {zones : Zones} {record : DnsRecord}
    (listed : record ∈ zones.records) :
    zones.records.filter (· ∉ (zones.remove record.zoneId record.id).records) = [record] := by
  have onlyRecord : zones.records.filter (· ∉ (zones.remove record.zoneId record.id).records) =
      zones.records.filter (· = record) := by
    refine List.filter_congr fun other member => ?_
    rw [decide_eq_decide, Zones.mem_remove]
    by_cases same : other = record
    · simp [same]
    · have differs : other.id ≠ record.id := fun sameId => same (Zones.eq_of_id member listed sameId)
      simp [member, same, differs]
  rw [onlyRecord, List.filter_eq, zones.ids_nodup.of_map.count, if_pos listed]
  rfl

/-- The clean-up of one record fails, or is counted whether or not it took the record
away. -/
theorem ensures_cleanOrphan {record : DnsRecord} (zoneId : String) (call : Call Reconcile)
    (areNamed : Named call.zones.zoneName configs) (listed : record ∈ call.zones.records) :
    Program.Ensures (cleanOrphan api configs zoneId record)
      (fun _ next =>
        (¬api.Calm ∧ next.zones = call.zones ∧ ∃ message,
          next.vars = (call.vars.cleanupFailed message).note ⟨zoneId, []⟩) ∨
        next.zones = call.zones.withoutRemoval configs record ∧
          next.vars = call.vars.cleaned.note ⟨zoneId, removal configs record⟩)
      (fun _ _ => False) call := by
  have nothingGone : call.zones.records.filter (· ∉ call.zones.records) = [] := by
    rw [List.filter_eq_nil_iff]
    intro other member
    simpa using member
  unfold cleanOrphan noteCleanUp
  simp only [Program.ensures_bind, Program.ensures_get, Program.ensures_tryCatch, ensures_setVars,
    Program.ensures_modify]
  refine (ensures_deleteServiceRecord (call.zones.ids_nonempty record listed) call
    areNamed).mono ?_ ?_
  · rintro _ next ⟨-, varsKept, zonesAfter⟩
    have deleted : next.zones = call.zones.withoutRemoval configs record := by
      rw [zonesAfter]
      unfold Zones.withoutRemoval matchingZoneId
      cases found : findMatchingZone configs record.payload.name with
      | none => simp
      | some config =>
          by_cases same : config.zoneId = record.zoneId
          · simp [same]
          · simp only [Option.map_some, Option.some.injEq, same, ↓reduceIte]
            refine Zones.remove_of_not_mem fun other member inZone isRecord => same ?_
            rw [← inZone, Zones.eq_of_id member listed isRecord]
    refine .inr ⟨deleted, ?_⟩
    rw [deleted, varsKept]
    unfold Zones.withoutRemoval removal
    split
    · rw [Zones.filter_notMem_remove listed]
    · rw [nothingGone]
  · rintro failure next ⟨same, storm⟩
    obtain ⟨sameZones, -, sameVars⟩ : next.zones = call.zones ∧ next.stored = call.stored ∧
        next.vars = call.vars := by simpa [Call.contents] using same
    refine .inl ⟨storm, sameZones,
      record.payload.name ++ " 정리 실패: " ++ exceptionText failure, ?_⟩
    rw [sameZones, sameVars, nothingGone]

end Rules

end TraefikManager.Cloudflare
