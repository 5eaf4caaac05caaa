import TraefikManager.Domain.Service
import TraefikManager.Foundation.Program
import TraefikManager.Foundation.Table
import TraefikManager.Proxy.Remote

/-!
# The zones at Cloudflare and the client that works on them

Cloudflare keeps the records of all zones. It gives every record a key of its own,
writes names in lower case, and compares names without regard to case. A request,
to Cloudflare or to the database, may raise; it then has changed nothing.
-/

namespace TraefikManager.Cloudflare

open Foundation Domain Proxy

section Zones

/-- A record as Cloudflare keeps it. -/
def lowered (payload : DnsRecordPayload) : DnsRecordPayload :=
  { payload with name := Text.lower payload.name }

/-- The records of all zones, and the names of the zones. -/
structure Zones where
  records : List DnsRecord
  zoneName : String → Option String := fun _ => none
  ids_nodup : (records.map DnsRecord.id).Nodup
  ids_nonempty : ∀ record ∈ records, record.id ≠ ""
  names_lower : ∀ record ∈ records, Text.lower record.payload.name = record.payload.name

namespace Zones

variable (zones : Zones)

/-- The records a zone lists. -/
def ofZone (zoneId : String) : List DnsRecord := zones.records.filter (·.zoneId = zoneId)

/-- The records of a zone with a name, and with a type if one is given. -/
def find (zoneId domain : String) (type : Option String) : List DnsRecord :=
  findDnsRecords zones.records zoneId (Text.lower domain) type

/-- A new record, under a key no record has. -/
def create (zoneId id : String) (payload : DnsRecordPayload)
    (fresh : id ∉ zones.records.map DnsRecord.id) (nonempty : id ≠ "") : Zones where
  records := zones.records ++ [{ id, zoneId, payload := lowered payload }]
  zoneName := zones.zoneName
  ids_nodup := by
    rw [List.map_append, List.map_singleton]
    simpa using zones.ids_nodup.concat fresh
  ids_nonempty := by
    intro record member
    rcases List.mem_append.mp member with old | new
    · exact zones.ids_nonempty record old
    · rw [List.mem_singleton.mp new]
      exact nonempty
  names_lower := by
    intro record member
    rcases List.mem_append.mp member with old | new
    · exact zones.names_lower record old
    · rw [List.mem_singleton.mp new]
      exact Text.lower_lower _

/-- The record of a key says something else. -/
def rewritten (zoneId id : String) (payload : DnsRecordPayload) (record : DnsRecord) : DnsRecord :=
  if record.zoneId = zoneId ∧ record.id = id then { record with payload := lowered payload }
  else record

@[simp] theorem id_rewritten {zoneId id : String} {payload : DnsRecordPayload}
    {record : DnsRecord} : (rewritten zoneId id payload record).id = record.id := by
  unfold rewritten
  split <;> rfl

@[simp] theorem zoneId_rewritten {zoneId id : String} {payload : DnsRecordPayload}
    {record : DnsRecord} : (rewritten zoneId id payload record).zoneId = record.zoneId := by
  unfold rewritten
  split <;> rfl

/-- Overwrite the record of a key. -/
def overwrite (zoneId id : String) (payload : DnsRecordPayload) : Zones where
  records := zones.records.map (rewritten zoneId id payload)
  zoneName := zones.zoneName
  ids_nodup := by
    have same : (zones.records.map (rewritten zoneId id payload)).map DnsRecord.id =
        zones.records.map DnsRecord.id := by
      simp [Function.comp_def]
    rw [same]
    exact zones.ids_nodup
  ids_nonempty := by
    intro record member
    obtain ⟨old, inZones, rfl⟩ := List.mem_map.mp member
    rw [id_rewritten]
    exact zones.ids_nonempty old inZones
  names_lower := by
    intro record member
    obtain ⟨old, inZones, rfl⟩ := List.mem_map.mp member
    unfold rewritten
    split
    · exact Text.lower_lower _
    · exact zones.names_lower old inZones

/-- Remove the record of a key from its zone. A zone without it stays as it is. -/
def remove (zoneId id : String) : Zones where
  records := zones.records.filter fun record => ¬(record.zoneId = zoneId ∧ record.id = id)
  zoneName := zones.zoneName
  ids_nodup := zones.ids_nodup.sublist (List.filter_sublist.map _)
  ids_nonempty := fun record member => zones.ids_nonempty record (List.mem_of_mem_filter member)
  names_lower := fun record member => zones.names_lower record (List.mem_of_mem_filter member)

@[simp] theorem mem_remove {zones : Zones} {zoneId id : String} {record : DnsRecord} :
    record ∈ (zones.remove zoneId id).records ↔
      record ∈ zones.records ∧ ¬(record.zoneId = zoneId ∧ record.id = id) := by
  unfold remove
  rw [List.mem_filter, decide_eq_true_eq]

/-- A key names one record. -/
theorem eq_of_id {zones : Zones} {first second : DnsRecord} (inFirst : first ∈ zones.records)
    (inSecond : second ∈ zones.records) (same : first.id = second.id) : first = second :=
  Table.eq_of_key zones.ids_nodup inFirst inSecond same

end Zones

end Zones

section Client

/-- What a call cannot know beforehand: which of its requests raise, counted from its
start, and the keys Cloudflare gives to new records. -/
structure Api where
  fails : Nat → Option PyException
  newId : List DnsRecord → String
  newId_fresh : ∀ records, newId records ∉ records.map DnsRecord.id
  newId_nonempty : ∀ records, newId records ≠ ""

/-- A call in progress: the zones, the rows of the services, how many requests it has
made, and its local variables. -/
structure Call (locals : Type) where
  zones : Zones
  stored : List Service
  requests : Nat := 0
  vars : locals

variable {locals : Type}

abbrev CloudflareProgram (locals : Type) : Type → Type := Program PyException (Call locals)

/-- Change the local variables. -/
def setVars (change : locals → locals) : CloudflareProgram locals PUnit :=
  modify fun call => { call with vars := change call.vars }

/-- Make a request. -/
def request (api : Api) : CloudflareProgram locals PUnit := do
  let call ← get
  set { call with requests := call.requests + 1 }
  match api.fails call.requests with
  | some failure => throw failure
  | none => pure ⟨⟩

/-- A request that answers from what is kept. -/
def ask {α : Type} (api : Api) (answer : Call locals → α) : CloudflareProgram locals α := do
  request api
  let call ← get
  pure (answer call)

/-- A request that changes the zones. -/
def change (api : Api) (effect : Zones → Zones) : CloudflareProgram locals PUnit := do
  request api
  modify fun call => { call with zones := effect call.zones }

/-- What `fetch_zone_name` makes of the name it is told. -/
def normalizedZoneName (zoneName : Option String) : Option String :=
  (zoneName.map Text.strip).bind fun name => if name = "" then none else some (Text.lower name)

/-- `fetch_zone_name`. -/
def fetchZoneName (api : Api) (config : CloudflareZoneConfig) :
    CloudflareProgram locals CloudflareZoneConfig := do
  let zoneName ← ask api fun call => call.zones.zoneName config.zoneId
  pure { config with zoneName := normalizedZoneName zoneName }

/-- One round of `ensure_zone_names`. -/
def ensureZoneName (api : Api) (config : CloudflareZoneConfig) :
    CloudflareProgram locals CloudflareZoneConfig :=
  if config.zoneName.getD "" = "" then fetchZoneName api config else pure config

/-- `ensure_zone_names`. The configurations it returns are the ones it was given, with
their names filled in. -/
def ensureZoneNames (api : Api) :
    List CloudflareZoneConfig → CloudflareProgram locals (List CloudflareZoneConfig)
  | [] => pure []
  | config :: configs => do
      let named ← ensureZoneName api config
      let others ← ensureZoneNames api configs
      pure (named :: others)

/-- `get_matching_zone`. -/
def getMatchingZone (api : Api) (configs : List CloudflareZoneConfig) (domain : String) :
    CloudflareProgram locals (Option CloudflareZoneConfig) := do
  let named ← ensureZoneNames api configs
  pure (findMatchingZone named domain)

/-- `upsert_service_dns_record`. -/
def upsertServiceDnsRecord (api : Api) (zoneId : String) (payload : DnsRecordPayload) :
    CloudflareProgram locals String := do
  let existing ← ask api fun call => call.zones.find zoneId payload.name (some payload.type)
  match existing.head? with
  | some record =>
      if record.payload.sameRecord payload then pure record.id
      else do
        change api (·.overwrite zoneId record.id payload)
        pure record.id
  | none => do
      request api
      let call ← get
      let id := api.newId call.zones.records
      set { call with
        zones := call.zones.create zoneId id payload (api.newId_fresh _) (api.newId_nonempty _) }
      pure id

/-- `CloudflareClient.upsert_service_record`. -/
def upsertServiceRecord (api : Api) (configs : List CloudflareZoneConfig)
    (domain fallbackTarget : String) : CloudflareProgram locals (Option String) := do
  match ← getMatchingZone api configs domain with
  | none => pure none
  | some config =>
      let payload ← Program.ofExcept (buildServiceRecordPayload domain fallbackTarget config)
      let recordId ← upsertServiceDnsRecord api config.zoneId payload
      pure (some recordId)

/-- The keys `delete_service_dns_record` goes through. -/
def targetIds (api : Api) (zoneId domain : String) (recordId : Option String) :
    CloudflareProgram locals (List String) :=
  match orText recordId none with
  | some id => pure [id]
  | none => ask api fun call => (call.zones.find zoneId domain none).map DnsRecord.id

/-- `delete_service_dns_record`. Cloudflare answers 404 for a key the zone does not
have, which the client takes for a success. -/
def deleteServiceDnsRecord (api : Api) (zoneId domain : String) (recordId : Option String) :
    CloudflareProgram locals PUnit := do
  let ids ← targetIds api zoneId domain recordId
  forM ids fun id => change api (·.remove zoneId id)

/-- `CloudflareClient.delete_service_record`. -/
def deleteServiceRecord (api : Api) (configs : List CloudflareZoneConfig) (domain : String)
    (recordId : Option String) : CloudflareProgram locals PUnit := do
  match ← getMatchingZone api configs domain with
  | none => pure ⟨⟩
  | some config => deleteServiceDnsRecord api config.zoneId domain recordId

/-- `list_dns_records`: the pages together. -/
def listRecords (api : Api) (config : CloudflareZoneConfig) :
    CloudflareProgram locals (List DnsRecord) :=
  ask api fun call => call.zones.ofZone config.zoneId

/-- `list_managed_dns_records`. -/
def listManagedRecords (api : Api) (config : CloudflareZoneConfig) :
    CloudflareProgram locals (List DnsRecord) := do
  let records ← listRecords api config
  pure (records.filter (·.payload.comment = managedRecordComment))

/-- `SQLiteServiceRepository.find_all`. -/
def findAll (api : Api) : CloudflareProgram locals (List Service) := ask api Call.stored

/-- `SQLiteServiceRepository.save`. -/
def save (api : Api) (service : Service) : CloudflareProgram locals PUnit := do
  request api
  modify fun call => { call with stored := Table.save Service.id call.stored service }

end Client

section Rules

variable {locals α β : Type} {api : Api}

/-- No request raises. -/
def Api.Calm (api : Api) : Prop := ∀ count, api.fails count = none

private theorem Api.not_calm {count : Nat} {failure : PyException}
    (raised : api.fails count = some failure) : ¬api.Calm := by
  intro calm
  rw [calm] at raised
  cases raised

/-- Everything a call works on, but not how many requests it has made. -/
def Call.contents (call : Call locals) : Zones × List Service × locals :=
  (call.zones, call.stored, call.vars)

@[simp] theorem ensures_setVars {change : locals → locals}
    {normal : PUnit → Call locals → Prop} {raised : PyException → Call locals → Prop} :
    Program.Ensures (setVars change) normal raised =
      fun call => normal ⟨⟩ { call with vars := change call.vars } := by
  unfold setVars
  exact Program.ensures_modify

@[simp] theorem ensures_request {normal : PUnit → Call locals → Prop}
    {raised : PyException → Call locals → Prop} :
    Program.Ensures (request api) normal raised = fun call =>
      (api.fails call.requests = none → normal ⟨⟩ { call with requests := call.requests + 1 }) ∧
        ∀ failure, api.fails call.requests = some failure →
          raised failure { call with requests := call.requests + 1 } := by
  funext call
  unfold request
  cases answer : api.fails call.requests <;> simp [answer]

/-- A program that only asks: whether it returns or raises, it has changed nothing, and
it raises only where a request does. -/
structure Reads (api : Api) (program : CloudflareProgram locals α)
    (answer : Zones → List Service → α) : Prop where
  ensures : ∀ call : Call locals, Program.Ensures program
    (fun value next => next.contents = call.contents ∧ value = answer call.zones call.stored)
    (fun _ next => next.contents = call.contents ∧ ¬api.Calm) call

private theorem reads_pure (value : α) :
    Reads api (pure value : CloudflareProgram locals α) (fun _ _ => value) :=
  ⟨fun _ => by simp⟩

theorem Reads.bind {program : CloudflareProgram locals β} {answer : Zones → List Service → β}
    {rest : β → CloudflareProgram locals α} {last : β → Zones → List Service → α}
    (first : Reads api program answer) (later : ∀ value, Reads api (rest value) (last value)) :
    Reads api (program >>= rest) (fun zones stored => last (answer zones stored) zones stored) := by
  constructor
  intro call
  rw [Program.ensures_bind]
  refine (first.ensures call).mono ?_ (fun _ _ raised => raised)
  rintro value next ⟨same, isAnswer⟩
  obtain ⟨sameZones, sameStored, -⟩ : next.zones = call.zones ∧ next.stored = call.stored ∧
      next.vars = call.vars := by simpa [Call.contents] using same
  refine ((later value).ensures next).mono ?_ ?_
  · rintro result final ⟨same', isLast⟩
    rw [sameZones, sameStored, isAnswer] at isLast
    exact ⟨same'.trans same, isLast⟩
  · rintro _ final ⟨same', storm⟩
    exact ⟨same'.trans same, storm⟩

theorem reads_ask (answer : Zones → List Service → α) :
    Reads api (ask api fun call : Call locals => answer call.zones call.stored) answer := by
  constructor
  intro call
  unfold ask
  simp only [Program.ensures_bind, ensures_request, Program.ensures_get, Program.ensures_pure]
  exact ⟨fun _ => ⟨rfl, trivial⟩, fun failure raised => ⟨rfl, Api.not_calm raised⟩⟩

/-- The configuration with its name filled in. -/
def named (zoneName : String → Option String) (config : CloudflareZoneConfig) :
    CloudflareZoneConfig :=
  if config.zoneName.getD "" = "" then
    { config with zoneName := normalizedZoneName (zoneName config.zoneId) }
  else config

private theorem named_named (zoneName : String → Option String) (config : CloudflareZoneConfig) :
    named zoneName (named zoneName config) = named zoneName config := by
  unfold named
  by_cases missing : config.zoneName.getD "" = ""
  · simp [missing]
  · simp [missing]

private theorem reads_ensureZoneName (config : CloudflareZoneConfig) :
    Reads api (ensureZoneName api config : CloudflareProgram locals CloudflareZoneConfig)
      (fun zones _ => named zones.zoneName config) := by
  unfold ensureZoneName named
  split
  · unfold fetchZoneName
    exact (reads_ask fun zones _ => zones.zoneName config.zoneId).bind fun zoneName =>
      reads_pure { config with zoneName := normalizedZoneName zoneName }
  · exact reads_pure config

theorem reads_ensureZoneNames (configs : List CloudflareZoneConfig) :
    Reads api (ensureZoneNames api configs : CloudflareProgram locals (List CloudflareZoneConfig))
      (fun zones _ => configs.map (named zones.zoneName)) := by
  induction configs with
  | nil => exact reads_pure []
  | cons config rest ih =>
      exact (reads_ensureZoneName config).bind fun first =>
        ih.bind fun others => reads_pure (first :: others)

/-- All names that can be had are filled in. -/
def Named (zoneName : String → Option String) (configs : List CloudflareZoneConfig) : Prop :=
  configs.map (named zoneName) = configs

theorem named_map (zoneName : String → Option String) (configs : List CloudflareZoneConfig) :
    Named zoneName (configs.map (named zoneName)) := by
  unfold Named
  rw [List.map_map]
  exact List.map_congr_left fun config _ => named_named zoneName config

theorem reads_getMatchingZone (configs : List CloudflareZoneConfig) (domain : String) :
    Reads api (getMatchingZone api configs domain : CloudflareProgram locals _)
      (fun zones _ => findMatchingZone (configs.map (named zones.zoneName)) domain) := by
  unfold getMatchingZone
  exact (reads_ensureZoneNames configs).bind fun configs =>
    reads_pure (findMatchingZone configs domain)

theorem reads_listManagedRecords (config : CloudflareZoneConfig) :
    Reads api (listManagedRecords api config : CloudflareProgram locals (List DnsRecord))
      (fun zones _ =>
        (zones.ofZone config.zoneId).filter (·.payload.comment = managedRecordComment)) := by
  unfold listManagedRecords listRecords
  exact (reads_ask fun zones _ => zones.ofZone config.zoneId).bind fun records =>
    reads_pure (records.filter (·.payload.comment = managedRecordComment))

/-- The key of the record and the zones after `upsert_service_dns_record`. -/
def Zones.upserted (zones : Zones) (api : Api) (zoneId : String) (payload : DnsRecordPayload) :
    String × Zones :=
  match (zones.find zoneId payload.name (some payload.type)).head? with
  | some record =>
      if record.payload.sameRecord payload then (record.id, zones)
      else (record.id, zones.overwrite zoneId record.id payload)
  | none =>
      (api.newId zones.records,
        zones.create zoneId (api.newId zones.records) payload (api.newId_fresh _)
          (api.newId_nonempty _))

@[simp] theorem Zones.zoneName_upserted (zones : Zones) (zoneId : String)
    (payload : DnsRecordPayload) :
    (zones.upserted api zoneId payload).2.zoneName = zones.zoneName := by
  unfold Zones.upserted
  split
  · split <;> rfl
  · rfl

private theorem ensures_upsertServiceDnsRecord (zoneId : String) (payload : DnsRecordPayload)
    (call : Call locals) :
    Program.Ensures (upsertServiceDnsRecord api zoneId payload)
      (fun id next => next.stored = call.stored ∧ next.vars = call.vars ∧
        (id, next.zones) = call.zones.upserted api zoneId payload)
      (fun _ next => next.contents = call.contents ∧ ¬api.Calm) call := by
  unfold upsertServiceDnsRecord Zones.upserted ask change
  simp only [Program.ensures_bind, ensures_request, Program.ensures_get, Program.ensures_pure]
  refine ⟨fun _ => ?_, fun failure raised => ⟨rfl, Api.not_calm raised⟩⟩
  split
  · split
    · simp
    · simp only [Program.ensures_bind, ensures_request, Program.ensures_modify,
        Program.ensures_pure]
      exact ⟨fun _ => ⟨trivial, trivial, trivial⟩, fun failure raised => ⟨rfl, Api.not_calm raised⟩⟩
  · simp only [Program.ensures_bind, ensures_request, Program.ensures_get, Program.ensures_set,
      Program.ensures_pure]
    exact ⟨fun _ => ⟨trivial, trivial, trivial⟩, fun failure raised => ⟨rfl, Api.not_calm raised⟩⟩

/-- What `upsert_service_record` does once the zones have their names. -/
theorem ensures_upsertServiceRecord {configs : List CloudflareZoneConfig}
    (domain fallbackTarget : String) (call : Call locals)
    (areNamed : Named call.zones.zoneName configs) :
    Program.Ensures (upsertServiceRecord api configs domain fallbackTarget)
      (fun id next => next.stored = call.stored ∧ next.vars = call.vars ∧
        match findMatchingZone configs domain with
        | none => id = none ∧ next.zones = call.zones
        | some config =>
            ∃ payload, buildServiceRecordPayload domain fallbackTarget config = .ok payload ∧
              id = some (call.zones.upserted api config.zoneId payload).1 ∧
              next.zones = (call.zones.upserted api config.zoneId payload).2)
      (fun _ next => next.contents = call.contents ∧
        (api.Calm → ∃ config failure, findMatchingZone configs domain = some config ∧
          buildServiceRecordPayload domain fallbackTarget config = .error failure)) call := by
  unfold upsertServiceRecord
  rw [Program.ensures_bind]
  refine ((reads_getMatchingZone configs domain).ensures call).mono ?_ ?_
  · rintro zone next ⟨same, isZone⟩
    rw [areNamed] at isZone
    obtain ⟨sameZones, sameStored, sameVars⟩ : next.zones = call.zones ∧
        next.stored = call.stored ∧ next.vars = call.vars := by simpa [Call.contents] using same
    rw [← isZone, ← sameZones, ← sameStored, ← sameVars, ← same]
    cases zone with
    | none => simp
    | some config =>
        simp only [Program.ensures_bind, Program.ensures_ofExcept, Program.ensures_pure]
        refine ⟨fun payload built => ?_,
          fun failure failed => ⟨trivial, fun _ => ⟨config, failure, rfl, failed⟩⟩⟩
        refine (ensures_upsertServiceDnsRecord config.zoneId payload next).mono ?_ ?_
        · rintro id final ⟨stored, vars, upserted⟩
          exact ⟨stored, vars, payload, built, congrArg (some ·.1) upserted, congrArg (·.2) upserted⟩
        · exact fun _ final ⟨kept, storm⟩ => ⟨kept, fun calm => absurd calm storm⟩
  · exact fun _ next ⟨same, storm⟩ => ⟨same, fun calm => absurd calm storm⟩

/-- What `delete_service_record` does to a record whose key is known. -/
theorem ensures_deleteServiceRecord {configs : List CloudflareZoneConfig} {domain id : String}
    (nonempty : id ≠ "") (call : Call locals) (areNamed : Named call.zones.zoneName configs) :
    Program.Ensures (deleteServiceRecord api configs domain (some id))
      (fun _ next => next.stored = call.stored ∧ next.vars = call.vars ∧
        next.zones = match findMatchingZone configs domain with
          | none => call.zones
          | some config => call.zones.remove config.zoneId id)
      (fun _ next => next.contents = call.contents ∧ ¬api.Calm) call := by
  unfold deleteServiceRecord
  rw [Program.ensures_bind]
  refine ((reads_getMatchingZone configs domain).ensures call).mono ?_ (fun _ _ raised => raised)
  rintro zone next ⟨same, isZone⟩
  rw [areNamed] at isZone
  obtain ⟨sameZones, sameStored, sameVars⟩ : next.zones = call.zones ∧
      next.stored = call.stored ∧ next.vars = call.vars := by simpa [Call.contents] using same
  rw [← isZone, ← sameZones, ← sameStored, ← sameVars, ← same]
  cases zone with
  | none => simp
  | some config =>
      have target : orText (some id) none = some id := by simp [orText, nonempty]
      unfold deleteServiceDnsRecord targetIds
      simp only [target, pure_bind, List.forM_cons, List.forM_nil, Program.ensures_bind, change,
        ensures_request, Program.ensures_modify, Program.ensures_pure]
      exact ⟨fun _ => ⟨trivial, trivial, trivial⟩, fun failure raised => ⟨rfl, Api.not_calm raised⟩⟩

/-- Saving a service changes the rows only. -/
theorem ensures_save (service : Service) (call : Call locals) :
    Program.Ensures (save api service)
      (fun _ next => next.zones = call.zones ∧ next.vars = call.vars)
      (fun _ next => next.zones = call.zones ∧ next.vars = call.vars ∧ ¬api.Calm) call := by
  unfold save
  simp only [Program.ensures_bind, ensures_request, Program.ensures_modify]
  exact ⟨fun _ => ⟨trivial, trivial⟩,
    fun failure raised => ⟨trivial, trivial, Api.not_calm raised⟩⟩

end Rules

end TraefikManager.Cloudflare
