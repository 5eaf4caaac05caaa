import TraefikManager.Cloudflare.CleanUp
import TraefikManager.Cloudflare.Drift

/-!
# When a reconcile run leaves no drift

A run without failures works on the records of a zone name by name: it settles the
records under the domain of a service, removes the managed ones under some of the other
names, and leaves the rest alone. What the diagnosis asks for can be read off that.
-/

namespace TraefikManager.Cloudflare

open Foundation Domain Proxy

section Settle

/-- Have the first record of a type say what the payload does, or append the payload. A
record that says it already is kept, whatever its comment. -/
def settle (payload : DnsRecordPayload) : List DnsRecordPayload → List DnsRecordPayload
  | [] => [payload]
  | first :: rest =>
      if first.type = payload.type then
        (if first.sameRecord payload then first else payload) :: rest
      else first :: settle payload rest

/-- What the diagnosis compares. -/
def SaysSame (record payload : DnsRecordPayload) : Prop :=
  record.content = payload.content ∧ record.proxied = payload.proxied

private theorem sameRecord_iff {first second : DnsRecordPayload} :
    first.sameRecord second = true ↔ first.type = second.type ∧ first.name = second.name ∧
      first.content = second.content ∧ first.ttl = second.ttl ∧ first.proxied = second.proxied := by
  unfold DnsRecordPayload.sameRecord
  rw [decide_eq_true_eq]

private theorem sameRecord_self (payload : DnsRecordPayload) : payload.sameRecord payload = true :=
  sameRecord_iff.mpr ⟨rfl, rfl, rfl, rfl, rfl⟩

private theorem settle_settle (payload : DnsRecordPayload) (records : List DnsRecordPayload) :
    settle payload (settle payload records) = settle payload records := by
  induction records with
  | nil => simp [settle, sameRecord_self]
  | cons first rest ih =>
      by_cases isType : first.type = payload.type
      · by_cases same : first.sameRecord payload = true
        · simp [settle, isType, same]
        · simp [settle, isType, same, sameRecord_self]
      · simp [settle, isType, ih]

/-- The first record of the payload's type says what the payload does. -/
theorem find_settle_same (payload : DnsRecordPayload) (records : List DnsRecordPayload) :
    ∃ record, (settle payload records).find? (·.type = payload.type) = some record ∧
      SaysSame record payload := by
  induction records with
  | nil => exact ⟨payload, by simp [settle], rfl, rfl⟩
  | cons first rest ih =>
      by_cases isType : first.type = payload.type
      · by_cases same : first.sameRecord payload = true
        · obtain ⟨-, -, content, -, proxied⟩ := sameRecord_iff.mp same
          exact ⟨first, by simp [settle, isType, same], content, proxied⟩
        · exact ⟨payload, by simp [settle, isType, same], rfl, rfl⟩
      · simpa [settle, isType] using ih

/-- The records of the other types stay. -/
theorem find_settle_other {payload : DnsRecordPayload} {type : String}
    (other : type ≠ payload.type) (records : List DnsRecordPayload) :
    (settle payload records).find? (·.type = type) = records.find? (·.type = type) := by
  induction records with
  | nil => simp [settle, other.symm]
  | cons first rest ih =>
      by_cases isType : first.type = payload.type
      · have notType : first.type ≠ type := isType ▸ other.symm
        by_cases same : first.sameRecord payload = true
        · simp [settle, isType, same]
        · simp [settle, isType, same, other.symm]
      · by_cases here : first.type = type
        · simp [settle, here, other]
        · simp [settle, isType, here, ih]

/-- A managed record that gives a name its address. -/
def IsManagedAddress (payload : DnsRecordPayload) : Prop :=
  payload.comment = managedRecordComment ∧ payload.type ∈ ["A", "AAAA", "CNAME"]

instance : DecidablePred IsManagedAddress := fun payload =>
  inferInstanceAs (Decidable (payload.comment = managedRecordComment ∧ _))

/-- The payload would be the only managed address record after settling: it has to come
to stand for the first record of its type and for no other. Where that record says the
same and is not managed, it stays, and the payload has to be there as well. -/
def SettlesAlone (payload : DnsRecordPayload) (records : List DnsRecordPayload) : Prop :=
  let others := (records.eraseP (·.type = payload.type)).filter IsManagedAddress
  match records.find? (·.type = payload.type) with
  | none => others = []
  | some first =>
      if first.sameRecord payload ∧ first.comment ≠ managedRecordComment then others = [payload]
      else others = []

private theorem filter_settle {payload : DnsRecordPayload} (isAddress : IsManagedAddress payload)
    (records : List DnsRecordPayload) :
    (settle payload records).filter IsManagedAddress = [payload] ↔
      SettlesAlone payload records := by
  induction records with
  | nil => simp [settle, SettlesAlone, isAddress]
  | cons first rest ih =>
      by_cases isType : first.type = payload.type
      · have others : (first :: rest).eraseP (·.type = payload.type) = rest := by simp [isType]
        have found : (first :: rest).find? (·.type = payload.type) = some first := by simp [isType]
        unfold SettlesAlone
        rw [others, found]
        by_cases same : first.sameRecord payload = true
        · by_cases managed : first.comment = managedRecordComment
          · have isPayload : first = payload := by
              obtain ⟨type, name, content, ttl, proxied⟩ := sameRecord_iff.mp same
              have comment := managed.trans isAddress.1.symm
              cases first
              cases payload
              simp_all
            simp [settle, isPayload, sameRecord_self, isAddress, isAddress.1]
          · have notAddress : ¬IsManagedAddress first := fun address => managed address.1
            simp [settle, isType, same, managed, notAddress]
        · simp [settle, isType, same, isAddress]
      · have others : (first :: rest).eraseP (·.type = payload.type) =
            first :: rest.eraseP (·.type = payload.type) := by simp [isType]
        have found : (first :: rest).find? (·.type = payload.type) =
            rest.find? (·.type = payload.type) := by simp [isType]
        have notPayload : first ≠ payload := fun same => isType (congrArg _ same)
        unfold SettlesAlone at ih ⊢
        rw [others, found]
        simp only [settle, isType, ↓reduceIte]
        by_cases address : IsManagedAddress first
        · rw [List.filter_cons_of_pos (by simpa using address),
            List.filter_cons_of_pos (by simpa using address)]
          constructor
          · intro alone
            exact absurd (List.cons.inj alone).1 notPayload
          · intro alone
            split at alone
            · cases alone
            · split at alone
              · exact absurd (List.cons.inj alone).1 notPayload
              · cases alone
        · rw [List.filter_cons_of_neg (by simpa using address),
            List.filter_cons_of_neg (by simpa using address)]
          exact ih

end Settle

section Contents

/-- What the records of a zone say under a name, in the order they are listed. -/
def Zones.contents (zones : Zones) (zoneId name : String) : List DnsRecordPayload :=
  (recordsByName (zones.ofZone zoneId) name).map DnsRecord.payload

variable {api : Api} {zones : Zones} {zoneId name : String}

private theorem recordsByName_ofZone (zones : Zones) (zoneId name : String) :
    recordsByName (zones.ofZone zoneId) name =
      zones.records.filter fun record => record.zoneId = zoneId ∧ record.payload.name = name := by
  unfold recordsByName Zones.ofZone
  rw [List.filter_filter]
  refine List.filter_congr fun record _ => ?_
  rw [← Bool.decide_and, decide_eq_decide]
  exact and_comm

private theorem mem_contents {payload : DnsRecordPayload} :
    payload ∈ zones.contents zoneId name ↔ ∃ record ∈ zones.records, record.zoneId = zoneId ∧
      record.payload.name = name ∧ record.payload = payload := by
  unfold Zones.contents
  rw [recordsByName_ofZone]
  simp only [List.mem_map, List.mem_filter, decide_eq_true_eq]
  constructor
  · rintro ⟨record, ⟨member, inZone, hasName⟩, isPayload⟩
    exact ⟨record, member, inZone, hasName, isPayload⟩
  · rintro ⟨record, member, inZone, hasName, isPayload⟩
    exact ⟨record, ⟨member, inZone, hasName⟩, isPayload⟩

/-- No zone has a record under a name with capital letters. -/
theorem contents_of_capital (capital : Text.lower name ≠ name) : zones.contents zoneId name = [] := by
  rw [List.eq_nil_iff_forall_not_mem]
  intro payload member
  obtain ⟨record, inZones, -, rfl, -⟩ := mem_contents.mp member
  exact capital (zones.names_lower record inZones)

/-- Overwriting the first record of a type, in a list of records with keys of their own,
settles what they say. -/
theorem map_rewritten {payload : DnsRecordPayload} {records : List DnsRecord}
    {existing : DnsRecord} (distinct : (records.map DnsRecord.id).Nodup)
    (inZone : ∀ record ∈ records, record.zoneId = zoneId)
    (found : records.find? (·.payload.type = payload.type) = some existing)
    (differs : ¬existing.payload.sameRecord payload = true)
    (isLower : lowered payload = payload) :
    (records.map (Zones.rewritten zoneId existing.id payload)).map DnsRecord.payload =
      settle payload (records.map DnsRecord.payload) := by
  induction records with
  | nil => cases found
  | cons first rest ih =>
      rw [List.map_cons, List.nodup_cons] at distinct
      by_cases isType : first.payload.type = payload.type
      · rw [List.find?_cons_of_pos (by simpa using isType)] at found
        cases found
        have untouched : rest.map (Zones.rewritten zoneId existing.id payload) = rest := by
          refine (List.map_congr_left fun record member => ?_).trans (List.map_id rest)
          have other : record.id ≠ existing.id := by
            intro same
            exact distinct.1 (List.mem_map.mpr ⟨record, member, same⟩)
          simp [Zones.rewritten, other]
        have overwritten :
            (Zones.rewritten zoneId existing.id payload existing).payload = payload := by
          simp [Zones.rewritten, inZone existing (List.mem_cons_self ..), isLower]
        rw [List.map_cons, List.map_cons, untouched, overwritten]
        simp [settle, isType, differs]
      · rw [List.find?_cons_of_neg (by simpa using isType)] at found
        have other : first.id ≠ existing.id := by
          intro same
          exact distinct.1 (List.mem_map.mpr ⟨existing, List.mem_of_find?_eq_some found, same.symm⟩)
        have kept : Zones.rewritten zoneId existing.id payload first = first := by
          simp [Zones.rewritten, other]
        rw [List.map_cons, List.map_cons, kept, List.map_cons]
        simp only [settle, isType, ↓reduceIte]
        rw [ih distinct.2 (fun record member => inZone record (List.mem_cons_of_mem _ member)) found]

/-- A record that says the same is kept, and settling keeps it too. -/
theorem settle_of_sameRecord {payload : DnsRecordPayload} {records : List DnsRecord}
    {existing : DnsRecord}
    (found : records.find? (·.payload.type = payload.type) = some existing)
    (same : existing.payload.sameRecord payload = true) :
    settle payload (records.map DnsRecord.payload) = records.map DnsRecord.payload := by
  induction records with
  | nil => cases found
  | cons first rest ih =>
      by_cases isType : first.payload.type = payload.type
      · rw [List.find?_cons_of_pos (by simpa using isType)] at found
        cases found
        simp [settle, isType, same]
      · rw [List.find?_cons_of_neg (by simpa using isType)] at found
        simp [settle, isType, ih found]

/-- Without a record of the type, settling appends. -/
theorem settle_of_find_none {payload : DnsRecordPayload} {records : List DnsRecord}
    (missing : records.find? (·.payload.type = payload.type) = none) :
    settle payload (records.map DnsRecord.payload) = records.map DnsRecord.payload ++ [payload] := by
  induction records with
  | nil => rfl
  | cons first rest ih =>
      by_cases isType : first.payload.type = payload.type
      · rw [List.find?_cons_of_pos (by simpa using isType)] at missing
        cases missing
      · rw [List.find?_cons_of_neg (by simpa using isType)] at missing
        simp [settle, isType, ih missing]

/-- The record an upsert looks for, among the records of the zone and the name. -/
theorem head?_find {payload : DnsRecordPayload} (isLower : lowered payload = payload) :
    (zones.find zoneId payload.name (some payload.type)).head? =
      (recordsByName (zones.ofZone zoneId) payload.name).find?
        (·.payload.type = payload.type) := by
  have lowerName : Text.lower payload.name = payload.name :=
    congrArg DnsRecordPayload.name isLower
  rw [recordsByName_ofZone, ← List.head?_filter, List.filter_filter]
  unfold Zones.find findDnsRecords
  rw [lowerName]
  congr 1
  refine List.filter_congr fun record _ => ?_
  rw [← Bool.decide_and, decide_eq_decide]
  simp only [reduceCtorEq, false_or, Option.some.injEq]
  constructor
  · exact fun ⟨inZone, hasName, isType⟩ => ⟨isType.symm, inZone, hasName⟩
  · exact fun ⟨isType, inZone, hasName⟩ => ⟨inZone, hasName, isType.symm⟩

/-- Overwriting a record leaves the records under other names and in other zones. -/
theorem recordsByName_overwrite {payload : DnsRecordPayload} {existing : DnsRecord}
    (member : existing ∈ zones.records)
    (hasName : existing.payload.name = (lowered payload).name) (other : String) :
    recordsByName ((zones.overwrite zoneId existing.id payload).ofZone other) name =
      (recordsByName (zones.ofZone other) name).map
        (Zones.rewritten zoneId existing.id payload) := by
  rw [recordsByName_ofZone, recordsByName_ofZone]
  change (zones.records.map _).filter _ = _
  rw [List.filter_map]
  congr 1
  refine List.filter_congr fun record inRecords => ?_
  have sameName : (Zones.rewritten zoneId existing.id payload record).payload.name =
      record.payload.name := by
    unfold Zones.rewritten
    split
    · rename_i isExisting
      rw [Zones.eq_of_id inRecords member isExisting.2, hasName]
    · rfl
  simp only [Function.comp_apply, Zones.zoneId_rewritten, sameName]

/-- Upserting settles the records of one zone under one name, and leaves the others. -/
theorem contents_upserted (api : Api) (zones : Zones) (zoneId : String)
    {payload : DnsRecordPayload} (isLower : lowered payload = payload) (other name : String) :
    (zones.upserted api zoneId payload).2.contents other name =
      if other = zoneId ∧ name = payload.name then settle payload (zones.contents zoneId name)
      else zones.contents other name := by
  have distinct : ((recordsByName (zones.ofZone zoneId) payload.name).map DnsRecord.id).Nodup := by
    rw [recordsByName_ofZone]
    exact zones.ids_nodup.sublist (List.filter_sublist.map _)
  have ofZone : ∀ record ∈ recordsByName (zones.ofZone zoneId) payload.name,
      record.zoneId = zoneId := by
    intro record member
    rw [recordsByName_ofZone, List.mem_filter, decide_eq_true_eq] at member
    exact member.2.1
  have lowerName : Text.lower payload.name = payload.name :=
    congrArg DnsRecordPayload.name isLower
  unfold Zones.upserted
  split
  · rename_i existing found
    obtain ⟨member, -, hasName, -⟩ := find_upserted_name found
    rw [head?_find isLower] at found
    split
    · rename_i same
      split
      · rename_i here
        obtain ⟨rfl, rfl⟩ := here
        exact (settle_of_sameRecord found same).symm
      · rfl
    · rename_i differs
      change (recordsByName ((zones.overwrite zoneId existing.id payload).ofZone other) name).map
        DnsRecord.payload = _
      rw [recordsByName_overwrite member hasName]
      split
      · rename_i here
        obtain ⟨rfl, rfl⟩ := here
        exact map_rewritten distinct ofZone found differs isLower
      · rename_i elsewhere
        unfold Zones.contents
        rw [List.map_map]
        refine List.map_congr_left fun record inSlice => ?_
        rw [recordsByName_ofZone, List.mem_filter, decide_eq_true_eq] at inSlice
        have untouched : ¬(record.zoneId = zoneId ∧ record.id = existing.id) := by
          rintro ⟨sameZone, sameId⟩
          have isExisting := Zones.eq_of_id inSlice.1 member sameId
          refine elsewhere ⟨inSlice.2.1.symm.trans sameZone, ?_⟩
          rw [← inSlice.2.2, isExisting, hasName, lowerName]
        simp [Zones.rewritten, untouched]
  · rename_i missing
    rw [head?_find isLower] at missing
    have appended : (zones.create zoneId (api.newId zones.records) payload
        (api.newId_fresh _) (api.newId_nonempty _)).contents other name =
          zones.contents other name ++ if other = zoneId ∧ name = payload.name then [payload] else [] := by
      unfold Zones.contents
      rw [recordsByName_ofZone, recordsByName_ofZone]
      change ((zones.records ++ [_]).filter _).map _ = _
      rw [List.filter_append, List.map_append, isLower]
      congr 1
      by_cases here : other = zoneId ∧ name = payload.name
      · simp [here]
      · have elsewhere : ¬(zoneId = other ∧ payload.name = name) :=
          fun both => here ⟨both.1.symm, both.2.symm⟩
        simp [here, elsewhere]
    rw [appended]
    split
    · rename_i here
      obtain ⟨rfl, rfl⟩ := here
      exact (settle_of_find_none missing).symm
    · exact List.append_nil _

end Contents

section Passes

/-- What a run without failures rests on: the names are filled in, a domain belongs to one
service, and the services that belong to a zone have their domains in lower case and
their payloads built. -/
structure Quiet (api : Api) (configs : List CloudflareZoneConfig) (services : List Service)
    (start : Zones) : Prop where
  calm : api.Calm
  areNamed : Named start.zoneName configs
  distinct : (services.map (·.domain.value)).Nodup
  lower : ∀ service ∈ services, ∀ config,
    findMatchingZone configs service.domain.value = some config →
      Text.lower service.domain.value = service.domain.value
  built : ∀ service ∈ services, ∀ config,
    findMatchingZone configs service.domain.value = some config →
      ∃ payload, servicePayload config service = .ok payload

/-- The payload a service gets in the zone it belongs to. -/
def payloadOf (configs : List CloudflareZoneConfig) (service : Service) :
    Option DnsRecordPayload :=
  (findMatchingZone configs service.domain.value).bind fun config =>
    (servicePayload config service).toOption

/-- The service of a zone that has a domain. -/
def serviceOf (configs : List CloudflareZoneConfig) (services : List Service)
    (zoneId name : String) : Option Service :=
  (zoneServices configs services zoneId).find? (·.domain.value = name)

/-- What one pass over a zone makes of the records under a name. -/
def passed (configs : List CloudflareZoneConfig) (services : List Service)
    (zoneId name : String) (records : List DnsRecordPayload) : List DnsRecordPayload :=
  match (serviceOf configs services zoneId name).bind (payloadOf configs) with
  | some payload => settle payload records
  | none =>
      if zoneServices configs services zoneId ≠ [] ∧ matchingZoneId configs name = some zoneId then
        records.filter (·.comment ≠ managedRecordComment)
      else records

variable {api : Api} {configs : List CloudflareZoneConfig} {services : List Service}
  {start : Zones} {call : Call Reconcile} {zoneId name : String}

private theorem passed_passed (records : List DnsRecordPayload) :
    passed configs services zoneId name (passed configs services zoneId name records) =
      passed configs services zoneId name records := by
  unfold passed
  split
  · exact settle_settle _ records
  · split
    · simp
    · rfl

theorem Quiet.payload (quiet : Quiet api configs services start) {service : Service}
    (member : service ∈ zoneServices configs services zoneId) :
    ∃ config payload, findMatchingZone configs service.domain.value = some config ∧
      config.zoneId = zoneId ∧ servicePayload config service = .ok payload ∧
      payloadOf configs service = some payload ∧ payload.name = service.domain.value ∧
      payload.comment = managedRecordComment ∧ lowered payload = payload := by
  obtain ⟨listed, config, matched, inZone⟩ := exists_of_mem_zoneServices member
  obtain ⟨payload, built⟩ := quiet.built service listed config matched
  obtain ⟨hasName, managed⟩ := servicePayload_ok built
  refine ⟨config, payload, matched, inZone, built, ?_, hasName, managed, ?_⟩
  · simp [payloadOf, matched, built, Except.toOption]
  · unfold lowered
    rw [hasName, quiet.lower service listed config matched, ← hasName]

private theorem serviceOf_eq_none (foreign : name ∉ currentDomains configs services zoneId) :
    serviceOf configs services zoneId name = none := by
  unfold serviceOf
  rw [List.find?_eq_none]
  intro service member
  simp only [decide_eq_true_eq]
  rintro rfl
  exact foreign (List.mem_map_of_mem member)

private theorem Quiet.serviceOf_domain (quiet : Quiet api configs services start)
    {service : Service} (member : service ∈ zoneServices configs services zoneId) :
    serviceOf configs services zoneId service.domain.value = some service := by
  have found : (serviceOf configs services zoneId service.domain.value).isSome := by
    rw [serviceOf, List.find?_isSome]
    exact ⟨service, member, by simp⟩
  obtain ⟨other, isOther⟩ := Option.isSome_iff_exists.mp found
  have sameDomain : other.domain.value = service.domain.value := by
    simpa using List.find?_some isOther
  have inZone := List.mem_of_find?_eq_some isOther
  rw [isOther, List.inj_on_of_nodup_map quiet.distinct (List.mem_of_mem_filter inZone)
    (List.mem_of_mem_filter member) sameDomain]

/-- The counts that decide whether a run reports a failure. -/
def Reconcile.tally (vars : Reconcile) : Nat × Nat × Nat × Nat :=
  (vars.summary.failedCount, vars.summary.cleanupFailedCount, vars.summary.totalServiceCount,
    vars.summary.eligibleServiceCount)

/-- The loop over the services of a zone settles the records under their domains. -/
theorem Quiet.ensures_syncServices (quiet : Quiet api configs services start)
    (zoneNames : call.zones.zoneName = start.zoneName) :
    Program.Ensures (forM (zoneServices configs services zoneId) (syncService api configs))
      (fun _ next => next.zones.zoneName = start.zoneName ∧
        ∀ other name, next.zones.contents other name =
          if other = zoneId then
            match (serviceOf configs services zoneId name).bind (payloadOf configs) with
            | some payload => settle payload (call.zones.contents other name)
            | none => call.zones.contents other name
          else call.zones.contents other name)
      (fun _ _ => False) call := by
  let invariant (rest : List Service) (next : Call Reconcile) : Prop :=
    next.zones.zoneName = start.zoneName ∧
    (∀ other name, other ≠ zoneId ∨ name ∉ currentDomains configs services zoneId →
      next.zones.contents other name = call.zones.contents other name) ∧
    ∀ service ∈ zoneServices configs services zoneId, ∀ payload,
      payloadOf configs service = some payload →
      service ∈ rest ∧ next.zones.contents zoneId service.domain.value =
          call.zones.contents zoneId service.domain.value ∨
        next.zones.contents zoneId service.domain.value =
          settle payload (call.zones.contents zoneId service.domain.value)
  have holds : invariant (zoneServices configs services zoneId) call :=
    ⟨zoneNames, fun _ _ _ => rfl, fun service member payload _ => .inl ⟨member, rfl⟩⟩
  refine (Program.ensures_forM invariant holds ?_).mono ?_ (fun _ _ absurdity => absurdity)
  · rintro service rest current member ⟨currentNames, elsewhere, here⟩
    obtain ⟨config, payload, matched, rfl, built, isPayload, hasName, -, isLower⟩ :=
      quiet.payload member
    refine (ensures_syncService current (by rw [currentNames]; exact quiet.areNamed)
      matched).mono ?_ (fun _ _ absurdity => absurdity)
    rintro _ next ⟨-, ⟨payload', built', zonesAfter, -⟩ | ⟨-, unlessStorm⟩⟩
    · rw [built] at built'
      cases built'
      have after := contents_upserted api current.zones config.zoneId isLower
      rw [← zonesAfter] at after
      refine ⟨?_, ?_, ?_⟩
      · rw [zonesAfter, Zones.zoneName_upserted, currentNames]
      · intro other name outside
        rw [after, if_neg, elsewhere other name outside]
        rintro ⟨rfl, rfl⟩
        rcases outside with notZone | foreign
        · exact notZone rfl
        · rw [hasName] at foreign
          exact foreign (List.mem_map_of_mem member)
      · intro other inZone expected isExpected
        rw [after]
        by_cases same : other.domain.value = service.domain.value
        · have isService : other = service := List.inj_on_of_nodup_map quiet.distinct
            (List.mem_of_mem_filter inZone) (List.mem_of_mem_filter member) same
          subst isService
          rw [isPayload] at isExpected
          cases isExpected
          rw [if_pos ⟨rfl, hasName.symm⟩]
          rcases here other inZone payload isPayload with ⟨-, untouched⟩ | settled
          · exact .inr (by rw [untouched])
          · exact .inr (by rw [settled, settle_settle])
        · rw [if_neg fun both => same (both.2.trans hasName)]
          rcases here other inZone expected isExpected with ⟨pending, untouched⟩ | settled
          · rcases List.mem_cons.mp pending with rfl | pending
            · exact absurd rfl same
            · exact .inl ⟨pending, untouched⟩
          · exact .inr settled
    · obtain ⟨⟨failure, failed⟩, -⟩ := unlessStorm quiet.calm
      rw [built] at failed
      cases failed
  · rintro _ next ⟨nextNames, elsewhere, here⟩
    refine ⟨nextNames, fun other name => ?_⟩
    split
    · rename_i isZone
      subst isZone
      by_cases domain : name ∈ currentDomains configs services other
      · obtain ⟨service, member, rfl⟩ := List.mem_map.mp domain
        obtain ⟨-, payload, -, -, -, isPayload, -⟩ := quiet.payload member
        rw [quiet.serviceOf_domain member, Option.bind_some, isPayload]
        exact (here service member payload isPayload).resolve_left fun pending =>
          List.not_mem_nil pending.1
      · rw [serviceOf_eq_none domain]
        exact elsewhere other name (.inr domain)
    · rename_i notZone
      exact elsewhere other name (.inl notZone)

/-- A record that deleting by name and key takes away. -/
def Removable (configs : List CloudflareZoneConfig) (record : DnsRecord) : Prop :=
  matchingZoneId configs record.payload.name = some record.zoneId

instance : DecidablePred (Removable configs) := fun record =>
  inferInstanceAs (Decidable (matchingZoneId configs record.payload.name = some record.zoneId))

/-- The loop over the orphans of a zone removes those that can be removed. -/
theorem Api.Calm.ensures_cleanOrphans (calm : api.Calm)
    (areNamed : Named start.zoneName configs) (services : List Service) (zoneId : String)
    (zoneNames : call.zones.zoneName = start.zoneName) :
    Program.Ensures
      (forM (orphansOf configs services call.zones zoneId) (cleanOrphan api configs zoneId))
      (fun _ next => next.zones.zoneName = start.zoneName ∧ next.vars.tally = call.vars.tally ∧
        next.zones.records = call.zones.records.filter fun record =>
          ¬(record ∈ orphansOf configs services call.zones zoneId ∧ Removable configs record))
      (fun _ _ => False) call := by
  let orphans := orphansOf configs services call.zones zoneId
  have distinct : orphans.Nodup := nodup_orphansOf services call.zones zoneId
  let invariant (rest : List DnsRecord) (next : Call Reconcile) : Prop :=
    next.zones.zoneName = start.zoneName ∧ next.vars.tally = call.vars.tally ∧ rest.Nodup ∧
      rest ⊆ orphans ∧ next.zones.records = call.zones.records.filter fun record =>
        ¬((record ∈ orphans ∧ record ∉ rest) ∧ Removable configs record)
  have holds : invariant orphans call := by
    refine ⟨zoneNames, rfl, distinct, fun _ member => member, ?_⟩
    rw [List.filter_eq_self.mpr]
    intro record _
    simp
  refine (Program.ensures_forM invariant holds ?_).mono ?_ (fun _ _ absurdity => absurdity)
  · rintro record rest current member ⟨currentNames, currentTally, unique, sub, records⟩
    obtain ⟨notLater, uniqueRest⟩ := List.nodup_cons.mp unique
    have isOrphan : record ∈ orphans := member
    have inCall : record ∈ call.zones.records := (mem_orphansOf.mp isOrphan).1
    have listed : record ∈ current.zones.records := by
      rw [records, List.mem_filter, decide_eq_true_eq]
      exact ⟨inCall, fun gone => gone.1.2 (List.mem_cons_self ..)⟩
    refine (ensures_cleanOrphan zoneId current (by rwa [currentNames]) listed).mono ?_ (fun _ _ absurdity => absurdity)
    rintro _ next (⟨storm, -⟩ | ⟨zonesAfter, varsAfter⟩)
    · exact absurd calm storm
    · refine ⟨?_, ?_, uniqueRest, fun _ later => sub (List.mem_cons_of_mem _ later), ?_⟩
      · rw [zonesAfter, ← currentNames]
        unfold Zones.withoutRemoval
        split <;> rfl
      · rw [varsAfter, ← currentTally]
        rfl
      · rw [zonesAfter]
        unfold Zones.withoutRemoval
        split
        · rename_i removable
          change current.zones.records.filter _ = _
          rw [records, List.filter_filter]
          refine List.filter_congr fun other inOther => ?_
          rw [← Bool.decide_and, decide_eq_decide]
          by_cases same : other = record
          · subst same
            simp only [and_self, not_true_eq_false, false_and, false_iff, not_not]
            exact ⟨⟨isOrphan, notLater⟩, removable⟩
          · have otherId : other.id ≠ record.id := fun sameId =>
              same (Zones.eq_of_id inOther inCall sameId)
            simp [otherId, same]
        · rename_i stays
          rw [records]
          refine List.filter_congr fun other inOther => ?_
          rw [decide_eq_decide]
          by_cases same : other = record
          · subst same
            have notRemovable : ¬Removable configs other := stays
            simp [notRemovable]
          · simp [same]
  · rintro _ next ⟨nextNames, nextTally, -, -, records⟩
    refine ⟨nextNames, nextTally, ?_⟩
    rw [records]
    refine List.filter_congr fun record _ => ?_
    simp [orphans]

/-- The clean-up of a zone removes the managed records under the names that match it and
are no domains of its services. -/
theorem Api.Calm.ensures_cleanZone (calm : api.Calm) (areNamed : Named start.zoneName configs)
    (services : List Service) (config : CloudflareZoneConfig) (zoneNames : call.zones.zoneName = start.zoneName) :
    Program.Ensures
      (cleanZone api configs config (currentDomains configs services config.zoneId))
      (fun _ next => next.zones.zoneName = start.zoneName ∧ next.vars.tally = call.vars.tally ∧
        ∀ other name, next.zones.contents other name =
          if other = config.zoneId ∧ name ∉ currentDomains configs services config.zoneId ∧
              matchingZoneId configs name = some config.zoneId then
            (call.zones.contents other name).filter (·.comment ≠ managedRecordComment)
          else call.zones.contents other name)
      (fun _ _ => False) call := by
  unfold cleanZone
  rw [Program.ensures_bind, Program.ensures_attempt]
  refine ((reads_listManagedRecords config).ensures call).mono ?_
    fun _ _ ⟨_, storm⟩ => absurd calm storm
  rintro _ first ⟨same, rfl⟩
  obtain ⟨sameZones, -, sameVars⟩ : first.zones = call.zones ∧ first.stored = call.stored ∧
      first.vars = call.vars := by simpa [Call.contents] using same
  rw [← sameZones, ← sameVars]
  refine (calm.ensures_cleanOrphans areNamed services config.zoneId
    (by rw [sameZones, zoneNames])).mono ?_ (fun _ _ absurdity => absurdity)
  rintro _ next ⟨nextNames, nextTally, records⟩
  refine ⟨nextNames, nextTally, fun other name => ?_⟩
  unfold Zones.contents
  rw [recordsByName_ofZone, recordsByName_ofZone, records, List.filter_filter]
  split
  · rename_i cleaned
    obtain ⟨rfl, foreign, matched⟩ := cleaned
    rw [List.filter_map, List.filter_filter]
    congr 1
    refine List.filter_congr fun record member => ?_
    simp only [Function.comp_apply, ← Bool.decide_and, decide_eq_decide]
    constructor
    · rintro ⟨⟨inZone, hasName⟩, stays⟩
      refine ⟨fun managed => stays ⟨mem_orphansOf.mpr ⟨member, inZone, managed, ?_⟩, ?_⟩,
        inZone, hasName⟩
      · rwa [hasName]
      · rw [Removable, hasName, inZone, matched]
    · rintro ⟨unmanaged, inZone, hasName⟩
      exact ⟨⟨inZone, hasName⟩, fun gone => unmanaged (mem_orphansOf.mp gone.1).2.2.1⟩
  · rename_i kept
    congr 1
    refine List.filter_congr fun record member => ?_
    simp only [← Bool.decide_and, decide_eq_decide, and_iff_left_iff_imp]
    rintro ⟨inZone, hasName⟩ ⟨orphan, removable⟩
    obtain ⟨-, isZone, -, foreign⟩ := mem_orphansOf.mp orphan
    rw [Removable, hasName, isZone] at removable
    exact kept ⟨inZone.symm.trans isZone, hasName ▸ foreign, removable⟩

/-- One pass over a zone. -/
theorem Quiet.ensures_reconcileZone (quiet : Quiet api configs services start)
    (config : CloudflareZoneConfig) (zoneNames : call.zones.zoneName = start.zoneName) :
    Program.Ensures (reconcileZone api configs (zoneEntries configs services) config)
      (fun _ next => next.zones.zoneName = start.zoneName ∧
        ∀ other name, next.zones.contents other name =
          if other = config.zoneId then
            passed configs services other name (call.zones.contents other name)
          else call.zones.contents other name)
      (fun _ _ => False) call := by
  unfold reconcileZone
  simp only [servicesOf_zoneEntries]
  rw [Program.ensures_bind]
  refine (quiet.ensures_syncServices zoneNames).mono ?_ (fun _ _ absurdity => absurdity)
  rintro _ middle ⟨middleNames, middleContents⟩
  split
  · rename_i unserved
    rw [Program.ensures_pure]
    refine ⟨middleNames, fun other name => ?_⟩
    rw [middleContents]
    split
    · rename_i isZone
      subst isZone
      unfold passed
      split <;> simp_all
    · rfl
  · rename_i served
    refine (quiet.calm.ensures_cleanZone quiet.areNamed services config middleNames).mono ?_
      (fun _ _ absurdity => absurdity)
    rintro _ next ⟨nextNames, -, nextContents⟩
    refine ⟨nextNames, fun other name => ?_⟩
    rw [nextContents, middleContents]
    by_cases isZone : other = config.zoneId
    · subst isZone
      by_cases domain : name ∈ currentDomains configs services config.zoneId
      · obtain ⟨service, member, rfl⟩ := List.mem_map.mp domain
        obtain ⟨-, payload, -, -, -, isPayload, -⟩ := quiet.payload member
        have found : (serviceOf configs services config.zoneId service.domain.value).bind
            (payloadOf configs) = some payload := by
          rw [quiet.serviceOf_domain member, Option.bind_some, isPayload]
        simp [passed, found, domain]
      · simp [passed, serviceOf_eq_none domain, domain, served]
    · simp [isZone]

/-- All passes. -/
theorem Quiet.ensures_reconcileZones (quiet : Quiet api configs services start)
    (sameZones : call.zones = start) :
    Program.Ensures (forM configs (reconcileZone api configs (zoneEntries configs services)))
      (fun _ next => ∀ config ∈ configs, ∀ name, next.zones.contents config.zoneId name =
        passed configs services config.zoneId name (start.contents config.zoneId name))
      (fun _ _ => False) call := by
  let invariant (rest : List CloudflareZoneConfig) (next : Call Reconcile) : Prop :=
    next.zones.zoneName = start.zoneName ∧
      ∀ config ∈ configs, ∀ name,
        config ∈ rest ∧ next.zones.contents config.zoneId name = start.contents config.zoneId name ∨
          next.zones.contents config.zoneId name =
            passed configs services config.zoneId name (start.contents config.zoneId name)
  have holds : invariant configs call :=
    ⟨by rw [sameZones], fun config member name => .inl ⟨member, by rw [sameZones]⟩⟩
  refine (Program.ensures_forM invariant holds ?_).mono ?_ (fun _ _ absurdity => absurdity)
  · rintro config rest current member ⟨currentNames, done⟩
    refine (quiet.ensures_reconcileZone config currentNames).mono ?_
      (fun _ _ absurdity => absurdity)
    rintro _ next ⟨nextNames, nextContents⟩
    refine ⟨nextNames, fun other inConfigs name => ?_⟩
    rw [nextContents]
    by_cases same : other.zoneId = config.zoneId
    · rw [if_pos same]
      rcases done other inConfigs name with ⟨-, untouched⟩ | settled
      · exact .inr (by rw [untouched])
      · exact .inr (by rw [settled, passed_passed])
    · rw [if_neg same]
      rcases done other inConfigs name with ⟨pending, untouched⟩ | settled
      · rcases List.mem_cons.mp pending with rfl | pending
        · exact absurd rfl same
        · exact .inl ⟨pending, untouched⟩
      · exact .inr settled
  · rintro _ next ⟨-, done⟩ config member name
    exact (done config member name).resolve_left fun pending => List.not_mem_nil pending.1

end Passes

section Report

variable {api : Api} {configs : List CloudflareZoneConfig} {services : List Service}
  {start : Zones} {call : Call Reconcile}

/-- The services whose payload cannot be built. -/
def unbuilt (configs : List CloudflareZoneConfig) (services : List Service) : Nat :=
  services.countP fun service => payloadOf configs service = none

/-- Without failures, the services that fail are those without a payload. -/
theorem Api.Calm.ensures_syncServices (calm : api.Calm) (areNamed : Named start.zoneName configs)
    (rounds : List Service)
    (matched : ∀ service ∈ rounds, ∃ config,
      findMatchingZone configs service.domain.value = some config)
    (zoneNames : call.zones.zoneName = start.zoneName) :
    Program.Ensures (forM rounds (syncService api configs))
      (fun _ next => next.zones.zoneName = start.zoneName ∧
        next.vars.cleaning = call.vars.cleaning ∧
        next.vars.summary.failedCount = call.vars.summary.failedCount + unbuilt configs rounds)
      (fun _ _ => False) call := by
  induction rounds generalizing call with
  | nil =>
      rw [List.forM_nil, Program.ensures_pure]
      exact ⟨zoneNames, rfl, rfl⟩
  | cons service rest ih =>
      obtain ⟨config, isMatch⟩ := matched service (List.mem_cons_self ..)
      have payload : payloadOf configs service = (servicePayload config service).toOption := by
        rw [payloadOf, isMatch, Option.bind_some]
      rw [List.forM_cons, Program.ensures_bind]
      refine (ensures_syncService call (by rwa [zoneNames]) isMatch).mono ?_
        (fun _ _ absurdity => absurdity)
      rintro _ middle ⟨sameCleaning, synced⟩
      have middleNames : middle.zones.zoneName = start.zoneName := by
        rcases synced with ⟨_, -, zonesAfter, -⟩ | ⟨sameZones, -⟩
        · rw [zonesAfter, Zones.zoneName_upserted, zoneNames]
        · rw [sameZones, zoneNames]
      have failedNow : middle.vars.summary.failedCount = call.vars.summary.failedCount +
          if payloadOf configs service = none then 1 else 0 := by
        rw [payload]
        rcases synced with ⟨_, built, -, sameFailed⟩ | ⟨-, unlessStorm⟩
        · simp [built, sameFailed calm, Except.toOption]
        · obtain ⟨⟨failure, failed⟩, counted⟩ := unlessStorm calm
          simp [failed, counted, Except.toOption]
      refine (ih (fun other member => matched other (List.mem_cons_of_mem _ member))
        middleNames).mono ?_ (fun _ _ absurdity => absurdity)
      rintro _ next ⟨nextNames, nextCleaning, failedLater⟩
      refine ⟨nextNames, nextCleaning.trans sameCleaning, ?_⟩
      rw [failedLater, failedNow, unbuilt, unbuilt, List.countP_cons, Nat.add_assoc]
      simp [Nat.add_comm]

/-- The failures of one zone. -/
theorem Api.Calm.ensures_reconcileZone (calm : api.Calm) (areNamed : Named start.zoneName configs)
    (config : CloudflareZoneConfig) (zoneNames : call.zones.zoneName = start.zoneName) :
    Program.Ensures (reconcileZone api configs (zoneEntries configs services) config)
      (fun _ next => next.zones.zoneName = start.zoneName ∧ next.vars.tally =
        (call.vars.summary.failedCount +
          unbuilt configs (zoneServices configs services config.zoneId), call.vars.tally.2))
      (fun _ _ => False) call := by
  unfold reconcileZone
  simp only [servicesOf_zoneEntries]
  rw [Program.ensures_bind]
  refine (calm.ensures_syncServices areNamed (zoneServices configs services config.zoneId)
    (fun service member => ?_) zoneNames).mono ?_ (fun _ _ absurdity => absurdity)
  · obtain ⟨-, config, isMatch, -⟩ := exists_of_mem_zoneServices member
    exact ⟨config, isMatch⟩
  · rintro _ middle ⟨middleNames, sameCleaning, failed⟩
    have tally : middle.vars.tally = (call.vars.summary.failedCount +
        unbuilt configs (zoneServices configs services config.zoneId), call.vars.tally.2) := by
      simp only [Reconcile.cleaning, Prod.mk.injEq] at sameCleaning
      simp only [Reconcile.tally, Prod.mk.injEq]
      exact ⟨failed, sameCleaning.2.2⟩
    split
    · rw [Program.ensures_pure]
      exact ⟨middleNames, tally⟩
    · refine (calm.ensures_cleanZone areNamed services config middleNames).mono ?_
        (fun _ _ absurdity => absurdity)
      rintro _ next ⟨nextNames, nextTally, -⟩
      exact ⟨nextNames, nextTally.trans tally⟩

/-- The failures of all zones. -/
theorem Api.Calm.ensures_reconcileZones (calm : api.Calm)
    (areNamed : Named start.zoneName configs) (rounds : List CloudflareZoneConfig)
    (zoneNames : call.zones.zoneName = start.zoneName) :
    Program.Ensures (forM rounds (reconcileZone api configs (zoneEntries configs services)))
      (fun _ next => next.vars.tally = (call.vars.summary.failedCount +
        (rounds.map fun config =>
          unbuilt configs (zoneServices configs services config.zoneId)).sum, call.vars.tally.2))
      (fun _ _ => False) call := by
  induction rounds generalizing call with
  | nil =>
      rw [List.forM_nil, Program.ensures_pure]
      rfl
  | cons config rest ih =>
      rw [List.forM_cons, Program.ensures_bind]
      refine (calm.ensures_reconcileZone areNamed config zoneNames).mono ?_
        (fun _ _ absurdity => absurdity)
      rintro _ middle ⟨middleNames, middleTally⟩
      refine (ih middleNames).mono ?_ (fun _ _ absurdity => absurdity)
      intro _ next nextTally
      have failed : middle.vars.summary.failedCount = call.vars.summary.failedCount +
          unbuilt configs (zoneServices configs services config.zoneId) :=
        congrArg Prod.fst middleTally
      have others : middle.vars.tally.2 = call.vars.tally.2 := by rw [middleTally]
      rw [nextTally, failed, others, List.map_cons, List.sum_cons, Nat.add_assoc]

/-- Every service that belongs to a zone has its payload built. -/
def AllBuilt (configs : List CloudflareZoneConfig) (services : List Service) : Prop :=
  ∀ service ∈ services, ∀ config,
    findMatchingZone configs service.domain.value = some config →
      ∃ payload, servicePayload config service = .ok payload

private theorem unbuilt_sum_eq_zero : (configs.map fun config =>
    unbuilt configs (zoneServices configs services config.zoneId)).sum = 0 ↔
      AllBuilt configs services := by
  rw [List.sum_eq_zero_iff_forall_eq_nat]
  constructor
  · intro noneFails service listed config matched
    have member : service ∈ zoneServices configs services config.zoneId := by
      refine List.mem_filter.mpr ⟨listed, decide_eq_true ?_⟩
      rw [matchingZoneId, matched]
      rfl
    have noneHere := noneFails _ (List.mem_map.mpr ⟨config, findMatchingZone_mem matched, rfl⟩)
    have built := List.countP_eq_zero.mp noneHere service member
    cases outcome : servicePayload config service with
    | ok payload => exact ⟨payload, rfl⟩
    | error failure => simp [payloadOf, matched, outcome, Except.toOption] at built
  · intro allBuilt count member
    obtain ⟨config, -, rfl⟩ := List.mem_map.mp member
    refine List.countP_eq_zero.mpr fun service inZone => ?_
    obtain ⟨listed, other, matched, -⟩ := exists_of_mem_zoneServices inZone
    obtain ⟨payload, built⟩ := allBuilt service listed other matched
    simp [payloadOf, matched, built, Except.toOption]

/-- A run without failures comes down to its loop over the zones. -/
theorem Api.Calm.finalState_reconcile (calm : api.Calm) (nonempty : configs ≠ [])
    (services : List Service) (post : Call Reconcile → Prop)
    (loop : ∀ call : Call Reconcile, call.zones = start →
      call.vars.tally = (0, 0, services.length,
        (zoneEntries (configs.map (named start.zoneName)) services).length) →
      Program.Ensures
        (forM (configs.map (named start.zoneName))
          (reconcileZone api (configs.map (named start.zoneName))
            (zoneEntries (configs.map (named start.zoneName)) services)))
        (fun _ next => post { next with
          vars := next.vars.setResult
            (buildReconcileResponse next.vars.summary next.vars.failureMessages) })
        (fun _ _ => False) call) :
    post (Program.finalState (reconcileCloudflareDnsRecords api configs)
      (startReconcile start services)) := by
  refine Program.Ensures.finalState post ?_
  have someZone : configs.map (named start.zoneName) ≠ [] := by simpa using nonempty
  have unseen : ∀ (_ : Service) (vars : Reconcile), vars.skip.tally = vars.tally :=
    fun _ _ => rfl
  unfold reconcileCloudflareDnsRecords
  rw [if_neg nonempty, Program.ensures_tryCatch]
  unfold tryReconcile
  rw [Program.ensures_bind]
  refine ((reads_ensureZoneNames configs).ensures (startReconcile start services)).mono ?_
    fun _ _ failed => absurd calm failed.2
  rintro filled first ⟨same, rfl⟩
  obtain ⟨firstZones, firstStored, firstVars⟩ : first.zones = start ∧ first.stored = services ∧
      first.vars = (startReconcile start services).vars := by
    simpa [Call.contents, startReconcile] using same
  rw [zones_startReconcile, requireZones_of_ne someZone]
  simp only [Program.ensures_bind, ensures_setVars, Program.ensures_pure]
  refine ((reads_ask fun _ stored => stored).ensures _).mono ?_
    fun _ _ failed => absurd calm failed.2
  rintro _ second ⟨same', rfl⟩
  obtain ⟨secondZones, -, secondVars⟩ : second.zones = first.zones ∧
      second.stored = first.stored ∧ second.vars = first.vars.setZoneCount _ := by
    simpa [Call.contents] using same'
  have sameZones : second.zones = start := secondZones.trans firstZones
  have areNamed : Named second.zones.zoneName (configs.map (named start.zoneName)) := by
    rw [sameZones]
    exact named_map start.zoneName configs
  rw [firstStored]
  unfold reconcileZones groupServices
  simp only [Program.ensures_bind, ensures_setVars]
  refine (ensures_groupByZone Reconcile.tally unseen services
    { second with vars := second.vars.setTotal services.length } areNamed).mono ?_
    fun _ _ failed => absurd calm failed.2.2
  rintro _ third ⟨thirdZones, thirdTally, rfl⟩
  refine (loop
    { third with
      vars := third.vars.setEligible
        (zoneEntries (configs.map (named start.zoneName)) services).length }
    (thirdZones.trans sameZones) ?_).mono (fun _ _ done => done)
    fun _ _ absurdity => absurdity.elim
  rw [secondVars, firstVars] at thirdTally
  simp only [Reconcile.tally, Prod.mk.injEq] at thirdTally ⊢
  exact ⟨thirdTally.1, thirdTally.2.1, thirdTally.2.2.1, rfl⟩

/-- The outcome of a run. -/
def reconcileRun (api : Api) (configs : List CloudflareZoneConfig) (zones : Zones)
    (services : List Service) : Call Reconcile :=
  Program.finalState (reconcileCloudflareDnsRecords api configs) (startReconcile zones services)

private theorem success_buildReconcileResponse (summary : CloudflareReconcileSummary)
    (failureMessages : List String) :
    (buildReconcileResponse summary failureMessages).success = true ↔
      summary.totalServiceCount = 0 ∨ summary.eligibleServiceCount = 0 ∨
        summary.failedCount = 0 ∧ summary.cleanupFailedCount = 0 := by
  unfold buildReconcileResponse
  split
  · rename_i noServices
    simp [noServices]
  · rename_i someService
    split
    · rename_i noneEligible
      simp [noneEligible]
    · rename_i someEligible
      split
      · rename_i noneFailed
        simp [noneFailed]
      · rename_i someFailed
        simpa [someService, someEligible] using someFailed

private theorem allBuilt_of_zoneEntries_nil (noEntries : zoneEntries configs services = []) :
    AllBuilt configs services := by
  intro service listed config matched
  have entry : (service, config.zoneId) ∈ zoneEntries configs services :=
    List.mem_filterMap.mpr ⟨service, listed, by simp [matchingZoneId, matched]⟩
  rw [noEntries] at entry
  cases entry

/-- A run without failures reports one exactly when a payload cannot be built. -/
theorem Api.Calm.success_reconcileRun (calm : api.Calm) (nonempty : configs ≠ []) :
    (reconcileRun api configs start services).vars.summary.result.success = true ↔
      AllBuilt (configs.map (named start.zoneName)) services := by
  refine calm.finalState_reconcile nonempty services
    (fun last => last.vars.summary.result.success = true ↔ _) ?_
  intro call sameZones tally
  refine (calm.ensures_reconcileZones (named_map start.zoneName configs) _
    (congrArg Zones.zoneName sameZones)).mono ?_ (fun _ _ absurdity => absurdity)
  intro _ next nextTally
  rw [tally] at nextTally
  simp only [Reconcile.tally, Prod.mk.injEq] at nextTally tally
  obtain ⟨failed, cleanupFailed, total, eligible⟩ := nextTally
  simp only [Reconcile.setResult]
  rw [success_buildReconcileResponse, failed, cleanupFailed, total, eligible, tally.1, Nat.zero_add,
    unbuilt_sum_eq_zero]
  constructor
  · rintro (noServices | noEntries | ⟨allBuilt, -⟩)
    · rw [List.eq_nil_of_length_eq_zero noServices]
      intro service listed
      cases listed
    · exact allBuilt_of_zoneEntries_nil (List.eq_nil_of_length_eq_zero noEntries)
    · exact allBuilt
  · exact fun allBuilt => .inr (.inr ⟨allBuilt, rfl⟩)

/-- What a quiet run leaves in a zone under a name. -/
theorem Quiet.contents_reconcileRun (nonempty : configs ≠ [])
    (quiet : Quiet api (configs.map (named start.zoneName)) services start) :
    ∀ config ∈ configs.map (named start.zoneName), ∀ name,
      (reconcileRun api configs start services).zones.contents config.zoneId name =
        passed (configs.map (named start.zoneName)) services config.zoneId name
          (start.contents config.zoneId name) := by
  refine quiet.calm.finalState_reconcile nonempty services
    (fun last => ∀ config ∈ configs.map (named start.zoneName), ∀ name,
      last.zones.contents config.zoneId name =
        passed (configs.map (named start.zoneName)) services config.zoneId name
          (start.contents config.zoneId name)) ?_
  intro call sameZones _
  exact (quiet.ensures_reconcileZones sameZones).mono (fun _ _ done => done)
    (fun _ _ absurdity => absurdity)

end Report

section Drift

variable {api : Api} {configs : List CloudflareZoneConfig} {services : List Service}
  {zones : Zones}

/-- The first record of the payload's type says what the payload does. -/
def Shows (payload : DnsRecordPayload) (records : List DnsRecordPayload) : Prop :=
  ∃ record, records.find? (·.type = payload.type) = some record ∧ SaysSame record payload

private theorem shows_settle {payload expected : DnsRecordPayload}
    {records : List DnsRecordPayload} : Shows expected (settle payload records) ↔
      if expected.type = payload.type then SaysSame payload expected
      else Shows expected records := by
  unfold Shows
  split
  · rename_i sameType
    obtain ⟨record, found, content, proxied⟩ := find_settle_same payload records
    rw [sameType, found]
    constructor
    · rintro ⟨other, same, content', proxied'⟩
      cases same
      exact ⟨content.symm.trans content', proxied.symm.trans proxied'⟩
    · rintro ⟨content', proxied'⟩
      exact ⟨record, rfl, content.trans content', proxied.trans proxied'⟩
  · rename_i otherType
    rw [find_settle_other otherType]

private theorem buildMismatchReasons_eq_nil {matching expected : DnsRecordPayload} :
    buildMismatchReasons matching expected = [] ↔ SaysSame matching expected := by
  unfold buildMismatchReasons SaysSame
  rw [List.append_eq_nil_iff]
  refine and_congr ?_ ?_
  · split <;> simp_all
  · split <;> simp_all

private theorem compareRecords_eq_healthy {expected : DnsRecordPayload} {records : List DnsRecord} :
    compareRecords expected records = .healthy ↔
      Shows expected (records.map DnsRecord.payload) := by
  unfold compareRecords Shows
  rw [List.find?_map]
  cases records with
  | nil => simp
  | cons first rest =>
      simp only [Function.comp_def]
      cases (first :: rest).find? (·.payload.type = expected.type) with
      | none => simp
      | some matching =>
          simp only [Option.map_some, Option.some.injEq, exists_eq_left',
            ← buildMismatchReasons_eq_nil]
          split <;> simp_all

/-- A service is found healthy when its payload is built and shown. -/
theorem collectServiceDrift_eq_healthy {config : CloudflareZoneConfig} {service : Service} :
    collectServiceDrift config (zones.ofZone config.zoneId) service = .ok .healthy ↔
      ∃ payload, servicePayload config service = .ok payload ∧
        Shows payload (zones.contents config.zoneId service.domain.value) := by
  unfold collectServiceDrift Zones.contents
  rw [bind_eq_ok]
  refine exists_congr fun payload => and_congr_right fun _ => ?_
  rw [← compareRecords_eq_healthy]
  exact ⟨Except.ok.inj, congrArg Except.ok⟩

/-- A zone is without orphans when only its domains name managed records. -/
theorem collectOrphanRecords_eq_nil {zoneId : String} {domains : List String} :
    collectOrphanRecords (zones.ofZone zoneId) domains = [] ↔
      ∀ name, name ∉ domains → ∀ payload ∈ zones.contents zoneId name,
        payload.comment ≠ managedRecordComment := by
  unfold collectOrphanRecords
  rw [List.map_eq_nil_iff, List.filter_eq_nil_iff]
  constructor
  · intro none name foreign payload member managed
    obtain ⟨record, inZones, inZone, rfl, rfl⟩ := mem_contents.mp member
    have listed : record ∈ zones.ofZone zoneId :=
      List.mem_filter.mpr ⟨inZones, decide_eq_true inZone⟩
    exact none record listed (decide_eq_true ⟨managed, foreign⟩)
  · intro none record listed isOrphan
    obtain ⟨managed, foreign⟩ := of_decide_eq_true isOrphan
    obtain ⟨inZones, inZone⟩ := List.mem_filter.mp listed
    exact none record.payload.name foreign record.payload
      (mem_contents.mpr ⟨record, inZones, of_decide_eq_true inZone, rfl, rfl⟩) managed

/-- What a reconcile run has to find for leaving no drift. -/
structure Tidy (configs : List CloudflareZoneConfig) (services : List Service)
    (zones : Zones) : Prop where
  lower : ∀ service ∈ services, ∀ config,
    findMatchingZone configs service.domain.value = some config →
      Text.lower service.domain.value = service.domain.value
  alone : ∀ service ∈ services, ∀ config,
    findMatchingZone configs service.domain.value = some config →
      ∀ payload, servicePayload config service = .ok payload →
        SettlesAlone payload (zones.contents config.zoneId service.domain.value)
  agreed : ∀ service ∈ services, ∀ config,
    findMatchingZone configs service.domain.value = some config →
      ∀ payload, servicePayload config service = .ok payload →
        ∀ other ∈ configs, other.zoneId = config.zoneId →
          ∃ expected, servicePayload other service = .ok expected ∧
            if expected.type = payload.type then SaysSame payload expected
            else Shows expected (zones.contents config.zoneId service.domain.value)
  orphans : ∀ config ∈ configs, ∀ record ∈ zones.records, record.zoneId = config.zoneId →
    IsManaged record → record.payload.name ∉ currentDomains configs services config.zoneId →
      zoneServices configs services config.zoneId ≠ [] ∧
        matchingZoneId configs record.payload.name = some config.zoneId

private theorem isManagedAddress_of_built {config : CloudflareZoneConfig} {service : Service}
    {payload : DnsRecordPayload} (built : servicePayload config service = .ok payload) :
    IsManagedAddress payload := by
  refine ⟨(servicePayload_ok built).2, ?_⟩
  unfold servicePayload buildServiceRecordPayload at built
  generalize Text.strip (orElse (config.recordTarget.getD "") service.upstream.host) = content
    at built
  simp only at built
  split at built
  · exact absurd built (by simp)
  · rw [← Except.ok.inj built]
    unfold detectRecordType
    split <;> simp

/-- After a quiet run the services are healthy when the configurations of one zone agree. -/
theorem Quiet.healthy_iff {start : Zones} (quiet : Quiet api configs services start)
    (contents : ∀ config ∈ configs, ∀ name, zones.contents config.zoneId name =
      passed configs services config.zoneId name (start.contents config.zoneId name)) :
    (∀ config ∈ configs, ∀ service ∈ zoneServices configs services config.zoneId,
      collectServiceDrift config (zones.ofZone config.zoneId) service = .ok .healthy) ↔
    ∀ service ∈ services, ∀ config,
      findMatchingZone configs service.domain.value = some config →
        ∀ payload, servicePayload config service = .ok payload →
          ∀ other ∈ configs, other.zoneId = config.zoneId →
            ∃ expected, servicePayload other service = .ok expected ∧
              if expected.type = payload.type then SaysSame payload expected
              else Shows expected (start.contents config.zoneId service.domain.value) := by
  have after {service : Service} {config other : CloudflareZoneConfig} (listed : service ∈ services)
      (matched : findMatchingZone configs service.domain.value = some config)
      (inConfigs : other ∈ configs) (sameZone : other.zoneId = config.zoneId)
      {payload : DnsRecordPayload} (built : servicePayload config service = .ok payload) :
      zones.contents other.zoneId service.domain.value =
        settle payload (start.contents config.zoneId service.domain.value) := by
    have member : service ∈ zoneServices configs services other.zoneId := by
      refine List.mem_filter.mpr ⟨listed, decide_eq_true ?_⟩
      rw [matchingZoneId, matched, sameZone]
      rfl
    rw [contents other inConfigs, passed, quiet.serviceOf_domain member, Option.bind_some,
      payloadOf, matched, Option.bind_some, built, sameZone]
    rfl
  constructor
  · intro healthy service listed config matched payload built other inConfigs sameZone
    have member : service ∈ zoneServices configs services other.zoneId := by
      refine List.mem_filter.mpr ⟨listed, decide_eq_true ?_⟩
      rw [matchingZoneId, matched, sameZone]
      rfl
    obtain ⟨expected, isExpected, shown⟩ :=
      collectServiceDrift_eq_healthy.mp (healthy other inConfigs service member)
    rw [after listed matched inConfigs sameZone built, shows_settle] at shown
    exact ⟨expected, isExpected, shown⟩
  · intro agreed other inConfigs service member
    obtain ⟨listed, config, matched, sameZone⟩ := exists_of_mem_zoneServices member
    obtain ⟨payload, built⟩ := quiet.built service listed config matched
    obtain ⟨expected, isExpected, shown⟩ :=
      agreed service listed config matched payload built other inConfigs sameZone.symm
    refine collectServiceDrift_eq_healthy.mpr ⟨expected, isExpected, ?_⟩
    rw [after listed matched inConfigs sameZone.symm built, shows_settle]
    exact shown

/-- After a quiet run no zone has orphans when those of its start could all be removed. -/
theorem noOrphans_iff {start : Zones}
    (contents : ∀ config ∈ configs, ∀ name, zones.contents config.zoneId name =
      passed configs services config.zoneId name (start.contents config.zoneId name)) :
    (∀ config ∈ configs, collectOrphanRecords (zones.ofZone config.zoneId)
      (currentDomains configs services config.zoneId) = []) ↔
    ∀ config ∈ configs, ∀ record ∈ start.records, record.zoneId = config.zoneId →
      IsManaged record → record.payload.name ∉ currentDomains configs services config.zoneId →
        zoneServices configs services config.zoneId ≠ [] ∧
          matchingZoneId configs record.payload.name = some config.zoneId := by
  have after {config : CloudflareZoneConfig} (inConfigs : config ∈ configs) {name : String}
      (foreign : name ∉ currentDomains configs services config.zoneId) :
      zones.contents config.zoneId name =
        if zoneServices configs services config.zoneId ≠ [] ∧
            matchingZoneId configs name = some config.zoneId then
          (start.contents config.zoneId name).filter (·.comment ≠ managedRecordComment)
        else start.contents config.zoneId name := by
    rw [contents config inConfigs, passed, serviceOf_eq_none foreign]
    rfl
  constructor
  · intro none config inConfigs record inStart inZone managed foreign
    by_contra stays
    refine collectOrphanRecords_eq_nil.mp (none config inConfigs) record.payload.name foreign
      record.payload ?_ managed
    rw [after inConfigs foreign, if_neg stays]
    exact mem_contents.mpr ⟨record, inStart, inZone, rfl, rfl⟩
  · intro removable config inConfigs
    refine collectOrphanRecords_eq_nil.mpr fun name foreign payload member managed => ?_
    rw [after inConfigs foreign] at member
    split at member
    · exact of_decide_eq_true (List.mem_filter.mp member).2 managed
    · rename_i stays
      obtain ⟨record, inStart, inZone, rfl, rfl⟩ := mem_contents.mp member
      exact stays (removable config inConfigs record inStart inZone managed foreign)

/-- The report is clean after a run that says it had no failure, and every service that
belongs to a zone then has one managed address record there, the one of its payload. -/
def LeavesNoDrift (api : Api) (configs : List CloudflareZoneConfig) (services : List Service)
    (zones : Zones) : Prop :=
  (reconcileRun api configs zones services).vars.summary.result.success = true →
    (driftReport api configs (reconcileRun api configs zones services).zones services).Clean ∧
    ∀ service ∈ services, ∀ config,
      findMatchingZone (configs.map (named zones.zoneName)) service.domain.value = some config →
        ∃ payload, servicePayload config service = .ok payload ∧
          ((reconcileRun api configs zones services).zones.contents config.zoneId
            (Text.lower service.domain.value)).filter IsManagedAddress = [lowered payload]

private theorem zoneName_reconcileRun (api : Api) (configs : List CloudflareZoneConfig)
    (zones : Zones) (services : List Service) :
    (reconcileRun api configs zones services).zones.zoneName = zones.zoneName :=
  (Program.Ensures.finalState
    (fun next => Sound (configs.map (named zones.zoneName)) services zones next)
    ((ensures_reconcileCloudflareDnsRecords configs services zones).mono
      (fun _ _ done => done.1) fun _ _ raised => raised.1)).zoneNames

/-- After a quiet run the report is clean, and the records are the payloads', exactly when
the zones were tidy. -/
theorem Quiet.clean_iff_tidy {start : Zones} (quiet : Quiet api configs services start)
    (contents : ∀ config ∈ configs, ∀ name, zones.contents config.zoneId name =
      passed configs services config.zoneId name (start.contents config.zoneId name)) :
    ((∀ config ∈ configs, NoDrift configs services zones config) ∧
      ∀ service ∈ services, ∀ config,
        findMatchingZone configs service.domain.value = some config →
          ∃ payload, servicePayload config service = .ok payload ∧
            (zones.contents config.zoneId (Text.lower service.domain.value)).filter
              IsManagedAddress = [lowered payload]) ↔
      Tidy configs services start := by
  have alone {service : Service} {config : CloudflareZoneConfig} (listed : service ∈ services)
      (matched : findMatchingZone configs service.domain.value = some config)
      {payload : DnsRecordPayload} (built : servicePayload config service = .ok payload) :
      (zones.contents config.zoneId (Text.lower service.domain.value)).filter
          IsManagedAddress = [lowered payload] ↔
        SettlesAlone payload (start.contents config.zoneId service.domain.value) := by
    have member : service ∈ zoneServices configs services config.zoneId := by
      refine List.mem_filter.mpr ⟨listed, decide_eq_true ?_⟩
      rw [matchingZoneId, matched]
      rfl
    obtain ⟨other, expected, isMatch, -, isBuilt, isPayload, -, -, isLower⟩ := quiet.payload member
    rw [matched] at isMatch
    cases isMatch
    rw [built] at isBuilt
    cases isBuilt
    rw [quiet.lower service listed config matched, contents config (findMatchingZone_mem matched),
      passed, quiet.serviceOf_domain member, Option.bind_some, isPayload, isLower]
    exact filter_settle (isManagedAddress_of_built built) _
  constructor
  · rintro ⟨noDrift, unique⟩
    refine ⟨quiet.lower, ?_, ?_, ?_⟩
    · intro service listed config matched payload built
      obtain ⟨payload', built', isAlone⟩ := unique service listed config matched
      rw [built] at built'
      cases built'
      exact (alone listed matched built).mp isAlone
    · exact (quiet.healthy_iff contents).mp fun config inConfigs => (noDrift config inConfigs).1
    · exact (noOrphans_iff contents).mp fun config inConfigs => (noDrift config inConfigs).2
  · intro tidy
    refine ⟨fun config inConfigs => ⟨?_, ?_⟩, fun service listed config matched => ?_⟩
    · exact (quiet.healthy_iff contents).mpr tidy.agreed config inConfigs
    · exact (noOrphans_iff contents).mpr tidy.orphans config inConfigs
    · obtain ⟨payload, built⟩ := quiet.built service listed config matched
      exact ⟨payload, built,
        (alone listed matched built).mpr (tidy.alone service listed config matched payload built)⟩

/-- A run without failures leaves no drift exactly when the zones are tidy at its start,
unless no service belongs to a zone or some payload cannot be built. -/
theorem leavesNoDrift_iff (calm : api.Calm) (configs : List CloudflareZoneConfig) (zones : Zones)
    (services : List Service) (distinct : (services.map (·.domain.value)).Nodup) :
    LeavesNoDrift api configs services zones ↔
      (zoneEntries (configs.map (named zones.zoneName)) services ≠ [] →
        AllBuilt (configs.map (named zones.zoneName)) services →
          Tidy (configs.map (named zones.zoneName)) services zones) := by
  by_cases noConfigs : configs = []
  · subst noConfigs
    have failed : (reconcileRun api [] zones services).vars.summary.result.success = false := by
      refine Program.Ensures.finalState
        (fun last : Call Reconcile => last.vars.summary.result.success = false) ?_
      unfold reconcileCloudflareDnsRecords
      rw [if_pos rfl, Program.ensures_pure]
      rfl
    have noEntries : zoneEntries [] services = [] := by
      simp [zoneEntries, matchingZoneId, findMatchingZone]
    refine ⟨fun _ someEntry => absurd noEntries someEntry, fun _ success => ?_⟩
    rw [failed] at success
    cases success
  · unfold LeavesNoDrift
    rw [calm.success_reconcileRun noConfigs, driftReport_clean_iff calm, zoneName_reconcileRun]
    simp only [ne_eq, noConfigs, not_false_eq_true, true_and]
    by_cases noEntries : zoneEntries (configs.map (named zones.zoneName)) services = []
    · refine ⟨fun _ someEntry => absurd noEntries someEntry, fun _ _ => ⟨.inl noEntries, ?_⟩⟩
      intro service listed config matched
      have entry : (service, config.zoneId) ∈
          zoneEntries (configs.map (named zones.zoneName)) services :=
        List.mem_filterMap.mpr ⟨service, listed, by simp [matchingZoneId, matched]⟩
      rw [noEntries] at entry
      cases entry
    · simp only [noEntries, not_false_eq_true, true_imp_iff, false_or]
      refine imp_congr_right fun allBuilt => ?_
      by_cases lower : ∀ service ∈ services, ∀ config,
          findMatchingZone (configs.map (named zones.zoneName)) service.domain.value = some config →
            Text.lower service.domain.value = service.domain.value
      · have quiet : Quiet api (configs.map (named zones.zoneName)) services zones :=
          ⟨calm, named_map zones.zoneName configs, distinct, lower, allBuilt⟩
        exact quiet.clean_iff_tidy (quiet.contents_reconcileRun noConfigs)
      · refine ⟨fun clean => absurd ?_ lower, fun tidy => absurd tidy.lower lower⟩
        intro service listed config matched
        by_contra capital
        have member : service ∈ zoneServices (configs.map (named zones.zoneName)) services
            config.zoneId := by
          refine List.mem_filter.mpr ⟨listed, decide_eq_true ?_⟩
          rw [matchingZoneId, matched]
          rfl
        obtain ⟨payload, -, record, found, -⟩ := collectServiceDrift_eq_healthy.mp
          ((clean.1 config (findMatchingZone_mem matched)).1 service member)
        rw [contents_of_capital capital] at found
        cases found

def appService : Service := { capitalService with
  domain := ⟨"app.example.com", by decide +kernel⟩ }

/-- A zone in which the record of the service is out of date, and one is left of a service that is
gone. -/
def staleZones : Zones where
  records :=
    [{ id := "1", zoneId := "zone-1"
       payload :=
        { type := "CNAME", name := "app.example.com", content := "formerly", ttl := 1
          proxied := false, comment := managedRecordComment } },
     { id := "2", zoneId := "zone-1"
       payload :=
        { type := "A", name := "old.example.com", content := "10.0.0.9", ttl := 1
          proxied := false, comment := managedRecordComment } },
     { id := "3", zoneId := "zone-1"
       payload :=
        { type := "A", name := "www.example.com", content := "10.0.0.8", ttl := 300
          proxied := true, comment := "" } }]
  ids_nodup := by decide
  ids_nonempty := by decide
  names_lower := by decide +kernel

private theorem tidy_staleZones : Tidy [exampleZone] [appService] staleZones := by
  have only : ∀ service ∈ [appService], ∀ config,
      findMatchingZone [exampleZone] service.domain.value = some config →
        service = appService ∧ config = exampleZone := by
    intro service listed config matched
    cases List.mem_singleton.mp listed
    exact ⟨rfl, List.mem_singleton.mp (findMatchingZone_mem matched)⟩
  have built : servicePayload exampleZone appService = .ok
      { type := "CNAME", name := "app.example.com", content := "backend", ttl := 1
        proxied := false, comment := managedRecordComment } := by
    decide +kernel
  constructor
  · intro service listed config matched
    obtain ⟨rfl, rfl⟩ := only service listed config matched
    decide +kernel
  · intro service listed config matched payload isBuilt
    obtain ⟨rfl, rfl⟩ := only service listed config matched
    cases built.symm.trans isBuilt
    have stored : staleZones.contents exampleZone.zoneId appService.domain.value =
        [{ type := "CNAME", name := "app.example.com", content := "formerly", ttl := 1
           proxied := false, comment := managedRecordComment }] := by
      decide +kernel
    rw [stored]
    simp [SettlesAlone, DnsRecordPayload.sameRecord]
  · intro service listed config matched payload isBuilt other isOther same
    obtain ⟨rfl, rfl⟩ := only service listed config matched
    cases List.mem_singleton.mp isOther
    cases built.symm.trans isBuilt
    exact ⟨_, built, by rw [if_pos rfl]; exact ⟨rfl, rfl⟩⟩
  · decide +kernel

theorem leavesNoDrift_iff_example :
    LeavesNoDrift calmApi [exampleZone] [appService] staleZones ∧
      (reconcileRun calmApi [exampleZone] staleZones [appService]).vars.summary.result.success =
        true ∧
      ((reconcileRun calmApi [exampleZone] staleZones [appService]).zones.records.map
        fun record => (record.payload.name, record.payload.content)) =
          [("app.example.com", "backend"), ("www.example.com", "10.0.0.8")] :=
  ⟨(leavesNoDrift_iff (fun _ => rfl) [exampleZone] staleZones [appService]
    (List.nodup_singleton _)).mpr fun _ _ => tidy_staleZones, by decide +kernel, by decide +kernel⟩
/-- A zone for which no service is left. -/
def deserted : CloudflareZoneConfig := { zoneId := "zone-2", zoneName := some "example.net" }

def desertedZones : Zones where
  records :=
    [{ id := "1", zoneId := "zone-2"
       payload :=
        { type := "A", name := "old.example.net", content := "10.0.0.9", ttl := 1
          proxied := false, comment := managedRecordComment } }]
  ids_nodup := by decide
  ids_nonempty := by decide
  names_lower := by decide +kernel

/-- The zone without services is not cleaned up, and the diagnosis finds its orphan. -/
theorem not_leavesNoDrift :
    ¬∀ (api : Api) (configs : List CloudflareZoneConfig) (services : List Service)
      (zones : Zones), api.Calm → (services.map (·.domain.value)).Nodup →
        LeavesNoDrift api configs services zones := by
  intro always
  have leaves := always calmApi [exampleZone, deserted] [appService] desertedZones (fun _ => rfl)
    (List.nodup_singleton _)
  have succeeded : (reconcileRun calmApi [exampleZone, deserted] desertedZones
      [appService]).vars.summary.result.success = true := by
    decide +kernel
  have reported : (driftReport calmApi [exampleZone, deserted]
      (reconcileRun calmApi [exampleZone, deserted] desertedZones [appService]).zones
      [appService]).orphanRecords ≠ [] := by
    decide +kernel
  exact reported (leaves succeeded).1.2.2.2

end Drift

end TraefikManager.Cloudflare
