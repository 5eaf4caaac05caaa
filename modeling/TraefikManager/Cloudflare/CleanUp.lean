import TraefikManager.Cloudflare.Reconcile

/-!
# Which records a reconcile run deletes

A record is listed in one zone and deleted in the zone its name matches, and it is
listed as an orphan when its name, in lower case, is no domain of the zone, as it is
written. The run deletes orphans only, and counts them right, when no orphan it can
come across lies in a zone nested in its own or has the name of a service.
-/

namespace TraefikManager.Cloudflare

open Foundation Domain Proxy

section Property

def IsManaged (record : DnsRecord) : Prop := record.payload.comment = managedRecordComment

instance : DecidablePred IsManaged := fun record =>
  inferInstanceAs (Decidable (record.payload.comment = managedRecordComment))

/-- How many records were removed. -/
def Reconcile.removedCount (vars : Reconcile) : Nat :=
  (vars.cleanUps.flatMap CleanUp.removed).length

/-- A run deleted managed records of the zones it listed them in, none of them under the
domain of a service, and counted them. -/
structure DeletesOnlyOrphans (services : List Service) (run : Reconcile) : Prop where
  spared : ∀ cleanUp ∈ run.cleanUps, ∀ record ∈ cleanUp.removed, ∀ service ∈ services,
    Text.lower service.domain.value ≠ Text.lower record.payload.name
  managed : ∀ cleanUp ∈ run.cleanUps, ∀ record ∈ cleanUp.removed,
    IsManaged record ∧ record.zoneId = cleanUp.listedIn
  counted : run.summary.cleanedCount = run.removedCount

/-- The record of a service can be built for the zone it belongs to. -/
def Buildable (configs : List CloudflareZoneConfig) (service : Service) : Prop :=
  ∃ config payload, findMatchingZone configs service.domain.value = some config ∧
    servicePayload config service = .ok payload

/-- No record the run would take for an orphan belongs to a service or to another zone:
a service's domain, in lower case, is a domain of its zone, and a managed record that is
none of the domains of its zone has a name that matches this zone and is no service's
domain, ignoring case. -/
structure OrphansApart (configs : List CloudflareZoneConfig) (services : List Service)
    (zones : Zones) : Prop where
  lowered : ∀ zoneId, ∀ service ∈ zoneServices configs services zoneId,
    Buildable configs service →
      Text.lower service.domain.value ∈ currentDomains configs services zoneId
  apart : ∀ record ∈ zones.records, IsManaged record →
    zoneServices configs services record.zoneId ≠ [] →
    record.payload.name ∉ currentDomains configs services record.zoneId →
      matchingZoneId configs record.payload.name = some record.zoneId ∧
        ∀ service ∈ services, Text.lower service.domain.value ≠ record.payload.name

end Property

section Upserting

variable {api : Api} {zones : Zones} {zoneId : String} {payload : DnsRecordPayload}

theorem find_upserted_name {record : DnsRecord}
    (found : (zones.find zoneId payload.name (some payload.type)).head? = some record) :
    record ∈ zones.records ∧ record.zoneId = zoneId ∧
      record.payload.name = Text.lower payload.name ∧ record.payload.type = payload.type := by
  have member := List.mem_of_mem_head? found
  unfold Zones.find findDnsRecords at member
  rw [List.mem_filter, decide_eq_true_eq] at member
  obtain ⟨inZones, inZone, hasName, isType⟩ := member
  rcases isType with absurdity | isType
  · cases absurdity
  · exact ⟨inZones, inZone, hasName, (Option.some.inj isType).symm⟩

/-- Upserting brings no record but the one of the payload. -/
theorem mem_upserted {record : DnsRecord}
    (member : record ∈ (zones.upserted api zoneId payload).2.records) :
    record ∈ zones.records ∨ record.zoneId = zoneId ∧ record.payload = lowered payload := by
  unfold Zones.upserted at member
  split at member
  · split at member
    · exact .inl member
    · obtain ⟨old, inZones, rfl⟩ := List.mem_map.mp member
      unfold Zones.rewritten
      split
      · rename_i isOld
        exact .inr ⟨isOld.1, rfl⟩
      · exact .inl inZones
  · rcases List.mem_append.mp member with old | new
    · exact .inl old
    · rw [List.mem_singleton.mp new]
      exact .inr ⟨rfl, rfl⟩

/-- Upserting keeps a record, or has it say what the payload does under the same name. -/
theorem mem_upserted_of_mem (api : Api) (zoneId : String) (payload : DnsRecordPayload)
    {record : DnsRecord} (member : record ∈ zones.records) :
    record ∈ (zones.upserted api zoneId payload).2.records ∨
      ∃ other ∈ (zones.upserted api zoneId payload).2.records, other.zoneId = record.zoneId ∧
        other.payload = lowered payload ∧ record.payload.name = (lowered payload).name := by
  unfold Zones.upserted
  split
  · rename_i existing found
    obtain ⟨inZones, inZone, hasName, -⟩ := find_upserted_name found
    split
    · exact .inl member
    · by_cases same : record.id = existing.id
      · have isExisting := Zones.eq_of_id member inZones same
        subst isExisting
        refine .inr ⟨_, List.mem_map_of_mem member, Zones.zoneId_rewritten, ?_, hasName⟩
        unfold Zones.rewritten
        rw [if_pos ⟨inZone, rfl⟩]
      · refine .inl (List.mem_map.mpr ⟨record, member, ?_⟩)
        unfold Zones.rewritten
        rw [if_neg fun both => same both.2]
  · exact .inl (List.mem_append_left _ member)

/-- A payload whose name is not in lower case is never taken to be there already. -/
theorem exists_upserted (api : Api) (zones : Zones) (zoneId : String)
    (capital : payload.name ≠ Text.lower payload.name) :
    ∃ record ∈ (zones.upserted api zoneId payload).2.records, record.zoneId = zoneId ∧
      record.payload = lowered payload := by
  unfold Zones.upserted
  split
  · rename_i existing found
    obtain ⟨inZones, inZone, hasName, -⟩ := find_upserted_name found
    rw [if_neg]
    · refine ⟨_, List.mem_map_of_mem inZones, ?_, ?_⟩
      · rw [Zones.zoneId_rewritten, inZone]
      · unfold Zones.rewritten
        rw [if_pos ⟨inZone, rfl⟩]
    · intro same
      simp only [DnsRecordPayload.sameRecord, decide_eq_true_eq] at same
      exact capital (same.2.1.symm.trans hasName)
  · exact ⟨_, List.mem_append_right _ (List.mem_singleton_self _), rfl, rfl⟩

end Upserting

theorem servicePayload_ok {config : CloudflareZoneConfig} {service : Service}
    {payload : DnsRecordPayload} (built : servicePayload config service = .ok payload) :
    payload.name = service.domain.value ∧ payload.comment = managedRecordComment := by
  unfold servicePayload buildServiceRecordPayload at built
  generalize Text.strip (orElse (config.recordTarget.getD "") service.upstream.host) = content
    at built
  simp only at built
  split at built
  · exact absurd built (by simp)
  · rw [← Except.ok.inj built]
    exact ⟨rfl, rfl⟩

section Invariant

variable (configs : List CloudflareZoneConfig) (services : List Service) (start : Zones)

/-- The names a run can find managed records under in a zone: those it starts with, and
those of the records it writes. -/
def Known (zoneId name : String) : Prop :=
  (∃ record ∈ start.records, IsManaged record ∧ record.zoneId = zoneId ∧
    record.payload.name = name) ∨
  ∃ service ∈ zoneServices configs services zoneId, Buildable configs service ∧
    Text.lower service.domain.value = name

/-- What the run takes for an orphan of a zone. -/
structure Orphan (zoneId : String) (record : DnsRecord) : Prop where
  managed : IsManaged record
  inZone : record.zoneId = zoneId
  served : zoneServices configs services zoneId ≠ []
  foreign : record.payload.name ∉ currentDomains configs services zoneId
  known : Known configs services start zoneId record.payload.name

/-- The invariant of a run, whatever requests raise. -/
structure Sound (call : Call Reconcile) : Prop where
  zoneNames : call.zones.zoneName = start.zoneName
  known : ∀ record ∈ call.zones.records, IsManaged record →
    Known configs services start record.zoneId record.payload.name
  orphans : ∀ cleanUp ∈ call.vars.cleanUps, ∀ record ∈ cleanUp.removed,
    Orphan configs services start cleanUp.listedIn record ∧
      matchingZoneId configs record.payload.name = some cleanUp.listedIn
  bounded : call.vars.removedCount ≤ call.vars.summary.cleanedCount
  exact : OrphansApart configs services start →
    call.vars.summary.cleanedCount = call.vars.removedCount

/-- A record of the name was listed in the zone and removed, or some record was counted
without being removed. -/
def Blamed (zoneId name : String) (vars : Reconcile) : Prop :=
  (∃ cleanUp ∈ vars.cleanUps, cleanUp.listedIn = zoneId ∧
    ∃ record ∈ cleanUp.removed, record.payload.name = name) ∨
  vars.removedCount < vars.summary.cleanedCount

/-- The zone has a managed record of the name, unless the run is to blame. -/
def Tracked (zoneId name : String) (call : Call Reconcile) : Prop :=
  (∃ record ∈ call.zones.records, IsManaged record ∧ record.zoneId = zoneId ∧
    record.payload.name = name) ∨ Blamed zoneId name call.vars

/-- Later in the run. -/
structure Later (before after : Call Reconcile) : Prop where
  tracked : ∀ zoneId name, Tracked zoneId name before → Tracked zoneId name after
  blamed : ∀ zoneId name, Blamed zoneId name before.vars → Blamed zoneId name after.vars

theorem Later.refl (call : Call Reconcile) : Later call call :=
  ⟨fun _ _ tracked => tracked, fun _ _ blamed => blamed⟩

theorem Later.trans {first second third : Call Reconcile} (before : Later first second)
    (after : Later second third) : Later first third :=
  ⟨fun zoneId name tracked => after.tracked zoneId name (before.tracked zoneId name tracked),
    fun zoneId name blamed => after.blamed zoneId name (before.blamed zoneId name blamed)⟩

variable {configs services start} {api : Api} {call next : Call Reconcile}

private theorem Known.name_lower {zoneId name : String}
    (known : Known configs services start zoneId name) : Text.lower name = name := by
  rcases known with ⟨record, member, -, -, rfl⟩ | ⟨service, -, -, rfl⟩
  · exact start.names_lower record member
  · exact Text.lower_lower _

/-- With orphans apart, an orphan is nothing but an orphan. -/
theorem Orphan.spared {zoneId : String} {record : DnsRecord}
    (orphan : Orphan configs services start zoneId record)
    (apart : OrphansApart configs services start) :
    matchingZoneId configs record.payload.name = some zoneId ∧
      ∀ service ∈ services, Text.lower service.domain.value ≠ record.payload.name := by
  rcases orphan.known with ⟨old, member, managed, inZone, sameName⟩ |
    ⟨service, member, buildable, sameName⟩
  · have foreign := orphan.foreign
    rw [← sameName, ← inZone] at foreign ⊢
    exact apart.apart old member managed (inZone ▸ orphan.served) foreign
  · exact absurd (sameName ▸ apart.lowered zoneId service member buildable) orphan.foreign

/-- The clean-ups and what was counted of them. -/
def Reconcile.account (vars : Reconcile) : List CleanUp × Nat :=
  (vars.cleanUps, vars.summary.cleanedCount)

private theorem account_of_cleaning {vars vars' : Reconcile}
    (same : vars'.cleaning = vars.cleaning) : vars'.account = vars.account :=
  congrArg (fun cleaning => (cleaning.1, cleaning.2.1)) same

private theorem removedCount_of_account {vars vars' : Reconcile}
    (same : vars'.account = vars.account) :
    vars'.cleanUps = vars.cleanUps ∧ vars'.removedCount = vars.removedCount ∧
      vars'.summary.cleanedCount = vars.summary.cleanedCount := by
  obtain ⟨cleanUps, cleaned⟩ := Prod.mk.inj same
  exact ⟨cleanUps, by rw [Reconcile.removedCount, cleanUps, Reconcile.removedCount], cleaned⟩

private theorem Blamed.of_account {zoneId name : String} {vars vars' : Reconcile}
    (blamed : Blamed zoneId name vars) (same : vars'.account = vars.account) :
    Blamed zoneId name vars' := by
  obtain ⟨cleanUps, removed, cleaned⟩ := removedCount_of_account same
  unfold Blamed at blamed ⊢
  rwa [cleanUps, removed, cleaned]

/-- Zones that bring only known records keep the invariant. -/
theorem Sound.of_account (sound : Sound configs services start call)
    (zoneNames : next.zones.zoneName = call.zones.zoneName)
    (known : ∀ record ∈ next.zones.records, IsManaged record →
      Known configs services start record.zoneId record.payload.name)
    (same : next.vars.account = call.vars.account) : Sound configs services start next := by
  obtain ⟨cleanUps, removed, cleaned⟩ := removedCount_of_account same
  constructor
  · exact zoneNames.trans sound.zoneNames
  · exact known
  · rw [cleanUps]
    exact sound.orphans
  · rw [removed, cleaned]
    exact sound.bounded
  · rw [removed, cleaned]
    exact sound.exact

/-- Zones that stay as they are keep the invariant and the traces. -/
theorem Sound.of_sameZones (sound : Sound configs services start call)
    (sameZones : next.zones = call.zones) (same : next.vars.account = call.vars.account) :
    Sound configs services start next ∧ Later call next := by
  have blames : ∀ zone name, Blamed zone name call.vars → Blamed zone name next.vars :=
    fun zone name blamed => blamed.of_account same
  refine ⟨sound.of_account (by rw [sameZones]) (sameZones ▸ sound.known) same, ⟨?_, blames⟩⟩
  intro zone name
  unfold Tracked
  rw [sameZones]
  exact Or.imp_right (blames zone name)

/-- Local variables the invariant does not look at. -/
theorem Sound.setVars (sound : Sound configs services start call) {vars : Reconcile}
    (same : vars.account = call.vars.account) :
    Sound configs services start { call with vars := vars } :=
  sound.of_account rfl sound.known same

/-- A service that gets its record. -/
theorem Sound.upserted {service : Service} {config : CloudflareZoneConfig}
    {payload : DnsRecordPayload} (sound : Sound configs services start call)
    (listed : service ∈ services)
    (matched : findMatchingZone configs service.domain.value = some config)
    (built : servicePayload config service = .ok payload)
    (zonesAfter : next.zones = (call.zones.upserted api config.zoneId payload).2)
    (same : next.vars.account = call.vars.account) :
    Sound configs services start next ∧ Later call next ∧
      (Text.lower service.domain.value ≠ service.domain.value →
        Tracked config.zoneId (Text.lower service.domain.value) next) := by
  obtain ⟨sameName, isManaged⟩ := servicePayload_ok built
  refine ⟨sound.of_account (by rw [zonesAfter, Zones.zoneName_upserted]) ?_ same, ⟨?_, ?_⟩, ?_⟩
  · intro record member managed
    rw [zonesAfter] at member
    rcases mem_upserted member with old | ⟨inZone, isPayload⟩
    · exact sound.known record old managed
    · refine .inr ⟨service, ?_, ⟨config, payload, matched, built⟩, ?_⟩
      · refine List.mem_filter.mpr ⟨listed, decide_eq_true ?_⟩
        rw [matchingZoneId, matched, inZone]
        rfl
      · rw [isPayload, lowered, sameName]
  · rintro zoneId name (⟨record, member, managed, inZone, hasName⟩ | blamed)
    · rcases mem_upserted_of_mem api config.zoneId payload member with kept | ⟨other, inZones, sameZone, isPayload, keptName⟩
      · exact .inl ⟨record, zonesAfter ▸ kept, managed, inZone, hasName⟩
      · refine .inl ⟨other, zonesAfter ▸ inZones, ?_, sameZone.trans inZone, ?_⟩
        · rw [IsManaged, isPayload]
          exact isManaged
        · rw [isPayload, ← keptName, hasName]
    · exact .inr (blamed.of_account same)
  · exact fun zoneId name blamed => blamed.of_account same
  · intro capital
    rw [← sameName] at capital ⊢
    obtain ⟨record, member, inZone, isPayload⟩ :=
      exists_upserted api call.zones config.zoneId capital.symm
    refine .inl ⟨record, zonesAfter ▸ member, ?_, inZone, ?_⟩
    · rw [IsManaged, isPayload]
      exact isManaged
    · rw [isPayload]
      rfl

private theorem removedCount_note (vars : Reconcile) (cleanUp : CleanUp) :
    (vars.note cleanUp).removedCount = vars.removedCount + cleanUp.removed.length := by
  simp [Reconcile.removedCount, Reconcile.note]

/-- Counting and noting a clean-up takes no blame away. -/
theorem Blamed.noted {zoneId name : String} {vars : Reconcile} (blamed : Blamed zoneId name vars)
    {counted : Reconcile} (cleanUp : CleanUp) (sameCleanUps : counted.cleanUps = vars.cleanUps)
    (counts : vars.summary.cleanedCount + cleanUp.removed.length ≤ counted.summary.cleanedCount) :
    Blamed zoneId name (counted.note cleanUp) := by
  have sameRemoved : counted.removedCount = vars.removedCount := by
    rw [Reconcile.removedCount, sameCleanUps, Reconcile.removedCount]
  rcases blamed with ⟨earlier, member, inZone, hasName⟩ | more
  · refine .inl ⟨earlier, List.mem_append_left _ ?_, inZone, hasName⟩
    rwa [sameCleanUps]
  · right
    rw [removedCount_note, sameRemoved]
    change _ < counted.summary.cleanedCount
    omega

/-- A clean-up that failed. -/
theorem Sound.cleanupFailed {zoneId message : String}
    (sound : Sound configs services start call) (sameZones : next.zones = call.zones)
    (varsAfter : next.vars = (call.vars.cleanupFailed message).note ⟨zoneId, []⟩) :
    Sound configs services start next ∧ Later call next := by
  have noMore : next.vars.removedCount = call.vars.removedCount := by
    rw [varsAfter, removedCount_note]
    rfl
  have sameCount : next.vars.summary.cleanedCount = call.vars.summary.cleanedCount := by
    rw [varsAfter]
    rfl
  have blamed : ∀ zoneId name, Blamed zoneId name call.vars → Blamed zoneId name next.vars := by
    intro zoneId name blamed
    rw [varsAfter]
    exact blamed.noted _ rfl (Nat.le_refl _)
  refine ⟨⟨?_, ?_, ?_, ?_, ?_⟩, ⟨?_, blamed⟩⟩
  · rw [sameZones, sound.zoneNames]
  · rw [sameZones]
    exact sound.known
  · intro cleanUp member record removed
    rw [varsAfter] at member
    rcases List.mem_append.mp member with earlier | now
    · exact sound.orphans cleanUp earlier record removed
    · rw [List.mem_singleton.mp now] at removed
      cases removed
  · rw [noMore, sameCount]
    exact sound.bounded
  · rw [noMore, sameCount]
    exact sound.exact
  · rintro zone name (tracked | wasBlamed)
    · exact .inl (sameZones ▸ tracked)
    · exact .inr (blamed zone name wasBlamed)

private theorem Zones.mem_withoutRemoval {zones : Zones} {record other : DnsRecord} :
    other ∈ (zones.withoutRemoval configs record).records →
      other ∈ zones.records := by
  unfold Zones.withoutRemoval
  split
  · exact fun member => (Zones.mem_remove.mp member).1
  · exact id

/-- A record is still there, or it is the one that was removed. -/
theorem Zones.mem_or_removed (configs : List CloudflareZoneConfig) {zones : Zones}
    {record other : DnsRecord} (listed : record ∈ zones.records) (member : other ∈ zones.records) :
    other ∈ (zones.withoutRemoval configs record).records ∨
      other = record ∧ removal configs record = [record] := by
  unfold Zones.withoutRemoval removal
  split
  · by_cases same : other = record
    · exact .inr ⟨same, rfl⟩
    · refine .inl (Zones.mem_remove.mpr ⟨member, fun both => same ?_⟩)
      exact Zones.eq_of_id member listed both.2
  · exact .inl member

/-- A clean-up that was counted. The run is to blame for it from then on: it has either
removed the record or counted too much. -/
theorem Sound.cleaned {zoneId : String} {record : DnsRecord}
    (sound : Sound configs services start call) (listed : record ∈ call.zones.records)
    (orphan : Orphan configs services start zoneId record)
    (zonesAfter : next.zones = call.zones.withoutRemoval configs record)
    (varsAfter : next.vars = call.vars.cleaned.note ⟨zoneId, removal configs record⟩) :
    Sound configs services start next ∧ Later call next ∧
      Blamed zoneId record.payload.name next.vars := by
  have removedAfter : next.vars.removedCount =
      call.vars.removedCount + (removal configs record).length := by
    rw [varsAfter, removedCount_note]
    rfl
  have countAfter : next.vars.summary.cleanedCount = call.vars.summary.cleanedCount + 1 := by
    rw [varsAfter]
    rfl
  have atMostOne : (removal configs record).length ≤ 1 := by
    unfold removal
    split <;> simp
  have blames : ∀ zone name, Blamed zone name call.vars → Blamed zone name next.vars := by
    intro zone name blamed
    rw [varsAfter]
    exact blamed.noted _ rfl (Nat.add_le_add_left atMostOne _)
  have noted : (⟨zoneId, removal configs record⟩ : CleanUp) ∈ next.vars.cleanUps := by
    rw [varsAfter]
    exact List.mem_append_right _ (List.mem_singleton_self _)
  refine ⟨⟨?_, ?_, ?_, ?_, ?_⟩, ⟨?_, blames⟩, ?_⟩
  · rw [zonesAfter, ← sound.zoneNames]
    unfold Zones.withoutRemoval
    split <;> rfl
  · intro other member managed
    rw [zonesAfter] at member
    exact sound.known other (Zones.mem_withoutRemoval member) managed
  · intro cleanUp member other removed
    rw [varsAfter] at member
    rcases List.mem_append.mp member with earlier | now
    · exact sound.orphans cleanUp earlier other removed
    · rw [List.mem_singleton.mp now] at removed ⊢
      unfold removal at removed
      split at removed
      · rename_i matched
        rw [List.mem_singleton.mp removed]
        exact ⟨orphan, orphan.inZone ▸ matched⟩
      · cases removed
  · rw [removedAfter, countAfter]
    exact Nat.add_le_add sound.bounded atMostOne
  · intro apart
    have here := (orphan.spared apart).1
    rw [← orphan.inZone] at here
    rw [removedAfter, countAfter, sound.exact apart, removal, if_pos here]
    rfl
  · rintro zone name (⟨other, member, managed, inZone, hasName⟩ | blamed)
    · rcases Zones.mem_or_removed configs listed member with stays | ⟨isRecord, gone⟩
      · exact .inl ⟨other, zonesAfter ▸ stays, managed, inZone, hasName⟩
      · refine .inr (.inl ⟨_, noted, ?_, record, ?_, ?_⟩)
        · rw [← inZone, isRecord, orphan.inZone]
        · simp [gone]
        · rw [← hasName, isRecord]
    · exact .inr (blames zone name blamed)
  · by_cases matched : matchingZoneId configs record.payload.name = some record.zoneId
    · refine .inl ⟨_, noted, rfl, record, ?_, rfl⟩
      simp [removal, matched]
    · right
      rw [removedAfter, countAfter, removal, if_neg matched]
      exact Nat.lt_succ_of_le sound.bounded

end Invariant

section Runs

variable {configs : List CloudflareZoneConfig} {services : List Service} {start : Zones}
  {api : Api} {call : Call Reconcile}

theorem exists_of_mem_zoneServices {service : Service} {zoneId : String}
    (member : service ∈ zoneServices configs services zoneId) :
    service ∈ services ∧ ∃ config, findMatchingZone configs service.domain.value = some config ∧
      config.zoneId = zoneId := by
  unfold zoneServices matchingZoneId at member
  rw [List.mem_filter, decide_eq_true_eq] at member
  exact ⟨member.1, Option.map_eq_some_iff.mp member.2⟩

theorem Sound.named (sound : Sound configs services start call)
    (areNamed : Named start.zoneName configs) : Named call.zones.zoneName configs := by
  rwa [sound.zoneNames]

/-- One service of a zone. -/
theorem Sound.ensures_syncService {service : Service} {zoneId : String}
    (sound : Sound configs services start call) (areNamed : Named start.zoneName configs)
    (member : service ∈ zoneServices configs services zoneId) :
    Program.Ensures (syncService api configs service)
      (fun _ next => Sound configs services start next ∧ Later call next ∧
        (api.Calm → Buildable configs service →
          Text.lower service.domain.value ≠ service.domain.value →
            Tracked zoneId (Text.lower service.domain.value) next))
      (fun _ _ => False) call := by
  obtain ⟨listed, config, matched, rfl⟩ := exists_of_mem_zoneServices member
  refine (Cloudflare.ensures_syncService call (sound.named areNamed) matched).mono ?_
    (fun _ _ absurdity => absurdity)
  rintro _ next ⟨same, ⟨payload, built, zonesAfter, -⟩ | ⟨sameZones, unlessStorm⟩⟩
  · obtain ⟨stillSound, later, tracked⟩ :=
      sound.upserted listed matched built zonesAfter (account_of_cleaning same)
    exact ⟨stillSound, later, fun _ _ => tracked⟩
  · obtain ⟨stillSound, later⟩ := sound.of_sameZones sameZones (account_of_cleaning same)
    refine ⟨stillSound, later, ?_⟩
    rintro calm ⟨other, payload, isMatch, built⟩
    obtain ⟨⟨failure, failed⟩, -⟩ := unlessStorm calm
    rw [matched] at isMatch
    cases isMatch
    rw [built] at failed
    cases failed

/-- The loop over the services of a zone. -/
theorem Sound.ensures_syncServices {zoneId : String} (sound : Sound configs services start call)
    (areNamed : Named start.zoneName configs) :
    Program.Ensures (forM (zoneServices configs services zoneId) (syncService api configs))
      (fun _ next => Sound configs services start next ∧ Later call next ∧
        ∀ service ∈ zoneServices configs services zoneId, api.Calm → Buildable configs service →
          Text.lower service.domain.value ≠ service.domain.value →
            Tracked zoneId (Text.lower service.domain.value) next)
      (fun _ _ => False) call := by
  let invariant (rest : List Service) (next : Call Reconcile) : Prop :=
    Sound configs services start next ∧ Later call next ∧
      ∀ service ∈ zoneServices configs services zoneId, service ∈ rest ∨
        (api.Calm → Buildable configs service →
          Text.lower service.domain.value ≠ service.domain.value →
            Tracked zoneId (Text.lower service.domain.value) next)
  have holds : invariant (zoneServices configs services zoneId) call :=
    ⟨sound, .refl call, fun service member => .inl member⟩
  refine (Program.ensures_forM invariant holds ?_).mono ?_
    (fun _ _ absurdity => absurdity)
  · rintro service rest current member ⟨stillSound, later, done⟩
    refine (stillSound.ensures_syncService areNamed member).mono ?_ (fun _ _ absurdity => absurdity)
    rintro _ next ⟨soundNext, laterNext, doneNow⟩
    refine ⟨soundNext, later.trans laterNext, fun other inZone => ?_⟩
    rcases done other inZone with pending | before
    · rcases List.mem_cons.mp pending with rfl | pending
      · exact .inr doneNow
      · exact .inl pending
    · exact .inr fun calm buildable capital => laterNext.tracked _ _ (before calm buildable capital)
  · rintro _ next ⟨stillSound, later, done⟩
    refine ⟨stillSound, later, fun service member => ?_⟩
    exact (done service member).resolve_left (List.not_mem_nil)

/-- The loop over the orphans of a zone. -/
theorem Sound.ensures_cleanOrphans {zoneId : String} {orphans : List DnsRecord}
    (sound : Sound configs services start call) (areNamed : Named start.zoneName configs)
    (distinct : orphans.Nodup) (listed : ∀ record ∈ orphans, record ∈ call.zones.records)
    (areOrphans : ∀ record ∈ orphans, Orphan configs services start zoneId record) :
    Program.Ensures (forM orphans (cleanOrphan api configs zoneId))
      (fun _ next => Sound configs services start next ∧ Later call next ∧
        ∀ record ∈ orphans, api.Calm → Blamed zoneId record.payload.name next.vars)
      (fun _ _ => False) call := by
  let invariant (rest : List DnsRecord) (next : Call Reconcile) : Prop :=
    Sound configs services start next ∧ Later call next ∧ rest.Nodup ∧
      (∀ record ∈ rest, record ∈ next.zones.records) ∧
      ∀ record ∈ orphans, record ∈ rest ∨
        (api.Calm → Blamed zoneId record.payload.name next.vars)
  have holds : invariant orphans call :=
    ⟨sound, .refl call, distinct, listed, fun record member => .inl member⟩
  refine (Program.ensures_forM invariant holds ?_).mono ?_
    (fun _ _ absurdity => absurdity)
  · rintro record rest current member ⟨stillSound, later, distinct, listed, done⟩
    have here := listed record (List.mem_cons_self ..)
    refine (ensures_cleanOrphan zoneId current (stillSound.named areNamed) here).mono ?_
      (fun _ _ absurdity => absurdity)
    rintro _ next (⟨storm, sameZones, message, varsAfter⟩ | ⟨zonesAfter, varsAfter⟩)
    · obtain ⟨soundNext, laterNext⟩ := stillSound.cleanupFailed sameZones varsAfter
      refine ⟨soundNext, later.trans laterNext, distinct.of_cons, fun other pending => ?_,
        fun other inOrphans => .inr fun calm => absurd calm storm⟩
      rw [sameZones]
      exact listed other (List.mem_cons_of_mem _ pending)
    · obtain ⟨soundNext, laterNext, blamed⟩ :=
        stillSound.cleaned here (areOrphans record member) zonesAfter varsAfter
      refine ⟨soundNext, later.trans laterNext, distinct.of_cons, fun other pending => ?_,
        fun other inOrphans => ?_⟩
      · rw [zonesAfter]
        refine (Zones.mem_or_removed configs here
          (listed other (List.mem_cons_of_mem _ pending))).resolve_right ?_
        rintro ⟨rfl, -⟩
        exact (List.nodup_cons.mp distinct).1 pending
      · rcases done other inOrphans with pending | before
        · rcases List.mem_cons.mp pending with rfl | pending
          · exact .inr fun _ => blamed
          · exact .inl pending
        · exact .inr fun calm => laterNext.blamed _ _ (before calm)
  · rintro _ next ⟨stillSound, later, -, -, done⟩
    refine ⟨stillSound, later, fun record member => ?_⟩
    exact (done record member).resolve_left (List.not_mem_nil)

/-- The clean-up of a zone. -/
theorem Sound.ensures_cleanZone {config : CloudflareZoneConfig}
    (sound : Sound configs services start call) (areNamed : Named start.zoneName configs)
    (served : zoneServices configs services config.zoneId ≠ []) :
    Program.Ensures
      (cleanZone api configs config (currentDomains configs services config.zoneId))
      (fun _ next => Sound configs services start next ∧ Later call next ∧
        (api.Calm → ∀ name, name ∉ currentDomains configs services config.zoneId →
          Tracked config.zoneId name call → Blamed config.zoneId name next.vars))
      (fun _ _ => False) call := by
  unfold cleanZone
  rw [Program.ensures_bind, Program.ensures_attempt]
  refine ((reads_listManagedRecords config).ensures call).mono ?_ ?_
  · rintro managedRecords next ⟨same, rfl⟩
    obtain ⟨sameZones, -, sameVars⟩ : next.zones = call.zones ∧ next.stored = call.stored ∧
        next.vars = call.vars := by simpa [Call.contents] using same
    obtain ⟨sameSound, nextLater⟩ := sound.of_sameZones sameZones (by rw [sameVars])
    refine (sameSound.ensures_cleanOrphans areNamed ?_ ?_ ?_).mono ?_
      (fun _ _ absurdity => absurdity)
    · exact nodup_orphansOf services call.zones config.zoneId
    · intro record member
      rw [sameZones]
      exact (mem_orphansOf.mp member).1
    · intro record member
      obtain ⟨inZones, inZone, managed, foreign⟩ := mem_orphansOf.mp member
      exact ⟨managed, inZone, served, foreign, inZone ▸ sound.known record inZones managed⟩
    · rintro _ final ⟨finalSound, later, blamed⟩
      refine ⟨finalSound, nextLater.trans later, fun calm name foreign tracked => ?_⟩
      rcases tracked with ⟨record, member, managed, inZone, rfl⟩ | wasBlamed
      · exact blamed record (mem_orphansOf.mpr ⟨member, inZone, managed, foreign⟩) calm
      · exact later.blamed _ _ (nextLater.blamed _ _ wasBlamed)
  · rintro failure next ⟨same, storm⟩
    obtain ⟨sameZones, -, sameVars⟩ : next.zones = call.zones ∧ next.stored = call.stored ∧
        next.vars = call.vars := by simpa [Call.contents] using same
    rw [ensures_setVars]
    refine and_assoc.mp ⟨sound.of_sameZones sameZones ?_, fun calm => absurd calm storm⟩
    rw [sameVars]
    rfl

/-- One zone. -/
theorem Sound.ensures_reconcileZone (config : CloudflareZoneConfig)
    (sound : Sound configs services start call) (areNamed : Named start.zoneName configs) :
    Program.Ensures (reconcileZone api configs (zoneEntries configs services) config)
      (fun _ next => Sound configs services start next ∧ Later call next ∧
        (api.Calm → zoneServices configs services config.zoneId ≠ [] →
          ∀ name, name ∉ currentDomains configs services config.zoneId →
            (Tracked config.zoneId name call ∨
              ∃ service ∈ zoneServices configs services config.zoneId,
                Buildable configs service ∧ Text.lower service.domain.value = name) →
            Blamed config.zoneId name next.vars))
      (fun _ _ => False) call := by
  unfold reconcileZone
  simp only [servicesOf_zoneEntries]
  rw [Program.ensures_bind]
  refine (sound.ensures_syncServices areNamed).mono ?_ (fun _ _ absurdity => absurdity)
  rintro _ middle ⟨middleSound, toMiddle, written⟩
  split
  · rename_i unserved
    rw [Program.ensures_pure]
    exact ⟨middleSound, toMiddle, fun _ served => absurd unserved served⟩
  · rename_i served
    refine (middleSound.ensures_cleanZone areNamed served).mono ?_ (fun _ _ absurdity => absurdity)
    rintro _ next ⟨nextSound, toNext, blamed⟩
    refine ⟨nextSound, toMiddle.trans toNext, fun calm _ name foreign reached => ?_⟩
    apply blamed calm name foreign
    rcases reached with tracked | ⟨service, member, buildable, rfl⟩
    · exact toMiddle.tracked _ _ tracked
    · apply written service member calm buildable
      intro isLower
      rw [isLower] at foreign
      exact foreign (List.mem_map_of_mem member)

/-- Every name that the run knows in a zone, and that is no domain of it, has led to a
removal or to a wrong count. -/
def AllBlamed (configs : List CloudflareZoneConfig) (services : List Service) (start : Zones)
    (vars : Reconcile) : Prop :=
  ∀ zoneId name, zoneServices configs services zoneId ≠ [] →
    name ∉ currentDomains configs services zoneId → Known configs services start zoneId name →
      Blamed zoneId name vars

/-- The loop over the zones. -/
theorem Sound.ensures_reconcileZones (sound : Sound configs services start call)
    (areNamed : Named start.zoneName configs) (sameZones : call.zones = start) :
    Program.Ensures (forM configs (reconcileZone api configs (zoneEntries configs services)))
      (fun _ next => Sound configs services start next ∧
        (api.Calm → AllBlamed configs services start next.vars))
      (fun _ _ => False) call := by
  let invariant (rest : List CloudflareZoneConfig) (next : Call Reconcile) : Prop :=
    Sound configs services start next ∧ Later call next ∧
      ∀ config ∈ configs, config ∈ rest ∨ (api.Calm →
        zoneServices configs services config.zoneId ≠ [] →
        ∀ name, name ∉ currentDomains configs services config.zoneId →
          Known configs services start config.zoneId name →
            Blamed config.zoneId name next.vars)
  have holds : invariant configs call := ⟨sound, .refl call, fun config member => .inl member⟩
  refine (Program.ensures_forM invariant holds ?_).mono ?_ (fun _ _ absurdity => absurdity)
  · rintro config rest current member ⟨stillSound, later, done⟩
    refine (stillSound.ensures_reconcileZone config areNamed).mono ?_
      (fun _ _ absurdity => absurdity)
    rintro _ next ⟨nextSound, toNext, blamed⟩
    refine ⟨nextSound, later.trans toNext, fun other inConfigs => ?_⟩
    rcases done other inConfigs with pending | before
    · rcases List.mem_cons.mp pending with rfl | pending
      · refine .inr fun calm served name foreign known => ?_
        apply blamed calm served name foreign
        rcases known with old | written
        · exact .inl (later.tracked _ _ (.inl (sameZones ▸ old)))
        · exact .inr written
      · exact .inl pending
    · refine .inr fun calm served name foreign known => ?_
      exact toNext.blamed _ _ (before calm served name foreign known)
  · rintro _ next ⟨nextSound, -, done⟩
    refine ⟨nextSound, fun calm zoneId name served foreign known => ?_⟩
    obtain ⟨service, member⟩ := List.exists_mem_of_ne_nil _ served
    obtain ⟨-, config, matched, rfl⟩ := exists_of_mem_zoneServices member
    exact (done config (findMatchingZone_mem matched)).resolve_left (List.not_mem_nil)
      calm served name foreign known

private theorem sound_start (configs : List CloudflareZoneConfig) (services : List Service)
    (start : Zones) : Sound configs services start (startReconcile start services) := by
  constructor
  · rfl
  · exact fun record member managed => .inl ⟨record, member, managed, rfl, rfl⟩
  · intro cleanUp member
    cases member
  · exact Nat.le_refl 0
  · exact fun _ => rfl

/-- The run from the grouping of the services on. -/
theorem Sound.ensures_reconcile (sound : Sound configs services start call)
    (areNamed : Named start.zoneName configs) (sameZones : call.zones = start) :
    Program.Ensures (reconcileZones api configs services)
      (fun _ next => Sound configs services start next ∧
        (api.Calm → AllBlamed configs services start next.vars))
      (fun _ next => Sound configs services start next ∧ ¬api.Calm) call := by
  have unseen : ∀ (_ : Service) (vars : Reconcile), vars.skip.account = vars.account :=
    fun _ _ => rfl
  unfold reconcileZones groupServices
  simp only [Program.ensures_bind, ensures_setVars]
  have counted : Sound configs services start
      { call with vars := call.vars.setTotal services.length } := sound.setVars rfl
  refine (ensures_groupByZone Reconcile.account unseen services
    { call with vars := call.vars.setTotal services.length } (counted.named areNamed)).mono ?_ ?_
  · rintro grouped next ⟨zonesKept, accountKept, rfl⟩
    have nextSound := (sound.of_sameZones zonesKept accountKept).1
    have eligible : Sound configs services start
        { next with
          vars := next.vars.setEligible (zoneEntries configs services).length } :=
      nextSound.setVars rfl
    refine (eligible.ensures_reconcileZones areNamed (zonesKept.trans sameZones)).mono ?_ (fun _ _ absurdity => absurdity.elim)
    rintro _ last ⟨lastSound, blamed⟩
    exact ⟨lastSound.setVars rfl,
      fun calm zoneId name served foreign known =>
        (blamed calm zoneId name served foreign known).of_account rfl⟩
  · rintro _ next ⟨zonesKept, accountKept, storm⟩
    exact ⟨(sound.of_sameZones zonesKept accountKept).1, storm⟩

/-- The part of a run that may raise. -/
theorem ensures_tryReconcile (nonempty : configs ≠ []) :
    Program.Ensures (tryReconcile api configs)
      (fun _ next => Sound (configs.map (named start.zoneName)) services start next ∧
        (api.Calm → AllBlamed (configs.map (named start.zoneName)) services start next.vars))
      (fun _ next => Sound (configs.map (named start.zoneName)) services start next ∧ ¬api.Calm)
      (startReconcile start services) := by
  have begun := sound_start (configs.map (named start.zoneName)) services start
  have reached {next : Call Reconcile} (same : next.contents = (startReconcile start services).contents) :
      Sound (configs.map (named start.zoneName)) services start next ∧ next.zones = start ∧
        next.stored = services := by
    obtain ⟨sameZones, sameStored, sameVars⟩ : next.zones = start ∧ next.stored = services ∧
        next.vars = (startReconcile start services).vars := by
      simpa [Call.contents, startReconcile] using same
    exact ⟨(begun.of_sameZones sameZones (by rw [sameVars])).1, sameZones, sameStored⟩
  unfold tryReconcile
  rw [Program.ensures_bind]
  refine ((reads_ensureZoneNames configs).ensures (startReconcile start services)).mono ?_
    fun _ first failed => ⟨(reached failed.1).1, failed.2⟩
  rintro filled first ⟨same, rfl⟩
  obtain ⟨firstSound, sameZones, sameStored⟩ := reached same
  have someZone : configs.map (named start.zoneName) ≠ [] := by simpa using nonempty
  rw [zones_startReconcile, requireZones_of_ne someZone]
  simp only [Program.ensures_bind, ensures_setVars, Program.ensures_pure]
  refine ((reads_ask fun _ stored => stored).ensures _).mono ?_ ?_
  · rintro _ second ⟨same', rfl⟩
    obtain ⟨zonesKept, -, varsKept⟩ : second.zones = first.zones ∧ second.stored = first.stored ∧
        second.vars = first.vars.setZoneCount _ := by simpa [Call.contents] using same'
    have secondSound := (firstSound.of_sameZones zonesKept (by rw [varsKept]; rfl)).1
    rw [sameStored]
    exact secondSound.ensures_reconcile (named_map start.zoneName configs)
      (zonesKept.trans sameZones)
  · rintro _ second ⟨same', storm⟩
    obtain ⟨zonesKept, -, varsKept⟩ : second.zones = first.zones ∧ second.stored = first.stored ∧
        second.vars = first.vars.setZoneCount _ := by simpa [Call.contents] using same'
    exact ⟨(firstSound.of_sameZones zonesKept (by rw [varsKept]; rfl)).1, storm⟩

/-- The whole run. -/
theorem ensures_reconcileCloudflareDnsRecords (configs : List CloudflareZoneConfig)
    (services : List Service) (start : Zones) :
    Program.Ensures (reconcileCloudflareDnsRecords api configs)
      (fun _ next => Sound (configs.map (named start.zoneName)) services start next ∧
        (api.Calm → AllBlamed (configs.map (named start.zoneName)) services start next.vars))
      (fun _ next => Sound (configs.map (named start.zoneName)) services start next ∧ ¬api.Calm)
      (startReconcile start services) := by
  unfold reconcileCloudflareDnsRecords
  split
  · rename_i noConfigs
    subst noConfigs
    rw [Program.ensures_pure]
    refine ⟨sound_start _ services start, fun _ zoneId name served => absurd ?_ served⟩
    unfold zoneServices matchingZoneId findMatchingZone
    simp
  · rename_i nonempty
    rw [Program.ensures_tryCatch]
    refine (ensures_tryReconcile nonempty).mono (fun _ _ done => done) ?_
    rintro failure next ⟨stillSound, storm⟩
    split
    · rw [ensures_setVars]
      exact ⟨stillSound.setVars rfl, fun calm => absurd calm storm⟩
    · rw [Program.ensures_throw]
      exact ⟨stillSound, storm⟩

end Runs

section Result

/-- A text longer than each of the given ones. -/
def longerText (texts : List String) : String := texts.foldr (· ++ ·) "0"

private theorem length_longerText_pos (texts : List String) : 0 < (longerText texts).length := by
  induction texts with
  | nil => decide
  | cons first rest ih =>
      change 0 < (first ++ longerText rest).length
      rw [String.length_append]
      exact Nat.lt_of_lt_of_le ih (Nat.le_add_left ..)

private theorem length_lt_longerText {texts : List String} {text : String} (member : text ∈ texts) :
    text.length < (longerText texts).length := by
  induction texts with
  | nil => cases member
  | cons first rest ih =>
      change _ < (first ++ longerText rest).length
      rw [String.length_append]
      rcases List.mem_cons.mp member with rfl | later
      · exact Nat.lt_add_of_pos_right (length_longerText_pos rest)
      · exact Nat.lt_of_lt_of_le (ih later) (Nat.le_add_left ..)

/-- An interface without failures, whose new keys are longer than all others. -/
def calmApi : Api where
  fails := fun _ => none
  newId := fun records => longerText (records.map DnsRecord.id)
  newId_fresh := fun _ member => Nat.lt_irrefl _ (length_lt_longerText member)
  newId_nonempty := by
    intro records isEmpty
    have positive := length_longerText_pos (records.map DnsRecord.id)
    rw [isEmpty] at positive
    exact Nat.lt_irrefl 0 positive

/-- With orphans apart, the invariant says that only orphans went. -/
theorem Sound.deletesOnlyOrphans {configs : List CloudflareZoneConfig} {services : List Service}
    {start : Zones} {call : Call Reconcile} (sound : Sound configs services start call)
    (apart : OrphansApart configs services start) : DeletesOnlyOrphans services call.vars := by
  constructor
  · intro cleanUp member record removed service listed
    obtain ⟨orphan, -⟩ := sound.orphans cleanUp member record removed
    rw [orphan.known.name_lower]
    exact (orphan.spared apart).2 service listed
  · intro cleanUp member record removed
    obtain ⟨orphan, -⟩ := sound.orphans cleanUp member record removed
    exact ⟨orphan.managed, orphan.inZone⟩
  · exact sound.exact apart

/-- Where only orphans went and all that could be taken for one has been dealt with, the
orphans are apart. -/
theorem orphansApart_of_blamed {configs : List CloudflareZoneConfig} {services : List Service}
    {start : Zones} {call : Call Reconcile} (sound : Sound configs services start call)
    (blamed : AllBlamed configs services start call.vars)
    (safe : DeletesOnlyOrphans services call.vars) : OrphansApart configs services start := by
  have spared : ∀ zoneId name, zoneServices configs services zoneId ≠ [] →
      name ∉ currentDomains configs services zoneId → Known configs services start zoneId name →
        matchingZoneId configs name = some zoneId ∧
          ∀ service ∈ services, Text.lower service.domain.value ≠ name := by
    intro zoneId name served foreign known
    rcases blamed zoneId name served foreign known with
      ⟨cleanUp, member, rfl, record, removed, rfl⟩ | miscounted
    · refine ⟨(sound.orphans cleanUp member record removed).2, fun service listed => ?_⟩
      rw [← known.name_lower]
      exact safe.spared cleanUp member record removed service listed
    · rw [safe.counted] at miscounted
      exact absurd miscounted (Nat.lt_irrefl _)
  constructor
  · intro zoneId service member buildable
    by_contra foreign
    have served : zoneServices configs services zoneId ≠ [] := List.ne_nil_of_mem member
    exact (spared zoneId _ served foreign (.inr ⟨service, member, buildable, rfl⟩)).2 service
      (exists_of_mem_zoneServices member).1 rfl
  · intro record member managed served foreign
    exact spared record.zoneId record.payload.name served foreign
      (.inl ⟨record, member, managed, rfl, rfl⟩)

/-- Whatever requests raise, a run only deletes orphans exactly when the orphans are apart
from the services and from the nested zones. -/
theorem deletesOnlyOrphans_iff (configs : List CloudflareZoneConfig) (services : List Service)
    (zones : Zones) :
    (∀ api : Api, DeletesOnlyOrphans services
      (Program.finalState (reconcileCloudflareDnsRecords api configs)
        (startReconcile zones services)).vars) ↔
      OrphansApart (configs.map (named zones.zoneName)) services zones := by
  have run (api : Api) := Program.Ensures.finalState
    (fun next => Sound (configs.map (named zones.zoneName)) services zones next ∧
      (api.Calm → AllBlamed (configs.map (named zones.zoneName)) services zones next.vars))
    ((ensures_reconcileCloudflareDnsRecords configs services zones).mono (fun _ _ done => done)
      fun _ _ ⟨sound, storm⟩ => ⟨sound, fun calm => absurd calm storm⟩)
  constructor
  · intro safe
    obtain ⟨sound, blamed⟩ := run calmApi
    exact orphansApart_of_blamed sound (blamed fun _ => rfl) (safe calmApi)
  · intro apart api
    exact (run api).1.deletesOnlyOrphans apart

def exampleZone : CloudflareZoneConfig := { zoneId := "zone-1", zoneName := some "example.com" }

def emptyZones : Zones where
  records := []
  ids_nodup := by decide
  ids_nonempty := by decide
  names_lower := by decide

def capitalService : Service where
  id := ⟨1⟩
  name := "app"
  domain := ⟨"App.example.com", by decide +kernel⟩
  upstream := ⟨"backend", 8080, by decide +kernel⟩
  tlsEnabled := true
  authEnabled := false

/-- A service whose domain has a capital letter: the record just written for it is listed
under another name, and goes. -/
theorem not_deletesOnlyOrphans :
    ¬∀ (configs : List CloudflareZoneConfig) (services : List Service) (zones : Zones) (api : Api),
      DeletesOnlyOrphans services
        (Program.finalState (reconcileCloudflareDnsRecords api configs)
          (startReconcile zones services)).vars := by
  intro always
  have run := always [exampleZone] [capitalService] emptyZones calmApi
  have gone : ∃ cleanUp ∈ (Program.finalState
      (reconcileCloudflareDnsRecords calmApi [exampleZone])
        (startReconcile emptyZones [capitalService])).vars.cleanUps,
      ∃ record ∈ cleanUp.removed,
        Text.lower capitalService.domain.value = Text.lower record.payload.name := by
    decide +kernel
  obtain ⟨cleanUp, member, record, removed, same⟩ := gone
  exact run.spared cleanUp member record removed capitalService (List.mem_singleton_self _) same

end Result

end TraefikManager.Cloudflare
