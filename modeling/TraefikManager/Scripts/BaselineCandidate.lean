import TraefikManager.Foundation.Collect
import TraefikManager.Scripts.BaselineFile

/-!
# What a baseline is made of

The timers that are enabled and active and the services they trigger are recorded, each unit
once and with its digest. This says for which states of systemd a baseline can be made, and
what it holds then.
-/

namespace TraefikManager.Scripts

open Foundation

variable {inventory : UnitInventory}

section Timers

/-- A line of the list that the loop does not skip. -/
def isEnabledEntry (entry : String × String) : Bool :=
  decide (entry.1 ≠ "" ∧ Text.startsWith "enabled" entry.2)

/-- A timer that is enabled and active. -/
def ActiveTimer (inventory : UnitInventory) (timer : String) : Prop :=
  ∃ listed, inventory.listedTimers = some listed ∧
    (∃ state, (timer, state) ∈ listed ∧ isEnabledEntry (timer, state) = true) ∧
      inventory.property timer "ActiveState" = some "active"

/-- What the loop over the list needs to get through: each enabled timer has a name that is
allowed and tells its state, and the last line is not that of an enabled timer that is not
active. -/
structure ListsTimers (inventory : UnitInventory) (listed : List (String × String)) : Prop where
  isList : inventory.listedTimers = some listed
  valid : ∀ entry ∈ listed, isEnabledEntry entry = true → validUnitName entry.1 = true
  answers : ∀ entry ∈ listed, isEnabledEntry entry = true →
    (inventory.property entry.1 "ActiveState").isSome = true
  last : ∀ entry ∈ listed.getLast?, isEnabledEntry entry = true →
    inventory.property entry.1 "ActiveState" = some "active"

variable (inventory) in
/-- Whether the loop gets past a line. -/
def entryReadable (entry : String × String) : Bool :=
  !isEnabledEntry entry ||
    (validUnitName entry.1 && (inventory.property entry.1 "ActiveState").isSome)

variable (inventory) in
/-- The status a line leaves. -/
def entryPasses (entry : String × String) : Bool :=
  !isEnabledEntry entry || inventory.property entry.1 "ActiveState" = some "active"

variable (inventory) in
def isActiveEntry (entry : String × String) : Bool :=
  isEnabledEntry entry && inventory.property entry.1 "ActiveState" = some "active"

private theorem activeTimers_eq (listed : List (String × String)) (timers : List String)
    (passed : Bool) : activeTimers inventory listed timers passed =
      if listed.all (entryReadable inventory) &&
          (listed.getLast?.map (entryPasses inventory)).getD passed then
        some (timers ++ (listed.filter (isActiveEntry inventory)).map Prod.fst)
      else none := by
  induction listed generalizing timers passed with
  | nil => cases passed <;> simp [activeTimers]
  | cons entry later ih =>
      obtain ⟨timer, state⟩ := entry
      have status : ((((timer, state) :: later).getLast?).map (entryPasses inventory)).getD passed =
          (later.getLast?.map (entryPasses inventory)).getD
            (entryPasses inventory (timer, state)) := by
        cases later <;> rfl
      rw [status, List.all_cons, List.filter_cons, activeTimers]
      by_cases enabled : isEnabledEntry (timer, state) = true
      · have isEnabled : timer ≠ "" ∧ Text.startsWith "enabled" state = true := by
          simpa [isEnabledEntry] using enabled
        rw [if_pos isEnabled]
        by_cases valid : validUnitName timer = true
        · rw [if_pos valid]
          cases active : inventory.property timer "ActiveState" with
          | none =>
              have unreadable : entryReadable inventory (timer, state) = false := by
                simp [entryReadable, enabled, active]
              rw [unreadable]
              rfl
          | some value =>
              have readable : entryReadable inventory (timer, state) = true := by
                simp [entryReadable, valid, active]
              rw [readable, Option.bind_some]
              by_cases isActive : value = "active"
              · have passes : entryPasses inventory (timer, state) = true := by
                  simp [entryPasses, active, isActive]
                have counts : isActiveEntry inventory (timer, state) = true := by
                  simp [isActiveEntry, enabled, active, isActive]
                rw [if_pos isActive, ih, passes, if_pos counts, List.map_cons, List.append_assoc]
                rfl
              · have fails : entryPasses inventory (timer, state) = false := by
                  simp [entryPasses, enabled, active, isActive]
                have skipped : ¬isActiveEntry inventory (timer, state) = true := by
                  simp [isActiveEntry, active, isActive]
                rw [if_neg isActive, ih, fails, if_neg skipped]
                rfl
        · have unreadable : entryReadable inventory (timer, state) = false := by
            simp [entryReadable, enabled, valid]
          rw [if_neg valid, unreadable]
          rfl
      · have notEnabled : ¬(timer ≠ "" ∧ Text.startsWith "enabled" state = true) := by
          simpa [isEnabledEntry] using enabled
        have readable : entryReadable inventory (timer, state) = true := by
          simp [entryReadable, enabled]
        have passes : entryPasses inventory (timer, state) = true := by
          simp [entryPasses, enabled]
        have skipped : ¬isActiveEntry inventory (timer, state) = true := by
          simp [isActiveEntry, enabled]
        rw [if_neg notEnabled, ih, readable, passes, if_neg skipped]
        rfl

/-- `list_active_enabled_timers` gives the timers that are enabled and active, when the list and
its last line allow it. -/
theorem listActiveEnabledTimers_eq_some_iff {timers : List String} :
    listActiveEnabledTimers inventory = some timers ↔
      ∃ listed, ListsTimers inventory listed ∧
        timers = (listed.filter (isActiveEntry inventory)).map Prod.fst := by
  unfold listActiveEnabledTimers
  cases isList : inventory.listedTimers with
  | none =>
      constructor
      · intro found
        cases found
      · rintro ⟨listed, lists, -⟩
        cases isList.symm.trans lists.isList
  | some listed =>
      rw [Option.bind_some, activeTimers_eq, List.nil_append]
      constructor
      · intro found
        split at found
        · rename_i gets
          obtain rfl := Option.some.inj found
          rw [Bool.and_eq_true, List.all_eq_true] at gets
          refine ⟨listed, ⟨isList, ?_, ?_, ?_⟩, rfl⟩
          · intro entry inList enabled
            have readable := gets.1 entry inList
            simp only [entryReadable, enabled, Bool.not_true, Bool.false_or, Bool.and_eq_true]
              at readable
            exact readable.1
          · intro entry inList enabled
            have readable := gets.1 entry inList
            simp only [entryReadable, enabled, Bool.not_true, Bool.false_or, Bool.and_eq_true]
              at readable
            exact readable.2
          · intro entry isLast enabled
            have passes := gets.2
            rw [Option.mem_def.mp isLast] at passes
            simpa [entryPasses, enabled] using passes
        · cases found
      · rintro ⟨other, lists, rfl⟩
        obtain rfl := Option.some.inj (isList.symm.trans lists.isList)
        refine if_pos ?_
        rw [Bool.and_eq_true, List.all_eq_true]
        constructor
        · intro entry inList
          by_cases enabled : isEnabledEntry entry = true
          · simp [entryReadable, lists.valid entry inList enabled,
              lists.answers entry inList enabled]
          · simp [entryReadable, enabled]
        · cases isLast : listed.getLast? with
          | none => rfl
          | some entry =>
              by_cases enabled : isEnabledEntry entry = true
              · simp [entryPasses, lists.last entry isLast enabled]
              · simp [entryPasses, enabled]

/-- The timers the loop gives are the active ones. -/
theorem ListsTimers.mem_iff {listed : List (String × String)} (lists : ListsTimers inventory listed)
    {timer : String} :
    timer ∈ (listed.filter (isActiveEntry inventory)).map Prod.fst ↔
      ActiveTimer inventory timer := by
  simp only [List.mem_map, List.mem_filter, isActiveEntry, Bool.and_eq_true, decide_eq_true_eq]
  constructor
  · rintro ⟨⟨name, state⟩, ⟨inList, enabled, active⟩, rfl⟩
    exact ⟨listed, lists.isList, ⟨state, inList, enabled⟩, active⟩
  · rintro ⟨other, isList, ⟨state, inList, enabled⟩, active⟩
    obtain rfl := Option.some.inj (lists.isList.symm.trans isList)
    exact ⟨(timer, state), ⟨inList, enabled, active⟩, rfl⟩

end Timers

section Records

/-- The units a baseline records, by their roles: the active timers and what they trigger. -/
inductive Recorded (inventory : UnitInventory) : String → String → Prop where
  | timer {timer : String} (active : ActiveTimer inventory timer) :
      Recorded inventory "timer" timer
  | service {timer service : String} {services : List String}
      (active : ActiveTimer inventory timer)
      (triggers : triggeredServices inventory timer = some services)
      (triggered : service ∈ services) : Recorded inventory "service" service

variable (inventory) in
/-- What `discover_units` notes of a timer. -/
def timerRecords (timer : String) : Option (List (String × String)) :=
  (triggeredServices inventory timer).map fun services =>
    ("timer", timer) :: services.map ("service", ·)

variable {timers : List String} {found : List (List (String × String))}
  {records : List (String × String)}

private theorem mem_flatten_iff (areActive : ∀ timer, timer ∈ timers ↔ ActiveTimer inventory timer)
    (noted : timers.mapM (timerRecords inventory) = some found) {record : String × String} :
    record ∈ found.flatten ↔ Recorded inventory record.1 record.2 := by
  rw [List.mem_flatten]
  constructor
  · rintro ⟨ofTimer, inFound, inRecords⟩
    obtain ⟨timer, inTimers, isNoted⟩ := exists_of_mem_mapM_some noted inFound
    obtain ⟨services, triggers, rfl⟩ := Option.map_eq_some_iff.mp isNoted
    have active := (areActive timer).mp inTimers
    obtain rfl | isService := List.mem_cons.mp inRecords
    · exact .timer active
    · obtain ⟨service, triggered, rfl⟩ := List.mem_map.mp isService
      exact .service active triggers triggered
  · obtain ⟨role, unit⟩ := record
    have notedOf : ∀ {timer}, ActiveTimer inventory timer → ∃ services,
        triggeredServices inventory timer = some services ∧
          ("timer", timer) :: services.map ("service", ·) ∈ found := by
      intro timer active
      obtain ⟨ofTimer, inFound, isNoted⟩ :=
        exists_of_mapM_some noted timer ((areActive timer).mpr active)
      obtain ⟨services, triggers, rfl⟩ := Option.map_eq_some_iff.mp isNoted
      exact ⟨services, triggers, inFound⟩
    intro isRecorded
    cases isRecorded with
    | timer active =>
        obtain ⟨services, -, inFound⟩ := notedOf active
        exact ⟨_, inFound, List.mem_cons_self⟩
    | service active triggers triggered =>
        obtain ⟨services, sameTriggers, inFound⟩ := notedOf active
        obtain rfl := Option.some.inj (triggers.symm.trans sameTriggers)
        exact ⟨_, inFound, List.mem_cons_of_mem _ (List.mem_map_of_mem triggered)⟩

/-- `sort -u` keeps a record for each unit. -/
theorem mem_sorted_iff (noted : List (String × String)) {unit : String} :
    unit ∈ ((((noted.map Prod.snd).dedup.insertionSort (· ≤ ·)).filterMap fun unit =>
      noted.find? fun record => record.2 = unit).map Prod.snd) ↔ unit ∈ noted.map Prod.snd := by
  simp only [List.mem_map, List.mem_filterMap, List.mem_insertionSort, List.mem_dedup]
  constructor
  · rintro ⟨record, ⟨_, -, isFound⟩, rfl⟩
    exact ⟨record, List.mem_of_find?_eq_some isFound, rfl⟩
  · rintro ⟨record, isNoted, rfl⟩
    have present : (noted.find? fun other => decide (other.2 = record.2)).isSome = true :=
      List.find?_isSome.mpr ⟨record, isNoted, decide_eq_true rfl⟩
    obtain ⟨first, isFound⟩ := Option.isSome_iff_exists.mp present
    have same : first.2 = record.2 := by simpa using List.find?_some isFound
    exact ⟨first, ⟨record.2, ⟨record, isNoted, rfl⟩, isFound⟩, same⟩

/-- What `discover_units` finds, and what that takes. -/
structure Discovers (inventory : UnitInventory) : Prop where
  lists : ∃ listed, ListsTimers inventory listed
  active : ∃ timer, ActiveTimer inventory timer
  triggers : ∀ timer, ActiveTimer inventory timer →
    (triggeredServices inventory timer).isSome = true

private theorem discovers_of_discoverUnits (discovered : discoverUnits inventory = some records) :
    Discovers inventory ∧
      (∀ record ∈ records, Recorded inventory record.1 record.2) ∧
        ∀ role unit, Recorded inventory role unit → unit ∈ records.map Prod.snd := by
  obtain ⟨timers, areListed, rest⟩ := Option.bind_eq_some_iff.mp discovered
  obtain ⟨listed, lists, isTimers⟩ := listActiveEnabledTimers_eq_some_iff.mp areListed
  have areActive : ∀ timer, timer ∈ timers ↔ ActiveTimer inventory timer := by
    intro timer
    rw [isTimers]
    exact lists.mem_iff
  split at rest
  · cases rest
  · rename_i nonempty
    obtain ⟨found, noted, rfl⟩ := Option.map_eq_some_iff.mp rest
    have isNoted : ∀ record, record ∈ found.flatten ↔ Recorded inventory record.1 record.2 :=
      fun record => mem_flatten_iff areActive noted
    refine ⟨⟨⟨listed, lists⟩, ?_, ?_⟩, ?_, ?_⟩
    · obtain ⟨timer, inTimers⟩ := List.exists_mem_of_ne_nil timers nonempty
      exact ⟨timer, (areActive timer).mp inTimers⟩
    · intro timer active
      obtain ⟨ofTimer, -, isSome⟩ := exists_of_mapM_some noted timer ((areActive timer).mpr active)
      obtain ⟨services, triggers, -⟩ := Option.map_eq_some_iff.mp isSome
      rw [triggers]
      rfl
    · intro record inRecords
      obtain ⟨unit, -, isFound⟩ := List.mem_filterMap.mp inRecords
      exact (isNoted record).mp (List.mem_of_find?_eq_some isFound)
    · intro role unit isRecorded
      rw [mem_sorted_iff]
      exact List.mem_map_of_mem (f := Prod.snd) ((isNoted (role, unit)).mpr isRecorded)

private theorem Discovers.isSome_discoverUnits (discovers : Discovers inventory) :
    (discoverUnits inventory).isSome = true := by
  obtain ⟨⟨listed, lists⟩, ⟨timer, active⟩, triggers⟩ := discovers
  have areListed := listActiveEnabledTimers_eq_some_iff.mpr ⟨listed, lists, rfl⟩
  have nonempty : (listed.filter (isActiveEntry inventory)).map Prod.fst ≠ [] :=
    List.ne_nil_of_mem (lists.mem_iff.mpr active)
  have noted : (((listed.filter (isActiveEntry inventory)).map Prod.fst).mapM
      (timerRecords inventory)).isSome = true := by
    apply mapM_isSome
    intro timer inTimers
    rw [timerRecords, Option.isSome_map]
    exact triggers timer (lists.mem_iff.mp inTimers)
  rw [discoverUnits, areListed, Option.bind_some, if_neg nonempty, Option.isSome_map]
  exact noted

end Records

section Candidate

variable {records : List (String × String)} {record : String × String} {line : BaselineLine}
  {candidate : List BaselineLine}

/-- What `build_baseline_candidate` asks of a unit. -/
structure Takes (inventory : UnitInventory) (role unit : String) : Prop where
  loaded : inventory.property unit "LoadState" = some "loaded"
  accepted : isCandidate inventory role unit = true
  hashed : (hashUnit inventory unit).isSome = true

/-- A line of the candidate. -/
structure Records (inventory : UnitInventory) (line : BaselineLine) : Prop where
  recorded : Recorded inventory line.role line.unit
  loaded : inventory.property line.unit "LoadState" = some "loaded"
  accepted : isCandidate inventory line.role line.unit = true
  hash : hashUnit inventory line.unit = some line.hash
  extra : line.extra = ""

/-- A state of systemd of which a baseline can be made. -/
structure Recordable (inventory : UnitInventory) : Prop where
  discovers : Discovers inventory
  takes : ∀ role unit, Recorded inventory role unit → Takes inventory role unit

private theorem candidateLine_spec (isLine : candidateLine inventory record = some line) :
    Takes inventory record.1 record.2 ∧ hashUnit inventory record.2 = some line.hash ∧
      line.role = record.1 ∧ line.unit = record.2 ∧ line.extra = "" := by
  unfold candidateLine at isLine
  split at isLine
  · rename_i taken
    rw [Bool.and_eq_true, decide_eq_true_eq] at taken
    obtain ⟨hash, hashed, rfl⟩ := Option.map_eq_some_iff.mp isLine
    refine ⟨⟨taken.1, taken.2, ?_⟩, hashed, rfl, rfl, rfl⟩
    rw [hashed]
    rfl
  · cases isLine

private theorem Takes.isSome_candidateLine (takes : Takes inventory record.1 record.2) :
    (candidateLine inventory record).isSome = true := by
  unfold candidateLine
  rw [if_pos, Option.isSome_map]
  · exact takes.hashed
  · rw [Bool.and_eq_true, decide_eq_true_eq]
    exact ⟨takes.loaded, takes.accepted⟩

/-- `sort -u` leaves each unit once. -/
theorem nodup_discoverUnits (discovered : discoverUnits inventory = some records) :
    (records.map Prod.snd).Nodup := by
  obtain ⟨timers, -, rest⟩ := Option.bind_eq_some_iff.mp discovered
  split at rest
  · cases rest
  · obtain ⟨found, -, rfl⟩ := Option.map_eq_some_iff.mp rest
    have sorted : ((found.flatten.map Prod.snd).dedup.insertionSort (· ≤ ·)).Nodup :=
      (List.perm_insertionSort _ _).nodup_iff.mpr (List.nodup_dedup _)
    refine List.Sublist.nodup (filterMap_map_sublist ?_ _) sorted
    intro unit record isFound
    simpa using List.find?_some isFound

private theorem units_candidateLines
    (areLines : records.mapM (candidateLine inventory) = some candidate) :
    candidate.map BaselineLine.unit = records.map Prod.snd :=
  mapM_map_eq (fun _ _ isLine => (candidateLine_spec isLine).2.2.2.1) areLines

/-- The candidate lists each unit once. -/
theorem nodup_buildBaselineCandidate (built : buildBaselineCandidate inventory = some candidate) :
    (candidate.map BaselineLine.unit).Nodup := by
  obtain ⟨records, discovered, rest⟩ := Option.bind_eq_some_iff.mp built
  obtain ⟨lines, areLines, isCandidate⟩ := Option.bind_eq_some_iff.mp rest
  split at isCandidate
  · cases isCandidate
  · obtain rfl := Option.some.inj isCandidate
    rw [units_candidateLines areLines]
    exact nodup_discoverUnits discovered

/-- The candidate has a line for each unit that is recorded, and no others. -/
theorem records_of_buildBaselineCandidate
    (built : buildBaselineCandidate inventory = some candidate) :
    Discovers inventory ∧ (∀ line ∈ candidate, Records inventory line) ∧
      ∀ role unit, Recorded inventory role unit → unit ∈ candidate.map BaselineLine.unit := by
  obtain ⟨records, discovered, rest⟩ := Option.bind_eq_some_iff.mp built
  obtain ⟨lines, areLines, isCandidate⟩ := Option.bind_eq_some_iff.mp rest
  split at isCandidate
  · cases isCandidate
  · obtain rfl := Option.some.inj isCandidate
    obtain ⟨discovers, areRecorded, all⟩ := discovers_of_discoverUnits discovered
    refine ⟨discovers, ?_, ?_⟩
    · intro line inLines
      obtain ⟨record, inRecords, isLine⟩ := exists_of_mem_mapM_some areLines inLines
      obtain ⟨takes, hash, isRole, isUnit, extra⟩ := candidateLine_spec isLine
      rw [← isRole, ← isUnit] at takes
      refine ⟨?_, takes.loaded, takes.accepted, ?_, extra⟩
      · rw [isRole, isUnit]
        exact areRecorded record inRecords
      · rw [isUnit]
        exact hash
    · intro role unit isRecorded
      rw [units_candidateLines areLines]
      exact all role unit isRecorded

private theorem Recordable.isSome_buildBaselineCandidate (recordable : Recordable inventory) :
    (buildBaselineCandidate inventory).isSome = true := by
  obtain ⟨records, discovered⟩ :=
    Option.isSome_iff_exists.mp recordable.discovers.isSome_discoverUnits
  obtain ⟨-, areRecorded, all⟩ := discovers_of_discoverUnits discovered
  have areLines : (records.mapM (candidateLine inventory)).isSome = true :=
    mapM_isSome fun record inRecords =>
      (recordable.takes _ _ (areRecorded record inRecords)).isSome_candidateLine
  obtain ⟨lines, areLines⟩ := Option.isSome_iff_exists.mp areLines
  have nonempty : lines ≠ [] := by
    rintro rfl
    obtain ⟨timer, active⟩ := recordable.discovers.active
    have inRecords := all "timer" timer (.timer active)
    rw [← units_candidateLines areLines] at inRecords
    exact absurd inRecords List.not_mem_nil
  rw [buildBaselineCandidate, discovered, Option.bind_some, areLines, Option.bind_some,
    if_neg nonempty]
  rfl

end Candidate

section Kinds

variable {role other unit : String} {line : BaselineLine} {candidate : List BaselineLine}

/-- `--type=timer` lists timers only. -/
def TimersOnly (inventory : UnitInventory) : Prop :=
  ∀ listed ∈ inventory.listedTimers, ∀ entry ∈ listed, isEnabledEntry entry = true →
    unitKind? entry.1 = some .timer

private theorem triggeredServices_spec {timer : String} {services : List String}
    (triggers : triggeredServices inventory timer = some services) :
    ∀ service ∈ services, validUnitName service = true ∧ unitKind? service = some .service := by
  obtain ⟨triggered, -, rest⟩ := Option.bind_eq_some_iff.mp triggers
  dsimp only at rest
  split at rest
  · rename_i valid
    obtain rfl := Option.some.inj rest
    rw [Bool.and_eq_true, List.all_eq_true] at valid
    intro service inServices
    exact ⟨valid.1 service inServices, by simpa using (List.mem_filter.mp inServices).2⟩
  · cases rest

/-- The kind of a unit gives away its role. -/
theorem Recorded.kind (timersOnly : TimersOnly inventory) (recorded : Recorded inventory role unit) :
    role = "timer" ∧ unitKind? unit = some .timer ∨
      role = "service" ∧ unitKind? unit = some .service := by
  cases recorded with
  | timer active =>
      obtain ⟨listed, isList, ⟨state, inList, enabled⟩, -⟩ := active
      have kind := timersOnly listed isList (unit, state) inList enabled
      exact .inl ⟨rfl, kind⟩
  | service active triggers triggered =>
      exact .inr ⟨rfl, (triggeredServices_spec triggers _ triggered).2⟩

theorem role_eq_of_kind
    (kind : role = "timer" ∧ unitKind? unit = some .timer ∨
      role = "service" ∧ unitKind? unit = some .service)
    (otherKind : other = "timer" ∧ unitKind? unit = some .timer ∨
      other = "service" ∧ unitKind? unit = some .service) : role = other := by
  obtain ⟨rfl, isKind⟩ | ⟨rfl, isKind⟩ := kind <;>
    obtain ⟨rfl, isOther⟩ | ⟨rfl, isOther⟩ := otherKind
  · rfl
  · cases isKind.symm.trans isOther
  · cases isKind.symm.trans isOther
  · rfl

theorem Recorded.role_eq (timersOnly : TimersOnly inventory)
    (recorded : Recorded inventory role unit) (also : Recorded inventory other unit) :
    role = other :=
  role_eq_of_kind (recorded.kind timersOnly) (also.kind timersOnly)

theorem Recorded.valid (discovers : Discovers inventory) (recorded : Recorded inventory role unit) :
    (role = "timer" ∨ role = "service") ∧ validUnitName unit = true := by
  cases recorded with
  | timer active =>
      obtain ⟨listed, lists⟩ := discovers.lists
      obtain ⟨other, isList, ⟨state, inList, enabled⟩, -⟩ := active
      obtain rfl := Option.some.inj (lists.isList.symm.trans isList)
      have valid := lists.valid (unit, state) inList enabled
      exact ⟨.inl rfl, valid⟩
  | service active triggers triggered =>
      exact ⟨.inr rfl, (triggeredServices_spec triggers _ triggered).1⟩

private theorem isDigest_of_hashUnit {hash : String}
    (hashed : hashUnit inventory unit = some hash) : isDigest hash = true := by
  obtain ⟨digest, -, rest⟩ := Option.bind_eq_some_iff.mp hashed
  dsimp only at rest
  split at rest
  · rename_i digits
    obtain rfl := Option.some.inj rest
    exact digits
  · cases rest

theorem Records.isPlain (discovers : Discovers inventory) (records : Records inventory line) :
    line.IsPlain :=
  { hash := isDigest_of_hashUnit records.hash
    role := (records.recorded.valid discovers).1
    unit := (records.recorded.valid discovers).2
    extra := records.extra }

/-- The candidate, written and read again. -/
theorem baselineLines_candidate (built : buildBaselineCandidate inventory = some candidate) :
    baselineLines (baselineText candidate) = candidate := by
  obtain ⟨discovers, areRecords, -⟩ := records_of_buildBaselineCandidate built
  exact baselineLines_baselineText fun line inCandidate =>
    (areRecords line inCandidate).isPlain discovers

theorem BaselineLine.IsPlain.isValid (plain : line.IsPlain)
    (kind : line.role = "timer" ∧ unitKind? line.unit = some .timer ∨
      line.role = "service" ∧ unitKind? line.unit = some .service) : line.isValid = true := by
  simp only [BaselineLine.isValid, plain.hash, plain.extra, plain.unit, Bool.and_eq_true,
    Bool.or_eq_true, decide_eq_true_eq, true_and]
  exact kind

/-- A candidate is a baseline that `read_baseline` accepts. -/
theorem readBaseline_candidate (timersOnly : TimersOnly inventory)
    (built : buildBaselineCandidate inventory = some candidate) :
    readBaseline candidate = true := by
  obtain ⟨discovers, areRecords, all⟩ := records_of_buildBaselineCandidate built
  simp only [readBaseline, Bool.and_eq_true, List.all_eq_true, List.any_eq_true,
    decide_eq_true_eq]
  refine ⟨⟨?_, nodup_buildBaselineCandidate built⟩, ?_⟩
  · intro line inCandidate
    have records := areRecords line inCandidate
    exact (records.isPlain discovers).isValid (records.recorded.kind timersOnly)
  · obtain ⟨timer, active⟩ := discovers.active
    obtain ⟨line, inCandidate, rfl⟩ := List.mem_map.mp (all _ _ (.timer active))
    exact ⟨line, inCandidate, (areRecords line inCandidate).recorded.role_eq timersOnly
      (.timer active)⟩

/-- Of the states that list timers only, a candidate can be built of those that are recordable. -/
theorem isSome_buildBaselineCandidate_iff (timersOnly : TimersOnly inventory) :
    (buildBaselineCandidate inventory).isSome = true ↔ Recordable inventory := by
  constructor
  · intro isSome
    obtain ⟨candidate, built⟩ := Option.isSome_iff_exists.mp isSome
    obtain ⟨discovers, areRecords, all⟩ := records_of_buildBaselineCandidate built
    refine ⟨discovers, ?_⟩
    intro role unit recorded
    obtain ⟨line, inCandidate, rfl⟩ := List.mem_map.mp (all _ _ recorded)
    have records := areRecords line inCandidate
    obtain rfl := recorded.role_eq timersOnly records.recorded
    exact ⟨records.loaded, records.accepted, by rw [records.hash]; rfl⟩
  · exact Recordable.isSome_buildBaselineCandidate

end Kinds

end TraefikManager.Scripts
