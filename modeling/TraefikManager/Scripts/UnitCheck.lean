import TraefikManager.Scripts.BaselineCandidate

/-!
# The check of the user's systemd units

The watchdog compares what systemd tells with the baseline and notes an issue for each deviation.
It also notes one when it cannot list the timers, and it cannot when the last line of the list
is that of an enabled timer that is not active.
-/

namespace TraefikManager.Scripts

open Foundation

section Check

/-- `WATCHDOG_SERVICE_NAME`. -/
def watchdogServiceName : String := "traefik-manager-user-systemd-watchdog.service"

variable (inventory : UnitInventory)

/-- `baseline_roles`. -/
def roleOf (baseline : List BaselineLine) (unit : String) : Option String :=
  (baseline.find? fun line => line.unit = unit).map BaselineLine.role

/-- The issues of the timers that are enabled and active. -/
def timerIssues (baseline : List BaselineLine) : List String :=
  match listActiveEnabledTimers inventory with
  | some timers =>
      (timers.filter fun timer => roleOf baseline timer ≠ some "timer").map
        ("unexpected-timer:" ++ ·)
  | none => ["systemctl-unavailable"]

/-- The issues of a timer of the baseline that is loaded. -/
def controlIssues (unit : String) : List String :=
  (if Text.startsWith "enabled" (inventory.isEnabled unit) then [] else ["timer-disabled:" ++ unit])
    ++ if (inventory.property unit "ActiveState").getD "" = "active" then []
      else ["timer-inactive:" ++ unit]

/-- The issues of a service of the baseline that is loaded. -/
def serviceIssues (unit : String) : List String :=
  let result := (inventory.property unit "Result").getD ""
  (if (inventory.property unit "ActiveState").getD "" = "failed" then ["service-failed:" ++ unit]
    else []) ++
    if result = "" ∨ result = "success" then [] else ["service-result:" ++ unit]

/-- The issue of a unit of the baseline whose text is not the one it was recorded with. -/
def hashIssues (line : BaselineLine) : List String :=
  match hashUnit inventory line.unit with
  | some hash => if hash = line.hash then [] else ["unit-drift:" ++ line.unit]
  | none => ["unit-unreadable:" ++ line.unit]

/-- The issues of a unit of the baseline. -/
def unitIssues (line : BaselineLine) : List String :=
  if inventory.property line.unit "LoadState" = some "loaded" then
    (if line.role = "timer" then controlIssues inventory line.unit
      else if line.unit = watchdogServiceName then []
      else serviceIssues inventory line.unit) ++ hashIssues inventory line
  else ["unit-not-loaded:" ++ line.unit]

/-- `check_units`: the issues, each once. -/
def checkUnits (file : Option String) : List String :=
  match readBaselineFile file with
  | none => ["baseline-invalid"]
  | some baseline =>
      (timerIssues inventory baseline ++ baseline.flatMap (unitIssues inventory)).foldl appendNew []

/-- `write_baseline`: the file it writes where there is none. -/
def writeBaseline (file : Option String) : Option String :=
  match file with
  | some _ => none
  | none => (buildBaselineCandidate inventory).map baselineText

end Check

section Deviations

variable (inventory : UnitInventory)

/-- A timer of the baseline that is not enabled or not active. -/
def TimerDown (unit : String) : Prop :=
  Text.startsWith "enabled" (inventory.isEnabled unit) = false ∨
    inventory.property unit "ActiveState" ≠ some "active"

/-- A service that is failed or whose last run had no success. -/
def ServiceFailed (unit : String) : Prop :=
  inventory.property unit "ActiveState" = some "failed" ∨
    inventory.property unit "Result" ≠ some "" ∧ inventory.property unit "Result" ≠ some "success"

/-- A unit of the baseline that is not as it was recorded. -/
def LineDeviates (line : BaselineLine) : Prop :=
  inventory.property line.unit "LoadState" ≠ some "loaded" ∨
    hashUnit inventory line.unit ≠ some line.hash ∨
      line.role = "timer" ∧ TimerDown inventory line.unit ∨
        line.role = "service" ∧ line.unit ≠ watchdogServiceName ∧ ServiceFailed inventory line.unit

/-- A deviation from the baseline. -/
def Deviates (baseline : List BaselineLine) : Prop :=
  (∃ timer, ActiveTimer inventory timer ∧
    ∀ line ∈ baseline, line.unit = timer → line.role ≠ "timer") ∨
      ∃ line ∈ baseline, LineDeviates inventory line

/-- All queries of the check succeed. A unit that is not loaded has no text to show. -/
structure Answers (baseline : List BaselineLine) : Prop where
  listed : ∃ listed, inventory.listedTimers = some listed ∧ ∀ entry ∈ listed,
    isEnabledEntry entry = true → (inventory.property entry.1 "ActiveState").isSome = true
  shows : ∀ line ∈ baseline, ∀ name ∈ ["LoadState", "ActiveState", "Result"],
    (inventory.property line.unit name).isSome = true
  hashes : ∀ line ∈ baseline, inventory.property line.unit "LoadState" = some "loaded" →
    (hashUnit inventory line.unit).isSome = true

/-- The list can be gone through to its end. -/
def CanList : Prop := ∃ listed, ListsTimers inventory listed

end Deviations

section Verdict

variable {inventory : UnitInventory} {baseline : List BaselineLine} {line : BaselineLine}
  {file : Option String}

private theorem foldl_appendNew_eq_nil_iff {issues : List String} :
    issues.foldl appendNew [] = [] ↔ issues = [] := by
  have grows : ∀ (later kept : List String), kept ≠ [] → later.foldl appendNew kept ≠ [] := by
    intro later
    induction later with
    | nil => exact fun _ nonempty => nonempty
    | cons issue later ih =>
        intro kept nonempty
        apply ih
        unfold appendNew
        split
        · exact nonempty
        · exact List.append_ne_nil_of_right_ne_nil kept (List.cons_ne_nil issue [])
  cases issues with
  | nil => exact ⟨fun _ => rfl, fun _ => rfl⟩
  | cons issue later =>
      refine ⟨fun empty => absurd empty (grows later _ ?_), nofun⟩
      exact List.cons_ne_nil issue []

private theorem roleOf_eq_iff (nodup : (baseline.map BaselineLine.unit).Nodup) {timer : String} :
    roleOf baseline timer = some "timer" ↔
      ∃ line ∈ baseline, line.unit = timer ∧ line.role = "timer" := by
  unfold roleOf
  rw [Option.map_eq_some_iff]
  constructor
  · rintro ⟨line, isFound, role⟩
    exact ⟨line, List.mem_of_find?_eq_some isFound, by simpa using List.find?_some isFound, role⟩
  · rintro ⟨line, inBaseline, rfl, role⟩
    have present : (baseline.find? fun other => decide (other.unit = line.unit)).isSome = true :=
      List.find?_isSome.mpr ⟨line, inBaseline, decide_eq_true rfl⟩
    obtain ⟨found, isFound⟩ := Option.isSome_iff_exists.mp present
    have same : found.unit = line.unit := by simpa using List.find?_some isFound
    have isLine := List.inj_on_of_nodup_map nodup (List.mem_of_find?_eq_some isFound) inBaseline same
    exact ⟨found, isFound, isLine ▸ role⟩

/-- No issue comes from the list of timers exactly when it can be gone through and holds no active
timer that the baseline lacks. -/
theorem timerIssues_eq_nil_iff (nodup : (baseline.map BaselineLine.unit).Nodup) :
    timerIssues inventory baseline = [] ↔ CanList inventory ∧ ∀ timer, ActiveTimer inventory timer →
      ∃ line ∈ baseline, line.unit = timer ∧ line.role = "timer" := by
  unfold timerIssues
  cases isList : listActiveEnabledTimers inventory with
  | none =>
      refine ⟨nofun, ?_⟩
      rintro ⟨⟨listed, lists⟩, -⟩
      cases isList.symm.trans (listActiveEnabledTimers_eq_some_iff.mpr ⟨listed, lists, rfl⟩)
  | some timers =>
      obtain ⟨listed, lists, rfl⟩ := listActiveEnabledTimers_eq_some_iff.mp isList
      simp only [List.map_eq_nil_iff, List.filter_eq_nil_iff, decide_eq_true_eq, ne_eq, not_not,
        lists.mem_iff, roleOf_eq_iff nodup]
      exact ⟨fun each => ⟨⟨listed, lists⟩, each⟩, And.right⟩

private theorem controlIssues_eq_nil_iff {unit : String} :
    controlIssues inventory unit = [] ↔ ¬TimerDown inventory unit := by
  have value : (inventory.property unit "ActiveState").getD "" = "active" ↔
      inventory.property unit "ActiveState" = some "active" := by
    cases inventory.property unit "ActiveState" <;> simp
  rw [controlIssues, TimerDown, List.append_eq_nil_iff, not_or, not_not, Bool.not_eq_false]
  apply and_congr
  · split
    · rename_i enabled
      exact ⟨fun _ => enabled, fun _ => rfl⟩
    · rename_i disabled
      exact ⟨nofun, fun enabled => absurd enabled disabled⟩
  · split
    · rename_i active
      exact ⟨fun _ => value.mp active, fun _ => rfl⟩
    · rename_i inactive
      exact ⟨nofun, fun active => absurd (value.mpr active) inactive⟩

private theorem serviceIssues_eq_nil_iff {unit : String}
    (shows : ∀ name ∈ ["LoadState", "ActiveState", "Result"],
      (inventory.property unit name).isSome = true) :
    serviceIssues inventory unit = [] ↔ ¬ServiceFailed inventory unit := by
  obtain ⟨active, isActive⟩ := Option.isSome_iff_exists.mp (shows "ActiveState" (by simp))
  obtain ⟨result, isResult⟩ := Option.isSome_iff_exists.mp (shows "Result" (by simp))
  simp only [serviceIssues, ServiceFailed, isActive, isResult, Option.getD_some,
    List.append_eq_nil_iff, Option.some.injEq, ne_eq]
  by_cases failed : active = "failed"
  · simp [failed]
  · by_cases succeeded : result = "" ∨ result = "success"
    · simpa [failed, succeeded] using Or.resolve_left succeeded
    · simp [failed, not_or.mp succeeded]

private theorem hashIssues_eq_nil_iff :
    hashIssues inventory line = [] ↔ hashUnit inventory line.unit = some line.hash := by
  unfold hashIssues
  cases hashUnit inventory line.unit with
  | none => simp
  | some hash => by_cases same : hash = line.hash <;> simp [same]

/-- A unit of the baseline has no issue exactly when it is as it was recorded. -/
theorem unitIssues_eq_nil_iff (valid : line.isValid = true)
    (shows : ∀ name ∈ ["LoadState", "ActiveState", "Result"],
      (inventory.property line.unit name).isSome = true) :
    unitIssues inventory line = [] ↔ ¬LineDeviates inventory line := by
  have roles : line.role = "timer" ∨ line.role = "service" := by
    simp only [BaselineLine.isValid, Bool.and_eq_true, Bool.or_eq_true, decide_eq_true_eq] at valid
    exact valid.2.imp And.left And.left
  unfold unitIssues LineDeviates
  by_cases loaded : inventory.property line.unit "LoadState" = some "loaded"
  · rw [if_pos loaded, List.append_eq_nil_iff, hashIssues_eq_nil_iff]
    obtain role | role := roles
    · simp [role, loaded, controlIssues_eq_nil_iff, and_comm]
    · by_cases watchdog : line.unit = watchdogServiceName
      · rw [watchdog] at loaded
        simp [role, loaded, watchdog]
      · simp [role, loaded, watchdog, serviceIssues_eq_nil_iff shows, and_comm]
  · rw [if_neg loaded]
    simp [loaded]

theorem isBaseline_of_readBaselineFile (isBaseline : readBaselineFile file = some baseline) :
    readBaseline baseline = true := by
  unfold readBaselineFile at isBaseline
  split at isBaseline
  · cases isBaseline
  · split at isBaseline
    · rename_i read
      obtain rfl := Option.some.inj isBaseline
      exact read
    · cases isBaseline

/-- The check finds nothing exactly when it can list the timers and nothing deviates. -/
theorem checkUnits_eq_nil_iff (isBaseline : readBaselineFile file = some baseline)
    (answers : Answers inventory baseline) :
    checkUnits inventory file = [] ↔ CanList inventory ∧ ¬Deviates inventory baseline := by
  have read := isBaseline_of_readBaselineFile isBaseline
  simp only [readBaseline, Bool.and_eq_true, List.all_eq_true, decide_eq_true_eq] at read
  obtain ⟨⟨valid, nodup⟩, -⟩ := read
  have ofUnits : baseline.flatMap (unitIssues inventory) = [] ↔
      ∀ line ∈ baseline, ¬LineDeviates inventory line := by
    rw [List.flatMap_eq_nil_iff]
    exact forall₂_congr fun line inBaseline =>
      unitIssues_eq_nil_iff (valid line inBaseline) (answers.shows line inBaseline)
  rw [checkUnits, isBaseline]
  dsimp only
  rw [foldl_appendNew_eq_nil_iff, List.append_eq_nil_iff, timerIssues_eq_nil_iff nodup, ofUnits,
    Deviates, and_assoc]
  apply and_congr_right
  intro _
  push Not
  rfl

end Verdict

section Accepted

variable {inventory earlier : UnitInventory} {baseline : List BaselineLine} {file : Option String}

/-- The units of a baseline are as they were, and no timer beside its timers is active. -/
structure Unchanged (baseline : List BaselineLine) (earlier inventory : UnitInventory) :
    Prop where
  property : ∀ line ∈ baseline, ∀ name,
    inventory.property line.unit name = earlier.property line.unit name
  isEnabled : ∀ line ∈ baseline, inventory.isEnabled line.unit = earlier.isEnabled line.unit
  digest : ∀ line ∈ baseline, inventory.digest line.unit = earlier.digest line.unit
  others : ∀ timer, ActiveTimer inventory timer →
    ∃ line ∈ baseline, line.unit = timer ∧ line.role = "timer"

/-- A service of the baseline is failed. -/
def HasFailedService (inventory : UnitInventory) (baseline : List BaselineLine) : Prop :=
  ∃ line ∈ baseline, line.role = "service" ∧ line.unit ≠ watchdogServiceName ∧
    inventory.property line.unit "ActiveState" = some "failed"

/-- The baseline that is read is the one that was written. -/
theorem buildBaselineCandidate_of_written (written : writeBaseline earlier none = file)
    (isBaseline : readBaselineFile file = some baseline) :
    buildBaselineCandidate earlier = some baseline := by
  cases built : buildBaselineCandidate earlier with
  | none =>
      rw [writeBaseline, built] at written
      subst written
      cases isBaseline
  | some candidate =>
      rw [writeBaseline, built] at written
      subst written
      have read := isBaseline
      rw [Option.map_some, readBaselineFile, baselineLines_candidate built] at read
      split at read
      · exact read
      · cases read

private theorem hashUnit_congr {unit : String}
    (same : inventory.digest unit = earlier.digest unit) :
    hashUnit inventory unit = hashUnit earlier unit := by
  rw [hashUnit, same, hashUnit]

/-- A service that was accepted had success, so that it is failed only if it is so now. -/
theorem Records.serviceFailed_iff {line : BaselineLine} (records : Records inventory line)
    (role : line.role = "service") (notWatchdog : line.unit ≠ watchdogServiceName) :
    ServiceFailed inventory line.unit ↔
      inventory.property line.unit "ActiveState" = some "failed" := by
  have accepted := records.accepted
  simp only [isCandidate, role, String.reduceEq, if_false, serviceIsHealthy, Bool.or_eq_true,
    Bool.and_eq_true, decide_eq_true_eq, Option.any_eq_true] at accepted
  obtain isWatchdog | ⟨-, result, isResult, succeeded⟩ := accepted
  · exact absurd isWatchdog notWatchdog
  · constructor
    · rintro (isFailed | ⟨notEmpty, notSuccess⟩)
      · exact isFailed
      · rw [isResult] at notEmpty notSuccess
        obtain rfl | rfl := succeeded
        · exact absurd rfl notEmpty
        · exact absurd rfl notSuccess
    · exact Or.inl

/-- What was accepted and has not changed deviates by its failed services only. -/
theorem deviates_written_iff (written : writeBaseline earlier none = file)
    (isBaseline : readBaselineFile file = some baseline)
    (unchanged : Unchanged baseline earlier inventory) :
    Deviates inventory baseline ↔ HasFailedService inventory baseline := by
  have built := buildBaselineCandidate_of_written written isBaseline
  obtain ⟨-, areRecords, -⟩ := records_of_buildBaselineCandidate built
  constructor
  · rintro (⟨timer, active, unexpected⟩ | ⟨line, inBaseline, deviates⟩)
    · obtain ⟨line, inBaseline, isTimer, role⟩ := unchanged.others timer active
      exact absurd role (unexpected line inBaseline isTimer)
    · have records := areRecords line inBaseline
      have same := unchanged.property line inBaseline
      have accepted := records.accepted
      obtain notLoaded | changed | ⟨role, down⟩ | ⟨role, notWatchdog, failed⟩ := deviates
      · exact absurd ((same _).trans records.loaded) notLoaded
      · rw [hashUnit_congr (unchanged.digest line inBaseline)] at changed
        exact absurd records.hash changed
      · simp only [isCandidate, role, if_true, Bool.and_eq_true, decide_eq_true_eq] at accepted
        obtain disabled | inactive := down
        · rw [unchanged.isEnabled line inBaseline, accepted.2] at disabled
          cases disabled
        · exact absurd ((same _).trans accepted.1) inactive
      · rw [ServiceFailed, same, same] at failed
        have isFailed := (records.serviceFailed_iff role notWatchdog).mp failed
        exact ⟨line, inBaseline, role, notWatchdog, (same _).trans isFailed⟩
  · rintro ⟨line, inBaseline, role, notWatchdog, failed⟩
    exact .inr ⟨line, inBaseline, .inr (.inr (.inr ⟨role, notWatchdog, .inl failed⟩))⟩

/-- What the check is to report: the deviations, and nothing about what was accepted. -/
structure ReportsExactly (inventory : UnitInventory) (file : Option String)
    (baseline : List BaselineLine) : Prop where
  exact : checkUnits inventory file ≠ [] ↔ Deviates inventory baseline
  accepted : ∀ earlier, writeBaseline earlier none = file →
    Unchanged baseline earlier inventory → checkUnits inventory file = []

/-- **The unit check.** It reports the deviations and nothing else, unless it cannot list the timers
or a service was failed when it was recorded. -/
theorem reportsExactly_iff (isBaseline : readBaselineFile file = some baseline)
    (answers : Answers inventory baseline) :
    ReportsExactly inventory file baseline ↔
      (Deviates inventory baseline ∨ CanList inventory) ∧
        ∀ earlier, writeBaseline earlier none = file → Unchanged baseline earlier inventory →
          CanList inventory ∧ ¬HasFailedService inventory baseline := by
  have nothing := checkUnits_eq_nil_iff isBaseline answers
  constructor
  · rintro ⟨exactly, accepted⟩
    constructor
    · by_cases canList : CanList inventory
      · exact .inr canList
      · exact .inl (exactly.mp fun isNil => canList (nothing.mp isNil).1)
    · intro earlier written unchanged
      obtain ⟨canList, none⟩ := nothing.mp (accepted earlier written unchanged)
      rw [deviates_written_iff written isBaseline unchanged] at none
      exact ⟨canList, none⟩
  · rintro ⟨listable, accepted⟩
    constructor
    · constructor
      · intro issues
        by_contra none
        exact issues (nothing.mpr ⟨listable.resolve_left none, none⟩)
      · exact fun deviates isNil => (nothing.mp isNil).2 deviates
    · intro earlier written unchanged
      obtain ⟨canList, none⟩ := accepted earlier written unchanged
      rw [← deviates_written_iff written isBaseline unchanged] at none
      exact nothing.mpr ⟨canList, none⟩

end Accepted

section Sample

/-- A state of systemd in which every unit is loaded and each timer triggers one service, and all
units but one are active. -/
def sampleInventory (listed : List String) (down state : String) : UnitInventory where
  listedTimers := some (listed.map (·, "enabled"))
  property unit name :=
    some (if name = "LoadState" then "loaded"
      else if name = "ActiveState" then if unit = down then state else "active"
      else if name = "Triggers" then "a.service"
      else "success")
  isEnabled _ := "enabled"
  digest _ := some (String.ofList (List.replicate 64 '0'))

def sampleServiceLine : BaselineLine :=
  { hash := String.ofList (List.replicate 64 '0'), role := "service", unit := "a.service" }

def sampleTimerLine : BaselineLine :=
  { hash := String.ofList (List.replicate 64 '0'), role := "timer", unit := "a.timer" }

def sampleBaseline : List BaselineLine := [sampleServiceLine, sampleTimerLine]

theorem isBaseline_sampleBaseline :
    readBaselineFile (some (baselineText sampleBaseline)) = some sampleBaseline := by
  have plain : ∀ line ∈ sampleBaseline, line.IsPlain := by
    simp only [sampleBaseline, List.forall_mem_cons]
    exact ⟨⟨by decide, .inr rfl, by decide, rfl⟩, ⟨by decide, .inl rfl, by decide, rfl⟩, nofun⟩
  rw [readBaselineFile, baselineLines_baselineText plain]
  decide

private theorem answers_sampleInventory (listed : List String) (down state : String) :
    Answers (sampleInventory listed down state) sampleBaseline where
  listed := ⟨_, rfl, fun _ _ _ => rfl⟩
  shows := fun _ _ _ _ => rfl
  hashes := fun _ _ _ => by
    have digits : (hashUnit (sampleInventory [] "" "") "").isSome = true := by decide
    exact digits

theorem reportsExactly_iff_sample :
    ReportsExactly (sampleInventory ["a.timer"] "a.service" "inactive")
      (some (baselineText sampleBaseline)) sampleBaseline := by
  have canList : CanList (sampleInventory ["a.timer"] "a.service" "inactive") := by
    refine ⟨_, rfl, ?_, fun _ _ _ => rfl, ?_⟩ <;> decide
  apply (reportsExactly_iff isBaseline_sampleBaseline (answers_sampleInventory _ _ _)).mpr
  refine ⟨.inr canList, fun _ _ _ => ⟨canList, ?_⟩⟩
  rintro ⟨line, inBaseline, -, -, failed⟩
  obtain rfl | rfl : line = _ ∨ line = _ := by simpa [sampleBaseline] using inBaseline
  · revert failed
    decide
  · revert failed
    decide

/-- A timer that is enabled but not active, and the last of the list, is an issue though nothing
deviates from the baseline. -/
theorem inactive_timer_reported :
    readBaselineFile (some (baselineText sampleBaseline)) = some sampleBaseline ∧
      Answers (sampleInventory ["a.timer", "z.timer"] "z.timer" "inactive") sampleBaseline ∧
      checkUnits (sampleInventory ["a.timer", "z.timer"] "z.timer" "inactive")
        (some (baselineText sampleBaseline)) = ["systemctl-unavailable"] ∧
      ¬ReportsExactly (sampleInventory ["a.timer", "z.timer"] "z.timer" "inactive")
        (some (baselineText sampleBaseline)) sampleBaseline := by
  have issues : checkUnits (sampleInventory ["a.timer", "z.timer"] "z.timer" "inactive")
      (some (baselineText sampleBaseline)) = ["systemctl-unavailable"] := by
    rw [checkUnits, isBaseline_sampleBaseline]
    decide
  refine ⟨isBaseline_sampleBaseline, answers_sampleInventory _ _ _, issues, ?_⟩
  intro reports
  have deviates := reports.exact.mp (issues ▸ List.cons_ne_nil _ _)
  obtain ⟨timer, ⟨listed, isList, ⟨state, inList, -⟩, active⟩, unexpected⟩ |
    ⟨line, inBaseline, deviates⟩ := deviates
  · obtain rfl := Option.some.inj isList
    have names : timer = "a.timer" ∨ timer = "z.timer" := by
      simp only [List.map_cons, List.map_nil, List.mem_cons, Prod.mk.injEq, List.not_mem_nil,
        or_false] at inList
      exact inList.imp And.left And.left
    obtain rfl | rfl := names
    · exact unexpected sampleTimerLine (by decide) rfl rfl
    · exact absurd active (by decide)
  · revert deviates
    obtain rfl | rfl : line = sampleServiceLine ∨ line = sampleTimerLine := by
      simpa [sampleBaseline] using inBaseline
    · rw [LineDeviates, TimerDown, ServiceFailed]
      decide
    · rw [LineDeviates, TimerDown, ServiceFailed]
      decide

end Sample

end TraefikManager.Scripts
