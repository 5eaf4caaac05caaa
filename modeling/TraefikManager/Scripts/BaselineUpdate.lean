import TraefikManager.Foundation.ShellScript
import TraefikManager.Scripts.UnitCheck

/-!
# An update of the baseline changes what was named

`update_baseline` writes a candidate beside the baseline, compares the two, and puts the candidate
in the baseline's place with its last command. The comparison leaves the units outside the
selection alone. What it cannot see is a service that is failed though its last run had success.
-/

namespace TraefikManager.Scripts

open Foundation

section Commands

/-- The commands of `update_baseline`. -/
inductive UpdateCommand where
  | readBaseline
  | selectUnits
  | makeInventoryFile
  | makeTemporaryFile
  | buildCandidate
  | compareCandidate
  | changeMode
  | removeInventoryFile
  | moveTemporaryFile
  deriving DecidableEq, Repr

/-- The files of an update and the arrays that `read_baseline` fills. -/
structure BaselineUpdate where
  file : Option String
  known : List BaselineLine := []
  temporary : String := ""

/-- Whether the candidate differs from the baseline as it may. -/
def comparesCandidate (mode : BaselineMode) (baseline candidate : List BaselineLine)
    (selected : List String) : Bool :=
  candidate.all (acceptsCandidate mode baseline selected) &&
    baseline.all (acceptsMissing mode candidate selected) &&
    selected.all (acceptsSelected mode baseline candidate)

variable (passes : UpdateCommand → Bool) (mode : BaselineMode) (selected : List String)
  (inventory : UnitInventory)

/-- What a command makes of the files, unless it returns early. -/
def UpdateCommand.effect (command : UpdateCommand) (update : BaselineUpdate) :
    Option BaselineUpdate :=
  match command with
  | readBaseline =>
      (readBaselineFile update.file).map fun lines => { update with known := lines }
  | selectUnits =>
      if selected.all validUnitName && decide selected.Nodup then some update else none
  | buildCandidate =>
      (buildBaselineCandidate inventory).map fun lines =>
        { update with temporary := baselineText lines }
  | compareCandidate =>
      if comparesCandidate mode update.known (baselineLines update.temporary) selected then
        some update
      else none
  | moveTemporaryFile => some { update with file := some update.temporary }
  | makeInventoryFile | makeTemporaryFile | changeMode | removeInventoryFile => some update

/-- A command can also fail for a reason of its own. -/
def UpdateCommand.attempted (command : UpdateCommand) (update : BaselineUpdate) :
    Option BaselineUpdate :=
  if passes command then command.effect mode selected inventory update else none

def updateCommands : List UpdateCommand :=
  [.readBaseline, .selectUnits, .makeInventoryFile, .makeTemporaryFile, .buildCandidate,
    .compareCandidate, .changeMode, .removeInventoryFile, .moveTemporaryFile]

/-- `update_baseline`: the file it leaves and whether it succeeds. -/
def updateBaselineFile (file : Option String) : Option String × Bool :=
  let ended := errexit (tryCommand (UpdateCommand.attempted passes mode selected inventory))
    updateCommands { file := file }
  (ended.1.file, ended.2)

end Commands

section Running

variable {passes : UpdateCommand → Bool} {mode : BaselineMode} {selected : List String}
  {inventory : UnitInventory} {file : Option String}

private theorem updateBaseline_eq (baseline : List BaselineLine) :
    updateBaseline mode baseline selected inventory =
      if readBaseline baseline && selected.all validUnitName && decide selected.Nodup then
        (buildBaselineCandidate inventory).bind fun candidate =>
          if comparesCandidate mode baseline candidate selected then some candidate else none
      else none := rfl

/-- Only the last command touches the baseline. -/
theorem file_tryCommand {command : UpdateCommand} {update : BaselineUpdate}
    (notMove : command ≠ .moveTemporaryFile) :
    (tryCommand (UpdateCommand.attempted passes mode selected inventory) command update).1.file =
      update.file := by
  unfold tryCommand
  cases isNext : command.attempted passes mode selected inventory update with
  | none => rfl
  | some next =>
      unfold UpdateCommand.attempted at isNext
      split at isNext
      · cases command with
        | moveTemporaryFile => exact absurd rfl notMove
        | readBaseline | buildCandidate =>
            obtain ⟨lines, -, rfl⟩ := Option.map_eq_some_iff.mp isNext
            rfl
        | selectUnits | compareCandidate =>
            simp only [UpdateCommand.effect] at isNext
            split at isNext
            · obtain rfl := Option.some.inj isNext
              rfl
            · cases isNext
        | makeInventoryFile | makeTemporaryFile | changeMode | removeInventoryFile =>
            obtain rfl := Option.some.inj isNext
            rfl
      · cases isNext

/-- An update that fails leaves the file as it was. -/
theorem updateBaselineFile_failed
    (failed : (updateBaselineFile passes mode selected inventory file).2 = false) :
    (updateBaselineFile passes mode selected inventory file).1 = file := by
  have isScript : updateCommands = updateCommands.dropLast ++ [.moveTemporaryFile] := rfl
  unfold updateBaselineFile at failed ⊢
  dsimp only at failed ⊢
  rw [isScript] at failed ⊢
  refine errexit_tryCommand_of_failed BaselineUpdate.file ?_ failed
  intro command listed update
  apply file_tryCommand
  rintro rfl
  exact absurd listed (by decide)

private theorem mem_updateCommands (command : UpdateCommand) : command ∈ updateCommands := by
  cases command <;> decide

private theorem foldlM_updateCommands (run : ∀ command, passes command = true) :
    updateCommands.foldlM
        (fun update command => command.attempted passes mode selected inventory update)
        { file := file } =
      (readBaselineFile file).bind fun baseline =>
        (updateBaseline mode baseline selected inventory).map fun candidate =>
          { file := some (baselineText candidate)
            known := baseline
            temporary := baselineText candidate } := by
  simp only [updateCommands, List.foldlM_cons, List.foldlM_nil, UpdateCommand.attempted, run,
    if_true, UpdateCommand.effect, Option.bind_eq_bind, Option.pure_def]
  cases isBaseline : readBaselineFile file with
  | none => rfl
  | some baseline =>
      rw [Option.map_some, Option.bind_some, Option.bind_some, updateBaseline_eq,
        isBaseline_of_readBaselineFile isBaseline, Bool.true_and]
      split
      · rw [Option.bind_some, Option.bind_some, Option.bind_some]
        cases built : buildBaselineCandidate inventory with
        | none => rfl
        | some candidate =>
            simp only [Option.map_some, Option.bind_some, baselineLines_candidate built]
            split
            · rfl
            · rfl
      · rfl

/-- An update succeeds when every command can and the comparison allows it, and leaves the candidate
then. -/
theorem updateBaselineFile_eq_iff {new : Option String} :
    updateBaselineFile passes mode selected inventory file = (new, true) ↔
      (∀ command, passes command = true) ∧ ∃ baseline candidate,
        readBaselineFile file = some baseline ∧
          updateBaseline mode baseline selected inventory = some candidate ∧
            new = some (baselineText candidate) := by
  constructor
  · intro updated
    obtain ⟨isNew, passed⟩ := Prod.mk.inj updated
    have run : ∀ command, passes command = true := by
      intro command
      refine errexit_needs (fun command => passes command = true) ?_ passed command
        (mem_updateCommands command)
      intro other _ update succeeded
      unfold tryCommand UpdateCommand.attempted at succeeded
      split at succeeded
      · rename_i attempted
        split at attempted
        · assumption
        · cases attempted
      · cases succeeded
    refine ⟨run, ?_⟩
    have ended := errexit_tryCommand_eq_iff.mp (Prod.ext rfl passed)
    rw [foldlM_updateCommands run] at ended
    obtain ⟨baseline, isBaseline, rest⟩ := Option.bind_eq_some_iff.mp ended
    obtain ⟨candidate, isCandidate, isFinal⟩ := Option.map_eq_some_iff.mp rest
    refine ⟨baseline, candidate, isBaseline, isCandidate, ?_⟩
    exact isNew.symm.trans (congrArg BaselineUpdate.file isFinal).symm
  · rintro ⟨run, baseline, candidate, isBaseline, isCandidate, rfl⟩
    have ended : errexit (tryCommand (UpdateCommand.attempted passes mode selected inventory))
        updateCommands { file := file } =
          ({ file := some (baselineText candidate)
             known := baseline
             temporary := baselineText candidate }, true) := by
      apply errexit_tryCommand_eq_iff.mpr
      rw [foldlM_updateCommands run, isBaseline, Option.bind_some, isCandidate, Option.map_some]
    rw [updateBaselineFile, ended]

end Running

section Frame

variable {mode : BaselineMode} {selected : List String} {inventory : UnitInventory}
  {old candidate : List BaselineLine} {line known : BaselineLine}

/-- A unit that a baseline would record. -/
def IsRecorded (inventory : UnitInventory) (unit : String) : Prop :=
  ∃ role, Recorded inventory role unit

/-- The units that are recorded now differ from the old baseline in what was named. -/
structure Permits (mode : BaselineMode) (selected : List String) (inventory : UnitInventory)
    (old : List BaselineLine) : Prop where
  refreshed : mode = .refresh → ∀ unit ∈ selected, IsRecorded inventory unit
  retired : mode = .retire → ∀ unit ∈ selected,
    unit ∈ old.map BaselineLine.unit ∧ ¬IsRecorded inventory unit
  kept : ∀ line ∈ old, IsRecorded inventory line.unit ∨ mode = .retire ∧ line.unit ∈ selected
  same : ∀ unit, IsRecorded inventory unit →
    (∃ line ∈ old, line.unit = unit ∧ hashUnit inventory unit = some line.hash) ∨
      mode = .refresh ∧ unit ∈ selected

private theorem mem_units_candidate_iff (built : buildBaselineCandidate inventory = some candidate)
    {unit : String} : unit ∈ candidate.map BaselineLine.unit ↔ IsRecorded inventory unit := by
  obtain ⟨-, areRecords, all⟩ := records_of_buildBaselineCandidate built
  constructor
  · intro inUnits
    obtain ⟨line, inCandidate, rfl⟩ := List.mem_map.mp inUnits
    exact ⟨line.role, (areRecords line inCandidate).recorded⟩
  · rintro ⟨role, recorded⟩
    exact all role unit recorded

/-- What `read_baseline` has checked of a line. -/
theorem of_isValid (valid : line.isValid = true) :
    line.IsPlain ∧ (line.role = "timer" ∧ unitKind? line.unit = some .timer ∨
      line.role = "service" ∧ unitKind? line.unit = some .service) := by
  simp only [BaselineLine.isValid, Bool.and_eq_true, Bool.or_eq_true, decide_eq_true_eq] at valid
  obtain ⟨⟨⟨hash, extra⟩, unit⟩, kind⟩ := valid
  exact ⟨⟨hash, kind.imp And.left And.left, unit, extra⟩, kind⟩

private theorem acceptsCandidate_iff (timersOnly : TimersOnly inventory)
    (valid : ∀ known ∈ old, known.isValid = true) (nodup : (old.map BaselineLine.unit).Nodup)
    (discovers : Discovers inventory) (records : Records inventory line) :
    acceptsCandidate mode old selected line = true ↔
      (∃ known ∈ old, known.unit = line.unit ∧ hashUnit inventory line.unit = some known.hash) ∨
        mode = .refresh ∧ line.unit ∈ selected := by
  have plain := records.isPlain discovers
  simp only [acceptsCandidate, plain.hash, plain.extra, plain.unit, decide_true, Bool.and_self,
    Bool.true_and]
  cases isFound : old.find? fun known => decide (known.unit = line.unit) with
  | none =>
      have unknown : ¬∃ known ∈ old, known.unit = line.unit ∧
          hashUnit inventory line.unit = some known.hash := by
        rintro ⟨known, inOld, isUnit, -⟩
        exact List.find?_eq_none.mp isFound known inOld (decide_eq_true isUnit)
      simp only [unknown, false_or, Bool.and_eq_true, decide_eq_true_eq]
  | some known =>
      have inOld := List.mem_of_find?_eq_some isFound
      have isUnit : known.unit = line.unit := by simpa using List.find?_some isFound
      have sameRole : known.role = line.role :=
        role_eq_of_kind (isUnit ▸ (of_isValid (valid known inOld)).2)
          (records.recorded.kind timersOnly)
      have isKnown : (∃ known ∈ old, known.unit = line.unit ∧
          hashUnit inventory line.unit = some known.hash) ↔ known.hash = line.hash := by
        rw [records.hash]
        constructor
        · rintro ⟨other, inOther, otherUnit, sameHash⟩
          have isOther := List.inj_on_of_nodup_map nodup inOther inOld (otherUnit.trans isUnit.symm)
          exact isOther ▸ (Option.some.inj sameHash).symm
        · exact fun sameHash => ⟨known, inOld, isUnit, congrArg some sameHash.symm⟩
      simp only [isKnown, sameRole, decide_true, Bool.true_and, Bool.or_eq_true,
        Bool.and_eq_true, decide_eq_true_eq]

/-- The comparison accepts a candidate exactly when what is recorded permits it. -/
theorem comparesCandidate_iff (timersOnly : TimersOnly inventory)
    (isBaseline : readBaseline old = true)
    (built : buildBaselineCandidate inventory = some candidate) :
    comparesCandidate mode old candidate selected = true ↔
      Permits mode selected inventory old := by
  simp only [readBaseline, Bool.and_eq_true, List.all_eq_true, decide_eq_true_eq] at isBaseline
  obtain ⟨⟨valid, nodup⟩, -⟩ := isBaseline
  obtain ⟨discovers, areRecords, -⟩ := records_of_buildBaselineCandidate built
  have accepts : ∀ line ∈ candidate, acceptsCandidate mode old selected line = true ↔ _ :=
    fun line inCandidate =>
      acceptsCandidate_iff timersOnly valid nodup discovers (areRecords line inCandidate)
  simp only [comparesCandidate, Bool.and_eq_true, List.all_eq_true]
  constructor
  · rintro ⟨⟨candidates, missing⟩, named⟩
    constructor
    · rintro rfl unit inSelected
      have isNamed := named unit inSelected
      simp only [acceptsSelected, decide_eq_true_eq] at isNamed
      exact (mem_units_candidate_iff built).mp isNamed
    · rintro rfl unit inSelected
      have isNamed := named unit inSelected
      simp only [acceptsSelected, Bool.and_eq_true, decide_eq_true_eq] at isNamed
      rw [mem_units_candidate_iff built] at isNamed
      exact isNamed
    · intro line inOld
      have isKept := missing line inOld
      simp only [acceptsMissing, Bool.or_eq_true, Bool.and_eq_true, decide_eq_true_eq] at isKept
      rw [mem_units_candidate_iff built] at isKept
      exact isKept
    · intro unit isRecorded
      obtain ⟨line, inCandidate, rfl⟩ :=
        List.mem_map.mp ((mem_units_candidate_iff built).mpr isRecorded)
      exact (accepts line inCandidate).mp (candidates line inCandidate)
  · intro permits
    refine ⟨⟨?_, ?_⟩, ?_⟩
    · intro line inCandidate
      exact (accepts line inCandidate).mpr
        (permits.same line.unit ⟨line.role, (areRecords line inCandidate).recorded⟩)
    · intro line inOld
      simp only [acceptsMissing, Bool.or_eq_true, Bool.and_eq_true, decide_eq_true_eq]
      rw [mem_units_candidate_iff built]
      exact permits.kept line inOld
    · intro unit inSelected
      cases mode with
      | refresh =>
          simp only [acceptsSelected, decide_eq_true_eq]
          exact (mem_units_candidate_iff built).mpr (permits.refreshed rfl unit inSelected)
      | retire =>
          simp only [acceptsSelected, Bool.and_eq_true, decide_eq_true_eq]
          rw [mem_units_candidate_iff built]
          exact permits.retired rfl unit inSelected

/-- What is permitted leaves the lines outside the selection. -/
theorem mem_candidate_iff (timersOnly : TimersOnly inventory) (isBaseline : readBaseline old = true)
    (built : buildBaselineCandidate inventory = some candidate)
    (permits : Permits mode selected inventory old) (outside : line.unit ∉ selected) :
    line ∈ candidate ↔ line ∈ old := by
  simp only [readBaseline, Bool.and_eq_true, List.all_eq_true, decide_eq_true_eq] at isBaseline
  obtain ⟨⟨valid, nodup⟩, -⟩ := isBaseline
  obtain ⟨-, areRecords, -⟩ := records_of_buildBaselineCandidate built
  have inOld : ∀ line ∈ candidate, line.unit ∉ selected → line ∈ old := by
    intro line inCandidate outside
    have records := areRecords line inCandidate
    obtain ⟨known, isOld, isUnit, sameHash⟩ | ⟨-, inSelected⟩ :=
      permits.same line.unit ⟨line.role, records.recorded⟩
    · obtain ⟨plain, kind⟩ := of_isValid (valid known isOld)
      have sameRole : known.role = line.role :=
        role_eq_of_kind (isUnit ▸ kind) (records.recorded.kind timersOnly)
      have isLine : known = line := by
        rw [records.hash] at sameHash
        have sameHash := Option.some.inj sameHash
        have sameExtra := plain.extra.trans records.extra.symm
        cases known
        cases line
        simp_all
      exact isLine ▸ isOld
    · exact absurd inSelected outside
  constructor
  · exact fun inCandidate => inOld line inCandidate outside
  · intro isOld
    have isRecorded := (permits.kept line isOld).resolve_right fun named => outside named.2
    obtain ⟨other, inCandidate, isUnit⟩ :=
      List.mem_map.mp ((mem_units_candidate_iff built).mpr isRecorded)
    have isOther := inOld other inCandidate (isUnit ▸ outside)
    exact List.inj_on_of_nodup_map nodup isOther isOld isUnit ▸ inCandidate

end Frame

section Outcome

variable {passes : UpdateCommand → Bool} {mode : BaselineMode} {selected : List String}
  {inventory : UnitInventory} {file : Option String} {old new candidate : List BaselineLine}

/-- A baseline that differs from an old one in what was named, and has no failed service. -/
structure ChangesOnly (mode : BaselineMode) (selected : List String) (inventory : UnitInventory)
    (old new : List BaselineLine) : Prop where
  outside : ∀ line, line.unit ∉ selected → (line ∈ new ↔ line ∈ old)
  refreshed : mode = .refresh → ∀ unit ∈ selected, unit ∈ new.map BaselineLine.unit
  retired : mode = .retire → ∀ unit ∈ selected,
    unit ∈ old.map BaselineLine.unit ∧ unit ∉ new.map BaselineLine.unit
  healthy : ∀ line ∈ new, line.role = "service" → line.unit ≠ watchdogServiceName →
    ¬ServiceFailed inventory line.unit
  distinct : (new.map BaselineLine.unit).Nodup

/-- What an update is to leave of a file and an old baseline in it. -/
structure Updates (mode : BaselineMode) (selected : List String) (inventory : UnitInventory)
    (file : Option String) (old : List BaselineLine) (outcome : Option String × Bool) : Prop where
  succeeded : outcome.2 = true →
    ∃ new, readBaselineFile outcome.1 = some new ∧ ChangesOnly mode selected inventory old new
  failed : outcome.2 = false → outcome.1 = file

/-- What an update needs to succeed. -/
structure Succeeds (passes : UpdateCommand → Bool) (mode : BaselineMode) (selected : List String)
    (inventory : UnitInventory) (old : List BaselineLine) : Prop where
  run : ∀ command, passes command = true
  valid : ∀ unit ∈ selected, validUnitName unit = true
  nodup : selected.Nodup
  recordable : Recordable inventory
  permits : Permits mode selected inventory old

/-- No service that would be recorded is failed. -/
def NoneFailed (inventory : UnitInventory) : Prop :=
  ∀ service, Recorded inventory "service" service → service ≠ watchdogServiceName →
    inventory.property service "ActiveState" ≠ some "failed"

private theorem updateBaseline_eq_some_iff (timersOnly : TimersOnly inventory)
    (isBaseline : readBaseline old = true) :
    updateBaseline mode old selected inventory = some candidate ↔
      (∀ unit ∈ selected, validUnitName unit = true) ∧ selected.Nodup ∧
        buildBaselineCandidate inventory = some candidate ∧
          Permits mode selected inventory old := by
  rw [updateBaseline_eq, isBaseline, Bool.true_and]
  constructor
  · intro updated
    split at updated
    · rename_i selection
      simp only [Bool.and_eq_true, List.all_eq_true, decide_eq_true_eq] at selection
      obtain ⟨built, isBuilt, rest⟩ := Option.bind_eq_some_iff.mp updated
      split at rest
      · rename_i compares
        obtain rfl := Option.some.inj rest
        exact ⟨selection.1, selection.2, isBuilt,
          (comparesCandidate_iff timersOnly isBaseline isBuilt).mp compares⟩
      · cases rest
    · cases updated
  · rintro ⟨valid, nodup, built, permits⟩
    have selection : (selected.all validUnitName && decide selected.Nodup) = true := by
      simp only [Bool.and_eq_true, List.all_eq_true, decide_eq_true_eq]
      exact ⟨valid, nodup⟩
    rw [if_pos selection, built, Option.bind_some,
      if_pos ((comparesCandidate_iff timersOnly isBaseline built).mpr permits)]

/-- An update succeeds exactly when nothing refuses it. -/
theorem updateBaselineFile_passed_iff (timersOnly : TimersOnly inventory)
    (isBaseline : readBaselineFile file = some old) :
    (updateBaselineFile passes mode selected inventory file).2 = true ↔
      Succeeds passes mode selected inventory old := by
  have read := isBaseline_of_readBaselineFile isBaseline
  constructor
  · intro passed
    obtain ⟨run, baseline, candidate, isOld, updated, -⟩ :=
      updateBaselineFile_eq_iff.mp (Prod.ext rfl passed)
    obtain rfl := Option.some.inj (isBaseline.symm.trans isOld)
    obtain ⟨valid, nodup, built, permits⟩ := (updateBaseline_eq_some_iff timersOnly read).mp updated
    refine ⟨run, valid, nodup, ?_, permits⟩
    exact (isSome_buildBaselineCandidate_iff timersOnly).mp (built ▸ rfl)
  · rintro ⟨run, valid, nodup, recordable, permits⟩
    obtain ⟨candidate, built⟩ := Option.isSome_iff_exists.mp
      ((isSome_buildBaselineCandidate_iff timersOnly).mpr recordable)
    have updated := (updateBaseline_eq_some_iff timersOnly read).mpr ⟨valid, nodup, built, permits⟩
    exact congrArg Prod.snd
      (updateBaselineFile_eq_iff.mpr ⟨run, old, candidate, isBaseline, updated, rfl⟩)

private theorem healthy_candidate_iff (timersOnly : TimersOnly inventory)
    (built : buildBaselineCandidate inventory = some candidate) :
    (∀ line ∈ candidate, line.role = "service" → line.unit ≠ watchdogServiceName →
        ¬ServiceFailed inventory line.unit) ↔ NoneFailed inventory := by
  obtain ⟨-, areRecords, all⟩ := records_of_buildBaselineCandidate built
  constructor
  · intro healthy service recorded notWatchdog isFailed
    obtain ⟨line, inCandidate, rfl⟩ := List.mem_map.mp (all _ _ recorded)
    have role := (areRecords line inCandidate).recorded.role_eq timersOnly recorded
    exact healthy line inCandidate role notWatchdog (.inl isFailed)
  · intro noneFailed line inCandidate role notWatchdog failed
    have records := areRecords line inCandidate
    exact noneFailed line.unit (role ▸ records.recorded) notWatchdog
      ((records.serviceFailed_iff role notWatchdog).mp failed)

/-- A candidate that is permitted differs in what was named, and in its failed services only can it
be other than it is to be. -/
theorem changesOnly_candidate_iff (timersOnly : TimersOnly inventory)
    (isBaseline : readBaseline old = true)
    (built : buildBaselineCandidate inventory = some candidate)
    (permits : Permits mode selected inventory old) :
    ChangesOnly mode selected inventory old candidate ↔ NoneFailed inventory := by
  rw [← healthy_candidate_iff timersOnly built]
  constructor
  · exact ChangesOnly.healthy
  · intro healthy
    constructor
    · exact fun line outside => mem_candidate_iff timersOnly isBaseline built permits outside
    · intro isRefresh unit inSelected
      exact (mem_units_candidate_iff built).mpr (permits.refreshed isRefresh unit inSelected)
    · intro isRetire unit inSelected
      rw [mem_units_candidate_iff built]
      exact permits.retired isRetire unit inSelected
    · exact healthy
    · exact nodup_buildBaselineCandidate built

/-- **An update of the baseline.** It changes what was named and leaves no failed service, unless
it succeeds while a service that it records is failed. -/
theorem updates_iff (timersOnly : TimersOnly inventory)
    (isBaseline : readBaselineFile file = some old) :
    Updates mode selected inventory file old
        (updateBaselineFile passes mode selected inventory file) ↔
      (Succeeds passes mode selected inventory old → NoneFailed inventory) := by
  have read := isBaseline_of_readBaselineFile isBaseline
  -- A success leaves the candidate, which reads as it was written.
  have left : ∀ passed : (updateBaselineFile passes mode selected inventory file).2 = true,
      ∃ candidate, buildBaselineCandidate inventory = some candidate ∧
        readBaselineFile (updateBaselineFile passes mode selected inventory file).1 =
          some candidate := by
    intro passed
    have ended : updateBaselineFile passes mode selected inventory file =
        ((updateBaselineFile passes mode selected inventory file).1, true) := Prod.ext rfl passed
    obtain ⟨-, baseline, candidate, isOld, updated, isNew⟩ := updateBaselineFile_eq_iff.mp ended
    obtain rfl := Option.some.inj (isBaseline.symm.trans isOld)
    obtain ⟨-, -, built, -⟩ := (updateBaseline_eq_some_iff timersOnly read).mp updated
    refine ⟨candidate, built, ?_⟩
    rw [isNew, readBaselineFile, baselineLines_candidate built,
      if_pos (readBaseline_candidate timersOnly built)]
  constructor
  · intro updates succeeds
    have passed := (updateBaselineFile_passed_iff timersOnly isBaseline).mpr succeeds
    obtain ⟨candidate, built, isNew⟩ := left passed
    obtain ⟨new, isRead, changes⟩ := updates.succeeded passed
    obtain rfl := Option.some.inj (isNew.symm.trans isRead)
    exact (changesOnly_candidate_iff timersOnly read built succeeds.permits).mp changes
  · intro noneFailed
    refine ⟨?_, updateBaselineFile_failed⟩
    intro passed
    have succeeds := (updateBaselineFile_passed_iff timersOnly isBaseline).mp passed
    obtain ⟨candidate, built, isNew⟩ := left passed
    exact ⟨candidate, isNew, (changesOnly_candidate_iff timersOnly read built succeeds.permits).mpr
      (noneFailed succeeds)⟩

end Outcome

section Sample

private theorem timersOnly_sampleInventory (down state : String) :
    TimersOnly (sampleInventory ["a.timer"] down state) := by
  rintro listed isList entry inList -
  obtain rfl := Option.some.inj isList
  rw [List.map_singleton, List.mem_singleton] at inList
  rw [inList]
  decide

/-- The files of the service have changed since the baseline was written. -/
def changedInventory : UnitInventory :=
  { sampleInventory ["a.timer"] "" "active" with
    digest := fun unit =>
      some (String.ofList (List.replicate 64 (if unit = "a.service" then '1' else '0'))) }

def changedBaseline : List BaselineLine :=
  [{ sampleServiceLine with hash := String.ofList (List.replicate 64 '1') }, sampleTimerLine]

theorem updates_iff_sample :
    updateBaselineFile (fun _ => true) .refresh ["a.service"] changedInventory
        (some (baselineText sampleBaseline)) = (some (baselineText changedBaseline), true) ∧
      Updates .refresh ["a.service"] changedInventory (some (baselineText sampleBaseline))
        sampleBaseline (updateBaselineFile (fun _ => true) .refresh ["a.service"] changedInventory
          (some (baselineText sampleBaseline))) := by
  constructor
  · apply updateBaselineFile_eq_iff.mpr
    exact ⟨fun _ => rfl, sampleBaseline, changedBaseline, isBaseline_sampleBaseline,
      by decide +kernel, rfl⟩
  · have timersOnly : TimersOnly changedInventory := timersOnly_sampleInventory "" "active"
    apply (updates_iff timersOnly isBaseline_sampleBaseline).mpr
    intro _ service _ _
    simp [changedInventory, sampleInventory]

/-- A service that is failed though its last run had success is recorded. -/
theorem failed_service_recorded :
    readBaselineFile (some (baselineText sampleBaseline)) = some sampleBaseline ∧
      TimersOnly (sampleInventory ["a.timer"] "a.service" "failed") ∧
      updateBaselineFile (fun _ => true) .refresh ["a.service"]
        (sampleInventory ["a.timer"] "a.service" "failed")
        (some (baselineText sampleBaseline)) = (some (baselineText sampleBaseline), true) ∧
      ¬Updates .refresh ["a.service"] (sampleInventory ["a.timer"] "a.service" "failed")
        (some (baselineText sampleBaseline)) sampleBaseline
        (updateBaselineFile (fun _ => true) .refresh ["a.service"]
          (sampleInventory ["a.timer"] "a.service" "failed")
          (some (baselineText sampleBaseline))) := by
  have run : updateBaselineFile (fun _ => true) .refresh ["a.service"]
      (sampleInventory ["a.timer"] "a.service" "failed")
      (some (baselineText sampleBaseline)) = (some (baselineText sampleBaseline), true) := by
    apply updateBaselineFile_eq_iff.mpr
    exact ⟨fun _ => rfl, sampleBaseline, sampleBaseline, isBaseline_sampleBaseline,
      by decide +kernel, rfl⟩
  refine ⟨isBaseline_sampleBaseline, timersOnly_sampleInventory _ _, run, ?_⟩
  rw [run]
  intro updates
  obtain ⟨new, isRead, changes⟩ := updates.succeeded rfl
  obtain rfl := Option.some.inj (isBaseline_sampleBaseline.symm.trans isRead)
  exact changes.healthy sampleServiceLine List.mem_cons_self rfl (by decide) (.inl rfl)

end Sample

end TraefikManager.Scripts
