import TraefikManager.Scripts.BaselineCandidate
import TraefikManager.Scripts.UninstallUnits

/-!
# Removing user systemd units is all or nothing

Wherever the script stops before its commit, the trap brings every unit and the baseline back.
After the commit nothing is brought back, so a failure there leaves an exit status that says
otherwise.
-/

namespace TraefikManager.Scripts

open Foundation

section Retiring

variable {baseline candidate : List BaselineLine} {selected : List String}
  {inventory : UnitInventory}

private theorem eq_of_mem_of_unit_eq {lines : List BaselineLine}
    (nodup : (lines.map BaselineLine.unit).Nodup)
    {first second : BaselineLine} (inFirst : first ∈ lines) (inSecond : second ∈ lines)
    (same : first.unit = second.unit) : first = second :=
  List.inj_on_of_nodup_map nodup inFirst inSecond same

/-- A line that may stand beside a baseline while units are retired is a line of it. -/
theorem mem_of_acceptsCandidate (isBaseline : readBaseline baseline = true) {line : BaselineLine}
    (accepted : acceptsCandidate .retire baseline selected line = true) : line ∈ baseline := by
  unfold acceptsCandidate at accepted
  split at accepted
  · simp at accepted
  · rename_i known isFound
    have inBaseline := List.mem_of_find?_eq_some isFound
    have unit : known.unit = line.unit := by simpa using List.find?_some isFound
    have valid : known.isValid = true := by
      simp only [readBaseline, Bool.and_eq_true, List.all_eq_true] at isBaseline
      exact isBaseline.1.1 known inBaseline
    simp only [BaselineLine.isValid, Bool.and_eq_true, Bool.or_eq_true, decide_eq_true_eq,
      reduceCtorEq, decide_false, Bool.false_and, Bool.false_eq_true, or_false] at accepted valid
    obtain ⟨⟨⟨-, noExtra⟩, -⟩, role, hash⟩ := accepted
    have same : known = line := by
      cases known
      cases line
      simp_all
    exact same ▸ inBaseline

/-- Retiring units removes their lines and no others. -/
theorem updateBaseline_retire
    (retired : updateBaseline .retire baseline selected inventory = some candidate) :
    readBaseline baseline = true ∧
      candidate.Perm (baseline.filter fun line => line.unit ∉ selected) := by
  unfold updateBaseline at retired
  split at retired
  · rename_i checked
    simp only [Bool.and_eq_true] at checked
    have isBaseline := checked.1.1
    refine ⟨isBaseline, ?_⟩
    obtain ⟨built, isBuilt, rest⟩ := Option.bind_eq_some_iff.mp retired
    split at rest
    · rename_i accepted
      obtain rfl := Option.some.inj rest
      simp only [Bool.and_eq_true, List.all_eq_true] at accepted
      obtain ⟨⟨beside, missing⟩, areRetired⟩ := accepted
      have units : (baseline.map BaselineLine.unit).Nodup := by
        simp only [readBaseline, Bool.and_eq_true, decide_eq_true_eq] at isBaseline
        exact isBaseline.1.2
      have inBaseline : ∀ line ∈ built, line ∈ baseline :=
        fun line inBuilt => mem_of_acceptsCandidate isBaseline (beside line inBuilt)
      apply (List.perm_ext_iff_of_nodup (nodup_buildBaselineCandidate isBuilt).of_map
        (units.of_map.filter _)).mpr
      intro line
      rw [List.mem_filter, decide_eq_true_eq]
      constructor
      · intro inBuilt
        refine ⟨inBaseline line inBuilt, ?_⟩
        intro isSelected
        have gone := areRetired line.unit isSelected
        simp only [acceptsSelected, Bool.and_eq_true, decide_eq_true_eq] at gone
        exact gone.2 (List.mem_map_of_mem inBuilt)
      · rintro ⟨inOld, notSelected⟩
        have kept := missing line inOld
        simp only [acceptsMissing, notSelected, decide_false, Bool.and_false, Bool.or_false,
          decide_eq_true_eq] at kept
        obtain ⟨other, inBuilt, same⟩ := List.mem_map.mp kept
        exact eq_of_mem_of_unit_eq units (inBaseline other inBuilt) inOld same ▸ inBuilt
    · cases rest
  · cases retired

end Retiring

section Rollback

variable {start host : UserSystemd} {units : List String} {snapshot : UnitSnapshot}

/-- The units outside the selection are as they were, and no link or start of a service has
changed. -/
def Within (start : UserSystemd) (units : List String) (host : UserSystemd) : Prop :=
  ∀ unit, (unit ∉ units → host.units unit = start.units unit) ∧
    (isControl unit = false → (host.units unit).linked = (start.units unit).linked ∧
      (host.units unit).started = (start.units unit).started)

theorem Within.refl : Within start units start := fun _ => ⟨fun _ => rfl, fun _ => ⟨rfl, rfl⟩⟩

theorem Within.modifyEach (within : Within start units host) {changed : List String}
    {change : UnitState → UnitState} (inUnits : ∀ unit ∈ changed, unit ∈ units)
    (apart : ∀ unit ∈ changed, isControl unit = false →
      ∀ state, (change state).linked = state.linked ∧ (change state).started = state.started) :
    Within start units (host.modifyEach changed change) := by
  apply updateEach_keeps fun name value =>
    (name ∉ units → value = start.units name) ∧
      (isControl name = false → value.linked = (start.units name).linked ∧
        value.started = (start.units name).started)
  · intro unit inChanged state kept
    refine ⟨fun outside => absurd (inUnits unit inChanged) outside, ?_⟩
    intro isService
    obtain ⟨linked, started⟩ := apart unit inChanged isService state
    exact ⟨linked.trans (kept.2 isService).1, started.trans (kept.2 isService).2⟩
  · exact within

/-- Each pass of a rollback whose manifest is as expected changes each unit of it. -/
theorem errexit_rollbackPass {expected : ManifestEntry → Bool}
    {change : ManifestEntry → UnitState → UnitState} {entries : List ManifestEntry}
    (asExpected : ∀ entry ∈ entries, expected entry = true) (host : UserSystemd) :
    errexit (rollbackPass expected change) entries host =
      ({ host with units := updateEach ManifestEntry.unit change entries host.units }, true) := by
  induction entries generalizing host with
  | nil => rfl
  | cons entry entries ih =>
      have here : rollbackPass expected change entry host =
          (host.modify entry.unit (change entry), true) :=
        if_pos (asExpected entry List.mem_cons_self)
      rw [errexit_cons (congrArg Prod.snd here), here]
      exact ih (fun other inRest => asExpected other (List.mem_cons_of_mem _ inRest)) _

/-- What the three passes make of a unit of the selection. -/
theorem unit_restored {unit : String} {state : UnitState} {copies : String → Option String}
    (present : (start.units unit).file.isSome = true)
    (copied : copies unit = (start.units unit).file)
    (service : isControl unit = false → state.linked = (start.units unit).linked ∧
      state.started = (start.units unit).started) :
    (manifestEntry start unit).revive ((manifestEntry start unit).putBack copies
      ((manifestEntry start unit).quiet state)) = start.units unit := by
  cases was : start.units unit with
  | mk file linked started =>
      rw [was] at present copied service
      obtain ⟨text, rfl⟩ := Option.isSome_iff_exists.mp present
      cases control : isControl unit with
      | false =>
          obtain ⟨sameLink, sameStart⟩ := service control
          simp [manifestEntry, ManifestEntry.quiet, ManifestEntry.putBack, ManifestEntry.revive,
            control, was, copied, sameLink, sameStart]
      | true =>
          obtain ⟨_, wasLinked, wasStarted⟩ := state
          cases linked <;> cases started <;> cases wasLinked <;> cases wasStarted <;>
            simp [manifestEntry, ManifestEntry.quiet, ManifestEntry.putBack, ManifestEntry.revive,
              UnitState.enabled, UnitState.active, control, was, copied]

/-- A rollback brings the units back. -/
theorem rollbackUnits_restores (present : ∀ unit ∈ units, (start.units unit).file.isSome = true)
    (taken : snapshotUnits start units = some snapshot) (within : Within start units host) :
    rollbackUnits snapshot host = ({ host with units := start.units }, true) := by
  unfold snapshotUnits at taken
  split at taken
  · rename_i selection
    obtain ⟨-, valid, nodup⟩ := selection
    obtain rfl := Option.some.inj taken
    have names : (units.map (manifestEntry start)).map ManifestEntry.unit = units := by
      rw [List.map_map]
      exact List.map_id _
    have expected : ∀ entry ∈ units.map (manifestEntry start), entry.isExpected = true := by
      intro entry inManifest
      obtain ⟨unit, inUnits, rfl⟩ := List.mem_map.mp inManifest
      have isValid := List.all_eq_true.mp valid unit inUnits
      cases control : isControl unit with
      | false => simp [ManifestEntry.isExpected, manifestEntry, control, isValid]
      | true => simp [ManifestEntry.isExpected, manifestEntry, control, isValid]
    have copied : ∀ entry ∈ units.map (manifestEntry start),
        (!entry.present ||
          (if entry.unit ∈ units then (start.units entry.unit).file else none).isSome) = true := by
      intro entry inManifest
      obtain ⟨unit, inUnits, rfl⟩ := List.mem_map.mp inManifest
      simp [manifestEntry, inUnits, present unit inUnits]
    unfold rollbackUnits
    dsimp only
    rw [errexit_rollbackPass expected, if_pos rfl, errexit_rollbackPass copied, if_pos rfl,
      errexit_rollbackPass fun _ _ => rfl]
    congr 2
    funext unit
    by_cases inUnits : unit ∈ units
    · have inManifest := List.mem_map_of_mem (f := manifestEntry start) inUnits
      have each : ∀ (change : ManifestEntry → UnitState → UnitState) (table : String → UnitState),
          updateEach ManifestEntry.unit change (units.map (manifestEntry start)) table unit =
            change (manifestEntry start unit) (table unit) :=
        fun change table => updateEach_of_mem (by rw [names]; exact nodup) inManifest table
      dsimp only
      rw [each, each, each]
      exact unit_restored (present unit inUnits) (if_pos inUnits) (within unit).2
    · have absent : unit ∉ (units.map (manifestEntry start)).map ManifestEntry.unit :=
        names.symm ▸ inUnits
      dsimp only
      rw [updateEach_of_not_mem absent, updateEach_of_not_mem absent, updateEach_of_not_mem absent]
      exact (within unit).1 inUnits
  · cases taken

end Rollback

section Running

variable {environment : UninstallEnvironment} {units : List String} {start : UserSystemd}
  {command : UninstallCommand} {state : Uninstall}

/-- The script between the beginning of its transaction and the commit. -/
structure InTransaction (units : List String) (start : UserSystemd) (state : Uninstall) : Prop where
  transaction : state.transaction = snapshotUnits start units
  backup : state.baselineBackup = some start.baseline
  within : Within start units state.host

private theorem mem_controlUnits {unit : String} :
    unit ∈ controlUnits units ↔ unit ∈ units ∧ isControl unit = true := List.mem_filter

/-- A command on the units changes units of the selection, and links and starts of timers and
paths only. -/
theorem within_unitCommand (inScript : command ∈ unitCommands units) {host : UserSystemd}
    (within : Within start units host) (reaches : String → Bool) :
    Within start units (host.modifyEach ((command.changes units).1.filter reaches)
      (command.changes units).2) := by
  have onControls : ∀ unit ∈ (controlUnits units).filter reaches, unit ∈ units ∧
      isControl unit = true :=
    fun unit inList => mem_controlUnits.mp (List.mem_of_mem_filter inList)
  cases command with
  | stopControls | disableControls =>
      apply within.modifyEach
      · exact fun unit inList => (onControls unit inList).1
      · exact fun unit inList isService =>
          absurd ((onControls unit inList).2.symm.trans isService) nofun
  | removeFile unit =>
      have inUnits : unit ∈ units := by simpa [unitCommands] using inScript
      apply within.modifyEach
      · intro other inList
        exact List.mem_singleton.mp (List.mem_of_mem_filter inList) ▸ inUnits
      · exact fun _ _ _ _ => ⟨rfl, rfl⟩
  | _ => exact within

private theorem changes_only (environment : UninstallEnvironment)
    (inScript : command ∈ unitCommands units) (state : Uninstall) :
    command.effect environment units state = some { state with
      host := state.host.modifyEach (command.changes units).1 (command.changes units).2 } ∧
    command.residue environment units state = { state with
      host := state.host.modifyEach
        ((command.changes units).1.filter (environment.reaches command))
        (command.changes units).2 } := by
  cases command with
  | copyBaseline | beginTransaction | retireBaseline | commitTransaction =>
      simp [unitCommands] at inScript
  | _ => exact ⟨rfl, rfl⟩

/-- What a command on the units leaves: a part of its changes, all of them if it passes. -/
theorem perform_unitCommand (environment : UninstallEnvironment)
    (inScript : command ∈ unitCommands units) (state : Uninstall) :
    (command.perform environment units state).2 = (environment.stops command).isNone ∧
    ∃ reaches exitStatus, (command.perform environment units state).1 = { state with
      host := state.host.modifyEach ((command.changes units).1.filter reaches)
        (command.changes units).2
      exitStatus := exitStatus } := by
  obtain ⟨effect, residue⟩ := changes_only environment inScript state
  unfold UninstallCommand.perform
  cases environment.stops command with
  | some stop =>
      refine ⟨rfl, environment.reaches command, stop.status, ?_⟩
      rw [residue]
  | none =>
      rw [effect]
      refine ⟨rfl, fun _ => true, 0, ?_⟩
      rw [List.filter_true]

theorem InTransaction.perform (inTransaction : InTransaction units start state)
    (inScript : command ∈ unitCommands units) :
    InTransaction units start (command.perform environment units state).1 := by
  obtain ⟨-, reaches, exitStatus, left⟩ := perform_unitCommand environment inScript state
  rw [left]
  exact
    { transaction := inTransaction.transaction
      backup := inTransaction.backup
      within := within_unitCommand inScript inTransaction.within reaches }

/-- The script has changed nothing yet, or its trap undoes what it has changed. -/
def Restorable (units : List String) (start : UserSystemd) (state : Uninstall) : Prop :=
  state.exitStatus ≠ 0 ∧
    (state.transaction = none ∧ state.host = start ∨ InTransaction units start state)

/-- The units are gone and retired, and the transaction is over. -/
structure Removed (units : List String) (start : UserSystemd) (state : Uninstall) : Prop where
  transaction : state.transaction = none
  exitStatus : state.exitStatus = 0
  files : ∀ unit ∈ units, (state.host.units unit).file = none
  within : Within start units state.host
  baseline : state.host.baseline.Perm (start.baseline.filter fun line => line.unit ∉ units)

/-- A run that commits exactly in one case, with what it leaves. -/
structure RemovalRun (units : List String) (start : UserSystemd) (commits : Bool)
    (run : Uninstall × Bool) : Prop where
  status : run.2 = commits
  removed : commits = true → Removed units start run.1
  restorable : commits = false → Restorable units start run.1

theorem RemovalRun.stopped (restorable : Restorable units start state) :
    RemovalRun units start false (state, false) := ⟨rfl, nofun, fun _ => restorable⟩

theorem RemovalRun.committed (removed : Removed units start state) :
    RemovalRun units start true (state, true) := ⟨rfl, fun _ => removed, nofun⟩

private theorem perform_stopped (units : List String) {stop : Stop}
    (stops : environment.stops command = some stop) (state : Uninstall) :
    command.perform environment units state =
      ({ command.residue environment units state with exitStatus := stop.status }, false) := by
  unfold UninstallCommand.perform
  rw [stops]

private theorem perform_continues (units : List String)
    (continues : environment.stops command = none) (state : Uninstall) :
    command.perform environment units state =
      match command.effect environment units state with
      | some next => ({ next with exitStatus := 0 }, true)
      | none => ({ state with exitStatus := 1 }, false) := by
  cases effect : command.effect environment units state <;>
    simp only [UninstallCommand.perform, continues, effect]

/-- A command at which the script stops leaves a status that says so. -/
theorem exitStatus_of_failed (fails : (command.perform environment units state).2 = false) :
    (command.perform environment units state).1.exitStatus ≠ 0 := by
  cases stops : environment.stops command with
  | some stop =>
      rw [perform_stopped _ stops]
      exact stop.status_ne_zero
  | none =>
      rw [perform_continues _ stops] at fails ⊢
      split at fails
      · cases fails
      · exact Nat.one_ne_zero

private theorem file_changes (inScript : command ∈ unitCommands units) (unit : UnitState)
    (gone : unit.file = none) : ((command.changes units).2 unit).file = none := by
  cases command with
  | removeFile _ => rfl
  | _ => exact gone

/-- The files of the selection are gone once the commands on the units have passed. -/
theorem files_removed (passed : (errexit (UninstallCommand.perform environment units)
      (unitCommands units) state).2 = true) {unit : String} (inUnits : unit ∈ units) :
    ((errexit (UninstallCommand.perform environment units) (unitCommands units)
      state).1.host.units unit).file = none := by
  have removes : .removeFile unit ∈ unitCommands units := by simp [unitCommands, inUnits]
  apply errexit_establishes_of_mem
    (fun current : Uninstall => (current.host.units unit).file = none) removes
  · intro current passes
    have continues : environment.stops (.removeFile unit) = none := by
      rw [(perform_unitCommand environment removes current).1] at passes
      exact Option.isNone_iff_eq_none.mp passes
    rw [perform_continues _ continues]
    exact congrArg UnitState.file (Function.update_self unit _ current.host.units)
  · intro other inScript current gone
    obtain ⟨-, reaches, exitStatus, left⟩ := perform_unitCommand environment inScript current
    rw [left]
    refine updateEach_keeps (fun name (value : UnitState) => name = unit → value.file = none) ?_ ?_
      unit rfl
    · exact fun name _ value isGone same => file_changes inScript value (isGone same)
    · exact fun name same => same ▸ gone
  · exact passed

/-- The units a valid baseline knows are the timers and services. -/
theorem unit_mem_retireUnits {baseline : List BaselineLine} (isBaseline : readBaseline baseline = true)
    {line : BaselineLine} (inBaseline : line ∈ baseline) :
    line.unit ∈ retireUnits units ↔ line.unit ∈ units := by
  have valid : line.isValid = true := by
    simp only [readBaseline, Bool.and_eq_true, List.all_eq_true] at isBaseline
    exact isBaseline.1.1 line inBaseline
  simp only [BaselineLine.isValid, Bool.and_eq_true, Bool.or_eq_true, decide_eq_true_eq] at valid
  rw [retireUnits, List.mem_filter, Bool.or_eq_true, decide_eq_true_eq, decide_eq_true_eq]
  exact and_iff_left (valid.2.imp And.right And.right)

private theorem perm_of_retired {baseline candidate : List BaselineLine} {inventory : UnitInventory}
    (retired : updateBaseline .retire baseline (retireUnits units) inventory = some candidate) :
    candidate.Perm (baseline.filter fun line => line.unit ∉ units) := by
  obtain ⟨isBaseline, perm⟩ := updateBaseline_retire retired
  refine perm.trans (List.Perm.of_eq (List.filter_congr ?_))
  intro line inBaseline
  exact decide_eq_decide.mpr (not_congr (unit_mem_retireUnits isBaseline inBaseline))

/-- Whether the script reaches its commit. -/
def commitsRemoval (environment : UninstallEnvironment) (units : List String)
    (host : UserSystemd) : Bool :=
  selectionAccepted environment.relations host units &&
  ((removalCommands units).all fun command => (environment.stops command).isNone) &&
  (updateBaseline .retire host.baseline (retireUnits units) environment.inventory).isSome

/-- Stopping at the update of the baseline leaves the transaction open. -/
theorem InTransaction.retireResidue (inTransaction : InTransaction units start state)
    (exitStatus : Nat) :
    InTransaction units start
      { UninstallCommand.retireBaseline.residue environment units state with
        exitStatus := exitStatus } := by
  simp only [UninstallCommand.residue, UninstallCommand.effect]
  split
  · cases updateBaseline .retire state.host.baseline (retireUnits units) environment.inventory with
    | none => exact { inTransaction with }
    | some baseline => exact { inTransaction with }
  · exact { inTransaction with }

/-- The run of the script inside its transaction. -/
theorem errexit_transaction (inTransaction : InTransaction units start state)
    (same : state.host.baseline = start.baseline) :
    RemovalRun units start
      (((unitCommands units ++ [UninstallCommand.retireBaseline, .commitTransaction]).all
        fun command => (environment.stops command).isNone) &&
        (updateBaseline .retire start.baseline (retireUnits units) environment.inventory).isSome)
      (errexit (UninstallCommand.perform environment units)
        (unitCommands units ++ [UninstallCommand.retireBaseline, .commitTransaction]) state) := by
  have onUnits : InTransaction units start (errexit (UninstallCommand.perform environment units)
      (unitCommands units) state).1 :=
    errexit_keeps _ (fun _ inScript _ holds => holds.perform inScript) inTransaction
  have unchanged : (errexit (UninstallCommand.perform environment units) (unitCommands units)
      state).1.host.baseline = start.baseline := by
    apply errexit_keeps (fun current : Uninstall => current.host.baseline = start.baseline) _ same
    intro command inScript current kept
    obtain ⟨-, reaches, exitStatus, left⟩ := perform_unitCommand environment inScript current
    rw [left]
    exact kept
  have status : (errexit (UninstallCommand.perform environment units) (unitCommands units)
      state).2 = (unitCommands units).all fun command => (environment.stops command).isNone :=
    errexit_passes fun _ inScript current => (perform_unitCommand environment inScript current).1
  have gone := fun passed unit (inUnits : unit ∈ units) =>
    @files_removed environment units state passed unit inUnits
  have failing : (errexit (UninstallCommand.perform environment units) (unitCommands units)
      state).2 = false → (errexit (UninstallCommand.perform environment units) (unitCommands units)
        state).1.exitStatus ≠ 0 := by
    intro fails
    obtain ⟨command, -, current, -, stopped, left⟩ :=
      errexit_stopped (fun _ => True) (fun _ _ _ _ _ => trivial) trivial fails
    rw [left]
    exact exitStatus_of_failed stopped
  rw [errexit_append, List.all_append, ← status]
  revert onUnits unchanged gone failing
  cases errexit (UninstallCommand.perform environment units) (unitCommands units) state with
  | mk removed passed =>
      intro onUnits unchanged gone failing
      dsimp only at onUnits unchanged gone failing ⊢
      cases passed with
      | false =>
          rw [if_neg nofun, Bool.false_and, Bool.false_and]
          exact .stopped ⟨failing rfl, .inr onUnits⟩
      | true =>
          simp only [Bool.true_and, if_true, List.all_cons, List.all_nil, Bool.and_true]
          cases retires : environment.stops .retireBaseline with
          | some stop =>
              have stopped := perform_stopped units retires removed
              rw [errexit_cons_of_failed _ (congrArg Prod.snd stopped), stopped]
              exact .stopped ⟨stop.status_ne_zero, .inr (onUnits.retireResidue stop.status)⟩
          | none =>
              have continues := perform_continues units retires removed
              simp only [UninstallCommand.effect, unchanged] at continues
              cases retired : updateBaseline .retire start.baseline (retireUnits units)
                  environment.inventory with
              | none =>
                  simp only [retired, Option.map_none] at continues
                  rw [errexit_cons_of_failed _ (congrArg Prod.snd continues), continues,
                    Option.isSome_none, Bool.and_false]
                  exact .stopped ⟨Nat.one_ne_zero, .inr { onUnits with }⟩
              | some baseline =>
                  simp only [retired, Option.map_some] at continues
                  rw [errexit_cons (congrArg Prod.snd continues), continues]
                  cases commits : environment.stops .commitTransaction with
                  | some stop =>
                      have stopped := perform_stopped units commits
                        { removed with
                          host := { removed.host with baseline := baseline }, exitStatus := 0 }
                      rw [errexit_cons_of_failed _ (congrArg Prod.snd stopped), stopped]
                      exact .stopped ⟨stop.status_ne_zero, .inr { onUnits with }⟩
                  | none =>
                      have committed := perform_continues units commits
                        { removed with
                          host := { removed.host with baseline := baseline }, exitStatus := 0 }
                      rw [errexit_cons (congrArg Prod.snd committed), committed]
                      exact .committed
                        ⟨rfl, rfl, gone rfl, onUnits.within, perm_of_retired retired⟩

/-- What an accepted selection is known to be. -/
theorem of_selectionAccepted {relations : UnitRelations}
    (accepted : selectionAccepted relations start units = true) :
    units ≠ [] ∧ (∀ unit ∈ units, validUnit unit = true ∧ (start.units unit).file.isSome = true) ∧
      units.Nodup := by
  unfold selectionAccepted at accepted
  simp only [Bool.and_eq_true, decide_eq_true_eq, List.all_eq_true] at accepted
  obtain ⟨⟨⟨⟨⟨⟨⟨atLeastTwo, each⟩, nodup⟩, -⟩, -⟩, -⟩, -⟩, -⟩ := accepted
  refine ⟨?_, fun unit inUnits => (each unit inUnits).1, nodup⟩
  intro isEmpty
  rw [isEmpty] at atLeastTwo
  cases atLeastTwo

/-- The run of the script up to its commit. -/
theorem errexit_removal (accepted : selectionAccepted environment.relations start units = true) :
    RemovalRun units start (commitsRemoval environment units start)
      (errexit (UninstallCommand.perform environment units) (removalCommands units)
        { host := start, baselineBackup := none, transaction := none, exitStatus := 0 }) := by
  obtain ⟨notEmpty, each, nodup⟩ := of_selectionAccepted accepted
  obtain ⟨snapshot, taken⟩ : ∃ snapshot, snapshotUnits start units = some snapshot := by
    unfold snapshotUnits
    rw [if_pos ⟨notEmpty, List.all_eq_true.mpr fun unit inUnits => (each unit inUnits).1, nodup⟩]
    exact ⟨_, rfl⟩
  unfold commitsRemoval removalCommands
  rw [accepted, Bool.true_and, List.append_assoc]
  simp only [List.cons_append, List.nil_append, List.all_cons]
  cases copies : environment.stops .copyBaseline with
  | some stop =>
      have stopped := perform_stopped units copies
        { host := start, baselineBackup := none, transaction := none, exitStatus := 0 }
      rw [errexit_cons_of_failed _ (congrArg Prod.snd stopped), stopped]
      exact .stopped ⟨stop.status_ne_zero, .inl ⟨rfl, rfl⟩⟩
  | none =>
      have copied : UninstallCommand.copyBaseline.perform environment units
          { host := start, baselineBackup := none, transaction := none, exitStatus := 0 } =
            ({ host := start, baselineBackup := some start.baseline, transaction := none
               exitStatus := 0 }, true) := perform_continues units copies _
      rw [errexit_cons (congrArg Prod.snd copied), copied]
      cases begins : environment.stops .beginTransaction with
      | some stop =>
          have stopped := perform_stopped units begins
            { host := start, baselineBackup := some start.baseline, transaction := none
              exitStatus := 0 }
          rw [errexit_cons_of_failed _ (congrArg Prod.snd stopped), stopped]
          exact .stopped ⟨stop.status_ne_zero, .inl ⟨rfl, rfl⟩⟩
      | none =>
          have begun := perform_continues units begins
            { host := start, baselineBackup := some start.baseline, transaction := none
              exitStatus := 0 }
          simp only [UninstallCommand.effect, taken, Option.map_some] at begun
          rw [errexit_cons (congrArg Prod.snd begun), begun, Option.isNone_none, Bool.true_and,
            Bool.true_and]
          exact errexit_transaction
            { transaction := taken.symm, backup := rfl, within := Within.refl } rfl

end Running

section Outcome

variable {environment : UninstallEnvironment} {units : List String} {start : UserSystemd}
  {state : Uninstall}

/-- What a removal is to leave: all of the selection gone if it exits with 0, else everything as
it was. -/
def AllOrNothing (units : List String) (start : UserSystemd) (result : Nat × UserSystemd) : Prop :=
  if result.1 = 0 then
    (∀ unit, (result.2.units unit).file =
      if unit ∈ units then none else (start.units unit).file) ∧
    (∀ unit, (result.2.units unit).enabled =
      if unit ∈ units then false else (start.units unit).enabled) ∧
    (∀ unit, (result.2.units unit).active =
      if unit ∈ units then false else (start.units unit).active) ∧
    result.2.baseline.Perm (start.baseline.filter fun line => line.unit ∉ units)
  else
    (∀ unit, (result.2.units unit).file = (start.units unit).file) ∧
    (∀ unit, (result.2.units unit).enabled = (start.units unit).enabled) ∧
    (∀ unit, (result.2.units unit).active = (start.units unit).active) ∧
    result.2.baseline = start.baseline

private theorem getD_status_ne_zero {status : Nat} (failed : status ≠ 0) (signal : Option Signal) :
    (signal.map Signal.status).getD status ≠ 0 := by
  cases signal with
  | none => exact failed
  | some signal => exact (Stop.received signal).status_ne_zero

/-- The trap brings everything back. -/
theorem finishUninstall_restores
    (accepted : selectionAccepted environment.relations start units = true)
    (restorable : Restorable units start state) :
    finishUninstall environment state =
      ((environment.cleanupSignal.map Signal.status).getD state.exitStatus, start) := by
  obtain ⟨failed, ⟨noTransaction, same⟩ | inTransaction⟩ := restorable
  · simp only [finishUninstall, finishTransaction, noTransaction, Option.isSome_none,
      Bool.false_eq_true, if_false, same]
  · obtain ⟨notEmpty, each, nodup⟩ := of_selectionAccepted accepted
    cases taken : snapshotUnits start units with
    | none =>
        unfold snapshotUnits at taken
        rw [if_pos ⟨notEmpty, List.all_eq_true.mpr fun unit inUnits => (each unit inUnits).1,
          nodup⟩] at taken
        cases taken
    | some snapshot =>
        have restores := rollbackUnits_restores (fun unit inUnits => (each unit inUnits).2) taken
          inTransaction.within
        simp only [finishUninstall, finishTransaction, inTransaction.transaction, taken,
          inTransaction.backup, restores, Option.isSome_some, if_true, Bool.not_true, Bool.false_or,
          decide_eq_true_eq, failed, if_false]

private theorem finishUninstall_removed (noTransaction : state.transaction = none) :
    finishUninstall environment state =
      ((environment.cleanupSignal.map Signal.status).getD state.exitStatus, state.host) := by
  simp only [finishUninstall, finishTransaction, noTransaction, Option.isSome_none,
    Bool.false_eq_true, if_false]

/-- The script exits with a failure after its commit. -/
def FailsAfterCommit (environment : UninstallEnvironment) (units : List String)
    (start : UserSystemd) : Prop :=
  commitsRemoval environment units start = true ∧
    (environment.stops .announce ≠ none ∨ environment.cleanupSignal ≠ none)

private theorem allOrNothing_restored {status : Nat} (failed : status ≠ 0) :
    AllOrNothing units start (status, start) := by
  unfold AllOrNothing
  rw [if_neg failed]
  exact ⟨fun _ => rfl, fun _ => rfl, fun _ => rfl, rfl⟩

private theorem allOrNothing_removed (removed : Removed units start state) :
    AllOrNothing units start (0, state.host) := by
  have each : ∀ unit, (state.host.units unit).file =
        (if unit ∈ units then none else (start.units unit).file) ∧
      (state.host.units unit).enabled =
        (if unit ∈ units then false else (start.units unit).enabled) ∧
      (state.host.units unit).active =
        (if unit ∈ units then false else (start.units unit).active) := by
    intro unit
    by_cases inUnits : unit ∈ units
    · simp [inUnits, UnitState.enabled, UnitState.active, removed.files unit inUnits]
    · simp [inUnits, (removed.within unit).1 inUnits]
  unfold AllOrNothing
  rw [if_pos rfl]
  exact ⟨fun unit => (each unit).1, fun unit => (each unit).2.1, fun unit => (each unit).2.2,
    removed.baseline⟩

private theorem not_allOrNothing_removed {status : Nat} (failed : status ≠ 0)
    (accepted : selectionAccepted environment.relations start units = true)
    (removed : Removed units start state) : ¬AllOrNothing units start (status, state.host) := by
  obtain ⟨notEmpty, each, -⟩ := of_selectionAccepted accepted
  obtain ⟨unit, inUnits⟩ := List.exists_mem_of_ne_nil units notEmpty
  unfold AllOrNothing
  rw [if_neg failed]
  rintro ⟨files, -⟩
  have present := (each unit inUnits).2
  rw [← files unit, removed.files unit inUnits] at present
  cases present

/-- The message of success changes nothing, whether or not it can be written. -/
theorem perform_announce (state : Uninstall) :
    UninstallCommand.announce.perform environment units state =
      ({ state with exitStatus := ((environment.stops .announce).map Stop.status).getD 0 },
        (environment.stops .announce).isNone) := by
  cases stops : environment.stops .announce with
  | some stop => exact perform_stopped _ stops state
  | none => exact perform_continues _ stops state

/-- How the script ends after its commit. -/
theorem finishUninstall_announced (noTransaction : state.transaction = none) :
    finishUninstall environment
        (errexit (UninstallCommand.perform environment units) [.announce] state).1 =
      ((environment.cleanupSignal.map Signal.status).getD
        (((environment.stops .announce).map Stop.status).getD 0), state.host) := by
  have announced : (errexit (UninstallCommand.perform environment units) [.announce] state).1 =
      { state with exitStatus := ((environment.stops .announce).map Stop.status).getD 0 } := by
    simp only [errexit, perform_announce]
    split
    · rfl
    · rfl
  rw [announced]
  exact finishUninstall_removed noTransaction

/-- Removing units is all or nothing unless the script fails after its commit. -/
theorem uninstallUnits_allOrNothing_iff (environment : UninstallEnvironment) (units : List String)
    (start : UserSystemd) :
    AllOrNothing units start (uninstallUnits environment units start) ↔
      ¬FailsAfterCommit environment units start := by
  unfold FailsAfterCommit uninstallUnits
  cases accepted : selectionAccepted environment.relations start units with
  | false =>
      simp only [accepted, Bool.false_eq_true, if_false, commitsRemoval, Bool.false_and, false_and,
        not_false_eq_true, iff_true]
      exact allOrNothing_restored Nat.one_ne_zero
  | true =>
      have run := errexit_removal accepted
      rw [if_pos rfl, errexit_append]
      cases commits : commitsRemoval environment units start with
      | false =>
          rw [commits] at run
          have restorable := run.restorable rfl
          rw [if_neg (by rw [run.status]; exact Bool.false_ne_true),
            finishUninstall_restores accepted restorable]
          simp only [Bool.false_eq_true, false_and, not_false_eq_true, iff_true]
          exact allOrNothing_restored (getD_status_ne_zero restorable.1 _)
      | true =>
          rw [commits] at run
          have removed := run.removed rfl
          rw [if_pos run.status]
          rw [finishUninstall_announced removed.transaction]
          cases announced : environment.stops .announce with
          | some stop =>
              simp only [true_and, ne_eq, reduceCtorEq, not_false_eq_true, true_or, not_true_eq_false,
                iff_false]
              exact not_allOrNothing_removed
                (getD_status_ne_zero stop.status_ne_zero _) accepted removed
          | none =>
              cases signalled : environment.cleanupSignal with
              | some signal =>
                  simp only [true_and, ne_eq, reduceCtorEq, not_false_eq_true, or_true,
                    not_true_eq_false, iff_false]
                  exact not_allOrNothing_removed (Stop.received signal).status_ne_zero accepted
                    removed
              | none =>
                  simp only [true_and, ne_eq, not_true_eq_false, or_self, not_false_eq_true,
                    iff_true]
                  exact allOrNothing_removed removed

/-- A digest. -/
def sampleDigest : String := "0000000000000000000000000000000000000000000000000000000000000000"

/-- A timer and a service to remove and two to keep. -/
def sampleSystemd : UserSystemd :=
  { units := fun unit =>
      if unit ∈ ["old.timer", "keep.timer"] then ⟨some "[Timer]", true, true⟩
      else if unit ∈ ["old.service", "keep.service"] then ⟨some "[Service]", false, false⟩
      else ⟨none, false, false⟩
    baseline :=
      [{ hash := sampleDigest, role := "service", unit := "keep.service" },
        { hash := sampleDigest, role := "timer", unit := "keep.timer" },
        { hash := sampleDigest, role := "service", unit := "old.service" },
        { hash := sampleDigest, role := "timer", unit := "old.timer" }] }

/-- A run that a signal hits while the script writes its last message. -/
def lateSignal : UninstallEnvironment :=
  { relations :=
      { hasDropIn := fun _ => false
        triggers := fun _ => some ["old.service"]
        triggeredBy := fun _ => some ["old.timer"] }
    inventory :=
      { listedTimers := some [("keep.timer", "enabled")]
        property := fun unit property =>
          if property = "LoadState" then some "loaded"
          else if property = "ActiveState" then
            some (if unit = "keep.timer" then "active" else "inactive")
          else if property = "Triggers" then some "keep.service"
          else some "success"
        isEnabled := fun _ => "enabled"
        digest := fun _ => some sampleDigest }
    stops := fun command => if command = .announce then some (.received .terminate) else none
    reaches := fun _ _ => true
    writesBaseline := true
    cleanupSignal := none }

/-- The script exits with 143 although the units are gone. -/
theorem late_signal_keeps_removal :
    ¬AllOrNothing ["old.timer", "old.service"] sampleSystemd
      (uninstallUnits lateSignal ["old.timer", "old.service"] sampleSystemd) := by
  have status : (uninstallUnits lateSignal ["old.timer", "old.service"] sampleSystemd).1 = 143 := by
    decide +kernel
  have gone : ((uninstallUnits lateSignal ["old.timer", "old.service"] sampleSystemd).2.units
      "old.timer").file = none := by decide +kernel
  unfold AllOrNothing
  rw [status, if_neg (by decide)]
  rintro ⟨files, -⟩
  have same := files "old.timer"
  rw [gone] at same
  exact absurd same (by decide)

end Outcome

end TraefikManager.Scripts
