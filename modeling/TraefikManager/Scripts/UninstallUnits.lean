import Mathlib.Logic.Function.Basic
import TraefikManager.Foundation.ShellScript
import TraefikManager.Scripts.UnitBaseline

/-!
# Removing user systemd units

The units of a selection are stopped, disabled and removed, and then retired from the baseline.
All of it is a transaction: the files and the states of the units are taken down before, and
unless the script reaches its commit, the trap brings them back.
-/

namespace TraefikManager.Scripts

open Foundation

section Host

/-- A unit: its file, whether a link enables it, and whether it was started. -/
structure UnitState where
  file : Option String
  linked : Bool
  started : Bool
  deriving DecidableEq, Repr

/-- A unit without a file is not enabled, though its link is still there. -/
def UnitState.enabled (unit : UnitState) : Bool := unit.file.isSome && unit.linked

def UnitState.active (unit : UnitState) : Bool := unit.file.isSome && unit.started

/-- The unit directory with the states of the units, and the baseline file. -/
structure UserSystemd where
  units : String → UnitState
  baseline : List BaselineLine

namespace UserSystemd

variable (host : UserSystemd)

/-- Change a unit. -/
def modify (unit : String) (change : UnitState → UnitState) : UserSystemd :=
  { host with units := Function.update host.units unit (change (host.units unit)) }

/-- Change each of some units. -/
def modifyEach (units : List String) (change : UnitState → UnitState) : UserSystemd :=
  { host with units := updateEach id (fun _ => change) units host.units }

end UserSystemd

end Host

section Checks

/-- `*.timer` or `*.path`. -/
def isControl (unit : String) : Bool :=
  unitKind? unit = some .timer || unitKind? unit = some .path

/-- What systemd and the file system answer before the transaction. -/
structure UnitRelations where
  hasDropIn : String → Bool
  triggers : String → Option (List String)
  triggeredBy : String → Option (List String)

variable (relations : UnitRelations) (host : UserSystemd) (units : List String)

/-- The timers and paths of a selection. -/
def controlUnits : List String := units.filter isControl

def serviceUnits : List String := units.filter fun unit => unitKind? unit = some .service

/-- The timers and services of a selection, which the baseline knows. -/
def retireUnits : List String :=
  units.filter fun unit => unitKind? unit = some .timer || unitKind? unit = some .service

/-- A control triggers services of the selection only, and at least one. -/
def controlAccepted (control : String) : Bool :=
  (relations.triggers control).any fun triggers =>
    triggers ≠ [] && triggers.all fun trigger =>
      unitKind? trigger = some .service && trigger ∈ units

/-- A service is triggered by controls of the selection only, and at least one, and it does not
run. -/
def serviceAccepted (service : String) : Bool :=
  ((controlUnits units).any fun control =>
    (relations.triggers control).any fun triggers => service ∈ triggers) &&
  ((relations.triggeredBy service).any fun controls =>
    controls ≠ [] && controls.all fun control => isControl control && control ∈ units) &&
  !(host.units service).active

/-- The checks of the script before it changes anything. -/
def selectionAccepted : Bool :=
  2 ≤ units.length &&
  (units.all fun unit =>
    validUnit unit && (host.units unit).file.isSome && !relations.hasDropIn unit) &&
  decide units.Nodup &&
  (units.any fun unit => unitKind? unit = some .timer) &&
  (serviceUnits units ≠ []) &&
  (retireUnits units).all (baselineHasUnit host.baseline) &&
  (controlUnits units).all (controlAccepted relations units) &&
  (serviceUnits units).all (serviceAccepted relations host units)

end Checks

section Transaction

/-- A line of the manifest. -/
structure ManifestEntry where
  unit : String
  present : Bool
  enabled : Option Bool
  active : Option Bool
  deriving DecidableEq, Repr

/-- The backup directory: the manifest and the copies of the unit files. -/
structure UnitSnapshot where
  manifest : List ManifestEntry
  copies : String → Option String

/-- The line `tm_snapshot_user_systemd_units` writes for a unit. -/
def manifestEntry (host : UserSystemd) (unit : String) : ManifestEntry :=
  { unit := unit
    present := (host.units unit).file.isSome
    enabled := if isControl unit then some (host.units unit).enabled else none
    active := if isControl unit then some (host.units unit).active else none }

/-- `tm_snapshot_user_systemd_units`. -/
def snapshotUnits (host : UserSystemd) (units : List String) : Option UnitSnapshot :=
  if units ≠ [] ∧ units.all validUnit ∧ units.Nodup then
    some
      { manifest := units.map (manifestEntry host)
        copies := fun unit => if unit ∈ units then (host.units unit).file else none }
  else none

/-- What the first pass of the rollback does to a unit: it stops and disables what was stopped
and disabled. -/
def ManifestEntry.quiet (entry : ManifestEntry) (unit : UnitState) : UnitState :=
  { unit with
    started := unit.started && entry.active ≠ some false
    linked := unit.linked && entry.enabled ≠ some false }

/-- What the second pass does to a unit: it puts the copy of the file back. -/
def ManifestEntry.putBack (copies : String → Option String) (entry : ManifestEntry)
    (unit : UnitState) : UnitState :=
  { unit with file := if entry.present then copies entry.unit else none }

/-- What the third pass does to a unit: it enables and starts what was enabled and started. -/
def ManifestEntry.revive (entry : ManifestEntry) (unit : UnitState) : UnitState :=
  let enabled :=
    if entry.present && entry.enabled = some true && !unit.enabled then
      { unit with linked := true }
    else unit
  if entry.present && entry.active = some true && !enabled.active then
    { enabled with started := true }
  else enabled

/-- The manifest is read line by line; a line that is not as expected ends the rollback. -/
def rollbackPass (expected : ManifestEntry → Bool)
    (change : ManifestEntry → UnitState → UnitState) (entry : ManifestEntry)
    (host : UserSystemd) : UserSystemd × Bool :=
  if expected entry then (host.modify entry.unit (change entry), true) else (host, false)

/-- What the first pass expects: flags for a timer or a path, none for a service. -/
def ManifestEntry.isExpected (entry : ManifestEntry) : Bool :=
  validUnit entry.unit &&
    if isControl entry.unit then
      entry.enabled.isSome && entry.active.isSome
    else entry.enabled.isNone && entry.active.isNone

/-- `tm_rollback_user_systemd_units`, whose file operations and calls of systemctl succeed. -/
def rollbackUnits (snapshot : UnitSnapshot) (host : UserSystemd) : UserSystemd × Bool :=
  let quieted :=
    errexit (rollbackPass ManifestEntry.isExpected ManifestEntry.quiet) snapshot.manifest host
  if quieted.2 then
    let putBack :=
      errexit (rollbackPass
        (fun entry => !entry.present || (snapshot.copies entry.unit).isSome)
        (ManifestEntry.putBack snapshot.copies)) snapshot.manifest quieted.1
    if putBack.2 then
      errexit (rollbackPass (fun _ => true) ManifestEntry.revive) snapshot.manifest putBack.1
    else putBack
  else quieted

end Transaction

section Removal

/-- The commands of the script from the backup of the baseline on. -/
inductive UninstallCommand where
  | copyBaseline
  | beginTransaction
  | stopControls
  | disableControls
  | checkInactive (control : String)
  | checkDisabled (control : String)
  | removeFile (unit : String)
  | daemonReload
  | checkNotFound (unit : String)
  | retireBaseline
  | commitTransaction
  | announce
  deriving DecidableEq, Repr

inductive Signal where
  | interrupt
  | terminate
  | hangUp
  deriving DecidableEq, Repr

/-- What the traps exit with. -/
def Signal.status : Signal → Nat
  | interrupt => 130
  | terminate => 143
  | hangUp => 129

/-- Why the script stops at a command: the command fails, or a signal comes in. -/
inductive Stop where
  | failed (status : Nat) (isFailure : 0 < status)
  | received (signal : Signal)
  deriving DecidableEq, Repr

def Stop.status : Stop → Nat
  | failed status _ => status
  | received signal => signal.status

theorem Stop.status_ne_zero (stop : Stop) : stop.status ≠ 0 := by
  cases stop with
  | failed status isFailure => exact Nat.ne_of_gt isFailure
  | received signal => cases signal <;> decide

/-- How the run goes. -/
structure UninstallEnvironment where
  relations : UnitRelations
  inventory : UnitInventory
  stops : UninstallCommand → Option Stop
  /-- Whether a command at which the script stops has changed a unit. -/
  reaches : UninstallCommand → String → Bool
  /-- Whether the watchdog has written the new baseline when the script stops at it. -/
  writesBaseline : Bool
  /-- A signal while the trap removes the temporary directory. -/
  cleanupSignal : Option Signal

/-- The script while it runs: what it has changed, its backups and the status of its last
command. -/
structure Uninstall where
  host : UserSystemd
  baselineBackup : Option (List BaselineLine)
  transaction : Option UnitSnapshot
  exitStatus : Nat

variable (environment : UninstallEnvironment) (units : List String)

/-- The units a command changes, and how. -/
def UninstallCommand.changes : UninstallCommand → List String × (UnitState → UnitState)
  | .stopControls => (controlUnits units, fun unit => { unit with started := false })
  | .disableControls => (controlUnits units, fun unit => { unit with linked := false })
  | .removeFile unit => ([unit], fun state => { state with file := none })
  | _ => ([], id)

/-- What a command that passes does, `none` where it refuses. -/
def UninstallCommand.effect (command : UninstallCommand) (state : Uninstall) :
    Option Uninstall :=
  match command with
  | .copyBaseline => some { state with baselineBackup := some state.host.baseline }
  | .beginTransaction =>
      (snapshotUnits state.host units).map fun snapshot =>
        { state with transaction := some snapshot }
  | .retireBaseline =>
      (updateBaseline .retire state.host.baseline (retireUnits units) environment.inventory).map
        fun baseline => { state with host := { state.host with baseline := baseline } }
  | .commitTransaction => some { state with transaction := none }
  | command =>
      let (changed, change) := command.changes units
      some { state with host := state.host.modifyEach changed change }

/-- What a command leaves at which the script stops. -/
def UninstallCommand.residue (command : UninstallCommand) (state : Uninstall) : Uninstall :=
  match command with
  | .retireBaseline =>
      if environment.writesBaseline then (command.effect environment units state).getD state
      else state
  | command =>
      let (changed, change) := command.changes units
      { state with
        host := state.host.modifyEach (changed.filter (environment.reaches command)) change }

/-- Run one command. -/
def UninstallCommand.perform (command : UninstallCommand) (state : Uninstall) :
    Uninstall × Bool :=
  match environment.stops command with
  | some stop =>
      ({ command.residue environment units state with exitStatus := stop.status }, false)
  | none =>
      match command.effect environment units state with
      | some next => ({ next with exitStatus := 0 }, true)
      | none => ({ state with exitStatus := 1 }, false)

/-- The commands that stop, disable and remove the units. -/
def unitCommands : List UninstallCommand :=
  [.stopControls, .disableControls] ++
  (controlUnits units).flatMap (fun control => [.checkInactive control, .checkDisabled control]) ++
  units.map .removeFile ++ [.daemonReload] ++ units.map .checkNotFound

/-- The script from the backup of the baseline to its commit. -/
def removalCommands : List UninstallCommand :=
  [.copyBaseline, .beginTransaction] ++ unitCommands units ++ [.retireBaseline, .commitTransaction]

/-- `tm_finish_user_systemd_unit_transaction`. -/
def finishTransaction (state : Uninstall) : Uninstall × Nat :=
  match state.transaction with
  | none => (state, state.exitStatus)
  | some snapshot =>
      let (host, restored) := rollbackUnits snapshot state.host
      ({ state with host := host, transaction := none },
        if !restored || state.exitStatus = 0 then 1 else state.exitStatus)

/-- `finish_uninstall`, whose `restore_baseline` succeeds where there is a backup. -/
def finishUninstall (state : Uninstall) : Nat × UserSystemd :=
  let (finished, finishStatus) := finishTransaction state
  let (host, status) :=
    if state.transaction.isSome then
      match state.baselineBackup with
      | some baseline => ({ finished.host with baseline := baseline }, finishStatus)
      | none => (finished.host, 1)
    else (finished.host, finishStatus)
  ((environment.cleanupSignal.map Signal.status).getD status, host)

/-- `uninstall-user-systemd-units.sh --confirm=REMOVE`: its exit status and what it leaves. -/
def uninstallUnits (host : UserSystemd) : Nat × UserSystemd :=
  if selectionAccepted environment.relations host units then
    finishUninstall environment
      (errexit (UninstallCommand.perform environment units) (removalCommands units ++ [.announce])
        { host := host, baselineBackup := none, transaction := none, exitStatus := 0 }).1
  else (1, host)

end Removal

end TraefikManager.Scripts
