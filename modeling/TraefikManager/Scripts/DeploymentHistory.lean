import Mathlib.Data.List.DropRight
import Mathlib.Data.List.Dedup
import TraefikManager.Foundation.Text

/-!
# The history of Manager deployments

Every deployment appends a line to the history file. A file that has grown too long is kept
as a whole beside the current one, which goes on with its newest lines, and the last line of
every day is kept in a third file.
-/

namespace TraefikManager.Scripts

open Foundation

/-- `MANAGER_DEPLOYMENT_STAGE_NAMES` -/
inductive DeploymentStage where
  | prepare
  | build
  | migrationPreflight
  | candidateHealth
  | routeSwitch
  | leaderHandover
  | publicProbe
  | stateWrite
  deriving DecidableEq, Repr

def DeploymentStage.name : DeploymentStage → String
  | prepare => "prepare"
  | build => "build"
  | migrationPreflight => "migration_preflight"
  | candidateHealth => "candidate_health"
  | routeSwitch => "route_switch"
  | leaderHandover => "leader_handover"
  | publicProbe => "public_probe"
  | stateWrite => "state_write"

/-- The outcomes a deployment is recorded with. -/
inductive DeploymentStatus where
  | success
  | failedBeforeSwitch
  | rolledBack
  | rollbackFailed
  deriving DecidableEq, Repr

def DeploymentStatus.name : DeploymentStatus → String
  | success => "success"
  | failedBeforeSwitch => "failed_before_switch"
  | rolledBack => "rolled_back"
  | rollbackFailed => "rollback_failed"

/-- A line of the history. -/
structure HistoryEntry where
  status : DeploymentStatus
  fromSlot : String
  toSlot : String
  activeSlot : String
  version : String
  revision : String
  startedAt : String
  completedAt : String
  probeTotal : Nat
  probeFailures : Nat
  failureStage : String
  failureReason : String
  alertRequestStatus : String
  alertChannel : String
  alertRunUrl : String
  stageDurationsMs : List (DeploymentStage × Nat)
  deriving DecidableEq, Repr

/-- Limits that pass `validate_limits`. -/
structure HistoryLimits where
  maxEntries : Nat
  retainEntries : Nat
  dailyRetainEntries : Nat
  retains : 0 < retainEntries
  retainsDaily : 0 < dailyRetainEntries
  retain_lt_max : retainEntries < maxEntries

/-- The current file, the `.1` file and the `.daily` file. -/
structure HistoryFiles where
  current : Option (List HistoryEntry)
  archive : Option (List HistoryEntry)
  daily : Option (List HistoryEntry)
  deriving DecidableEq, Repr

/-- There is no file yet. -/
def HistoryFiles.none : HistoryFiles :=
  { current := Option.none, archive := Option.none, daily := Option.none }

/-- `^[0-9]{4}-[0-9]{2}-[0-9]{2}$` -/
def isDay (day : String) : Bool :=
  match day.toList with
  | [y1, y2, y3, y4, '-', m1, m2, '-', d1, d2] =>
      [y1, y2, y3, y4, m1, m2, d1, d2].all Text.isDigit
  | _ => false

/-- The day on which a deployment was completed. -/
def HistoryEntry.day (entry : HistoryEntry) : String := Text.takeChars 10 entry.completedAt

/-- The last line of a day. -/
def lastOfDay (lines : List HistoryEntry) (day : String) : Option HistoryEntry :=
  lines.reverse.find? fun entry => entry.day = day

/-- `compact_daily_history`: the last line of each of the newest days. -/
def compactDailyHistory (limits : HistoryLimits) (sources : List HistoryEntry) :
    List HistoryEntry :=
  let days := ((sources.map HistoryEntry.day).filter isDay).dedup.mergeSort
  (days.rtake limits.dailyRetainEntries).filterMap (lastOfDay sources)

/-- `rotate_history`. -/
def rotateHistory (limits : HistoryLimits) (files : HistoryFiles) : HistoryFiles :=
  let lines := files.current.getD []
  if lines.length ≤ limits.maxEntries then files
  else
    { current := some (lines.rtake limits.retainEntries)
      archive := some lines
      daily := some (compactDailyHistory limits
        (files.daily.getD [] ++ files.archive.getD [] ++ lines)) }

/-- `append_history`. -/
def appendHistory (limits : HistoryLimits) (entry : HistoryEntry) (files : HistoryFiles) :
    HistoryFiles :=
  rotateHistory limits { files with current := some (files.current.getD [] ++ [entry]) }

section Current

variable {limits : HistoryLimits} {entry : HistoryEntry} {files : HistoryFiles}

/-- What the current file holds after a line was appended. -/
theorem current_appendHistory : (appendHistory limits entry files).current =
    some (if (files.current.getD []).length < limits.maxEntries then files.current.getD [] ++ [entry]
      else (files.current.getD [] ++ [entry]).rtake limits.retainEntries) := by
  unfold appendHistory rotateHistory
  dsimp only
  rw [Option.getD_some, List.length_append, List.length_singleton]
  split
  · rw [if_pos]
    omega
  · rw [if_neg]
    omega

/-- The appended line is the last one. -/
theorem getLast?_appendHistory :
    ((appendHistory limits entry files).current.getD []).getLast? = some entry := by
  rw [current_appendHistory, Option.getD_some]
  split
  · simp
  · obtain ⟨fewer, isRetained⟩ := Nat.exists_eq_succ_of_ne_zero limits.retains.ne'
    rw [isRetained, List.rtake_concat_succ]
    simp

end Current

end TraefikManager.Scripts
