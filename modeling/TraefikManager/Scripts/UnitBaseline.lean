import Mathlib.Data.List.Perm.Basic
import Mathlib.Data.List.Dedup
import Mathlib.Data.List.Sort
import TraefikManager.Foundation.Text

/-!
# The baseline of the user's systemd units

The watchdog compares the active timers and their services with a baseline of digests. The
baseline is rewritten for a selection of units only: to take them up with their present
digests, or to retire them. Anything else that has changed since refuses the update.
-/

namespace TraefikManager.Scripts

open Foundation

section Names

inductive UnitKind where
  | timer
  | service
  | path
  deriving DecidableEq, Repr

def UnitKind.suffix : UnitKind → String
  | timer => ".timer"
  | service => ".service"
  | path => ".path"

/-- `*.timer`, `*.service` and `*.path`. -/
def unitKind? (unit : String) : Option UnitKind :=
  [UnitKind.timer, .service, .path].find? fun kind => Text.endsWith kind.suffix unit

/-- `[A-Za-z0-9_.@:-]` -/
def isUnitChar (c : Char) : Bool :=
  Text.isLetter c || Text.isDigit c || c ∈ ['_', '.', '@', ':', '-']

/-- `^[A-Za-z0-9_.@:-]+\.(…)$` for some kinds of units. -/
def isUnitName (kinds : List UnitKind) (unit : String) : Bool :=
  match unitKind? unit with
  | none => false
  | some kind =>
      kind ∈ kinds && unit.toList.all isUnitChar && kind.suffix.toList.length < unit.toList.length

/-- `valid_unit` and `tm_transaction_valid_unit`. -/
def validUnit (unit : String) : Bool := isUnitName [.timer, .service, .path] unit

/-- `valid_unit_name`. -/
def validUnitName (unit : String) : Bool := isUnitName [.timer, .service] unit

/-- `^[a-f0-9]{64}$` -/
def isDigest (digest : String) : Bool :=
  digest.toList.length = 64 && digest.toList.all fun c => Text.isDigit c || ('a' ≤ c && c ≤ 'f')

end Names

section Baseline

/-- A line of the baseline as `read -r hash role unit extra` takes it apart. -/
structure BaselineLine where
  hash : String
  role : String
  unit : String
  extra : String := ""
  deriving DecidableEq, Repr

/-- What `read_baseline` asks of a line by itself. -/
def BaselineLine.isValid (line : BaselineLine) : Bool :=
  isDigest line.hash && line.extra = "" && validUnitName line.unit &&
    (line.role = "timer" && unitKind? line.unit = some .timer ||
      line.role = "service" && unitKind? line.unit = some .service)

/-- `read_baseline`: whether the lines are a baseline. -/
def readBaseline (lines : List BaselineLine) : Bool :=
  lines.all BaselineLine.isValid && (lines.map BaselineLine.unit).Nodup &&
    lines.any fun line => line.role = "timer"

/-- `baseline_has_unit`. -/
def baselineHasUnit (lines : List BaselineLine) (unit : String) : Bool :=
  lines.any fun line => isDigest line.hash && line.extra = "" && line.unit = unit &&
    (line.role = "timer" && unitKind? unit = some .timer ||
      line.role = "service" && unitKind? unit = some .service)

end Baseline

section Candidate

/-- What systemd answers the watchdog, `none` where a command fails. -/
structure UnitInventory where
  listedTimers : Option (List (String × String))
  property : String → String → Option String
  isEnabled : String → String
  /-- The first word of `systemctl cat … | sha256sum`. -/
  digest : String → Option String

variable (inventory : UnitInventory)

/-- The loop of `list_active_enabled_timers`, with the timers so far and the status of its last
test. -/
def activeTimers : List (String × String) → List String → Bool → Option (List String)
  -- The function ends with the status of the loop.
  | [], timers, passed => if passed then some timers else none
  | (timer, state) :: later, timers, _ =>
      if timer ≠ "" ∧ Text.startsWith "enabled" state then
        if validUnitName timer then
          (inventory.property timer "ActiveState").bind fun active =>
            if active = "active" then activeTimers later (timers ++ [timer]) true
            else activeTimers later timers false
        else none
      else activeTimers later timers true

/-- `list_active_enabled_timers`. -/
def listActiveEnabledTimers : Option (List String) :=
  inventory.listedTimers.bind fun listed => activeTimers inventory listed [] true

/-- The services a timer triggers, of which there is at least one. -/
def triggeredServices (timer : String) : Option (List String) :=
  (inventory.property timer "Triggers").bind fun triggers =>
    let services :=
      ((Text.split ' ' triggers).filter (· ≠ "")).filter (unitKind? · = some .service)
    if services.all validUnitName && services ≠ [] then some services else none

/-- `discover_units`: the timers and their services, sorted by name and each once. -/
def discoverUnits : Option (List (String × String)) :=
  (listActiveEnabledTimers inventory).bind fun timers =>
    if timers = [] then none
    else
      (timers.mapM fun timer => (triggeredServices inventory timer).map fun services =>
        ("timer", timer) :: services.map ("service", ·)).map fun records =>
          ((records.flatten.map Prod.snd).dedup.insertionSort (· ≤ ·)).filterMap fun unit =>
            records.flatten.find? fun record => record.2 = unit

/-- `hash_unit`. -/
def hashUnit (unit : String) : Option String :=
  (inventory.digest unit).bind fun digest =>
    let hash := Text.lower digest
    if isDigest hash then some hash else none

/-- `service_is_healthy`. The test of the active state is not the last command, so it does not
count. -/
def serviceIsHealthy (service : String) : Bool :=
  service = "traefik-manager-user-systemd-watchdog.service" ||
    (inventory.property service "ActiveState").isSome &&
      ((inventory.property service "Result").any fun result => result = "" || result = "success")

/-- Whether `build_baseline_candidate` takes a unit that is loaded. -/
def isCandidate (role unit : String) : Bool :=
  if role = "timer" then
    inventory.property unit "ActiveState" = some "active" &&
      Text.startsWith "enabled" (inventory.isEnabled unit)
  else serviceIsHealthy inventory unit

/-- What `build_baseline_candidate` makes of a unit. -/
def candidateLine (record : String × String) : Option BaselineLine :=
  if inventory.property record.2 "LoadState" = some "loaded" &&
      isCandidate inventory record.1 record.2 then
    (hashUnit inventory record.2).map fun hash =>
      { hash := hash, role := record.1, unit := record.2 }
  else none

/-- `build_baseline_candidate`. -/
def buildBaselineCandidate : Option (List BaselineLine) :=
  (discoverUnits inventory).bind fun records =>
    (records.mapM (candidateLine inventory)).bind fun lines =>
      if lines = [] then none else some lines

end Candidate

section Update

inductive BaselineMode where
  | refresh
  | retire
  deriving DecidableEq, Repr

variable (mode : BaselineMode) (baseline candidate : List BaselineLine) (selected : List String)

/-- Whether a line of the candidate may stand beside the baseline. -/
def acceptsCandidate (line : BaselineLine) : Bool :=
  isDigest line.hash && line.extra = "" && validUnitName line.unit &&
    match baseline.find? fun known => known.unit = line.unit with
    | none => mode = .refresh && line.unit ∈ selected
    | some known =>
        known.role = line.role &&
          (known.hash = line.hash || mode = .refresh && line.unit ∈ selected)

/-- Whether a unit of the baseline is in the candidate or may be missing there. -/
def acceptsMissing (known : BaselineLine) : Bool :=
  known.unit ∈ candidate.map BaselineLine.unit || mode = .retire && known.unit ∈ selected

/-- Whether a selected unit is taken up or retired by the candidate. -/
def acceptsSelected (unit : String) : Bool :=
  match mode with
  | .refresh => unit ∈ candidate.map BaselineLine.unit
  | .retire =>
      unit ∈ baseline.map BaselineLine.unit && unit ∉ candidate.map BaselineLine.unit

/-- `update_baseline`: the new baseline, if nothing refuses it. -/
def updateBaseline (inventory : UnitInventory) : Option (List BaselineLine) :=
  if readBaseline baseline && selected.all validUnitName && decide selected.Nodup then
    (buildBaselineCandidate inventory).bind fun candidate =>
      if candidate.all (acceptsCandidate mode baseline selected) &&
          baseline.all (acceptsMissing mode candidate selected) &&
          selected.all (acceptsSelected mode baseline candidate) then
        some candidate
      else none
  else none

end Update

end TraefikManager.Scripts
