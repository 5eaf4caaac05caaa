import Mathlib.Data.List.Basic
import TraefikManager.Foundation.StepRun

/-!
# Alerts about a measured condition

A monitor measures a condition from time to time and announces when it begins, when it
lasts and when it is over. The protocol is stated on the whole run of checks; a monitor
keeps it when each of its checks is a step from the alert that is open to the next one.
-/

namespace Foundation

/-- What a check announces. -/
inductive AlertEvent where
  | alert
  | recovered
  deriving DecidableEq, Repr

/-- A check: nothing is measured, or no condition, or a condition that calls for an alert. -/
structure AlertCheck (κ : Type) where
  time : Int
  cooldown : Int
  measured : Option (Option κ)
  events : List AlertEvent
  deriving DecidableEq

/-- What holds of the checks of a whole run. -/
structure AlertProtocol {κ : Type} (checks : List (AlertCheck κ)) : Prop where
  /-- A recovery is announced only after an alert that has none yet. -/
  recovers_after_alert : ∀ before check after, checks = before ++ check :: after →
    .recovered ∈ check.events →
      ∃ early alerted late, before = early ++ alerted :: late ∧ .alert ∈ alerted.events ∧
        ∀ later ∈ alerted :: late, .recovered ∉ later.events
  /-- The first check after an alert that measures no condition announces one recovery. -/
  recovers_when_healthy : ∀ before alerted between check after,
    checks = before ++ alerted :: (between ++ check :: after) →
      .alert ∈ alerted.events → (∀ later ∈ between, later.measured ≠ some none) →
      check.measured = some none → check.events = [.recovered]
  /-- Two alerts about one condition that lasts are a cooldown apart. -/
  alerts_apart : ∀ before first between second after (condition : κ),
    checks = before ++ first :: (between ++ second :: after) →
      .alert ∈ first.events → .alert ∈ second.events →
      (∀ check ∈ between, .recovered ∉ check.events) →
      (∀ check ∈ first :: (between ++ [second]), check.measured = none ∨
        check.measured = some (some condition)) →
      second.cooldown ≤ second.time - first.time

/-- What holds of the recoveries of a whole run. -/
structure RecoveryProtocol {κ : Type} (checks : List (AlertCheck κ)) : Prop where
  /-- A recovery is announced only after an alert that has none yet. -/
  recovers_after_alert : ∀ before check after, checks = before ++ check :: after →
    .recovered ∈ check.events →
      ∃ early alerted late, before = early ++ alerted :: late ∧ .alert ∈ alerted.events ∧
        ∀ later ∈ alerted :: late, .recovered ∉ later.events
  /-- The first check after an alert that measures no condition announces a recovery. -/
  recovers_when_healthy : ∀ before alerted between check after,
    checks = before ++ alerted :: (between ++ check :: after) →
      .alert ∈ alerted.events → (∀ later ∈ between, later.measured ≠ some none) →
      check.measured = some none → .recovered ∈ check.events

section Steps

variable {κ : Type}

/-- An alert without a recovery: when it was last announced, and the last condition measured. -/
structure OpenAlert (κ : Type) where
  lastAlert : Int
  condition : κ

/-- What a check may announce, given the alert that is open before it. -/
inductive AlertStep : Option (OpenAlert κ) → AlertCheck κ → Option (OpenAlert κ) → Prop where
  | unavailable {state : Option (OpenAlert κ)} {time cooldown : Int} :
      AlertStep state ⟨time, cooldown, none, []⟩ state
  | healthy {time cooldown : Int} : AlertStep none ⟨time, cooldown, some none, []⟩ none
  | recovered {alert : OpenAlert κ} {time cooldown : Int} :
      AlertStep (some alert) ⟨time, cooldown, some none, [.recovered]⟩ none
  | alerted {time cooldown : Int} {condition : κ} :
      AlertStep none ⟨time, cooldown, some (some condition), [.alert]⟩ (some ⟨time, condition⟩)
  | held {time cooldown : Int} {condition : κ} :
      AlertStep none ⟨time, cooldown, some (some condition), []⟩ none
  | repeated {alert : OpenAlert κ} {time cooldown : Int} {condition : κ}
      (due : condition ≠ alert.condition ∨ cooldown ≤ time - alert.lastAlert) :
      AlertStep (some alert) ⟨time, cooldown, some (some condition), [.alert]⟩
        (some ⟨time, condition⟩)
  | suppressed {alert : OpenAlert κ} {time cooldown : Int} {condition : κ} :
      AlertStep (some alert) ⟨time, cooldown, some (some condition), []⟩
        (some ⟨alert.lastAlert, condition⟩)

/-- A sequence of such checks. -/
abbrev AlertRun : Option (OpenAlert κ) → List (AlertCheck κ) → Option (OpenAlert κ) → Prop :=
  StepRun AlertStep

variable {state final : Option (OpenAlert κ)} {checks : List (AlertCheck κ)}

/-- An alert that is open after some checks was open before and never recovered, or was
announced by one of them and not recovered since. -/
theorem AlertRun.open_cases {alert : OpenAlert κ} (run : AlertRun state checks final)
    (isOpen : final = some alert) :
    (state ≠ none ∧ ∀ check ∈ checks, .recovered ∉ check.events) ∨
      ∃ early alerted late, checks = early ++ alerted :: late ∧ .alert ∈ alerted.events ∧
        ∀ later ∈ alerted :: late, .recovered ∉ later.events := by
  induction run with
  | nil => exact .inl ⟨by simp [isOpen], by simp⟩
  | @cons state middle final check checks step rest ih =>
      obtain ⟨wasOpen, quiet⟩ | ⟨early, alerted, late, isSplit, isAlert, quiet⟩ := ih isOpen
      · have ofAlert (isAlert : check.events = [.alert]) :
            ∃ early alerted late, check :: checks = early ++ alerted :: late ∧
              .alert ∈ alerted.events ∧ ∀ later ∈ alerted :: late, .recovered ∉ later.events :=
          ⟨[], check, checks, rfl, by simp [isAlert], by simpa [isAlert] using quiet⟩
        cases step with
        | unavailable => exact .inl ⟨wasOpen, by simpa using quiet⟩
        | healthy => exact absurd rfl wasOpen
        | recovered => exact absurd rfl wasOpen
        | alerted => exact .inr (ofAlert rfl)
        | held => exact absurd rfl wasOpen
        | repeated due => exact .inr (ofAlert rfl)
        | suppressed => exact .inl ⟨by simp, by simpa using quiet⟩
      · exact .inr ⟨check :: early, alerted, late, by rw [isSplit]; rfl, isAlert, quiet⟩

/-- An open alert stays open while no check measures that the condition is gone. -/
theorem AlertRun.stays_open (run : AlertRun state checks final) (isOpen : state ≠ none)
    (unhealthy : ∀ check ∈ checks, check.measured ≠ some none) : final ≠ none := by
  induction run with
  | nil => exact isOpen
  | cons step rest ih =>
      refine ih ?_ fun check later => unhealthy check (List.mem_cons_of_mem _ later)
      have here := unhealthy _ List.mem_cons_self
      cases step with
      | unavailable => exact isOpen
      | healthy => exact absurd rfl here
      | recovered => exact absurd rfl here
      | alerted => simp
      | held => exact isOpen
      | repeated due => simp
      | suppressed => simp

/-- While a condition lasts and no recovery is announced, the alert about it stays open, and
was last announced no earlier than at its start. -/
theorem AlertRun.lasts {alert : OpenAlert κ} {start : Int} (run : AlertRun state checks final)
    (isOpen : state = some alert) (started : start ≤ alert.lastAlert)
    (later : ∀ check ∈ checks, start ≤ check.time)
    (quiet : ∀ check ∈ checks, .recovered ∉ check.events)
    (same : ∀ check ∈ checks, check.measured = none ∨
      check.measured = some (some alert.condition)) :
    ∃ current : OpenAlert κ, final = some current ∧ current.condition = alert.condition ∧
      start ≤ current.lastAlert := by
  induction run generalizing alert with
  | nil => exact ⟨alert, isOpen, rfl, started⟩
  | cons step rest ih =>
      have laterRest := fun check inRest => later check (List.mem_cons_of_mem _ inRest)
      have quietRest := fun check inRest => quiet check (List.mem_cons_of_mem _ inRest)
      have sameRest := fun check inRest => same check (List.mem_cons_of_mem _ inRest)
      have laterHere := later _ List.mem_cons_self
      have quietHere := quiet _ List.mem_cons_self
      have sameHere := same _ List.mem_cons_self
      cases step with
      | unavailable => exact ih isOpen started laterRest quietRest sameRest
      | healthy => cases isOpen
      | recovered => simp at quietHere
      | alerted => cases isOpen
      | held => cases isOpen
      | @repeated _ time _ condition due =>
          obtain rfl : condition = alert.condition := by simpa using sameHere
          exact @ih ⟨time, alert.condition⟩ rfl laterHere laterRest quietRest sameRest
      | @suppressed _ _ _ condition =>
          obtain rfl : condition = alert.condition := by simpa using sameHere
          cases isOpen
          exact @ih ⟨alert.lastAlert, alert.condition⟩ rfl started laterRest quietRest sameRest

private theorem AlertRun.recovers_after {before after : List (AlertCheck κ)} {check : AlertCheck κ}
    (run : AlertRun none (before ++ check :: after) final) (isRecovered : .recovered ∈ check.events) :
    ∃ early alerted late, before = early ++ alerted :: late ∧ .alert ∈ alerted.events ∧
      ∀ later ∈ alerted :: late, .recovered ∉ later.events := by
  obtain ⟨opened, _, first, step, -⟩ := run.at_split
  cases step with
  | recovered =>
      obtain ⟨wasOpen, -⟩ | found := AlertRun.open_cases first rfl
      · exact absurd rfl wasOpen
      · exact found
  | _ => simp at isRecovered

theorem AlertRun.recovers {before between after : List (AlertCheck κ)}
    {alerted check : AlertCheck κ}
    (run : AlertRun none (before ++ alerted :: (between ++ check :: after)) final)
    (isAlert : .alert ∈ alerted.events) (unhealthy : ∀ later ∈ between, later.measured ≠ some none)
    (isHealthy : check.measured = some none) : check.events = [.recovered] := by
  obtain ⟨_, opened, -, step, rest⟩ := run.at_split
  have isOpen : opened ≠ none := by
    cases step with
    | alerted => simp
    | repeated due => simp
    | _ => simp at isAlert
  obtain ⟨last, _, lasting, step, -⟩ := rest.at_split
  have stillOpen := AlertRun.stays_open lasting isOpen unhealthy
  cases step with
  | healthy => exact absurd rfl stillOpen
  | recovered => rfl
  | _ => simp at isHealthy

/-- A run of such steps announces recoveries exactly after alerts. -/
theorem AlertRun.recoveries (run : AlertRun none checks final) : RecoveryProtocol checks where
  recovers_after_alert := by
    intro before check after isSplit isRecovered
    subst isSplit
    exact AlertRun.recovers_after run isRecovered
  recovers_when_healthy := by
    intro before alerted between check after isSplit isAlert unhealthy isHealthy
    subst isSplit
    rw [AlertRun.recovers run isAlert unhealthy isHealthy]
    exact List.mem_singleton.mpr rfl

/-- **The protocol.** A run of such steps at times that do not go back keeps it. -/
theorem AlertRun.protocol (run : AlertRun none checks final)
    (ordered : checks.Pairwise fun first second => first.time ≤ second.time) :
    AlertProtocol checks where
  recovers_after_alert := by
    intro before check after isSplit isRecovered
    subst isSplit
    exact AlertRun.recovers_after run isRecovered
  recovers_when_healthy := by
    intro before alerted between check after isSplit isAlert unhealthy isHealthy
    subst isSplit
    exact AlertRun.recovers run isAlert unhealthy isHealthy
  alerts_apart := by
    intro before first between second after condition isSplit firstAlert secondAlert quiet same
    obtain ⟨_, opened, -, step, rest⟩ := StepRun.at_split (isSplit ▸ run)
    have orderedRest : (first :: (between ++ second :: after)).Pairwise fun earlier later =>
        earlier.time ≤ later.time := by
      rw [isSplit] at ordered
      exact (List.pairwise_append.mp ordered).2.1
    have firstSame := same first List.mem_cons_self
    have secondSame := same second (by simp)
    have isOpen : opened = some ⟨first.time, condition⟩ := by
      cases step with
      | alerted => simpa using firstSame
      | repeated due => simpa using firstSame
      | _ => simp at firstAlert
    obtain ⟨last, _, lasting, step, -⟩ := rest.at_split
    obtain ⟨current, isCurrent, sameCondition, notBefore⟩ := AlertRun.lasts lasting isOpen
      (Int.le_refl _)
      (fun check inBetween => List.rel_of_pairwise_cons orderedRest (by simp [inBetween]))
      quiet (fun check inBetween => same check (by simp [inBetween]))
    cases step with
    | repeated due =>
        obtain rfl := Option.some.inj isCurrent
        obtain rfl : _ = condition := by simpa using secondSame
        obtain changed | due := due
        · exact absurd sameCondition.symm changed
        · dsimp only at notBefore ⊢
          omega
    | alerted => cases isCurrent
    | _ => simp at secondAlert

end Steps

/-- A monitor: what a check does to its state, and what it announces. -/
structure Monitor (σ ι κ : Type) where
  check : ι → σ → σ × List AlertEvent
  time : ι → Int
  cooldown : ι → Int
  measured : ι → Option (Option κ)

namespace Monitor

variable {σ ι κ : Type} (monitor : Monitor σ ι κ)

/-- A check of the monitor, with what is observed of it. -/
def act (input : ι) (state : σ) : σ × AlertCheck κ :=
  ((monitor.check input state).1,
    ⟨monitor.time input, monitor.cooldown input, monitor.measured input,
      (monitor.check input state).2⟩)

/-- The checks of a run, one for each input. -/
def run : σ → List ι → List (AlertCheck κ) := observedRun monitor.act

private theorem pairwise_run {state : σ} {inputs : List ι}
    (ordered : inputs.Pairwise fun first second => monitor.time first ≤ monitor.time second) :
    (monitor.run state inputs).Pairwise fun first second => first.time ≤ second.time := by
  apply pairwise_observedRun _ ordered
  intro first second before after notAfter
  exact notAfter

variable {monitor} {tracks : σ → Option (OpenAlert κ) → Prop} {allowed : ι → Prop}

/-- A monitor whose state tracks the open alert through every allowed check keeps the protocol. -/
theorem protocol (step : ∀ {state alert input}, tracks state alert → allowed input →
      ∃ next, AlertStep alert ⟨monitor.time input, monitor.cooldown input, monitor.measured input,
        (monitor.check input state).2⟩ next ∧ tracks (monitor.check input state).1 next)
    {state : σ} {inputs : List ι} (fresh : tracks state none) (each : ∀ input ∈ inputs, allowed input)
    (ordered : inputs.Pairwise fun first second => monitor.time first ≤ monitor.time second) :
    AlertProtocol (monitor.run state inputs) := by
  obtain ⟨final, isRun⟩ := StepRun.of_simulation step fresh
    (throughout_of_forall monitor.act each state)
  exact AlertRun.protocol isRun (monitor.pairwise_run ordered)

end Monitor

end Foundation
