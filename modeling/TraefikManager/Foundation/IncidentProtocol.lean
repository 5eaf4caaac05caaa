import Mathlib.Data.List.DropRight
import TraefikManager.Foundation.AlertProtocol

/-!
# One alert for each incident

A condition is checked from time to time. A stretch of checks that all find it is an incident,
which is announced at most once; the first check after an announced incident announces that it
is over.
-/

namespace Foundation

/-- Whether a check finds the condition, whether a request it made succeeded, and what it records. -/
structure IncidentCheck where
  active : Bool
  delivered : Bool
  events : List AlertEvent
  deriving DecidableEq, Repr

/-- A stretch of checks that find the condition, with no such check directly before or after. -/
structure IsStretch (checks before stretch after : List IncidentCheck) : Prop where
  split : checks = before ++ (stretch ++ after)
  nonempty : stretch ≠ []
  active : ∀ check ∈ stretch, check.active = true
  starts : ∀ check, before.getLast? = some check → check.active = false
  ends : ∀ check, after.head? = some check → check.active = false

/-- What holds of the checks of a whole run. -/
structure IncidentProtocol (checks : List IncidentCheck) : Prop where
  /-- At most one request succeeds in a stretch. -/
  one_delivery : ∀ before stretch after, IsStretch checks before stretch after →
    (stretch.filter IncidentCheck.delivered).length ≤ 1
  /-- A stretch with a request that succeeded records exactly one alert. -/
  one_alert : ∀ before stretch after, IsStretch checks before stretch after →
    (∃ check ∈ stretch, check.delivered = true) →
      (stretch.flatMap IncidentCheck.events).count .alert = 1
  /-- The first check after a stretch with an alert records one recovery. -/
  recovers : ∀ before stretch check after, IsStretch checks before stretch (check :: after) →
    (∃ earlier ∈ stretch, .alert ∈ earlier.events) → check.events = [.recovered]
  /-- No other check records a recovery. -/
  recovers_only : ∀ before check after, checks = before ++ check :: after →
    .recovered ∈ check.events →
      ∃ early stretch, before = early ++ stretch ∧ IsStretch checks early stretch (check :: after) ∧
        ∃ earlier ∈ stretch, .alert ∈ earlier.events
  /-- Alerts and recoveries alternate, an alert first. -/
  alternate : ∀ index event, (checks.flatMap IncidentCheck.events)[index]? = some event →
    event = if index % 2 = 0 then .alert else .recovered

/-- What a check may do, given whether the incident was announced. -/
inductive IncidentStep : Bool → IncidentCheck → Bool → Prop where
  | quiet {active : Bool} : IncidentStep false ⟨active, false, []⟩ false
  | alerted : IncidentStep false ⟨true, true, [.alert]⟩ true
  | lasting : IncidentStep true ⟨true, false, []⟩ true
  | recovered : IncidentStep true ⟨false, false, [.recovered]⟩ false

section Runs

variable {announced final : Bool} {checks before stretch : List IncidentCheck}

/-- A check that does not find the condition leaves nothing announced. -/
theorem IncidentStep.inactive {check : IncidentCheck} (step : IncidentStep announced check final)
    (inactive : check.active = false) : final = false := by
  cases step with
  | quiet => rfl
  | alerted => cases inactive
  | lasting => cases inactive
  | recovered => rfl

/-- Nothing is announced where no check with the condition stands directly before. -/
theorem IncidentStep.fresh (run : StepRun IncidentStep false before final)
    (starts : ∀ check, before.getLast? = some check → check.active = false) : final = false := by
  rcases List.eq_nil_or_concat before with rfl | ⟨earlier, last, rfl⟩
  · cases run
    rfl
  · rw [List.concat_eq_append] at run starts
    obtain ⟨_, _, -, step, rest⟩ := run.at_split
    cases rest
    exact step.inactive (starts last (by simp))

/-- After the alert a stretch is quiet. -/
theorem IncidentStep.announced_stretch (run : StepRun IncidentStep announced stretch final)
    (isAnnounced : announced = true) (active : ∀ check ∈ stretch, check.active = true) :
    final = true ∧ stretch.filter IncidentCheck.delivered = [] ∧
      stretch.flatMap IncidentCheck.events = [] := by
  induction run with
  | nil => exact ⟨isAnnounced, rfl, rfl⟩
  | cons first rest ih =>
      have here := active _ List.mem_cons_self
      have later := fun check inRest => active check (List.mem_cons_of_mem _ inRest)
      cases first with
      | quiet => cases isAnnounced
      | alerted => cases isAnnounced
      | lasting =>
          obtain ⟨isFinal, noDelivery, noEvents⟩ := ih rfl later
          exact ⟨isFinal, by simpa using noDelivery, by simpa using noEvents⟩
      | recovered => cases here

/-- A stretch is quiet, or one of its checks delivers and records the only alert. -/
theorem IncidentStep.fresh_stretch (run : StepRun IncidentStep announced stretch final)
    (isFresh : announced = false) (active : ∀ check ∈ stretch, check.active = true) :
    final = false ∧ stretch.filter IncidentCheck.delivered = [] ∧
        stretch.flatMap IncidentCheck.events = [] ∨
      final = true ∧ (stretch.filter IncidentCheck.delivered).length = 1 ∧
        stretch.flatMap IncidentCheck.events = [.alert] := by
  induction run with
  | nil => exact .inl ⟨isFresh, rfl, rfl⟩
  | cons first rest ih =>
      have later := fun check inRest => active check (List.mem_cons_of_mem _ inRest)
      cases first with
      | quiet =>
          rcases ih rfl later with ⟨isFinal, noDelivery, noEvents⟩ | ⟨isFinal, one, only⟩
          · exact .inl ⟨isFinal, by simpa using noDelivery, by simpa using noEvents⟩
          · exact .inr ⟨isFinal, by simpa using one, by simpa using only⟩
      | alerted =>
          obtain ⟨isFinal, noDelivery, noEvents⟩ := IncidentStep.announced_stretch rest rfl later
          refine .inr ⟨isFinal, ?_, ?_⟩
          · rw [List.filter_cons_of_pos rfl, noDelivery]
            rfl
          · rw [List.flatMap_cons, noEvents]
            rfl
      | lasting => cases isFresh
      | recovered => cases isFresh

/-- The events of a run alternate from what is announced at its start. -/
theorem IncidentStep.alternate (run : StepRun IncidentStep announced checks final) {index : Nat}
    {event : AlertEvent}
    (found : (checks.flatMap IncidentCheck.events)[index]? = some event) :
    event = if (index + announced.toNat) % 2 = 0 then .alert else .recovered := by
  induction run generalizing index with
  | nil => simp at found
  | cons first rest ih =>
      rw [List.flatMap_cons] at found
      cases first with
      | quiet => exact ih found
      | lasting => exact ih found
      | alerted =>
          cases index with
          | zero =>
              simp at found
              exact found.symm
          | succ index =>
              rw [ih (by simpa using found), Bool.toNat_true, Bool.toNat_false]
      | recovered =>
          cases index with
          | zero =>
              simp at found
              exact found.symm
          | succ index =>
              rw [ih (by simpa using found), Bool.toNat_true, Bool.toNat_false]
              have parity : (index + 1 + 1) % 2 = index % 2 := by omega
              rw [parity]
              rfl

/-- The part of a run before a stretch, and the stretch. -/
theorem IncidentStep.at_stretch {after : List IncidentCheck}
    (run : StepRun IncidentStep false checks final) (isStretch : IsStretch checks before stretch after) :
    ∃ middle, StepRun IncidentStep false stretch middle ∧ StepRun IncidentStep middle after final := by
  obtain ⟨start, early, late⟩ := StepRun.split (isStretch.split ▸ run)
  obtain rfl := IncidentStep.fresh early isStretch.starts
  exact late.split

/-- **The protocol.** A run of such steps keeps it. -/
theorem IncidentProtocol.of_run (run : StepRun IncidentStep false checks final) :
    IncidentProtocol checks where
  one_delivery := by
    intro before stretch after isStretch
    obtain ⟨_, inStretch, -⟩ := IncidentStep.at_stretch run isStretch
    rcases IncidentStep.fresh_stretch inStretch rfl isStretch.active with ⟨-, none, -⟩ | ⟨-, one, -⟩
    · rw [none]
      exact Nat.zero_le _
    · exact one.le
  one_alert := by
    intro before stretch after isStretch delivered
    obtain ⟨_, inStretch, -⟩ := IncidentStep.at_stretch run isStretch
    rcases IncidentStep.fresh_stretch inStretch rfl isStretch.active with ⟨-, none, -⟩ | ⟨-, -, only⟩
    · obtain ⟨check, member, isDelivered⟩ := delivered
      have inFilter := List.mem_filter.mpr ⟨member, isDelivered⟩
      rw [none] at inFilter
      cases inFilter
    · rw [only]
      rfl
  recovers := by
    intro before stretch check after isStretch alerted
    obtain ⟨middle, inStretch, rest⟩ := IncidentStep.at_stretch run isStretch
    have isAnnounced : middle = true := by
      rcases IncidentStep.fresh_stretch inStretch rfl isStretch.active with
        ⟨-, -, noEvents⟩ | ⟨isFinal, -⟩
      · obtain ⟨earlier, member, isAlert⟩ := alerted
        have inEvents := List.mem_flatMap.mpr ⟨earlier, member, isAlert⟩
        rw [noEvents] at inEvents
        cases inEvents
      · exact isFinal
    have inactive := isStretch.ends check rfl
    subst isAnnounced
    cases rest with
    | cons step _ =>
        cases step with
        | lasting => cases inactive
        | recovered => rfl
  recovers_only := by
    intro before check after isSplit isRecovered
    have noCheck : check.active = false ∧ ∃ earlyFinal, StepRun IncidentStep false before earlyFinal ∧
        earlyFinal = true := by
      obtain ⟨earlyFinal, _, early, step, -⟩ := StepRun.at_split (isSplit ▸ run)
      cases step with
      | recovered => exact ⟨rfl, _, early, rfl⟩
      | _ => simp at isRecovered
    obtain ⟨inactive, earlyFinal, early, isAnnounced⟩ := noCheck
    have rejoined := List.rdropWhile_append_rtakeWhile (p := IncidentCheck.active) (l := before)
    have starts : ∀ last, (before.rdropWhile IncidentCheck.active).getLast? = some last →
        last.active = false := by
      intro last isLast
      have nonempty : before.rdropWhile IncidentCheck.active ≠ [] := by
        intro empty
        rw [empty] at isLast
        cases isLast
      have stops := List.rdropWhile_last_not IncidentCheck.active before nonempty
      rw [List.getLast?_eq_some_getLast nonempty] at isLast
      rw [Option.some.inj isLast] at stops
      simpa using stops
    obtain ⟨start, first, inStretch⟩ := StepRun.split (rejoined.symm ▸ early)
    obtain rfl := IncidentStep.fresh first starts
    have active : ∀ later ∈ before.rtakeWhile IncidentCheck.active, later.active = true :=
      fun later member => List.mem_rtakeWhile_imp member
    rcases IncidentStep.fresh_stretch inStretch rfl active with ⟨isFinal, -⟩ | ⟨-, -, only⟩
    · cases isFinal.symm.trans isAnnounced
    · have inEvents : .alert ∈ (before.rtakeWhile IncidentCheck.active).flatMap
          IncidentCheck.events := by
        rw [only]
        exact List.mem_singleton.mpr rfl
      obtain ⟨alerted, member, isAlert⟩ := List.mem_flatMap.mp inEvents
      refine ⟨_, _, rejoined.symm, ⟨?_, List.ne_nil_of_mem member, active, starts, ?_⟩,
        alerted, member, isAlert⟩
      · rw [isSplit, ← List.append_assoc, rejoined]
      · intro next isNext
        cases isNext
        exact inactive
  alternate := by
    intro index event found
    exact IncidentStep.alternate run found

end Runs

end Foundation
