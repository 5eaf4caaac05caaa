import Mathlib.Data.List.Induction
import TraefikManager.Foundation.AlertProtocol

/-!
# Alerts that may not be delivered

A subject is checked from time to time, and each check may attempt one alert, which is
delivered or not. Only what was delivered counts for the protocol: an alert is outstanding
from its delivery to the delivery of a recovery.
-/

namespace Foundation

/-- One check, with the alert it attempts and whether this alert is delivered. -/
structure DeliveryCheck where
  time : Nat
  healthy : Bool
  attempted : Option AlertEvent
  delivered : Bool
  deriving DecidableEq, Repr

/-- The check delivers an alert of this kind. -/
def DeliveryCheck.Delivers (check : DeliveryCheck) (event : AlertEvent) : Prop :=
  check.attempted = some event ∧ check.delivered = true

/-- An alert was delivered, and no recovery since. -/
def Outstanding (past : List DeliveryCheck) : Prop :=
  ∃ early alerted late, past = early ++ alerted :: late ∧ alerted.Delivers .alert ∧
    ∀ later ∈ late, ¬later.Delivers .recovered

/-- The number of unhealthy checks at the end. -/
def unhealthyRun (past : List DeliveryCheck) : Nat :=
  (past.reverse.takeWhile fun check => !check.healthy).length

/-- What holds of the checks of a whole run. -/
structure DeliveryProtocol (threshold cooldown : Nat) (checks : List DeliveryCheck) : Prop where
  /-- A recovery is delivered only while an alert is outstanding. -/
  recovers_after_alert : ∀ before check after, checks = before ++ check :: after →
    check.Delivers .recovered → Outstanding before
  /-- While an alert is outstanding every healthy check attempts a recovery. -/
  attempts_recovery : ∀ before check after, checks = before ++ check :: after →
    Outstanding before → check.healthy = true → check.attempted = some .recovered
  /-- Two alerts delivered without a recovery between them are a cooldown apart. -/
  alerts_apart : ∀ before first between second after,
    checks = before ++ first :: (between ++ second :: after) →
      first.Delivers .alert → second.Delivers .alert →
      (∀ check ∈ between, ¬check.Delivers .recovered) → first.time + cooldown ≤ second.time
  /-- Without an outstanding alert, an unhealthy check that reaches the threshold, a cooldown
  after the last delivered alert, attempts one. -/
  attempts_alert : ∀ before check after, checks = before ++ check :: after →
    ¬Outstanding before → check.healthy = false → threshold ≤ unhealthyRun (before ++ [check]) →
      (∀ earlier ∈ before, earlier.Delivers .alert → earlier.time + cooldown ≤ check.time) →
      check.attempted = some .alert

/-- What has to be known of the checks so far. -/
structure DeliveryState where
  outstanding : Bool
  lastAlert : Option Nat
  failures : Nat
  deriving DecidableEq, Repr

namespace DeliveryState

/-- Nothing happened yet. -/
def fresh : DeliveryState := { outstanding := false, lastAlert := none, failures := 0 }

/-- The alert a check delivers changes what is outstanding. -/
def next (state : DeliveryState) (check : DeliveryCheck) : DeliveryState :=
  { outstanding :=
      match check.attempted, check.delivered with
      | some .alert, true => true
      | some .recovered, true => false
      | _, _ => state.outstanding
    lastAlert :=
      match check.attempted, check.delivered with
      | some .alert, true => some check.time
      | _, _ => state.lastAlert
    failures := if check.healthy then 0 else state.failures + 1 }

/-- What is known after some checks. -/
def replay (past : List DeliveryCheck) : DeliveryState := past.foldl next fresh

end DeliveryState

/-- What a check may attempt, given what is known before it. -/
structure Permitted (threshold cooldown : Nat) (state : DeliveryState) (check : DeliveryCheck) :
    Prop where
  recovers : check.attempted = some .recovered → state.outstanding = true
  attemptsRecovery : state.outstanding = true → check.healthy = true →
    check.attempted = some .recovered
  apart : check.attempted = some .alert → state.outstanding = true →
    ∀ time, state.lastAlert = some time → time + cooldown ≤ check.time
  attemptsAlert : state.outstanding = false → check.healthy = false →
    threshold ≤ state.failures + 1 →
    (∀ time, state.lastAlert = some time → time + cooldown ≤ check.time) →
    check.attempted = some .alert

/-- A step of a program that attempts only what it may. -/
def DeliveryStep (threshold cooldown : Nat) (state : DeliveryState) (check : DeliveryCheck)
    (after : DeliveryState) : Prop :=
  Permitted threshold cooldown state check ∧ after = state.next check

section Replay

variable {past : List DeliveryCheck} {check : DeliveryCheck}

private theorem replay_append : DeliveryState.replay (past ++ [check]) =
    (DeliveryState.replay past).next check := List.foldl_concat ..

private theorem outstanding_of_alert (delivers : check.Delivers .alert) :
    Outstanding (past ++ [check]) :=
  ⟨past, check, [], rfl, delivers, by simp⟩

private theorem not_outstanding_of_recovery (delivers : check.Delivers .recovered) :
    ¬Outstanding (past ++ [check]) := by
  intro outstanding
  obtain ⟨early, alerted, late, isSplit, isAlert, quiet⟩ := outstanding
  induction late using List.reverseRecOn with
  | nil =>
      obtain ⟨-, same⟩ := List.append_inj' isSplit rfl
      obtain rfl : check = alerted := by simpa using same
      cases isAlert.1.symm.trans delivers.1
  | append_singleton late last _ =>
      rw [← List.cons_append, ← List.append_assoc] at isSplit
      obtain ⟨-, same⟩ := List.append_inj' isSplit rfl
      obtain rfl : check = last := by simpa using same
      exact quiet check (by simp) delivers

private theorem outstanding_append (noAlert : ¬check.Delivers .alert)
    (noRecovery : ¬check.Delivers .recovered) :
    Outstanding (past ++ [check]) ↔ Outstanding past := by
  constructor
  · intro outstanding
    obtain ⟨early, alerted, late, isSplit, isAlert, quiet⟩ := outstanding
    induction late using List.reverseRecOn with
    | nil =>
        obtain ⟨-, same⟩ := List.append_inj' isSplit rfl
        obtain rfl : check = alerted := by simpa using same
        exact absurd isAlert noAlert
    | append_singleton late last _ =>
        rw [← List.cons_append, ← List.append_assoc] at isSplit
        obtain ⟨isPast, -⟩ := List.append_inj' isSplit rfl
        exact ⟨early, alerted, late, isPast, isAlert, fun later inLate => quiet later (by simp [inLate])⟩
  · intro outstanding
    obtain ⟨early, alerted, late, rfl, isAlert, quiet⟩ := outstanding
    refine ⟨early, alerted, late ++ [check], by simp, isAlert, ?_⟩
    intro later member
    rcases List.mem_append.mp member with inLate | last
    · exact quiet later inLate
    · rw [List.mem_singleton.mp last]
      exact noRecovery

/-- The three ways in which a check changes what is outstanding. -/
theorem DeliveryCheck.delivers_cases (check : DeliveryCheck) :
    check.Delivers .alert ∨ check.Delivers .recovered ∨
      ¬check.Delivers .alert ∧ ¬check.Delivers .recovered := by
  unfold DeliveryCheck.Delivers
  tauto

theorem DeliveryState.next_of_alert (state : DeliveryState) (delivers : check.Delivers .alert) :
    (state.next check).outstanding = true ∧ (state.next check).lastAlert = some check.time := by
  simp [next, delivers.1, delivers.2]

theorem DeliveryState.next_of_recovery (state : DeliveryState)
    (delivers : check.Delivers .recovered) :
    (state.next check).outstanding = false ∧ (state.next check).lastAlert = state.lastAlert := by
  simp [next, delivers.1, delivers.2]

theorem DeliveryState.next_of_none (state : DeliveryState) (noAlert : ¬check.Delivers .alert)
    (noRecovery : ¬check.Delivers .recovered) :
    (state.next check).outstanding = state.outstanding ∧
      (state.next check).lastAlert = state.lastAlert := by
  obtain ⟨time, healthy, attempted, delivered⟩ := check
  cases delivered with
  | false => cases attempted <;> simp [next]
  | true =>
      cases attempted with
      | none => simp [next]
      | some event =>
          cases event with
          | alert => exact absurd ⟨rfl, rfl⟩ noAlert
          | recovered => exact absurd ⟨rfl, rfl⟩ noRecovery

/-- The replay knows whether an alert is outstanding. -/
theorem replay_outstanding : (DeliveryState.replay past).outstanding = true ↔ Outstanding past := by
  induction past using List.reverseRecOn with
  | nil =>
      constructor
      · intro none
        cases none
      · intro outstanding
        obtain ⟨early, alerted, late, isSplit, -⟩ := outstanding
        cases early <;> cases isSplit
  | append_singleton past check ih =>
      rw [replay_append]
      rcases check.delivers_cases with alert | recovery | ⟨noAlert, noRecovery⟩
      · rw [(DeliveryState.next_of_alert _ alert).1]
        exact iff_of_true rfl (outstanding_of_alert alert)
      · rw [(DeliveryState.next_of_recovery _ recovery).1]
        exact iff_of_false Bool.false_ne_true (not_outstanding_of_recovery recovery)
      · rw [(DeliveryState.next_of_none _ noAlert noRecovery).1, ih,
          outstanding_append noAlert noRecovery]

/-- The last alert of the replay was delivered by a check. -/
theorem exists_of_lastAlert {time : Nat}
    (isLast : (DeliveryState.replay past).lastAlert = some time) :
    ∃ check ∈ past, check.Delivers .alert ∧ check.time = time := by
  induction past using List.reverseRecOn with
  | nil => cases isLast
  | append_singleton past check ih =>
      rw [replay_append] at isLast
      have ofPast (inPast : (DeliveryState.replay past).lastAlert = some time) :
          ∃ earlier ∈ past ++ [check], earlier.Delivers .alert ∧ earlier.time = time := by
        obtain ⟨earlier, member, found⟩ := ih inPast
        exact ⟨earlier, List.mem_append_left _ member, found⟩
      rcases check.delivers_cases with alert | recovery | ⟨noAlert, noRecovery⟩
      · rw [(DeliveryState.next_of_alert _ alert).2] at isLast
        exact ⟨check, by simp, alert, Option.some.inj isLast⟩
      · rw [(DeliveryState.next_of_recovery _ recovery).2] at isLast
        exact ofPast isLast
      · rw [(DeliveryState.next_of_none _ noAlert noRecovery).2] at isLast
        exact ofPast isLast

/-- At times that do not go back, no delivered alert is later than the last one. -/
theorem lastAlert_of_delivered {first : DeliveryCheck} (member : first ∈ past)
    (delivers : first.Delivers .alert)
    (ordered : past.Pairwise fun earlier later => earlier.time ≤ later.time) :
    ∃ time, (DeliveryState.replay past).lastAlert = some time ∧ first.time ≤ time := by
  induction past using List.reverseRecOn with
  | nil => cases member
  | append_singleton past check ih =>
      obtain ⟨orderedPast, -, notAfter⟩ := List.pairwise_append.mp ordered
      rw [replay_append]
      by_cases alert : check.Delivers .alert
      · refine ⟨check.time, (DeliveryState.next_of_alert _ alert).2, ?_⟩
        rcases List.mem_append.mp member with inPast | last
        · exact notAfter first inPast check (by simp)
        · exact Nat.le_of_eq (congrArg _ (List.mem_singleton.mp last))
      · have inPast : first ∈ past := by
          rcases List.mem_append.mp member with inPast | last
          · exact inPast
          · rw [List.mem_singleton.mp last] at delivers
            exact absurd delivers alert
        have kept : ((DeliveryState.replay past).next check).lastAlert =
            (DeliveryState.replay past).lastAlert := by
          by_cases recovery : check.Delivers .recovered
          · exact (DeliveryState.next_of_recovery _ recovery).2
          · exact (DeliveryState.next_of_none _ alert recovery).2
        rw [kept]
        exact ih inPast orderedPast

/-- The replay counts the unhealthy checks at the end. -/
theorem replay_failures : (DeliveryState.replay past).failures = unhealthyRun past := by
  induction past using List.reverseRecOn with
  | nil => rfl
  | append_singleton past check ih =>
      rw [replay_append, unhealthyRun, List.reverse_append]
      cases healthy : check.healthy with
      | true => simp [DeliveryState.next, healthy]
      | false => simp [DeliveryState.next, healthy, ih, unhealthyRun]

end Replay

section Runs

variable {threshold cooldown : Nat} {checks : List DeliveryCheck} {state final : DeliveryState}

/-- The state of a run is the replay of its checks. -/
theorem StepRun.isReplay (run : StepRun (DeliveryStep threshold cooldown) state checks final) :
    final = checks.foldl DeliveryState.next state := by
  induction run with
  | nil => rfl
  | cons first rest ih => rw [ih, first.2, List.foldl_cons]

/-- Each check of a run attempts what it may after the checks before it. -/
theorem StepRun.permitted {before after : List DeliveryCheck} {check : DeliveryCheck}
    (run : StepRun (DeliveryStep threshold cooldown) .fresh checks final)
    (isSplit : checks = before ++ check :: after) :
    Permitted threshold cooldown (DeliveryState.replay before) check := by
  subst isSplit
  obtain ⟨middle, _, early, step, -⟩ := run.at_split
  have isReplay : middle = DeliveryState.replay before := early.isReplay
  rw [← isReplay]
  exact step.1

/-- **The protocol.** A run of such steps at times that do not go back keeps it. -/
theorem DeliveryProtocol.of_run (run : StepRun (DeliveryStep threshold cooldown) .fresh checks final)
    (ordered : checks.Pairwise fun earlier later => earlier.time ≤ later.time) :
    DeliveryProtocol threshold cooldown checks where
  recovers_after_alert := by
    intro before check after isSplit delivers
    exact replay_outstanding.mp ((run.permitted isSplit).recovers delivers.1)
  attempts_recovery := by
    intro before check after isSplit outstanding healthy
    exact (run.permitted isSplit).attemptsRecovery (replay_outstanding.mpr outstanding) healthy
  alerts_apart := by
    intro before first between second after isSplit firstAlert secondAlert quiet
    have isSplit' : checks = (before ++ first :: between) ++ second :: after := by
      rw [isSplit, List.append_assoc, List.cons_append]
    have outstanding : Outstanding (before ++ first :: between) :=
      ⟨before, first, between, rfl, firstAlert, quiet⟩
    have orderedPast : (before ++ first :: between).Pairwise fun earlier later =>
        earlier.time ≤ later.time := by
      rw [isSplit'] at ordered
      exact (List.pairwise_append.mp ordered).1
    obtain ⟨time, isLast, notAfter⟩ := lastAlert_of_delivered (by simp) firstAlert orderedPast
    have due := (run.permitted isSplit').apart secondAlert.1 (replay_outstanding.mpr outstanding)
      time isLast
    omega
  attempts_alert := by
    intro before check after isSplit noAlert unhealthy reached due
    have permitted := run.permitted isSplit
    have notOutstanding : (DeliveryState.replay before).outstanding = false := by
      rw [← Bool.not_eq_true, replay_outstanding]
      exact noAlert
    have counted : threshold ≤ (DeliveryState.replay before).failures + 1 := by
      have count : (DeliveryState.replay (before ++ [check])).failures =
          unhealthyRun (before ++ [check]) := replay_failures
      rw [replay_append] at count
      simp only [DeliveryState.next, unhealthy, Bool.false_eq_true, if_false] at count
      omega
    apply permitted.attemptsAlert notOutstanding unhealthy counted
    intro time isLast
    obtain ⟨earlier, member, delivers, isTime⟩ := exists_of_lastAlert isLast
    rw [← isTime]
    exact due earlier member delivers

end Runs

end Foundation
