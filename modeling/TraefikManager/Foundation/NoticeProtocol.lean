import Mathlib.Data.List.Basic
import TraefikManager.Foundation.StepRun

/-!
# Notices of trouble and recovery

A subject is checked from time to time. Trouble of a kind is announced once until something
else is, and after an announced trouble the first check that finds the subject well announces
the recovery.
-/

namespace Foundation

inductive Notice (κ : Type) where
  | trouble (kind : κ)
  | recovery
  deriving DecidableEq, Repr

/-- Whether a check finds the subject well, and what it announces. -/
structure NoticeCheck (κ : Type) where
  well : Bool
  notices : List (Notice κ)
  deriving DecidableEq, Repr

/-- What holds of the checks of a whole run. -/
structure NoticeProtocol {κ : Type} (checks : List (NoticeCheck κ)) : Prop where
  /-- Between two notices of one kind there is another notice. -/
  troubles_alternate : ∀ before first between second after kind,
    checks = before ++ first :: (between ++ second :: after) →
      .trouble kind ∈ first.notices → .trouble kind ∈ second.notices →
      ∃ check ∈ between, ∃ notice ∈ check.notices, notice ≠ .trouble kind
  /-- Announced trouble is followed by a recovery at the first check that finds the subject well. -/
  recovers_when_well : ∀ before troubled between check after kind,
    checks = before ++ troubled :: (between ++ check :: after) →
      .trouble kind ∈ troubled.notices → (∀ later ∈ between, .recovery ∉ later.notices) →
      (∀ later ∈ between, later.well = false) → check.well = true → .recovery ∈ check.notices

/-- What a check may announce, given the kind of trouble announced before and not recovered. -/
inductive NoticeStep {κ : Type} : Option κ → NoticeCheck κ → Option κ → Prop where
  | quiet {pending : Option κ} : NoticeStep pending ⟨false, []⟩ pending
  | troubled {pending : Option κ} {kind : κ} (fresh : pending ≠ some kind) :
      NoticeStep pending ⟨false, [.trouble kind]⟩ (some kind)
  | recovered {kind : κ} : NoticeStep (some kind) ⟨true, [.recovery]⟩ none
  | well : NoticeStep none ⟨true, []⟩ none

section Runs

variable {κ : Type} {pending final : Option κ} {checks : List (NoticeCheck κ)}

private theorem NoticeStep.pending_of_trouble {check : NoticeCheck κ} {kind : κ}
    (step : NoticeStep pending check final) (announced : .trouble kind ∈ check.notices) :
    pending ≠ some kind ∧ final = some kind := by
  cases step with
  | troubled fresh =>
      obtain rfl : kind = _ := by simpa using announced
      exact ⟨fresh, rfl⟩
  | _ => simp at announced

/-- Announced trouble stays pending while nothing else is announced. -/
theorem NoticeStep.run_same_kind {kind : κ} (run : StepRun NoticeStep pending checks final)
    (isPending : pending = some kind)
    (only : ∀ check ∈ checks, ∀ notice ∈ check.notices, notice = .trouble kind) :
    final = some kind := by
  induction run with
  | nil => exact isPending
  | cons step rest ih =>
      refine ih ?_ fun check later => only check (List.mem_cons_of_mem _ later)
      have here := only _ List.mem_cons_self
      cases step with
      | quiet => exact isPending
      | troubled fresh => simpa using here
      | recovered => simp at here
      | well => exact isPending

/-- Trouble stays pending while no check finds the subject well. -/
theorem NoticeStep.run_unwell (run : StepRun NoticeStep pending checks final)
    (isPending : pending ≠ none) (unwell : ∀ check ∈ checks, check.well = false) :
    final ≠ none := by
  induction run with
  | nil => exact isPending
  | cons step rest ih =>
      refine ih ?_ fun check later => unwell check (List.mem_cons_of_mem _ later)
      have here := unwell _ List.mem_cons_self
      cases step with
      | quiet => exact isPending
      | troubled fresh => simp
      | recovered => cases here
      | well => cases here

/-- **The protocol.** A run of such steps keeps it. -/
theorem NoticeProtocol.of_run (run : StepRun NoticeStep none checks final) :
    NoticeProtocol checks where
  troubles_alternate := by
    intro before first between second after kind isSplit firstTrouble secondTrouble
    by_contra nothingElse
    have only : ∀ check ∈ between, ∀ notice ∈ check.notices, notice = .trouble kind := by
      intro check inBetween notice announced
      by_contra other
      exact nothingElse ⟨check, inBetween, notice, announced, other⟩
    obtain ⟨_, opened, -, step, rest⟩ := StepRun.at_split (isSplit ▸ run)
    obtain ⟨last, _, between, again, -⟩ := rest.at_split
    have isOpen := (step.pending_of_trouble firstTrouble).2
    exact (again.pending_of_trouble secondTrouble).1 (NoticeStep.run_same_kind between isOpen only)
  recovers_when_well := by
    intro before troubled between check after kind isSplit isTrouble _ unwell isWell
    obtain ⟨_, opened, -, step, rest⟩ := StepRun.at_split (isSplit ▸ run)
    obtain ⟨last, _, between, found, -⟩ := rest.at_split
    have isOpen : opened ≠ none := by
      rw [(step.pending_of_trouble isTrouble).2]
      simp
    have stillOpen := NoticeStep.run_unwell between isOpen unwell
    cases found with
    | recovered => simp
    | well => exact absurd rfl stillOpen
    | _ => cases isWell

end Runs

end Foundation
