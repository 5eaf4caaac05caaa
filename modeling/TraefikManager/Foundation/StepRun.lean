/-!
# Runs of a step relation

A run is a list of observed steps. Runs are split where their lists are, and a program whose
state is related to the state of the relation at each of its steps makes a run.
-/

namespace Foundation

/-- A sequence of steps, each from the state the one before it leaves. -/
inductive StepRun {σ α : Type} (step : σ → α → σ → Prop) : σ → List α → σ → Prop where
  | nil {state : σ} : StepRun step state [] state
  | cons {state middle final : σ} {observed : α} {later : List α}
      (first : step state observed middle) (rest : StepRun step middle later final) :
      StepRun step state (observed :: later) final

namespace StepRun

variable {σ α : Type} {step : σ → α → σ → Prop} {state final : σ}

theorem split {early late : List α} (run : StepRun step state (early ++ late) final) :
    ∃ middle, StepRun step state early middle ∧ StepRun step middle late final := by
  induction early generalizing state with
  | nil => exact ⟨state, .nil, run⟩
  | cons observed early ih =>
      cases run with
      | cons first rest =>
          obtain ⟨middle, before, after⟩ := ih rest
          exact ⟨middle, .cons first before, after⟩

/-- A run through one step: what comes before it, the step itself, and what comes after. -/
theorem at_split {early late : List α} {observed : α}
    (run : StepRun step state (early ++ observed :: late) final) :
    ∃ before after, StepRun step state early before ∧ step before observed after ∧
      StepRun step after late final := by
  obtain ⟨before, first, rest⟩ := run.split
  cases rest with
  | cons here rest => exact ⟨before, _, first, here, rest⟩

/-- What each step preserves, a run preserves. -/
theorem preserves {holds : σ → Prop} {observed : List α}
    (keeps : ∀ before input after, holds before → step before input after → holds after)
    (run : StepRun step state observed final) (initial : holds state) : holds final := by
  induction run with
  | nil => exact initial
  | cons first rest ih => exact ih (keeps _ _ _ initial first)

end StepRun

section Observation

variable {σ ι α : Type}

/-- What a program does and shows, input by input. -/
def observedRun (act : ι → σ → σ × α) : σ → List ι → List α
  | _, [] => []
  | state, input :: inputs => (act input state).2 :: observedRun act (act input state).1 inputs

/-- Each step of a run of the program satisfies a condition on its input and the state before. -/
def Throughout (act : ι → σ → σ × α) (condition : ι → σ → Prop) : σ → List ι → Prop
  | _, [] => True
  | state, input :: inputs =>
      condition input state ∧ Throughout act condition (act input state).1 inputs

instance decidableThroughout (act : ι → σ → σ × α) (condition : ι → σ → Prop)
    [∀ input state, Decidable (condition input state)] :
    ∀ (state : σ) (inputs : List ι), Decidable (Throughout act condition state inputs)
  | _, [] => .isTrue trivial
  | state, input :: inputs =>
      have := decidableThroughout act condition (act input state).1 inputs
      inferInstanceAs (Decidable (_ ∧ _))

variable {act : ι → σ → σ × α} {condition : ι → σ → Prop}

theorem throughout_of_forall (act : ι → σ → σ × α) {allowed : ι → Prop} {inputs : List ι}
    (each : ∀ input ∈ inputs, allowed input) (state : σ) :
    Throughout act (fun input _ => allowed input) state inputs := by
  induction inputs generalizing state with
  | nil => trivial
  | cons input inputs ih =>
      exact ⟨each input List.mem_cons_self,
        ih (fun other later => each other (List.mem_cons_of_mem _ later)) _⟩

theorem Throughout.and_forall {allowed : ι → Prop} {state : σ} {inputs : List ι}
    (met : Throughout act condition state inputs) (each : ∀ input ∈ inputs, allowed input) :
    Throughout act (fun input before => allowed input ∧ condition input before) state inputs := by
  induction inputs generalizing state with
  | nil => trivial
  | cons input inputs ih =>
      obtain ⟨here, later⟩ := met
      exact ⟨⟨each input List.mem_cons_self, here⟩,
        ih later fun other inRest => each other (List.mem_cons_of_mem _ inRest)⟩

/-- What holds throughout a run holds throughout its beginning. -/
theorem Throughout.of_prefix {state : σ} {early late : List ι}
    (met : Throughout act condition state (early ++ late)) :
    Throughout act condition state early := by
  induction early generalizing state with
  | nil => trivial
  | cons input early ih => exact ⟨met.1, ih met.2⟩

/-- What holds throughout a run holds throughout the rest of it. -/
theorem Throughout.of_append {state : σ} {early late : List ι}
    (met : Throughout act condition state (early ++ late)) :
    Throughout act condition (early.foldl (fun current input => (act input current).1) state)
      late := by
  induction early generalizing state with
  | nil => exact met
  | cons input early ih => exact ih met.2

private theorem exists_input_of_mem_observedRun {observed : α} {state : σ} {inputs : List ι}
    (inRun : observed ∈ observedRun act state inputs) :
    ∃ input ∈ inputs, ∃ before, observed = (act input before).2 := by
  induction inputs generalizing state with
  | nil => cases inRun
  | cons input inputs ih =>
      obtain rfl | later := List.mem_cons.mp inRun
      · exact ⟨input, List.mem_cons_self, state, rfl⟩
      · obtain ⟨found, inInputs, same⟩ := ih later
        exact ⟨found, List.mem_cons_of_mem _ inInputs, same⟩

/-- What relates any two inputs in order relates what is observed of them. -/
theorem pairwise_observedRun {related : ι → ι → Prop} {ordered : α → α → Prop}
    (observe : ∀ first second before after, related first second →
      ordered (act first before).2 (act second after).2)
    {state : σ} {inputs : List ι} (pairwise : inputs.Pairwise related) :
    (observedRun act state inputs).Pairwise ordered := by
  induction pairwise generalizing state with
  | nil => exact .nil
  | cons before _ ih =>
      refine .cons ?_ ih
      intro observed inRun
      obtain ⟨input, inInputs, between, rfl⟩ := exists_input_of_mem_observedRun inRun
      exact observe _ _ _ _ (before input inInputs)

/-- **Simulation.** A program whose state tracks that of the relation through every step that
meets the condition makes a run of the relation. -/
theorem StepRun.of_simulation {τ : Type} {step : τ → α → τ → Prop} {tracks : σ → τ → Prop}
    (simulates : ∀ {state abstract input}, tracks state abstract → condition input state →
      ∃ next, step abstract (act input state).2 next ∧ tracks (act input state).1 next)
    {state : σ} {abstract : τ} {inputs : List ι} (tracked : tracks state abstract)
    (met : Throughout act condition state inputs) :
    ∃ final, StepRun step abstract (observedRun act state inputs) final := by
  induction inputs generalizing state abstract with
  | nil => exact ⟨abstract, .nil⟩
  | cons input inputs ih =>
      obtain ⟨here, later⟩ := met
      obtain ⟨next, first, tracked⟩ := simulates tracked here
      obtain ⟨final, rest⟩ := ih tracked later
      exact ⟨final, .cons first rest⟩

end Observation

end Foundation
