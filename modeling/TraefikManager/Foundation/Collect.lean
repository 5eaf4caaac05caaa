import Mathlib.Data.List.Nodup
import Mathlib.Data.List.Basic

/-!
# Collecting normalized items

Normalizing a list of inputs item by item: each item is rejected, skipped, or
turned into a value, and a value seen before is not added again. A step that
leaves its own results alone makes the whole collection idempotent.
-/

namespace Foundation

variable {ε α β : Type}

/-- Append a value unless the list has it. -/
def appendNew [DecidableEq β] (values : List β) (value : β) : List β :=
  if value ∈ values then values else values ++ [value]

/-- Collect the values of the items in order, without repetition. `step` answers
`none` for an item that is skipped. -/
def collect [DecidableEq β] (step : α → Except ε (Option β)) : List β → List α → Except ε (List β)
  | values, [] => .ok values
  | values, item :: rest =>
      match step item with
      | .error failure => .error failure
      | .ok none => collect step values rest
      | .ok (some value) => collect step (appendNew values value) rest

/-- The results of the items in order, without those skipped. -/
def gather (step : α → Except ε (Option β)) : List α → Except ε (List β)
  | [] => .ok []
  | item :: rest =>
      match step item with
      | .error failure => .error failure
      | .ok none => gather step rest
      | .ok (some value) => (gather step rest).map (value :: ·)

/-- Each gathered value is the result of some item. -/
theorem gather_ok {step : α → Except ε (Option β)} {items : List α} {gathered : List β}
    (done : gather step items = .ok gathered) :
    ∀ value ∈ gathered, ∃ item ∈ items, step item = .ok (some value) := by
  induction items generalizing gathered with
  | nil =>
      cases done
      simp
  | cons item rest ih =>
      unfold gather at done
      split at done
      · cases done
      · intro value member
        obtain ⟨source, listed, result⟩ := ih done value member
        exact ⟨source, List.mem_cons_of_mem _ listed, result⟩
      · rename_i first result
        cases later : gather step rest with
        | error failure => simp [later, Except.map] at done
        | ok values =>
            obtain rfl : first :: values = gathered := by simpa [later, Except.map] using done
            intro value member
            rcases List.mem_cons.mp member with rfl | inRest
            · exact ⟨item, by simp, result⟩
            · obtain ⟨source, listed, result⟩ := ih later value inRest
              exact ⟨source, List.mem_cons_of_mem _ listed, result⟩

/-- Items that are their own results are gathered as they stand. -/
theorem gather_of_fixed {step : α → Except ε (Option α)} {items : List α}
    (fixed : ∀ item ∈ items, step item = .ok (some item)) : gather step items = .ok items := by
  induction items with
  | nil => rfl
  | cons item rest ih =>
      unfold gather
      rw [fixed item (by simp), ih fun other member => fixed other (by simp [member])]
      rfl

section

variable [DecidableEq β] {step : α → Except ε (Option β)}

/-- What was collected has no repetition, and each value is one collected before
or the result of some item. -/
theorem collect_ok {before collected : List β} {items : List α} (distinct : before.Nodup)
    (done : collect step before items = .ok collected) :
    collected.Nodup ∧
      ∀ value ∈ collected, value ∈ before ∨ ∃ item ∈ items, step item = .ok (some value) := by
  induction items generalizing before with
  | nil =>
      cases done
      exact ⟨distinct, fun _ member => .inl member⟩
  | cons item rest ih =>
      unfold collect at done
      split at done
      · cases done
      · obtain ⟨nodup, origin⟩ := ih distinct done
        refine ⟨nodup, fun value member => ?_⟩
        exact (origin value member).imp_right fun ⟨source, listed, result⟩ =>
          ⟨source, List.mem_cons_of_mem _ listed, result⟩
      · rename_i value result
        have extended : (appendNew before value).Nodup := by
          unfold appendNew
          split
          · exact distinct
          · rename_i absent
            exact List.nodup_append.mpr ⟨distinct, by simp, by
              intro old known new added same
              have isValue : new = value := by simpa using added
              exact absent (isValue ▸ same ▸ known)⟩
        obtain ⟨nodup, origin⟩ := ih extended done
        refine ⟨nodup, fun other member => ?_⟩
        rcases origin other member with seen | ⟨source, listed, sourceResult⟩
        · have : other ∈ before ∨ other = value := by
            unfold appendNew at seen
            split at seen
            · exact .inl seen
            · simpa using seen
          rcases this with old | rfl
          · exact .inl old
          · exact .inr ⟨item, by simp, result⟩
        · exact .inr ⟨source, List.mem_cons_of_mem _ listed, sourceResult⟩

/-- What was collected before, and the result of every item, is collected. -/
theorem mem_collect {before collected : List β} {items : List α} {value : β}
    (done : collect step before items = .ok collected)
    (source : value ∈ before ∨ ∃ item ∈ items, step item = .ok (some value)) :
    value ∈ collected := by
  induction items generalizing before with
  | nil =>
      cases done
      simpa using source
  | cons item rest ih =>
      unfold collect at done
      split at done
      · cases done
      · rename_i skipped
        apply ih done
        rcases source with old | ⟨other, listed, result⟩
        · exact .inl old
        · rcases List.mem_cons.mp listed with rfl | later
          · rw [skipped] at result
            cases result
          · exact .inr ⟨other, later, result⟩
      · rename_i first isFirst
        apply ih done
        rcases source with old | ⟨other, listed, result⟩
        · refine .inl ?_
          unfold appendNew
          split
          · exact old
          · exact List.mem_append_left _ old
        · rcases List.mem_cons.mp listed with rfl | later
          · rw [isFirst] at result
            cases result
            refine .inl ?_
            unfold appendNew
            split
            · assumption
            · simp
          · exact .inr ⟨other, later, result⟩

end

/-- Items that are their own results are collected as they stand. -/
theorem collect_of_fixed [DecidableEq α] {step : α → Except ε (Option α)} {before items : List α}
    (fixed : ∀ item ∈ items, step item = .ok (some item)) (distinct : (before ++ items).Nodup) :
    collect step before items = .ok (before ++ items) := by
  induction items generalizing before with
  | nil => simp [collect]
  | cons item rest ih =>
      have absent : item ∉ before := by
        intro member
        have apart := (List.nodup_append.mp distinct).2.2
        exact apart item member item (by simp) rfl
      unfold collect
      rw [fixed item (by simp)]
      simp only [appendNew, absent, ↓reduceIte]
      have distinct' : ((before ++ [item]) ++ rest).Nodup := by simpa using distinct
      rw [ih (fun other member => fixed other (by simp [member])) distinct']
      simp

/-- What each step keeps holds after all of them. -/
theorem foldlM_invariant {σ : Type} {step : σ → α → Except ε σ} {holds : σ → Prop}
    (keeps : ∀ state item next, holds state → step state item = .ok next → holds next)
    {items : List α} {state last : σ} (starts : holds state)
    (done : items.foldlM step state = .ok last) : holds last := by
  induction items generalizing state with
  | nil =>
      cases done
      exact starts
  | cons item items ih =>
      rw [List.foldlM_cons] at done
      cases first : step state item with
      | error failure =>
          rw [first] at done
          cases done
      | ok next =>
          rw [first] at done
          exact ih (keeps state item next starts first) done

/-- Running a step on each item gives the results of the steps, in order. -/
theorem forall₂_of_mapM {step : α → Except ε β} {items : List α} {values : List β}
    (done : items.mapM step = .ok values) :
    List.Forall₂ (fun item value => step item = .ok value) items values := by
  induction items generalizing values with
  | nil =>
      cases done
      exact .nil
  | cons item rest ih =>
      rw [List.mapM_cons] at done
      cases first : step item with
      | error failure =>
          rw [first] at done
          cases done
      | ok value =>
          cases others : rest.mapM step with
          | error failure =>
              rw [first, others] at done
              cases done
          | ok later =>
              rw [first, others] at done
              cases done
              exact .cons first (ih others)

/-- Each item of related lists has its counterpart. -/
theorem exists_of_forall₂ {related : α → β → Prop} {items : List α} {values : List β}
    (each : List.Forall₂ related items values) :
    ∀ item ∈ items, ∃ value ∈ values, related item value := by
  induction each with
  | nil => exact nofun
  | cons first _ ih =>
      refine List.forall_mem_cons.mpr ⟨⟨_, List.mem_cons_self, first⟩, ?_⟩
      intro item inRest
      obtain ⟨value, isLater, isValue⟩ := ih item inRest
      exact ⟨value, List.mem_cons_of_mem _ isLater, isValue⟩

/-- Each result comes from an item. -/
theorem exists_of_mem_mapM {step : α → Except ε β} {items : List α} {values : List β} {value : β}
    (done : items.mapM step = .ok values) (listed : value ∈ values) :
    ∃ item ∈ items, step item = .ok value :=
  exists_of_forall₂ (forall₂_of_mapM done).flip value listed

/-- What a list fails with, one of its items fails with. -/
theorem exists_of_mapM_error {step : α → Except ε β} {items : List α} {failure : ε}
    (failed : items.mapM step = .error failure) : ∃ item ∈ items, step item = .error failure := by
  induction items with
  | nil => cases failed
  | cons item rest ih =>
      rw [List.mapM_cons] at failed
      cases first : step item with
      | error failure =>
          rw [first] at failed
          cases failed
          exact ⟨item, List.mem_cons_self, first⟩
      | ok value =>
          cases others : rest.mapM step with
          | error failure =>
              rw [first, others] at failed
              cases failed
              obtain ⟨other, inRest, fails⟩ := ih others
              exact ⟨other, List.mem_cons_of_mem _ inRest, fails⟩
          | ok later =>
              rw [first, others] at failed
              cases failed

/-- Running an optional step on each item gives the results of the steps, in order. -/
theorem forall₂_of_mapM_some {step : α → Option β} {items : List α} {values : List β}
    (done : items.mapM step = some values) :
    List.Forall₂ (fun item value => step item = some value) items values := by
  induction items generalizing values with
  | nil =>
      cases done
      exact .nil
  | cons item rest ih =>
      rw [List.mapM_cons] at done
      obtain ⟨value, first, others⟩ := Option.bind_eq_some_iff.mp done
      obtain ⟨later, areLater, isList⟩ := Option.bind_eq_some_iff.mp others
      cases isList
      exact .cons first (ih areLater)

/-- A step that has a result for each item has one for the list. -/
theorem mapM_isSome {step : α → Option β} {items : List α}
    (each : ∀ item ∈ items, (step item).isSome = true) : (items.mapM step).isSome = true := by
  induction items with
  | nil => rfl
  | cons item rest ih =>
      obtain ⟨here, others⟩ := List.forall_mem_cons.mp each
      obtain ⟨value, first⟩ := Option.isSome_iff_exists.mp here
      obtain ⟨later, areLater⟩ := Option.isSome_iff_exists.mp (ih others)
      rw [List.mapM_cons, first, areLater]
      rfl

/-- Each result of an optional step comes from an item. -/
theorem exists_of_mem_mapM_some {step : α → Option β} {items : List α} {values : List β}
    {value : β} (done : items.mapM step = some values) (listed : value ∈ values) :
    ∃ item ∈ items, step item = some value :=
  exists_of_forall₂ (forall₂_of_mapM_some done).flip value listed

/-- The results carry the keys of the items, when each step keeps the key. -/
theorem mapM_map_eq {γ : Type} {step : α → Option β} {key : α → γ} {key' : β → γ}
    (same : ∀ item value, step item = some value → key' value = key item) {items : List α}
    {values : List β} (done : items.mapM step = some values) :
    values.map key' = items.map key := by
  have steps := forall₂_of_mapM_some done
  clear done
  induction steps with
  | nil => rfl
  | cons first _ ih => rw [List.map_cons, List.map_cons, same _ _ first, ih]

/-- The items that have a value stay in their order, when a value names its item. -/
theorem filterMap_map_sublist {step : α → Option β} {key : β → α}
    (same : ∀ item value, step item = some value → key value = item) (items : List α) :
    ((items.filterMap step).map key).Sublist items := by
  induction items with
  | nil => exact .slnil
  | cons item items ih =>
      cases found : step item with
      | none =>
          rw [List.filterMap_cons_none found]
          exact ih.cons item
      | some value =>
          rw [List.filterMap_cons_some found, List.map_cons, same item value found]
          exact ih.cons_cons item

/-- A step that has no result for one item has none for the list. -/
theorem exists_of_mapM_some {step : α → Option β} {items : List α} {values : List β}
    (done : items.mapM step = some values) :
    ∀ item ∈ items, ∃ value ∈ values, step item = some value :=
  exists_of_forall₂ (forall₂_of_mapM_some done)

end Foundation
