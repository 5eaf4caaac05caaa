import Mathlib.Data.List.Nodup
import Mathlib.Data.List.Perm.Subperm

/-!
# Chains of retries

An attempt retries one entry of a log and leaves an entry of its own, which may be retried in
its turn. Where no entry is retried twice and every attempt carries a number that grows along
the links, the attempts that descend from one entry are no more than the numbers allow.
-/

namespace Foundation

/-- An attempt, by the entries it retried and recorded. -/
structure Retry (ι : Type) where
  retried : ι
  recorded : ι
  deriving DecidableEq, Repr

namespace Retry

variable {ι : Type} {attempts : List (Retry ι)} {original : ι} {attempt other : Retry ι}

/-- The attempts of the chain that starts from an entry, with their distance from it. -/
inductive Descends (attempts : List (Retry ι)) (original : ι) : Nat → Retry ι → Prop where
  | first {attempt : Retry ι} (ofOriginal : attempt.retried = original) :
      Descends attempts original 0 attempt
  | later {depth : Nat} {earlier attempt : Retry ι} (chain : Descends attempts original depth earlier)
      (made : earlier ∈ attempts) (ofRecord : attempt.retried = earlier.recorded) :
      Descends attempts original (depth + 1) attempt

/-- Each link of a chain is a single attempt. -/
theorem Descends.retried_eq (once : (attempts.map retried).Nodup) {depth : Nat}
    (descends : Descends attempts original depth attempt)
    (also : Descends attempts original depth other) : attempt.retried = other.retried := by
  induction descends generalizing other with
  | first ofOriginal =>
      cases also with
      | first ofOriginal' => rw [ofOriginal, ofOriginal']
  | later chain made ofRecord ih =>
      cases also with
      | later chain' made' ofRecord' =>
          have same := List.inj_on_of_nodup_map once made made' (ih chain')
          rw [ofRecord, ofRecord', same]

variable {number : Retry ι → Nat}

/-- The number of an attempt is that of the first of its chain and its distance from it. -/
theorem Descends.exists_first
    (grows : ∀ earlier ∈ attempts, ∀ later ∈ attempts,
      later.retried = earlier.recorded → number later = number earlier + 1)
    {depth : Nat} (descends : Descends attempts original depth attempt)
    (made : attempt ∈ attempts) :
    ∃ start ∈ attempts, start.retried = original ∧ number attempt = number start + depth := by
  induction descends with
  | first ofOriginal => exact ⟨_, made, ofOriginal, rfl⟩
  | later chain earlierMade ofRecord ih =>
      obtain ⟨start, startMade, ofOriginal, numbered⟩ := ih earlierMade
      refine ⟨start, startMade, ofOriginal, ?_⟩
      rw [grows _ earlierMade _ made ofRecord, numbered]
      omega

/-- **Bounded chains.** Where no entry is retried twice, the attempts that descend from one
entry are at most as many as the numbers an attempt may carry. -/
theorem length_chain_le {limit : Nat} (once : (attempts.map retried).Nodup)
    (grows : ∀ earlier ∈ attempts, ∀ later ∈ attempts,
      later.retried = earlier.recorded → number later = number earlier + 1)
    (bounded : ∀ attempt ∈ attempts, number attempt < limit)
    {chain : List (Retry ι)} (sub : chain.Sublist attempts)
    (descend : ∀ attempt ∈ chain, ∃ depth, Descends attempts original depth attempt) :
    chain.length ≤ limit := by
  have distinct : chain.Nodup := (List.Nodup.of_map _ once).sublist sub
  have numbers : (chain.map number).Nodup := by
    refine distinct.map_on fun attempt inChain other inChain' same => ?_
    have made := sub.subset inChain
    have made' := sub.subset inChain'
    obtain ⟨depth, descends⟩ := descend attempt inChain
    obtain ⟨depth', descends'⟩ := descend other inChain'
    obtain ⟨start, startMade, ofOriginal, numbered⟩ := descends.exists_first grows made
    obtain ⟨start', startMade', ofOriginal', numbered'⟩ := descends'.exists_first grows made'
    -- both chains start with the one attempt of the original, so equal numbers are equal depths
    have sameStart : start = start' :=
      List.inj_on_of_nodup_map once startMade startMade' (ofOriginal.trans ofOriginal'.symm)
    subst sameStart
    obtain rfl : depth = depth' := by omega
    exact List.inj_on_of_nodup_map once made made' (descends.retried_eq once descends')
  have within : chain.map number ⊆ List.range limit := by
    intro value listed
    obtain ⟨attempt, inChain, rfl⟩ := List.mem_map.mp listed
    exact List.mem_range.mpr (bounded attempt (sub.subset inChain))
  have counted := (List.subperm_of_subset numbers within).length_le
  rwa [List.length_map, List.length_range] at counted

end Retry

end Foundation
