import TraefikManager.Monitoring.HealthMonitor
import TraefikManager.Monitoring.ThresholdMonitors

/-!
# The monitors keep the alert protocol

Each of the four monitors starts without a state, after a first start or after a check that
found it turned off. From there on every run of checks keeps the protocol.
-/

namespace TraefikManager.Monitoring

open Foundation

/-- The protocol holds of every run of checks that find the monitor turned on, from a stored
text without a state and at clock readings that do not go back. -/
def KeepsProtocol {ι κ : Type} (monitor : Monitor (Option String) ι κ) (enabled : ι → Bool)
    (fresh : Option String → Prop) : Prop :=
  ∀ stored inputs, fresh stored → (∀ input ∈ inputs, enabled input = true) →
    (inputs.Pairwise fun first second => monitor.time first ≤ monitor.time second) →
    AlertProtocol (monitor.run stored inputs)

/-- **Alert protocol.** The four monitors keep it, the health monitor for each component. -/
theorem monitors_keep_protocol (reachesWarning : Nat → Nat → Bool) :
    KeepsProtocol encodedPathBlockMonitor EncodedPathBlockInput.enabled (parseState · = ∅) ∧
    KeepsProtocol managerHttpErrorMonitor ManagerHttpErrorInput.enabled (parseState · = ∅) ∧
    KeepsProtocol (httpLogStorageMonitor reachesWarning) HttpLogStorageInput.enabled
      (parseState · = ∅) ∧
    ∀ name, KeepsProtocol (managerHealthMonitor name) ManagerHealthInput.enabled
      (deserializeState · = ∅) := by
  refine ⟨?_, ?_, ?_, ?_⟩
  · intro stored inputs fresh enabled ordered
    exact Monitor.protocol checkEncodedPathBlocksOnce_step (fresh ▸ tracks_empty) enabled ordered
  · intro stored inputs fresh enabled ordered
    exact Monitor.protocol checkManagerHttpErrorsOnce_step (fresh ▸ tracks_empty) enabled ordered
  · intro stored inputs fresh enabled ordered
    exact Monitor.protocol checkManagerHttpLogStorageOnce_step (fresh ▸ tracks_empty) enabled ordered
  · intro name stored inputs fresh enabled ordered
    have tracked : TracksHealth name stored none := by
      refine ⟨?_, ?_⟩
      · rw [fresh]
        intro entry inEntries
        cases inEntries
      · rw [fresh]
        exact ⟨rfl, by simp⟩
    exact Monitor.protocol checkManagerHealthOnce_step tracked enabled ordered

/-- A check of blocked paths so many minutes after the epoch, with alerts ten minutes apart. -/
def blockCheck (minute : Fin 60) (available : Bool) (count : Int) : EncodedPathBlockInput where
  now := ⟨minute * 60000000, by decide +revert +kernel⟩
  enabledValue := none
  thresholdValue := some "5"
  cooldownValue := none
  cooldownSeconds := some 600
  available := available
  collectionAvailable := available
  blockedRequestCount := some count

/-- The breach lasts through a check that measures nothing, is announced again after the cooldown,
and its end is announced once. -/
example : (encodedPathBlockMonitor.run none [blockCheck 0 true 7, blockCheck 5 true 9,
    blockCheck 8 false 0, blockCheck 11 true 6, blockCheck 14 true 2, blockCheck 17 true 1]).map
      (·.events) = [[.alert], [], [], [.alert], [.recovered], []] := by
  decide +kernel

end TraefikManager.Monitoring
