import TraefikManager.Background.ManagerRoute
import TraefikManager.Foundation.Lease

/-!
# The leader of the background tasks

Several backends run next to each other during a deployment, one for every slot. Each supervises its
background tasks: it runs them while the route file names its slot and it holds the lock on the
lease file.
-/

namespace TraefikManager.Background

open Foundation Scripts

section Backends

/-- A backend reads from the route file whether its slot is active. -/
def seesActive (slots : Nat → String) (route : RouteRead) (backend : Nat) : Option Bool :=
  isManagerSlotActive (slots backend) route

/-- `supervise_background_tasks` in every backend, from a start where none has begun. A `look` is the
call of `is_manager_slot_active`; `take` and `refuse` are `_try_acquire_lease` with its lock and with
an `OSError`; `start` and `finish` are the first and the last step of `run_active`, `collect` is the
`await` of a task that is done, and `release` is `_release_lease`. -/
def superviseBackgroundTasks (slots : Nat → String) (route : RouteRead)
    (turns : List (OfficeTurn RouteRead)) : Office RouteRead :=
  Office.run (seesActive slots) { surroundings := route } turns

/-- What the supervisors guarantee after these steps. -/
structure Supervised (slots : Nat → String) (route : RouteRead)
    (turns : List (OfficeTurn RouteRead)) : Prop where
  /-- The tasks of at most one backend run. -/
  exclusive : ∀ first second, Office.Working first (superviseBackgroundTasks slots route turns) →
    Office.Working second (superviseBackgroundTasks slots route turns) → first = second
  /-- The backend whose tasks run has read that its slot is active, and holds the lease since. -/
  appointed : ∀ backend, Office.Working backend (superviseBackgroundTasks slots route turns) →
    ∃ before after, turns = before ++ .look backend :: after ∧
      seesActive slots (superviseBackgroundTasks slots route before).surroundings backend =
        some true ∧
      ∀ middle, middle <+: after →
        (superviseBackgroundTasks slots route (before ++ .look backend :: middle)).holder =
          some backend
  /-- When the initializer writes the route file for a slot, a backend of this slot that does not
  shut down gets its tasks to run, by its steps and those of a leader of another slot. -/
  takeover : ∀ (environment : String → Option String) (lines : List String) (active : Slot),
    initTraefikConfig environment = some lines →
    orDefault (environment "TRAEFIK_MANAGER_FRONTEND_UPSTREAM")
      "http://traefik-manager-frontend:3000" = upstreamForSlot active →
    ∀ backend, Text.lower (Text.strip (slots backend)) = active.name →
      ((superviseBackgroundTasks slots route turns).members backend).stays = true →
      (∀ leader, (superviseBackgroundTasks slots route turns).holder = some leader →
        leader ≠ backend → Text.lower (Text.strip (slots leader)) ≠ active.name) →
      ∃ steps : List (OfficeTurn RouteRead), (∀ turn ∈ steps, ∃ number, turn.member? = some number ∧
          (number = backend ∨ (superviseBackgroundTasks slots route turns).holder = some number)) ∧
        Office.Working backend (superviseBackgroundTasks slots route
          (turns ++ .change (.text (fileOf lines)) :: steps))

end Backends

section Runs

variable {slots : Nat → String} {route : RouteRead} {turns : List (OfficeTurn RouteRead)}

private theorem superviseBackgroundTasks_sound :
    (superviseBackgroundTasks slots route turns).Sound :=
  (Office.sound_vacant route).run turns

private theorem upstreamForSlot_inj {first second : Slot}
    (same : upstreamForSlot first = upstreamForSlot second) : first = second := by
  cases first <;> cases second <;> first | rfl | exact absurd same (by decide)

/-- Of a file for a slot, a backend of the slot sees that it is active, and one of another slot that
it is not. -/
theorem seesActive_fileOf {environment : String → Option String} {lines : List String}
    {active : Slot} (written : initTraefikConfig environment = some lines)
    (isUpstream : orDefault (environment "TRAEFIK_MANAGER_FRONTEND_UPSTREAM")
      "http://traefik-manager-frontend:3000" = upstreamForSlot active) (backend : Nat) :
    seesActive slots (.text (fileOf lines)) backend =
      some (decide (Text.lower (Text.strip (slots backend)) = active.name)) := by
  obtain ⟨named, isNamed, names⟩ := includes_initTraefikConfig written
  obtain rfl := upstreamForSlot_inj (isUpstream.symm.trans isNamed)
  exact isManagerSlotActive_fileOf names (slots backend)

/-- **One leader.** In every order of the steps of the backends, with changes of the route file and
crashes in between, at most one backend runs its tasks, it does so by right, and a switch of the
route brings the backend of the new slot to work. -/
theorem superviseBackgroundTasks_supervised (slots : Nat → String) (route : RouteRead)
    (turns : List (OfficeTurn RouteRead)) : Supervised slots route turns where
  exclusive first second isFirst isSecond :=
    superviseBackgroundTasks_sound.exclusive
      (MemberStage.holds_of_vouched (MemberStage.vouched_of_works isFirst))
      (MemberStage.holds_of_vouched (MemberStage.vouched_of_works isSecond))
  appointed backend isWorking :=
    Office.vouched_run (Office.sound_vacant route) (fun _ => rfl) turns
      (MemberStage.vouched_of_works isWorking)
  takeover environment lines active written isUpstream backend normalized stays others := by
    have seen : ∀ number, seesActive slots (.text (fileOf lines)) number =
        some (decide (Text.lower (Text.strip (slots number)) = active.name)) :=
      seesActive_fileOf written isUpstream
    have sound : ((superviseBackgroundTasks slots route turns).step (seesActive slots)
        (.change (.text (fileOf lines)))).Sound :=
      superviseBackgroundTasks_sound.step _
    obtain ⟨steps, owns, working⟩ := Office.handover sound stays
      ((seen backend).trans (congrArg some (decide_eq_true normalized)))
      (fun leader isLeader differs sees => by
        have isNamed := Option.some.inj ((seen leader).symm.trans sees)
        exact others leader isLeader differs (of_decide_eq_true isNamed))
    refine ⟨steps, owns, ?_⟩
    rw [superviseBackgroundTasks, Office.run_append]
    exact working

end Runs

end TraefikManager.Background
