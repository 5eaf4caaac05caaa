import Mathlib.Data.List.Basic
import Mathlib.Data.List.Induction
import Mathlib.Logic.Function.Basic

/-!
# Work under a lease

Members look at their surroundings, and one that sees that it is its turn takes a lease that one
member holds at a time. It looks again, starts its work, keeps looking while the work runs, and
stops the work before it gives the lease back. Members take their steps in any order, the
surroundings change in between, and a member that crashes loses the lease and its work.
-/

namespace Foundation

section Members

/-- How far the work of a member is. -/
inductive LeasedWork where
  | pending
  | running
  | finished
  deriving DecidableEq, Repr

/-- Where a member is: it looks, is about to take the lease, has it, waits for its work, stops the
work (and leaves afterwards), or sleeps. -/
inductive MemberStage where
  | gone
  | looking
  | eligible
  | appointed
  | waiting (work : LeasedWork)
  | stopping (work : LeasedWork) (leaving : Bool)
  | sleeping
  deriving DecidableEq, Repr

namespace MemberStage

/-- The member holds the lease. -/
def holds : MemberStage → Bool
  | appointed | waiting _ | stopping _ _ => true
  | gone | looking | eligible | sleeping => false

/-- The work of the member runs. -/
def works : MemberStage → Bool
  | waiting .running | stopping .running _ => true
  | _ => false

/-- The member has seen that it is its turn since it took the lease. -/
def vouched : MemberStage → Bool
  | waiting _ | stopping .running _ => true
  | _ => false

/-- The member is there and means to stay. -/
def stays : MemberStage → Bool
  | gone | stopping _ true => false
  | _ => true

theorem holds_of_vouched {stage : MemberStage} (vouched : stage.vouched = true) :
    stage.holds = true := by
  cases stage with
  | waiting work => rfl
  | stopping work leaving => rfl
  | _ => cases vouched

theorem vouched_of_works {stage : MemberStage} (works : stage.works = true) :
    stage.vouched = true := by
  cases stage with
  | waiting work => rfl
  | stopping work leaving =>
      cases work with
      | running => rfl
      | _ => cases works
  | _ => cases works

end MemberStage

/-- The surroundings, who holds the lease, and where each member is. -/
structure Office (E : Type) where
  surroundings : E
  holder : Option Nat := none
  members : Nat → MemberStage := fun _ => .gone

/-- A change of the surroundings or a step of a member. -/
inductive OfficeTurn (E : Type) where
  | change (surroundings : E)
  | join (member : Nat)
  | look (member : Nat)
  | take (member : Nat)
  | refuse (member : Nat)
  | start (member : Nat)
  | finish (member : Nat)
  | collect (member : Nat)
  | release (member : Nat)
  | wake (member : Nat)
  | cancel (member : Nat)
  | crash (member : Nat)

/-- Whose step it is. -/
def OfficeTurn.member? {E : Type} : OfficeTurn E → Option Nat
  | change _ => none
  | join member | look member | take member | refuse member | start member | finish member
  | collect member | release member | wake member | cancel member | crash member => some member

end Members

namespace Office

variable {E : Type}

section Steps

/-- A member somewhere else. -/
def move (office : Office E) (member : Nat) (stage : MemberStage) : Office E :=
  { office with members := Function.update office.members member stage }

/-- What a member makes of what it sees; `none` stands for an error. -/
def afterLook (sees : Option Bool) : MemberStage → MemberStage
  | .looking =>
      match sees with
      | some true => .eligible
      | some false => .sleeping
      | none => .gone
  | .appointed => if sees = some true then .waiting .pending else .stopping .pending false
  | .waiting .finished => .waiting .finished
  | .waiting work => if sees = some true then .waiting work else .stopping work false
  | stage => stage

/-- Work that ends by itself, or because it was stopped. -/
def afterFinish : MemberStage → MemberStage
  | .waiting .running => .waiting .finished
  | .stopping _ leaving => .stopping .finished leaving
  | stage => stage

/-- A member that is asked to leave: one that is stopping its work does not notice. -/
def afterCancel : MemberStage → MemberStage
  | .sleeping => .gone
  | .waiting work => .stopping work true
  | stage => stage

/-- The other steps of a member that need nothing else. -/
def afterOwn {E : Type} : OfficeTurn E → MemberStage → MemberStage
  | .join _, .gone => .looking
  | .refuse _, .eligible => .sleeping
  | .start _, .waiting .pending => .waiting .running
  | .collect _, .waiting .finished => .stopping .finished false
  | .wake _, .sleeping => .looking
  | _, stage => stage

/-- A member takes the lease, unless another one holds it. -/
def take (office : Office E) (member : Nat) : Office E :=
  if office.members member = .eligible then
    if office.holder = none then { office.move member .appointed with holder := some member }
    else office.move member .sleeping
  else office

/-- A member whose work has ended gives the lease back. -/
def release (office : Office E) (member : Nat) : Office E :=
  match office.members member with
  | .stopping .finished leaving =>
      { office.move member (if leaving then .gone else .sleeping) with holder := none }
  | _ => office

/-- A member is gone, and the lease it held is free. -/
def crash (office : Office E) (member : Nat) : Office E :=
  { office.move member .gone with
    holder := if office.holder = some member then none else office.holder }

def step (sees : E → Nat → Option Bool) (office : Office E) (turn : OfficeTurn E) : Office E :=
  match turn with
  | .change surroundings => { office with surroundings }
  | .look member =>
      office.move member (afterLook (sees office.surroundings member) (office.members member))
  | .take member => office.take member
  | .finish member => office.move member (afterFinish (office.members member))
  | .release member => office.release member
  | .cancel member => office.move member (afterCancel (office.members member))
  | .crash member => office.crash member
  | .join member | .refuse member | .start member | .collect member | .wake member =>
      office.move member (afterOwn turn (office.members member))

def run (sees : E → Nat → Option Bool) (office : Office E) (turns : List (OfficeTurn E)) :
    Office E :=
  turns.foldl (step sees) office

end Steps

section Exclusion

variable {sees : E → Nat → Option Bool} {office : Office E} {member : Nat} {stage : MemberStage}

/-- The lease is where a member holds it. -/
def Sound (office : Office E) : Prop :=
  ∀ member, office.holder = some member ↔ (office.members member).holds = true

theorem Sound.exclusive (sound : office.Sound) {other : Nat}
    (first : (office.members member).holds = true) (second : (office.members other).holds = true) :
    member = other :=
  Option.some.inj (((sound member).mpr first).symm.trans ((sound other).mpr second))

/-- A member goes on, with the lease or without it as before. -/
theorem Sound.move (sound : office.Sound) (same : stage.holds = (office.members member).holds) :
    (office.move member stage).Sound := by
  intro other
  show office.holder = some other ↔ (Function.update office.members member stage other).holds = true
  rw [Function.update_apply]
  split
  · rename_i isMember
    rw [same, isMember]
    exact sound member
  · exact sound other

private theorem holds_afterLook (seen : Option Bool) (stage : MemberStage) :
    (afterLook seen stage).holds = stage.holds := by
  cases stage with
  | looking => rcases seen with _ | _ | _ <;> rfl
  | appointed => rcases seen with _ | _ | _ <;> rfl
  | waiting work => cases work <;> rcases seen with _ | _ | _ <;> rfl
  | _ => rfl

private theorem holds_afterFinish (stage : MemberStage) :
    (afterFinish stage).holds = stage.holds := by
  cases stage with
  | waiting work => cases work <;> rfl
  | _ => rfl

private theorem holds_afterCancel (stage : MemberStage) :
    (afterCancel stage).holds = stage.holds := by
  cases stage <;> rfl

private theorem holds_afterOwn (turn : OfficeTurn E) (stage : MemberStage) :
    (afterOwn turn stage).holds = stage.holds := by
  unfold afterOwn
  split <;> rfl

/-- The lease is given back. -/
theorem Sound.vacate (sound : office.Sound) (holds : (office.members member).holds = true)
    (away : stage.holds = false) :
    Sound { office.move member stage with holder := none } := by
  intro other
  refine iff_of_false nofun ?_
  show ¬(Function.update office.members member stage other).holds = true
  rw [Function.update_apply]
  split
  · simp [away]
  · rename_i differs
    exact fun otherHolds => differs (sound.exclusive otherHolds holds)

theorem Sound.take (sound : office.Sound) : (office.take member).Sound := by
  unfold Office.take
  split
  · rename_i isEligible
    split
    · rename_i isFree
      intro other
      show some member = some other ↔
        (Function.update office.members member .appointed other).holds = true
      rw [Function.update_apply]
      split
      · rename_i same
        exact iff_of_true (congrArg some same.symm) rfl
      · rename_i differs
        refine iff_of_false (fun same => differs (Option.some.inj same).symm) fun holds => ?_
        cases isFree.symm.trans ((sound other).mpr holds)
    · exact sound.move (by rw [isEligible]; rfl)
  · exact sound

theorem Sound.release (sound : office.Sound) : (office.release member).Sound := by
  unfold Office.release
  split
  · rename_i leaving isStopping
    refine sound.vacate (by rw [isStopping]; rfl) ?_
    cases leaving <;> rfl
  · exact sound

theorem Sound.crash (sound : office.Sound) : (office.crash member).Sound := by
  unfold Office.crash
  split
  · rename_i isHolder
    exact sound.vacate ((sound member).mp isHolder) rfl
  · rename_i notHolder
    have gone : (office.move member .gone).Sound :=
      sound.move (Bool.eq_false_iff.mpr fun holds => notHolder ((sound member).mpr holds)).symm
    exact gone

theorem Sound.step (sound : office.Sound) (turn : OfficeTurn E) :
    (office.step sees turn).Sound := by
  cases turn with
  | change surroundings => exact sound
  | look member => exact sound.move (holds_afterLook _ _)
  | take member => exact sound.take
  | finish member => exact sound.move (holds_afterFinish _)
  | release member => exact sound.release
  | cancel member => exact sound.move (holds_afterCancel _)
  | crash member => exact sound.crash
  | join member => exact sound.move (holds_afterOwn _ _)
  | refuse member => exact sound.move (holds_afterOwn _ _)
  | start member => exact sound.move (holds_afterOwn _ _)
  | collect member => exact sound.move (holds_afterOwn _ _)
  | wake member => exact sound.move (holds_afterOwn _ _)

theorem Sound.run (sound : office.Sound) (turns : List (OfficeTurn E)) :
    (office.run sees turns).Sound := by
  induction turns generalizing office with
  | nil => exact sound
  | cons turn turns ih => exact ih (sound.step turn)

/-- Nobody has joined. -/
theorem sound_vacant (surroundings : E) : Sound ({ surroundings } : Office E) :=
  fun _ => iff_of_false nofun nofun

end Exclusion

section Vouching

variable {sees : E → Nat → Option Bool} {office : Office E} {member : Nat} {turn : OfficeTurn E}
  {stage : MemberStage}

private theorem vouched_afterLook {seen : Option Bool}
    (vouched : (afterLook seen stage).vouched = true) :
    stage.vouched = true ∨ (stage = .appointed ∧ seen = some true) := by
  cases stage with
  | looking => rcases seen with _ | _ | _ <;> cases vouched
  | appointed =>
      rcases seen with _ | _ | _
      · cases vouched
      · cases vouched
      · exact .inr ⟨rfl, rfl⟩
  | waiting work => exact .inl rfl
  | _ => exact .inl vouched

private theorem vouched_afterFinish (vouched : (afterFinish stage).vouched = true) :
    stage.vouched = true := by
  cases stage with
  | waiting work => rfl
  | stopping work leaving => cases vouched
  | _ => exact vouched

private theorem vouched_afterCancel (vouched : (afterCancel stage).vouched = true) :
    stage.vouched = true := by
  cases stage with
  | waiting work => rfl
  | sleeping => cases vouched
  | _ => exact vouched

private theorem vouched_afterOwn (vouched : (afterOwn turn stage).vouched = true) :
    stage.vouched = true := by
  unfold afterOwn at vouched
  split at vouched <;> first | rfl | cases vouched | exact vouched

private theorem vouched_update {other : Nat}
    (vouched : (Function.update office.members other stage member).vouched = true) :
    (other = member ∧ stage.vouched = true) ∨ (office.members member).vouched = true := by
  rw [Function.update_apply] at vouched
  split at vouched
  · rename_i same
    exact .inl ⟨same.symm, vouched⟩
  · exact .inr vouched

/-- Only a look of a member that holds the lease lets it start its work. -/
theorem vouched_step (vouched : ((office.step sees turn).members member).vouched = true) :
    (office.members member).vouched = true ∨
      (turn = .look member ∧ office.members member = .appointed ∧
        sees office.surroundings member = some true) := by
  have stays : ∀ {other : Nat} {stage : MemberStage},
      (stage.vouched = true → (office.members other).vouched = true) →
        (Function.update office.members other stage member).vouched = true →
          (office.members member).vouched = true := by
    intro other stage before isVouched
    obtain ⟨rfl, here⟩ | already := vouched_update isVouched
    · exact before here
    · exact already
  cases turn with
  | change surroundings => exact .inl vouched
  | look other =>
      obtain ⟨rfl, here⟩ | already := vouched_update vouched
      · obtain before | ⟨isAppointed, seen⟩ := vouched_afterLook here
        · exact .inl before
        · exact .inr ⟨rfl, isAppointed, seen⟩
      · exact .inl already
  | take other =>
      change ((office.take other).members member).vouched = true at vouched
      unfold Office.take at vouched
      split at vouched
      · split at vouched <;> exact .inl (stays (by nofun) vouched)
      · exact .inl vouched
  | release other =>
      change ((office.release other).members member).vouched = true at vouched
      unfold Office.release at vouched
      split at vouched
      · rename_i leaving _
        exact .inl (stays (by cases leaving <;> nofun) vouched)
      · exact .inl vouched
  | crash other => exact .inl (stays (by nofun) vouched)
  | finish other => exact .inl (stays vouched_afterFinish vouched)
  | cancel other => exact .inl (stays vouched_afterCancel vouched)
  | join other => exact .inl (stays vouched_afterOwn vouched)
  | refuse other => exact .inl (stays vouched_afterOwn vouched)
  | start other => exact .inl (stays vouched_afterOwn vouched)
  | collect other => exact .inl (stays vouched_afterOwn vouched)
  | wake other => exact .inl (stays vouched_afterOwn vouched)

private theorem run_concat (turns : List (OfficeTurn E)) (turn : OfficeTurn E) :
    office.run sees (turns ++ [turn]) = (office.run sees turns).step sees turn := by
  rw [run, List.foldl_append]
  rfl

/-- A member whose work may run has seen that it is its turn, and has held the lease ever since. -/
theorem vouched_run (sound : office.Sound) (nobody : ∀ member, (office.members member).vouched = false)
    (turns : List (OfficeTurn E))
    (vouched : ((office.run sees turns).members member).vouched = true) :
    ∃ before after, turns = before ++ .look member :: after ∧
      sees (office.run sees before).surroundings member = some true ∧
      ∀ middle, middle <+: after →
        (office.run sees (before ++ .look member :: middle)).holder = some member := by
  induction turns using List.reverseRecOn with
  | nil => cases (nobody member).symm.trans vouched
  | append_singleton turns turn ih =>
      have holds : (office.run sees (turns ++ [turn])).holder = some member :=
        (sound.run (turns ++ [turn]) member).mpr (MemberStage.holds_of_vouched vouched)
      have split := vouched
      rw [run_concat] at split
      obtain already | ⟨rfl, -, seen⟩ := vouched_step split
      · obtain ⟨before, after, rfl, seen, held⟩ := ih already
        refine ⟨before, after ++ [turn], by simp, seen, fun middle within => ?_⟩
        obtain rfl | inAfter := List.prefix_concat_iff.mp within
        · simpa using holds
        · exact held middle inAfter
      · refine ⟨turns, [], rfl, seen, fun middle within => ?_⟩
        rw [List.prefix_nil.mp within]
        exact holds

end Vouching

section Progress

variable {sees : E → Nat → Option Bool} {office : Office E} {member other : Nat}

/-- Steps of one member that end somewhere. -/
def Leads (sees : E → Nat → Option Bool) (office : Office E) (member : Nat)
    (goal : Office E → Prop) : Prop :=
  ∃ turns : List (OfficeTurn E), (∀ turn ∈ turns, turn.member? = some member) ∧
    goal (office.run sees turns)

theorem Leads.here {goal : Office E → Prop} (reached : goal office) :
    Leads sees office member goal := ⟨[], nofun, reached⟩

theorem Leads.step {goal : Office E → Prop} (turn : OfficeTurn E) (own : turn.member? = some member)
    (later : Leads sees (office.step sees turn) member goal) : Leads sees office member goal := by
  obtain ⟨turns, owns, reached⟩ := later
  exact ⟨turn :: turns, List.forall_mem_cons.mpr ⟨own, owns⟩, reached⟩

/-- The work of a member runs. -/
def Working (member : Nat) (office : Office E) : Prop := (office.members member).works = true

private theorem leads_of_pending (isStage : office.members member = .waiting .pending) :
    Leads sees office member (Working member) := by
  refine .step (.start member) rfl (.here ?_)
  simp [Working, Office.step, move, isStage, afterOwn, MemberStage.works]

private theorem leads_of_appointed (isStage : office.members member = .appointed)
    (seen : sees office.surroundings member = some true) :
    Leads sees office member (Working member) := by
  refine .step (.look member) rfl (leads_of_pending ?_)
  simp [Office.step, move, isStage, afterLook, seen]

private theorem leads_of_eligible (isStage : office.members member = .eligible)
    (isFree : office.holder = none) (seen : sees office.surroundings member = some true) :
    Leads sees office member (Working member) := by
  refine .step (.take member) rfl (leads_of_appointed ?_ ?_)
  · simp [Office.step, take, move, isStage, isFree]
  · simpa [Office.step, take, move, isStage, isFree] using seen

private theorem leads_of_looking (isStage : office.members member = .looking)
    (isFree : office.holder = none) (seen : sees office.surroundings member = some true) :
    Leads sees office member (Working member) := by
  refine .step (.look member) rfl (leads_of_eligible ?_ isFree seen)
  simp [Office.step, move, isStage, afterLook, seen]

private theorem leads_of_sleeping (isStage : office.members member = .sleeping)
    (isFree : office.holder = none) (seen : sees office.surroundings member = some true) :
    Leads sees office member (Working member) := by
  refine .step (.wake member) rfl (leads_of_looking ?_ isFree seen)
  simp [Office.step, move, isStage, afterOwn]

private theorem leads_of_stopping {work : LeasedWork}
    (isStage : office.members member = .stopping work false)
    (seen : sees office.surroundings member = some true) :
    Leads sees office member (Working member) := by
  refine .step (.finish member) rfl (.step (.release member) rfl (leads_of_sleeping ?_ ?_ ?_))
  · simp [Office.step, release, move, isStage, afterFinish]
  · simp [Office.step, release, move, isStage, afterFinish]
  · simpa [Office.step, release, move, isStage, afterFinish] using seen

/-- A member that stays gets to work when it is its turn and no other member holds the lease. -/
theorem leads_to_work (sound : office.Sound) (stays : (office.members member).stays = true)
    (seen : sees office.surroundings member = some true)
    (alone : ∀ other, office.holder = some other → other = member) :
    Leads sees office member (Working member) := by
  have isFree : (office.members member).holds = false → office.holder = none := by
    intro away
    cases isHolder : office.holder with
    | none => rfl
    | some other =>
        have holds := (sound other).mp isHolder
        rw [alone other isHolder, away] at holds
        cases holds
  cases isStage : office.members member with
  | gone =>
      rw [isStage] at stays
      cases stays
  | looking => exact leads_of_looking isStage (isFree (by rw [isStage]; rfl)) seen
  | eligible => exact leads_of_eligible isStage (isFree (by rw [isStage]; rfl)) seen
  | appointed => exact leads_of_appointed isStage seen
  | sleeping => exact leads_of_sleeping isStage (isFree (by rw [isStage]; rfl)) seen
  | waiting work =>
      cases work with
      | pending => exact leads_of_pending isStage
      | running => exact .here (by rw [Working, isStage]; rfl)
      | finished =>
          have collected : (office.step sees (.collect member)).members member =
              .stopping .finished false := by
            simp [Office.step, move, isStage, afterOwn]
          exact .step (.collect member) rfl (leads_of_stopping collected seen)
  | stopping work leaving =>
      cases leaving with
      | false => exact leads_of_stopping isStage seen
      | true =>
          rw [isStage] at stays
          cases stays

/-- The lease is free, and the other members and the surroundings are as they were. -/
structure Vacated (office : Office E) (member : Nat) (next : Office E) : Prop where
  free : next.holder = none
  surroundings : next.surroundings = office.surroundings
  others : ∀ other, other ≠ member → next.members other = office.members other

private theorem Vacated.of_step {middle next : Office E} (vacated : Vacated middle member next)
    {stage : MemberStage} (moved : middle = office.move member stage) :
    Vacated office member next := by
  subst moved
  refine ⟨vacated.free, vacated.surroundings, fun other differs => ?_⟩
  rw [vacated.others other differs]
  exact Function.update_of_ne differs ..

private theorem leads_to_release {leaving : Bool}
    (isStage : office.members member = .stopping .finished leaving) :
    Leads sees office member (Vacated office member) := by
  refine .step (.release member) rfl (.here ?_)
  simp only [Office.step, release, isStage]
  exact ⟨rfl, rfl, fun other differs => Function.update_of_ne differs ..⟩

/-- Steps that only move the member come before what vacates the lease. -/
theorem Leads.of_move {stage : MemberStage} (turn : OfficeTurn E) (own : turn.member? = some member)
    (moved : office.step sees turn = office.move member stage)
    (later : Leads sees (office.move member stage) member
      (Vacated (office.move member stage) member)) :
    Leads sees office member (Vacated office member) := by
  obtain ⟨turns, owns, vacated⟩ := later
  refine .step turn own ?_
  rw [moved]
  exact ⟨turns, owns, vacated.of_step rfl⟩

private theorem leads_to_finish {work : LeasedWork} {leaving : Bool}
    (isStage : office.members member = .stopping work leaving) :
    Leads sees office member (Vacated office member) := by
  have finished : office.step sees (.finish member) =
      office.move member (.stopping .finished leaving) := by
    rw [Office.step, isStage, afterFinish]
  exact .of_move (.finish member) rfl finished (leads_to_release (Function.update_self ..))

/-- A member that holds the lease gives it back when it is not its turn any more. -/
theorem leads_to_vacancy (sound : office.Sound) (isHolder : office.holder = some member)
    (unseen : sees office.surroundings member ≠ some true) :
    Leads sees office member (Vacated office member) := by
  have holds := (sound member).mp isHolder
  have looks : ∀ {work : LeasedWork}, afterLook (sees office.surroundings member)
      (office.members member) = .stopping work false →
        Leads sees office member (Vacated office member) := by
    intro work looked
    have moved : office.step sees (.look member) = office.move member (.stopping work false) := by
      rw [Office.step, looked]
    exact .of_move (.look member) rfl moved (leads_to_finish (Function.update_self ..))
  cases isStage : office.members member with
  | appointed =>
      have looked : afterLook (sees office.surroundings member) (office.members member) =
          .stopping .pending false := by
        rw [isStage, afterLook, if_neg unseen]
      exact looks looked
  | stopping work leaving => exact leads_to_finish isStage
  | waiting work =>
      cases work with
      | finished =>
          have collected : office.step sees (.collect member) =
              office.move member (.stopping .finished false) := by
            simp only [Office.step, isStage, afterOwn]
          exact .of_move (.collect member) rfl collected (leads_to_release (Function.update_self ..))
      | pending =>
          have looked : afterLook (sees office.surroundings member) (office.members member) =
              .stopping .pending false := by
            simp [isStage, afterLook, unseen]
          exact looks looked
      | running =>
          have looked : afterLook (sees office.surroundings member) (office.members member) =
              .stopping .running false := by
            simp [isStage, afterLook, unseen]
          exact looks looked
  | _ =>
      rw [isStage] at holds
      cases holds

theorem run_append (turns later : List (OfficeTurn E)) :
    office.run sees (turns ++ later) = (office.run sees turns).run sees later :=
  List.foldl_append

/-- **Handover.** Whatever state the members are in, one that stays gets to work by its own steps
and those of the holder when it is its turn and no longer that of another holder. -/
theorem handover (sound : office.Sound) (stays : (office.members member).stays = true)
    (seen : sees office.surroundings member = some true)
    (yields : ∀ other, office.holder = some other → other ≠ member →
      sees office.surroundings other ≠ some true) :
    ∃ turns : List (OfficeTurn E), (∀ turn ∈ turns, ∃ number, turn.member? = some number ∧
        (number = member ∨ office.holder = some number)) ∧
      Working member (office.run sees turns) := by
  by_cases alone : ∀ other, office.holder = some other → other = member
  · obtain ⟨turns, owns, working⟩ := leads_to_work sound stays seen alone
    exact ⟨turns, fun turn listed => ⟨member, owns turn listed, .inl rfl⟩, working⟩
  · push Not at alone
    obtain ⟨other, isHolder, differs⟩ := alone
    obtain ⟨turns, owns, vacated⟩ :=
      leads_to_vacancy sound isHolder (yields other isHolder differs)
    have afterwards : (office.run sees turns).Sound := sound.run turns
    obtain ⟨later, laterOwns, working⟩ := leads_to_work afterwards
      (by rw [vacated.others member differs.symm]; exact stays)
      (by rw [vacated.surroundings]; exact seen)
      (fun holder isLater => by rw [vacated.free] at isLater; cases isLater)
    refine ⟨turns ++ later, fun turn listed => ?_, by rwa [run_append]⟩
    obtain first | second := List.mem_append.mp listed
    · exact ⟨other, owns turn first, .inr isHolder⟩
    · exact ⟨member, laterOwns turn second, .inl rfl⟩

end Progress

end Office

end Foundation
