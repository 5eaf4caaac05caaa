import Mathlib.Data.List.Chain
import TraefikManager.Auth.Lockout

/-!
# The lock of a user over a sequence of attempts

The rules of the lock are stated on a history of attempts: a failure that completes a run of
failures locks the user for a while, and an attempt during the lock is refused. The methods
of the entity keep a counter, the time of the last failure and the end of the lock instead.
The counters stand for a history, and each attempt changes both alike.
-/

namespace TraefikManager.Auth

open Foundation Foundation.Program

/-- The settings of the lock, as `AuthUseCases.__init__` takes them; the two spans are in
microseconds. -/
structure LockPolicy where
  maxFailedAttempts : Int
  failureWindow : Int
  lockoutDuration : Int
  attempts_pos : 1 ≤ maxFailedAttempts
  window_nonneg : 0 ≤ failureWindow
  duration_pos : 0 < lockoutDuration

/-- The policy a deployment configures. -/
def LockPolicy.ofSettings (settings : LoginSettings) : LockPolicy where
  maxFailedAttempts := max 1 settings.loginMaxFailedAttempts
  failureWindow := Timedelta.minutes (max 1 settings.loginFailureWindowMinutes)
  lockoutDuration := Timedelta.minutes (max 1 settings.loginLockoutMinutes)
  attempts_pos := le_max_left _ _
  window_nonneg := Int.mul_nonneg (Int.le_trans (by decide) (Int.le_max_left 1 _)) (by decide)
  duration_pos := Int.mul_pos (Int.lt_of_lt_of_le (by decide) (Int.le_max_left 1 _)) (by decide)

/-- A login attempt on an active user: the reading of the clock, and whether the password
is the user's. -/
structure LoginAttempt where
  time : Int
  correct : Bool
  deriving DecidableEq, Repr

/-- How an attempt ends. -/
inductive AttemptOutcome where
  | refused
  | failed
  | succeeded
  deriving DecidableEq, Repr

section Rules

/-- An attempt of a history, as the rules judge it: how it ends, and whether it locks. -/
structure JudgedAttempt where
  time : Int
  outcome : AttemptOutcome
  locks : Prop

/-- A failure that does not lock; a run consists of such failures. -/
def JudgedAttempt.Counted (attempt : JudgedAttempt) : Prop :=
  attempt.outcome = .failed ∧ ¬attempt.locks

variable (policy : LockPolicy)

/-- No two neighbours of a run, newest first, are further apart than the window. -/
def Spaced (run : List JudgedAttempt) : Prop :=
  run.IsChain fun later earlier => later.time - earlier.time ≤ policy.failureWindow

/-- The user is locked at a time, after a history. -/
def LockedAfter (history : List JudgedAttempt) (time : Int) : Prop :=
  ∃ failure ∈ history, failure.locks ∧ time < failure.time + policy.lockoutDuration

/-- A failure at `time` is the last one of a full run: together with the failures right
before it, none of which locked, it makes `maxFailedAttempts`. A success, a refusal or the
failure of an expired lock ends the run. -/
def CompletesRun (history : List JudgedAttempt) (time : Int) : Prop :=
  ∃ run rest, history = run ++ rest ∧ (∀ failure ∈ run, failure.Counted) ∧
    Spaced policy (⟨time, .failed, False⟩ :: run) ∧
    (run.length : Int) + 1 = policy.maxFailedAttempts

open Classical in
/-- An attempt after a history, by the rules. -/
noncomputable def judge (history : List JudgedAttempt) (attempt : LoginAttempt) : JudgedAttempt :=
  if LockedAfter policy history attempt.time then ⟨attempt.time, .refused, False⟩
  else if attempt.correct then ⟨attempt.time, .succeeded, False⟩
  else ⟨attempt.time, .failed, CompletesRun policy history attempt.time⟩

/-- A history, newest first, continued by attempts, oldest first. -/
noncomputable def judgeAll (history : List JudgedAttempt) :
    List LoginAttempt → List JudgedAttempt
  | [] => history
  | attempt :: later => judgeAll (judge policy history attempt :: history) later

/-- How attempts after a history end, by the rules. -/
noncomputable def outcomes (history : List JudgedAttempt) :
    List LoginAttempt → List AttemptOutcome
  | [] => []
  | attempt :: later =>
      (judge policy history attempt).outcome :: outcomes (judge policy history attempt :: history) later

end Rules

section Entity

variable (policy : LockPolicy)

/-- One attempt on the entity, with its methods called as `authenticate_user` calls them. -/
def User.attemptLogin (user : User) (attempt : LoginAttempt) :
    Except PyException (User × AttemptOutcome) := do
  let (user, _) ← user.clearExpiredLoginLock (.utc attempt.time)
  if ← user.isLoginLocked (.utc attempt.time) then
    pure (user, .refused)
  else if attempt.correct then
    if user.failedLoginAttempts ≠ 0 ∨ user.lastFailedLoginAt ≠ none ∨ user.lockedUntil ≠ none then
      pure (user.registerLoginSuccess, .succeeded)
    else
      pure (user, .succeeded)
  else
    let user ← user.registerLoginFailure policy.maxFailedAttempts policy.failureWindow
      policy.lockoutDuration (.utc attempt.time)
    pure (user, .failed)

/-- A sequence of attempts on the entity, with the outcome of each, the first one first. -/
def User.attemptLogins (user : User) :
    List LoginAttempt → Except PyException (User × List AttemptOutcome)
  | [] => pure (user, [])
  | attempt :: later => do
      let (user, outcome) ← user.attemptLogin policy attempt
      let (user, outcomes) ← user.attemptLogins later
      pure (user, outcome :: outcomes)

/-- The counters can be compared with the clock and counted on: the stamp that decides has its
time zone, and a count that goes on is not negative. -/
def User.SoundCounters (user : User) : Prop :=
  match user.lockedUntil, user.lastFailedLoginAt with
  | some moment, _ => moment.aware = true
  | none, some last => last.aware = true ∧ 0 ≤ user.failedLoginAttempts
  | none, none => True

/-- The attempts that the counters of an entity stand for. -/
def User.pastAttempts (user : User) : List JudgedAttempt :=
  match user.lockedUntil, user.lastFailedLoginAt with
  | some moment, _ => [⟨moment.micros - policy.lockoutDuration, .failed, True⟩]
  | none, some last =>
      List.replicate user.failedLoginAttempts.toNat ⟨last.micros, .failed, False⟩
  | none, none => []

end Entity

section Counters

variable {policy : LockPolicy}

/-- A run is not continued by what stands before it. -/
def RunEnds (policy : LockPolicy) (run rest : List JudgedAttempt) : Prop :=
  ∀ earlier ∈ rest.head?, earlier.Counted →
    ∃ first ∈ run.getLast?, policy.failureWindow < first.time - earlier.time

/-- The counter and the last stamp of a user without a lock stand for the run that a history
ends with. -/
def CountsRun (policy : LockPolicy) (user : User) (history : List JudgedAttempt) : Prop :=
  ∃ run rest, history = run ++ rest ∧ (∀ failure ∈ run, failure.Counted) ∧ Spaced policy run ∧
    RunEnds policy run rest ∧
    match user.lastFailedLoginAt with
    | none => run = []
    | some last => user.failedLoginAttempts = run.length ∧ last.aware = true ∧
        ∀ latest ∈ run.head?, latest.time = last.micros

/-- The end of the lock of a user is that of the latest failure that locked, and everything
since then was refused. -/
def HoldsLock (policy : LockPolicy) (lockedUntil : Datetime) (history : List JudgedAttempt) :
    Prop :=
  lockedUntil.aware = true ∧ ∃ refused failure rest, history = refused ++ failure :: rest ∧
    (∀ attempt ∈ refused, attempt.outcome = .refused ∧ ¬attempt.locks) ∧ failure.locks ∧
    lockedUntil.micros = failure.time + policy.lockoutDuration ∧
    ∀ earlier ∈ rest, earlier.locks →
      earlier.time + policy.lockoutDuration ≤ lockedUntil.micros

/-- The counters of an entity stand for a history, as seen from the time `now` on. -/
def Stands (policy : LockPolicy) (user : User) (history : List JudgedAttempt) (now : Int) : Prop :=
  match user.lockedUntil with
  | some moment => HoldsLock policy moment history
  | none => (∀ failure ∈ history, failure.locks →
      failure.time + policy.lockoutDuration ≤ now) ∧ CountsRun policy user history

/-- Every run a history ends with is part of the longest one. -/
theorem length_le_of_runEnds {run rest shorter others : List JudgedAttempt}
    (ends : RunEnds policy run rest) (split : run ++ rest = shorter ++ others)
    (counted : ∀ failure ∈ shorter, failure.Counted) (spaced : Spaced policy shorter) :
    shorter.length ≤ run.length := by
  rcases List.append_eq_append_iff.mp split with ⟨more, isShorter, isRest⟩ | ⟨more, isRun, -⟩
  · cases more with
    | nil => simp [isShorter]
    | cons earlier more =>
        -- the run would have to go on with `earlier`, which stands right before it
        have isCounted := counted earlier (by simp [isShorter])
        obtain ⟨first, isFirst, apart⟩ := ends earlier (by simp [isRest]) isCounted
        rw [isShorter] at spaced
        have near : first.time - earlier.time ≤ policy.failureWindow :=
          (List.isChain_append.mp spaced).2.2 first isFirst earlier (by simp)
        omega
  · simp [isRun]

/-- A failure completes a run exactly when the counter, with it, reaches the maximum. -/
theorem completesRun_iff {run rest : List JudgedAttempt} {time : Int}
    (counted : ∀ failure ∈ run, failure.Counted)
    (spaced : Spaced policy (⟨time, .failed, False⟩ :: run))
    (ends : RunEnds policy (⟨time, .failed, False⟩ :: run) rest) :
    CompletesRun policy (run ++ rest) time ↔
      policy.maxFailedAttempts ≤ (run.length : Int) + 1 := by
  constructor
  · rintro ⟨shorter, others, split, allCounted, isSpaced, full⟩
    have same : (⟨time, .failed, False⟩ :: run) ++ rest =
        (⟨time, .failed, False⟩ :: shorter) ++ others := by simp [split]
    have bound := length_le_of_runEnds ends same (by
      intro failure member
      rcases List.mem_cons.mp member with rfl | member
      · exact ⟨rfl, id⟩
      · exact allCounted failure member) isSpaced
    simp only [List.length_cons] at bound
    omega
  · intro reached
    have positive := policy.attempts_pos
    let count := (policy.maxFailedAttempts - 1).toNat
    have isCount : (count : Int) = policy.maxFailedAttempts - 1 := by omega
    refine ⟨run.take count, run.drop count ++ rest, ?_, ?_, ?_, ?_⟩
    · rw [← List.append_assoc, List.take_append_drop]
    · exact fun failure member => counted failure (List.mem_of_mem_take member)
    · have isPrefix := spaced
      rw [← List.take_append_drop count run, ← List.cons_append] at isPrefix
      exact List.IsChain.left_of_append isPrefix
    · rw [List.length_take]
      omega

private theorem not_lockedAfter {history : List JudgedAttempt} {time : Int}
    (past : ∀ failure ∈ history, failure.locks → failure.time + policy.lockoutDuration ≤ time) :
    ¬LockedAfter policy history time := by
  rintro ⟨failure, member, locks, inForce⟩
  have := past failure member locks
  omega

/-- While a lock is held, the rules and the stored end of the lock agree. -/
theorem lockedAfter_iff {moment : Datetime} {history : List JudgedAttempt}
    (held : HoldsLock policy moment history) (time : Int) :
    LockedAfter policy history time ↔ time < moment.micros := by
  obtain ⟨-, refused, failure, rest, rfl, allRefused, locks, isEnd, earlierEnds⟩ := held
  constructor
  · rintro ⟨other, member, otherLocks, inForce⟩
    rcases List.mem_append.mp member with isRefused | member
    · exact absurd otherLocks (allRefused other isRefused).2
    · rcases List.mem_cons.mp member with rfl | isEarlier
      · omega
      · have := earlierEnds other isEarlier otherLocks
        omega
  · intro inForce
    exact ⟨failure, by simp, locks, by omega⟩

end Counters

section Steps

variable {policy : LockPolicy} {user : User} {history : List JudgedAttempt}

/-- The counters of an entity stand for the attempts they were taken to stand for. -/
theorem stands_pastAttempts (sound : user.SoundCounters) (now : Int) :
    Stands policy user (user.pastAttempts policy) now := by
  unfold User.SoundCounters at sound
  unfold Stands User.pastAttempts
  cases locked : user.lockedUntil with
  | some moment =>
      rw [locked] at sound
      refine ⟨sound, [], _, [], rfl, by simp, trivial, ?_, by simp⟩
      simp
  | none =>
      cases stamped : user.lastFailedLoginAt with
      | none => exact ⟨by simp, [], [], rfl, by simp, .nil, by simp [RunEnds], by simp [stamped]⟩
      | some last =>
          rw [locked, stamped] at sound
          obtain ⟨aware, counter⟩ := sound
          refine ⟨?_, _, [], (List.append_nil _).symm, ?_, ?_, by simp [RunEnds], ?_⟩
          · intro failure member locks
            rw [List.eq_of_mem_replicate member] at locks
            exact locks.elim
          · intro failure member
            rw [List.eq_of_mem_replicate member]
            exact ⟨rfl, id⟩
          · refine List.isChain_replicate_of_rel _ ?_
            simpa using policy.window_nonneg
          · rw [stamped]
            refine ⟨by simp [counter], aware, ?_⟩
            intro latest isLatest
            rw [List.eq_of_mem_replicate (List.mem_of_mem_head? isLatest)]

/-- A user whose counters are cleared stands for a history that no run ends. -/
theorem countsRun_cleared (unlastsed : user.lastFailedLoginAt = none)
    (ends : RunEnds policy [] history) : CountsRun policy user history :=
  ⟨[], history, rfl, by simp, .nil, ends, by simp [unlastsed]⟩

/-- What the first two calls of an attempt find out: the lock is in force and nothing
changes, or there is no lock and the counters stand for the last run. -/
theorem clearExpiredLoginLock_cases {now time : Int} (stands : Stands policy user history now)
    (later : now ≤ time) :
    (LockedAfter policy history time ∧
      user.clearExpiredLoginLock (.utc time) = .ok (user, false) ∧
      user.isLoginLocked (.utc time) = .ok true) ∨
    ∃ cleared changed, user.clearExpiredLoginLock (.utc time) = .ok (cleared, changed) ∧
      cleared.lockedUntil = none ∧ CountsRun policy cleared history ∧
      ∀ failure ∈ history, failure.locks → failure.time + policy.lockoutDuration ≤ time := by
  unfold Stands at stands
  unfold User.clearExpiredLoginLock User.isLoginLocked
  cases locked : user.lockedUntil with
  | none =>
      rw [locked] at stands
      obtain ⟨past, counts⟩ := stands
      refine .inr ⟨user, false, rfl, locked, counts, ?_⟩
      exact fun failure member locks => (past failure member locks).trans later
  | some moment =>
      rw [locked] at stands
      have agrees := lockedAfter_iff stands time
      have compared := Datetime.isAfter_utc stands.1 time
      by_cases inForce : time < moment.micros
      · refine .inl ⟨agrees.mpr inForce, ?_, ?_⟩
        · simp [compared, inForce, bind, Except.bind, pure, Except.pure]
        · simp [compared, inForce]
      · refine .inr ⟨{ user with failedLoginAttempts := 0, lastFailedLoginAt := none,
                                 lockedUntil := none }, true, ?_, rfl, ?_, ?_⟩
        · simp [compared, inForce, bind, Except.bind, pure, Except.pure]
        · refine countsRun_cleared rfl ?_
          obtain ⟨-, refused, failure, rest, rfl, allRefused, locks, -⟩ := stands
          intro first isFirst counted
          -- what the history begins with was refused or locked, so no run begins there
          cases refused with
          | nil =>
              obtain rfl : failure = first := by simpa using isFirst
              exact absurd locks counted.2
          | cons attempt refused =>
              obtain rfl : attempt = first := by simpa using isFirst
              have isRefused := (allRefused attempt (by simp)).1
              rw [counted.1] at isRefused
              cases isRefused
        · intro failure member locks
          by_contra early
          exact inForce (agrees.mp ⟨failure, member, locks, by omega⟩)

/-- A user without a lock after the `count`-th failure of a run. -/
def User.failedAt (policy : LockPolicy) (user : User) (time count : Int) : User :=
  { user with
    failedLoginAttempts := count
    lastFailedLoginAt := some (.utc time)
    lockedUntil := if policy.maxFailedAttempts ≤ count then
      some (.utc (time + policy.lockoutDuration)) else none }

private theorem clearExpiredLoginLock_none (unlocked : user.lockedUntil = none)
    (moment : Datetime) : user.clearExpiredLoginLock moment = .ok (user, false) := by
  simp [User.clearExpiredLoginLock, unlocked, pure, Except.pure]

private theorem registerLoginFailure_first {time : Int} (unlocked : user.lockedUntil = none)
    (apart : ∀ last ∈ user.lastFailedLoginAt,
      last.aware = true ∧ policy.failureWindow < time - last.micros) :
    user.registerLoginFailure policy.maxFailedAttempts policy.failureWindow
      policy.lockoutDuration (.utc time) = .ok (user.failedAt policy time 1) := by
  unfold User.registerLoginFailure User.failedAt
  rw [clearExpiredLoginLock_none unlocked]
  cases stamped : user.lastFailedLoginAt with
  | none => simp [bind, Except.bind, pure, Except.pure, Datetime.add, Datetime.utc, unlocked, stamped]
  | some last =>
      obtain ⟨aware, far⟩ := apart last stamped
      have passed := Datetime.since_utc aware time
      simp only [bind, Except.bind, pure, Except.pure, stamped, passed, far, decide_true, if_true,
        unlocked]
      rfl

private theorem registerLoginFailure_next {time : Int} {last : Datetime}
    (unlocked : user.lockedUntil = none) (stamped : user.lastFailedLoginAt = some last)
    (aware : last.aware = true) (near : time - last.micros ≤ policy.failureWindow) :
    user.registerLoginFailure policy.maxFailedAttempts policy.failureWindow
      policy.lockoutDuration (.utc time) =
        .ok (user.failedAt policy time (user.failedLoginAttempts + 1)) := by
  unfold User.registerLoginFailure User.failedAt
  rw [clearExpiredLoginLock_none unlocked]
  have passed := Datetime.since_utc aware time
  have isNear : ¬policy.failureWindow < time - last.micros := by omega
  simp only [bind, Except.bind, pure, Except.pure, stamped, passed, isNear, decide_false,
    Bool.false_eq_true, if_false, unlocked]
  rfl

/-- A counted failure adds to the last run or begins a new one. -/
theorem registerLoginFailure_run (unlocked : user.lockedUntil = none)
    (counts : CountsRun policy user history) (time : Int) :
    ∃ run rest, history = run ++ rest ∧ (∀ failure ∈ run, failure.Counted) ∧
      Spaced policy (⟨time, .failed, False⟩ :: run) ∧
      RunEnds policy (⟨time, .failed, False⟩ :: run) rest ∧
      user.registerLoginFailure policy.maxFailedAttempts policy.failureWindow
        policy.lockoutDuration (.utc time) = .ok (user.failedAt policy time (run.length + 1)) := by
  obtain ⟨run, rest, rfl, counted, spaced, ends, stamp⟩ := counts
  cases stamped : user.lastFailedLoginAt with
  | none =>
      rw [stamped] at stamp
      subst stamp
      refine ⟨[], rest, rfl, by simp, List.isChain_singleton _, ?_, ?_⟩
      · intro earlier isEarlier isCounted
        obtain ⟨first, isFirst, -⟩ := ends earlier isEarlier isCounted
        cases isFirst
      · exact registerLoginFailure_first unlocked (by simp [stamped])
  | some last =>
      rw [stamped] at stamp
      obtain ⟨isCount, aware, isLatest⟩ := stamp
      by_cases apart : policy.failureWindow < time - last.micros
      · refine ⟨[], run ++ rest, rfl, by simp, List.isChain_singleton _, ?_, ?_⟩
        · intro earlier isEarlier isCounted
          refine ⟨⟨time, .failed, False⟩, rfl, ?_⟩
          cases run with
          | nil =>
              obtain ⟨first, isFirst, -⟩ := ends earlier isEarlier isCounted
              cases isFirst
          | cons latest run =>
              obtain rfl : latest = earlier := by simpa using isEarlier
              rw [isLatest latest rfl]
              exact apart
        · refine registerLoginFailure_first unlocked ?_
          intro moment isMoment
          obtain rfl : last = moment := by simpa [stamped] using isMoment
          exact ⟨aware, apart⟩
      · refine ⟨run, rest, rfl, counted, ?_, ?_, ?_⟩
        · cases run with
          | nil => exact List.isChain_singleton _
          | cons latest run =>
              refine List.isChain_cons_cons.mpr ⟨?_, spaced⟩
              rw [isLatest latest rfl]
              exact Int.not_lt.mp apart
        · intro earlier isEarlier isCounted
          obtain ⟨first, isFirst, far⟩ := ends earlier isEarlier isCounted
          refine ⟨first, ?_, far⟩
          cases run with
          | nil => cases isFirst
          | cons latest run => simpa using isFirst
        · rw [← isCount]
          exact registerLoginFailure_next unlocked stamped aware (Int.not_lt.mp apart)

/-- After a counted failure the counters stand for the history with that failure. -/
theorem stands_failedAt {run rest : List JudgedAttempt} {time : Int}
    (counted : ∀ failure ∈ run, failure.Counted)
    (spaced : Spaced policy (⟨time, .failed, False⟩ :: run))
    (ends : RunEnds policy (⟨time, .failed, False⟩ :: run) rest)
    (past : ∀ failure ∈ run ++ rest, failure.locks →
      failure.time + policy.lockoutDuration ≤ time) :
    Stands policy (user.failedAt policy time (run.length + 1))
      (⟨time, .failed, CompletesRun policy (run ++ rest) time⟩ :: (run ++ rest)) time := by
  have full := completesRun_iff counted spaced ends
  unfold Stands User.failedAt
  by_cases reached : policy.maxFailedAttempts ≤ (run.length : Int) + 1
  · simp only [if_pos reached]
    refine ⟨rfl, [], _, _, rfl, by simp, full.mpr reached, rfl, ?_⟩
    intro earlier member locks
    have ended := past earlier member locks
    have duration := policy.duration_pos
    rw [Datetime.micros_utc]
    omega
  · simp only [if_neg reached]
    have unfinished : ¬CompletesRun policy (run ++ rest) time := fun done => reached (full.mp done)
    refine ⟨?_, _ :: run, rest, rfl, ?_, ?_, ?_, by simp⟩
    · intro failure member locks
      rcases List.mem_cons.mp member with rfl | member
      · exact absurd locks unfinished
      · exact past failure member locks
    · intro failure member
      rcases List.mem_cons.mp member with rfl | member
      · exact ⟨rfl, unfinished⟩
      · exact counted failure member
    · cases run with
      | nil => exact List.isChain_singleton _
      | cons latest run => exact List.isChain_cons_cons.mpr (List.isChain_cons_cons.mp spaced)
    · intro earlier isEarlier isCounted
      obtain ⟨first, isFirst, far⟩ := ends earlier isEarlier isCounted
      cases run with
      | nil =>
          obtain rfl : (⟨time, .failed, False⟩ : JudgedAttempt) = first := by simpa using isFirst
          exact ⟨_, rfl, far⟩
      | cons latest run => exact ⟨first, by simpa using isFirst, far⟩

theorem Stands.mono {now later : Int} (stands : Stands policy user history now)
    (passed : now ≤ later) : Stands policy user history later := by
  unfold Stands at stands ⊢
  cases locked : user.lockedUntil with
  | some moment =>
      rw [locked] at stands
      exact stands
  | none =>
      rw [locked] at stands
      exact ⟨fun failure member locks => (stands.1 failure member locks).trans passed, stands.2⟩

/-- The lock that the entity reports is the one the rules know of. -/
theorem Stands.isLoginLocked {now : Int} (stands : Stands policy user history now) :
    ∃ locked, user.isLoginLocked (.utc now) = .ok locked ∧
      (locked = true ↔ LockedAfter policy history now) := by
  unfold Stands at stands
  unfold User.isLoginLocked
  cases stored : user.lockedUntil with
  | none =>
      rw [stored] at stands
      exact ⟨false, rfl, by simpa using not_lockedAfter stands.1⟩
  | some moment =>
      rw [stored] at stands
      refine ⟨_, Datetime.isAfter_utc stands.1 now, ?_⟩
      rw [decide_eq_true_iff]
      exact (lockedAfter_iff stands now).symm

/-- A user with cleared counters stands for a history that ends with a success. -/
theorem stands_cleared {time : Int} (unlocked : user.lockedUntil = none)
    (unstamped : user.lastFailedLoginAt = none)
    (past : ∀ failure ∈ history, failure.locks → failure.time + policy.lockoutDuration ≤ time) :
    Stands policy user (⟨time, .succeeded, False⟩ :: history) time := by
  unfold Stands
  rw [unlocked]
  refine ⟨?_, countsRun_cleared unstamped ?_⟩
  · intro failure member locks
    rcases List.mem_cons.mp member with rfl | member
    · exact locks.elim
    · exact past failure member locks
  · intro success isFirst counted
    obtain rfl : (⟨time, .succeeded, False⟩ : JudgedAttempt) = success := by simpa using isFirst
    cases counted.1

/-- A refused attempt leaves the end of the lock where it was. -/
theorem Stands.refused {now time : Int} (stands : Stands policy user history now)
    (locked : LockedAfter policy history time) (later : now ≤ time) :
    Stands policy user (⟨time, .refused, False⟩ :: history) time := by
  unfold Stands at stands ⊢
  cases stored : user.lockedUntil with
  | none =>
      rw [stored] at stands
      refine absurd locked (not_lockedAfter fun failure member locks => ?_)
      exact (stands.1 failure member locks).trans later
  | some moment =>
      rw [stored] at stands
      obtain ⟨aware, refused, failure, rest, rfl, allRefused, lock⟩ := stands
      refine ⟨aware, ⟨time, .refused, False⟩ :: refused, failure, rest, rfl, ?_, lock⟩
      intro attempt member
      rcases List.mem_cons.mp member with rfl | member
      · exact ⟨rfl, id⟩
      · exact allRefused attempt member

private theorem judge_refused {attempt : LoginAttempt}
    (locked : LockedAfter policy history attempt.time) :
    judge policy history attempt = ⟨attempt.time, .refused, False⟩ := by
  simp [judge, locked]

private theorem judge_unlocked {attempt : LoginAttempt}
    (unlocked : ¬LockedAfter policy history attempt.time) :
    judge policy history attempt =
      if attempt.correct then ⟨attempt.time, .succeeded, False⟩
      else ⟨attempt.time, .failed, CompletesRun policy history attempt.time⟩ := by
  simp [judge, unlocked]

/-- What a success leaves of the counters. -/
def User.Cleared (user : User) : Prop :=
  user.failedLoginAttempts = 0 ∧ user.lastFailedLoginAt = none ∧ user.lockedUntil = none

/-- An attempt on the entity ends as the rules say, and the counters go on standing for the
history. A refusal changes nothing; a success clears the counters. -/
theorem Stands.attemptLogin {now : Int} (stands : Stands policy user history now)
    (attempt : LoginAttempt) (later : now ≤ attempt.time) :
    ∃ next, user.attemptLogin policy attempt =
        .ok (next, (judge policy history attempt).outcome) ∧
      Stands policy next (judge policy history attempt :: history) attempt.time ∧
      ((judge policy history attempt).outcome = .refused → next = user) ∧
      ((judge policy history attempt).outcome = .succeeded → next.Cleared) := by
  unfold User.attemptLogin
  rcases clearExpiredLoginLock_cases stands later with
    ⟨locked, kept, isLocked⟩ | ⟨cleared, changed, isCleared, unlocked, counts, past⟩
  · rw [judge_refused locked, kept]
    refine ⟨user, ?_, stands.refused locked later, fun _ => rfl, (fun other => by cases other)⟩
    simp [bind, Except.bind, pure, Except.pure, isLocked]
  · rw [judge_unlocked (not_lockedAfter past), isCleared]
    have notLocked : cleared.isLoginLocked (.utc attempt.time) = .ok false := by
      simp [User.isLoginLocked, unlocked]
    simp only [bind, Except.bind, pure, Except.pure, notLocked, Bool.false_eq_true, if_false]
    by_cases correct : attempt.correct = true
    · simp only [correct, if_true]
      by_cases dirty : cleared.failedLoginAttempts ≠ 0 ∨ cleared.lastFailedLoginAt ≠ none ∨
          cleared.lockedUntil ≠ none
      · simp only [if_pos dirty]
        exact ⟨_, rfl, stands_cleared rfl rfl past, (fun other => by cases other),
          fun _ => ⟨rfl, rfl, rfl⟩⟩
      · simp only [if_neg dirty]
        simp only [not_or, not_not] at dirty
        exact ⟨_, rfl, stands_cleared unlocked dirty.2.1 past, (fun other => by cases other),
          fun _ => dirty⟩
    · simp only [correct, Bool.false_eq_true, if_false]
      obtain ⟨run, rest, rfl, counted, spaced, ends, registered⟩ :=
        registerLoginFailure_run unlocked counts attempt.time
      rw [registered]
      exact ⟨_, rfl, stands_failedAt counted spaced ends past, (fun other => by cases other),
        (fun other => by cases other)⟩

end Steps

section Runs

variable {policy : LockPolicy}

/-- A sequence of attempts ends as the rules say, one after the other. -/
theorem Stands.attemptLogins {attempts : List LoginAttempt} {user : User}
    {history : List JudgedAttempt} {now : Int} (stands : Stands policy user history now)
    (ordered : (now :: attempts.map LoginAttempt.time).Pairwise (· ≤ ·)) :
    ∃ final, user.attemptLogins policy attempts = .ok (final, outcomes policy history attempts) ∧
      ∀ time, now ≤ time → (∀ attempt ∈ attempts, attempt.time ≤ time) →
        Stands policy final (judgeAll policy history attempts) time := by
  induction attempts generalizing user history now with
  | nil => exact ⟨user, rfl, fun time passed _ => stands.mono passed⟩
  | cons attempt later ih =>
      rw [List.map_cons, List.pairwise_cons] at ordered
      obtain ⟨next, attempted, nextStands, -⟩ :=
        stands.attemptLogin attempt (ordered.1 attempt.time (by simp))
      obtain ⟨final, rest, finalStands⟩ := ih nextStands ordered.2
      refine ⟨final, ?_, ?_⟩
      · simp [User.attemptLogins, attempted, rest, outcomes, bind, Except.bind, pure, Except.pure]
      · intro time _ passed
        exact finalStands time (passed attempt (by simp))
          fun other member => passed other (List.mem_cons_of_mem _ member)

/-- The attempts a user's counters stand for, continued by further ones. -/
theorem stands_attemptLogins (policy : LockPolicy) {user : User} (sound : user.SoundCounters)
    {attempts : List LoginAttempt}
    (ordered : (attempts.map LoginAttempt.time).Pairwise (· ≤ ·)) :
    ∃ final, user.attemptLogins policy attempts =
        .ok (final, outcomes policy (user.pastAttempts policy) attempts) ∧
      ∀ time, (∀ attempt ∈ attempts, attempt.time ≤ time) →
        Stands policy final (judgeAll policy (user.pastAttempts policy) attempts) time := by
  cases attempts with
  | nil => exact ⟨user, rfl, fun time _ => stands_pastAttempts sound time⟩
  | cons first later =>
      -- the counters stand for the past at any time, so also when the first attempt comes
      have fromFirst : (first.time :: (first :: later).map LoginAttempt.time).Pairwise (· ≤ ·) := by
        refine List.pairwise_cons.mpr ⟨?_, ordered⟩
        intro moment member
        rcases List.mem_cons.mp member with rfl | member
        · exact le_rfl
        · exact (List.pairwise_cons.mp ordered).1 moment member
      obtain ⟨final, ran, stands⟩ := (stands_pastAttempts sound first.time).attemptLogins fromFirst
      exact ⟨final, ran, fun time passed => stands time (passed first (by simp)) passed⟩

/-- Over any sequence of attempts the user is locked at a time exactly when a failure that
completed a run, counted since the last success or the last expired lock, is less than the
duration of the lock ago. An attempt during the lock is refused whatever the password is, and
leaves the user as it was; a success clears the counters. -/
def FollowsRules (policy : LockPolicy) (user : User) : Prop :=
  ∀ attempts : List LoginAttempt, (attempts.map LoginAttempt.time).Pairwise (· ≤ ·) →
    ∃ final,
      user.attemptLogins policy attempts =
        .ok (final, outcomes policy (user.pastAttempts policy) attempts) ∧
      ∀ time, (∀ attempt ∈ attempts, attempt.time ≤ time) →
        (∃ locked, final.isLoginLocked (.utc time) = .ok locked ∧
          (locked = true ↔
            LockedAfter policy (judgeAll policy (user.pastAttempts policy) attempts) time)) ∧
        (final.isLoginLocked (.utc time) = .ok true → ∀ correct,
          final.attemptLogin policy ⟨time, correct⟩ = .ok (final, .refused)) ∧
        ∀ correct next, final.attemptLogin policy ⟨time, correct⟩ = .ok (next, .succeeded) →
          next.Cleared

/-- With sound counters the lock follows the rules. -/
theorem lock_follows_rules (policy : LockPolicy) (user : User) (sound : user.SoundCounters) :
    FollowsRules policy user := by
  intro attempts ordered
  obtain ⟨final, ran, stands⟩ := stands_attemptLogins policy sound ordered
  refine ⟨final, ran, fun time passed => ?_⟩
  obtain ⟨locked, reported, agrees⟩ := (stands time passed).isLoginLocked
  refine ⟨⟨locked, reported, agrees⟩, ?_, ?_⟩
  · intro isLocked correct
    rw [isLocked] at reported
    cases reported
    obtain ⟨next, attempted, -, kept, -⟩ :=
      (stands time passed).attemptLogin ⟨time, correct⟩ le_rfl
    rw [judge_refused (agrees.mp rfl)] at attempted kept
    rw [attempted, kept rfl]
  · intro correct next succeeded
    obtain ⟨after, attempted, -, -, cleared⟩ :=
      (stands time passed).attemptLogin ⟨time, correct⟩ le_rfl
    rw [succeeded] at attempted
    injection attempted with both
    obtain ⟨rfl, isSuccess⟩ := Prod.mk.inj both
    exact cleared isSuccess.symm

end Runs

section Unsound

variable {policy : LockPolicy} {user : User} {last : Datetime} {time : Int}

/-- A wrong password at the time of the last failure is counted. -/
private theorem attemptLogin_failure (unlocked : user.lockedUntil = none)
    (stamped : user.lastFailedLoginAt = some last) (aware : last.aware = true)
    (same : last.micros = time) :
    user.attemptLogin policy ⟨time, false⟩ =
      .ok (user.failedAt policy time (user.failedLoginAttempts + 1), .failed) := by
  have near : time - last.micros ≤ policy.failureWindow := by
    have window := policy.window_nonneg
    omega
  have notLocked : user.isLoginLocked (.utc time) = .ok false := by
    simp [User.isLoginLocked, unlocked]
  have registered := registerLoginFailure_next unlocked stamped aware near
  simp [User.attemptLogin, clearExpiredLoginLock_none unlocked, notLocked, registered, bind,
    Except.bind, pure, Except.pure]

/-- Wrong passwords at the time of the last failure, none of which but the latest reaches the
maximum, are all counted. -/
private theorem attemptLogins_failures {count : Nat} (unlocked : user.lockedUntil = none)
    (stamped : user.lastFailedLoginAt = some last) (aware : last.aware = true)
    (same : last.micros = time)
    (room : user.failedLoginAttempts + count < policy.maxFailedAttempts) :
    user.attemptLogins policy (List.replicate (count + 1) ⟨time, false⟩) =
      .ok (user.failedAt policy time (user.failedLoginAttempts + (count + 1)),
        List.replicate (count + 1) .failed) := by
  have attempted := @attemptLogin_failure policy user last time unlocked stamped aware same
  induction count generalizing user last with
  | zero =>
      simp [User.attemptLogins, attempted, bind, Except.bind, pure, Except.pure]
  | succ count ih =>
      have unfinished : ¬policy.maxFailedAttempts ≤ user.failedLoginAttempts + 1 := by omega
      let next := user.failedAt policy time (user.failedLoginAttempts + 1)
      have stillUnlocked : next.lockedUntil = none := if_neg unfinished
      have restRan : next.attemptLogins policy (List.replicate (count + 1) ⟨time, false⟩) =
          .ok (next.failedAt policy time (user.failedLoginAttempts + 1 + (count + 1)),
            List.replicate (count + 1) .failed) := by
        refine ih stillUnlocked rfl rfl rfl ?_ (attemptLogin_failure stillUnlocked rfl rfl rfl)
        simp only [next, User.failedAt]
        omega
      have total : user.failedLoginAttempts + 1 + ((count : Int) + 1) =
          user.failedLoginAttempts + ((count + 1 : Nat) + 1) := by omega
      rw [List.replicate_succ, User.attemptLogins, attempted]
      simp only [bind, Except.bind]
      rw [restRan, total]
      rfl

/-- A stamp without a time zone cannot be compared with the clock. -/
private theorem aware_of_attempted (follows : FollowsRules policy user) {moment : Datetime}
    (compared : user.lockedUntil = some moment ∨
      user.lockedUntil = none ∧ user.lastFailedLoginAt = some moment) : moment.aware = true := by
  by_contra naive
  obtain ⟨final, ran, -⟩ := follows [⟨0, false⟩] (by simp)
  obtain locked | ⟨unlocked, stamped⟩ := compared
  · simp [User.attemptLogins, User.attemptLogin, User.clearExpiredLoginLock, locked,
      Datetime.isAfter, naive, bind, Except.bind] at ran
  · simp [User.attemptLogins, User.attemptLogin, User.clearExpiredLoginLock, User.isLoginLocked,
      User.registerLoginFailure, unlocked, stamped, Datetime.since, naive, bind, Except.bind,
      pure, Except.pure] at ran

/-- A negative count lets a run go on for longer than the rules say. -/
private theorem count_nonneg_of_followsRules (follows : FollowsRules policy user)
    (unlocked : user.lockedUntil = none) (stamped : user.lastFailedLoginAt = some last)
    (aware : last.aware = true) : 0 ≤ user.failedLoginAttempts := by
  by_contra negative
  have positive := policy.attempts_pos
  have duration := policy.duration_pos
  let fresh : User := { user with failedLoginAttempts := 0 }
  let attempts : List LoginAttempt :=
    List.replicate ((policy.maxFailedAttempts - 1).toNat + 1) ⟨last.micros, false⟩
  have ordered : (attempts.map LoginAttempt.time).Pairwise (· ≤ ·) := by
    simp [attempts, List.pairwise_replicate]
  have passed : ∀ attempt ∈ attempts, attempt.time ≤ last.micros := by
    intro attempt member
    rw [List.eq_of_mem_replicate member]
  have samePast : fresh.pastAttempts policy = user.pastAttempts policy := by
    have nothing : user.failedLoginAttempts.toNat = 0 := by omega
    simp [User.pastAttempts, fresh, unlocked, stamped, nothing]
  obtain ⟨final, ran, agrees⟩ := follows attempts ordered
  obtain ⟨locks, locksRan, locksAgrees⟩ := lock_follows_rules policy fresh
    (by simp [User.SoundCounters, fresh, unlocked, stamped, aware]) attempts ordered
  rw [samePast] at locksRan locksAgrees
  rw [attemptLogins_failures unlocked stamped aware rfl (by omega)] at ran
  have freshRan := @attemptLogins_failures policy fresh last last.micros
    (policy.maxFailedAttempts - 1).toNat unlocked stamped aware rfl (by simp only [fresh]; omega)
  rw [freshRan] at locksRan
  obtain ⟨rfl, -⟩ := Prod.mk.inj (Except.ok.inj ran)
  obtain ⟨rfl, -⟩ := Prod.mk.inj (Except.ok.inj locksRan)
  obtain ⟨⟨locked, reported, isLocked⟩, -⟩ := agrees last.micros passed
  obtain ⟨⟨freshLocked, freshReported, isFreshLocked⟩, -⟩ := locksAgrees last.micros passed
  have full : policy.maxFailedAttempts ≤ 0 + ((policy.maxFailedAttempts - 1).toNat + 1 : Int) := by
    omega
  have short : ¬policy.maxFailedAttempts ≤
      user.failedLoginAttempts + ((policy.maxFailedAttempts - 1).toNat + 1 : Int) := by omega
  have ahead : last.micros < last.micros + policy.lockoutDuration := by omega
  simp only [User.isLoginLocked, User.failedAt, if_neg short, Except.ok.injEq] at reported
  simp only [User.isLoginLocked, User.failedAt, fresh, if_pos full, Datetime.isAfter,
    Datetime.utc, if_true, Except.ok.injEq] at freshReported
  rw [← reported] at isLocked
  have isAhead := freshReported.symm.trans (decide_eq_true ahead)
  exact Bool.false_ne_true (isLocked.mpr (isFreshLocked.mp isAhead))

/-- The lock of an entity whose counters are not sound does not follow the rules. -/
private theorem sound_of_followsRules (follows : FollowsRules policy user) :
    user.SoundCounters := by
  unfold User.SoundCounters
  cases locked : user.lockedUntil with
  | some moment => exact aware_of_attempted follows (.inl locked)
  | none =>
      cases stamped : user.lastFailedLoginAt with
      | none => trivial
      | some last =>
          have aware := aware_of_attempted follows (.inr ⟨locked, stamped⟩)
          exact ⟨aware, count_nonneg_of_followsRules follows locked stamped aware⟩

/-- **When the lock follows the rules.** The lock methods follow the rules over every sequence of
attempts exactly for an entity with sound counters. -/
theorem followsRules_iff (policy : LockPolicy) (user : User) :
    FollowsRules policy user ↔ user.SoundCounters :=
  ⟨sound_of_followsRules, lock_follows_rules policy user⟩

/-- The entity of a locked row, as SQLite returns its stamps. -/
def lockedAlice : User :=
  (UserModel.persisted ⟨⟨1⟩, "alice", "correct horse", .admin, true, 0, 5,
    some (.utc 0), some (.utc 900000000)⟩).toEntity

/-- On the entity of a locked row the first comparison with the clock raises. -/
theorem lock_breaks_rules : ¬FollowsRules (.ofSettings {}) lockedAlice := by
  intro follows
  obtain ⟨final, ran, -⟩ := follows [⟨1, false⟩] (by simp)
  simp [User.attemptLogins, User.attemptLogin, User.clearExpiredLoginLock, lockedAlice,
    UserModel.toEntity, UserModel.persisted, bind, Except.bind] at ran

end Unsound

end TraefikManager.Auth
