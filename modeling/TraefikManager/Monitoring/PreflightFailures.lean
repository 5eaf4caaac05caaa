import TraefikManager.Foundation.RecentFirst
import TraefikManager.Monitoring.Preflight
import Mathlib.Order.Interval.Finset.Nat

/-!
# Repeated preflight failures

A failure that goes on is to be announced again and again, one cooldown apart. An alert is
emitted when the streak is exactly the threshold, so it comes as long as no check that finds
the last alert old enough finds a longer streak.
-/

namespace TraefikManager.Monitoring

open Foundation

section OneCheck

variable {accounts : SmokeAccounts} {config : CertificateDiagnosticsSettings}
  {logs : List CertificateLog} {check : PreflightCheck} {domain : String}

/-- A check that counts for a domain. -/
def PreflightCheck.counts (check : PreflightCheck) (accounts : SmokeAccounts) (domain : String) :
    Bool := check.domain = domain ∧ ¬ accounts.isSmokeActor check.actor

/-- The alert about a failing result. -/
def alertOf (result : PreflightResult) : RepeatedFailureAlert where
  checkedAt := result.checkedAt
  overallStatus := result.overallStatus
  failureKeys := result.failureKeys

@[simp]
theorem getRepeatedFailureAlertSignature_alertOf (result : PreflightResult) :
    getRepeatedFailureAlertSignature (alertOf result) = getPreflightFailureSignature result := rfl

/-- When a check emits an alert. -/
theorem emitted_iff :
    (trackPreflight config accounts logs check).repeatedFailureEmitted ↔
      check.counts accounts check.domain ∧
      calculatePreflightFailureStreak config check.result
          (listPreviousPreflightResults accounts logs check.domain) =
        config.repeatAlertThreshold ∧
      shouldEmitRepeatedFailureAlert config check.result
        (listPreviousRepeatedFailureAlerts accounts logs check.domain) := by
  have positive := config.threshold_pos
  unfold trackPreflight PreflightCheck.counts
  cases smoke : accounts.isSmokeActor check.actor with
  | true =>
      have differs : 0 ≠ config.repeatAlertThreshold := by omega
      simp [differs]
  | false => simp

/-- An alert is only emitted about a failure. -/
theorem failing_of_emitted
    (emitted : (trackPreflight config accounts logs check).repeatedFailureEmitted) :
    check.result.overallStatus.failing := by
  have positive := config.threshold_pos
  obtain ⟨-, reached, -⟩ := emitted_iff.mp emitted
  unfold calculatePreflightFailureStreak at reached
  split at reached
  · omega
  · rename_i counts
    simp only [not_or, not_not] at counts
    exact counts.2

private theorem listPrevious_cons {α : Type} (deserialize : CertificateDetail → Option α)
    (action : String) (detail : CertificateDetail) :
    listPrevious accounts deserialize (certificateLog check action detail :: logs) domain =
      (if check.counts accounts domain then (deserialize detail).toList else []) ++
        listPrevious accounts deserialize logs domain := by
  by_cases counts : check.counts accounts domain
  · have selected := of_decide_eq_true counts
    unfold listPrevious
    rw [List.filter_cons_of_pos (by simpa [certificateLog] using selected), if_pos counts]
    cases read : deserialize detail <;> simp [certificateLog, read]
  · have dropped := of_decide_eq_false (Bool.eq_false_of_not_eq_true counts)
    unfold listPrevious
    rw [List.filter_cons_of_neg (by simpa [certificateLog] using dropped), if_neg counts]
    rfl

/-- The result of a check is read back from the log, if it counts for the domain. -/
theorem listPreviousPreflightResults_record :
    listPreviousPreflightResults accounts
        (recordCertificatePreflightResult config accounts logs check).1 domain =
      (if check.counts accounts domain then some check.result else none).toList ++
        listPreviousPreflightResults accounts logs domain := by
  unfold recordCertificatePreflightResult listPreviousPreflightResults
  dsimp only
  split <;> split <;>
    simp_all [listPrevious_cons, deserializePreflightSnapshot, serializePreflightDetail,
      serializeRepeatedFailureDetail]

/-- So is the alert it emits. -/
theorem listPreviousRepeatedFailureAlerts_record :
    listPreviousRepeatedFailureAlerts accounts
        (recordCertificatePreflightResult config accounts logs check).1 domain =
      (if check.counts accounts domain ∧
          (trackPreflight config accounts logs check).repeatedFailureEmitted then
        some (alertOf check.result) else none).toList ++
        listPreviousRepeatedFailureAlerts accounts logs domain := by
  unfold recordCertificatePreflightResult listPreviousRepeatedFailureAlerts
  dsimp only
  by_cases emitted : (trackPreflight config accounts logs check).repeatedFailureEmitted
  · have failing := failing_of_emitted emitted
    by_cases counts : check.counts accounts domain <;>
      simp [listPrevious_cons, emitted, counts, deserializeRepeatedFailureAlert,
        serializePreflightDetail, serializeRepeatedFailureDetail, failing, alertOf]
  · simp [listPrevious_cons, emitted, deserializeRepeatedFailureAlert, serializePreflightDetail]

/-- A streak goes back to the last result that does not continue it. -/
theorem calculatePreflightFailureStreak_eq {current : PreflightResult}
    {signature : FailureSignature} (failure : getPreflightFailureSignature current = some signature)
    (previousResults : List PreflightResult) :
    calculatePreflightFailureStreak config current previousResults =
      1 + (previousResults.takeWhile (continuesStreak config current)).length := by
  have failing := (status_of_failureSignature failure).1
  simp [calculatePreflightFailureStreak, failure, failing]

end OneCheck

section Runs

variable (config : CertificateDiagnosticsSettings) (accounts : SmokeAccounts)
  (checks : ℕ → PreflightCheck)

/-- The log before the `n`-th check. -/
def logBefore : ℕ → List CertificateLog
  | 0 => []
  | n + 1 => (recordCertificatePreflightResult config accounts (logBefore n) (checks n)).1

/-- The `n`-th check emits an alert about a domain. -/
def emitsAt (domain : String) (n : ℕ) : Bool :=
  (checks n).counts accounts domain ∧
    (trackPreflight config accounts (logBefore config accounts checks n)
      (checks n)).repeatedFailureEmitted

/-- How many of the results before the `n`-th check go on the streak of its result. -/
def streakBefore (domain : String) (n : ℕ) : ℕ :=
  ((listPreviousPreflightResults accounts (logBefore config accounts checks n) domain).takeWhile
    (continuesStreak config (checks n).result)).length

/-- The time of the `n`-th check. -/
def checkedAt (n : ℕ) : Int := (checks n).result.checkedAt

/-- The checks of a domain are made one after the other. -/
def IncreasingChecks (domain : String) : Prop :=
  ∀ earlier later, earlier < later → (checks earlier).domain = domain →
    (checks later).domain = domain → checkedAt checks earlier < checkedAt checks later

/-- From some moment on, all checks of a domain that count fail in the same way. -/
def FailsSteadily (domain : String) (signature : FailureSignature) (start : Int) : Prop :=
  ∀ n, (checks n).counts accounts domain → start ≤ checkedAt checks n →
    getPreflightFailureSignature (checks n).result = some signature

/-- Every span of one window after that moment has as many checks as the threshold asks for;
`inSpan` says whether a span has its end. -/
def ChecksOften (domain : String) (start : Int) (inSpan : Int → Int → Prop) : Prop :=
  ∀ first, start ≤ first → ∃ steps : Finset ℕ, config.repeatAlertThreshold ≤ steps.card ∧
    ∀ n ∈ steps, (checks n).counts accounts domain ∧ first ≤ checkedAt checks n ∧
      inSpan (checkedAt checks n) (first + config.window)

/-- In every period longer than the cooldown and the window a failure that goes on is
announced. -/
def FailuresAnnounced (domain : String) : Prop :=
  ∀ start signature, FailsSteadily accounts checks domain signature start →
    ChecksOften config accounts checks domain start (· ≤ ·) →
    ∀ first last, start ≤ first → config.cooldown + config.window < last - first →
      ∃ n, emitsAt config accounts checks domain n ∧
        getPreflightFailureSignature (checks n).result = some signature ∧
        first ≤ checkedAt checks n ∧ checkedAt checks n ≤ last

/-- Two alerts about the same failure are more than the cooldown apart. -/
def AlertsApart (domain : String) : Prop :=
  ∀ earlier later, earlier < later → emitsAt config accounts checks domain earlier →
    emitsAt config accounts checks domain later →
    getPreflightFailureSignature (checks earlier).result =
      getPreflightFailureSignature (checks later).result →
    config.cooldown < checkedAt checks later - checkedAt checks earlier

/-- A check finds the last alert about its failure old enough, and as many results before it
in the streak as the threshold asks for. -/
def Overlooked (logs : List CertificateLog) (check : PreflightCheck) : Prop :=
  let previousResults := listPreviousPreflightResults accounts logs check.domain
  (∀ alert ∈ listPreviousRepeatedFailureAlerts accounts logs check.domain,
    getRepeatedFailureAlertSignature alert = getPreflightFailureSignature check.result →
      config.cooldown < check.result.checkedAt - alert.checkedAt) ∧
  config.repeatAlertThreshold ≤ previousResults.length ∧
  ∀ previous ∈ previousResults.take config.repeatAlertThreshold,
    continuesStreak config check.result previous

end Runs

section Invariants

variable {config : CertificateDiagnosticsSettings} {accounts : SmokeAccounts}
  {checks : ℕ → PreflightCheck} {domain : String}

/-- The results in the log are those of the checks before that count. -/
theorem listPreviousPreflightResults_logBefore (n : ℕ) :
    listPreviousPreflightResults accounts (logBefore config accounts checks n) domain =
      recentFirst (fun step =>
        if (checks step).counts accounts domain then some (checks step).result else none) n := by
  induction n with
  | zero => rfl
  | succ n ih =>
      unfold logBefore recentFirst
      rw [listPreviousPreflightResults_record, ih]

/-- The alerts in the log are those that the checks before emitted. -/
theorem listPreviousRepeatedFailureAlerts_logBefore (n : ℕ) :
    listPreviousRepeatedFailureAlerts accounts (logBefore config accounts checks n) domain =
      recentFirst (fun step =>
        if emitsAt config accounts checks domain step then some (alertOf (checks step).result)
        else none) n := by
  induction n with
  | zero => rfl
  | succ n ih =>
      unfold logBefore recentFirst
      rw [listPreviousRepeatedFailureAlerts_record, ih]
      simp [emitsAt]

private theorem domain_of_counts {check : PreflightCheck} (counts : check.counts accounts domain) :
    check.domain = domain := (of_decide_eq_true counts).1

private theorem counts_of_emitsAt {n : ℕ} (emits : emitsAt config accounts checks domain n) :
    (checks n).counts accounts domain := (of_decide_eq_true emits).1

private theorem lt_of_checkedAt_lt (increasing : IncreasingChecks checks domain) {earlier later : ℕ}
    (earlierCounts : (checks earlier).domain = domain) (laterCounts : (checks later).domain = domain)
    (before : checkedAt checks earlier < checkedAt checks later) : earlier < later := by
  rcases Nat.lt_trichotomy earlier later with lt | rfl | gt
  · exact lt
  · exact absurd before (lt_irrefl _)
  · exact absurd (increasing later earlier gt laterCounts earlierCounts) (not_lt_of_gt before)

/-- The checks of one window that fail in the same way are all in the streak. -/
theorem card_le_streak (increasing : IncreasingChecks checks domain) {signature : FailureSignature}
    {start : Int} (steady : FailsSteadily accounts checks domain signature start) {n : ℕ}
    (counts : (checks n).counts accounts domain) {steps : Finset ℕ} (nonempty : steps.Nonempty)
    (each : ∀ step ∈ steps, step < n ∧ (checks step).counts accounts domain ∧
      start ≤ checkedAt checks step ∧ checkedAt checks n - checkedAt checks step ≤ config.window) :
    steps.card ≤ streakBefore config accounts checks domain n := by
  rw [streakBefore, listPreviousPreflightResults_logBefore]
  -- The streak reaches back to the first of these checks at least.
  obtain ⟨firstBefore, firstCounts, firstSteady, firstInWindow⟩ :=
    each _ (Finset.min'_mem steps nonempty)
  have current : getPreflightFailureSignature (checks n).result = some signature := by
    apply steady n counts
    have := increasing _ n firstBefore (domain_of_counts firstCounts) (domain_of_counts counts)
    omega
  apply card_le_length_takeWhile (steps.min' nonempty)
  · intro step member
    obtain ⟨before, stepCounts, -⟩ := each step member
    exact ⟨Finset.min'_le steps step member, before, by simp [stepCounts]⟩
  · intro step late before value recorded
    split at recorded
    · rename_i stepCounts
      cases recorded
      have notEarlier : checkedAt checks (steps.min' nonempty) ≤ checkedAt checks step := by
        rcases Nat.lt_or_eq_of_le late with lt | same
        · exact (increasing _ step lt (domain_of_counts firstCounts)
            (domain_of_counts stepCounts)).le
        · rw [same]
      have previous := steady step stepCounts (by omega)
      have sameStatus := (status_of_failureSignature previous).2.trans
        (status_of_failureSignature current).2.symm
      have inWindow : (checks n).result.checkedAt - (checks step).result.checkedAt ≤
          config.window := by
        unfold checkedAt at notEarlier firstInWindow
        omega
      simp [continuesStreak, previous, current, sameStatus, inWindow]
    · cases recorded

/-- When the `n`-th check emits an alert. -/
theorem emitsAt_iff {n : ℕ} {signature : FailureSignature}
    (counts : (checks n).counts accounts domain)
    (failure : getPreflightFailureSignature (checks n).result = some signature) :
    emitsAt config accounts checks domain n ↔
      1 + streakBefore config accounts checks domain n = config.repeatAlertThreshold ∧
      shouldEmitRepeatedFailureAlert config (checks n).result
        (listPreviousRepeatedFailureAlerts accounts (logBefore config accounts checks n) domain) := by
  obtain rfl := domain_of_counts counts
  rw [emitsAt, decide_eq_true_iff, emitted_iff, calculatePreflightFailureStreak_eq failure]
  simp only [counts, true_and, streakBefore]

private theorem signature_of_emitsAt {n : ℕ} (emits : emitsAt config accounts checks domain n) :
    ∃ signature, getPreflightFailureSignature (checks n).result = some signature := by
  have emitted := (of_decide_eq_true emits).2
  obtain ⟨-, -, due⟩ := emitted_iff.mp emitted
  unfold shouldEmitRepeatedFailureAlert at due
  cases failure : getPreflightFailureSignature (checks n).result with
  | none => simp [failure] at due
  | some signature => exact ⟨signature, rfl⟩

/-- Alerts about the same failure are apart: the last of them is the one looked at, and those
before it are older. -/
theorem alertsApart (increasing : IncreasingChecks checks domain) :
    AlertsApart config accounts checks domain := by
  intro earlier later before emitsEarlier emitsLater same
  obtain ⟨signature, failure⟩ := signature_of_emitsAt emitsLater
  obtain ⟨-, due⟩ := (emitsAt_iff (counts_of_emitsAt emitsLater) failure).mp emitsLater
  rw [listPreviousRepeatedFailureAlerts_logBefore] at due
  unfold shouldEmitRepeatedFailureAlert at due
  simp only [failure, Option.isNone_some, Bool.false_eq_true, ↓reduceIte] at due
  split at due
  · rename_i alert found
    obtain ⟨step, stepBefore, recorded, sameFailure, none⟩ := find?_recentFirst found
    split at recorded
    · rename_i emitsStep
      cases recorded
      have apart : config.cooldown < checkedAt checks later - checkedAt checks step :=
        of_decide_eq_true due
      have notEarlier : checkedAt checks earlier ≤ checkedAt checks step := by
        rcases Nat.lt_trichotomy earlier step with lt | rfl | gt
        · exact (increasing earlier step lt (domain_of_counts (counts_of_emitsAt emitsEarlier))
            (domain_of_counts (counts_of_emitsAt emitsStep))).le
        · exact le_rfl
        · have passed := none earlier gt before (alertOf (checks earlier).result)
            (by simp [emitsEarlier])
          simp [same, failure] at passed
      omega
    · cases recorded
  · rename_i missing
    have absent := List.find?_eq_none.mp missing (alertOf (checks earlier).result)
      (mem_recentFirst.mpr ⟨earlier, before, by simp [emitsEarlier]⟩)
    simp [same, failure] at absent

/-- An alert is due when all alerts about the same failure are older than the cooldown. -/
theorem shouldEmit_of_old {current : PreflightResult} {alerts : List RepeatedFailureAlert}
    {signature : FailureSignature} (failure : getPreflightFailureSignature current = some signature)
    (old : ∀ alert ∈ alerts,
      getRepeatedFailureAlertSignature alert = getPreflightFailureSignature current →
        config.cooldown < current.checkedAt - alert.checkedAt) :
    shouldEmitRepeatedFailureAlert config current alerts := by
  unfold shouldEmitRepeatedFailureAlert
  simp only [failure, Option.isNone_some, Bool.false_eq_true, ↓reduceIte]
  split
  · rename_i alert found
    have same := List.find?_some found
    exact decide_eq_true (old alert (List.mem_of_find?_eq_some found) (by simpa [failure] using same))
  · rfl

/-- Checks that are never overlooked announce a failure that goes on. -/
theorem failuresAnnounced (increasing : IncreasingChecks checks domain)
    (never : ∀ n, (checks n).domain = domain →
      ¬ Overlooked config accounts (logBefore config accounts checks n) (checks n)) :
    FailuresAnnounced config accounts checks domain := by
  intro start signature steady often first last afterStart long
  by_contra silent
  have cooldownNonneg : (0 : Int) ≤ config.cooldown := by
    unfold CertificateDiagnosticsSettings.cooldown
    omega
  obtain ⟨steps, enough, each⟩ := often (last - config.window) (by omega)
  have nonempty : steps.Nonempty := by
    apply Finset.card_pos.mp
    exact Nat.lt_of_lt_of_le config.threshold_pos enough
  -- The last of the checks in the last window of the period would have been announced.
  let n := steps.max' nonempty
  obtain ⟨counts, late, inPeriod⟩ := each n (Finset.max'_mem steps nonempty)
  have isDomain := domain_of_counts counts
  have failure := steady n counts (by omega)
  have reached : config.repeatAlertThreshold ≤ 1 + streakBefore config accounts checks domain n := by
    have others := Finset.pred_card_le_card_erase (s := steps) (a := n)
    by_cases alone : (steps.erase n).Nonempty
    · have inStreak : (steps.erase n).card ≤ streakBefore config accounts checks domain n := by
        apply card_le_streak increasing steady counts alone
        intro step member
        obtain ⟨other, member⟩ := Finset.mem_erase.mp member
        obtain ⟨stepCounts, stepLate, stepInPeriod⟩ := each step member
        have before := lt_of_le_of_ne (Finset.le_max' steps step member) other
        exact ⟨before, stepCounts, by omega, by omega⟩
      omega
    · rw [Finset.not_nonempty_iff_eq_empty.mp alone, Finset.card_empty] at others
      omega
  have old : ∀ alert ∈ listPreviousRepeatedFailureAlerts accounts
      (logBefore config accounts checks n) domain,
      getRepeatedFailureAlertSignature alert = getPreflightFailureSignature (checks n).result →
        config.cooldown < (checks n).result.checkedAt - alert.checkedAt := by
    intro alert inLog same
    rw [listPreviousRepeatedFailureAlerts_logBefore] at inLog
    obtain ⟨step, before, recorded⟩ := mem_recentFirst.mp inLog
    split at recorded
    · rename_i emits
      cases recorded
      have earlier := increasing step n before (domain_of_counts (counts_of_emitsAt emits)) isDomain
      have beforePeriod : checkedAt checks step < first := by
        by_contra within
        exact silent ⟨step, emits, same.trans failure, by omega, by omega⟩
      change config.cooldown < checkedAt checks n - checkedAt checks step
      omega
    · cases recorded
  apply silent
  refine ⟨n, (emitsAt_iff counts failure).mpr ⟨?_, shouldEmit_of_old failure old⟩, failure,
    by omega, by omega⟩
  -- A longer streak would have been overlooked.
  by_contra longer
  apply never n isDomain
  unfold Overlooked
  rw [isDomain]
  have inStreak : config.repeatAlertThreshold ≤ streakBefore config accounts checks domain n := by
    omega
  exact ⟨old, inStreak.trans (List.takeWhile_prefix _).length_le,
    fun previous member => holds_of_mem_take inStreak member⟩

/-- Where every window has the required number of checks before its end, nothing is announced
once the first window has passed: each check finds a longer streak. -/
theorem not_emitsAt (increasing : IncreasingChecks checks domain) {signature : FailureSignature}
    {start : Int} (steady : FailsSteadily accounts checks domain signature start)
    (often : ChecksOften config accounts checks domain start (· < ·)) {n : ℕ}
    (passed : start + config.window ≤ checkedAt checks n) :
    ¬ emitsAt config accounts checks domain n := by
  intro emits
  have counts := counts_of_emitsAt emits
  have windowNonneg : (0 : Int) ≤ config.window := by
    unfold CertificateDiagnosticsSettings.window
    omega
  obtain ⟨steps, enough, each⟩ := often (checkedAt checks n - config.window) (by omega)
  have nonempty : steps.Nonempty := by
    apply Finset.card_pos.mp
    exact Nat.lt_of_lt_of_le config.threshold_pos enough
  have inStreak : steps.card ≤ streakBefore config accounts checks domain n := by
    apply card_le_streak increasing steady counts nonempty
    intro step member
    obtain ⟨stepCounts, late, before⟩ := each step member
    have earlier := lt_of_checkedAt_lt increasing (domain_of_counts stepCounts)
      (domain_of_counts counts) (by omega)
    exact ⟨earlier, stepCounts, by omega, by omega⟩
  obtain ⟨reached, -⟩ := (emitsAt_iff counts (steady n counts (by omega))).mp emits
  omega

end Invariants

section Announcements

/-- **Repeated failures are announced.** Alerts about the same failure are more than the cooldown
apart, and where no check is overlooked, a failure that goes on is announced in every period
longer than the cooldown and the window. Where every window has the required number of checks
before its end, each check is overlooked and nothing is announced any more. -/
theorem announced_unless_overlooked (config : CertificateDiagnosticsSettings)
    (accounts : SmokeAccounts) (checks : ℕ → PreflightCheck) (domain : String)
    (increasing : IncreasingChecks checks domain) :
    AlertsApart config accounts checks domain ∧
    ((∀ n, (checks n).domain = domain →
        ¬ Overlooked config accounts (logBefore config accounts checks n) (checks n)) →
      FailuresAnnounced config accounts checks domain) ∧
    ∀ signature start, FailsSteadily accounts checks domain signature start →
      ChecksOften config accounts checks domain start (· < ·) →
      ∀ n, start + config.window ≤ checkedAt checks n →
        ¬ emitsAt config accounts checks domain n :=
  ⟨alertsApart increasing, failuresAnnounced increasing,
    fun _ _ steady often _ passed => not_emitsAt increasing steady often passed⟩

/-- A domain whose name does not resolve, checked in equal steps of time. -/
def periodicChecks (period : ℕ) (n : ℕ) : PreflightCheck where
  actor := "system"
  domain := "example.com"
  result :=
    { checkedAt := period * n
      overallStatus := .error
      recommendation := "DNS"
      items := [⟨.dnsPublic, "DNS", .error, "NXDOMAIN"⟩] }
  clientIp := none

private theorem periodicChecks_increasing {period : ℕ} (positive : 0 < period) :
    IncreasingChecks (periodicChecks period) "example.com" := by
  intro earlier later before _ _
  have := Nat.mul_lt_mul_of_pos_left before positive
  simp only [checkedAt, periodicChecks]
  exact_mod_cast this

private theorem periodicChecks_fail (period : ℕ) (start : Int) :
    FailsSteadily {} (periodicChecks period) "example.com" (.error, ["dns_public"]) start :=
  fun _ _ _ => rfl

@[simp]
theorem periodicChecks_counts (period n : ℕ) :
    (periodicChecks period n).counts {} "example.com" := rfl

/-- As many checks as fit in a span follow each other in it. -/
theorem periodicChecks_within (period count : ℕ) (positive : 0 < period) {first : Int}
    (fromStart : 0 ≤ first) :
    ∃ steps : Finset ℕ, steps.card = count ∧ ∀ n ∈ steps,
      (periodicChecks period n).counts {} "example.com" ∧
      first ≤ checkedAt (periodicChecks period) n ∧
      checkedAt (periodicChecks period) n < first + (count * period : ℕ) := by
  obtain ⟨start, rfl⟩ := Int.eq_ofNat_of_zero_le fromStart
  have low := Nat.lt_mul_div_succ (start + period - 1) positive
  have high := Nat.mul_div_le (start + period - 1) period
  rw [Nat.mul_add] at low
  refine ⟨Finset.Ico ((start + period - 1) / period) ((start + period - 1) / period + count),
    by simp, fun n member => ⟨rfl, ?_⟩⟩
  obtain ⟨late, before⟩ := Finset.mem_Ico.mp member
  have least := Nat.mul_le_mul_left period late
  have most := Nat.mul_le_mul_left period (Nat.succ_le_of_lt before)
  rw [Nat.mul_add, Nat.mul_comm period count, Nat.mul_succ] at most
  simp only [checkedAt, periodicChecks]
  norm_cast
  omega

/-- With a window of five minutes, seven checks a window and 42.857143 seconds between two of
them, the seventh check before each is a microsecond too old to be in its streak. -/
theorem announced_unless_overlooked_example :
    ChecksOften ⟨7, 5, 5, by decide⟩ {} (periodicChecks 42857143) "example.com" 0 (· ≤ ·) ∧
    FailuresAnnounced ⟨7, 5, 5, by decide⟩ {} (periodicChecks 42857143) "example.com" := by
  constructor
  · intro first fromStart
    obtain ⟨steps, enough, each⟩ := periodicChecks_within 42857143 7 (by decide) fromStart
    refine ⟨steps, enough.ge, fun n member => ?_⟩
    obtain ⟨counts, late, before⟩ := each n member
    refine ⟨counts, late, ?_⟩
    simp only [CertificateDiagnosticsSettings.window]
    omega
  · apply (announced_unless_overlooked _ {} (periodicChecks 42857143) "example.com"
      (periodicChecks_increasing (by decide))).2.1
    intro n isDomain overlooked
    obtain ⟨-, enough, each⟩ := overlooked
    rw [isDomain, listPreviousPreflightResults_logBefore] at enough each
    simp only [periodicChecks_counts, ↓reduceIte] at enough each
    have late := enough.trans length_recentFirst_le
    obtain ⟨m, rfl⟩ := Nat.exists_eq_add_of_le' late
    have inStreak := each (periodicChecks 42857143 m).result (by simp [recentFirst])
    simp only [continuesStreak, decide_eq_true_eq] at inStreak
    obtain ⟨-, -, inWindow, -⟩ := inStreak
    simp only [periodicChecks, CertificateDiagnosticsSettings.window] at inWindow
    omega

/-- A check every five minutes, of which two within ten minutes make a failure repeated. The
second check is announced, and none of those that follow. -/
theorem repeated_failures_silenced :
    ¬ ∀ config accounts checks domain, IncreasingChecks checks domain →
      FailuresAnnounced config accounts checks domain ∧
        AlertsApart config accounts checks domain := by
  intro announced
  let config : CertificateDiagnosticsSettings := ⟨2, 10, 5, by decide⟩
  have increasing : IncreasingChecks (periodicChecks 300000000) "example.com" :=
    periodicChecks_increasing (by decide)
  have often : ChecksOften config {} (periodicChecks 300000000) "example.com" 0 (· < ·) := by
    intro first fromStart
    obtain ⟨steps, enough, each⟩ := periodicChecks_within 300000000 2 (by decide) fromStart
    refine ⟨steps, enough.ge, fun n member => ?_⟩
    obtain ⟨counts, late, before⟩ := each n member
    refine ⟨counts, late, ?_⟩
    simp only [CertificateDiagnosticsSettings.window, config]
    omega
  have oftenClosed : ChecksOften config {} (periodicChecks 300000000) "example.com" 0 (· ≤ ·) := by
    intro first fromStart
    obtain ⟨steps, enough, each⟩ := often first fromStart
    exact ⟨steps, enough, fun n member =>
      ⟨(each n member).1, (each n member).2.1, (each n member).2.2.le⟩⟩
  obtain ⟨n, emits, -, late, -⟩ := (announced config {} _ _ increasing).1 0 _
    (periodicChecks_fail _ 0) oftenClosed config.window (2 * config.window + config.cooldown + 1)
    (by decide) (by omega)
  exact not_emitsAt increasing (periodicChecks_fail _ 0) often (by omega) emits

end Announcements

end TraefikManager.Monitoring
