import TraefikManager.Auth.LoginAnomaly

/-!
# How long a suspicious address stays blocked

A block record announces the time until which its address is blocked, but each
evaluation decides again from the records in its own window. This module follows
a block record through a run of evaluations: as long as the window still reaches
back to the record and to some suspicious login of the address, every evaluation
before the announced end reports the address as blocked and writes nothing.
-/

namespace TraefikManager.Auth

open Foundation

/-- The whole audit log grows by one of two things: an evaluation of an address
at a time, its record stamped by a later clock reading, or any other record. -/
inductive AnomalyStep where
  | evaluate (clientIp : String) (now recordedAt : Int)
  | append (log : AuditLogModel)
  deriving DecidableEq, Repr

/-- A record the block policy reads as a block of the address. -/
def isBlockOf (clientIp : String) (log : AuditLogModel) : Bool :=
  log.resourceType = "user" ∧ log.action = "update" ∧
    log.detailValue "client_ip" = .text clientIp ∧ log.hasEvent "login_blocked_ip"

section Run

variable (settings : SuspiciousBlockSettings)
  (notifyIfNeeded : AuditLogModel → Option AlertDelivery)

/-- The verdict of an evaluation. -/
def reportsBlocked (auditLogs : List AuditLogModel) (clientIp : String) (now recordedAt : Int) :
    Bool :=
  (enforceSuspiciousIpBlockIfNeeded settings notifyIfNeeded auditLogs clientIp (.utc now)
    recordedAt).1

/-- The records an evaluation adds. -/
def addedRecords (auditLogs : List AuditLogModel) (clientIp : String) (now recordedAt : Int) :
    List AuditLogModel :=
  (enforceSuspiciousIpBlockIfNeeded settings notifyIfNeeded auditLogs clientIp (.utc now)
    recordedAt).2

/-- The committed audit log after a step. -/
def stepLogs (auditLogs : List AuditLogModel) : AnomalyStep → List AuditLogModel
  | .evaluate clientIp now recordedAt =>
      auditLogs ++ addedRecords settings notifyIfNeeded auditLogs clientIp now recordedAt
  | .append log => auditLogs ++ [log]

/-- The committed audit log after a run. -/
def runLogs (auditLogs : List AuditLogModel) (steps : List AnomalyStep) : List AuditLogModel :=
  steps.foldl (stepLogs settings notifyIfNeeded) auditLogs

/-- Times never decrease along the run, starting from `clock`, and block records
are written by evaluations only. -/
def WellTimed (clock : Int) : List AnomalyStep → Prop
  | [] => True
  | .evaluate _ now recordedAt :: rest =>
      clock ≤ now ∧ now ≤ recordedAt ∧ WellTimed recordedAt rest
  | .append log :: rest => (∀ clientIp, isBlockOf clientIp log = false) ∧ WellTimed clock rest

/-- The block records of the history are stamped with a whole second that is not
later than `clock`. -/
def StampedBefore (clock : Int) (auditLogs : List AuditLogModel) : Prop :=
  ∀ log ∈ auditLogs, ∀ clientIp, isBlockOf clientIp log →
    log.createdAt.micros ≤ (Datetime.utc clock).wholeSecond.micros

/-- The records an evaluation at `now` looks at. -/
def lookupLogs (auditLogs : List AuditLogModel) (clientIp : String) (now : Int) :
    List AuditLogModel :=
  loadRecentIpLogs auditLogs clientIp ((Datetime.utc now).add (-settings.effectiveLookupWindow))

/-- The window of an evaluation reaches back to every block of the address that
has not ended, and, if there is one, to some suspicious login. -/
def Covered (auditLogs : List AuditLogModel) (clientIp : String) (now : Int) : Prop :=
  ∀ block ∈ auditLogs, isBlockOf clientIp block →
    now < (getBlockedUntil block settings.blockWindow).micros →
      block ∈ lookupLogs settings auditLogs clientIp now ∧
        ∃ log ∈ lookupLogs settings auditLogs clientIp now, log.hasEvent "login_suspicious"

instance (auditLogs : List AuditLogModel) (clientIp : String) (now : Int) :
    Decidable (Covered settings auditLogs clientIp now) :=
  inferInstanceAs (Decidable (∀ block ∈ auditLogs, isBlockOf clientIp block →
    now < (getBlockedUntil block settings.blockWindow).micros →
      block ∈ lookupLogs settings auditLogs clientIp now ∧
        ∃ log ∈ lookupLogs settings auditLogs clientIp now, log.hasEvent "login_suspicious"))

/-- Every evaluation of the run is covered. -/
def CoveredRun (auditLogs : List AuditLogModel) : List AnomalyStep → Prop
  | [] => True
  | .evaluate clientIp now recordedAt :: rest =>
      Covered settings auditLogs clientIp now ∧
        CoveredRun (stepLogs settings notifyIfNeeded auditLogs
          (.evaluate clientIp now recordedAt)) rest
  | .append log :: rest => CoveredRun (auditLogs ++ [log]) rest

/-- A block lasts as announced: once an evaluation has written a block record
that ends at `until`, every later evaluation of the address before that time
reports it as blocked. -/
def BlockLasts (history : List AuditLogModel) (steps : List AnomalyStep) : Prop :=
  ∀ before clientIp now₀ recordedAt₀ between now recordedAt after,
    steps = before ++ .evaluate clientIp now₀ recordedAt₀ ::
      (between ++ .evaluate clientIp now recordedAt :: after) →
    ∀ record blockedUntil,
      (addedRecords settings notifyIfNeeded (runLogs settings notifyIfNeeded history before)
        clientIp now₀ recordedAt₀).head? = some record →
      record.detailValue "blocked_until" = .isoformat blockedUntil →
      now < blockedUntil.micros →
        reportsBlocked settings notifyIfNeeded
          (runLogs settings notifyIfNeeded history
            (before ++ .evaluate clientIp now₀ recordedAt₀ :: between))
          clientIp now recordedAt = true

end Run

section Decision

/-- Sorting leaves a last element that no other exceeds in its place. -/
private theorem insertionSort_concat {α : Type} {r : α → α → Prop} [DecidableRel r]
    {front : List α} {last : α} (greatest : ∀ item ∈ front, r item last) :
    (front ++ [last]).insertionSort r = front.insertionSort r ++ [last] := by
  induction front with
  | nil => rfl
  | cons item rest ih =>
      have insert : ∀ sorted : List α,
          (sorted ++ [last]).orderedInsert r item = sorted.orderedInsert r item ++ [last] := by
        intro sorted
        induction sorted with
        | nil => simp [greatest item (by simp)]
        | cons head tail inner =>
            by_cases first : r item head
            · simp [first]
            · simp [first, inner]
      rw [List.cons_append, List.insertionSort_cons, List.insertionSort_cons,
        ih fun other member => greatest other (by simp [member]), insert]

variable {clientIp : String} {logs : List AuditLogModel} {now : Datetime}
  {blockWindow : Timedelta} {escalationEnabled : Bool} {escalationMultiplier : Int}
  {maxBlockWindow : Option Timedelta}

/-- A suspicious login in the window and a latest block that has not ended:
blocked, with nothing to record. -/
theorem decideSuspiciousIpBlock_of_unexpired {latest : AuditLogModel}
    (suspicious : ∃ log ∈ logs, log.hasEvent "login_suspicious")
    (last : (blockedLogs logs).getLast? = some latest)
    (unexpired : now.micros < (getBlockedUntil latest blockWindow).micros) :
    decideSuspiciousIpBlock logs clientIp now blockWindow escalationEnabled escalationMultiplier
      maxBlockWindow = { blocked := true } := by
  obtain ⟨log, member, event⟩ := suspicious
  unfold decideSuspiciousIpBlock
  split
  · rename_i empty
    have listed : log ∈ logs.filter (·.hasEvent "login_suspicious") := by simp [member, event]
    simp [empty] at listed
  · simp [last, unexpired]

/-- What a decision announces is a block record of the address. -/
theorem decideSuspiciousIpBlock_detail {detail : Detail}
    (announced : (decideSuspiciousIpBlock logs clientIp now blockWindow escalationEnabled
      escalationMultiplier maxBlockWindow).detail = some detail) :
    detail.get "event" = .text "login_blocked_ip" ∧ detail.get "client_ip" = .text clientIp := by
  unfold decideSuspiciousIpBlock at announced
  split at announced
  · simp at announced
  · dsimp only at announced
    split at announced
    · obtain rfl := by simpa using announced.symm
      exact ⟨rfl, rfl⟩
    · split at announced
      · simp at announced
      · split at announced
        · simp at announced
        · obtain rfl := by simpa using announced.symm
          exact ⟨rfl, rfl⟩

end Decision

section Evaluation

variable {settings : SuspiciousBlockSettings}
  {notifyIfNeeded : AuditLogModel → Option AlertDelivery} {auditLogs : List AuditLogModel}
  {clientIp : String} {now recordedAt : Int}

/-- The record an evaluation writes is a block of its address and of no other. -/
structure NewBlock (settings : SuspiciousBlockSettings) (clientIp : String) (recordedAt : Int)
    (record : AuditLogModel) (deliveries : List AuditLogModel) : Prop where
  applies : settings.appliesTo clientIp = true
  isBlock : isBlockOf clientIp record = true
  ofNoOther : ∀ other, other ≠ clientIp → isBlockOf other record = false
  stamped : record.createdAt = (Datetime.utc recordedAt).wholeSecond
  deliveries : ∀ delivery ∈ deliveries, ∀ other, isBlockOf other delivery = false

/-- An evaluation adds nothing, or one new block with its alert deliveries. -/
theorem addedRecords_cases :
    addedRecords settings notifyIfNeeded auditLogs clientIp now recordedAt = [] ∨
      ∃ record deliveries,
        addedRecords settings notifyIfNeeded auditLogs clientIp now recordedAt =
            record :: deliveries ∧
          NewBlock settings clientIp recordedAt record deliveries := by
  unfold addedRecords enforceSuspiciousIpBlockIfNeeded
  dsimp only
  split
  · rename_i applies
    split
    · exact .inl rfl
    · exact .inl rfl
    · rename_i detail _ announced
      obtain ⟨event, ip⟩ := decideSuspiciousIpBlock_detail announced
      refine .inr ⟨_, _, rfl, applies, ?_, ?_, rfl, ?_⟩
      · simp [isBlockOf, AuditLogModel.detailValue, AuditLogModel.hasEvent, event, ip]
      · intro other different
        simp [isBlockOf, AuditLogModel.detailValue, ip, Ne.symm different]
      · intro delivery member other
        obtain ⟨sent, _, rfl⟩ : ∃ sent, _ ∧ recordDeliveryResult sent recordedAt = delivery := by
          simpa using member
        simp [isBlockOf, recordDeliveryResult]
  · exact .inl rfl

/-- `record` is the latest block of the address in the log. -/
def LatestBlock (clientIp : String) (record : AuditLogModel) (auditLogs : List AuditLogModel) :
    Prop :=
  ∃ front, auditLogs.filter (isBlockOf clientIp) = front ++ [record] ∧
    ∀ log ∈ front, log.getLogCreatedAt.micros ≤ record.getLogCreatedAt.micros

theorem LatestBlock.mem {record : AuditLogModel} (latest : LatestBlock clientIp record auditLogs) :
    record ∈ auditLogs ∧ isBlockOf clientIp record = true := by
  obtain ⟨front, blocks, _⟩ := latest
  have member : record ∈ auditLogs.filter (isBlockOf clientIp) := by simp [blocks]
  simpa using member

/-- The block records of the window are the blocks of the address inside it. -/
theorem filter_lookupLogs :
    (lookupLogs settings auditLogs clientIp now).filter (·.hasEvent "login_blocked_ip") =
      (auditLogs.filter (isBlockOf clientIp)).filter fun log =>
        now - settings.effectiveLookupWindow ≤ log.getLogCreatedAt.micros := by
  unfold lookupLogs loadRecentIpLogs
  rw [List.filter_filter, List.filter_filter]
  refine List.filter_congr fun log _ => ?_
  simp only [isBlockOf, Datetime.add, Datetime.utc, ← sub_eq_add_neg, Bool.decide_and]
  grind

/-- **One covered evaluation.** While the latest block of the address has not
ended and the window covers it, the evaluation reports the address as blocked
and adds no record. -/
theorem enforce_of_covered {record : AuditLogModel} (applies : settings.appliesTo clientIp = true)
    (latest : LatestBlock clientIp record auditLogs)
    (unexpired : now < (getBlockedUntil record settings.blockWindow).micros)
    (covered : Covered settings auditLogs clientIp now) :
    enforceSuspiciousIpBlockIfNeeded settings notifyIfNeeded auditLogs clientIp (.utc now)
      recordedAt = (true, []) := by
  obtain ⟨member, isBlock⟩ := latest.mem
  obtain ⟨inWindow, suspicious⟩ := covered record member isBlock unexpired
  obtain ⟨front, blocks, ordered⟩ := latest
  have recent : now - settings.effectiveLookupWindow ≤ record.getLogCreatedAt.micros := by
    have := (List.mem_filter.mp inWindow).2
    simp only [decide_eq_true_eq] at this
    simpa [Datetime.add, Datetime.utc, sub_eq_add_neg] using this.2.2.2
  have last : (blockedLogs (lookupLogs settings auditLogs clientIp now)).getLast? =
      some record := by
    unfold blockedLogs
    rw [filter_lookupLogs, blocks, List.filter_append, List.filter_singleton,
      decide_eq_true recent, cond_true, insertionSort_concat]
    · simp
    · exact fun log kept => ordered log (List.mem_of_mem_filter kept)
  have decided : decideSuspiciousIpBlock (lookupLogs settings auditLogs clientIp now) clientIp
      (.utc now) settings.blockWindow settings.escalationEnabled settings.escalationMultiplier
      settings.maxBlockWindow = { blocked := true } :=
    decideSuspiciousIpBlock_of_unexpired suspicious last unexpired
  have normalized : (Datetime.utc now).normalizeUtc = Datetime.utc now := rfl
  unfold enforceSuspiciousIpBlockIfNeeded
  unfold lookupLogs at decided
  simp only [applies, ↓reduceIte, normalized, decided]

/-- A covered step at a time before the end of the latest block of an address
leaves it the latest block. -/
theorem LatestBlock.stepLogs {record : AuditLogModel} {blockedUntil : Int}
    (latest : LatestBlock clientIp record auditLogs) (applies : settings.appliesTo clientIp = true)
    (until_eq : (getBlockedUntil record settings.blockWindow).micros = blockedUntil)
    {step : AnomalyStep} (timely : ∀ other time stamp, step = .evaluate other time stamp →
      time < blockedUntil ∧ Covered settings auditLogs other time)
    (appended : ∀ log, step = .append log → ∀ other, isBlockOf other log = false) :
    LatestBlock clientIp record (stepLogs settings notifyIfNeeded auditLogs step) := by
  obtain ⟨front, blocks, ordered⟩ := id latest
  cases step with
  | append log =>
      refine ⟨front, ?_, ordered⟩
      simp [Auth.stepLogs, blocks, appended log rfl clientIp]
  | evaluate other time stamp =>
      obtain ⟨early, covered⟩ := timely other time stamp rfl
      have unchanged : (addedRecords settings notifyIfNeeded auditLogs other time stamp).filter
          (isBlockOf clientIp) = [] := by
        by_cases same : other = clientIp
        · subst same
          unfold addedRecords
          rw [enforce_of_covered applies latest (by omega) covered]
          rfl
        · obtain nothing | ⟨added, deliveries, wrote, isNew⟩ :
              addedRecords settings notifyIfNeeded auditLogs other time stamp = [] ∨ _ :=
            addedRecords_cases
          · rw [nothing]
            rfl
          · rw [wrote, List.filter_cons_of_neg
              (by simp [isNew.ofNoOther clientIp (Ne.symm same)])]
            exact List.filter_eq_nil_iff.mpr fun delivery member => by
              simp [isNew.deliveries delivery member clientIp]
      exact ⟨front, by simp [Auth.stepLogs, blocks, unchanged], ordered⟩

end Evaluation

section Runs

variable {settings : SuspiciousBlockSettings}
  {notifyIfNeeded : AuditLogModel → Option AlertDelivery} {auditLogs : List AuditLogModel}
  {clock : Int}

private theorem wholeSecond_mono {first second : Int} (ordered : first ≤ second) :
    (Datetime.utc first).wholeSecond.micros ≤ (Datetime.utc second).wholeSecond.micros := by
  simp only [Datetime.utc, Datetime.wholeSecond]
  omega

/-- A run that is well timed reaches its later part with a clock that has not
gone back and with every block stamped before it. -/
theorem WellTimed.split {before rest : List AnomalyStep}
    (timed : WellTimed clock (before ++ rest)) (stamped : StampedBefore clock auditLogs) :
    ∃ later, WellTimed later rest ∧
      StampedBefore later (runLogs settings notifyIfNeeded auditLogs before) := by
  induction before generalizing clock auditLogs with
  | nil => exact ⟨clock, timed, stamped⟩
  | cons step before ih =>
      cases step with
      | append log =>
          obtain ⟨noBlock, timed⟩ := timed
          refine ih timed fun record member clientIp isBlock => ?_
          rcases List.mem_append.mp member with old | new
          · exact stamped record old clientIp isBlock
          · obtain rfl := List.mem_singleton.mp new
            simp [noBlock clientIp] at isBlock
      | evaluate other time stamp =>
          obtain ⟨notBack, recordedLater, timed⟩ := timed
          refine ih timed fun record member clientIp isBlock => ?_
          rcases List.mem_append.mp member with old | new
          · exact (stamped record old clientIp isBlock).trans
              (wholeSecond_mono (notBack.trans recordedLater))
          · obtain nothing | ⟨added, deliveries, wrote, isNew⟩ :
                addedRecords settings notifyIfNeeded auditLogs other time stamp = [] ∨ _ :=
              addedRecords_cases
            · simp [nothing] at new
            · rw [wrote] at new
              rcases List.mem_cons.mp new with rfl | sent
              · rw [isNew.stamped]
              · simp [isNew.deliveries record sent clientIp] at isBlock

theorem WellTimed.le {between after : List AnomalyStep} {clientIp : String} {now recordedAt : Int}
    (timed : WellTimed clock (between ++ .evaluate clientIp now recordedAt :: after)) :
    clock ≤ now := by
  induction between generalizing clock with
  | nil => exact timed.1
  | cons step between ih =>
      cases step with
      | append log => exact ih timed.2
      | evaluate other time stamp =>
          obtain ⟨notBack, recordedLater, timed⟩ := timed
          exact notBack.trans (recordedLater.trans (ih timed))

theorem CoveredRun.split {before rest : List AnomalyStep}
    (covered : CoveredRun settings notifyIfNeeded auditLogs (before ++ rest)) :
    CoveredRun settings notifyIfNeeded (runLogs settings notifyIfNeeded auditLogs before) rest := by
  induction before generalizing auditLogs with
  | nil => exact covered
  | cons step before ih =>
      cases step with
      | append log => exact ih covered
      | evaluate other time stamp => exact ih covered.2

/-- The latest block of an address stays the latest through a covered stretch of
the run that leads to an evaluation before its end. -/
theorem LatestBlock.runLogs {clientIp : String} {record : AuditLogModel}
    (latest : LatestBlock clientIp record auditLogs)
    (applies : settings.appliesTo clientIp = true) {between after : List AnomalyStep}
    {now recordedAt : Int}
    (timed : WellTimed clock (between ++ .evaluate clientIp now recordedAt :: after))
    (covered : CoveredRun settings notifyIfNeeded auditLogs
      (between ++ .evaluate clientIp now recordedAt :: after))
    (unexpired : now < (getBlockedUntil record settings.blockWindow).micros) :
    LatestBlock clientIp record (runLogs settings notifyIfNeeded auditLogs between) := by
  induction between generalizing auditLogs clock with
  | nil => exact latest
  | cons step between ih =>
      cases step with
      | append log =>
          obtain ⟨noBlock, timed⟩ := timed
          refine ih (latest.stepLogs applies rfl (by simp) ?_) timed covered
          rintro _ ⟨rfl⟩
          exact noBlock
      | evaluate other time stamp =>
          obtain ⟨_, recordedLater, timed⟩ := timed
          obtain ⟨coveredNow, coveredRest⟩ := covered
          have early : time ≤ now := recordedLater.trans timed.le
          refine ih (latest.stepLogs applies rfl ?_ (by simp)) timed coveredRest
          rintro _ _ _ ⟨rfl⟩
          exact ⟨lt_of_le_of_lt early unexpired, coveredNow⟩

/-- **A covered block lasts as announced.** In every run whose times never
decrease and whose evaluations are all covered by their window, each evaluation
of a blocked address before the announced end reports it as blocked, whichever
duration was announced. -/
theorem blockLasts_of_covered {history : List AuditLogModel} {steps : List AnomalyStep}
    (stamped : StampedBefore clock history) (timed : WellTimed clock steps)
    (covered : CoveredRun settings notifyIfNeeded history steps) :
    BlockLasts settings notifyIfNeeded history steps := by
  intro before clientIp now₀ recordedAt₀ between now recordedAt after run record blockedUntil
    wrote announced early
  subst run
  obtain ⟨clock₀, ⟨notBack, recordedLater, timedLater⟩, stamped₀⟩ :
      ∃ later, WellTimed later _ ∧
        StampedBefore later (runLogs settings notifyIfNeeded history before) :=
    timed.split stamped
  obtain ⟨_, coveredLater⟩ := covered.split
  obtain nothing | ⟨added, deliveries, wroteAll, isNew⟩ :
      addedRecords settings notifyIfNeeded (runLogs settings notifyIfNeeded history before)
        clientIp now₀ recordedAt₀ = [] ∨ _ := addedRecords_cases
  · simp [nothing] at wrote
  obtain rfl : added = record := by simpa [wroteAll] using wrote
  have unexpired : now < (getBlockedUntil added settings.blockWindow).micros := by
    simpa [getBlockedUntil, announced] using early
  have latest : LatestBlock clientIp added (stepLogs settings notifyIfNeeded
      (runLogs settings notifyIfNeeded history before) (.evaluate clientIp now₀ recordedAt₀)) := by
    refine ⟨(Auth.runLogs settings notifyIfNeeded history before).filter (isBlockOf clientIp),
      ?_, fun log member => ?_⟩
    · have noMore : deliveries.filter (isBlockOf clientIp) = [] :=
        List.filter_eq_nil_iff.mpr fun delivery member => by
          simp [isNew.deliveries delivery member clientIp]
      simp [Auth.stepLogs, wroteAll, isNew.isBlock, noMore]
    · obtain ⟨member, isBlock⟩ := List.mem_filter.mp member
      have before₀ := stamped₀ log member clientIp isBlock
      have after₀ := wholeSecond_mono (notBack.trans recordedLater)
      simpa [AuditLogModel.getLogCreatedAt, isNew.stamped] using before₀.trans after₀
  have atEvaluation := latest.runLogs isNew.applies timedLater coveredLater unexpired
  have coveredNow := coveredLater.split.1
  have split : runLogs settings notifyIfNeeded history
      (before ++ .evaluate clientIp now₀ recordedAt₀ :: between) =
      runLogs settings notifyIfNeeded (stepLogs settings notifyIfNeeded
        (runLogs settings notifyIfNeeded history before)
        (.evaluate clientIp now₀ recordedAt₀)) between := by
    simp [Auth.runLogs]
  rw [split]
  unfold reportsBlocked
  rw [enforce_of_covered isNew.applies atEvaluation unexpired coveredNow]

end Runs

section Example

/-- Block for thirty minutes, without escalation. -/
def stockBlockSettings : SuspiciousBlockSettings where
  blockWindow := Timedelta.minutes 30
  escalationWindow := some (Timedelta.minutes 1440)
  maxBlockWindow := some (Timedelta.minutes 1440)

/-- A suspicious login of the address at time zero. -/
def suspiciousHistory : List AuditLogModel :=
  auditRecord (fun _ => none) "system" "update" "user" "203.0.113.9" "203.0.113.9"
    (some [("event", .text "login_suspicious"), ("client_ip", .text "203.0.113.9")]) 0

/-- The evaluation of the address at the given minute. -/
def evaluateAt (minute : Int) : AnomalyStep :=
  .evaluate "203.0.113.9" (Timedelta.minutes minute) (Timedelta.minutes minute)

/-- Evaluated in minutes 1 and 29, the block announced until minute 31 holds. -/
theorem blockLasts_covered_example :
    BlockLasts stockBlockSettings (fun _ => none) suspiciousHistory [evaluateAt 1, evaluateAt 29] :=
  have stamped : StampedBefore 0 suspiciousHistory := by
    intro log member clientIp isBlock
    have noBlock : ∀ log ∈ suspiciousHistory, log.hasEvent "login_blocked_ip" = false := by decide
    simp [isBlockOf, noBlock log member] at isBlock
  blockLasts_of_covered stamped ⟨by decide, by decide, by decide, by decide, trivial⟩
    ⟨by decide, by decide, trivial⟩

/-- Blocked in minute 20 until minute 50, the address is let through in minute 31:
the suspicious login behind the block has left the window of thirty minutes. -/
theorem block_cut_short :
    ¬BlockLasts stockBlockSettings (fun _ => none) suspiciousHistory
      [evaluateAt 20, evaluateAt 31] := by
  intro lasts
  have stillBlocked := lasts [] "203.0.113.9" (Timedelta.minutes 20) (Timedelta.minutes 20) []
    (Timedelta.minutes 31) (Timedelta.minutes 31) [] rfl _ _ rfl rfl (by decide)
  revert stillBlocked
  decide

end Example

end TraefikManager.Auth
