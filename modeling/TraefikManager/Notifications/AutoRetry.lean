import TraefikManager.Foundation.RetryChains
import TraefikManager.Foundation.StepRun
import TraefikManager.Notifications.DeliveryLog
import TraefikManager.UuidText

/-!
# Automatic retries of failed deliveries

Every few minutes the newest rows of the audit log are searched for failed deliveries that no
row retries yet. They are delivered again one after the other, and the records of a run are
committed together at its end: an exception of a delivery takes back the records of those
before it, although their alerts were sent.
-/

namespace TraefikManager.Notifications

open Foundation Monitoring

/-- `timedelta(hours=ALERT_RETRY_WINDOW_HOURS)` in microseconds. -/
def alertRetryWindow : Int := 24 * 3600000000

/-- `MAX_AUTO_RETRY_ATTEMPTS` and `MAX_RETRIES_PER_RUN`. -/
def maxAutoRetryAttempts : Nat := 3
def maxRetriesPerRun : Nat := 5

/-- How the database answers `order_by(desc(created_at))`: rows of one time come in any order. -/
structure NewestFirst where
  arrange : List AuditLogModel → List AuditLogModel
  perm : ∀ logs, (arrange logs).Perm logs
  sorted : ∀ logs, (arrange logs).Pairwise fun first second =>
    second.createdAt.micros ≤ first.createdAt.micros

section Selection

variable (python : PyValues) (database : NewestFirst)

/-- The rows a run reads. -/
def recentAlerts (now : Int) (logs : List AuditLogModel) : List AuditLogModel :=
  (database.arrange (logs.filter fun log =>
    log.action = "alert" ∧ now - alertRetryWindow ≤ log.createdAt.micros)).take 200

/-- `str(retry_of)` of a row that is a retry. -/
def retriedId (log : AuditLogModel) : Option String :=
  if truthy (log.detailOrEmpty.get? "retry_of_audit_id") then
    some (python.str (log.detailOrEmpty.get "retry_of_audit_id"))
  else none

/-- Whether a row is a failed delivery that may be retried. A row that lacks what a retry needs
is passed over; any other exception escapes. -/
def isRetryCandidate (retriedIds : List String) (now : Int) (log : AuditLogModel) :
    Except PyException Bool :=
  match getEvent log with
  | none => .ok false
  | some event =>
      if event ∉ failureEvents ∨ log.id.text ∈ retriedIds then .ok false
      else
        match autoRetryAttempt python log with
        | .ok attempts =>
            match buildRetryDeliveryContext log now with
            | .ok _ => .ok (attempts < maxAutoRetryAttempts)
            | .error (.typeError _) | .error (.valueError _) => .ok false
            | .error failure => .error failure
        | .error (.typeError _) | .error (.valueError _) => .ok false
        | .error failure => .error failure

/-- The candidates among rows, in their order. -/
def candidatesAmong (retriedIds : List String) (now : Int) :
    List AuditLogModel → Except PyException (List AuditLogModel)
  | [] => .ok []
  | log :: rest => do
      let keep ← isRetryCandidate python retriedIds now log
      let candidates ← candidatesAmong retriedIds now rest
      .ok (if keep then log :: candidates else candidates)

/-- `select_auto_retry_candidates`. -/
def selectAutoRetryCandidates (now : Int) (logs : List AuditLogModel) :
    Except PyException (List AuditLogModel) :=
  (candidatesAmong python (logs.filterMap (retriedId python)) now logs).map (·.take maxRetriesPerRun)

end Selection

/-- A retry that was completed: the failed delivery and the record of the new one. -/
abbrev CompletedRetry := Retry AuditLogModel

/-- The deliveries a run began, those that came to an end, and the exception that ended it. -/
structure RunReport where
  attempted : List AuditLogModel
  completed : List CompletedRetry
  escaped : Option PyException

/-- What a run meets: the rows others recorded since the run before, its time, and how the
delivery of each row would go. -/
structure RetryRun where
  arrived : List AuditLogModel
  now : Int
  delivery : AuditLogModel → Delivery

section Runs

variable (python : PyValues) (database : NewestFirst)

/-- The deliveries of the candidates in turn, up to the first exception. -/
def retryEach (delivery : AuditLogModel → Delivery) : List AuditLogModel → RunReport
  | [] => ⟨[], [], none⟩
  | log :: rest =>
      match retryDelivery python log .automaticRetry (delivery log) with
      | .error failure => ⟨[log], [], some failure⟩
      | .ok record =>
          let later := retryEach delivery rest
          ⟨log :: later.attempted, ⟨log, record⟩ :: later.completed, later.escaped⟩

/-- `retry_failed_deliveries_once`. -/
def retryFailedDeliveriesOnce (run : RetryRun) (logs : List AuditLogModel) : RunReport :=
  match selectAutoRetryCandidates python run.now (recentAlerts database run.now logs) with
  | .error failure => ⟨[], [], some failure⟩
  | .ok candidates => retryEach python run.delivery candidates

/-- `retry_failed_alerts_once`: the records are committed when the run comes to its end. -/
def retryFailedAlertsOnce (run : RetryRun) (history : List AuditLogModel) :
    List AuditLogModel × RunReport :=
  let logs := history ++ run.arrived
  let report := retryFailedDeliveriesOnce python database run logs
  match report.escaped with
  | none => (logs ++ report.completed.map (·.recorded), report)
  | some _ => (logs, report)

/-- The retries that were completed in all runs. -/
def completedRetries (reports : List RunReport) : List CompletedRetry :=
  reports.flatMap (·.completed)

/-- What holds of the runs together. -/
structure RetriesOnce (reports : List RunReport) : Prop where
  /-- No failed delivery is retried by two completed attempts. -/
  once : ((completedRetries reports).map (·.retried.id)).Nodup
  /-- The completed attempts that descend from one failed delivery are few. -/
  chains : ∀ (original : AuditLogModel) (chain : List CompletedRetry),
    chain.Sublist (completedRetries reports) →
      (∀ attempt ∈ chain, ∃ depth,
        Retry.Descends (completedRetries reports) original depth attempt) →
      chain.length ≤ maxAutoRetryAttempts
  bounded : ∀ report ∈ reports, report.attempted.length ≤ maxRetriesPerRun

/-- A row whose number of attempts, where it has one, is a number of attempts. -/
def CountsAttempts (log : AuditLogModel) : Prop :=
  ∀ attempts, autoRetryAttempt python log = .ok attempts → 0 ≤ attempts

/-- Time goes on from run to run, and identifiers are not used twice. -/
structure TimelyRun (run : RetryRun) (history : List AuditLogModel) : Prop where
  past : ∀ log ∈ history ++ run.arrived, log.createdAt.micros < run.now
  ahead : ∀ log ∈ history ++ run.arrived, run.now ≤ (run.delivery log).recordedAt
  distinct : ((history ++ run.arrived).map (·.id) ++
    (history ++ run.arrived).map fun log => (run.delivery log).recordId).Nodup
  counted : ∀ log ∈ run.arrived, CountsAttempts python log

/-- Only the first delivery of a run may end in an exception. -/
def EscapesFirst (run : RetryRun) (history : List AuditLogModel) : Prop :=
  ∀ candidates, selectAutoRetryCandidates python run.now
      (recentAlerts database run.now (history ++ run.arrived)) = .ok candidates →
    ∀ log ∈ candidates.tail, ∃ result, (run.delivery log).outcome = .ok result

end Runs

section Candidates

variable {python : PyValues} {database : NewestFirst} {log : AuditLogModel}

private theorem isRetryCandidate_eq_true {retriedIds : List String} {now : Int}
    (isCandidate : isRetryCandidate python retriedIds now log = .ok true) :
    log.id.text ∉ retriedIds ∧
      (∃ attempts, autoRetryAttempt python log = .ok attempts ∧ attempts < maxAutoRetryAttempts) ∧
      ∃ retryContext, buildRetryDeliveryContext log now = .ok retryContext := by
  unfold isRetryCandidate at isCandidate
  split at isCandidate
  · cases isCandidate
  · split at isCandidate
    · cases isCandidate
    · rename_i notExcluded
      split at isCandidate
      · rename_i attempts counted
        split at isCandidate
        · rename_i retryContext built
          exact ⟨fun retried => notExcluded (.inr retried),
            ⟨attempts, counted, by simpa using isCandidate⟩, retryContext, built⟩
        all_goals cases isCandidate
      all_goals cases isCandidate

/-- Whether a row has what a retry needs does not depend on the time. -/
theorem exists_retryContext {now other : Int}
    (built : ∃ retryContext, buildRetryDeliveryContext log now = .ok retryContext) :
    ∃ retryContext, buildRetryDeliveryContext log other = .ok retryContext := by
  obtain ⟨retryContext, built⟩ := built
  unfold buildRetryDeliveryContext at built ⊢
  cases event : getEvent log with
  | none =>
      rw [event] at built
      cases built
  | some event' =>
      simp only [event] at built ⊢
      split at built
      · cases built
      · rename_i isFailure
        rw [if_neg isFailure]
        split at built
        · exact ⟨_, rfl⟩
        · cases built

private theorem candidatesAmong_spec {retriedIds : List String} {now : Int}
    {logs : List AuditLogModel} :
    ∀ {candidates}, candidatesAmong python retriedIds now logs = .ok candidates →
      candidates.Sublist logs ∧
        ∀ log ∈ candidates, isRetryCandidate python retriedIds now log = .ok true := by
  induction logs with
  | nil =>
      intro candidates selected
      cases selected
      exact ⟨.slnil, by simp⟩
  | cons log rest ih =>
      intro candidates selected
      obtain ⟨keep, decided, selected⟩ := bind_eq_ok.mp selected
      obtain ⟨later, selectedLater, selected⟩ := bind_eq_ok.mp selected
      obtain ⟨sub, each⟩ := ih selectedLater
      cases selected
      cases keep with
      | false => exact ⟨sub.cons log, each⟩
      | true =>
          refine ⟨sub.cons_cons log, ?_⟩
          intro found listed
          obtain rfl | inRest := List.mem_cons.mp listed
          · exact decided
          · exact each found inRest

private theorem mem_recentAlerts {now : Int} {logs : List AuditLogModel}
    (listed : log ∈ recentAlerts database now logs) :
    log ∈ logs ∧ now - alertRetryWindow ≤ log.createdAt.micros := by
  have inAnswer := (database.perm _).mem_iff.mp (List.mem_of_mem_take listed)
  obtain ⟨inLogs, passes⟩ := List.mem_filter.mp inAnswer
  exact ⟨inLogs, (of_decide_eq_true passes).2⟩

/-- A run that reads a row reads every newer alert. -/
theorem newer_mem_recentAlerts {now : Int} {logs : List AuditLogModel} {newer : AuditLogModel}
    (listed : log ∈ recentAlerts database now logs) (inLogs : newer ∈ logs)
    (isAlert : newer.action = "alert") (isNewer : log.createdAt.micros < newer.createdAt.micros) :
    newer ∈ recentAlerts database now logs := by
  have inWindow := (mem_recentAlerts listed).2
  have passes : newer ∈ logs.filter fun log =>
      log.action = "alert" ∧ now - alertRetryWindow ≤ log.createdAt.micros :=
    List.mem_filter.mpr ⟨inLogs, decide_eq_true ⟨isAlert, by omega⟩⟩
  have inAnswer := (database.perm _).mem_iff.mpr passes
  have sorted := database.sorted (logs.filter fun log =>
    log.action = "alert" ∧ now - alertRetryWindow ≤ log.createdAt.micros)
  unfold recentAlerts at listed ⊢
  rw [← List.take_append_drop 200 (database.arrange _)] at inAnswer sorted
  obtain inFront | inBack := List.mem_append.mp inAnswer
  · exact inFront
  · -- what was cut off is no newer than anything that was read
    have ordered := (List.pairwise_append.mp sorted).2.2 log listed newer inBack
    omega

end Candidates

section Records

variable {python : PyValues} {log record : AuditLogModel} {delivery : Delivery}

/-- What the record of a completed retry says. -/
structure RecordsRetry (python : PyValues) (log record : AuditLogModel) (delivery : Delivery) :
    Prop where
  id_eq : record.id = delivery.recordId
  isAlert : record.action = "alert"
  createdAt_eq : record.createdAt.micros = delivery.recordedAt
  marks : retriedId python record = some log.id.text
  counts : ∀ attempts, autoRetryAttempt python log = .ok attempts → 0 ≤ attempts →
    autoRetryAttempt python record = .ok (attempts + 1)

private theorem retryDelivery_spec
    (recorded : retryDelivery python log .automaticRetry delivery = .ok record) :
    RecordsRetry python log record delivery := by
  obtain ⟨retryContext, -, recorded⟩ := bind_eq_ok.mp recorded
  obtain ⟨⟨success, deliveryDetail⟩, -, recorded⟩ := bind_eq_ok.mp recorded
  obtain ⟨extraDetail, extra, recorded⟩ := bind_eq_ok.mp recorded
  obtain ⟨attempts, counted, rfl⟩ := map_eq_ok.mp extra
  cases recorded
  have marked : ∀ fields : Detail, (fields.setAll ([("trigger", Json.string "automatic_retry"),
      ("retry_of_audit_id", Json.string log.id.text)] ++
      [("auto_retry_attempt", Json.int (attempts + 1)),
        ("retry_root_audit_id", retryRootAuditId log)])).get? "retry_of_audit_id" =
      some (.string log.id.text) := by
    intro fields
    simp [Dict.get?_set]
  have numbered : ∀ fields : Detail, (fields.setAll ([("trigger", Json.string "automatic_retry"),
      ("retry_of_audit_id", Json.string log.id.text)] ++
      [("auto_retry_attempt", Json.int (attempts + 1)),
        ("retry_root_audit_id", retryRootAuditId log)])).get? "auto_retry_attempt" =
      some (.int (attempts + 1)) := by
    intro fields
    simp [Dict.get?_set]
  constructor
  · rfl
  · rfl
  · rfl
  · unfold retriedId
    simp only [recordDeliveryResult, AuditLogModel.detailOrEmpty, Option.getD_some, Detail.get,
      RetryTrigger.text, marked, truthy, PyValues.str]
    simp [log.id.text_ne_empty]
  · intro other counted' nonneg
    rw [counted] at counted'
    cases counted'
    unfold autoRetryAttempt
    simp only [recordDeliveryResult, AuditLogModel.detailOrEmpty, Option.getD_some, Detail.get,
      RetryTrigger.text, numbered, truthy, PyValues.int]
    have : attempts + 1 ≠ 0 := by omega
    simp [this]

end Records

section Steps

variable {python : PyValues} {database : NewestFirst} {log : AuditLogModel}
  {delivery : AuditLogModel → Delivery}

/-- The retry of a candidate ends in an exception only where its delivery does. -/
theorem exists_record {retriedIds : List String} {now : Int}
    (isCandidate : isRetryCandidate python retriedIds now log = .ok true)
    (delivered : ∃ result, (delivery log).outcome = .ok result) :
    ∃ record, retryDelivery python log .automaticRetry (delivery log) = .ok record := by
  obtain ⟨-, ⟨attempts, counted, -⟩, built⟩ := isRetryCandidate_eq_true isCandidate
  obtain ⟨retryContext, built⟩ := @exists_retryContext log now (delivery log).recordedAt built
  obtain ⟨result, delivered⟩ := delivered
  unfold retryDelivery retryExtraDetail
  simp only [built, delivered, counted]
  exact ⟨_, rfl⟩

private theorem retryEach_sublist (candidates : List AuditLogModel) :
    (retryEach python delivery candidates).attempted.Sublist candidates ∧
      ((retryEach python delivery candidates).completed.map (·.retried)).Sublist candidates := by
  induction candidates with
  | nil => exact ⟨.slnil, .slnil⟩
  | cons log rest ih =>
      unfold retryEach
      cases retryDelivery python log .automaticRetry (delivery log) with
      | error failure => exact ⟨(List.nil_sublist rest).cons_cons log, List.nil_sublist _⟩
      | ok record => exact ⟨ih.1.cons_cons log, ih.2.cons_cons log⟩

private theorem retryEach_recorded {candidates : List AuditLogModel} {attempt : CompletedRetry}
    (made : attempt ∈ (retryEach python delivery candidates).completed) :
    retryDelivery python attempt.retried .automaticRetry (delivery attempt.retried) =
      .ok attempt.recorded := by
  induction candidates with
  | nil => cases made
  | cons log rest ih =>
      unfold retryEach at made
      cases recorded : retryDelivery python log .automaticRetry (delivery log) with
      | error failure =>
          rw [recorded] at made
          cases made
      | ok record =>
          rw [recorded] at made
          obtain rfl | later := List.mem_cons.mp made
          · exact recorded
          · exact ih later

private theorem retryEach_escaped {candidates : List AuditLogModel}
    (each : ∀ log ∈ candidates, ∃ record,
      retryDelivery python log .automaticRetry (delivery log) = .ok record) :
    (retryEach python delivery candidates).escaped = none := by
  induction candidates with
  | nil => rfl
  | cons log rest ih =>
      obtain ⟨record, recorded⟩ := each log List.mem_cons_self
      unfold retryEach
      rw [recorded]
      exact ih fun other inRest => each other (List.mem_cons_of_mem _ inRest)

/-- Where only the first delivery may escape, a run that is taken back completed none. -/
theorem retryEach_first {candidates : List AuditLogModel}
    (each : ∀ log ∈ candidates.tail, ∃ record,
      retryDelivery python log .automaticRetry (delivery log) = .ok record) :
    (retryEach python delivery candidates).escaped = none ∨
      (retryEach python delivery candidates).completed = [] := by
  cases candidates with
  | nil => exact .inl rfl
  | cons log rest =>
      unfold retryEach
      cases retryDelivery python log .automaticRetry (delivery log) with
      | error failure => exact .inr rfl
      | ok record => exact .inl (retryEach_escaped each)

/-- What a run does, by the candidates it selects. -/
theorem selectAutoRetryCandidates_spec {now : Int} {logs candidates : List AuditLogModel}
    (selected : selectAutoRetryCandidates python now logs = .ok candidates) :
    candidates.Sublist logs ∧ candidates.length ≤ maxRetriesPerRun ∧
      ∀ log ∈ candidates,
        isRetryCandidate python (logs.filterMap (retriedId python)) now log = .ok true := by
  obtain ⟨all, among, rfl⟩ := map_eq_ok.mp selected
  obtain ⟨sub, each⟩ := candidatesAmong_spec among
  refine ⟨(List.take_sublist _ _).trans sub, List.length_take_le _ _, ?_⟩
  intro log listed
  exact each log (List.mem_of_mem_take listed)

variable {run : RetryRun} {history : List AuditLogModel}

private theorem retryFailedDeliveriesOnce_of_error {logs : List AuditLogModel}
    {failure : PyException}
    (failed : selectAutoRetryCandidates python run.now (recentAlerts database run.now logs) =
      .error failure) :
    retryFailedDeliveriesOnce python database run logs = ⟨[], [], some failure⟩ := by
  unfold retryFailedDeliveriesOnce
  rw [failed]

private theorem retryFailedDeliveriesOnce_of_ok {logs candidates : List AuditLogModel}
    (selected : selectAutoRetryCandidates python run.now (recentAlerts database run.now logs) =
      .ok candidates) :
    retryFailedDeliveriesOnce python database run logs =
      retryEach python run.delivery candidates := by
  unfold retryFailedDeliveriesOnce
  rw [selected]

private theorem retryFailedAlertsOnce_report :
    (retryFailedAlertsOnce python database run history).2 =
      retryFailedDeliveriesOnce python database run (history ++ run.arrived) := by
  unfold retryFailedAlertsOnce
  dsimp only
  split <;> rfl

/-- A run that ends, and one that completed nothing, leaves the records of what it completed. -/
theorem retryFailedAlertsOnce_history
    (kept : (retryFailedDeliveriesOnce python database run (history ++ run.arrived)).escaped = none ∨
      (retryFailedDeliveriesOnce python database run (history ++ run.arrived)).completed = []) :
    (retryFailedAlertsOnce python database run history).1 = history ++ run.arrived ++
      (retryFailedDeliveriesOnce python database run (history ++ run.arrived)).completed.map
        (·.recorded) := by
  unfold retryFailedAlertsOnce
  dsimp only
  split
  · rfl
  · rename_i failure escaped
    rw [escaped] at kept
    obtain impossible | nothing := kept
    · cases impossible
    · rw [nothing, List.map_nil, List.append_nil]

end Steps

/-- The committed log accounts for a retry that was completed. -/
structure Accounted (python : PyValues) (history : List AuditLogModel) (attempt : CompletedRetry) :
    Prop where
  retried : attempt.retried ∈ history
  recorded : attempt.recorded ∈ history
  isAlert : attempt.recorded.action = "alert"
  newer : attempt.retried.createdAt.micros < attempt.recorded.createdAt.micros
  marks : retriedId python attempt.recorded = some attempt.retried.id.text
  numbered : ∃ attempts,
    autoRetryAttempt python attempt.retried = .ok attempts ∧ 0 ≤ attempts ∧
      attempts < maxAutoRetryAttempts ∧
      autoRetryAttempt python attempt.recorded = .ok (attempts + 1)

theorem Accounted.mono {python : PyValues} {history later : List AuditLogModel}
    {attempt : CompletedRetry} (accounted : Accounted python history attempt)
    (subset : history ⊆ later) : Accounted python later attempt where
  retried := subset accounted.retried
  recorded := subset accounted.recorded
  isAlert := accounted.isAlert
  newer := accounted.newer
  marks := accounted.marks
  numbered := accounted.numbered

/-- The committed log accounts for all retries, and no row was retried twice. -/
structure RetryLedger (python : PyValues) (history : List AuditLogModel)
    (completed : List CompletedRetry) : Prop where
  distinct : (history.map (·.id)).Nodup
  counted : ∀ log ∈ history, CountsAttempts python log
  once : (completed.map (·.retried.id)).Nodup
  accounted : ∀ attempt ∈ completed, Accounted python history attempt

namespace RetryLedger

variable {python : PyValues} {database : NewestFirst} {history : List AuditLogModel}
  {completed made : List CompletedRetry} {run : RetryRun}

theorem initial (distinct : (history.map (·.id)).Nodup)
    (counted : ∀ log ∈ history, CountsAttempts python log) : RetryLedger python history [] where
  distinct := distinct
  counted := counted
  once := List.nodup_nil
  accounted := by
    intro attempt none
    cases none

/-- Rows that others record change nothing about the retries. -/
theorem arrive (ledger : RetryLedger python history completed)
    (timely : TimelyRun python run history) :
    RetryLedger python (history ++ run.arrived) completed where
  distinct := (List.nodup_append.mp timely.distinct).1
  counted := by
    intro log listed
    obtain before | new := List.mem_append.mp listed
    · exact ledger.counted log before
    · exact timely.counted log new
  once := ledger.once
  accounted := fun attempt inCompleted =>
    (ledger.accounted attempt inCompleted).mono (List.subset_append_left _ _)

/-- A row that a completed attempt retried is no candidate again: the record of the attempt is
newer, so a run that reads the row reads the record. -/
theorem not_again (ledger : RetryLedger python history completed) {attempt : CompletedRetry}
    (inCompleted : attempt ∈ completed) {log : AuditLogModel} {now : Int}
    (isRead : log ∈ recentAlerts database now history)
    (isCandidate : isRetryCandidate python
      ((recentAlerts database now history).filterMap (retriedId python)) now log = .ok true) :
    attempt.retried.id ≠ log.id := by
  intro sameId
  have accounted := ledger.accounted attempt inCompleted
  have same : attempt.retried = log := List.inj_on_of_nodup_map ledger.distinct
    accounted.retried (mem_recentAlerts isRead).1 sameId
  subst same
  have isReadToo :=
    newer_mem_recentAlerts isRead accounted.recorded accounted.isAlert accounted.newer
  apply (isRetryCandidate_eq_true isCandidate).1
  exact List.mem_filterMap.mpr ⟨_, isReadToo, accounted.marks⟩

/-- The records of a run's retries are accounted for. -/
theorem extend (ledger : RetryLedger python (history ++ run.arrived) completed)
    (timely : TimelyRun python run history) {candidates : List AuditLogModel}
    (selected : selectAutoRetryCandidates python run.now
      (recentAlerts database run.now (history ++ run.arrived)) = .ok candidates)
    (sub : (made.map (·.retried)).Sublist candidates)
    (each : ∀ attempt ∈ made, RecordsRetry python attempt.retried attempt.recorded
      (run.delivery attempt.retried)) :
    RetryLedger python (history ++ run.arrived ++ made.map (·.recorded)) (completed ++ made) := by
  obtain ⟨subRead, -, candidate⟩ := selectAutoRetryCandidates_spec selected
  have subset : ∀ attempt ∈ made, attempt.retried ∈ candidates := fun attempt inMade =>
    sub.subset (List.mem_map_of_mem inMade)
  have isRead : ∀ attempt ∈ made,
      attempt.retried ∈ recentAlerts database run.now (history ++ run.arrived) :=
    fun attempt inMade => subRead.subset (subset attempt inMade)
  have known : ∀ attempt ∈ made, attempt.retried ∈ history ++ run.arrived :=
    fun attempt inMade => (mem_recentAlerts (isRead attempt inMade)).1
  have candidatesDistinct : candidates.Nodup := by
    have rows := (List.Nodup.of_map _ ledger.distinct)
    have answer := (database.perm _).nodup_iff.mpr (rows.filter fun log =>
      log.action = "alert" ∧ run.now - alertRetryWindow ≤ log.createdAt.micros)
    exact (answer.sublist (List.take_sublist _ _)).sublist subRead
  have retriedDistinct : (made.map (·.retried)).Nodup := candidatesDistinct.sublist sub
  obtain ⟨-, newIds, apart⟩ := List.nodup_append.mp timely.distinct
  have recordId : ∀ attempt ∈ made,
      attempt.recorded.id = (run.delivery attempt.retried).recordId :=
    fun attempt inMade => (each attempt inMade).id_eq
  have inj : ∀ attempt ∈ made, ∀ other ∈ made, attempt.retried = other.retried →
      attempt = other := fun attempt inMade other inMade' =>
    List.inj_on_of_nodup_map retriedDistinct inMade inMade'
  constructor
  case distinct =>
    rw [List.map_append, List.nodup_append]
    refine ⟨ledger.distinct, ?_, ?_⟩
    · rw [List.map_map]
      refine (List.Nodup.of_map _ retriedDistinct).map_on ?_
      intro attempt inMade other inMade' same
      change attempt.recorded.id = other.recorded.id at same
      rw [recordId attempt inMade, recordId other inMade'] at same
      exact inj attempt inMade other inMade'
        (List.inj_on_of_nodup_map newIds (known attempt inMade) (known other inMade') same)
    · intro id old other new
      rw [List.map_map] at new
      obtain ⟨attempt, inMade, rfl⟩ := List.mem_map.mp new
      change id ≠ attempt.recorded.id
      rw [recordId attempt inMade]
      exact apart id old _ (List.mem_map.mpr ⟨_, known attempt inMade, rfl⟩)
  case counted =>
    intro log listed
    obtain old | new := List.mem_append.mp listed
    · exact ledger.counted log old
    · obtain ⟨attempt, inMade, rfl⟩ := List.mem_map.mp new
      obtain ⟨-, ⟨attempts, counted, -⟩, -⟩ :=
        isRetryCandidate_eq_true (candidate _ (subset attempt inMade))
      have nonneg := ledger.counted _ (known attempt inMade) attempts counted
      intro other counted'
      rw [(each attempt inMade).counts attempts counted nonneg] at counted'
      cases counted'
      omega
  case once =>
    rw [List.map_append, List.nodup_append]
    refine ⟨ledger.once, ?_, ?_⟩
    · refine (List.Nodup.of_map _ retriedDistinct).map_on ?_
      intro attempt inMade other inMade' same
      exact inj attempt inMade other inMade' (List.inj_on_of_nodup_map ledger.distinct
        (known attempt inMade) (known other inMade') same)
    · intro id before other after
      obtain ⟨attempt, inCompleted, rfl⟩ := List.mem_map.mp before
      obtain ⟨again, inMade, rfl⟩ := List.mem_map.mp after
      exact ledger.not_again inCompleted (isRead again inMade)
        (candidate _ (subset again inMade))
  case accounted =>
    intro attempt inAttempts
    obtain before | new := List.mem_append.mp inAttempts
    · exact (ledger.accounted attempt before).mono (List.subset_append_left _ _)
    · obtain ⟨-, ⟨attempts, counted, few⟩, -⟩ :=
        isRetryCandidate_eq_true (candidate _ (subset attempt new))
      have nonneg := ledger.counted _ (known attempt new) attempts counted
      have record := each attempt new
      constructor
      · exact List.mem_append_left _ (known attempt new)
      · exact List.mem_append_right _ (List.mem_map_of_mem new)
      · exact record.isAlert
      · rw [record.createdAt_eq]
        exact (timely.past _ (known attempt new)).trans_le (timely.ahead _ (known attempt new))
      · exact record.marks
      · exact ⟨attempts, counted, nonneg, few, record.counts attempts counted nonneg⟩

/-- One run. -/
theorem step (ledger : RetryLedger python history completed)
    (timely : TimelyRun python run history) (escapesFirst : EscapesFirst python database run history) :
    RetryLedger python (retryFailedAlertsOnce python database run history).1
        (completed ++ (retryFailedAlertsOnce python database run history).2.completed) ∧
      (retryFailedAlertsOnce python database run history).2.attempted.length ≤ maxRetriesPerRun := by
  have arrived := ledger.arrive timely
  rw [retryFailedAlertsOnce_report]
  cases selected : selectAutoRetryCandidates python run.now
      (recentAlerts database run.now (history ++ run.arrived)) with
  | error failure =>
      have report := retryFailedDeliveriesOnce_of_error selected
      rw [retryFailedAlertsOnce_history (.inr (by rw [report])), report]
      simpa using arrived
  | ok candidates =>
      obtain ⟨-, few, candidate⟩ := selectAutoRetryCandidates_spec selected
      obtain ⟨attempted, sub⟩ := @retryEach_sublist python run.delivery candidates
      have report := retryFailedDeliveriesOnce_of_ok selected
      have later : ∀ log ∈ candidates.tail, ∃ record,
          retryDelivery python log .automaticRetry (run.delivery log) = .ok record :=
        fun log listed => exists_record (candidate log (List.mem_of_mem_tail listed))
          (escapesFirst candidates selected log listed)
      rw [retryFailedAlertsOnce_history (by rw [report]; exact retryEach_first later), report]
      refine ⟨?_, attempted.length_le.trans few⟩
      exact arrived.extend timely selected sub fun attempt made =>
        retryDelivery_spec (retryEach_recorded made)

/-- All runs. -/
theorem steps (ledger : RetryLedger python history completed) {runs : List RetryRun}
    (timely : Throughout (retryFailedAlertsOnce python database) (TimelyRun python) history runs)
    (escapesFirst : Throughout (retryFailedAlertsOnce python database)
      (EscapesFirst python database) history runs) :
    ∃ final, RetryLedger python final (completed ++
        completedRetries (observedRun (retryFailedAlertsOnce python database) history runs)) ∧
      ∀ report ∈ observedRun (retryFailedAlertsOnce python database) history runs,
        report.attempted.length ≤ maxRetriesPerRun := by
  induction runs generalizing history completed with
  | nil =>
      refine ⟨history, ?_, by simp [observedRun]⟩
      simpa [observedRun, completedRetries] using ledger
  | cons run runs ih =>
      obtain ⟨timelyHere, timelyLater⟩ := timely
      obtain ⟨here, later⟩ := escapesFirst
      obtain ⟨next, few⟩ := ledger.step timelyHere here
      obtain ⟨final, ledgerFinal, fewLater⟩ := ih next timelyLater later
      refine ⟨final, ?_, ?_⟩
      · simpa [observedRun, completedRetries, List.append_assoc] using ledgerFinal
      · intro report listed
        obtain rfl | inRest := List.mem_cons.mp listed
        · exact few
        · exact fewLater report inRest

/-- The chains of the retries a log accounts for are short. -/
theorem length_chain_le (ledger : RetryLedger python history completed)
    {original : AuditLogModel} {chain : List CompletedRetry} (sub : chain.Sublist completed)
    (descend : ∀ attempt ∈ chain, ∃ depth, Retry.Descends completed original depth attempt) :
    chain.length ≤ maxAutoRetryAttempts := by
  have once : (completed.map Retry.retried).Nodup := by
    have ids := ledger.once
    rw [show (fun attempt : CompletedRetry => attempt.retried.id) =
      (fun log : AuditLogModel => log.id) ∘ Retry.retried from rfl, ← List.map_map] at ids
    exact List.Nodup.of_map _ ids
  let number : CompletedRetry → Nat := fun attempt =>
    match autoRetryAttempt python attempt.retried with
    | .ok attempts => attempts.toNat
    | .error _ => 0
  refine @Retry.length_chain_le _ completed original number _ once ?_ ?_ _ sub descend
  · intro earlier made later made' link
    obtain ⟨attempts, counted, nonneg, -, next⟩ := (ledger.accounted earlier made).numbered
    simp only [number, link, counted, next]
    omega
  · intro attempt made
    obtain ⟨attempts, counted, nonneg, few, -⟩ := (ledger.accounted attempt made).numbered
    simp only [number, counted]
    omega

end RetryLedger

/-- Runs in which only the first delivery may end in an exception retry each failed delivery
once, in short chains and a few at a time. -/
theorem retriesOnce_of_escapesFirst (python : PyValues) (database : NewestFirst)
    {history : List AuditLogModel} {runs : List RetryRun}
    (distinct : (history.map (·.id)).Nodup) (counted : ∀ log ∈ history, CountsAttempts python log)
    (timely : Throughout (retryFailedAlertsOnce python database) (TimelyRun python) history runs)
    (escapesFirst : Throughout (retryFailedAlertsOnce python database)
      (EscapesFirst python database) history runs) :
    RetriesOnce (observedRun (retryFailedAlertsOnce python database) history runs) := by
  obtain ⟨final, ledger, bounded⟩ := (RetryLedger.initial distinct counted).steps timely escapesFirst
  rw [List.nil_append] at ledger
  exact ⟨ledger.once, fun original chain sub descend => ledger.length_chain_le sub descend, bounded⟩

section Example

/-- One of the orders the database may answer in. -/
def insertionOrder : NewestFirst where
  arrange := List.insertionSort fun first second => second.createdAt.micros ≤ first.createdAt.micros
  perm := List.perm_insertionSort _
  sorted := by
    intro logs
    have total : Std.Total fun first second : AuditLogModel =>
        second.createdAt.micros ≤ first.createdAt.micros :=
      ⟨fun first second => le_total second.createdAt.micros first.createdAt.micros⟩
    have trans : IsTrans AuditLogModel fun first second =>
        second.createdAt.micros ≤ first.createdAt.micros :=
      ⟨fun _ _ _ below above => le_trans above below⟩
    exact List.pairwise_insertionSort _ logs

/-- A failed delivery of the alert about a changed service. -/
def failedDelivery (number : Nat) : AuditLogModel where
  id := ⟨BitVec.ofNat 128 number⟩
  actor := "system"
  action := "alert"
  resourceType := "settings"
  resourceId := "change-alert-delivery"
  resourceName := deliveryResourceName .change
  detail := some ⟨[("event", .string "change_alert_delivery_failure"),
    ("provider", .string "slack"), ("source_event", .string "service_update"),
    ("source_action", .string "update"), ("source_resource_type", .string "service"),
    ("source_resource_id", .string "1"), ("source_resource_name", .string "shop")], by decide⟩
  createdAt := .utc number

def failedDeliveries : List AuditLogModel := [failedDelivery 1, failedDelivery 2]

/-- A run that delivers everything but one row, whose delivery ends in an exception. -/
def runExcept (now escaping : Nat) : RetryRun where
  arrived := []
  now := now
  delivery log := {
    outcome :=
      if log.id.bits = BitVec.ofNat 128 escaping then .error (.valueError "Invalid URL")
      else .ok (true, "slack 채널로 전송했습니다")
    recordId := ⟨BitVec.ofNat 128 now + log.id.bits⟩
    recordedAt := now }

private theorem countsAttempts_failedDeliveries :
    ∀ log ∈ failedDeliveries, CountsAttempts noRepr log := by
  intro log listed attempts counted
  have noAttempt : autoRetryAttempt noRepr log = .ok 0 := by
    obtain rfl | rfl : log = failedDelivery 1 ∨ log = failedDelivery 2 := by
      simpa [failedDeliveries] using listed
    · rfl
    · rfl
  rw [noAttempt] at counted
  cases counted
  exact le_rfl

private theorem timelyRun_failedDeliveries {now escaping : Nat} (late : now = 100 ∨ now = 200) :
    TimelyRun noRepr (runExcept now escaping) failedDeliveries := by
  constructor
  · intro log listed
    have early : ∀ log ∈ failedDeliveries, log.createdAt.micros < 100 := by decide
    have isEarly := early log (by simpa [runExcept] using listed)
    have : (runExcept now escaping).now = now := rfl
    omega
  · intro log listed
    exact le_rfl
  · change (failedDeliveries.map (·.id) ++
      failedDeliveries.map fun log => (⟨BitVec.ofNat 128 now + log.id.bits⟩ : Uuid)).Nodup
    obtain rfl | rfl := late
    · decide
    · decide
  · intro log listed
    cases listed

/-- A run whose first delivery escapes, and the next run, which delivers both alerts. -/
theorem retriesOnce_of_escapesFirst_example :
    RetriesOnce (observedRun (retryFailedAlertsOnce noRepr insertionOrder) failedDeliveries
      [runExcept 100 2, runExcept 200 0]) := by
  have unchanged : (retryFailedAlertsOnce noRepr insertionOrder (runExcept 100 2)
      failedDeliveries).1 = failedDeliveries := rfl
  have escapesFirst : ∀ now escaping, escaping ≠ 1 → (now = 100 ∨ now = 200) →
      escaping = 0 ∨ escaping = 2 →
      EscapesFirst noRepr insertionOrder (runExcept now escaping) failedDeliveries := by
    intro now escaping other late known candidates selected log listed
    have inOrder : selectAutoRetryCandidates noRepr now (recentAlerts insertionOrder now
        failedDeliveries) = .ok [failedDelivery 2, failedDelivery 1] := by
      obtain rfl | rfl := late
      · rfl
      · rfl
    have selected' : selectAutoRetryCandidates noRepr now (recentAlerts insertionOrder now
        failedDeliveries) = .ok candidates := selected
    rw [inOrder] at selected'
    cases selected'
    obtain rfl : log = failedDelivery 1 := by simpa using listed
    obtain rfl | rfl := known
    · exact ⟨_, rfl⟩
    · exact ⟨_, rfl⟩
  refine retriesOnce_of_escapesFirst noRepr insertionOrder (by decide)
    countsAttempts_failedDeliveries ?_ ?_
  · refine ⟨timelyRun_failedDeliveries (.inl rfl), ?_, trivial⟩
    rw [unchanged]
    exact timelyRun_failedDeliveries (.inr rfl)
  · refine ⟨escapesFirst 100 2 (by decide) (.inl rfl) (.inr rfl), ?_, trivial⟩
    rw [unchanged]
    exact escapesFirst 200 0 (by decide) (.inr rfl) (.inl rfl)

/-- The second delivery of a run raises, the record of the first is taken back, and the next
run delivers the first alert again. -/
theorem not_retriesOnce :
    ¬ ∀ (python : PyValues) (database : NewestFirst) (history : List AuditLogModel)
      (runs : List RetryRun), (history.map (·.id)).Nodup →
      (∀ log ∈ history, CountsAttempts python log) →
      Throughout (retryFailedAlertsOnce python database) (TimelyRun python) history runs →
      RetriesOnce (observedRun (retryFailedAlertsOnce python database) history runs) := by
  intro always
  have unchanged : (retryFailedAlertsOnce noRepr insertionOrder (runExcept 100 1)
      failedDeliveries).1 = failedDeliveries := rfl
  have timely : Throughout (retryFailedAlertsOnce noRepr insertionOrder) (TimelyRun noRepr)
      failedDeliveries [runExcept 100 1, runExcept 200 0] := by
    refine ⟨timelyRun_failedDeliveries (.inl rfl), ?_, trivial⟩
    rw [unchanged]
    exact timelyRun_failedDeliveries (.inr rfl)
  have once := (always noRepr insertionOrder failedDeliveries [runExcept 100 1, runExcept 200 0]
    (by decide) countsAttempts_failedDeliveries timely).once
  have delivered : (completedRetries (observedRun (retryFailedAlertsOnce noRepr insertionOrder)
      failedDeliveries [runExcept 100 1, runExcept 200 0])).map (·.retried.id) =
      [(failedDelivery 2).id, (failedDelivery 2).id, (failedDelivery 1).id] := rfl
  rw [delivered] at once
  exact absurd once (by decide)

end Example

end TraefikManager.Notifications
