import TraefikManager.Foundation.NoticeProtocol
import TraefikManager.Monitoring.StorageMonitor

/-!
# Certificate alerts

A check compares the status of each certificate with the entry of its domain. Every change is
recorded; the push notice is left out for a warning about a certificate that is renewed
automatically. The entries of the domains a check does not list are dropped.
-/

namespace TraefikManager.Monitoring

open Foundation

section Certificates

/-- A certificate as the listing describes it. -/
structure Certificate where
  domain : String
  status : String
  certResolvers : List String
  expiresAt : Option Datetime
  daysRemaining : Option Int
  deriving DecidableEq, Repr

/-- What `list_certificates` returns: one certificate for a domain. -/
structure CertificateListing where
  certificates : List Certificate
  distinct : (certificates.map (·.domain)).Nodup

/-- `bool(certificate.get("cert_resolvers"))`. -/
def Certificate.autoRenewal (certificate : Certificate) : Bool := !certificate.certResolvers.isEmpty

/-- The certificates a check looks at. -/
def Certificate.isChecked (certificate : Certificate) : Bool :=
  certificate.domain ≠ "" ∧ certificate.status ∈ ["active", "warning", "error"]

/-- The certificate a check looks at for a domain. -/
def CertificateListing.find (listing : CertificateListing) (domain : String) : Option Certificate :=
  listing.certificates.find? fun certificate =>
    certificate.domain = domain ∧ certificate.isChecked

/-- `_to_event_name`. -/
def toEventName (status : String) (previousStatus : Option Json) : Option String :=
  if status = "active" ∧ (isText previousStatus "warning" ∨ isText previousStatus "error") then
    some "certificate_recovered"
  else if status = "warning" then some "certificate_warning"
  else if status = "error" then some "certificate_error"
  else none

/-- `_notification_status`, of a certificate or of a stored entry. -/
def notificationStatus (status : Option Json) (autoRenewal : Bool) : Option String :=
  if isText status "error" then some "error"
  else if isText status "warning" ∧ ¬autoRenewal then some "warning"
  else none

/-- The notification status of the previous check; entries of earlier versions have none. -/
def previousNotificationStatus (previousEntry : MonitorState) (autoRenewal : Bool) : Json :=
  (previousEntry.get? "notification_status").getD
    (.ofOption (notificationStatus (previousEntry.get? "status") autoRenewal))

/-- Whether a stored value stands for no text. -/
def isNone : Json → Bool
  | .null => true
  | _ => false

@[simp] theorem isNone_string (text : String) : isNone (.string text) = false := rfl

@[simp] theorem isNone_null : isNone .null = true := rfl

/-- What a check does about one certificate: the entry it leaves, and the event it records with
whether the event is pushed. -/
structure CertificateCheck where
  entry : MonitorState
  event : Option (String × Bool)

/-- The body of the loop of `check_certificate_alerts_once`. -/
def checkCertificate (previousEntry : MonitorState) (now : Int) (certificate : Certificate) :
    CertificateCheck :=
  let status := certificate.status
  let previousStatus := previousEntry.get? "status"
  let notification := notificationStatus (some (.string status)) certificate.autoRenewal
  let previousNotification := previousNotificationStatus previousEntry certificate.autoRenewal
  let sameStatus := isText previousStatus status
  let current := Json.string (Datetime.utc now).isoformat
  let sameNotification : Bool := match notification with
    | none => true
    | some kind => isText (some previousNotification) kind
  let notify : Bool :=
    if status = "active" then !isNone previousNotification else notification.isSome
  { entry := Dict.ofList [("status", .string status),
      ("days_remaining", (certificate.daysRemaining.map Json.int).getD .null),
      ("expires_at", .ofOption (certificate.expiresAt.map (·.normalizeUtc.isoformat))),
      ("notification_status", .ofOption notification),
      ("status_started_at",
        if sameStatus then
          if truthy (previousEntry.get? "status_started_at") then
            (previousEntry.get? "status_started_at").getD .null
          else current
        else current)]
    event :=
      match toEventName status previousStatus with
      | none => none
      | some event => if sameStatus ∧ sameNotification then none else some (event, notify) }

/-- What a check of the certificates reads; no listing stands for a failed answer. -/
structure CertificateAlertInput where
  now : Datetime.Instant
  listing : CertificateListing

/-- The certificates of a check with what is done about each. -/
def CertificateListing.checks (listing : CertificateListing) (previousState : EntryState)
    (now : Int) : List (String × CertificateCheck) :=
  (listing.certificates.filter (·.isChecked)).map fun certificate =>
    (certificate.domain, checkCertificate (previousState.entry certificate.domain) now certificate)

/-- `check_certificate_alerts_once` on the state it has read: the next state and the events of
the domains. -/
def checkCertificateAlerts (input : CertificateAlertInput) (previousState : EntryState) :
    EntryState × List (String × String × Bool) :=
  let checks := input.listing.checks previousState input.now.micros
  (Dict.ofList (checks.map fun check => (check.1, check.2.entry)),
    checks.flatMap fun check => (check.2.event.map fun event => (check.1, event)).toList)

/-- `check_certificate_alerts_once` with a successful listing, on the stored text. -/
def checkCertificateAlertsOnce (input : CertificateAlertInput) (stored : Option String) :
    Option String × List (String × String × Bool) :=
  let (nextState, events) := checkCertificateAlerts input (deserializeState stored)
  (some (dumpState (serializeState nextState)), events)

end Certificates

section Notices

/-- The kinds of trouble. -/
inductive CertificateTrouble where
  | warning
  | error
  deriving DecidableEq, Repr

/-- `notification_status` for a kind of trouble. -/
def CertificateTrouble.status : CertificateTrouble → String
  | .warning => "warning"
  | .error => "error"

/-- The push notice of an event. -/
def noticeOf (event : String × Bool) : Option (Notice CertificateTrouble) :=
  if ¬event.2 then none
  else if event.1 = "certificate_warning" then some (.trouble .warning)
  else if event.1 = "certificate_error" then some (.trouble .error)
  else some .recovery

/-- What a check pushes about a domain. -/
def noticesAbout (domain : String) (events : List (String × String × Bool)) :
    List (Notice CertificateTrouble) :=
  (events.filter (·.1 = domain)).filterMap fun event => noticeOf event.2

/-- A check as it concerns one domain. -/
def certificateAct (domain : String) (input : CertificateAlertInput) (stored : Option String) :
    Option String × NoticeCheck CertificateTrouble :=
  let (next, events) := checkCertificateAlertsOnce input stored
  (next, ⟨((input.listing.find domain).any (·.status = "active")), noticesAbout domain events⟩)

end Notices

section Listings

variable (listing : CertificateListing) (previousState : EntryState) (now : Int) (domain : String)

private theorem find_eq : listing.find domain =
    (listing.certificates.filter (·.isChecked)).find? (·.domain = domain) := by
  rw [List.find?_filter]
  unfold CertificateListing.find
  congr 1
  funext certificate
  cases certificate.isChecked <;> simp

private theorem nodup_checks : ((listing.checks previousState now).map Prod.fst).Nodup := by
  have distinct := listing.distinct.sublist (List.filter_sublist.map _ :
    ((listing.certificates.filter (·.isChecked)).map (·.domain)).Sublist _)
  rw [CertificateListing.checks, List.map_map]
  exact distinct

private theorem find_checks : (listing.checks previousState now).find? (·.1 = domain) =
    (listing.find domain).map fun certificate =>
      (domain, checkCertificate (previousState.entry domain) now certificate) := by
  rw [find_eq, CertificateListing.checks, List.find?_map]
  cases found : (listing.certificates.filter (·.isChecked)).find? (·.domain = domain) with
  | none => simpa [Function.comp_def] using found
  | some certificate =>
      have same : certificate.domain = domain := by simpa using List.find?_some found
      simp [Function.comp_def, found, same]

/-- What is pushed about a domain is what its own check pushes. -/
theorem noticesAbout_eq {checks : List (String × CertificateCheck)}
    (distinct : (checks.map Prod.fst).Nodup) :
    noticesAbout domain (checks.flatMap fun check =>
        (check.2.event.map fun event => (check.1, event)).toList) =
      ((checks.find? (·.1 = domain)).bind fun check => check.2.event.bind noticeOf).toList := by
  induction checks with
  | nil => rfl
  | cons check checks ih =>
      obtain ⟨name, entry, event⟩ := check
      obtain ⟨fresh, distinctRest⟩ := List.nodup_cons.mp distinct
      have apart : ∀ first second, noticesAbout domain (first ++ second) =
          noticesAbout domain first ++ noticesAbout domain second := by
        simp [noticesAbout]
      rw [List.flatMap_cons, apart, ih distinctRest]
      by_cases same : name = domain
      · have noneLater : checks.find? (·.1 = domain) = none := by
          rw [List.find?_eq_none]
          intro other later isDomain
          exact fresh (List.mem_map.mpr ⟨other, later, by simpa [same] using isDomain⟩)
        rw [noneLater]
        cases event with
        | none => simp [noticesAbout, same]
        | some event => cases notice : noticeOf event <;> simp [noticesAbout, same, notice]
      · cases event with
        | none => simp [noticesAbout, same]
        | some event => simp [noticesAbout, same]

private theorem get?_nextState :
    (Dict.ofList ((listing.checks previousState now).map fun check => (check.1, check.2.entry))).get?
        domain =
      (listing.find domain).map fun certificate =>
        (checkCertificate (previousState.entry domain) now certificate).entry := by
  have distinct := nodup_checks listing previousState now
  have found := find_checks listing previousState now domain
  cases isFound : listing.find domain with
  | none =>
      rw [isFound, Option.map_none, List.find?_eq_none] at found
      rw [Option.map_none, Dict.get?_eq_none_iff, Dict.mem_keys_ofList]
      intro member
      obtain ⟨check, inChecks, isDomain⟩ := List.mem_map.mp member
      obtain ⟨original, inOriginal, rfl⟩ := List.mem_map.mp inChecks
      exact found original inOriginal (by simpa using isDomain)
  | some certificate =>
      rw [isFound, Option.map_some] at found
      apply Dict.get?_ofList_of_mem
      · simpa [Function.comp_def] using distinct
      · exact List.mem_map.mpr ⟨_, List.mem_of_find?_eq_some found, rfl⟩

end Listings

section Steps

/-- The entry of a domain holds the notified trouble that has not recovered: a certificate is in
trouble of a kind only when its status says so. -/
inductive TracksEntry : MonitorState → Option CertificateTrouble → Prop where
  | absent : TracksEntry ∅ none
  | checked {entry : MonitorState} {status : String} {pending : Option CertificateTrouble}
      (isStatus : entry.get? "status" = some (.string status))
      (isNotification : entry.get? "notification_status" =
        some (.ofOption (pending.map CertificateTrouble.status)))
      (consistent : status = "error" ∧ pending = some .error ∨
        status = "warning" ∧ (pending = some .warning ∨ pending = none) ∨
        status = "active" ∧ pending = none) : TracksEntry entry pending

/-- A check keeps the notified trouble of the entry in sight: its certificate is not a warning
that is left to the automatic renewal. -/
def Certificate.keepsNotice (certificate : Certificate) : Prop :=
  ¬(certificate.status = "warning" ∧ certificate.autoRenewal = true)

variable {entry : MonitorState} {pending : Option CertificateTrouble} {certificate : Certificate}

private theorem tracksEntry_checked (now : Int) {next : Option CertificateTrouble}
    (isNotification : notificationStatus (some (.string certificate.status))
      certificate.autoRenewal = next.map CertificateTrouble.status)
    (consistent : certificate.status = "error" ∧ next = some .error ∨
        certificate.status = "warning" ∧ (next = some .warning ∨ next = none) ∨
        certificate.status = "active" ∧ next = none) :
    TracksEntry (checkCertificate entry now certificate).entry next := by
  refine @TracksEntry.checked _ certificate.status next rfl ?_ consistent
  rw [← isNotification]
  rfl

/-- The check of a certificate is a step of the protocol. -/
theorem checkCertificate_step (tracked : TracksEntry entry pending) (now : Int)
    (isChecked : certificate.isChecked = true) (kept : pending ≠ none → certificate.keepsNotice) :
    ∃ next, NoticeStep pending ⟨certificate.status = "active",
        ((checkCertificate entry now certificate).event.bind noticeOf).toList⟩ next ∧
      TracksEntry (checkCertificate entry now certificate).entry next := by
  have known : certificate.status = "active" ∨ certificate.status = "warning" ∨
      certificate.status = "error" := by
    have := isChecked
    simp [Certificate.isChecked] at this
    exact this.2
  have absent : ∀ key, (∅ : MonitorState).get? key = none := fun _ => rfl
  obtain isActive | isWarning | isError := known
  · refine ⟨none, ?_, tracksEntry_checked now (by simp [notificationStatus, isActive])
      (.inr (.inr ⟨isActive, rfl⟩))⟩
    cases tracked with
    | absent => simpa [checkCertificate, toEventName, isActive, absent] using NoticeStep.well
    | checked isStatus isNotification consistent =>
        obtain ⟨rfl, rfl⟩ | ⟨rfl, rfl | rfl⟩ | ⟨rfl, rfl⟩ := consistent
        · simpa [checkCertificate, toEventName, isActive, isStatus, isNotification,
            previousNotificationStatus, noticeOf, Json.ofOption] using NoticeStep.recovered
        · simpa [checkCertificate, toEventName, isActive, isStatus, isNotification,
            previousNotificationStatus, noticeOf, Json.ofOption] using NoticeStep.recovered
        · simpa [checkCertificate, toEventName, isActive, isStatus, isNotification,
            previousNotificationStatus, noticeOf, Json.ofOption] using NoticeStep.well
        · simpa [checkCertificate, toEventName, isActive, isStatus] using NoticeStep.well
  · by_cases auto : certificate.autoRenewal = true
    · have nothing : pending = none := by
        by_contra isPending
        exact kept isPending ⟨isWarning, auto⟩
      subst nothing
      have notActive : ¬certificate.status = "active" := by simp [isWarning]
      have quiet : (checkCertificate entry now certificate).event.bind noticeOf = none := by
        simp only [checkCertificate, toEventName, notificationStatus, isWarning, auto]
        simp [noticeOf]
      refine ⟨none, ?_, tracksEntry_checked now (by simp [notificationStatus, isWarning, auto])
        (.inr (.inl ⟨isWarning, .inr rfl⟩))⟩
      rw [quiet]
      simpa [notActive] using NoticeStep.quiet
    · have manual : notificationStatus (some (.string "warning")) certificate.autoRenewal =
          some "warning" := by
        simp [notificationStatus, auto]
      refine ⟨some .warning, ?_, tracksEntry_checked now (by rw [isWarning]; exact manual)
        (.inr (.inl ⟨isWarning, .inl rfl⟩))⟩
      cases tracked with
      | absent =>
          simpa [checkCertificate, manual, toEventName, isWarning, absent, noticeOf] using
            NoticeStep.troubled (Option.some_ne_none CertificateTrouble.warning).symm
      | checked isStatus isNotification consistent =>
          obtain ⟨rfl, rfl⟩ | ⟨rfl, rfl | rfl⟩ | ⟨rfl, rfl⟩ := consistent
          · simpa [checkCertificate, manual, toEventName, isWarning, isStatus, noticeOf] using
              NoticeStep.troubled (by decide : some .error ≠ some CertificateTrouble.warning)
          · simpa [checkCertificate, manual, toEventName, isWarning, isStatus, isNotification,
              previousNotificationStatus, Json.ofOption, CertificateTrouble.status] using
              NoticeStep.quiet
          · simpa [checkCertificate, manual, toEventName, isWarning, isStatus, isNotification,
              previousNotificationStatus, Json.ofOption, noticeOf] using
              NoticeStep.troubled (Option.some_ne_none CertificateTrouble.warning).symm
          · simpa [checkCertificate, manual, toEventName, isWarning, isStatus, noticeOf] using
              NoticeStep.troubled (Option.some_ne_none CertificateTrouble.warning).symm
  · have expired : notificationStatus (some (.string "error")) certificate.autoRenewal =
        some "error" := by
      simp [notificationStatus]
    refine ⟨some .error, ?_, tracksEntry_checked now (by rw [isError]; exact expired)
      (.inl ⟨isError, rfl⟩)⟩
    cases tracked with
    | absent =>
        simpa [checkCertificate, expired, toEventName, isError, absent, noticeOf] using
          NoticeStep.troubled (Option.some_ne_none CertificateTrouble.error).symm
    | checked isStatus isNotification consistent =>
        obtain ⟨rfl, rfl⟩ | ⟨rfl, rfl | rfl⟩ | ⟨rfl, rfl⟩ := consistent
        · simpa [checkCertificate, expired, toEventName, isError, isStatus, isNotification,
            previousNotificationStatus, Json.ofOption, CertificateTrouble.status] using
            NoticeStep.quiet
        · simpa [checkCertificate, expired, toEventName, isError, isStatus, noticeOf] using
            NoticeStep.troubled (by decide : some .warning ≠ some CertificateTrouble.error)
        · simpa [checkCertificate, expired, toEventName, isError, isStatus, noticeOf] using
            NoticeStep.troubled (Option.some_ne_none CertificateTrouble.error).symm
        · simpa [checkCertificate, expired, toEventName, isError, isStatus, noticeOf] using
            NoticeStep.troubled (Option.some_ne_none CertificateTrouble.error).symm

end Steps

section Runs

variable {domain : String} {input : CertificateAlertInput} {stored : Option String}

/-- The kind of trouble that stands in the entry of a domain as notified. -/
def pendingNotice (domain : String) (stored : Option String) : Json :=
  (((deserializeState stored).entry domain).get? "notification_status").getD .null

/-- A check finds the domain whenever its entry says that trouble was notified, and then not as
a warning that is left to the automatic renewal. -/
def KeepsNotice (domain : String) (input : CertificateAlertInput) (stored : Option String) : Prop :=
  isNone (pendingNotice domain stored) = false →
    ∃ certificate, input.listing.find domain = some certificate ∧ certificate.keepsNotice

/-- The stored text tracks the notified trouble of a domain. -/
structure TracksNotice (domain : String) (stored : Option String)
    (pending : Option CertificateTrouble) : Prop where
  exact : ExactEntries (deserializeState stored)
  entry : TracksEntry ((deserializeState stored).entry domain) pending

private theorem TracksEntry.isNone_pending {entry : MonitorState} {kind : CertificateTrouble}
    (tracked : TracksEntry entry (some kind)) :
    isNone ((entry.get? "notification_status").getD .null) = false := by
  cases tracked with
  | checked isStatus isNotification consistent =>
      rw [isNotification]
      rfl

private theorem exactState_checkCertificate {entry : MonitorState} (exact : ExactState entry)
    (now : Int)
    (certificate : Certificate) : ExactState (checkCertificate entry now certificate).entry := by
  have exactOption : ∀ text, Json.Exact (.ofOption text) := by
    intro text
    cases text with
    | none => exact .null
    | some text => exact .string text
  apply exactState_ofList
  simp only [List.forall_mem_cons]
  refine ⟨.string _, ?_, exactOption _, exactOption _, ?_, by simp⟩
  · cases certificate.daysRemaining with
    | none => exact .null
    | some days => exact .int days
  · split
    · split
      · cases found : entry.get? "status_started_at" with
        | none => exact .null
        | some value => exact exact _ (Dict.get?_eq_some_iff.mp found)
      · exact .string _
    · exact .string _

private theorem exact_nextState {previousState : EntryState} (exact : ExactEntries previousState)
    (listing : CertificateListing) (now : Int) :
    ExactEntries (Dict.ofList
      ((listing.checks previousState now).map fun check => (check.1, check.2.entry))) := by
  intro entry inEntries
  obtain ⟨check, inChecks, rfl⟩ := List.mem_map.mp (Dict.mem_entries_ofList inEntries)
  obtain ⟨certificate, -, rfl⟩ := List.mem_map.mp inChecks
  exact exactState_checkCertificate (exactState_entry exact _) now certificate

/-- A check of the certificates is a step of the protocol for each domain whose notice it keeps. -/
theorem certificateAct_step {pending : Option CertificateTrouble}
    (tracked : TracksNotice domain stored pending) (kept : KeepsNotice domain input stored) :
    ∃ next, NoticeStep pending (certificateAct domain input stored).2 next ∧
      TracksNotice domain (certificateAct domain input stored).1 next := by
  have exact := exact_nextState tracked.exact input.listing input.now.micros
  have isEntry := get?_nextState input.listing (deserializeState stored) input.now.micros domain
  have tracksNext : ∀ next, TracksEntry (EntryState.entry (Dict.ofList
        ((input.listing.checks (deserializeState stored) input.now.micros).map fun check =>
          (check.1, check.2.entry))) domain) next →
      TracksNotice domain (certificateAct domain input stored).1 next := by
    intro next tracksEntry
    unfold certificateAct checkCertificateAlertsOnce checkCertificateAlerts
    have readBack := deserializeState_dump exact
    exact ⟨by rwa [readBack], by rwa [readBack]⟩
  unfold EntryState.entry at tracksNext
  rw [isEntry] at tracksNext
  unfold certificateAct checkCertificateAlertsOnce checkCertificateAlerts
  simp only [noticesAbout_eq domain (nodup_checks input.listing (deserializeState stored)
    input.now.micros), find_checks]
  unfold certificateAct checkCertificateAlertsOnce checkCertificateAlerts at tracksNext
  cases found : input.listing.find domain with
  | none =>
      rw [found] at tracksNext
      have nothing : pending = none := by
        cases pending with
        | none => rfl
        | some kind =>
            obtain ⟨certificate, isFound, -⟩ := kept tracked.entry.isNone_pending
            rw [found] at isFound
            cases isFound
      subst nothing
      exact ⟨none, .quiet, tracksNext none .absent⟩
  | some certificate =>
      rw [found] at tracksNext
      have isChecked : certificate.isChecked = true := by
        have := List.find?_some found
        simp at this
        exact this.2
      obtain ⟨next, isStep, tracksEntry⟩ := checkCertificate_step tracked.entry input.now.micros
        isChecked (by
          intro isPending
          obtain ⟨kind, rfl⟩ := Option.ne_none_iff_exists'.mp isPending
          obtain ⟨other, isFound, keeps⟩ := kept tracked.entry.isNone_pending
          rw [found] at isFound
          cases isFound
          exact keeps)
      exact ⟨next, isStep, tracksNext next tracksEntry⟩

/-- **Certificate alerts.** From the first start on, in every run of checks that keep the notices
of a domain, the pushes about the domain keep the protocol. -/
theorem certificateNotices_of_kept (domain : String) (inputs : List CertificateAlertInput)
    (kept : Throughout (certificateAct domain) (KeepsNotice domain) none inputs) :
    NoticeProtocol (observedRun (certificateAct domain) none inputs) := by
  have fresh : TracksNotice domain none none := by
    refine ⟨?_, .absent⟩
    intro entry inEntries
    cases inEntries
  obtain ⟨final, run⟩ := StepRun.of_simulation certificateAct_step fresh kept
  exact NoticeProtocol.of_run run

/-- A check, on a day of the first months of 1970, that lists one certificate. -/
def dayCheck (day : Fin 100) (status : String) (certResolvers : List String) :
    CertificateAlertInput where
  now := ⟨day * 86400000000, by
    unfold Datetime.InRange Iso.minDay Iso.maxDay Datetime.utc
    dsimp only
    omega⟩
  listing :=
    { certificates := [{ domain := "shop.example", status, certResolvers
                         expiresAt := none, daysRemaining := none }]
      distinct := by simp }

theorem certificateNotices_of_kept_example :
    Throughout (certificateAct "shop.example") (KeepsNotice "shop.example") none
        [dayCheck 0 "warning" [], dayCheck 1 "error" ["letsencrypt"],
          dayCheck 2 "active" ["letsencrypt"]] ∧
      NoticeProtocol (observedRun (certificateAct "shop.example") none
        [dayCheck 0 "warning" [], dayCheck 1 "error" ["letsencrypt"],
          dayCheck 2 "active" ["letsencrypt"]]) := by
  have found : ∀ (day : Fin 100) status resolvers stored, status ∈ ["active", "warning", "error"] →
      ¬(status = "warning" ∧ resolvers ≠ []) →
      KeepsNotice "shop.example" (dayCheck day status resolvers) stored := by
    intro day status resolvers stored known manual _
    refine ⟨_, List.find?_cons_of_pos (by simpa [Certificate.isChecked] using known), ?_⟩
    simpa [Certificate.keepsNotice, Certificate.autoRenewal] using manual
  have kept : Throughout (certificateAct "shop.example") (KeepsNotice "shop.example") none
      [dayCheck 0 "warning" [], dayCheck 1 "error" ["letsencrypt"],
        dayCheck 2 "active" ["letsencrypt"]] :=
    ⟨found _ _ _ _ (by decide) (by decide), found _ _ _ _ (by decide) (by decide),
      found _ _ _ _ (by decide) (by decide), trivial⟩
  exact ⟨kept, certificateNotices_of_kept _ _ kept⟩

/-- A certificate expires, is pending in one check and active in the next: the expiry was pushed,
the recovery is not. -/
theorem certificateNotices_lost : ¬∀ (domain : String) (inputs : List CertificateAlertInput),
    NoticeProtocol (observedRun (certificateAct domain) none inputs) := by
  intro everyRun
  have observed : observedRun (certificateAct "shop.example") none
      [dayCheck 0 "error" ["letsencrypt"], dayCheck 1 "pending" ["letsencrypt"],
        dayCheck 2 "active" ["letsencrypt"]] =
      [⟨false, [.trouble .error]⟩, ⟨false, []⟩, ⟨true, []⟩] := by
    decide +kernel
  have recovers := (everyRun "shop.example" _).recovers_when_well [] _ [_] _ [] .error observed
  simp at recovers

end Runs

end TraefikManager.Monitoring
