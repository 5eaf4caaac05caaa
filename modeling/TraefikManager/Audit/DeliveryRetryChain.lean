import TraefikManager.Foundation.Collect
import TraefikManager.Foundation.Dict
import TraefikManager.Foundation.Json
import TraefikManager.Foundation.Substring
import TraefikManager.Foundation.Worklist
import TraefikManager.Runtime

/-!
# The chain of retries of an alert delivery

The record of a retry names the record it retries. From one record the chain is found by
walking these links both ways among the rows at hand, which may miss some of the rows that are
named and may hold links that lead back.
-/

namespace TraefikManager.Audit.RetryChain

open Foundation

section Rows

/-- A row of the audit log, its key a text. -/
abbrev AuditLogModel := TraefikManager.AuditLogModel String (Dict String Json) Datetime

/-- The text under a key of `log.detail or {}`. -/
def detailText (log : AuditLogModel) (key : String) : Option String :=
  match (log.detail.getD ∅).get? key with
  | some (.string text) => some text
  | _ => none

/-- The row a row retries. -/
def retryOf (log : AuditLogModel) : Option String := detailText log "retry_of_audit_id"

/-- `"_alert_delivery_" in event`. -/
def isDeliveryEvent (event : String) : Bool :=
  (Text.splitFirst "_alert_delivery_".toList event.toList).isSome

/-- Whether a row records the delivery of an alert. -/
def isDelivery (log : AuditLogModel) : Bool := (detailText log "event").any isDeliveryEvent

/-- `normalize_utc(log.created_at)`, as a sort key. -/
def createdMicros (log : AuditLogModel) : Int := log.createdAt.normalizeUtc.micros

end Rows

section Chain

variable (logs : List AuditLogModel)

/-- `logs_by_id`: the last of several rows with one key counts. -/
def logsById (id : String) : Option AuditLogModel := logs.reverse.find? fun log => log.id = id

/-- `children_by_parent`. -/
def childrenByParent (parentId : String) : List String :=
  (logs.filter fun log => retryOf log = some parentId).map AuditLogModel.id

/-- What a turn of the loop adds to the end of `pending`. -/
def linkedIds (id : String) : List String :=
  ((logsById logs id).bind retryOf).toList ++ childrenByParent logs id

/-- `chain_ids` after the loop, which takes its next key from the end of `pending`. -/
def chainIds (targetAuditId : String) : List String :=
  explore (logs.map AuditLogModel.id) (fun id => (linkedIds logs id).reverse) [] [targetAuditId]

/-- The order in which a set of keys is gone through, which the language leaves open. -/
structure SetOrder where
  ordered : List String → List String
  perm : ∀ ids, (ordered ids).Perm ids

/-- `build_delivery_retry_chain`. -/
def buildDeliveryRetryChain (order : SetOrder) (targetAuditId : String) : List AuditLogModel :=
  match logsById logs targetAuditId with
  | none => []
  | some target =>
      if isDelivery target then
        ((order.ordered (chainIds logs targetAuditId)).filterMap (logsById logs)).mergeSort
          fun first second => createdMicros first ≤ createdMicros second
      else []

end Chain

section Component

/-- Two of the rows, one of which retries the other. -/
def Linked (logs : List AuditLogModel) (first second : AuditLogModel) : Prop :=
  first ∈ logs ∧ second ∈ logs ∧
    (retryOf first = some second.id ∨ retryOf second = some first.id)

/-- Two rows that links in either direction join. -/
def Connected (logs : List AuditLogModel) : AuditLogModel → AuditLogModel → Prop :=
  Relation.ReflTransGen (Linked logs)

variable {logs : List AuditLogModel} {log other target : AuditLogModel} {order : SetOrder}

instance : Std.Symm (Linked logs) :=
  ⟨fun _ _ linked => ⟨linked.2.1, linked.1, linked.2.2.symm⟩⟩

theorem Connected.symm (connected : Connected logs log other) : Connected logs other log :=
  Std.Symm.symm (r := Relation.ReflTransGen (Linked logs)) _ _ connected

theorem Connected.mem (connected : Connected logs log other) (given : log ∈ logs) :
    other ∈ logs := by
  cases connected with
  | refl => exact given
  | tail _ linked => exact linked.2.1

/-- What the chain of a target is to be: each row connected to it once, in the order of their
creation. -/
structure IsComponent (logs : List AuditLogModel) (target : AuditLogModel)
    (chain : List AuditLogModel) : Prop where
  mem_iff : ∀ log, log ∈ chain ↔ log ∈ logs ∧ Connected logs target log
  nodup : (chain.map AuditLogModel.id).Nodup
  sorted : chain.Pairwise fun first second => createdMicros first ≤ createdMicros second

private theorem mem_of_logsById {id : String} (found : logsById logs id = some log) :
    log ∈ logs ∧ log.id = id := by
  refine ⟨List.mem_reverse.mp (List.mem_of_find?_eq_some found), ?_⟩
  simpa using List.find?_some found

variable (distinct : (logs.map AuditLogModel.id).Nodup)

include distinct

private theorem eq_of_id_eq (given : log ∈ logs) (alsoGiven : other ∈ logs)
    (same : log.id = other.id) : log = other :=
  List.inj_on_of_nodup_map distinct given alsoGiven same

private theorem logsById_id (given : log ∈ logs) : logsById logs log.id = some log := by
  cases found : logsById logs log.id with
  | none =>
      have absent := List.find?_eq_none.mp found log (List.mem_reverse.mpr given)
      simp at absent
  | some other =>
      obtain ⟨isRow, same⟩ := mem_of_logsById found
      rw [eq_of_id_eq distinct isRow given same]

/-- The loop steps from the key of a row to the keys of the rows it is linked to. -/
theorem step_iff (given : log ∈ logs) {id : String} :
    Step (logs.map AuditLogModel.id) (fun id => (linkedIds logs id).reverse) log.id id ↔
      ∃ other, Linked logs log other ∧ other.id = id := by
  simp only [Step, List.mem_reverse, linkedIds, List.mem_append, logsById_id distinct given,
    Option.bind_some, Option.mem_toList, childrenByParent, List.mem_map, List.mem_filter,
    decide_eq_true_eq]
  constructor
  · rintro ⟨isParent | ⟨other, ⟨isRow, isChild⟩, rfl⟩, known, isKnown, isId⟩
    · exact ⟨known, ⟨given, isKnown, .inl (isId.symm ▸ isParent)⟩, isId⟩
    · exact ⟨other, ⟨given, isRow, .inr isChild⟩, rfl⟩
  · rintro ⟨other, ⟨-, isRow, isParent | isChild⟩, rfl⟩
    · exact ⟨.inl isParent, other, isRow, rfl⟩
    · exact ⟨.inr ⟨other, ⟨isRow, isChild⟩, rfl⟩, other, isRow, rfl⟩

/-- The keys of the chain are those of the rows that are connected to the target. -/
theorem id_mem_chainIds_iff (given : target ∈ logs) (isRow : log ∈ logs) :
    log.id ∈ chainIds logs target.id ↔ Connected logs target log := by
  rw [chainIds, mem_explore_iff (List.mem_map_of_mem given)]
  constructor
  · intro walk
    have reached : ∀ {id : String}, Relation.ReflTransGen (Step (logs.map AuditLogModel.id)
        fun id => (linkedIds logs id).reverse) target.id id →
          ∃ other ∈ logs, Connected logs target other ∧ other.id = id := by
      intro id walk
      induction walk with
      | refl => exact ⟨target, given, .refl, rfl⟩
      | tail _ step ih =>
          obtain ⟨before, inLogs, connected, rfl⟩ := ih
          obtain ⟨after, linked, isId⟩ := (step_iff distinct inLogs).mp step
          exact ⟨after, linked.2.1, connected.tail linked, isId⟩
    obtain ⟨other, inLogs, connected, same⟩ := reached walk
    exact eq_of_id_eq distinct inLogs isRow same ▸ connected
  · intro connected
    clear isRow
    induction connected with
    | refl => exact .refl
    | tail _ linked ih => exact ih.tail ((step_iff distinct linked.1).mpr ⟨_, linked, rfl⟩)

private theorem buildDeliveryRetryChain_of_mem (given : target ∈ logs)
    (delivery : isDelivery target) : buildDeliveryRetryChain logs order target.id =
      ((order.ordered (chainIds logs target.id)).filterMap (logsById logs)).mergeSort
        fun first second => createdMicros first ≤ createdMicros second := by
  rw [buildDeliveryRetryChain, logsById_id distinct given]
  exact if_pos delivery

/-- The chain of a delivery record holds the rows connected to it. -/
theorem mem_chain_iff (given : target ∈ logs) (delivery : isDelivery target) :
    log ∈ buildDeliveryRetryChain logs order target.id ↔ Connected logs target log := by
  rw [buildDeliveryRetryChain_of_mem distinct given delivery, List.mem_mergeSort,
    List.mem_filterMap]
  simp only [(order.perm _).mem_iff]
  constructor
  · rintro ⟨id, inChain, found⟩
    obtain ⟨isRow, rfl⟩ := mem_of_logsById found
    exact (id_mem_chainIds_iff distinct given isRow).mp inChain
  · intro connected
    have isRow := connected.mem given
    exact ⟨log.id, (id_mem_chainIds_iff distinct given isRow).mpr connected,
      logsById_id distinct isRow⟩

/-- No row is in a chain twice. -/
theorem nodup_chain (given : target ∈ logs) (delivery : isDelivery target) :
    ((buildDeliveryRetryChain logs order target.id).map AuditLogModel.id).Nodup := by
  rw [buildDeliveryRetryChain_of_mem distinct given delivery,
    ((List.mergeSort_perm _ _).map _).nodup_iff]
  have ids : (order.ordered (chainIds logs target.id)).Nodup :=
    (order.perm _).nodup_iff.mpr (nodup_explore List.nodup_nil)
  exact List.Sublist.nodup
    (filterMap_map_sublist (fun _ _ found => (mem_of_logsById found).2) _) ids

/-- The rows of a chain stand in the order of their creation. -/
theorem sorted_chain (given : target ∈ logs) (delivery : isDelivery target) :
    (buildDeliveryRetryChain logs order target.id).Pairwise fun first second =>
      createdMicros first ≤ createdMicros second := by
  rw [buildDeliveryRetryChain_of_mem distinct given delivery]
  have sorted := @List.pairwise_mergeSort _
    (fun first second => decide (createdMicros first ≤ createdMicros second))
    (fun _ _ _ early late => by simp only [decide_eq_true_eq] at *; omega)
    (fun _ _ => by simp only [Bool.or_eq_true, decide_eq_true_eq]; omega)
    ((order.ordered (chainIds logs target.id)).filterMap (logsById logs))
  exact sorted.imp fun ordered => of_decide_eq_true ordered

/-- **Retry chains.** From the key of a delivery record the chain is its component, whichever of
the component's delivery records it is asked for; from any other key it is empty. -/
theorem buildDeliveryRetryChain_component (order : SetOrder) (targetAuditId : String) :
    (∀ target ∈ logs, target.id = targetAuditId → isDelivery target = true →
      IsComponent logs target (buildDeliveryRetryChain logs order targetAuditId) ∧
        ∀ other ∈ buildDeliveryRetryChain logs order targetAuditId, isDelivery other = true →
          ∀ (again : SetOrder) (log : AuditLogModel),
            log ∈ buildDeliveryRetryChain logs again other.id ↔
              log ∈ buildDeliveryRetryChain logs order targetAuditId) ∧
    ((∀ target ∈ logs, target.id = targetAuditId → isDelivery target = false) →
      buildDeliveryRetryChain logs order targetAuditId = []) := by
  constructor
  · rintro target given rfl delivery
    have isMember : ∀ log, log ∈ buildDeliveryRetryChain logs order target.id ↔
        Connected logs target log := fun _ => mem_chain_iff distinct given delivery
    refine ⟨⟨?_, nodup_chain distinct given delivery, sorted_chain distinct given delivery⟩, ?_⟩
    · intro log
      rw [isMember]
      exact ⟨fun connected => ⟨connected.mem given, connected⟩, And.right⟩
    · intro other inChain alsoDelivery again log
      have connected := (isMember other).mp inChain
      rw [mem_chain_iff distinct (connected.mem given) alsoDelivery, isMember]
      exact ⟨connected.trans, connected.symm.trans⟩
  · intro noDelivery
    unfold buildDeliveryRetryChain
    split
    · rfl
    · rename_i target found
      obtain ⟨given, isTarget⟩ := mem_of_logsById found
      rw [noDelivery target given isTarget]
      rfl

end Component

section Sample

/-- A delivery record that retries another. -/
def deliveryLog (id retried : String) : AuditLogModel where
  id := id
  actor := "system"
  action := "alert"
  resourceType := "settings"
  resourceId := "security-alert-delivery"
  resourceName := "보안 알림 전송 결과"
  detail := some (Dict.ofList [("event", .string "security_alert_delivery_failure"),
    ("retry_of_audit_id", .string retried)])
  createdAt := .utc 0

/-- Two records that retry each other, and a record of a row that is gone. -/
theorem buildDeliveryRetryChain_component_sample :
    deliveryLog "b" "a" ∈ buildDeliveryRetryChain
        [deliveryLog "a" "b", deliveryLog "b" "a", deliveryLog "c" "gone"] ⟨id, fun _ => .refl _⟩
        "a" ∧
      buildDeliveryRetryChain
        [deliveryLog "a" "b", deliveryLog "b" "a", deliveryLog "c" "gone"] ⟨id, fun _ => .refl _⟩
        "gone" = [] := by
  have distinct : ([deliveryLog "a" "b", deliveryLog "b" "a", deliveryLog "c" "gone"].map
      AuditLogModel.id).Nodup := by decide
  constructor
  · have component := ((buildDeliveryRetryChain_component distinct ⟨id, fun _ => .refl _⟩ "a").1
      (deliveryLog "a" "b") (by simp) rfl (by decide)).1
    exact (component.mem_iff _).mpr ⟨by simp, .single ⟨by simp, by simp, .inl rfl⟩⟩
  · apply (buildDeliveryRetryChain_component distinct ⟨id, fun _ => .refl _⟩ "gone").2
    decide

end Sample

end TraefikManager.Audit.RetryChain
