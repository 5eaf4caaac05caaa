import TraefikManager.Domain.Normalizers
import TraefikManager.Foundation.IpNetworkText

/-!
# What the normalizers let through

For each list normalizer: the form of an item it returns, that a result has no
repetition, and that a list of such items is left alone. Normalizing twice is
therefore normalizing once.
-/

namespace TraefikManager.Domain

open Foundation

/-- A list of valid items without repetition. -/
structure Tidy {α : Type} (valid : α → Prop) (items : List α) : Prop where
  distinct : items.Nodup
  valid : ∀ item ∈ items, valid item

/-- A text in the form `str(ip_network(text))` gives. -/
structure IsNetworkText (text : String) : Prop where
  trimmed : Text.strip text = text
  canonical : ∃ network, Ip.ipNetwork text = some network ∧ network.text = text

/-- A path that starts with a slash. -/
structure IsBlockedPath (text : String) : Prop where
  trimmed : Text.strip text = text
  slash : Text.startsWith "/" text = true

/-- A text `user:hash` on one line, both parts present and without surrounding blanks. -/
structure IsBasicAuthUser (text : String) : Prop where
  trimmed : Text.strip text = text
  oneLine : hasLineEnd text = false
  parts : ∃ username hashedPassword : String,
    text = username ++ ":" ++ hashedPassword ∧ ':' ∉ username.toList ∧
      Text.strip username = username ∧ Text.strip hashedPassword = hashedPassword ∧
      username ≠ "" ∧ hashedPassword ≠ ""

structure IsTemplateReference (text : String) : Prop where
  trimmed : Text.strip text = text
  nonempty : text ≠ ""

/-- A header whose key is a token and whose value stands on one line, both without
surrounding blanks. -/
structure IsCustomHeader (entry : String × String) : Prop where
  trimmedKey : Text.strip entry.1 = entry.1
  trimmedValue : Text.strip entry.2 = entry.2
  key : isHeaderToken entry.1 = true
  oneLine : hasLineEnd entry.1 = false ∧ hasLineEnd entry.2 = false

section Lists

variable {α : Type} [DecidableEq α] {valid : α → Prop} {step : α → Except PyException (Option α)}

/-- What is collected is tidy when each result of the step is valid. -/
theorem tidy_of_collect (results : ∀ item value, step item = .ok (some value) → valid value)
    {items collected : List α} (done : collect step [] items = .ok collected) :
    Tidy valid collected := by
  obtain ⟨distinct, origin⟩ := collect_ok List.nodup_nil done
  refine ⟨distinct, fun value member => ?_⟩
  rcases origin value member with seen | ⟨item, -, result⟩
  · cases seen
  · exact results item value result

/-- A tidy list is collected as it stands when the step leaves valid items alone. -/
theorem collect_of_tidy (fixed : ∀ item, valid item → step item = .ok (some item))
    {items : List α} (tidy : Tidy valid items) : collect step [] items = .ok items :=
  collect_of_fixed (fun item member => fixed item (tidy.valid item member))
    (by simpa using tidy.distinct)

end Lists

section Items

private theorem allowedIp_result {rawIp value : String}
    (result : allowedIp rawIp = .ok (some value)) : IsNetworkText value := by
  unfold allowedIp at result
  by_cases blank : Text.strip rawIp = ""
  · simp [blank] at result
  · simp only [if_neg blank, map_eq_ok, networkText] at result
    obtain ⟨text, isText, isValue⟩ := result
    cases isValue
    cases read : Ip.ipNetwork (Text.strip rawIp) with
    | none => simp [read] at isText
    | some network =>
        obtain rfl : network.text = value := by simpa [read] using isText
        exact ⟨Ip.strip_text network, network, Ip.ipNetwork_text read, rfl⟩

private theorem allowedIp_fixed {text : String} (valid : IsNetworkText text) :
    allowedIp text = .ok (some text) := by
  obtain ⟨network, read, isText⟩ := valid.canonical
  have nonempty : text ≠ "" := by
    rintro rfl
    have unreadable : Ip.ipNetwork "" = none := by
      decide
    rw [unreadable] at read
    cases read
  simp [allowedIp, valid.trimmed, nonempty, networkText, read, isText, Except.map]

private theorem strip_slash {value : String} (trimmed : Text.strip value = value)
    (nonempty : value ≠ "") : Text.strip ("/" ++ value) = "/" ++ value := by
  have fixed : Text.stripChars value.toList = value.toList := by
    simpa using congrArg String.toList trimmed
  have chars : ("/" ++ value).toList = '/' :: value.toList := by
    simp
  rw [Text.strip, chars, Text.stripChars_of_ends, ← chars, String.ofList_toList]
  · intro c first
    cases first
    decide
  · intro c last
    rw [List.getLast?_cons, Option.some.injEq] at last
    cases ends : value.toList.getLast? with
    | none => exact absurd (List.getLast?_eq_none_iff.mp ends) (by simpa using nonempty)
    | some d =>
        rw [ends, Option.getD_some] at last
        rw [← last]
        exact Text.isSpace_of_getLast?_stripChars (fixed ▸ ends)

private theorem blockedPath_result {rawPath value : String}
    (result : blockedPath rawPath = .ok (some value)) : IsBlockedPath value := by
  unfold blockedPath at result
  by_cases blank : Text.strip rawPath = ""
  · simp [blank] at result
  · simp only [if_neg blank] at result
    split at result
    · rename_i slash
      cases result
      exact ⟨Text.strip_strip rawPath, slash⟩
    · cases result
      exact ⟨strip_slash (Text.strip_strip rawPath) blank, by simp [Text.startsWith]⟩

private theorem blockedPath_fixed {text : String} (valid : IsBlockedPath text) :
    blockedPath text = .ok (some text) := by
  have nonempty : text ≠ "" := by
    rintro rfl
    exact absurd valid.slash (by decide)
  simp [blockedPath, valid.trimmed, nonempty, valid.slash]

private theorem templateId_result {rawId value : String}
    (result : templateId rawId = .ok (some value)) : IsTemplateReference value := by
  unfold templateId at result
  by_cases blank : Text.strip rawId = ""
  · simp [blank] at result
  · obtain rfl : Text.strip rawId = value := by simpa [blank] using result
    exact ⟨Text.strip_strip rawId, blank⟩

private theorem templateId_fixed {text : String} (valid : IsTemplateReference text) :
    templateId text = .ok (some text) := by
  simp [templateId, valid.trimmed, valid.nonempty]

/-- A header that is kept is a valid one. -/
theorem customHeader_result {entry value : String × String}
    (result : customHeader entry = .ok (some value)) : IsCustomHeader value := by
  unfold customHeader at result
  by_cases blank : Text.strip entry.1 = ""
  · simp [blank] at result
  · simp only [if_neg blank] at result
    split at result
    · cases result
    · rename_i token
      split at result
      · cases result
      · rename_i oneLine
        cases result
        simp only [Bool.or_eq_true, not_or, Bool.not_eq_true] at oneLine
        exact ⟨Text.strip_strip _, Text.strip_strip _, by simpa using token, oneLine⟩

/-- A valid header is kept as it is. -/
theorem customHeader_fixed {entry : String × String} (valid : IsCustomHeader entry) :
    customHeader entry = .ok (some entry) := by
  have nonempty : entry.1 ≠ "" := by
    intro none
    have key := valid.key
    rw [none] at key
    exact absurd key (by decide)
  simp [customHeader, valid.trimmedKey, valid.trimmedValue, nonempty, valid.key, valid.oneLine]

/-- A text is what stands before its first colon, the colon, and the rest. -/
theorem head_dropWhile_colon {chars hashed : List Char} {colon : Char}
    (rest : chars.dropWhile (· ≠ ':') = colon :: hashed) : colon = ':' := by
  have stopped := List.head?_dropWhile_not (· ≠ ':') chars
  rw [rest] at stopped
  simpa using stopped

private theorem split_at_colon {chars hashed : List Char}
    (rest : chars.dropWhile (· ≠ ':') = ':' :: hashed) :
    chars = chars.takeWhile (· ≠ ':') ++ ':' :: hashed := by
  conv_lhs => rw [← List.takeWhile_append_dropWhile (p := (· ≠ ':')) (l := chars), rest]

private theorem containsChar_append (c : Char) (first second : String) :
    Text.containsChar c (first ++ second) =
      (Text.containsChar c first || Text.containsChar c second) := by
  simp [Text.containsChar, Bool.decide_or]

theorem hasLineEnd_append (first second : String) :
    hasLineEnd (first ++ second) = (hasLineEnd first || hasLineEnd second) := by
  unfold hasLineEnd
  rw [containsChar_append, containsChar_append]
  cases Text.containsChar '\n' first <;> cases Text.containsChar '\n' second <;>
    cases Text.containsChar '\r' first <;> rfl

/-- Part of a text on one line is on one line. -/
theorem hasLineEnd_of_subset {part text : String} (subset : part.toList ⊆ text.toList)
    (oneLine : hasLineEnd text = false) : hasLineEnd part = false := by
  simp only [hasLineEnd, Text.containsChar, Bool.or_eq_false_iff, List.contains_eq_mem,
    decide_eq_false_iff_not] at oneLine ⊢
  exact ⟨fun member => oneLine.1 (subset member), fun member => oneLine.2 (subset member)⟩

/-- A user of basic authentication needs no trimming when its parts need none. -/
theorem strip_join {username hashedPassword : String} (trimmedName : Text.strip username = username)
    (trimmedHash : Text.strip hashedPassword = hashedPassword) (name : username ≠ "")
    (hash : hashedPassword ≠ "") :
    Text.strip (username ++ ":" ++ hashedPassword) = username ++ ":" ++ hashedPassword := by
  have fixedName : Text.stripChars username.toList = username.toList := by
    simpa using congrArg String.toList trimmedName
  have fixedHash : Text.stripChars hashedPassword.toList = hashedPassword.toList := by
    simpa using congrArg String.toList trimmedHash
  have nameChars : username.toList ≠ [] := by
    simpa using name
  have hashChars : hashedPassword.toList ≠ [] := by
    simpa using hash
  have chars : (username ++ ":" ++ hashedPassword).toList =
      username.toList ++ ':' :: hashedPassword.toList := by
    simp
  rw [Text.strip, chars, Text.stripChars_of_ends, ← chars, String.ofList_toList]
  · intro c first
    rw [List.head?_append_of_ne_nil _ nameChars] at first
    exact Text.isSpace_of_head?_stripChars (fixedName ▸ first)
  · intro c last
    rw [List.getLast?_append_of_ne_nil _ (by simp), List.getLast?_cons,
      List.getLast?_eq_some_getLast hashChars, Option.getD_some] at last
    rw [← List.getLast?_eq_some_getLast hashChars] at last
    exact Text.isSpace_of_getLast?_stripChars (fixedHash ▸ last)

private theorem basicAuthUser_result {rawUser value : String}
    (result : basicAuthUser rawUser = .ok (some value)) : IsBasicAuthUser value := by
  unfold basicAuthUser at result
  by_cases blank : Text.strip rawUser = ""
  · simp [blank] at result
  · simp only [if_neg blank] at result
    split at result
    · cases result
    · rename_i manyLines
      have oneLine : hasLineEnd (Text.strip rawUser) = false := by simpa using manyLines
      split at result
      · cases result
      · rename_i colon hashed rest
        split at result
        · cases result
        · rename_i present
          simp only [Except.ok.injEq, Option.some.injEq] at result
          subst result
          rw [not_or] at present
          obtain rfl := head_dropWhile_colon rest
          have parted := split_at_colon rest
          have named : ':' ∉ ((Text.strip rawUser).toList.takeWhile (· ≠ ':')) := by
            intro member
            simpa using List.mem_takeWhile_imp member
          have strippedSubset : ∀ part : List Char,
              (Text.strip (String.ofList part)).toList ⊆ part := by
            intro part
            simpa using Text.stripChars_subset part
          have oneLineOf : ∀ part : List Char, part ⊆ (Text.strip rawUser).toList →
              hasLineEnd (Text.strip (String.ofList part)) = false := by
            intro part subset
            exact hasLineEnd_of_subset (fun c member => subset (strippedSubset part member)) oneLine
          have frontSubset : (Text.strip rawUser).toList.takeWhile (· ≠ ':') ⊆
              (Text.strip rawUser).toList := (List.takeWhile_prefix _).subset
          have hashedSubset : hashed ⊆ (Text.strip rawUser).toList := by
            intro c member
            rw [parted]
            simp [member]
          refine ⟨strip_join (Text.strip_strip _) (Text.strip_strip _) present.1 present.2, ?_,
            _, _, rfl, ?_, Text.strip_strip _, Text.strip_strip _, present.1, present.2⟩
          · rw [hasLineEnd_append, hasLineEnd_append, oneLineOf _ frontSubset,
              oneLineOf _ hashedSubset]
            decide
          · exact fun member => named (strippedSubset _ member)

private theorem basicAuthUser_fixed {text : String} (valid : IsBasicAuthUser text) :
    basicAuthUser text = .ok (some text) := by
  obtain ⟨username, hashedPassword, isText, named, trimmedName, trimmedHash, name, hash⟩ :=
    valid.parts
  have chars : text.toList = username.toList ++ ':' :: hashedPassword.toList := by
    simp [isText]
  have keepsName : ∀ c ∈ username.toList, decide (c ≠ ':') = true := by
    intro c member
    rw [decide_eq_true_eq]
    rintro rfl
    exact named member
  have before : text.toList.takeWhile (· ≠ ':') = username.toList := by
    rw [chars, List.takeWhile_append_of_pos keepsName]
    simp
  have after : text.toList.dropWhile (· ≠ ':') = ':' :: hashedPassword.toList := by
    rw [chars, List.dropWhile_append_of_pos keepsName]
    simp
  have nonempty : text ≠ "" := by
    rintro rfl
    have none := congrArg List.length chars
    simp at none
  unfold basicAuthUser
  simp only [valid.trimmed, if_neg nonempty, valid.oneLine, Bool.false_eq_true, if_false, before,
    after, String.ofList_toList, trimmedName, trimmedHash, name, hash, or_self, ← isText]

end Items

section Results

/-- Normalized addresses are networks, without repetition. -/
theorem allowedIps_tidy {arguments : Option (List String)} {allowedIps : List String}
    (done : normalizeAllowedIps arguments = .ok allowedIps) : Tidy IsNetworkText allowedIps :=
  tidy_of_collect (fun _ _ => allowedIp_result) done

/-- Normalizing them again changes nothing. -/
theorem allowedIps_fixed {allowedIps : List String} (tidy : Tidy IsNetworkText allowedIps) :
    normalizeAllowedIps (some allowedIps) = .ok allowedIps :=
  collect_of_tidy (fun _ => allowedIp_fixed) tidy

/-- Normalized paths begin with a slash, without repetition. -/
theorem blockedPaths_tidy {arguments : Option (List String)} {blockedPaths : List String}
    (done : normalizeBlockedPaths arguments = .ok blockedPaths) : Tidy IsBlockedPath blockedPaths :=
  tidy_of_collect (fun _ _ => blockedPath_result) done

/-- Normalizing them again changes nothing. -/
theorem blockedPaths_fixed {blockedPaths : List String} (tidy : Tidy IsBlockedPath blockedPaths) :
    normalizeBlockedPaths (some blockedPaths) = .ok blockedPaths :=
  collect_of_tidy (fun _ => blockedPath_fixed) tidy

/-- Normalized users have a name and a hash, without repetition. -/
theorem basicAuthUsers_tidy {arguments : Option (List String)} {users : List String}
    (done : normalizeBasicAuthUsers arguments = .ok users) : Tidy IsBasicAuthUser users :=
  tidy_of_collect (fun _ _ => basicAuthUser_result) done

/-- Normalizing them again changes nothing. -/
theorem basicAuthUsers_fixed {users : List String} (tidy : Tidy IsBasicAuthUser users) :
    normalizeBasicAuthUsers (some users) = .ok users :=
  collect_of_tidy (fun _ => basicAuthUser_fixed) tidy

/-- Normalized references are identifiers, without repetition. -/
theorem middlewareTemplateIds_tidy {arguments : Option (List String)} {templateIds : List String}
    (done : normalizeMiddlewareTemplateIds arguments = .ok templateIds) :
    Tidy IsTemplateReference templateIds :=
  tidy_of_collect (fun _ _ => templateId_result) done

/-- Normalizing them again changes nothing. -/
theorem middlewareTemplateIds_fixed {templateIds : List String}
    (tidy : Tidy IsTemplateReference templateIds) :
    normalizeMiddlewareTemplateIds (some templateIds) = .ok templateIds :=
  collect_of_tidy (fun _ => templateId_fixed) tidy

/-- Normalized headers are valid. -/
theorem customHeaders_valid {arguments : Option (Dict String String)} {headers : Dict String String}
    (done : normalizeCustomHeaders arguments = .ok headers) :
    ∀ entry ∈ headers.entries, IsCustomHeader entry := by
  obtain ⟨entries, gathered, rfl⟩ := map_eq_ok.mp done
  intro entry listed
  obtain ⟨source, -, result⟩ := gather_ok gathered entry (Dict.mem_entries_ofList listed)
  exact customHeader_result result

/-- Normalizing them again changes nothing. -/
theorem customHeaders_fixed {headers : Dict String String}
    (valid : ∀ entry ∈ headers.entries, IsCustomHeader entry) :
    normalizeCustomHeaders (some headers) = .ok headers := by
  have gathered : gather customHeader headers.entries = .ok headers.entries :=
    gather_of_fixed fun entry listed => customHeader_fixed (valid entry listed)
  rw [normalizeCustomHeaders, Option.getD_some, gathered]
  simp only [Except.map, Dict.ofList_entries]

/-- Two parts of a rate limit are both absent or both positive. -/
def IsRateLimit (average burst : Option Int) : Prop :=
  (average = none ∧ burst = none) ∨
    ∃ a b : Int, average = some a ∧ burst = some b ∧ 0 < a ∧ 0 < b

/-- A normalized rate limit is absent or has two positive numbers. -/
theorem rateLimit_result {rawAverage rawBurst average burst : Option Int}
    (done : normalizeRateLimit rawAverage rawBurst = .ok (average, burst)) :
    IsRateLimit average burst := by
  unfold normalizeRateLimit at done
  split at done
  · cases done
    exact .inl ⟨rfl, rfl⟩
  · split at done
    · cases done
    · rename_i a b positive
      cases done
      rw [not_or, not_le, not_le] at positive
      exact .inr ⟨a, b, rfl, rfl, positive⟩
  · cases done

/-- Normalizing it again changes nothing. -/
theorem rateLimit_fixed {average burst : Option Int} (valid : IsRateLimit average burst) :
    normalizeRateLimit average burst = .ok (average, burst) := by
  rcases valid with ⟨rfl, rfl⟩ | ⟨a, b, rfl, rfl, average, burst⟩
  · rfl
  · have positive : ¬(a ≤ 0 ∨ b ≤ 0) := by omega
    simp [normalizeRateLimit, positive]

end Results

section Scalars

/-- A normalized message is short and stays as it is. -/
theorem maintenanceMessage_fixed {message normalized : String}
    (result : normalizeMaintenanceMessage message = .ok normalized) :
    normalizeMaintenanceMessage normalized = .ok normalized ∧
      normalized.length ≤ maintenanceMessageMaxLength := by
  unfold normalizeMaintenanceMessage at result
  by_cases long : maintenanceMessageMaxLength < (Text.joinWords message).length
  · simp [long] at result
  · obtain rfl : Text.joinWords message = normalized := by simpa [long] using result
    simp [normalizeMaintenanceMessage, Text.joinWords_joinWords, long, Nat.not_lt.mp long]

/-- A normalized health check path stays as it is. -/
theorem healthcheckPath_fixed {path normalized : String}
    (result : normalizeHealthcheckPath path = .ok normalized) :
    normalizeHealthcheckPath normalized = .ok normalized := by
  unfold normalizeHealthcheckPath at result
  by_cases slash : Text.startsWith "/" (orElse (Text.strip path) defaultHealthcheckPath) = true
  · obtain rfl : orElse (Text.strip path) defaultHealthcheckPath = normalized := by
      simpa [slash] using result
    by_cases blank : Text.strip path = ""
    · simp only [blank]
      decide
    · have named : orElse (Text.strip path) defaultHealthcheckPath = Text.strip path := if_neg blank
      rw [named] at slash ⊢
      have trimmed : Text.strip (Text.strip path) = Text.strip path := by
        simp [Text.strip, Text.stripChars_stripChars]
      rw [normalizeHealthcheckPath, trimmed, named]
      exact if_pos slash
  · simp [slash] at result

/-- A normalized timeout stays as it is. -/
theorem healthcheckTimeoutMs_fixed {timeout normalized : Int}
    (result : normalizeHealthcheckTimeoutMs timeout = .ok normalized) :
    normalizeHealthcheckTimeoutMs normalized = .ok normalized := by
  have same : normalized = timeout := by
    unfold normalizeHealthcheckTimeoutMs at result
    split at result
    · cases result
    · cases result
      rfl
  rwa [same] at result ⊢

/-- What is collected, being sorted, is collected again as it stands. -/
theorem healthcheckExpectedStatuses_fixed {statuses : Option (List Int)} {normalized : List Int}
    (result : normalizeHealthcheckExpectedStatuses statuses = .ok normalized) :
    normalizeHealthcheckExpectedStatuses (some normalized) = .ok normalized := by
  obtain ⟨collected, isCollected, isNormalized⟩ := map_eq_ok.mp result
  subst isNormalized
  have tidy : Tidy (fun status : Int => 100 ≤ status ∧ status ≤ 599) collected := by
    refine tidy_of_collect ?_ isCollected
    intro item value step
    unfold expectedStatus at step
    split at step
    · rename_i inRange
      cases step
      exact inRange
    · cases step
  have fixed : collect expectedStatus [] (collected.insertionSort (· ≤ ·)) =
      .ok (collected.insertionSort (· ≤ ·)) := by
    refine collect_of_tidy (fun item inRange => if_pos inRange) ⟨?_, fun item member => ?_⟩
    · exact (List.perm_insertionSort _ _).nodup_iff.mpr tidy.distinct
    · exact tidy.valid item (List.mem_insertionSort (· ≤ ·) |>.mp member)
  rw [normalizeHealthcheckExpectedStatuses, Option.getD_some, fixed]
  exact congrArg Except.ok (List.Pairwise.insertionSort_eq (List.pairwise_insertionSort _ _))

/-- The text of a routing mode is read as this mode. -/
theorem normalizeRoutingMode_text (mode : RoutingMode) : normalizeRoutingMode mode.text = .ok mode := by
  cases mode <;> decide

/-- The text of a policy is read as this policy. -/
theorem normalizeFramePolicy_text (policy : FramePolicy) :
    normalizeFramePolicy policy.text = .ok policy := by
  cases policy <;> decide

/-- The text of a scheme is read as this scheme. -/
theorem validateUpstreamScheme_text (scheme : UpstreamScheme) :
    validateUpstreamScheme scheme.text = .ok scheme := by
  cases scheme <;> rfl

/-- The text of a mode is read as this mode. -/
theorem normalizeAuthMode_text (mode : AuthMode) : normalizeAuthMode mode.text none = .ok mode := by
  cases mode <;> rfl

end Scalars

end TraefikManager.Domain
