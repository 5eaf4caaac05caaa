import TraefikManager.Domain.MiddlewareTemplate
import TraefikManager.Domain.Normalized
import TraefikManager.Domain.TargetUrl

/-!
# Redirect targets and template configurations in normal form

What a redirect host or a middleware template stores is left alone when it is normalized
again, and a stored configuration is refused by every type but its own.
-/

namespace TraefikManager.Domain

open Foundation

section RedirectTargets

/-- A text without blanks that is split with a web scheme. -/
structure IsTargetUrl (targetUrl : String) : Prop where
  noBlanks : targetUrl.toList.any Text.isSpace = false
  scheme : ∃ parsed, Url.urlsplit targetUrl.toList = .ok parsed ∧ isWebScheme parsed.scheme = true

private theorem strip_of_noBlanks {text : String}
    (noBlanks : text.toList.any Text.isSpace = false) : Text.strip text = text := by
  have blankFree : ∀ c ∈ text.toList, Text.isSpace c = false := by
    simpa using noBlanks
  rw [Text.strip, Text.stripChars_of_ends, String.ofList_toList]
  · intro c first
    exact blankFree c (List.mem_of_mem_head? (by simp [first]))
  · intro c last
    exact blankFree c (List.mem_of_mem_getLast? (by simp [last]))

private theorem noBlanks_iff {text : List Char} :
    text.any Text.isSpace = false ↔ NoBlanks text := by
  rw [List.any_eq_false]
  apply forall_congr'
  intro c
  rw [Bool.not_eq_true]

namespace IsTargetUrl

theorem nonempty {targetUrl : String} (valid : IsTargetUrl targetUrl) : targetUrl ≠ "" := by
  rintro rfl
  obtain ⟨parsed, isParsed, web⟩ := valid.scheme
  have noScheme : parsed.scheme = [] := (Url.urlsplit_eq_ok isParsed).1
  rw [noScheme] at web
  cases web

theorem trimmed {targetUrl : String} (valid : IsTargetUrl targetUrl) :
    Text.strip targetUrl = targetUrl := strip_of_noBlanks valid.noBlanks

theorem fixed {targetUrl : String} (valid : IsTargetUrl targetUrl) :
    normalizeTargetUrl targetUrl = .ok targetUrl := by
  obtain ⟨parsed, isParsed, web⟩ := valid.scheme
  unfold normalizeTargetUrl
  simp only [valid.trimmed, if_neg valid.nonempty, valid.noBlanks, Bool.false_eq_true, if_false,
    isParsed, if_pos web]

end IsTargetUrl

/-- The target of a bare address is split with the scheme it is given. -/
theorem isTargetUrl_bare {value : String} (noBlanks : value.toList.any Text.isSpace = false)
    (bare : isBareTarget value.toList = true) : IsTargetUrl ("https://" ++ value) := by
  obtain ⟨target, isBare⟩ := isBareTarget_iff.mp bare
  have blankFree : ("https://" ++ value).toList.any Text.isSpace = false := by
    rw [String.toList_append, List.any_append, noBlanks]
    decide
  refine ⟨blankFree, ?_⟩
  rw [String.toList_append]
  apply isBare.web.read
  rw [← String.toList_append]
  exact noBlanks_iff.mp blankFree

/-- A target is accepted as it is with a web scheme, and with `https` when it has no scheme
and is bare. -/
theorem normalizeTargetUrl_eq_ok {raw value : String} :
    normalizeTargetUrl raw = .ok value ↔
      NoBlanks (Text.strip raw).toList ∧
        ∃ parsed, Url.urlsplit (Text.strip raw).toList = .ok parsed ∧
          (isWebScheme parsed.scheme = true ∧ value = Text.strip raw ∨
            parsed.scheme = [] ∧ isBareTarget (Text.strip raw).toList = true ∧
              value = "https://" ++ Text.strip raw) := by
  unfold normalizeTargetUrl
  dsimp only
  generalize Text.strip raw = text
  by_cases empty : text = ""
  · subst empty
    rw [if_pos rfl]
    constructor
    · intro failed
      cases failed
    · rintro ⟨-, parsed, isParsed, ⟨web, -⟩ | ⟨-, bare, -⟩⟩
      · have noScheme : parsed.scheme = [] := (Url.urlsplit_eq_ok isParsed).1
        rw [noScheme] at web
        cases web
      · cases bare
  · rw [if_neg empty]
    cases blanks : text.toList.any Text.isSpace with
    | true =>
        rw [if_pos rfl]
        constructor
        · intro failed
          cases failed
        · rintro ⟨noBlanks, -⟩
          rw [noBlanks_iff.mpr noBlanks] at blanks
          cases blanks
    | false =>
        rw [if_neg Bool.false_ne_true, and_iff_right (noBlanks_iff.mp blanks)]
        cases split : Url.urlsplit text.toList with
        | error failure => simp
        | ok parsed =>
            simp only [Except.ok.injEq, exists_eq_left']
            by_cases web : isWebScheme parsed.scheme = true
            · have hasScheme : parsed.scheme ≠ [] := by
                intro none
                rw [none] at web
                cases web
              simpa [web, hasScheme] using eq_comm
            · by_cases noScheme : parsed.scheme = []
              · rw [if_neg web, if_neg (not_not.mpr noScheme)]
                cases bare : isBareTarget text.toList with
                | true =>
                    have notWeb : isWebScheme [] = false := rfl
                    simpa [notWeb, noScheme] using eq_comm
                | false => simp [web]
              · simp [web, noScheme]

theorem targetUrl_result {raw targetUrl : String} (result : normalizeTargetUrl raw = .ok targetUrl) :
    IsTargetUrl targetUrl := by
  obtain ⟨noBlanks, parsed, isParsed, ⟨web, rfl⟩ | ⟨-, bare, rfl⟩⟩ :=
    normalizeTargetUrl_eq_ok.mp result
  · exact ⟨noBlanks_iff.mpr noBlanks, parsed, isParsed, web⟩
  · exact isTargetUrl_bare (noBlanks_iff.mpr noBlanks) bare

end RedirectTargets

section TemplateConfigs

/-- A text with a colon on one line, without surrounding blanks. -/
structure IsTemplateUser (text : String) : Prop where
  trimmed : Text.strip text = text
  colon : Text.containsChar ':' text = true
  oneLine : hasLineEnd text = false

/-- A configuration in the form that is stored. -/
def TemplateConfig.Normal : TemplateConfig → Prop
  | ipAllowList sourceRange => sourceRange ≠ [] ∧ Tidy IsNetworkText sourceRange
  | rateLimit average burst => 0 < average ∧ 0 < burst
  | basicAuth users => users ≠ [] ∧ Tidy IsTemplateUser users
  | headers customResponseHeaders =>
      customResponseHeaders.entries ≠ [] ∧
        ∀ entry ∈ customResponseHeaders.entries, IsCustomHeader entry

private theorem networkText_result {text value : String} (result : networkText text = .ok value) :
    IsNetworkText value := by
  unfold networkText at result
  split at result
  · rename_i network read
    cases result
    exact ⟨Ip.strip_text network, network, Ip.ipNetwork_text read, rfl⟩
  · cases result

private theorem networkText_fixed {text : String} (valid : IsNetworkText text) :
    networkText (Text.strip text) = .ok text := by
  obtain ⟨network, read, isText⟩ := valid.canonical
  rw [valid.trimmed, networkText, read]
  exact congrArg Except.ok isText

private theorem templateUser_result {item value : String}
    (result : templateUser item = .ok (some value)) : IsTemplateUser value := by
  unfold templateUser at result
  dsimp only at result
  split at result
  · cases result
  · rename_i accepted
    cases result
    rw [not_or, not_or, not_not, Bool.not_eq_true] at accepted
    exact ⟨Text.strip_strip item, accepted.2.1, accepted.2.2⟩

private theorem templateUser_fixed {text : String} (valid : IsTemplateUser text) :
    templateUser text = .ok (some text) := by
  have nonempty : text ≠ "" := by
    rintro rfl
    exact absurd valid.colon (by decide)
  simp [templateUser, valid.trimmed, nonempty, valid.colon, valid.oneLine]

/-- A step that skips nothing collects something from a list with an item. -/
theorem collect_ne_nil {α β : Type} [DecidableEq β] {step : α → Except PyException (Option β)}
    (skipsNone : ∀ item, step item ≠ .ok none) {first : α} {rest : List α} {collected : List β}
    (done : collect step [] (first :: rest) = .ok collected) : collected ≠ [] := by
  cases result : step first with
  | error failure =>
      rw [collect, result] at done
      cases done
  | ok value =>
      cases value with
      | none => exact absurd result (skipsNone first)
      | some value =>
          apply List.ne_nil_of_mem (a := value)
          exact mem_collect done (.inr ⟨first, by simp, result⟩)

/-- What a template stores is of its type and in normal form. -/
theorem config_result {type : MiddlewareTemplateType} {raw : RawTemplateConfig}
    {config : TemplateConfig} (result : normalizeConfig type raw = .ok config) :
    config.type = type ∧ config.Normal := by
  cases type with
  | ipAllowList =>
      simp only [normalizeConfig] at result
      split at result
      · obtain ⟨sourceRange, collected, rfl⟩ := map_eq_ok.mp result
        refine ⟨rfl, collect_ne_nil ?_ collected, tidy_of_collect ?_ collected⟩
        · intro item skipped
          obtain ⟨_, -, isNone⟩ := map_eq_ok.mp skipped
          cases isNone
        · intro item value found
          obtain ⟨text, isText, isValue⟩ := map_eq_ok.mp found
          cases isValue
          exact networkText_result isText
      · cases result
  | rateLimit =>
      simp only [normalizeConfig] at result
      split at result
      · split at result
        · rename_i average positive
          rw [pure_bind] at result
          split at result
          · split at result
            · rename_i burst positive'
              cases result
              exact ⟨rfl, positive, positive'⟩
            · cases result
          · cases result
        · cases result
      · cases result
  | basicAuth =>
      simp only [normalizeConfig] at result
      split at result
      · obtain ⟨users, collected, rfl⟩ := map_eq_ok.mp result
        refine ⟨rfl, collect_ne_nil ?_ collected, ?_⟩
        · intro item skipped
          unfold templateUser at skipped
          dsimp only at skipped
          split at skipped <;> cases skipped
        · exact tidy_of_collect (fun _ _ => templateUser_result) collected
      · cases result
  | headers =>
      simp only [normalizeConfig] at result
      split at result
      · split at result
        · cases result
        · split at result
          · cases result
          · cases result
          · rename_i entries someEntry gathered
            cases result
            refine ⟨rfl, ?_, ?_⟩
            · obtain ⟨first, rest, rfl⟩ := List.exists_cons_of_ne_nil fun none => someEntry none
              have keyed : first.1 ∈ (Dict.ofList (first :: rest)).keys := by simp
              obtain ⟨entry, listed, -⟩ := List.mem_map.mp keyed
              exact List.ne_nil_of_mem listed
            · intro entry listed
              obtain ⟨source, -, found⟩ := gather_ok gathered entry (Dict.mem_entries_ofList listed)
              exact customHeader_result found
      · cases result

/-- A stored configuration is normalized to itself. -/
theorem config_fixed {config : TemplateConfig} (normal : config.Normal) :
    normalizeConfig config.type config.raw = .ok config := by
  cases config with
  | ipAllowList sourceRange =>
      obtain ⟨nonempty, tidy⟩ := normal
      obtain ⟨first, rest, rfl⟩ := List.exists_cons_of_ne_nil nonempty
      have collected : collect (fun item => (networkText (Text.strip item)).map some) []
          (first :: rest) = .ok (first :: rest) := by
        apply collect_of_tidy _ tidy
        intro item valid
        rw [networkText_fixed valid]
        rfl
      show (collect _ [] (first :: rest)).map TemplateConfig.ipAllowList = _
      rw [collected]
      rfl
  | rateLimit average burst =>
      simp only [TemplateConfig.type, TemplateConfig.raw, normalizeConfig, if_pos normal.1,
        if_pos normal.2]
      rfl
  | basicAuth users =>
      obtain ⟨nonempty, tidy⟩ := normal
      obtain ⟨first, rest, rfl⟩ := List.exists_cons_of_ne_nil nonempty
      show (collect templateUser [] (first :: rest)).map TemplateConfig.basicAuth = _
      rw [collect_of_tidy (fun _ => templateUser_fixed) tidy]
      rfl
  | headers customResponseHeaders =>
      obtain ⟨nonempty, valid⟩ := normal
      have gathered : gather customHeader customResponseHeaders.entries =
          .ok customResponseHeaders.entries :=
        gather_of_fixed fun entry listed => customHeader_fixed (valid entry listed)
      simp only [TemplateConfig.type, TemplateConfig.raw, normalizeConfig, if_neg nonempty, gathered]
      cases isEntries : customResponseHeaders.entries with
      | nil => exact absurd isEntries nonempty
      | cons first rest =>
          rw [← isEntries, Dict.ofList_entries]

/-- A stored configuration is none of another type. -/
theorem type_of_config {config other : TemplateConfig} {type : MiddlewareTemplateType}
    (result : normalizeConfig type config.raw = .ok other) : config.type = type := by
  cases config <;> cases type <;> first | rfl | cases result

/-- Normalizing a stored configuration under any type gives this configuration or an error. -/
theorem config_unchanged {config other : TemplateConfig} {type : MiddlewareTemplateType}
    (normal : config.Normal) (result : normalizeConfig type config.raw = .ok other) :
    other = config := by
  rw [← type_of_config result, config_fixed normal] at result
  exact (Except.ok.inj result).symm

end TemplateConfigs

end TraefikManager.Domain
