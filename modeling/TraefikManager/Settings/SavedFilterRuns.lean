import TraefikManager.Foundation.Table
import TraefikManager.Settings.SavedFilters

/-!
# What the saved filters keep

Whatever is done to the list, it stays short and no two names agree in lower case. A name is cut
after its blanks were collapsed, so that a blank can become its last unit; a list into which no such
name was put survives its storage, and a listed name stands for its entry.
-/

namespace TraefikManager.Settings

open Foundation

section Values

/-- Filters that are normalized already. -/
structure IsFilters (filters : Filters) : Prop where
  query : filters.query.length ≤ 100
  dates : ∀ date ∈ [filters.endDate, filters.startDate],
    date = [] ∨ filters.period = .custom ∧ isCalendarDate date = true

private theorem optionOf_optionText {α : Type} [DecidableEq α] {texts : List (String × α)}
    {option : α} (fallback : α) (listed : ∃ entry ∈ texts, entry.2 = option)
    (distinct : (texts.map fun entry => JsString.ofText entry.1).Nodup) :
    optionOf texts fallback (some (.string (optionText texts option))) = option := by
  obtain ⟨entry, found⟩ : ∃ entry, texts.find? (·.2 = option) = some entry := by
    rw [← Option.isSome_iff_exists, List.find?_isSome]
    simpa using listed
  have isOption : entry.2 = option := by simpa using List.find?_some found
  have inTexts := List.mem_of_find?_eq_some found
  have isText : optionText texts option = JsString.ofText entry.1 := by
    rw [optionText, found]
  obtain ⟨again, foundAgain⟩ :
      ∃ again, texts.find? (JsString.ofText ·.1 = JsString.ofText entry.1) = some again := by
    rw [← Option.isSome_iff_exists, List.find?_isSome]
    exact ⟨entry, inTexts, by simp⟩
  have same : again = entry :=
    Table.eq_of_key distinct (List.mem_of_find?_eq_some foundAgain) inTexts
      (by simpa using List.find?_some foundAgain)
  rw [optionOf, isText]
  simp only [foundAgain]
  rw [same, isOption]

private theorem optionOf_period (period : PeriodFilter) :
    optionOf PeriodFilter.texts .all (some (.string (optionText PeriodFilter.texts period))) =
      period := by
  apply optionOf_optionText _ _ (by decide)
  cases period <;> decide

private theorem optionOf_sort (sort : FailureSort) :
    optionOf FailureSort.texts .newest (some (.string (optionText FailureSort.texts sort))) =
      sort := by
  apply optionOf_optionText _ _ (by decide)
  cases sort <;> decide

private theorem optionOf_type (type : TypeFilter) :
    optionOf TypeFilter.texts .all (some (.string (optionText TypeFilter.texts type))) = type := by
  apply optionOf_optionText _ _ (by decide)
  cases type <;> decide

private theorem normalizeCalendarDate_cases (value : Option JsValue) :
    normalizeCalendarDate value = [] ∨ isCalendarDate (normalizeCalendarDate value) = true := by
  unfold normalizeCalendarDate
  split
  · split
    · exact .inr ‹_›
    · exact .inl rfl
  · exact .inl rfl

/-- What is normalized has the form it leaves alone. -/
theorem isFilters_normalizeFilters (value : Option JsValue) : IsFilters (normalizeFilters value) where
  query := by
    simp only [normalizeFilters, normalizeQuery]
    split <;> simp
  dates date listed := by
    simp only [normalizeFilters, List.mem_cons, List.not_mem_nil, or_false] at listed ⊢
    obtain rfl | rfl := listed
    · split
      · exact (normalizeCalendarDate_cases _).imp_right fun isDate => ⟨‹_›, isDate⟩
      · exact .inl rfl
    · split
      · exact (normalizeCalendarDate_cases _).imp_right fun isDate => ⟨‹_›, isDate⟩
      · exact .inl rfl

private theorem normalizeFilters_toValue {filters : Filters} (valid : IsFilters filters) :
    normalizeFilters (some filters.toValue) = filters := by
  have endDate : JsValue.get? (recordFields (some filters.toValue)) "endDate" =
      some (.string filters.endDate) := rfl
  have period : JsValue.get? (recordFields (some filters.toValue)) "period" =
      some (.string (optionText PeriodFilter.texts filters.period)) := rfl
  have query : JsValue.get? (recordFields (some filters.toValue)) "query" =
      some (.string filters.query) := rfl
  have sort : JsValue.get? (recordFields (some filters.toValue)) "sort" =
      some (.string (optionText FailureSort.texts filters.sort)) := rfl
  have startDate : JsValue.get? (recordFields (some filters.toValue)) "startDate" =
      some (.string filters.startDate) := rfl
  have type : JsValue.get? (recordFields (some filters.toValue)) "type" =
      some (.string (optionText TypeFilter.texts filters.type)) := rfl
  have date : ∀ date ∈ [filters.endDate, filters.startDate],
      (if filters.period = .custom then normalizeCalendarDate (some (.string date)) else []) =
        date := by
    intro date listed
    obtain rfl | ⟨isCustom, isDate⟩ := valid.dates date listed
    · simp [normalizeCalendarDate]
    · rw [if_pos isCustom, normalizeCalendarDate, if_pos isDate]
  rw [normalizeFilters]
  simp only [endDate, period, query, sort, startDate, type, optionOf_period, optionOf_sort,
    optionOf_type, date filters.endDate (by simp), date filters.startDate (by simp), normalizeQuery,
    List.take_of_length_le valid.query]

end Values

section Names

/-- Whether the limit cuts a name behind a blank. -/
def cutsAtBlank (value : JsString) : Bool :=
  ((JsString.collapse (JsString.trim value))[savedFilterNameLimit - 1]?).any JsString.isBlank

/-- Normalizing a name again keeps it, unless the limit cuts it behind a blank. -/
theorem normalizeName_normalizeName {value : JsString} (clean : cutsAtBlank value = false) :
    normalizeName (normalizeName value) = normalizeName value := by
  have trimmed : Blanks.IsTrimmed JsString.isBlank (JsString.collapse (JsString.trim value)) :=
    Blanks.isTrimmed_trim.collapse JsString.space
  have collapsed : Blanks.IsCollapsed JsString.isBlank JsString.space
      (JsString.collapse (JsString.trim value)) :=
    Blanks.isCollapsed_collapse _
  have trimmedName : Blanks.IsTrimmed JsString.isBlank (normalizeName value) := by
    constructor
    · intro unit isFirst
      rw [normalizeName, List.head?_take] at isFirst
      exact trimmed.first unit (by simpa [savedFilterNameLimit] using isFirst)
    · intro unit isLast
      rw [normalizeName, List.getLast?_take] at isLast
      by_cases short : (JsString.collapse (JsString.trim value))[savedFilterNameLimit - 1]? = none
      · rw [if_neg (by decide), short, Option.none_or] at isLast
        exact trimmed.last unit isLast
      · obtain ⟨cut, isCut⟩ := Option.ne_none_iff_exists'.mp short
        rw [if_neg (by decide), isCut, Option.some_or, Option.some.injEq] at isLast
        rw [cutsAtBlank, isCut, Option.any_some] at clean
        rw [← isLast]
        exact clean
  have isTrim : JsString.trim (normalizeName value) = normalizeName value :=
    Blanks.trim_of_isTrimmed trimmedName
  have isCollapse : JsString.collapse (normalizeName value) = normalizeName value :=
    Blanks.collapse_of_isCollapsed (collapsed.take _)
  have short : (normalizeName value).length ≤ savedFilterNameLimit := List.length_take_le _ _
  conv_lhs => rw [normalizeName]
  rw [isTrim, isCollapse, List.take_of_length_le short]

end Names

section Lists

variable {toLowerCase : JsString → JsString}

/-- An entry that the checks let through. -/
structure IsEntry (toLowerCase : JsString → JsString) (entry : SavedFilter) : Prop where
  name : entry.name ≠ []
  key : toLowerCase entry.name ≠ []
  filters : IsFilters entry.filters

/-- A list that the functions of the page may return. -/
structure IsFilterList (toLowerCase : JsString → JsString) (current : List SavedFilter) : Prop where
  size : current.length ≤ savedFilterLimit
  distinct : (current.map fun entry => toLowerCase entry.name).Nodup
  entries : ∀ entry ∈ current, IsEntry toLowerCase entry

/-- Each name stays as it is when it is normalized again. -/
def Settled (current : List SavedFilter) : Prop :=
  ∀ entry ∈ current, normalizeName entry.name = entry.name

/-- The names that the items of a value give. -/
def itemNames (value : JsValue) : List JsString :=
  match value with
  | .array items => items.filterMap fun
      | .object fields => some (itemName fields)
      | _ => none
  | _ => []

/-- What is collected fits the room, has no name twice or among those before, and comes from the
items. -/
structure Collected (toLowerCase : JsString → JsString) (room : Nat) (names : List JsString)
    (items : List JsValue) (collected : List SavedFilter) : Prop where
  size : collected.length ≤ room
  distinct : (collected.map fun entry => toLowerCase entry.name).Nodup
  fresh : ∀ entry ∈ collected, toLowerCase entry.name ∉ names
  filters : ∀ entry ∈ collected, IsFilters entry.filters
  named : ∀ entry ∈ collected, entry.name ≠ [] ∧
    ∃ name ∈ itemNames (.array items), entry.name = normalizeName name

theorem Collected.skip {room : Nat} {names : List JsString} {item : JsValue} {items : List JsValue}
    {collected : List SavedFilter} (rest : Collected toLowerCase room names items collected) :
    Collected toLowerCase room names (item :: items) collected where
  __ := rest
  named entry listed := by
    obtain ⟨nonempty, name, inItems, isName⟩ := rest.named entry listed
    refine ⟨nonempty, name, ?_, isName⟩
    simp only [itemNames, List.mem_filterMap] at inItems ⊢
    obtain ⟨item, inItems, gives⟩ := inItems
    exact ⟨item, List.mem_cons_of_mem _ inItems, gives⟩

private theorem collectSavedFilters_object (room : Nat) (names : List JsString)
    (fields : List (JsString × JsValue)) (rest : List JsValue) :
    collectSavedFilters toLowerCase (room + 1) names (.object fields :: rest) =
      if normalizeName (itemName fields) = [] ∨
          toLowerCase (normalizeName (itemName fields)) ∈ names then
        collectSavedFilters toLowerCase (room + 1) names rest
      else
        ⟨normalizeFilters (JsValue.get? fields "filters"), normalizeName (itemName fields)⟩ ::
          collectSavedFilters toLowerCase room
            (toLowerCase (normalizeName (itemName fields)) :: names) rest :=
  rfl

private theorem collectSavedFilters_other {item : JsValue}
    (noObject : ∀ fields, item ≠ .object fields)
    (room : Nat) (names : List JsString) (rest : List JsValue) :
    collectSavedFilters toLowerCase (room + 1) names (item :: rest) =
      collectSavedFilters toLowerCase (room + 1) names rest := by
  cases item with
  | object fields => exact absurd rfl (noObject fields)
  | _ => rfl

private theorem collected_collectSavedFilters (room : Nat) (names : List JsString)
    (items : List JsValue) :
    Collected toLowerCase room names items (collectSavedFilters toLowerCase room names items) := by
  induction items generalizing room names with
  | nil => cases room <;> exact ⟨Nat.zero_le _, List.nodup_nil, nofun, nofun, nofun⟩
  | cons item items ih =>
      cases room with
      | zero => exact ⟨Nat.zero_le _, List.nodup_nil, nofun, nofun, nofun⟩
      | succ room =>
          by_cases isObject : ∃ fields, item = .object fields
          · obtain ⟨fields, rfl⟩ := isObject
            rw [collectSavedFilters_object]
            split
            · exact (ih (room + 1) names).skip
            · rename_i admitted
              obtain ⟨nonempty, isNew⟩ := not_or.mp admitted
              have rest := ih room (toLowerCase (normalizeName (itemName fields)) :: names)
              constructor
              · exact Nat.succ_le_succ rest.size
              · refine List.nodup_cons.mpr ⟨?_, rest.distinct⟩
                intro again
                obtain ⟨other, listed, same⟩ := List.mem_map.mp again
                exact rest.fresh other listed (same ▸ List.mem_cons_self)
              · refine List.forall_mem_cons.mpr ⟨isNew, fun other listed before => ?_⟩
                exact rest.fresh other listed (List.mem_cons_of_mem _ before)
              · exact List.forall_mem_cons.mpr ⟨isFilters_normalizeFilters _, rest.filters⟩
              · refine List.forall_mem_cons.mpr ⟨⟨nonempty, itemName fields, ?_, rfl⟩,
                  rest.skip.named⟩
                simp [itemNames]
          · rw [collectSavedFilters_other (not_exists.mp isObject)]
            exact (ih (room + 1) names).skip

/-- Entries that are in order are collected as they stand. -/
theorem collectSavedFilters_toValue {room : Nat} {names : List JsString}
    {current : List SavedFilter} (size : current.length ≤ room)
    (distinct : (current.map fun entry => toLowerCase entry.name).Nodup)
    (fresh : ∀ entry ∈ current, toLowerCase entry.name ∉ names)
    (entries : ∀ entry ∈ current, entry.name ≠ [] ∧ IsFilters entry.filters)
    (settled : Settled current) :
    collectSavedFilters toLowerCase room names (current.map SavedFilter.toValue) = current := by
  induction current generalizing room names with
  | nil => cases room <;> rfl
  | cons entry rest ih =>
      obtain ⟨room, rfl⟩ : ∃ less, room = less + 1 :=
        Nat.exists_eq_succ_of_ne_zero (by rw [List.length_cons] at size; omega)
      obtain ⟨isNew, freshRest⟩ := List.forall_mem_cons.mp fresh
      obtain ⟨⟨nonempty, filters⟩, others⟩ := List.forall_mem_cons.mp entries
      obtain ⟨isSettled, settledRest⟩ := List.forall_mem_cons.mp settled
      obtain ⟨notAgain, distinctRest⟩ := List.nodup_cons.mp distinct
      have isName : itemName [(JsString.ofText "filters", entry.filters.toValue),
          (JsString.ofText "name", .string entry.name)] = entry.name := rfl
      have isFilters : JsValue.get? [(JsString.ofText "filters", entry.filters.toValue),
          (JsString.ofText "name", .string entry.name)] "filters" = some entry.filters.toValue := rfl
      rw [List.map_cons, SavedFilter.toValue, collectSavedFilters_object, isName, isFilters, isSettled, if_neg (not_or.mpr ⟨nonempty, isNew⟩),
        normalizeFilters_toValue filters]
      congr 1
      apply ih (by simpa using size) distinctRest _ others settledRest
      intro other listed
      rw [List.mem_cons, not_or]
      exact ⟨fun same => notAgain (List.mem_map.mpr ⟨other, listed, same⟩),
        freshRest other listed⟩

private theorem isFilterList_normalizeSavedFilters
    (empty : ∀ text, toLowerCase text = [] ↔ text = [])
    (value : JsValue) : IsFilterList toLowerCase (normalizeSavedFilters toLowerCase value) := by
  unfold normalizeSavedFilters
  split
  · rename_i items
    have collected : Collected toLowerCase savedFilterLimit [] items _ :=
      collected_collectSavedFilters savedFilterLimit [] items
    refine ⟨collected.size, collected.distinct, fun entry listed => ?_⟩
    have nonempty := (collected.named entry listed).1
    exact ⟨nonempty, fun isNil => nonempty ((empty _).mp isNil), collected.filters entry listed⟩
  · exact ⟨Nat.zero_le _, List.nodup_nil, nofun⟩

private theorem settled_normalizeSavedFilters {value : JsValue}
    (settles : ∀ name ∈ itemNames value, normalizeName (normalizeName name) = normalizeName name) :
    Settled (normalizeSavedFilters toLowerCase value) := by
  unfold normalizeSavedFilters
  split
  · intro entry listed
    obtain ⟨-, name, inItems, isName⟩ :=
      (collected_collectSavedFilters savedFilterLimit [] _).named entry listed
    rw [isName]
    exact settles name inItems
  · exact nofun

/-- A list of settled names is normalized to itself. -/
theorem normalizeSavedFilters_savedFiltersValue {current : List SavedFilter}
    (isList : IsFilterList toLowerCase current) (settled : Settled current) :
    normalizeSavedFilters toLowerCase (savedFiltersValue current) = current :=
  collectSavedFilters_toValue isList.size isList.distinct (fun _ _ => List.not_mem_nil)
    (fun entry listed => ⟨(isList.entries entry listed).name, (isList.entries entry listed).filters⟩)
    settled

end Lists

section Changes

variable {toLowerCase : JsString → JsString} {current : List SavedFilter}

theorem IsFilterList.sublist {part : List SavedFilter} (isList : IsFilterList toLowerCase current)
    (isPart : part.Sublist current) : IsFilterList toLowerCase part where
  size := isPart.length_le.trans isList.size
  distinct := isList.distinct.sublist (isPart.map _)
  entries entry listed := isList.entries entry (isPart.subset listed)

theorem Settled.sublist {part : List SavedFilter} (settled : Settled current)
    (isPart : part.Sublist current) : Settled part :=
  fun entry listed => settled entry (isPart.subset listed)

private theorem isFilterList_upsertSavedFilter (empty : ∀ text, toLowerCase text = [] ↔ text = [])
    (isList : IsFilterList toLowerCase current) (name : JsString) (filters : Option JsValue) :
    IsFilterList toLowerCase (upsertSavedFilter toLowerCase current name filters) := by
  unfold upsertSavedFilter
  dsimp only
  split
  · exact isList
  · rename_i nonempty
    have others : IsFilterList toLowerCase
        (current.filter fun item => toLowerCase item.name ≠ toLowerCase (normalizeName name)) :=
      isList.sublist List.filter_sublist
    refine ⟨List.length_take_le _ _, ?_, ?_⟩
    · apply List.Nodup.sublist ((List.take_sublist _ _).map _)
      refine List.nodup_cons.mpr ⟨?_, others.distinct⟩
      intro again
      obtain ⟨other, listed, same⟩ := List.mem_map.mp again
      exact of_decide_eq_true (List.mem_filter.mp listed).2 same
    · intro entry listed
      obtain rfl | isOther := List.mem_cons.mp (List.mem_of_mem_take listed)
      · exact ⟨nonempty, fun isNil => nonempty ((empty _).mp isNil), isFilters_normalizeFilters _⟩
      · exact others.entries entry isOther

private theorem settled_upsertSavedFilter (settled : Settled current) {name : JsString}
    (clean : cutsAtBlank name = false) (filters : Option JsValue) :
    Settled (upsertSavedFilter toLowerCase current name filters) := by
  unfold upsertSavedFilter
  dsimp only
  split
  · exact settled
  · apply Settled.sublist _ (List.take_sublist _ _)
    exact List.forall_mem_cons.mpr
      ⟨normalizeName_normalizeName clean, settled.sublist List.filter_sublist⟩

/-- Renaming leaves the list alone or gives the new name to the entry of the old one. -/
theorem renameSavedFilter_cases (toLowerCase : JsString → JsString) (current : List SavedFilter)
    (currentName nextName : JsString) :
    renameSavedFilter toLowerCase current currentName nextName = current ∨
      toLowerCase (normalizeName nextName) ≠ [] ∧
      (∀ entry ∈ current, toLowerCase entry.name = toLowerCase (normalizeName nextName) →
        toLowerCase entry.name = toLowerCase (normalizeName currentName)) ∧
      renameSavedFilter toLowerCase current currentName nextName = current.map fun item =>
        if toLowerCase item.name = toLowerCase (normalizeName currentName) then
          { item with name := normalizeName nextName }
        else item := by
  unfold renameSavedFilter
  dsimp only
  split
  · exact .inl rfl
  · rename_i given
    split
    · exact .inl rfl
    · rename_i free
      refine .inr ⟨(not_or.mp given).2, fun entry listed isNext => ?_, rfl⟩
      by_contra differs
      refine free ⟨fun same => differs (isNext.trans same.symm), ?_⟩
      exact List.any_eq_true.mpr ⟨entry, listed, decide_eq_true isNext⟩

private theorem isFilterList_renameSavedFilter (empty : ∀ text, toLowerCase text = [] ↔ text = [])
    (isList : IsFilterList toLowerCase current) (currentName nextName : JsString) :
    IsFilterList toLowerCase (renameSavedFilter toLowerCase current currentName nextName) := by
  obtain same | ⟨isNamed, free, isMap⟩ :=
    renameSavedFilter_cases toLowerCase current currentName nextName
  · rw [same]
    exact isList
  · rw [isMap]
    refine ⟨by simpa using isList.size, ?_, ?_⟩
    · rw [List.map_map]
      refine List.Nodup.map_on ?_ isList.distinct.of_map
      intro first inFirst second inSecond same
      apply Table.eq_of_key isList.distinct inFirst inSecond
      simp only [Function.comp_apply, apply_ite SavedFilter.name, apply_ite toLowerCase] at same
      split at same
      · rename_i firstIs
        split at same
        · rename_i secondIs
          exact firstIs.trans secondIs.symm
        · exact firstIs.trans (free second inSecond same.symm).symm
      · split at same
        · rename_i secondIs
          exact (free first inFirst same).trans secondIs.symm
        · exact same
    · intro entry listed
      obtain ⟨item, inList, rfl⟩ := List.mem_map.mp listed
      have isEntry := isList.entries item inList
      split
      · exact ⟨fun isNil => isNamed ((empty _).mpr isNil), isNamed, isEntry.filters⟩
      · exact isEntry

private theorem settled_renameSavedFilter (settled : Settled current) {nextName : JsString}
    (clean : cutsAtBlank nextName = false) (currentName : JsString) :
    Settled (renameSavedFilter toLowerCase current currentName nextName) := by
  obtain same | ⟨-, -, isMap⟩ := renameSavedFilter_cases toLowerCase current currentName nextName
  · rw [same]
    exact settled
  · rw [isMap]
    intro entry listed
    obtain ⟨item, inList, rfl⟩ := List.mem_map.mp listed
    split
    · exact normalizeName_normalizeName clean
    · exact settled item inList

private theorem isFilterList_mergeSavedFilters (empty : ∀ text, toLowerCase text = [] ↔ text = [])
    (current : List SavedFilter) (restored : JsValue) :
    IsFilterList toLowerCase (mergeSavedFilters toLowerCase current restored).filters := by
  have first := isFilterList_normalizeSavedFilters empty restored
  have second := (isFilterList_normalizeSavedFilters empty (savedFiltersValue current)).sublist
    (List.filter_sublist (p := fun item => toLowerCase item.name ∉
      (normalizeSavedFilters toLowerCase restored).map fun item => toLowerCase item.name))
  refine ⟨List.length_take_le _ _, ?_, ?_⟩
  · apply List.Nodup.sublist ((List.take_sublist _ _).map _)
    rw [List.map_append]
    refine first.distinct.append second.distinct ?_
    intro key inFirst inSecond
    obtain ⟨other, listed, rfl⟩ := List.mem_map.mp inSecond
    exact of_decide_eq_true (List.mem_filter.mp listed).2 inFirst
  · intro entry listed
    obtain inFirst | inSecond := List.mem_append.mp (List.mem_of_mem_take listed)
    · exact first.entries entry inFirst
    · exact second.entries entry inSecond

private theorem itemNames_savedFiltersValue (current : List SavedFilter) :
    itemNames (savedFiltersValue current) = current.map SavedFilter.name := by
  rw [savedFiltersValue, itemNames, List.filterMap_map]
  change current.filterMap (fun saved => some saved.name) = _
  exact congrFun List.filterMap_eq_map current

theorem Settled.normalized (settled : Settled current) :
    Settled (normalizeSavedFilters toLowerCase (savedFiltersValue current)) := by
  apply settled_normalizeSavedFilters
  rw [itemNames_savedFiltersValue]
  intro name listed
  obtain ⟨entry, inList, rfl⟩ := List.mem_map.mp listed
  rw [settled entry inList, settled entry inList]

private theorem settled_mergeSavedFilters (settled : Settled current) {restored : JsValue}
    (clean : ∀ name ∈ itemNames restored, cutsAtBlank name = false) :
    Settled (mergeSavedFilters toLowerCase current restored).filters := by
  have first : Settled (normalizeSavedFilters toLowerCase restored) :=
    settled_normalizeSavedFilters fun name listed => normalizeName_normalizeName (clean name listed)
  have second : Settled (normalizeSavedFilters toLowerCase (savedFiltersValue current)) :=
    settled.normalized
  intro entry listed
  obtain inFirst | inSecond := List.mem_append.mp (List.mem_of_mem_take listed)
  · exact first entry inFirst
  · exact second entry (List.mem_of_mem_filter inSecond)

end Changes

section Storage

variable {Text : Type} {toLowerCase : JsString → JsString} {JSON : JsonFunctions Text}
  {current : List SavedFilter}

private theorem lossless_toValue (filters : Filters) : filters.toValue.Lossless := by
  refine .object ?_ ?_ ?_
  · have distinct : (["endDate", "period", "query", "sort", "startDate", "type"].map
        JsString.ofText).Nodup := by
      decide
    exact distinct
  · simp only [List.forall_mem_cons]
    decide
  · simp only [List.forall_mem_cons]
    exact ⟨.string _, .string _, .string _, .string _, .string _, .string _, nofun⟩

private theorem lossless_savedFiltersValue (current : List SavedFilter) :
    (savedFiltersValue current).Lossless := by
  refine .array fun item listed => ?_
  obtain ⟨saved, -, rfl⟩ := List.mem_map.mp listed
  refine .object ?_ ?_ ?_
  · have distinct : (["filters", "name"].map JsString.ofText).Nodup := by decide
    exact distinct
  · simp only [List.forall_mem_cons]
    decide
  · simp only [List.forall_mem_cons]
    exact ⟨lossless_toValue _, .string _, nofun⟩

/-- A page finds in the storage what it would normalize. -/
theorem reloaded_eq (readsBack : JSON.ReadsBack) (current : List SavedFilter) :
    reloaded toLowerCase JSON current =
      normalizeSavedFilters toLowerCase (savedFiltersValue current) := by
  rw [reloaded, parseSavedFilters, Option.bind_some,
    readsBack 0 _ (lossless_savedFiltersValue current)]

private theorem parseSavedFiltersBackup_content (readsBack : JSON.ReadsBack)
    (current : List SavedFilter) (sort : SavedFilterSort) (exportedAt : JsString) :
    parseSavedFiltersBackup toLowerCase JSON
        (buildSavedFiltersBackup toLowerCase JSON current sort exportedAt).content =
      some ⟨normalizeSavedFilters toLowerCase (savedFiltersValue
        (normalizeSavedFilters toLowerCase (savedFiltersValue current))), sort⟩ := by
  have lossless : (JsValue.object [
      (JsString.ofText "exported_at", .string exportedAt),
      (JsString.ofText "filters",
        savedFiltersValue (normalizeSavedFilters toLowerCase (savedFiltersValue current))),
      (JsString.ofText "schema_version", .number 1),
      (JsString.ofText "sort", .string (optionText SavedFilterSort.texts sort))]).Lossless := by
    refine .object ?_ ?_ ?_
    · have distinct : (["exported_at", "filters", "schema_version", "sort"].map
          JsString.ofText).Nodup := by
        decide
      exact distinct
    · simp only [List.forall_mem_cons]
      decide
    · simp only [List.forall_mem_cons]
      exact ⟨.string _, lossless_savedFiltersValue _, .number (by decide), .string _, nofun⟩
  have isSort : parseSavedFilterSort (some (.string (optionText SavedFilterSort.texts sort))) =
      sort := by
    apply optionOf_optionText _ _ (by decide)
    cases sort <;> decide
  rw [parseSavedFiltersBackup, buildSavedFiltersBackup, readsBack 2 _ lossless]
  exact congrArg (fun sort => some (SavedFiltersBackup.mk _ sort)) isSort

/-- Merging into the empty list is normalizing. -/
theorem mergeSavedFilters_nil (value : JsValue) :
    (mergeSavedFilters toLowerCase [] value).filters = normalizeSavedFilters toLowerCase value := by
  have size : (normalizeSavedFilters toLowerCase value).length ≤ savedFilterLimit := by
    unfold normalizeSavedFilters
    split
    · exact (collected_collectSavedFilters savedFilterLimit [] _).size
    · exact Nat.zero_le _
  have none : normalizeSavedFilters toLowerCase (savedFiltersValue []) = [] := rfl
  rw [mergeSavedFilters, none, List.filter_nil, List.append_nil]
  exact List.take_of_length_le size

/-- A list that went through a backup file was normalized three times. -/
theorem restored_eq (readsBack : JSON.ReadsBack) (current : List SavedFilter)
    (sort : SavedFilterSort) (exportedAt : JsString) :
    restored toLowerCase JSON current sort exportedAt =
      some ((fun list => normalizeSavedFilters toLowerCase (savedFiltersValue list))^[3]
        current) := by
  rw [restored, parseSavedFiltersBackup_content readsBack, Option.map_some, mergeSavedFilters_nil]
  rfl

end Storage

section Runs

variable {Text : Type} {toLowerCase : JsString → JsString} {JSON : JsonFunctions Text}
  {current : List SavedFilter} {changes : List Change}

/-- No name that a change brings is cut behind a blank. -/
def Change.IsClean : Change → Prop
  | .upsert name _ => cutsAtBlank name = false
  | .rename _ nextName => cutsAtBlank nextName = false
  | .merge restored => ∀ name ∈ itemNames restored, cutsAtBlank name = false
  | _ => True

/-- The names of the list stand for its entries, in its storage and in the calls of the page. -/
structure KeepsNames (toLowerCase : JsString → JsString) (JSON : JsonFunctions Text)
    (current : List SavedFilter) : Prop where
  reload : reloaded toLowerCase JSON current = current
  restore : ∀ sort exportedAt,
    restored toLowerCase JSON current sort exportedAt = some current
  remove : ∀ entry ∈ current, removeSavedFilter toLowerCase current entry.name = current.erase entry
  upsert : ∀ entry ∈ current, ∀ filters,
    upsertSavedFilter toLowerCase current entry.name filters =
      ⟨normalizeFilters filters, entry.name⟩ :: current.erase entry
  rename : ∀ entry ∈ current, ∀ nextName,
    renameSavedFilter toLowerCase current entry.name nextName =
      if normalizeName nextName ≠ [] ∧ ∀ other ∈ current.erase entry,
          toLowerCase other.name ≠ toLowerCase (normalizeName nextName) then
        current.map fun item =>
          if item = entry then { entry with name := normalizeName nextName } else item
      else current

private theorem isFilterList_perform (empty : ∀ text, toLowerCase text = [] ↔ text = [])
    (readsBack : JSON.ReadsBack) (isList : IsFilterList toLowerCase current) (change : Change) :
    IsFilterList toLowerCase (change.perform toLowerCase JSON current) := by
  cases change with
  | upsert name filters => exact isFilterList_upsertSavedFilter empty isList name filters
  | rename currentName nextName =>
      exact isFilterList_renameSavedFilter empty isList currentName nextName
  | remove name => exact isList.sublist List.filter_sublist
  | merge restored => exact isFilterList_mergeSavedFilters empty current restored
  | reload =>
      rw [Change.perform, reloaded_eq readsBack]
      exact isFilterList_normalizeSavedFilters empty _
  | restore sort exportedAt =>
      rw [Change.perform, restored_eq readsBack, Function.iterate_succ_apply', Option.getD_some]
      exact isFilterList_normalizeSavedFilters empty _

private theorem settled_perform (readsBack : JSON.ReadsBack) (settled : Settled current)
    {change : Change}
    (clean : change.IsClean) : Settled (change.perform toLowerCase JSON current) := by
  cases change with
  | upsert name filters => exact settled_upsertSavedFilter settled clean filters
  | rename currentName nextName => exact settled_renameSavedFilter settled clean currentName
  | remove name => exact settled.sublist List.filter_sublist
  | merge restored => exact settled_mergeSavedFilters settled clean
  | reload =>
      rw [Change.perform, reloaded_eq readsBack]
      exact settled.normalized
  | restore sort exportedAt =>
      rw [Change.perform, restored_eq readsBack]
      exact settled.normalized.normalized.normalized

/-- A key names one entry. -/
theorem key_ne_iff (isList : IsFilterList toLowerCase current) {entry other : SavedFilter}
    (listed : entry ∈ current) (inList : other ∈ current) :
    toLowerCase other.name ≠ toLowerCase entry.name ↔ other ≠ entry := by
  refine not_congr ⟨fun same => ?_, fun same => by rw [same]⟩
  exact Table.eq_of_key isList.distinct inList listed same

private theorem filter_key_ne (isList : IsFilterList toLowerCase current) {entry : SavedFilter}
    (listed : entry ∈ current) :
    (current.filter fun item => toLowerCase item.name ≠ toLowerCase entry.name) =
      current.erase entry := by
  rw [isList.distinct.of_map.erase_eq_filter]
  apply List.filter_congr
  intro other inList
  rw [Bool.eq_iff_iff, decide_eq_true_eq, bne_iff_ne, key_ne_iff isList listed inList]

private theorem keepsNames_of_settled (empty : ∀ text, toLowerCase text = [] ↔ text = [])
    (readsBack : JSON.ReadsBack) (isList : IsFilterList toLowerCase current)
    (settled : Settled current) : KeepsNames toLowerCase JSON current where
  reload := by
    rw [reloaded_eq readsBack]
    exact normalizeSavedFilters_savedFiltersValue isList settled
  restore sort exportedAt := by
    rw [restored_eq readsBack]
    exact congrArg some
      (Function.iterate_fixed (normalizeSavedFilters_savedFiltersValue isList settled) 3)
  remove entry listed := by
    rw [removeSavedFilter, settled entry listed]
    exact filter_key_ne isList listed
  upsert entry listed filters := by
    have size : (⟨normalizeFilters filters, entry.name⟩ :: current.erase entry).length ≤
        savedFilterLimit := by
      rw [List.length_cons, List.length_erase_add_one listed]
      exact isList.size
    rw [upsertSavedFilter, settled entry listed, if_neg (isList.entries entry listed).name,
      filter_key_ne isList listed, List.take_of_length_le size]
  rename entry listed nextName := by
    have isEntry := isList.entries entry listed
    have inErase : ∀ other, other ∈ current.erase entry ↔ other ≠ entry ∧ other ∈ current :=
      fun other => isList.distinct.of_map.mem_erase_iff
    rw [renameSavedFilter, settled entry listed]
    by_cases named : normalizeName nextName = []
    · rw [if_pos (.inr ((empty _).mpr named)), if_neg (fun given => given.1 named)]
    rw [if_neg (not_or.mpr ⟨isEntry.key, fun isNil => named ((empty _).mp isNil)⟩)]
    by_cases free : ∀ other ∈ current.erase entry,
        toLowerCase other.name ≠ toLowerCase (normalizeName nextName)
    · have notTaken : ¬(toLowerCase entry.name ≠ toLowerCase (normalizeName nextName) ∧
          current.any (fun item => toLowerCase item.name = toLowerCase (normalizeName nextName)) =
            true) := by
        intro ⟨differs, isTaken⟩
        obtain ⟨item, inList, isNext⟩ := List.any_eq_true.mp isTaken
        have isNext := of_decide_eq_true isNext
        have isOther : item ≠ entry := fun same => differs (same ▸ isNext)
        exact free item ((inErase item).mpr ⟨isOther, inList⟩) isNext
      rw [if_neg notTaken, if_pos ⟨named, free⟩]
      apply List.map_congr_left
      intro item inList
      by_cases same : item = entry
      · rw [if_pos same, if_pos (by rw [same]), same]
      · rw [if_neg same, if_neg ((key_ne_iff isList listed inList).mpr same)]
    · have isTaken : toLowerCase entry.name ≠ toLowerCase (normalizeName nextName) ∧
          current.any (fun item => toLowerCase item.name = toLowerCase (normalizeName nextName)) =
            true := by
        push Not at free
        obtain ⟨other, isOther, isNext⟩ := free
        obtain ⟨differs, inList⟩ := (inErase other).mp isOther
        refine ⟨?_, List.any_eq_true.mpr ⟨other, inList, decide_eq_true isNext⟩⟩
        rw [← isNext]
        exact ((key_ne_iff isList listed inList).mpr differs).symm
      rw [if_pos isTaken, if_neg fun given => free given.2]

/-- Whatever is done to the saved filters, there are at most twenty, and their names differ in lower
case. As long as no name is cut behind a blank, the list survives its storage and its backups, and
the name of an entry stands for that entry alone. -/
theorem savedFilters_of_performAll (empty : ∀ text, toLowerCase text = [] ↔ text = [])
    (readsBack : JSON.ReadsBack) (changes : List Change) :
    IsFilterList toLowerCase (performAll toLowerCase JSON changes) ∧
      ((∀ change ∈ changes, change.IsClean) →
        KeepsNames toLowerCase JSON (performAll toLowerCase JSON changes)) := by
  have isList : IsFilterList toLowerCase (performAll toLowerCase JSON changes) := by
    apply List.foldlRecOn changes _ ⟨Nat.zero_le _, List.nodup_nil, nofun⟩
    intro current isList change _
    exact isFilterList_perform empty readsBack isList change
  refine ⟨isList, fun clean => keepsNames_of_settled empty readsBack isList ?_⟩
  apply List.foldlRecOn changes _ (motive := Settled) fun _ listed => absurd listed List.not_mem_nil
  intro current settled change listed
  exact settled_perform readsBack settled (clean change listed)

/-- Lower case of ASCII letters. -/
def lowerAscii (text : JsString) : JsString :=
  text.map fun unit => if 0x41 ≤ unit.toNat ∧ unit.toNat ≤ 0x5a then unit + 0x20 else unit

/-- A session on the page: two names, a reload, a new name with quotes and a surrogate pair, a merged
list, a backup, and an entry that does not stay. -/
def filterSession : List Change :=
  [.upsert (JsString.ofText " Login  failures ") none,
    .upsert (JsString.ofText "Weekly")
      (some (.object [(JsString.ofText "period", .string (JsString.ofText "7"))])),
    .reload,
    .rename (JsString.ofText "weekly") (JsString.ofText "Weekly \"runs\" 😀"),
    .merge (.array [.object [(JsString.ofText "name", .string (JsString.ofText "LOGIN failures"))],
      .object [(JsString.ofText "name", .string (JsString.ofText "Visual"))]]),
    .restore .nameAsc (JsString.ofText "2026-01-05T09:30:00.000Z"),
    .upsert (JsString.ofText "obsolete") none,
    .remove (JsString.ofText "Obsolete")]

theorem savedFilters_of_performAll_sample :
    (performAll lowerAscii .compact filterSession).map SavedFilter.name =
        ["LOGIN failures", "Visual", "Weekly \"runs\" 😀"].map JsString.ofText ∧
      KeepsNames lowerAscii .compact (performAll lowerAscii .compact filterSession) := by
  have empty : ∀ text, lowerAscii text = [] ↔ text = [] := fun _ => List.map_eq_nil_iff
  have clean : ∀ change ∈ filterSession, change.IsClean := by
    simp only [filterSession, List.forall_mem_cons, Change.IsClean, List.not_mem_nil,
      IsEmpty.forall_iff, implies_true]
    decide +kernel
  refine ⟨?_, (savedFilters_of_performAll empty readsBack_compact _).2 clean⟩
  simp only [performAll, filterSession, List.foldl_cons, List.foldl_nil, Change.perform,
    reloaded_eq readsBack_compact, restored_eq readsBack_compact]
  decide +kernel

/-- The fortieth unit of this name is a blank: the name of the entry does not remove it, and the
storage gives it another name. -/
theorem cut_name_is_lost :
    let saved := performAll lowerAscii .compact
      [.upsert (JsString.ofText "Visual regression failures of this week only") none]
    saved.map SavedFilter.name = [JsString.ofText "Visual regression failures of this week "] ∧
      removeSavedFilter lowerAscii saved
        (JsString.ofText "Visual regression failures of this week ") = saved ∧
      (reloaded lowerAscii .compact saved).map SavedFilter.name =
        [JsString.ofText "Visual regression failures of this week"] := by
  simp only [reloaded_eq readsBack_compact]
  decide +kernel

end Runs

end TraefikManager.Settings
