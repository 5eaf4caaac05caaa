import TraefikManager.Foundation.JsValue
import TraefikManager.IsoDatetime

/-!
# The saved filters of the smoke failure list

A browser keeps named filters, the latest first, and writes them to its storage and to backup
files. What is read from either is normalized again.
-/

namespace TraefikManager.Settings

open Foundation

/-- `SMOKE_FAILURE_METADATA_SAVED_FILTER_LIMIT`. -/
def savedFilterLimit : Nat := 20

/-- `SMOKE_FAILURE_METADATA_SAVED_FILTER_NAME_LIMIT`. -/
def savedFilterNameLimit : Nat := 40

/-- `SmokeFailureMetadataPeriodFilter`. -/
inductive PeriodFilter where
  | all | week | month | custom
  deriving DecidableEq

/-- `SmokeFailureMetadataSort`. -/
inductive FailureSort where
  | newest | oldest | runDesc | runAsc
  deriving DecidableEq

/-- `SmokeFailureMetadataTypeFilter`. -/
inductive TypeFilter where
  | all | login | externalApi | visualRegression
  deriving DecidableEq

/-- `SmokeFailureMetadataSavedFilterSort`. -/
inductive SavedFilterSort where
  | recent | nameAsc | nameDesc
  deriving DecidableEq

def PeriodFilter.texts : List (String × PeriodFilter) :=
  [("all", .all), ("7", .week), ("30", .month), ("custom", .custom)]

def FailureSort.texts : List (String × FailureSort) :=
  [("newest", .newest), ("oldest", .oldest), ("run_desc", .runDesc), ("run_asc", .runAsc)]

def TypeFilter.texts : List (String × TypeFilter) :=
  [("all", .all), ("login", .login), ("external_api", .externalApi),
    ("visual_regression", .visualRegression)]

def SavedFilterSort.texts : List (String × SavedFilterSort) :=
  [("recent", .recent), ("name_asc", .nameAsc), ("name_desc", .nameDesc)]

/-- The text of an option. -/
def optionText {α : Type} [DecidableEq α] (texts : List (String × α)) (option : α) : JsString :=
  match texts.find? (·.2 = option) with
  | some (text, _) => JsString.ofText text
  | none => []

/-- The option that a value names, else the fallback. `isPeriod`, `isSort` and `isType` compare with
the texts of their options. -/
def optionOf {α : Type} (texts : List (String × α)) (fallback : α) (value : Option JsValue) : α :=
  match value with
  | some (.string text) =>
      match texts.find? (JsString.ofText ·.1 = text) with
      | some (_, option) => option
      | none => fallback
  | _ => fallback

/-- `SmokeFailureMetadataFilters`. -/
structure Filters where
  endDate : JsString
  period : PeriodFilter
  query : JsString
  sort : FailureSort
  startDate : JsString
  type : TypeFilter
  deriving DecidableEq

/-- `SmokeFailureMetadataSavedFilter`. -/
structure SavedFilter where
  filters : Filters
  name : JsString
  deriving DecidableEq

section Values

/-- The filters as a value. -/
def Filters.toValue (filters : Filters) : JsValue :=
  .object [
    (JsString.ofText "endDate", .string filters.endDate),
    (JsString.ofText "period", .string (optionText PeriodFilter.texts filters.period)),
    (JsString.ofText "query", .string filters.query),
    (JsString.ofText "sort", .string (optionText FailureSort.texts filters.sort)),
    (JsString.ofText "startDate", .string filters.startDate),
    (JsString.ofText "type", .string (optionText TypeFilter.texts filters.type))]

/-- The saved filter as a value. -/
def SavedFilter.toValue (saved : SavedFilter) : JsValue :=
  .object [
    (JsString.ofText "filters", saved.filters.toValue),
    (JsString.ofText "name", .string saved.name)]

/-- A list of saved filters as a value. -/
def savedFiltersValue (current : List SavedFilter) : JsValue :=
  .array (current.map SavedFilter.toValue)

end Values

section Normalization

/-- `normalizeSmokeFailureMetadataSavedFilterName`. -/
def normalizeName (value : JsString) : JsString :=
  (JsString.collapse (JsString.trim value)).take savedFilterNameLimit

/-- The text of a day that exists. -/
def isCalendarDate (text : JsString) : Bool :=
  match text with
  | [y₁, y₂, y₃, y₄, dash₁, m₁, m₂, dash₂, d₁, d₂] =>
      let year : Int := JsString.digitsValue [y₁, y₂, y₃, y₄]
      let month : Int := JsString.digitsValue [m₁, m₂]
      let day : Int := JsString.digitsValue [d₁, d₂]
      [y₁, y₂, y₃, y₄, m₁, m₂, d₁, d₂].all JsString.isDigit && dash₁ = 0x2d && dash₂ = 0x2d &&
        decide (1 ≤ month ∧ month ≤ 12 ∧ 1 ≤ day ∧ day ≤ Iso.daysInMonth year month)
  | _ => false

/-- `normalizeCalendarDate`: `Date.parse` moves a day that does not exist to another one or
refuses it, and neither gives the text back. -/
def normalizeCalendarDate (value : Option JsValue) : JsString :=
  match value with
  | some (.string text) => if isCalendarDate text then text else []
  | _ => []

/-- The query of a filter. -/
def normalizeQuery (value : Option JsValue) : JsString :=
  match value with
  | some (.string text) => text.take 100
  | _ => []

/-- The fields of a record; another value has none. -/
def recordFields (value : Option JsValue) : List (JsString × JsValue) :=
  match value with
  | some (.object fields) => fields
  | _ => []

/-- `normalizeFilters`. -/
def normalizeFilters (value : Option JsValue) : Filters :=
  let filters := recordFields value
  let period := optionOf PeriodFilter.texts .all (JsValue.get? filters "period")
  { endDate :=
      if period = .custom then normalizeCalendarDate (JsValue.get? filters "endDate") else []
    period
    query := normalizeQuery (JsValue.get? filters "query")
    sort := optionOf FailureSort.texts .newest (JsValue.get? filters "sort")
    startDate :=
      if period = .custom then normalizeCalendarDate (JsValue.get? filters "startDate") else []
    type := optionOf TypeFilter.texts .all (JsValue.get? filters "type") }

/-- The name that an item gives. -/
def itemName (fields : List (JsString × JsValue)) : JsString :=
  match JsValue.get? fields "name" with
  | some (.string text) => text
  | _ => []

/-- The loop of `normalizeSavedFilters`, with the room that is left in the result and the names in
it. -/
def collectSavedFilters (toLowerCase : JsString → JsString) :
    Nat → List JsString → List JsValue → List SavedFilter
  | 0, _, _ => []
  | _ + 1, _, [] => []
  | room + 1, names, item :: rest =>
      match item with
      | .object fields =>
          let name := normalizeName (itemName fields)
          let normalizedName := toLowerCase name
          if name = [] ∨ normalizedName ∈ names then
            collectSavedFilters toLowerCase (room + 1) names rest
          else
            ⟨normalizeFilters (JsValue.get? fields "filters"), name⟩ ::
              collectSavedFilters toLowerCase room (normalizedName :: names) rest
      | _ => collectSavedFilters toLowerCase (room + 1) names rest

/-- `normalizeSavedFilters`. -/
def normalizeSavedFilters (toLowerCase : JsString → JsString) (value : JsValue) :
    List SavedFilter :=
  match value with
  | .array items => collectSavedFilters toLowerCase savedFilterLimit [] items
  | _ => []

end Normalization

section Storage

variable {Text : Type} (toLowerCase : JsString → JsString) (JSON : JsonFunctions Text)

/-- `parseSmokeFailureMetadataSavedFilters`; `none` is a value that is missing or empty. -/
def parseSavedFilters (rawValue : Option Text) : List SavedFilter :=
  match rawValue.bind JSON.parse with
  | some value => normalizeSavedFilters toLowerCase value
  | none => []

/-- `parseSmokeFailureMetadataSavedFilterSort`. -/
def parseSavedFilterSort (value : Option JsValue) : SavedFilterSort :=
  optionOf SavedFilterSort.texts .recent value

/-- `SmokeFailureMetadataSavedFiltersBackup`. -/
structure SavedFiltersBackup where
  filters : List SavedFilter
  sort : SavedFilterSort

/-- A file to download. -/
structure BackupFile (Text : Type) where
  content : Text
  filename : JsString

/-- `buildSmokeFailureMetadataSavedFiltersBackup`. -/
def buildSavedFiltersBackup (current : List SavedFilter) (sort : SavedFilterSort)
    (exportedAt : JsString) : BackupFile Text where
  content := JSON.stringify 2 (.object [
    (JsString.ofText "exported_at", .string exportedAt),
    (JsString.ofText "filters",
      savedFiltersValue (normalizeSavedFilters toLowerCase (savedFiltersValue current))),
    (JsString.ofText "schema_version", .number 1),
    (JsString.ofText "sort", .string (optionText SavedFilterSort.texts sort))])
  filename := JsString.ofText "traefik-manager-smoke-failure-filters-" ++ exportedAt.take 10 ++
    JsString.ofText ".json"

/-- `parseSmokeFailureMetadataSavedFiltersBackup`. -/
def parseSavedFiltersBackup (rawValue : Text) : Option SavedFiltersBackup :=
  match JSON.parse rawValue with
  | some (.object value) =>
      match JsValue.get? value "schema_version", JsValue.get? value "filters" with
      | some (.number 1), some (.array filters) =>
          some ⟨normalizeSavedFilters toLowerCase (.array filters),
            parseSavedFilterSort (JsValue.get? value "sort")⟩
      | _, _ => none
  | _ => none

end Storage

section Changes

variable (toLowerCase : JsString → JsString)

/-- `SmokeFailureMetadataSavedFiltersMergeResult`. -/
structure MergeResult where
  filters : List SavedFilter
  omitted : List SavedFilter

/-- `mergeSmokeFailureMetadataSavedFilters`. -/
def mergeSavedFilters (current : List SavedFilter) (restored : JsValue) : MergeResult :=
  let normalizedRestored := normalizeSavedFilters toLowerCase restored
  let restoredNames := normalizedRestored.map fun item => toLowerCase item.name
  let candidates := normalizedRestored ++
    (normalizeSavedFilters toLowerCase (savedFiltersValue current)).filter fun item =>
      toLowerCase item.name ∉ restoredNames
  ⟨candidates.take savedFilterLimit, candidates.drop savedFilterLimit⟩

/-- `upsertSmokeFailureMetadataSavedFilter`. -/
def upsertSavedFilter (current : List SavedFilter) (nextName : JsString)
    (nextFilters : Option JsValue) : List SavedFilter :=
  let name := normalizeName nextName
  if name = [] then current
  else
    (⟨normalizeFilters nextFilters, name⟩ ::
      current.filter fun item => toLowerCase item.name ≠ toLowerCase name).take savedFilterLimit

/-- `removeSmokeFailureMetadataSavedFilter`. -/
def removeSavedFilter (current : List SavedFilter) (name : JsString) : List SavedFilter :=
  current.filter fun item => toLowerCase item.name ≠ toLowerCase (normalizeName name)

/-- `renameSmokeFailureMetadataSavedFilter`. -/
def renameSavedFilter (current : List SavedFilter) (currentName nextName : JsString) :
    List SavedFilter :=
  let currentKey := toLowerCase (normalizeName currentName)
  let normalizedNextName := normalizeName nextName
  let nextKey := toLowerCase normalizedNextName
  if currentKey = [] ∨ nextKey = [] then current
  else if currentKey ≠ nextKey ∧ current.any (fun item => toLowerCase item.name = nextKey) then
    current
  else
    current.map fun item =>
      if toLowerCase item.name = currentKey then { item with name := normalizedNextName } else item

end Changes

section Runs

/-- A change of the list, or a round trip through the storage or a backup file. -/
inductive Change where
  | upsert (name : JsString) (filters : Option JsValue)
  | rename (currentName nextName : JsString)
  | remove (name : JsString)
  | merge (restored : JsValue)
  | reload
  | restore (sort : SavedFilterSort) (exportedAt : JsString)

variable {Text : Type} (toLowerCase : JsString → JsString) (JSON : JsonFunctions Text)

/-- What a page finds in the storage after a list was written there. -/
def reloaded (current : List SavedFilter) : List SavedFilter :=
  parseSavedFilters toLowerCase JSON (some (JSON.stringify 0 (savedFiltersValue current)))

/-- A backup file of the list, merged into the empty one. -/
def restored (current : List SavedFilter) (sort : SavedFilterSort) (exportedAt : JsString) :
    Option (List SavedFilter) :=
  (parseSavedFiltersBackup toLowerCase JSON
    (buildSavedFiltersBackup toLowerCase JSON current sort exportedAt).content).map fun backup =>
      (mergeSavedFilters toLowerCase [] (savedFiltersValue backup.filters)).filters

/-- The list after a change. A backup that is not read leaves it alone. -/
def Change.perform (current : List SavedFilter) : Change → List SavedFilter
  | .upsert name filters => upsertSavedFilter toLowerCase current name filters
  | .rename currentName nextName => renameSavedFilter toLowerCase current currentName nextName
  | .remove name => removeSavedFilter toLowerCase current name
  | .merge restored => (mergeSavedFilters toLowerCase current restored).filters
  | .reload => reloaded toLowerCase JSON current
  | .restore sort exportedAt => (restored toLowerCase JSON current sort exportedAt).getD current

/-- The list after a run of changes from the empty one. -/
def performAll (changes : List Change) : List SavedFilter :=
  changes.foldl (Change.perform toLowerCase JSON) []

end Runs

end TraefikManager.Settings
