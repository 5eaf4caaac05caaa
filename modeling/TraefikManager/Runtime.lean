import TraefikManager.Foundation.Transaction
import Mathlib.Data.BitVec
import TraefikManager.Foundation.IpNetwork
import TraefikManager.Foundation.Text

/-!
# Values of the source language

Exceptions, points in time, identifiers and audit records as the modelled code uses them. A
`datetime` either carries a time zone or does not, and the two kinds cannot be
compared or subtracted; every zone in the program is UTC, so an instant is a
number of microseconds.
-/

namespace TraefikManager

/-- The exceptions the modelled code raises or lets through. -/
inductive PyException where
  | httpException (statusCode : Nat) (detail : String)
  | valueError (message : String)
  | typeError (message : String)
  | validationError (field : String)
  | multipleResultsFound
  | httpError (message : String)
  | cloudflareClientError (message : String)
  | databaseError (message : String)
  | osError (message : String)
  deriving DecidableEq, Repr

/-- A result whose image is known exists. -/
theorem exists_of_map_ok {α β : Type} {result : Except PyException α} {f : α → β} {image : β}
    (mapped : result.map f = .ok image) : ∃ value, result = .ok value ∧ f value = image := by
  cases result with
  | error failure => cases mapped
  | ok value => exact ⟨value, rfl, Except.ok.inj mapped⟩

/-- A sequence of fallible steps returns exactly when each of them does. -/
theorem bind_eq_ok {ε α β : Type} {first : Except ε α} {rest : α → Except ε β} {value : β} :
    (first >>= rest) = .ok value ↔ ∃ middle, first = .ok middle ∧ rest middle = .ok value := by
  cases first with
  | error failure =>
      constructor
      · intro failed
        cases failed
      · rintro ⟨middle, isOk, -⟩
        cases isOk
  | ok middle =>
      constructor
      · intro done
        exact ⟨middle, rfl, done⟩
      · rintro ⟨other, same, done⟩
        cases same
        exact done

theorem map_eq_ok {ε α β : Type} {result : Except ε α} {f : α → β} {image : β} :
    result.map f = .ok image ↔ ∃ value, result = .ok value ∧ f value = image := by
  cases result with
  | error failure => simp [Except.map]
  | ok value => simp [Except.map]

/-- A point in time in microseconds, with or without the UTC time zone. -/
structure Datetime where
  aware : Bool
  micros : Int
  deriving DecidableEq, Repr

/-- A `timedelta` in microseconds. -/
abbrev Timedelta := Int

namespace Timedelta

/-- `timedelta(minutes=count)`. -/
def minutes (count : Int) : Timedelta := count * 60000000

/-- `int(window.total_seconds() // 60)`. -/
def wholeMinutes (window : Timedelta) : Int := window / 60000000

@[simp] theorem wholeMinutes_minutes (count : Int) : wholeMinutes (minutes count) = count := by
  simp [wholeMinutes, minutes]

end Timedelta

namespace Datetime

/-- `datetime.now(timezone.utc)` at the given clock reading. -/
def utc (micros : Int) : Datetime := ⟨true, micros⟩

/-- What SQLite keeps of a point in time: the zone is dropped. -/
def persisted (moment : Datetime) : Datetime := { moment with aware := false }

/-- `normalize_utc`: a point in time without a zone is read as UTC. -/
def normalizeUtc (moment : Datetime) : Datetime := { moment with aware := true }

/-- `moment.replace(tzinfo=None, microsecond=0)`. -/
def wholeSecond (moment : Datetime) : Datetime :=
  ⟨false, moment.micros / 1000000 * 1000000⟩

/-- `moment + window`. -/
def add (moment : Datetime) (window : Timedelta) : Datetime :=
  { moment with micros := moment.micros + window }

/-- `first > second`, defined only when both or neither carry a zone. -/
def isAfter (first second : Datetime) : Except PyException Bool :=
  if first.aware = second.aware then
    .ok (second.micros < first.micros)
  else
    .error (.typeError "can't compare offset-naive and offset-aware datetimes")

/-- `first - second`, with the same restriction. -/
def since (first second : Datetime) : Except PyException Timedelta :=
  if first.aware = second.aware then
    .ok (first.micros - second.micros)
  else
    .error (.typeError "can't subtract offset-naive and offset-aware datetimes")

/-- The last `width` decimal digits of a number. -/
def decimalDigits (width value : Nat) : String :=
  String.ofList ((List.range width).reverse.map fun place => Nat.digitChar (value / 10 ^ place % 10))

/-- Year, month and day of a day counted from 1970-01-01. The year is taken to
begin in March, so that the leap day is its last. -/
def civilDate (days : Int) : Int × Int × Int :=
  let shifted := days + 719468
  let era := shifted / 146097
  let dayOfEra := shifted % 146097
  let yearOfEra :=
    (dayOfEra - dayOfEra / 1460 + dayOfEra / 36524 - dayOfEra / 146096) / 365
  let dayOfYear := dayOfEra - (365 * yearOfEra + yearOfEra / 4 - yearOfEra / 100)
  let monthFromMarch := (5 * dayOfYear + 2) / 153
  let day := dayOfYear - (153 * monthFromMarch + 2) / 5 + 1
  let month := if monthFromMarch < 10 then monthFromMarch + 3 else monthFromMarch - 9
  let year := yearOfEra + era * 400
  (if month ≤ 2 then year + 1 else year, month, day)

/-- `moment.isoformat()`. -/
def isoformat (moment : Datetime) : String :=
  let (year, month, day) := civilDate (moment.micros / 86400000000)
  let inDay := (moment.micros % 86400000000).toNat
  let seconds := inDay / 1000000
  let fraction := inDay % 1000000
  decimalDigits 4 year.toNat ++ "-" ++ decimalDigits 2 month.toNat ++ "-" ++
    decimalDigits 2 day.toNat ++ "T" ++ decimalDigits 2 (seconds / 3600) ++ ":" ++
    decimalDigits 2 (seconds / 60 % 60) ++ ":" ++ decimalDigits 2 (seconds % 60) ++
    (if fraction = 0 then "" else "." ++ decimalDigits 6 fraction) ++
    (if moment.aware then "+00:00" else "")

/-- `moment.isoformat().replace("+00:00", "Z")`. -/
def isoformatZulu (moment : Datetime) : String :=
  if moment.aware then (⟨false, moment.micros⟩ : Datetime).isoformat ++ "Z" else moment.isoformat

@[simp] theorem persisted_persisted (moment : Datetime) :
    moment.persisted.persisted = moment.persisted := rfl

@[simp] theorem persisted_micros (moment : Datetime) :
    moment.persisted.micros = moment.micros := rfl

@[simp] theorem normalizeUtc_micros (moment : Datetime) :
    moment.normalizeUtc.micros = moment.micros := rfl

/-- A stored point in time cannot be compared with a reading of the clock. -/
@[simp] theorem isAfter_persisted_utc (moment : Datetime) (now : Int) :
    moment.persisted.isAfter (utc now) =
      .error (.typeError "can't compare offset-naive and offset-aware datetimes") := rfl

@[simp] theorem aware_utc (micros : Int) : (utc micros).aware = true := rfl

@[simp] theorem micros_utc (micros : Int) : (utc micros).micros = micros := rfl

theorem isAfter_utc {moment : Datetime} (aware : moment.aware = true) (now : Int) :
    moment.isAfter (utc now) = .ok (decide (now < moment.micros)) := by
  unfold isAfter
  rw [if_pos (show moment.aware = (utc now).aware from aware)]
  rfl

theorem since_utc {moment : Datetime} (aware : moment.aware = true) (now : Int) :
    (utc now).since moment = .ok (now - moment.micros) := by
  simp [since, aware]

end Datetime

/-- A `UUID`, as its 128 bits. -/
structure Uuid where
  bits : BitVec 128
  deriving DecidableEq, Repr

/-- The lowest `width` hexadecimal digits of a number, most significant first. -/
def hexDigits (width value : Nat) : List Char :=
  (List.range width).reverse.map fun place => Nat.digitChar (value / 16 ^ place % 16)

/-- `str(uuid)`. -/
def Uuid.text (id : Uuid) : String :=
  let digits := hexDigits 32 id.bits.toNat
  String.ofList (digits.take 8 ++ '-' :: (digits.drop 8).take 4 ++ '-' :: (digits.drop 12).take 4 ++
    '-' :: (digits.drop 16).take 4 ++ '-' :: digits.drop 20)

/-- A text without the occurrences of `pattern`; `skip` counts the characters left
of an occurrence being dropped. -/
def removeText (pattern : List Char) : Nat → List Char → List Char
  | _, [] => []
  | skip + 1, _ :: rest => removeText pattern skip rest
  | 0, c :: rest =>
      if pattern.isPrefixOf (c :: rest) then removeText pattern (pattern.length - 1) rest
      else c :: removeText pattern 0 rest

/-- `int(text, 16)` for text without a minus sign. -/
def parseHexadecimal (chars : List Char) : Option Nat :=
  let unsigned := match Foundation.Text.stripChars chars with
    | '+' :: rest => rest
    | rest => rest
  let digits := match unsigned with
    | '0' :: 'x' :: '_' :: rest | '0' :: 'X' :: '_' :: rest => rest
    | '0' :: 'x' :: rest | '0' :: 'X' :: rest => rest
    | rest => rest
  let groups := digits.splitOn '_'
  if [] ∈ groups then none
  else groups.flatten.foldlM (fun value c => (Foundation.Ip.hexDigitValue c).map (value * 16 + ·)) 0

/-- `UUID(text)`: prefixes, braces and dashes are dropped. -/
def Uuid.parse (text : String) : Option Uuid :=
  let plain := removeText "uuid:".toList 0 (removeText "urn:".toList 0 text.toList)
  let unbraced := (plain.dropWhile (· ∈ ['\x7b', '\x7d'])).rdropWhile (· ∈ ['\x7b', '\x7d'])
  let digits := unbraced.filter (· ≠ '-')
  if digits.length = 32 then (parseHexadecimal digits).map fun value => ⟨BitVec.ofNat 128 value⟩
  else none

/-- A row of the audit log. What its readers make of its key, its detail and its point in time are
its types. -/
structure AuditLogModel (ι δ τ : Type) where
  id : ι
  actor : String
  action : String
  resourceType : String
  resourceId : String
  resourceName : String
  detail : Option δ
  createdAt : τ
  deriving DecidableEq, Repr

/-- `value or fallback` for strings. -/
def orElse (value fallback : String) : String := if value = "" then fallback else value

end TraefikManager
