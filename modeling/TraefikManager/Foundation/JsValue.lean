import Mathlib.Algebra.Group.Nat.Defs
import Mathlib.Data.List.Nodup
import TraefikManager.Foundation.Blanks
import TraefikManager.Foundation.Json

/-!
# Strings and JSON values of JavaScript

A string is its list of UTF-16 code units, so that cutting one may leave half a character. The
values are those that JSON has. Its two functions are a parameter: what is used of them is that the
values which can be written without loss are read back.
-/

namespace Foundation

/-- A string, as its UTF-16 code units. -/
abbrev JsString := List UInt16

namespace JsString

/-- The code units of a character. -/
def unitsOf (c : Char) : JsString :=
  if c.toNat < 0x10000 then [UInt16.ofNat c.toNat]
  else
    [UInt16.ofNat (0xd800 + (c.toNat - 0x10000) / 1024),
      UInt16.ofNat (0xdc00 + (c.toNat - 0x10000) % 1024)]

/-- A string literal. -/
def ofText (text : String) : JsString := text.toList.flatMap unitsOf

/-- The code units of `\s`, which are those that `trim` removes. -/
def isBlank (unit : UInt16) : Bool :=
  unit.toNat ∈ [9, 10, 11, 12, 13, 0x20, 0xa0, 0x1680, 0x2028, 0x2029, 0x202f, 0x205f, 0x3000,
    0xfeff] ∨ (0x2000 ≤ unit.toNat ∧ unit.toNat ≤ 0x200a)

/-- The code unit of a space. -/
def space : UInt16 := 0x20

/-- `text.trim()`. -/
def trim (text : JsString) : JsString := Blanks.trim isBlank text

/-- `text.replace(/\s+/g, " ")`. -/
def collapse (text : JsString) : JsString := Blanks.collapse isBlank space text

/-- The code units of `\d`. -/
def isDigit (unit : UInt16) : Bool := 0x30 ≤ unit.toNat ∧ unit.toNat ≤ 0x39

/-- The value of a run of digits. -/
def digitsValue (digits : JsString) : Nat :=
  digits.foldl (fun value unit => value * 10 + (unit.toNat - 0x30)) 0

end JsString

/-- A JSON value. The numbers that occur are whole. -/
inductive JsValue where
  | null
  | bool (value : Bool)
  | number (value : Int)
  | string (value : JsString)
  | array (items : List JsValue)
  | object (fields : List (JsString × JsValue))

namespace JsValue

/-- The value of a key of an object, `none` if it is undefined. -/
def get? (fields : List (JsString × JsValue)) (key : String) : Option JsValue :=
  fields.lookup (JsString.ofText key)

/-- A key that objects keep in the order of its number, not in that of insertion. -/
def isIndex (key : JsString) : Bool := !key.isEmpty && key.all JsString.isDigit

/-- The values that are written without loss: numbers that are exact, and objects whose keys stay
in order. -/
inductive Lossless : JsValue → Prop where
  | null : Lossless .null
  | bool (value : Bool) : Lossless (.bool value)
  | number {value : Int} (exact : value.natAbs < 2 ^ 53) : Lossless (.number value)
  | string (value : JsString) : Lossless (.string value)
  | array {items : List JsValue} (each : ∀ item ∈ items, Lossless item) : Lossless (.array items)
  | object {fields : List (JsString × JsValue)} (distinct : (fields.map (·.1)).Nodup)
      (ordered : ∀ field ∈ fields, isIndex field.1 = false)
      (each : ∀ field ∈ fields, Lossless field.2) : Lossless (.object fields)

end JsValue

/-- The functions of `JSON`. A text that is not read back gives `none`, which stands for the
`SyntaxError`. -/
structure JsonFunctions (Text : Type) where
  /-- `JSON.stringify(value, null, indent)`. -/
  stringify : Nat → JsValue → Text
  parse : Text → Option JsValue

namespace JsonFunctions

/-- What is written without loss is read back. -/
def ReadsBack {Text : Type} (JSON : JsonFunctions Text) : Prop :=
  ∀ indent value, value.Lossless → JSON.parse (JSON.stringify indent value) = some value

end JsonFunctions

section Compact

/-- The character that stands for a code unit. A surrogate is no character and is moved beyond the
basic plane. -/
def unitChar (unit : UInt16) : Char :=
  if 0xd800 ≤ unit.toNat ∧ unit.toNat < 0xe000 then Char.ofNat (0x10000 + unit.toNat)
  else Char.ofNat unit.toNat

def charUnit (c : Char) : UInt16 := UInt16.ofNat c.toNat

/-- A string with a character for each of its code units. -/
def unitsText (text : JsString) : String := String.ofList (text.map unitChar)

def textUnits (text : String) : JsString := text.toList.map charUnit

mutual

/-- The value as a text of characters can hold it. -/
def JsValue.toJson : JsValue → Json
  | .null => .null
  | .bool value => .bool value
  | .number value => .int value
  | .string value => .string (unitsText value)
  | .array items => .array (JsValue.itemsToJson items)
  | .object fields => .object (JsValue.fieldsToJson fields)

def JsValue.itemsToJson : List JsValue → List Json
  | [] => []
  | item :: items => item.toJson :: JsValue.itemsToJson items

def JsValue.fieldsToJson : List (JsString × JsValue) → List (String × Json)
  | [] => []
  | (key, value) :: fields => (unitsText key, value.toJson) :: JsValue.fieldsToJson fields

end

mutual

/-- The value that was written. A number that is not whole is refused. -/
def JsValue.ofJson : Json → Option JsValue
  | .null => some .null
  | .bool value => some (.bool value)
  | .int value => some (.number value)
  | .real _ => none
  | .string value => some (.string (textUnits value))
  | .array items => (JsValue.itemsOfJson items).map .array
  | .object fields => (JsValue.fieldsOfJson fields).map .object

def JsValue.itemsOfJson : List Json → Option (List JsValue)
  | [] => some []
  | item :: items => do
      let item ← JsValue.ofJson item
      let items ← JsValue.itemsOfJson items
      return item :: items

def JsValue.fieldsOfJson : List (String × Json) → Option (List (JsString × JsValue))
  | [] => some []
  | (key, value) :: fields => do
      let value ← JsValue.ofJson value
      let fields ← JsValue.fieldsOfJson fields
      return (textUnits key, value) :: fields

end

/-- A writer and a reader of JSON texts: the text is written without indentation. -/
def JsonFunctions.compact : JsonFunctions String where
  stringify _ value := value.toJson.dumps
  parse text := Json.loads text >>= JsValue.ofJson

private theorem toNat_ofNat_of_valid {code : Nat} (valid : code.isValidChar) :
    (Char.ofNat code).toNat = code := by
  rw [Char.ofNat, dif_pos valid]
  rfl

private theorem charUnit_unitChar (unit : UInt16) : charUnit (unitChar unit) = unit := by
  have bounded : unit.toNat < 0x10000 := unit.toNat_lt
  unfold unitChar
  split
  · rw [charUnit, toNat_ofNat_of_valid (.inr ⟨by omega, by omega⟩), ← UInt16.toNat_inj,
      UInt16.toNat_ofNat']
    omega
  · have valid : unit.toNat.isValidChar := by
      unfold Nat.isValidChar
      omega
    rw [charUnit, toNat_ofNat_of_valid valid, UInt16.ofNat_toNat]

private theorem textUnits_unitsText (text : JsString) : textUnits (unitsText text) = text := by
  rw [textUnits, unitsText, String.toList_ofList, List.map_map]
  exact List.map_id'' charUnit_unitChar text

mutual

private theorem ofJson_toJson : ∀ value : JsValue, JsValue.ofJson value.toJson = some value
  | .null | .bool _ | .number _ => rfl
  | .string value => by rw [JsValue.toJson, JsValue.ofJson, textUnits_unitsText]
  | .array items => by rw [JsValue.toJson, JsValue.ofJson, itemsOfJson_itemsToJson items]; rfl
  | .object fields => by rw [JsValue.toJson, JsValue.ofJson, fieldsOfJson_fieldsToJson fields]; rfl

private theorem itemsOfJson_itemsToJson :
    ∀ items : List JsValue, JsValue.itemsOfJson (JsValue.itemsToJson items) = some items
  | [] => rfl
  | item :: items => by
      rw [JsValue.itemsToJson, JsValue.itemsOfJson, ofJson_toJson item,
        itemsOfJson_itemsToJson items]
      rfl

private theorem fieldsOfJson_fieldsToJson : ∀ fields : List (JsString × JsValue),
    JsValue.fieldsOfJson (JsValue.fieldsToJson fields) = some fields
  | [] => rfl
  | (key, value) :: fields => by
      rw [JsValue.fieldsToJson, JsValue.fieldsOfJson, ofJson_toJson value,
        fieldsOfJson_fieldsToJson fields, textUnits_unitsText]
      rfl

end

mutual

theorem exact_toJson : ∀ value : JsValue, Json.Exact value.toJson
  | .null => .null
  | .bool value => .bool value
  | .number value => .int value
  | .string value => .string (unitsText value)
  | .array items => .array (exact_itemsToJson items)
  | .object fields => .object (exact_fieldsToJson fields)

private theorem exact_itemsToJson :
    ∀ items : List JsValue, ∀ item ∈ JsValue.itemsToJson items, Json.Exact item
  | [] => nofun
  | item :: items => List.forall_mem_cons.mpr ⟨exact_toJson item, exact_itemsToJson items⟩

private theorem exact_fieldsToJson :
    ∀ fields : List (JsString × JsValue), ∀ field ∈ JsValue.fieldsToJson fields, Json.Exact field.2
  | [] => nofun
  | (_, value) :: fields =>
      List.forall_mem_cons.mpr ⟨exact_toJson value, exact_fieldsToJson fields⟩

end

/-- Every value is read back from its text. -/
theorem readsBack_compact : JsonFunctions.compact.ReadsBack := by
  intro indent value _
  have isRead : Json.loads value.toJson.dumps = some value.toJson :=
    Json.loads_dumps (exact_toJson value)
  simp only [JsonFunctions.compact, isRead, Option.bind_eq_bind, Option.bind_some,
    ofJson_toJson value]

end Compact

end Foundation
