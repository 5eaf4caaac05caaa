import Mathlib.Data.BitVec
import TraefikManager.Foundation.Text

/-!
# Internet addresses and networks as text

The reading and writing of addresses and networks that the standard `ipaddress`
module performs, for both protocol versions: dotted quads without leading
zeros, hextets with at most one `::`, an embedded dotted tail, scope
identifiers, prefix lengths, and for version four also net and host masks.

An address is a bit vector, so a value out of range cannot be built.
-/

namespace Foundation.Ip

open Foundation.Text

/-- An address of either version; only version six carries a scope. -/
inductive Address where
  | v4 (bits : BitVec 32)
  | v6 (bits : BitVec 128) (scope : Option String)
  deriving DecidableEq, Repr

-- Prefix lengths are written as numerals of these types.
instance neZeroV4 : NeZero 33 := ⟨by decide⟩

instance neZeroV6 : NeZero 129 := ⟨by decide⟩

/-- A network address with its prefix length. -/
inductive Network where
  | v4 (bits : BitVec 32) (length : Fin 33)
  | v6 (bits : BitVec 128) (scope : Option String) (length : Fin 129)
  deriving DecidableEq, Repr

/-- The mask whose first `length` bits are set. -/
def netmask (width length : Nat) : BitVec width := BitVec.allOnes width <<< (width - length)

section Reading

/-- One decimal octet: at most three digits, no leading zero, at most 255. -/
def parseOctet (chars : List Char) : Option Nat :=
  if chars.length ≤ 3 ∧ (chars = ['0'] ∨ chars.head? ≠ some '0') then
    (digitsValue chars).filter (· ≤ 255)
  else
    none

/-- A dotted quad. -/
def parseV4 (chars : List Char) : Option (BitVec 32) := do
  match chars.splitOn '.' with
  | [first, second, third, fourth] =>
      let a ← parseOctet first
      let b ← parseOctet second
      let c ← parseOctet third
      let d ← parseOctet fourth
      some (BitVec.ofNat 32 (((a * 256 + b) * 256 + c) * 256 + d))
  | _ => none

/-- The value of a hexadecimal digit. -/
def hexDigitValue (c : Char) : Option Nat :=
  if isDigit c then some (c.toNat - '0'.toNat)
  else if 'a' ≤ c ∧ c ≤ 'f' then some (c.toNat - 'a'.toNat + 10)
  else if 'A' ≤ c ∧ c ≤ 'F' then some (c.toNat - 'A'.toNat + 10)
  else none

/-- One hextet: one to four hexadecimal digits. -/
def parseHextet (chars : List Char) : Option Nat :=
  if chars ≠ [] ∧ chars.length ≤ 4 then
    chars.foldlM (fun value c => (hexDigitValue c).map (value * 16 + ·)) 0
  else
    none

/-- The lower case hexadecimal digits of a number. -/
def hexText (value : Nat) : List Char := Nat.toDigits 16 value

/-- A dotted tail stands for two hextets. -/
def expandDottedTail (parts : List (List Char)) : Option (List (List Char)) :=
  match parts.getLast? with
  | some last =>
      if '.' ∈ last then
        (parseV4 last).map fun bits =>
          parts.dropLast ++ [hexText (bits.toNat / 65536), hexText (bits.toNat % 65536)]
      else
        some parts
  | none => some parts

/-- The hextets before a `::`: a leading empty part must be the only one. -/
def leadingParts (parts : List (List Char)) : Option (List (List Char)) :=
  if parts.head? = some [] then (if parts.length = 1 then some [] else none) else some parts

/-- The hextets after a `::`: a trailing empty part must be the only one. -/
def trailingParts (parts : List (List Char)) : Option (List (List Char)) :=
  if parts.getLast? = some [] then (if parts.length = 1 then some [] else none) else some parts

/-- The eight hextets of an address. An empty part that is neither the first
nor the last one is a `::`; there may be at most one, and it stands for at least
one zero hextet. -/
def parseHextets (chars : List Char) : Option (List Nat) := do
  let split := chars.splitOn ':'
  if split.length < 3 then none
  let parts ← expandDottedTail split
  if 9 < parts.length then none
  let interior := parts.tail.dropLast
  match interior.count [] with
  | 0 => if parts.length = 8 then parts.mapM parseHextet else none
  | 1 =>
      let skip := interior.idxOf [] + 1
      let leading ← leadingParts (parts.take skip)
      let trailing ← trailingParts (parts.drop (skip + 1))
      if 8 ≤ leading.length + trailing.length then none
      let high ← leading.mapM parseHextet
      let low ← trailing.mapM parseHextet
      some (high ++ List.replicate (8 - (leading.length + trailing.length)) 0 ++ low)
  | _ => none

/-- The number written by a list of hextets. -/
def ofHextets (hextets : List Nat) : BitVec 128 :=
  BitVec.ofNat 128 (hextets.foldl (fun value hextet => value * 65536 + hextet) 0)

/-- An address of version six, with the scope after a single `%`. -/
def parseV6 (chars : List Char) : Option (BitVec 128 × Option String) :=
  match chars.splitOn '%' with
  | [plain] => (parseHextets plain).map fun hextets => (ofHextets hextets, none)
  | [plain, scope] =>
      if scope = [] ∨ '/' ∈ scope then
        none
      else
        (parseHextets plain).map fun hextets => (ofHextets hextets, some (String.ofList scope))
  | _ => none

/-- `ip_address`. -/
def ipAddress (text : String) : Option Address :=
  match parseV4 text.toList with
  | some bits => some (.v4 bits)
  | none => (parseV6 text.toList).map fun (bits, scope) => .v6 bits scope

/-- A prefix length in decimal. -/
def parsePrefix (longest : Nat) (chars : List Char) : Option (Fin (longest + 1)) :=
  match digitsValue chars with
  | some value => if bounded : value < longest + 1 then some ⟨value, bounded⟩ else none
  | none => none

/-- The prefix length of a mask: as a net mask, otherwise as a host mask. -/
def prefixOfMask (mask : BitVec 32) : Option (Fin 33) :=
  match (List.finRange 33).find? fun length => netmask 32 length.val = mask with
  | some length => some length
  | none => (List.finRange 33).find? fun length => netmask 32 length.val = ~~~mask

def parseV4Length (chars : List Char) : Option (Fin 33) :=
  match parsePrefix 32 chars with
  | some length => some length
  | none => (parseV4 chars).bind prefixOfMask

/-- The network of an address: its host bits are cleared. A scope stays only on
an address that had no host bits. -/
def maskV6 (bits : BitVec 128) (scope : Option String) (length : Fin 129) : Network :=
  let masked := bits &&& netmask 128 length
  .v6 masked (if masked = bits then scope else none) length

def parseNetworkV4 (chars : List Char) : Option Network :=
  match chars.splitOn '/' with
  | [address] => (parseV4 address).map fun bits => .v4 bits 32
  | [address, length] => do
      let bits ← parseV4 address
      let length ← parseV4Length length
      some (.v4 (bits &&& netmask 32 length) length)
  | _ => none

def parseNetworkV6 (chars : List Char) : Option Network :=
  match chars.splitOn '/' with
  | [address] => (parseV6 address).map fun (bits, scope) => .v6 bits scope 128
  | [address, length] => do
      let (bits, scope) ← parseV6 address
      let length ← parsePrefix 128 length
      some (maskV6 bits scope length)
  | _ => none

/-- `ip_network(text, strict=False)`. -/
def ipNetwork (text : String) : Option Network :=
  match parseNetworkV4 text.toList with
  | some network => some network
  | none => parseNetworkV6 text.toList

end Reading

section Writing

def decimalText (value : Nat) : List Char := Nat.toDigits 10 value

def textV4 (bits : BitVec 32) : List Char :=
  ['.'].intercalate
    ([bits.toNat / 16777216, bits.toNat / 65536 % 256, bits.toNat / 256 % 256,
      bits.toNat % 256].map decimalText)

/-- The eight hextets of an address, most significant first. -/
def hextets (bits : BitVec 128) : List Nat :=
  [7, 6, 5, 4, 3, 2, 1, 0].map fun place => bits.toNat / 65536 ^ place % 65536

/-- How many zero hextets stand together from `start` on. -/
def zeroRun (hextets : List Nat) (start : Nat) : Nat :=
  ((hextets.drop start).takeWhile (· = 0)).length

/-- The start of the longest run of zero hextets, the first of equals. -/
def longestRun (hextets : List Nat) : Nat :=
  (List.range hextets.length).foldl
    (fun best start => if zeroRun hextets best < zeroRun hextets start then start else best) 0

/-- The parts of an address between colons: the longest run of two or more zero
hextets becomes an empty part, doubled at either end of the address. -/
def compress (hextets : List Nat) : List (List Char) :=
  let start := longestRun hextets
  let count := zeroRun hextets start
  if 1 < count then
    (if start = 0 then [[]] else []) ++ (hextets.take start).map hexText ++ [[]] ++
      (hextets.drop (start + count)).map hexText ++
      (if start + count = hextets.length then [[]] else [])
  else
    hextets.map hexText

def textV6 (bits : BitVec 128) (scope : Option String) : List Char :=
  [':'].intercalate (compress (hextets bits)) ++
    match scope with
    | some scope => '%' :: scope.toList
    | none => []

/-- `str(network)`. -/
def Network.text : Network → String
  | .v4 bits length => String.ofList (textV4 bits ++ '/' :: decimalText length)
  | .v6 bits scope length => String.ofList (textV6 bits scope ++ '/' :: decimalText length)

end Writing

/-- `address in network`. -/
def Network.contains : Network → Address → Bool
  | .v4 network length, .v4 address => address &&& netmask 32 length = network
  | .v6 network _ length, .v6 address _ => address &&& netmask 128 length = network
  | _, _ => false

end Foundation.Ip
