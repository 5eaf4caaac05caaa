import TraefikManager.Foundation.IpNetwork
import Mathlib.Data.Nat.Digits.Defs

/-!
# Networks are read back from their text

The text of a network that was read is read as the same network. Reading follows
the parts that writing joins: octets between dots, hextets between colons with
the longest run of zeros left out, a scope after a percent sign and a prefix
length after a slash.
-/

namespace Foundation.Ip

open Foundation.Text

section Octets

private theorem parseOctet_decimalText {value : Nat} (small : value < 256) :
    parseOctet (decimalText value) = some value := by
  have all : ∀ value < 256, parseOctet (decimalText value) = some value := by
    decide +kernel
  exact all value small

private theorem isDigit_of_mem_decimalText {value : Nat} {c : Char}
    (member : c ∈ decimalText value) : isDigit c = true :=
  List.all_eq_true.mp (digits_toDigits value).2.1 c member

/-- The parts of a dotted quad are digits. -/
theorem mem_of_parseV4 {chars : List Char} {bits : BitVec 32} (read : parseV4 chars = some bits) :
    ∀ c ∈ chars, c = '.' ∨ isDigit c = true := by
  have digits : ∀ {part : List Char} {value : Nat}, parseOctet part = some value →
      ∀ c ∈ part, isDigit c = true := by
    intro part value isOctet
    unfold parseOctet digitsValue at isOctet
    split at isOctet
    · split at isOctet
      · rename_i isDigits
        exact List.all_eq_true.mp isDigits.2
      · cases isOctet
    · cases isOctet
  intro c member
  rcases mem_splitOn '.' member with dot | ⟨part, listed, inPart⟩
  · exact .inl dot
  · right
    unfold parseV4 at read
    split at read
    · rename_i first second third fourth parts
      simp only [Option.bind_eq_bind, Option.bind_eq_some_iff] at read
      obtain ⟨a, isFirst, b, isSecond, c', isThird, d, isFourth, -⟩ := read
      rw [parts] at listed
      simp only [List.mem_cons, List.not_mem_nil, or_false] at listed
      rcases listed with rfl | rfl | rfl | rfl
      · exact digits isFirst c inPart
      · exact digits isSecond c inPart
      · exact digits isThird c inPart
      · exact digits isFourth c inPart
    · cases read

private theorem mem_textV4 {bits : BitVec 32} {c : Char} (member : c ∈ textV4 bits) :
    c = '.' ∨ isDigit c = true := by
  rcases mem_intercalate member with dot | ⟨part, listed, inPart⟩
  · exact .inl dot
  · obtain ⟨value, -, rfl⟩ := List.mem_map.mp listed
    exact .inr (isDigit_of_mem_decimalText inPart)

private theorem parseV4_textV4 (bits : BitVec 32) : parseV4 (textV4 bits) = some bits := by
  have bounded := bits.isLt
  have split : (textV4 bits).splitOn '.' = [bits.toNat / 16777216, bits.toNat / 65536 % 256,
      bits.toNat / 256 % 256, bits.toNat % 256].map decimalText := by
    refine List.splitOn_intercalate '.' ?_ (by simp)
    intro part listed dot
    obtain ⟨value, -, rfl⟩ := List.mem_map.mp listed
    exact absurd (isDigit_of_mem_decimalText dot) (by decide)
  rw [parseV4, split]
  simp only [List.map_cons, List.map_nil]
  rw [parseOctet_decimalText (by omega), parseOctet_decimalText (by omega),
    parseOctet_decimalText (by omega), parseOctet_decimalText (by omega)]
  simp only [Option.bind_eq_bind, Option.bind_some, Option.some.injEq]
  apply BitVec.eq_of_toNat_eq
  rw [BitVec.toNat_ofNat]
  omega

end Octets

section Hextets

/-- Hexadecimal digits are read back, whatever was read before them. -/
theorem hexDigits_toDigits (n : Nat) :
    Nat.toDigits 16 n ≠ [] ∧
      (Nat.toDigits 16 n).foldlM (fun value c => (hexDigitValue c).map (value * 16 + ·)) 0 =
        some n := by
  have ofDigit : ∀ d < 16, hexDigitValue d.digitChar = some d := by
    decide
  induction n using Nat.strong_induction_on with
  | h n ih =>
      by_cases small : n < 16
      · rw [Nat.toDigits_of_lt_base small]
        refine ⟨by simp, ?_⟩
        simp [ofDigit n small]
      · obtain ⟨_, front⟩ := ih (n / 16) (by omega)
        rw [Nat.toDigits_of_base_le (by omega) (by omega)]
        refine ⟨by simp, ?_⟩
        rw [List.foldlM_append, front]
        simp only [Option.bind_eq_bind, Option.bind_some, List.foldlM_cons, List.foldlM_nil,
          ofDigit (n % 16) (Nat.mod_lt n (by decide)), Option.map_some, Option.pure_def]
        congr 1
        omega

private theorem hexText_ne_nil (value : Nat) : hexText value ≠ [] := (hexDigits_toDigits value).1

private theorem parseHextet_hexText {value : Nat} (small : value < 65536) :
    parseHextet (hexText value) = some value := by
  have short : (hexText value).length ≤ 4 := Nat.toDigits_length 16 value 4 (by decide) small
  rw [parseHextet, if_pos ⟨hexText_ne_nil value, short⟩]
  exact (hexDigits_toDigits value).2

/-- A hexadecimal digit is none of the characters that structure an address. -/
theorem hexDigitValue_of_mem {value : Nat} {c : Char} (member : c ∈ hexText value) :
    (hexDigitValue c).isSome = true := by
  have ofDigit : ∀ d < 16, (hexDigitValue d.digitChar).isSome = true := by
    decide
  induction value using Nat.strong_induction_on with
  | h value ih =>
      unfold hexText at member ih
      by_cases small : value < 16
      · rw [Nat.toDigits_of_lt_base small, List.mem_singleton] at member
        rw [member]
        exact ofDigit value small
      · rw [Nat.toDigits_of_base_le (by omega) (by omega), List.mem_append] at member
        rcases member with front | last
        · exact ih (value / 16) (by omega) front
        · rw [List.mem_singleton] at last
          rw [last]
          exact ofDigit (value % 16) (Nat.mod_lt value (by decide))

private theorem notMem_hexText {value : Nat} {c : Char} (structural : c ∈ [':', '.', '%', '/']) :
    c ∉ hexText value := by
  intro member
  have digit := hexDigitValue_of_mem member
  simp only [List.mem_cons, List.not_mem_nil, or_false] at structural
  rcases structural with rfl | rfl | rfl | rfl <;> exact absurd digit (by decide)

private theorem mapM_parseHextet {values : List Nat} (small : ∀ value ∈ values, value < 65536) :
    (values.map hexText).mapM parseHextet = some values := by
  induction values with
  | nil => rfl
  | cons value rest ih =>
      rw [List.map_cons, List.mapM_cons, parseHextet_hexText (small value (by simp)),
        ih fun other listed => small other (by simp [listed])]
      rfl

private theorem length_hextets (bits : BitVec 128) : (hextets bits).length = 8 := by
  simp [hextets]

private theorem hextets_small (bits : BitVec 128) : ∀ value ∈ hextets bits, value < 65536 := by
  intro value listed
  obtain ⟨place, -, rfl⟩ := List.mem_map.mp listed
  exact Nat.mod_lt _ (by decide)

private theorem ofHextets_hextets (bits : BitVec 128) : ofHextets (hextets bits) = bits := by
  have bounded := bits.isLt
  apply BitVec.eq_of_toNat_eq
  simp only [ofHextets, hextets, List.map_cons, List.map_nil, List.foldl_cons, List.foldl_nil,
    BitVec.toNat_ofNat]
  omega

end Hextets

section Compression

/-- What stands on one side of a `::`: the hextets, or an empty part. -/
def sideParts (values : List Nat) : List (List Char) :=
  if values = [] then [[]] else values.map hexText

private theorem length_sideParts (values : List Nat) :
    (sideParts values).length = if values = [] then 1 else values.length := by
  unfold sideParts
  split <;> simp

private theorem length_sideParts_pos (values : List Nat) : 0 < (sideParts values).length := by
  rw [length_sideParts]
  split
  · decide
  · rename_i nonempty
    exact List.length_pos_of_ne_nil nonempty

private theorem sideParts_ne_nil (values : List Nat) : sideParts values ≠ [] :=
  List.ne_nil_of_length_pos (length_sideParts_pos values)

private theorem notMem_sideParts {values : List Nat} {part : List Char}
    (listed : part ∈ sideParts values)
    {c : Char} (structural : c ∈ [':', '.', '%', '/']) : c ∉ part := by
  unfold sideParts at listed
  split at listed
  · rw [List.mem_singleton] at listed
    simp [listed]
  · obtain ⟨value, -, rfl⟩ := List.mem_map.mp listed
    exact notMem_hexText structural

private theorem nil_notMem_tail_sideParts (values : List Nat) : [] ∉ (sideParts values).tail := by
  intro listed
  unfold sideParts at listed
  split at listed
  · simp at listed
  · obtain ⟨value, -, isNil⟩ := List.mem_map.mp (List.mem_of_mem_tail listed)
    exact hexText_ne_nil value isNil

private theorem nil_notMem_dropLast_sideParts (values : List Nat) :
    [] ∉ (sideParts values).dropLast := by
  intro listed
  unfold sideParts at listed
  split at listed
  · simp at listed
  · obtain ⟨value, -, isNil⟩ := List.mem_map.mp (List.mem_of_mem_dropLast listed)
    exact hexText_ne_nil value isNil

private theorem leadingParts_sideParts (values : List Nat) :
    leadingParts (sideParts values) = some (values.map hexText) := by
  unfold sideParts
  split
  · rename_i none
    simp [none, leadingParts]
  · rename_i nonempty
    obtain ⟨first, rest, rfl⟩ := List.exists_cons_of_ne_nil nonempty
    simp [leadingParts, hexText_ne_nil]

private theorem trailingParts_sideParts (values : List Nat) :
    trailingParts (sideParts values) = some (values.map hexText) := by
  unfold sideParts
  split
  · rename_i none
    simp [none, trailingParts]
  · rename_i nonempty
    have last : (values.map hexText).getLast? ≠ some [] := by
      rw [List.getLast?_map, List.getLast?_eq_some_getLast nonempty]
      simp [hexText_ne_nil]
    rw [trailingParts, if_neg last]

private theorem expandDottedTail_of_last {front : List (List Char)} {last : List Char}
    (plain : '.' ∉ last) : expandDottedTail (front ++ [last]) = some (front ++ [last]) := by
  simp [expandDottedTail, plain]

/-- Parts that stand around one `::` are read as their hextets with zeros between. -/
theorem parseHextets_sides {chars : List Char} {high low : List Nat}
    (split : chars.splitOn ':' = sideParts high ++ [] :: sideParts low)
    (short : high.length + low.length < 8)
    (highSmall : ∀ value ∈ high, value < 65536) (lowSmall : ∀ value ∈ low, value < 65536) :
    parseHextets chars =
      some (high ++ List.replicate (8 - (high.length + low.length)) 0 ++ low) := by
  have highPos := length_sideParts_pos high
  have lowPos := length_sideParts_pos low
  have many : ¬(sideParts high ++ [] :: sideParts low).length < 3 := by
    simp only [List.length_append, List.length_cons]
    omega
  have few : ¬9 < (sideParts high ++ [] :: sideParts low).length := by
    simp only [List.length_append, List.length_cons, length_sideParts]
    split <;> split <;> omega
  have expanded : expandDottedTail (sideParts high ++ [] :: sideParts low) =
      some (sideParts high ++ [] :: sideParts low) := by
    obtain ⟨front, last, isLow⟩ : ∃ front last, sideParts low = front ++ [last] :=
      ⟨_, _, (List.dropLast_append_getLast (sideParts_ne_nil low)).symm⟩
    have plain : '.' ∉ last := notMem_sideParts (isLow ▸ by simp : last ∈ sideParts low) (by simp)
    have regrouped : sideParts high ++ [] :: sideParts low =
        (sideParts high ++ [] :: front) ++ [last] := by
      simp [isLow]
    rw [regrouped, expandDottedTail_of_last plain]
  have interior : (sideParts high ++ [] :: sideParts low).tail.dropLast =
      (sideParts high).tail ++ [] :: (sideParts low).dropLast := by
    rw [List.tail_append_of_ne_nil (sideParts_ne_nil high),
      List.dropLast_append_of_ne_nil (by simp),
      List.dropLast_cons_of_ne_nil (sideParts_ne_nil low)]
  have once : ((sideParts high).tail ++ [] :: (sideParts low).dropLast).count [] = 1 := by
    rw [List.count_append, List.count_cons_self,
      List.count_eq_zero_of_not_mem (nil_notMem_tail_sideParts high),
      List.count_eq_zero_of_not_mem (nil_notMem_dropLast_sideParts low)]
  have skip : ((sideParts high).tail ++ [] :: (sideParts low).dropLast).idxOf [] + 1 =
      (sideParts high).length := by
    rw [List.idxOf_append_of_notMem (nil_notMem_tail_sideParts high), List.idxOf_cons_self,
      List.length_tail]
    omega
  have before : (sideParts high ++ [] :: sideParts low).take (sideParts high).length =
      sideParts high := List.take_left' rfl
  have after : (sideParts high ++ [] :: sideParts low).drop ((sideParts high).length + 1) =
      sideParts low := by
    rw [List.drop_append]
    simp
  have room : ¬8 ≤ high.length + low.length := by
    omega
  unfold parseHextets
  simp only [split, if_neg many, expanded, Option.bind_eq_bind, Option.bind_some, if_neg few,
    interior, once, skip, before, after, leadingParts_sideParts, trailingParts_sideParts,
    mapM_parseHextet highSmall, mapM_parseHextet lowSmall, List.length_map, if_neg room]

/-- Eight hextets without a `::` are read one by one. -/
theorem parseHextets_plain {chars : List Char} {values : List Nat}
    (split : chars.splitOn ':' = values.map hexText) (eight : values.length = 8)
    (small : ∀ value ∈ values, value < 65536) : parseHextets chars = some values := by
  have expanded : expandDottedTail (values.map hexText) = some (values.map hexText) := by
    have nonempty : values ≠ [] := List.ne_nil_of_length_pos (by omega)
    rw [← List.dropLast_append_getLast nonempty, List.map_append, List.map_singleton]
    exact expandDottedTail_of_last (notMem_hexText (by simp))
  have interior : (values.map hexText).tail.dropLast.count [] = 0 := by
    refine List.count_eq_zero_of_not_mem fun listed => ?_
    obtain ⟨value, -, isNil⟩ :=
      List.mem_map.mp (List.mem_of_mem_tail (List.mem_of_mem_dropLast listed))
    exact hexText_ne_nil value isNil
  unfold parseHextets
  simp [split, eight, expanded, interior, mapM_parseHextet small]

/-- The run of zeros that writing leaves out. -/
theorem zeroRun_spec (values : List Nat) (start : Nat) :
    values = values.take start ++ List.replicate (zeroRun values start) 0 ++
      values.drop (start + zeroRun values start) := by
  have run : (values.drop start).takeWhile (· = 0) = List.replicate (zeroRun values start) 0 := by
    refine List.eq_replicate_iff.mpr ⟨rfl, fun value listed => ?_⟩
    simpa using List.mem_takeWhile_imp listed
  have rest : (values.drop start).dropWhile (· = 0) =
      values.drop (start + zeroRun values start) := by
    have parted := List.takeWhile_append_dropWhile (p := (· = 0)) (l := values.drop start)
    have dropped := congrArg (List.drop (zeroRun values start)) parted
    rw [zeroRun, List.drop_left] at dropped
    rw [← List.drop_drop, dropped, zeroRun]
  calc values
    _ = values.take start ++ values.drop start := (List.take_append_drop start values).symm
    _ = values.take start ++ ((values.drop start).takeWhile (· = 0) ++
          (values.drop start).dropWhile (· = 0)) := by rw [List.takeWhile_append_dropWhile]
    _ = _ := by rw [run, rest, List.append_assoc]

/-- The hextets of an address are read back from their text. -/
theorem parseHextets_compress {values : List Nat} (eight : values.length = 8)
    (small : ∀ value ∈ values, value < 65536) :
    parseHextets ([':'].intercalate (compress values)) = some values := by
  obtain ⟨start, isStart⟩ : ∃ start, start = longestRun values := ⟨_, rfl⟩
  obtain ⟨count, isCount⟩ : ∃ count, count = zeroRun values start := ⟨_, rfl⟩
  have spec : values = values.take start ++ List.replicate count 0 ++ values.drop (start + count) :=
    isCount ▸ zeroRun_spec values start
  by_cases long : 1 < count
  · have total := congrArg List.length spec
    simp only [List.length_append, List.length_take, List.length_replicate, List.length_drop,
      eight] at total
    have parts : compress values =
        sideParts (values.take start) ++ [] :: sideParts (values.drop (start + count)) := by
      have high : values.take start = [] ↔ start = 0 := by
        rw [List.take_eq_nil_iff]
        simp [← List.length_eq_zero_iff, eight]
      have low : values.drop (start + count) = [] ↔ start + count = values.length := by
        rw [List.drop_eq_nil_iff]
        omega
      simp only [compress, sideParts, ← isStart, ← isCount, if_pos long, high, low]
      by_cases atStart : start = 0
      · by_cases atEnd : start + count = values.length
        · rw [high.mpr atStart, low.mpr atEnd]
          simp [atStart]
        · rw [high.mpr atStart]
          simp only [if_pos atStart, if_neg atEnd]
          simp
      · by_cases atEnd : start + count = values.length
        · rw [low.mpr atEnd]
          simp only [if_neg atStart, if_pos atEnd]
          simp
        · simp only [if_neg atStart, if_neg atEnd]
          simp
    have plain : ∀ part ∈ compress values, ':' ∉ part := by
      intro part listed
      rw [parts] at listed
      simp only [List.mem_append, List.mem_cons] at listed
      rcases listed with inHigh | rfl | inLow
      · exact notMem_sideParts inHigh (by simp)
      · simp
      · exact notMem_sideParts inLow (by simp)
    have split : ([':'].intercalate (compress values)).splitOn ':' =
        sideParts (values.take start) ++ [] :: sideParts (values.drop (start + count)) := by
      rw [List.splitOn_intercalate ':' plain (by simp [parts]), parts]
    rw [parseHextets_sides split]
    · have zeros : 8 - ((values.take start).length + (values.drop (start + count)).length) =
          count := by
        simp only [List.length_take, List.length_drop, eight]
        omega
      rw [zeros, ← spec]
    · simp only [List.length_take, List.length_drop, eight]
      omega
    · exact fun value listed => small value (List.mem_of_mem_take listed)
    · exact fun value listed => small value (List.mem_of_mem_drop listed)
  · have parts : compress values = values.map hexText := by
      simp only [compress, ← isStart, ← isCount, if_neg long]
    have nonempty : values ≠ [] := List.ne_nil_of_length_pos (by omega)
    refine parseHextets_plain ?_ eight small
    rw [parts]
    refine List.splitOn_intercalate ':' ?_ (by simp [nonempty])
    intro part listed
    obtain ⟨value, -, rfl⟩ := List.mem_map.mp listed
    exact notMem_hexText (by simp)

end Compression

section Networks

/-- A scope as reading admits it. -/
def ValidScope (scope : Option String) : Prop :=
  ∀ text, scope = some text → text.toList ≠ [] ∧ '/' ∉ text.toList ∧ '%' ∉ text.toList

private theorem mem_compress {bits : BitVec 128} {c : Char}
    (member : c ∈ [':'].intercalate (compress (hextets bits))) :
    c = ':' ∨ ∃ value, c ∈ hexText value := by
  rcases mem_intercalate member with colon | ⟨part, listed, inPart⟩
  · exact .inl colon
  · right
    have ofMap : ∀ values : List Nat, part ∈ values.map hexText → ∃ value, c ∈ hexText value := by
      intro values inMap
      obtain ⟨value, -, rfl⟩ := List.mem_map.mp inMap
      exact ⟨value, inPart⟩
    have notNil : part ≠ [] := List.ne_nil_of_mem inPart
    simp only [compress] at listed
    split at listed
    · simp only [List.mem_append, List.mem_singleton] at listed
      rcases listed with (((empty | high) | empty) | low) | empty
      · split at empty <;> simp at empty
        exact absurd empty notNil
      · exact ofMap _ high
      · exact absurd empty notNil
      · exact ofMap _ low
      · split at empty <;> simp at empty
        exact absurd empty notNil
    · exact ofMap _ listed

private theorem notMem_compress {bits : BitVec 128} {c : Char} (structural : c ∈ ['.', '%', '/']) :
    c ∉ [':'].intercalate (compress (hextets bits)) := by
  intro member
  rcases mem_compress member with rfl | ⟨value, digit⟩
  · revert structural
    decide
  · exact notMem_hexText (List.mem_cons_of_mem _ structural) digit

/-- The text of an address of version six has a colon. -/
theorem colon_mem_compress (bits : BitVec 128) :
    ':' ∈ [':'].intercalate (compress (hextets bits)) := by
  by_contra absent
  have single := List.splitOn_eq_singleton absent
  have values := parseHextets_compress (length_hextets bits) (hextets_small bits)
  unfold parseHextets at values
  rw [single] at values
  simp at values

private theorem parseV6_textV6 {bits : BitVec 128} {scope : Option String}
    (valid : ValidScope scope) : parseV6 (textV6 bits scope) = some (bits, scope) := by
  have plain : parseHextets ([':'].intercalate (compress (hextets bits))) = some (hextets bits) :=
    parseHextets_compress (length_hextets bits) (hextets_small bits)
  have noPercent : '%' ∉ [':'].intercalate (compress (hextets bits)) :=
    notMem_compress (by simp)
  unfold parseV6 textV6
  cases scope with
  | none =>
      simp only [List.append_nil]
      rw [List.splitOn_eq_singleton noPercent]
      simp [plain, ofHextets_hextets]
  | some text =>
      obtain ⟨nonempty, noSlash, single⟩ := valid text rfl
      simp only
      rw [List.splitOn_append_cons_self_of_not_mem noPercent, List.splitOn_eq_singleton single]
      simp [plain, nonempty, noSlash, ofHextets_hextets]

private theorem validScope_of_parseV6 {chars : List Char} {bits : BitVec 128}
    {scope : Option String} (read : parseV6 chars = some (bits, scope)) : ValidScope scope := by
  unfold parseV6 at read
  split at read
  · obtain ⟨values, -, same⟩ := Option.map_eq_some_iff.mp read
    cases same
    intro text isScope
    cases isScope
  · rename_i plain part parts
    split at read
    · cases read
    · rename_i admitted
      obtain ⟨values, -, same⟩ := Option.map_eq_some_iff.mp read
      cases same
      intro text isScope
      cases isScope
      rw [not_or] at admitted
      refine ⟨by simpa using admitted.1, by simpa using admitted.2, ?_⟩
      have single : '%' ∉ part := notMem_of_mem_splitOn (parts ▸ by simp : part ∈ chars.splitOn '%')
      simpa using single
  · cases read

/-- A network as reading gives it: its host bits are cleared and its scope is valid. -/
def Network.Canonical : Network → Prop
  | .v4 bits length => bits &&& netmask 32 length = bits
  | .v6 bits scope length => bits &&& netmask 128 length = bits ∧ ValidScope scope

private theorem netmask_full (width : Nat) : netmask width width = BitVec.allOnes width := by
  simp [netmask]

private theorem canonical_of_parseNetworkV4 {chars : List Char} {network : Network}
    (read : parseNetworkV4 chars = some network) : network.Canonical := by
  unfold parseNetworkV4 at read
  split at read
  · obtain ⟨bits, -, rfl⟩ := Option.map_eq_some_iff.mp read
    have full : netmask 32 (32 : Fin 33) = BitVec.allOnes 32 := netmask_full 32
    rw [Network.Canonical, full, BitVec.and_allOnes]
  · simp only [Option.bind_eq_bind, Option.bind_eq_some_iff, Option.some.injEq] at read
    obtain ⟨bits, -, length, -, rfl⟩ := read
    rw [Network.Canonical, BitVec.and_assoc, BitVec.and_self]
  · cases read

private theorem canonical_of_parseNetworkV6 {chars : List Char} {network : Network}
    (read : parseNetworkV6 chars = some network) : network.Canonical := by
  unfold parseNetworkV6 at read
  split at read
  · obtain ⟨⟨bits, scope⟩, isAddress, rfl⟩ := Option.map_eq_some_iff.mp read
    have full : netmask 128 (128 : Fin 129) = BitVec.allOnes 128 := netmask_full 128
    refine ⟨?_, validScope_of_parseV6 isAddress⟩
    rw [full, BitVec.and_allOnes]
  · simp only [Option.bind_eq_bind, Option.bind_eq_some_iff, Option.some.injEq] at read
    obtain ⟨⟨bits, scope⟩, isAddress, length, -, rfl⟩ := read
    refine ⟨?_, ?_⟩
    · rw [BitVec.and_assoc, BitVec.and_self]
    · intro text isScope
      split at isScope
      · exact validScope_of_parseV6 isAddress text isScope
      · cases isScope
  · cases read

private theorem canonical_of_ipNetwork {text : String} {network : Network}
    (read : ipNetwork text = some network) : network.Canonical := by
  unfold ipNetwork at read
  split at read
  · rename_i isV4
    cases read
    exact canonical_of_parseNetworkV4 isV4
  · exact canonical_of_parseNetworkV6 read

private theorem parsePrefix_decimalText {longest : Nat} (length : Fin (longest + 1)) :
    parsePrefix longest (decimalText length) = some length := by
  have bounded : (length : Nat) ≤ longest := Nat.le_of_lt_succ length.isLt
  simp [parsePrefix, decimalText, bounded]

private theorem noSlash_decimalText (value : Nat) : '/' ∉ decimalText value :=
  fun member => absurd (isDigit_of_mem_decimalText member) (by decide)

/-- A text with a colon before any slash is no network of version four. -/
theorem parseNetworkV4_textV6 (bits : BitVec 128) (scope : Option String) (valid : ValidScope scope)
    (length : List Char) (noSlash : '/' ∉ length) :
    (textV6 bits scope ++ '/' :: length).splitOn '/' = [textV6 bits scope, length] ∧
      parseV4 (textV6 bits scope) = none := by
  have slash : '/' ∉ textV6 bits scope := by
    intro member
    unfold textV6 at member
    rcases List.mem_append.mp member with inAddress | inScope
    · exact notMem_compress (by simp) inAddress
    · cases scope with
      | none => cases inScope
      | some text =>
          rcases List.mem_cons.mp inScope with isPercent | inText
          · revert isPercent
            decide
          · exact (valid text rfl).2.1 inText
  refine ⟨?_, ?_⟩
  · rw [List.splitOn_append_cons_self_of_not_mem slash, List.splitOn_eq_singleton noSlash]
  · cases read : parseV4 (textV6 bits scope) with
    | none => rfl
    | some other =>
        exfalso
        have colon : ':' ∈ textV6 bits scope :=
          List.mem_append_left _ (colon_mem_compress bits)
        rcases mem_of_parseV4 read ':' colon with dot | digit
        · revert dot
          decide
        · revert digit
          decide

/-- **Networks are read back.** The text of a network that was read is read as the
same network. -/
theorem ipNetwork_text {text : String} {network : Network} (read : ipNetwork text = some network) :
    ipNetwork network.text = some network := by
  have canonical := canonical_of_ipNetwork read
  cases network with
  | v4 bits length =>
      have slash : '/' ∉ textV4 bits := by
        intro member
        rcases mem_textV4 member with dot | digit
        · revert dot
          decide
        · revert digit
          decide
      have split : (textV4 bits ++ '/' :: decimalText length).splitOn '/' =
          [textV4 bits, decimalText length] := by
        rw [List.splitOn_append_cons_self_of_not_mem slash,
          List.splitOn_eq_singleton (noSlash_decimalText _)]
      have isLength : parseV4Length (decimalText length) = some length := by
        rw [parseV4Length, parsePrefix_decimalText]
      have isNetwork : parseNetworkV4 (textV4 bits ++ '/' :: decimalText length) =
          some (.v4 bits length) := by
        unfold parseNetworkV4
        rw [split]
        simp only [parseV4_textV4, isLength, Option.bind_eq_bind, Option.bind_some]
        rw [show bits &&& netmask 32 length = bits from canonical]
      rw [ipNetwork, Network.text, String.toList_ofList, isNetwork]
  | v6 bits scope length =>
      obtain ⟨masked, valid⟩ := canonical
      obtain ⟨split, notV4⟩ := parseNetworkV4_textV6 bits scope valid (decimalText length)
        (noSlash_decimalText _)
      have refused : parseNetworkV4 (textV6 bits scope ++ '/' :: decimalText length) = none := by
        unfold parseNetworkV4
        rw [split]
        simp [notV4]
      have isNetwork : parseNetworkV6 (textV6 bits scope ++ '/' :: decimalText length) =
          some (.v6 bits scope length) := by
        unfold parseNetworkV6
        rw [split]
        simp only [parseV6_textV6 valid, parsePrefix_decimalText, Option.bind_eq_bind,
          Option.bind_some, maskV6, masked, if_true]
      rw [ipNetwork, Network.text, String.toList_ofList, refused]
      exact isNetwork

private theorem isSpace_of_hexDigit {c : Char} (digit : (hexDigitValue c).isSome = true) :
    isSpace c = false := by
  have bounded : (48 ≤ c.toNat ∧ c.toNat ≤ 57) ∨ (97 ≤ c.toNat ∧ c.toNat ≤ 102) ∨
      (65 ≤ c.toNat ∧ c.toNat ≤ 70) := by
    unfold hexDigitValue isDigit at digit
    split at digit
    · rename_i decimal
      simp only [Bool.decide_and, Bool.and_eq_true, decide_eq_true_eq] at decimal
      exact .inl decimal
    · split at digit
      · rename_i lower
        exact .inr (.inl lower)
      · split at digit
        · rename_i upper
          exact .inr (.inr upper)
        · cases digit
  simp only [isSpace, List.mem_cons, List.not_mem_nil, or_false, decide_eq_false_iff_not]
  omega

theorem isSpace_of_isDigit {c : Char} (digit : isDigit c = true) : isSpace c = false :=
  isSpace_of_hexDigit (by simp [hexDigitValue, digit])

/-- The text of a network has no surrounding blanks. -/
theorem strip_text (network : Network) : strip network.text = network.text := by
  have last : ∀ {front : List Char} {length : Nat} {c : Char},
      (front ++ '/' :: decimalText length).getLast? = some c → isSpace c = false := by
    intro front length c isLast
    have nonempty : decimalText length ≠ [] := (digits_toDigits length).1
    rw [List.getLast?_append_of_ne_nil _ (by simp), List.getLast?_cons,
      List.getLast?_eq_some_getLast nonempty, Option.getD_some, Option.some.injEq] at isLast
    exact isSpace_of_isDigit (isDigit_of_mem_decimalText (isLast ▸ List.getLast_mem nonempty))
  cases network with
  | v4 bits length =>
      rw [strip, Network.text, String.toList_ofList, stripChars_of_ends ?_ (fun _ => last)]
      intro c isFirst
      rcases List.mem_append.mp (List.mem_of_mem_head? isFirst) with inAddress | inLength
      · rcases mem_textV4 inAddress with rfl | digit
        · decide
        · exact isSpace_of_isDigit digit
      · rcases List.mem_cons.mp inLength with rfl | digit
        · decide
        · exact isSpace_of_isDigit (isDigit_of_mem_decimalText digit)
  | v6 bits scope length =>
      rw [strip, Network.text, String.toList_ofList, stripChars_of_ends ?_ (fun _ => last)]
      intro c isFirst
      obtain ⟨first, rest, parts⟩ := List.exists_cons_of_ne_nil
        (List.ne_nil_of_mem (colon_mem_compress bits))
      unfold textV6 at isFirst
      rw [parts, List.cons_append, List.cons_append, List.head?_cons, Option.some.injEq] at isFirst
      subst isFirst
      have inAddress : first ∈ [':'].intercalate (compress (hextets bits)) := by
        rw [parts]
        exact List.mem_cons_self
      rcases mem_compress inAddress with rfl | ⟨value, digit⟩
      · decide
      · exact isSpace_of_hexDigit (hexDigitValue_of_mem digit)

end Networks

end Foundation.Ip
