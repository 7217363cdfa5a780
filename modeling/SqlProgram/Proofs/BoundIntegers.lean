import Mathlib.Tactic.Positivity
import Mathlib.Tactic.Ring
import SqlProgram.Postgres.Decode
import SqlProgram.Postgres.Encode

/-!
Whole numbers on their way to the server and back. A number is bound to a parameter only if its type has room for it,
and a column of that type is read as the number that was bound.
-/

namespace SqlProgram

namespace Binary.BigEndian

theorem getElem_ofNat (width n : Nat) {place : Nat} (inside : place < (ofNat width n).length) :
    (ofNat width n)[place].toNat = n / 256 ^ (width - 1 - place) % 256 := by
  induction width generalizing n with
  | zero => simp [ofNat] at inside
  | succ width ih =>
    simp only [ofNat, List.getElem_append, length_ofNat]
    split
    next before =>
      have power : width + 1 - 1 - place = (width - 1 - place) + 1 := by omega
      rw [ih, power, Nat.pow_succ, Nat.mul_comm, Nat.div_div_eq_div_mul]
    next behind =>
      have last : place = width := by
        rw [length_ofNat] at inside
        omega
      subst last
      simp

theorem byte_of_remainder (value above : Int) {low : Int} (positive : 0 < low) :
    value % (low * (256 * above)) / low % 256 = value / low % 256 := by
  have rest : value % (low * (256 * above)) =
      value + low * (256 * -(above * (value / (low * (256 * above))))) := by
    rw [Int.emod_def]
    ring
  rw [rest, Int.add_mul_ediv_left _ _ (by omega)]
  omega

theorem getElem_ofInt {width : Nat} (value : Int) {place : Nat} (inside : place < (ofInt width value).length) :
    ((ofInt width value)[place].toNat : Int) = value / 256 ^ (width - 1 - place) % 256 := by
  have short : place < width := by simpa [ofInt] using inside
  have total : Nat.pow 256 width = 256 ^ (width - 1 - place) * (256 * 256 ^ place) := by
    have exponent : width = (width - 1 - place) + (place + 1) := by omega
    conv_lhs => rw [exponent]
    rw [Nat.mul_comm 256, ← Nat.pow_succ, ← Nat.pow_add]
    rfl
  have positive : 0 < Nat.pow 256 width := Nat.pow_pos (by decide)
  have least : 0 ≤ value % (Nat.pow 256 width : Nat) := Int.emod_nonneg value (by omega)
  simp only [ofInt, getElem_ofNat]
  rw [Int.natCast_mod, Int.natCast_div, Int.toNat_of_nonneg least, total]
  push_cast
  exact byte_of_remainder value (256 ^ place) (by positivity)

end Binary.BigEndian

namespace Postgres

/-- The whole numbers of a type, and the bytes that each of them takes. -/
structure WholeRange where
  width : Nat
  least : Int
  greatest : Int

namespace WholeRange

def signed (width : Nat) : WholeRange := ⟨width, -2 ^ (8 * width - 1), 2 ^ (8 * width - 1) - 1⟩

def unsigned (width : Nat) : WholeRange := ⟨width, 0, 2 ^ (8 * width) - 1⟩

def Holds (range : WholeRange) (value : Int) : Prop := range.least ≤ value ∧ value ≤ range.greatest

instance (range : WholeRange) (value : Int) : Decidable (range.Holds value) :=
  inferInstanceAs (Decidable (range.least ≤ value ∧ value ≤ range.greatest))

/-- The bytes of a number, the highest first. Of a negative number these are the bytes of its complement. -/
structure Writes (range : WholeRange) (value : Int) (bytes : Bytes) : Prop where
  length : bytes.length = range.width
  byte : ∀ place (inside : place < bytes.length),
    (bytes[place].toNat : Int) = value / 256 ^ (range.width - 1 - place) % 256

theorem writes_ofInt (range : WholeRange) (value : Int) :
    range.Writes value (Binary.BigEndian.ofInt range.width value) where
  length := Binary.BigEndian.length_ofInt range.width value
  byte _ inside := Binary.BigEndian.getElem_ofInt value inside

end WholeRange

def WireType.whole? : WireType → Option WholeRange
  | .int2 => some (.signed 2)
  | .int4 => some (.signed 4)
  | .int8 => some (.signed 8)
  | .oid => some (.unsigned 4)
  | _ => none

theorem encodeWhole_eq {range : WholeRange} {value : Int} (holds : range.Holds value) :
    encodeWhole range.width range.least range.greatest value = .ok (Binary.BigEndian.ofInt range.width value) := by
  obtain ⟨least, greatest⟩ := holds
  rw [encodeWhole, if_neg (by omega), if_neg (by omega)]

theorem encodeWhole_refused {range : WholeRange} {value : Int} (outside : ¬ range.Holds value) :
    ∃ fault, encodeWhole range.width range.least range.greatest value = .error fault := by
  unfold encodeWhole
  by_cases small : value < range.least
  · exact ⟨.tooSmall, if_pos small⟩
  · have large : range.greatest < value := by
      unfold WholeRange.Holds at outside
      omega
    exact ⟨.tooLarge, by rw [if_neg small, if_pos large]⟩

variable {type : WireType} {range : WholeRange}

/-- Every number has room in the widest type, so nothing need be checked there. -/
theorem holds_int8 (value : Int64) : (WholeRange.signed 8).Holds value.toInt := by
  have least := value.le_toInt
  have greatest := value.toInt_lt
  simp only [WholeRange.Holds, WholeRange.signed]
  omega

theorem encode_int (whole : type.whole? = some range) (value : Int64) :
    encode (.int value) type = (encodeWhole range.width range.least range.greatest value.toInt).map some := by
  cases type with
  | int2 =>
    cases whole
    rfl
  | int4 =>
    cases whole
    rfl
  | oid =>
    cases whole
    rfl
  | int8 =>
    cases whole
    rw [encodeWhole_eq (holds_int8 value)]
    rfl
  | _ => cases whole

theorem decodeWhole?_signed (width : Nat) {value : Int} (wide : 0 < width)
    (holds : (WholeRange.signed width).Holds value) :
    decodeWhole? width (Binary.BigEndian.ofInt width value) = some value := by
  have count : (Nat.pow 256 width : Int) = 2 * 2 ^ (8 * width - 1) := by
    have exponent : 8 * width = 8 * width - 1 + 1 := by omega
    have doubled : Nat.pow 256 width = 2 ^ (8 * width - 1 + 1) := by
      rw [← exponent, Nat.pow_mul]
      rfl
    rw [doubled]
    push_cast
    ring
  obtain ⟨least, greatest⟩ := holds
  simp only [WholeRange.signed] at least greatest
  rw [decodeWhole?, if_pos (Binary.BigEndian.length_ofInt width value), Binary.BigEndian.toInt_ofInt]
  · omega
  · omega

theorem decodeBits?_unsigned (width : Nat) {value : Int} (holds : (WholeRange.unsigned width).Holds value) :
    ∃ bits : Nat, decodeBits? width (Binary.BigEndian.ofInt width value) = some bits ∧ (bits : Int) = value := by
  have count : (Nat.pow 256 width : Int) = 2 ^ (8 * width) := by
    have same : Nat.pow 256 width = 2 ^ (8 * width) := by
      rw [Nat.pow_mul]
      rfl
    rw [same]
    push_cast
    rfl
  obtain ⟨least, greatest⟩ := holds
  simp only [WholeRange.unsigned] at least greatest
  refine ⟨_, if_pos (Binary.BigEndian.length_ofInt width value), ?_⟩
  rw [Binary.BigEndian.toNat_ofInt, Int.emod_eq_of_lt least (by omega)]

/-- What is written is read again: both go by the same range. -/
theorem reader?_ofInt (whole : type.whole? = some range) {value : Int} (holds : range.Holds value) :
    ∃ read, reader? type = some read ∧
      read (Binary.BigEndian.ofInt range.width value) = .ok (some (intValue value)) := by
  cases type with
  | int2 =>
    cases whole
    exact ⟨_, rfl, congrArg Outcome.ok (congrArg (Option.map intValue) (decodeWhole?_signed 2 (by decide) holds))⟩
  | int4 =>
    cases whole
    exact ⟨_, rfl, congrArg Outcome.ok (congrArg (Option.map intValue) (decodeWhole?_signed 4 (by decide) holds))⟩
  | int8 =>
    cases whole
    exact ⟨_, rfl, congrArg Outcome.ok (congrArg (Option.map intValue) (decodeWhole?_signed 8 (by decide) holds))⟩
  | oid =>
    cases whole
    obtain ⟨bits, decoded, same⟩ := decodeBits?_unsigned 4 holds
    refine ⟨_, rfl, ?_⟩
    have read := congrArg (Option.map fun bits : Nat => intValue bits) decoded
    rw [Option.map_some, same] at read
    exact congrArg Outcome.ok read
  | _ => cases whole

theorem decodeCell_ofInt (whole : type.whole? = some range) {value : Int} (holds : range.Holds value)
    (name : String) (index : Nat) :
    decodeCell ⟨name, type⟩ index (some (Binary.BigEndian.ofInt range.width value)) = .ok (intValue value) := by
  obtain ⟨read, found, decoded⟩ := reader?_ofInt whole holds
  simp only [decodeCell, found, decoded]
  rfl

/-- A whole number is refused, with no bytes, exactly if the type of the parameter has no room for it. Otherwise it is
written in the fixed width of the type, and a column of that type is read as the same number. -/
theorem int_survives (whole : type.whole? = some range) (value : Int64) :
    ((∃ fault, encode (.int value) type = .error fault) ↔ ¬ range.Holds value.toInt) ∧
      (range.Holds value.toInt →
        ∃ bytes, encode (.int value) type = .ok (some bytes) ∧ range.Writes value.toInt bytes ∧
          ∀ name index, decodeCell ⟨name, type⟩ index (some bytes) = .ok (.int value)) := by
  have encoded := encode_int whole value
  have written (holds : range.Holds value.toInt) :
      encode (.int value) type = .ok (some (Binary.BigEndian.ofInt range.width value.toInt)) := by
    rw [encoded, encodeWhole_eq holds]
    rfl
  constructor
  · constructor
    · intro ⟨fault, refused⟩ holds
      rw [written holds] at refused
      cases refused
    · intro outside
      obtain ⟨fault, refused⟩ := encodeWhole_refused outside
      refine ⟨fault, ?_⟩
      rw [encoded, refused]
      rfl
  · intro holds
    refine ⟨_, written holds, range.writes_ofInt value.toInt, ?_⟩
    intro name index
    rw [decodeCell_ofInt whole holds, intValue, Int64.ofInt_toInt]

/-- The least number of two bytes, of which the highest bit is set. -/
theorem int_survives_negative :
    WireType.whole? .int2 = some (.signed 2) ∧ encode (.int (-32768)) .int2 = .ok (some [0x80, 0x00]) ∧
      decodeCell ⟨"n", .int2⟩ 0 (some [0x80, 0x00]) = .ok (.int (-32768)) ∧
      ∃ fault, encode (.int (-32769)) .int2 = .error fault := by
  have whole : WireType.whole? .int2 = some (.signed 2) := rfl
  have written : encode (.int (-32768)) .int2 = .ok (some [0x80, 0x00]) := by decide
  obtain ⟨bytes, encoded, _, decoded⟩ := (int_survives whole (-32768)).2 (by decide)
  cases encoded.symm.trans written
  refine ⟨whole, written, decoded "n" 0, ?_⟩
  exact (int_survives whole (-32769)).1.mpr (by decide)

end Postgres

end SqlProgram
