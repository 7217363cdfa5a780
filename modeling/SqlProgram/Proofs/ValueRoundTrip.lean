import SqlProgram.Value.Type

/-!
Values on their way to a database and back. A type of values that a column can hold decodes what it encodes, and an
optional one does so because nothing but the absent value is encoded as null.
-/

namespace SqlProgram.ValueType

def IsPlain : ValueType → Prop
  | .float32 | .any | .optional _ => False
  | _ => True

/-- The values of the type can be stored in a column, which may be one that can also be empty. -/
def IsStored (type : ValueType) : Prop := type.IsPlain ∨ ∃ inner : ValueType, inner.IsPlain ∧ type = .optional inner

theorem decodeInt_ofInt (name : String) {least greatest value : Int} (make : Int → α) (above : least ≤ value)
    (below : value ≤ greatest) (kept : (Int64.ofInt value).toInt = value) :
    decodeInt name least greatest make (.int (Int64.ofInt value)) = .ok (make value) := by
  rw [decodeInt, kept, if_pos ⟨above, below⟩]

theorem IsPlain.decode_encode {type : ValueType} (plain : type.IsPlain) (value : type.Carrier) :
    type.decode (type.encode value) = .ok value := by
  cases type with
  | int16 =>
    have above := Int16.le_toInt value
    have below := Int16.toInt_lt value
    have kept : (Int64.ofInt value.toInt).toInt = value.toInt := Int64.toInt_ofInt_of_le (by omega) (by omega)
    have read := decodeInt_ofInt "i16" Int16.ofInt (Int16.minValue_le_toInt value) (Int16.toInt_le value) kept
    exact read.trans (congrArg Except.ok (Int16.ofInt_toInt value))
  | int32 =>
    have above := Int32.le_toInt value
    have below := Int32.toInt_lt value
    have kept : (Int64.ofInt value.toInt).toInt = value.toInt := Int64.toInt_ofInt_of_le (by omega) (by omega)
    have read := decodeInt_ofInt "i32" Int32.ofInt (Int32.minValue_le_toInt value) (Int32.toInt_le value) kept
    exact read.trans (congrArg Except.ok (Int32.ofInt_toInt value))
  | uint32 =>
    have below := UInt32.toNat_lt value
    have greatest : (value.toNat : Int) ≤ UInt32.size - 1 := by
      have size : UInt32.size = 2 ^ 32 := rfl
      omega
    have kept : (Int64.ofInt value.toNat).toInt = value.toNat := Int64.toInt_ofInt_of_le (by omega) (by omega)
    have read := decodeInt_ofInt "u32" (fun number => UInt32.ofNat number.toNat) (Int.natCast_nonneg _) greatest kept
    exact read.trans (congrArg Except.ok UInt32.ofNat_toNat)
  | float32 | any | optional => exact plain.elim
  | bool | int64 | float64 | text | bytes | uuid | date | timestamp | instant | json => rfl

theorem IsPlain.encode_ne_null {type : ValueType} (plain : type.IsPlain) (value : type.Carrier) :
    type.encode value ≠ .null := by
  cases type with
  | float32 | any | optional => exact plain.elim
  | _ => exact nofun

theorem decode_optional (inner : ValueType) {value : Value} (present : value ≠ .null) :
    (ValueType.optional inner).decode value = (inner.decode value).map some := by
  cases value with
  | null => exact absurd rfl present
  | _ => rfl

theorem IsStored.decode_encode {type : ValueType} (stored : type.IsStored) (value : type.Carrier) :
    type.decode (type.encode value) = .ok value := by
  rcases stored with plain | ⟨inner, plain, rfl⟩
  · exact plain.decode_encode value
  · cases value with
    | none => rfl
    | some value =>
      have read := decode_optional inner (plain.encode_ne_null value)
      rw [plain.decode_encode value] at read
      exact read

end SqlProgram.ValueType
