import SqlProgram.Value.Basic

/-!
The types that programs give to columns and parameters, and the values that stand for them. Null
stands for the absent value of an optional type only.
-/

namespace SqlProgram

inductive ValueType where
  | bool
  | int16
  | int32
  | int64
  | uint32
  | float32
  | float64
  | text
  | bytes
  | uuid
  | date
  | timestamp
  /-- A moment in universal time. -/
  | instant
  | json
  /-- Any value, as it is. -/
  | any
  | optional (inner : ValueType)
  deriving DecidableEq

inductive Mismatch where
  | kind (expected : String) (found : Value)
  | range (value : Int64) (type : String)
  | uuid (fault : Uuid.Fault)

def Mismatch.message : Mismatch → String
  | .kind expected found => s!"expected {expected}, found {found.kind}"
  | .range value type => s!"{value.toInt} is out of range for {type}"
  | .uuid fault => fault.message

namespace ValueType

/-- What a program computes with. -/
def Carrier : ValueType → Type
  | .bool => Bool
  | .int16 => Int16
  | .int32 => Int32
  | .int64 => Int64
  | .uint32 => UInt32
  | .float32 => Single
  | .float64 => Double
  | .text => String
  | .bytes => Bytes
  | .uuid => Uuid
  | .date => Calendar.Date
  | .timestamp => Calendar.Timestamp
  | .instant => Calendar.Timestamp
  | .json => Json
  | .any => Value
  | .optional inner => Option inner.Carrier

def encode : (type : ValueType) → type.Carrier → Value
  | .bool, (value : Bool) => .bool value
  | .int16, (value : Int16) => .int (Int64.ofInt value.toInt)
  | .int32, (value : Int32) => .int (Int64.ofInt value.toInt)
  | .int64, (value : Int64) => .int value
  | .uint32, (value : UInt32) => .int (Int64.ofInt value.toNat)
  | .float32, (value : Single) => .float value.toDouble
  | .float64, (value : Double) => .float value
  | .text, (value : String) => .text value
  | .bytes, (value : Bytes) => .bytes value
  | .uuid, (value : Uuid) => .uuid value
  | .date, (value : Calendar.Date) => .date value
  | .timestamp, (value : Calendar.Timestamp) => .timestamp value
  | .instant, (value : Calendar.Timestamp) => .timestamp value
  | .json, (value : Json) => .json value
  | .any, (value : Value) => value
  | .optional inner, (value : Option inner.Carrier) =>
    match value with
    | none => .null
    | some value => inner.encode value

def decodeInt (name : String) (least greatest : Int) (make : Int → α) :
    Value → Except Mismatch α
  | .int value =>
    if least ≤ value.toInt ∧ value.toInt ≤ greatest then .ok (make value.toInt)
    else .error (.range value name)
  | other => .error (.kind name other)

/-- A number of double precision; whole numbers are rounded. -/
def decodeFloat : Value → Except Mismatch Double
  | .float value => .ok value
  | .int value => .ok (.ofInt value.toInt)
  | other => .error (.kind "f64" other)

def decodeTimestamp : Value → Except Mismatch Calendar.Timestamp
  | .timestamp value => .ok value
  | other => .error (.kind "timestamp" other)

/-- What a value stands for among a type. -/
def decode : (type : ValueType) → Value → Except Mismatch type.Carrier
  | .bool, .bool value => .ok value
  | .bool, other => .error (.kind "bool" other)
  | .int16, value => decodeInt "i16" Int16.minValue.toInt Int16.maxValue.toInt Int16.ofInt value
  | .int32, value => decodeInt "i32" Int32.minValue.toInt Int32.maxValue.toInt Int32.ofInt value
  | .int64, .int value => .ok value
  | .int64, other => .error (.kind "i64" other)
  | .uint32, value => decodeInt "u32" 0 (UInt32.size - 1) (fun value => UInt32.ofNat value.toNat) value
  | .float32, value => (decodeFloat value).map Double.toSingle
  | .float64, value => decodeFloat value
  | .text, .text value => .ok value
  | .text, other => .error (.kind "text" other)
  | .bytes, .bytes value => .ok value
  | .bytes, other => .error (.kind "bytes" other)
  | .uuid, .uuid value => .ok value
  | .uuid, .text value => (Uuid.ofText value).mapError .uuid
  | .uuid, other => .error (.kind "uuid" other)
  | .date, .date value => .ok value
  | .date, other => .error (.kind "date" other)
  | .timestamp, value => decodeTimestamp value
  | .instant, value => decodeTimestamp value
  | .json, .json value => .ok value
  | .json, .null => .ok Json.null
  | .json, other => .error (.kind "json" other)
  | .any, value => .ok value
  | .optional _, .null => .ok none
  | .optional inner, value => (inner.decode value).map some

end ValueType

end SqlProgram
