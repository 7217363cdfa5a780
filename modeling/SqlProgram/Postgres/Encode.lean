import SqlProgram.Binary.BigEndian
import SqlProgram.Json.Printer
import SqlProgram.Postgres.WireType
import SqlProgram.Text.Utf8
import SqlProgram.Value.Basic

/-!
Values as the server reads them: binary, with whole numbers narrowed to the type of the parameter.
-/

namespace SqlProgram.Postgres

inductive EncodeFault where
  | mismatch (kind : String) (type : WireType)
  | tooLarge
  | tooSmall
  deriving DecidableEq

def EncodeFault.message : EncodeFault → String
  | .mismatch kind type => s!"cannot bind {kind} value to parameter of type {type.typeName}"
  | .tooLarge => "number too large to fit in target type"
  | .tooSmall => "number too small to fit in target type"

def encodeWhole (width : Nat) (least greatest value : Int) : Except EncodeFault Bytes :=
  if value < least then .error .tooSmall
  else if greatest < value then .error .tooLarge
  else .ok (Binary.BigEndian.ofInt width value)

def singleBytes (value : Single) : Bytes := Binary.BigEndian.ofNat 4 value.bits.toNat

def doubleBytes (value : Double) : Bytes := Binary.BigEndian.ofNat 8 value.bits.toNat

def textBytes (text : String) : Bytes := Text.Utf8.encode text

/-- The bytes of a value for a parameter of a type; null has none. -/
def encode (value : Value) (type : WireType) : Except EncodeFault (Option Bytes) :=
  match value with
  | .null => .ok none
  | value => (bytes value type).map some
where
  bytes (value : Value) (type : WireType) : Except EncodeFault Bytes :=
    let refused : Except EncodeFault Bytes := .error (.mismatch value.kind type)
    match value with
    | .null => refused
    | .bool value => if type = .bool then .ok [if value then 1 else 0] else refused
    | .int value =>
      match type with
      | .int2 => encodeWhole 2 Int16.minValue.toInt Int16.maxValue.toInt value.toInt
      | .int4 => encodeWhole 4 Int32.minValue.toInt Int32.maxValue.toInt value.toInt
      | .oid => encodeWhole 4 0 (UInt32.size - 1) value.toInt
      | .float4 => .ok (singleBytes (.ofInt value.toInt))
      | .float8 => .ok (doubleBytes (.ofInt value.toInt))
      | .int8 => .ok (Binary.BigEndian.ofInt 8 value.toInt)
      | _ => refused
    | .float value =>
      match type with
      | .float4 => .ok (singleBytes value.toSingle)
      | .float8 => .ok (doubleBytes value)
      | _ => refused
    | .text value => if type.isTextual then .ok (textBytes value) else refused
    | .bytes value => if type = .bytea then .ok value else refused
    | .uuid value => if type = .uuid then .ok value.bytes else refused
    | .date value => if type = .date then .ok (Binary.BigEndian.ofInt 4 value.day) else refused
    | .timestamp value =>
      if type = .timestamp || type = .timestamptz then
        .ok (Binary.BigEndian.ofInt 8 value.micros)
      else refused
    | .json value =>
      match type with
      | .json => .ok (textBytes value.toText)
      | .jsonb => .ok (1 :: textBytes value.toText)
      | _ => refused

end SqlProgram.Postgres
