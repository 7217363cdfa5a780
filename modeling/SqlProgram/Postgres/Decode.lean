import SqlProgram.Json.Reader
import SqlProgram.Outcome
import SqlProgram.Postgres.Numeric
import SqlProgram.Postgres.WireType
import SqlProgram.Row.Basic

/-!
Rows as the server sends them, read into values by the types of their columns.
-/

namespace SqlProgram.Postgres

structure WireColumn where
  name : String
  type : WireType

/-- A cell of a row; null has no bytes. -/
abbrev Cell := Option Bytes

def decodeWhole? (width : Nat) (bytes : Bytes) : Option Int :=
  if bytes.length = width then some (Binary.BigEndian.toInt bytes) else none

def decodeBits? (width : Nat) (bytes : Bytes) : Option Nat :=
  if bytes.length = width then some (Binary.BigEndian.toNat bytes) else none

def decodeJson? (bytes : Bytes) : Option Json :=
  (Text.Utf8.decode? bytes).bind fun text => Json.ofText? text.toList

def intValue (value : Int) : Value := .int (Int64.ofInt value)

/-- Reading that cannot panic. -/
def plainly (read : Bytes → Option Value) : Option (Bytes → Outcome (Option Value)) :=
  some fun bytes => .ok (read bytes)

/-- How the bytes of a type are read; some types have no values. -/
def reader? : WireType → Option (Bytes → Outcome (Option Value))
  | .bool => plainly fun
    | [byte] => some (.bool (byte != 0))
    | _ => none
  | .int2 => plainly fun bytes => (decodeWhole? 2 bytes).map intValue
  | .int4 => plainly fun bytes => (decodeWhole? 4 bytes).map intValue
  | .int8 => plainly fun bytes => (decodeWhole? 8 bytes).map intValue
  | .oid => plainly fun bytes => (decodeBits? 4 bytes).map fun value => intValue value
  | .float4 => plainly fun bytes =>
    (decodeBits? 4 bytes).map fun bits => .float (Single.ofPattern bits).toDouble
  | .float8 => plainly fun bytes =>
    (decodeBits? 8 bytes).map fun bits => .float (.ofPattern bits)
  | .numeric => some Numeric.read
  | .text | .varchar | .bpchar | .name | .unknown => plainly fun bytes =>
    (Text.Utf8.decode? bytes).map .text
  | .bytea => plainly fun bytes => some (.bytes bytes)
  | .uuid => plainly fun bytes => (Uuid.ofBytes? bytes).map .uuid
  | .date => plainly fun bytes =>
    ((decodeWhole? 4 bytes).bind Calendar.Date.ofDay?).map .date
  | .timestamp | .timestamptz => plainly fun bytes =>
    ((decodeWhole? 8 bytes).bind Calendar.Timestamp.ofMicros?).map .timestamp
  | .json => plainly fun bytes => (decodeJson? bytes).map .json
  | .jsonb => plainly fun
    | 1 :: bytes => (decodeJson? bytes).map .json
    | _ => none
  | .other _ => none

/-- The value of one cell. A type without values is refused whatever the cell holds. -/
def decodeCell (column : WireColumn) (index : Nat) (cell : Cell) : Outcome Value :=
  match reader? column.type with
  | none => .failed (.decode column.name (.unsupported column.type.typeName))
  | some read =>
    match cell with
    | none => .ok .null
    | some bytes =>
      (read bytes).bind fun
        | some value => .ok value
        | none => .failed (.decode column.name (.malformed index))

def decodeCells (cells : List Cell) (index : Nat) : List WireColumn → Outcome (List Value)
  | [] => .ok []
  | column :: rest =>
    let value : Outcome Value := match cells[index]?, reader? column.type with
      | none, some _ => .panicked (.outOfBounds cells.length index)
      | cell, _ => decodeCell column index cell.join
    value.bind fun value => (decodeCells cells (index + 1) rest).map (value :: ·)

def layoutOf (columns : List WireColumn) : RowLayout :=
  ⟨columns.map fun column => ⟨column.name, column.type.typeName, none⟩⟩

def decodeRow (columns : List WireColumn) (cells : List Cell) : Outcome Row :=
  (decodeCells cells 0 columns).bind fun values => .ofExcept (Row.ofValues (layoutOf columns) values)

end SqlProgram.Postgres
