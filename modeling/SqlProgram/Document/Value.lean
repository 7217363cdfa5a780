import SqlProgram.Document.Basic
import SqlProgram.Parameter
import SqlProgram.Row.Basic

/-!
Values, their types and rows of them in documents. What has no form of its own in the interchange
format is an object that names its kind.
-/

namespace SqlProgram.Document

def typeOfName? (name : String) : Option ValueType :=
  match name with
  | "bool" => some .bool
  | "i16" => some .int16
  | "i32" => some .int32
  | "i64" => some .int64
  | "u32" => some .uint32
  | "f32" => some .float32
  | "f64" => some .float64
  | "string" | "str" => some .text
  | "bytes" | "bytes_buf" => some .bytes
  | "uuid" => some .uuid
  | "date" => some .date
  | "timestamp" => some .timestamp
  | "timestamptz" => some .instant
  | "json" => some .json
  | "value" => some .any
  | _ => none

/-- A type after any number of marks that it is optional. -/
def typeOfChars? : List Char → Option ValueType
  | 'o' :: 'p' :: 't' :: ':' :: rest => (typeOfChars? rest).map .optional
  | name => typeOfName? (String.ofList name)

def typeOf (json : Json) : Reading ValueType := do
  let name ← textOf json
  required s!"unknown type {name}" (typeOfChars? name.toList)

def typeField (key : String) (json : Json) : Reading ValueType := do typeOf (← field key json)

def doubleOf (json : Json) : Reading Double := do
  required "number expected" (Double.ofText? (← textField "float" json))

def singleOf (json : Json) : Reading Single := do
  required "number expected" (Single.ofText? (← textField "float" json))

def bytesOfHex (text : String) : Reading Bytes :=
  required "hexadecimal expected" (Text.Hex.decode? text.toList)

def bytesOf (json : Json) : Reading Bytes := do bytesOfHex (← textField "bytes" json)

def uuidOf (json : Json) : Reading Uuid := do
  required "identifier expected" (Uuid.ofText (← textField "uuid" json)).toOption

def dateOf (json : Json) : Reading Calendar.Date := do
  required "date expected" (Calendar.Date.ofText? (← textField "date" json))

def timestampOf (json : Json) : Reading Calendar.Timestamp := do
  required "timestamp expected" (Calendar.Timestamp.ofText? (← textField "timestamp" json))

def valueOf (json : Json) : Reading Value := do
  match json with
  | .null => return .null
  | .bool value => return .bool value
  | .number (.whole value) => return .int (Int64.ofInt value)
  | .text value => return .text value
  | .object [("float", _)] => return .float (← doubleOf json)
  | .object [("bytes", _)] => return .bytes (← bytesOf json)
  | .object [("uuid", _)] => return .uuid (← uuidOf json)
  | .object [("date", _)] => return .date (← dateOf json)
  | .object [("timestamp", _)] => return .timestamp (← timestampOf json)
  | .object [("json", inner)] => return .json inner
  | _ => malformed "value expected"

def carrierOf : (type : ValueType) → Json → Reading type.Carrier
  | .bool, json => boolOf json
  | .int16, json => return Int16.ofInt (← intOf json)
  | .int32, json => return Int32.ofInt (← intOf json)
  | .int64, json => return Int64.ofInt (← intOf json)
  | .uint32, json => return UInt32.ofNat (← natOf json)
  | .float32, json => singleOf json
  | .float64, json => doubleOf json
  | .text, json => textOf json
  | .bytes, json => bytesOf json
  | .uuid, json => uuidOf json
  | .date, json => dateOf json
  | .timestamp, json => timestampOf json
  | .instant, json => timestampOf json
  | .json, json => field "json" json
  | .any, json => valueOf json
  | .optional _, .null => return none
  | .optional inner, json => return some (← carrierOf inner json)

def ofBytes (bytes : Bytes) : Json := .text (String.ofList (Text.Hex.encode bytes))

def ofValue : Value → Json
  | .null => .null
  | .bool value => .bool value
  | .int value => .ofInt value.toInt
  | .float value => tagged "float" (.text (Value.binaryText value.binary))
  | .text value => .text value
  | .bytes value => tagged "bytes" (ofBytes value)
  | .uuid value => tagged "uuid" (.text value.text)
  | .date value => tagged "date" (.text value.text)
  | .timestamp value => tagged "timestamp" (.text value.isoText)
  | .json value => tagged "json" value

/-- Something of a type; numbers of single precision show their own digits, and moments in universal
time are told from those without a zone. -/
def ofCarrier : (type : ValueType) → type.Carrier → Json
  | .float32, (value : Single) => tagged "float" (.text (Value.binaryText value.binary))
  | .instant, (value : Calendar.Timestamp) => tagged "timestamptz" (.text value.isoText)
  | .optional inner, (value : Option inner.Carrier) => ofOption (ofCarrier inner) value
  | type, value => ofValue (type.encode value)

def ofValues (values : List Value) : Json := .array (values.map ofValue)

def valuesOf (json : Json) : Reading (List Value) := do (← listOf json).mapM valueOf

def parameterOf (json : Json) : Reading Parameter := do
  match json.field? "scalar", json.field? "list", json.field? "between" with
  | some type, _, _ =>
    let type ← typeOf type
    return .ofScalar type (← carrierOf type (← field "v" json))
  | _, some type, _ =>
    let type ← typeOf type
    return .ofList type (← (← listOf (← field "v" json)).mapM (carrierOf type))
  | _, _, some type =>
    let type ← typeOf type
    return .ofRange type (← carrierOf type (← field "low" json))
      (← carrierOf type (← field "high" json))
  | _, _, _ => malformed "parameter expected"

/-- A column: its name, or its name with its type and whether it may be null. -/
def columnOf (json : Json) : Reading ColumnInfo := do
  match json with
  | .text name => return ⟨name, "text", none⟩
  | .array (.text name :: rest) =>
    let typeName := match rest with
      | .text typeName :: _ => typeName
      | _ => "text"
    let nullable := match rest with
      | [_, .bool nullable] => some nullable
      | _ => none
    return ⟨name, typeName, nullable⟩
  | _ => malformed "column expected"

def layoutOf (json : Json) : Reading RowLayout := do
  return ⟨← (← listOf json).mapM columnOf⟩

def ofColumn (column : ColumnInfo) : Json :=
  .array [.text column.name, .text column.typeName, ofOption .bool column.nullable]

def ofLayout (layout : RowLayout) : Json := .array (layout.columns.map ofColumn)

def ofRow (row : Row) : Json := ofValues row.values

end SqlProgram.Document
