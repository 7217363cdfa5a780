import SqlProgram.Calendar.Timestamp
import SqlProgram.Decimal.Layout
import SqlProgram.Json.Printer
import SqlProgram.Uuid

/-!
The values that statements bind and rows carry, whatever the database.
-/

namespace SqlProgram

abbrev Bytes := List UInt8

inductive Value where
  | null
  | bool (value : Bool)
  | int (value : Int64)
  | float (value : Double)
  | text (value : String)
  | bytes (value : Bytes)
  | uuid (value : Uuid)
  | date (value : Calendar.Date)
  | timestamp (value : Calendar.Timestamp)
  | json (value : Json)

namespace Value

instance : Inhabited Value := ⟨.null⟩

def isNull : Value → Bool
  | .null => true
  | _ => false

def kind : Value → String
  | .null => "null"
  | .bool _ => "bool"
  | .int _ => "int"
  | .float _ => "float"
  | .text _ => "text"
  | .bytes _ => "bytes"
  | .uuid _ => "uuid"
  | .date _ => "date"
  | .timestamp _ => "timestamp"
  | .json _ => "json"

/-- Numbers show the fewest digits, always positionally, and no point if they are whole. -/
def floatLayout : Decimal.Layout := ⟨none, false, false, .upper⟩

def binaryText : Decimal.Binary → String
  | .nan _ => "NaN"
  | .infinite negative => if negative then "-inf" else "inf"
  | .finite negative magnitude => String.ofList (floatLayout.writeBinary negative magnitude)

def boolText (value : Bool) : String := if value then "true" else "false"

/-- The text of a value in messages: text is quoted as it is, bytes are only counted. -/
def display : Value → String
  | .null => "null"
  | .bool value => boolText value
  | .int value => toString value.toInt
  | .float value => binaryText value.binary
  | .text value => "'" ++ value ++ "'"
  | .bytes value => s!"<{value.length} bytes>"
  | .uuid value => value.text
  | .date value => value.text
  | .timestamp value => value.text
  | .json value => value.toText

end Value

end SqlProgram
