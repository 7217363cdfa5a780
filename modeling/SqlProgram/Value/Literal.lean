import SqlProgram.Text.Quoted
import SqlProgram.Value.Basic

/-!
Values written into the text of a statement.
-/

namespace SqlProgram.Value

def quoteText (text : List Char) : List Char := Text.Quoted.enclose '\'' text

/-- The literal of a value. Bytes are written in hexadecimal after a backslash and an x. -/
def literal : Value → List Char
  | .null => "null".toList
  | .bool value => (boolText value).toList
  | .int value => (toString value.toInt).toList
  | .float value => (binaryText value.binary).toList
  | .text value => quoteText value.toList
  | .bytes value => quoteText ('\\' :: 'x' :: Text.Hex.encode value)
  | .uuid value => quoteText value.chars
  | .date value => quoteText value.chars
  | .timestamp value => quoteText (value.chars ' ')
  | .json value => quoteText value.chars

end SqlProgram.Value
