/-!
Text as UTF-8 bytes: its length, a cut that never splits a character, and the way back.
-/

namespace SqlProgram.Text.Utf8

def encode (text : String) : List UInt8 := text.toUTF8.toList

def decode? (bytes : List UInt8) : Option String :=
  String.fromUTF8? (ByteArray.mk bytes.toArray)

/-- The longest beginning of at most `limit` bytes. -/
def takeBytes (limit : Nat) : List Char → List Char
  | [] => []
  | c :: rest => if c.utf8Size ≤ limit then c :: takeBytes (limit - c.utf8Size) rest else []

end SqlProgram.Text.Utf8
