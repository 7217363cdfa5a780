import SqlProgram.Text.Hex
import SqlProgram.Text.Printable

/-!
Text between double quotes as it is shown to a programmer: what cannot be seen is escaped.
-/

namespace SqlProgram.Text.Escaped

def char (c : Char) : List Char :=
  if c = '"' then ['\\', '"']
  else if c = '\\' then ['\\', '\\']
  else if c = '\n' then ['\\', 'n']
  else if c = '\t' then ['\\', 't']
  else if c = '\r' then ['\\', 'r']
  else if c.toNat = 0 then ['\\', '0']
  else if isPrintable c then [c]
  else '\\' :: 'u' :: Char.ofNat 123 :: (Hex.ofNat c.toNat ++ [Char.ofNat 125])

def enclose (text : String) : String :=
  String.ofList ('"' :: (text.toList.flatMap char ++ ['"']))

end SqlProgram.Text.Escaped
