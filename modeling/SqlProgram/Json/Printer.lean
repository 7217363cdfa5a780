import SqlProgram.Decimal.Layout
import SqlProgram.Json.Basic
import SqlProgram.Text.Hex

/-!
The compact text of interchange values: no blanks, and only quotes, backslashes and control
characters escaped.
-/

namespace SqlProgram.Json

/-- Numbers with a fraction show the fewest digits, with a point, positionally from five decimals to
sixteen places. -/
def floatLayout : Decimal.Layout := ⟨some (-4, 16), true, true, .even⟩

/-- A number; one that is not finite has no text of its own and is written `null`. -/
def Number.chars : Number → List Char
  | .whole value => (toString value).toList
  | .float value =>
    match value.binary with
    | .finite negative magnitude => floatLayout.writeBinary negative magnitude
    | _ => ['n', 'u', 'l', 'l']

def escapeChar (c : Char) : List Char :=
  if c = '"' then ['\\', '"']
  else if c = '\\' then ['\\', '\\']
  else if c = '\n' then ['\\', 'n']
  else if c = '\t' then ['\\', 't']
  else if c = '\r' then ['\\', 'r']
  else if c.toNat = 8 then ['\\', 'b']
  else if c.toNat = 12 then ['\\', 'f']
  else if c.toNat < 32 then
    '\\' :: 'u' :: '0' :: '0' :: Text.Hex.digit (c.toNat / 16) :: [Text.Hex.digit (c.toNat % 16)]
  else [c]

def quote (text : String) : List Char := '"' :: (text.toList.flatMap escapeChar ++ ['"'])

mutual

def chars : Json → List Char
  | .null => ['n', 'u', 'l', 'l']
  | .bool true => ['t', 'r', 'u', 'e']
  | .bool false => ['f', 'a', 'l', 's', 'e']
  | .number value => value.chars
  | .text value => quote value
  | .array [] => ['[', ']']
  | .array (item :: items) => '[' :: (chars item ++ itemChars items)
  | .object [] => [Char.ofNat 123, Char.ofNat 125]
  | .object ((key, value) :: fields) =>
    Char.ofNat 123 :: (quote key ++ ':' :: (chars value ++ fieldChars fields))

/-- The items after the first, to the closing bracket. -/
def itemChars : List Json → List Char
  | [] => [']']
  | item :: items => ',' :: (chars item ++ itemChars items)

def fieldChars : List (String × Json) → List Char
  | [] => [Char.ofNat 125]
  | (key, value) :: fields => ',' :: (quote key ++ ':' :: (chars value ++ fieldChars fields))

end

def toText (value : Json) : String := String.ofList value.chars

end SqlProgram.Json
