import SqlProgram.Decimal.Reader
import SqlProgram.Json.Basic
import SqlProgram.Text.Hex

/-!
Reading interchange text. Values may be nested 127 deep. Numbers with a fraction are scaled by a
power of ten in double precision, from the digits that fit into sixty-four bits.
-/

namespace SqlProgram.Json

def wordMax : Nat := UInt64.size - 1

def isSpace (c : Char) : Bool := c == ' ' || c == '\n' || c == '\t' || c == '\r'

def skipSpace (text : List Char) : List Char := text.dropWhile isSpace

/-- The digits of a number read so far: those that fit, and the power of ten they lack. -/
structure Significand where
  digits : Nat
  exponent : Int
  full : Bool

namespace Significand

/-- A digit before the point; once one does not fit, all further ones only count. -/
def pushWhole (state : Significand) (c : Char) : Significand :=
  let next := 10 * state.digits + (c.toNat - '0'.toNat)
  if state.full || wordMax < next then ⟨state.digits, state.exponent + 1, true⟩
  else ⟨next, state.exponent, false⟩

/-- A digit after the point; once one does not fit, all further ones are dropped. -/
def pushPlace (state : Significand) (c : Char) : Significand :=
  let next := 10 * state.digits + (c.toNat - '0'.toNat)
  if state.full || wordMax < next then ⟨state.digits, state.exponent, true⟩
  else ⟨next, state.exponent - 1, false⟩

/-- The digits of both sides of the point; room is looked for afresh after it. -/
def ofDigits (whole places : List Char) : Significand :=
  let before := whole.foldl pushWhole ⟨0, 0, false⟩
  places.foldl pushPlace { before with full := false }

end Significand

/-- Scales by a power of ten, in steps where it has no double; none when the result is too large. -/
def scale (value : Float) (exponent : Int) : Nat → Option Float
  | 0 => some value
  | fuel + 1 =>
    if exponent.natAbs ≤ 308 then
      let power := Float.ofScientific 1 false exponent.natAbs
      if 0 ≤ exponent then
        let scaled := value * power
        if scaled.isInf then none else some scaled
      else some (value / power)
    else if value == 0.0 then some value
    else if 0 ≤ exponent then none
    else scale (value / Float.ofScientific 1 false 308) (exponent + 308) fuel

def readExponent? (text : List Char) : Option (Option Int × List Char) :=
  match text with
  | c :: rest =>
    if c = 'e' ∨ c = 'E' then
      let (negative, rest) := Decimal.splitSign rest
      let digits := rest.takeWhile Char.isDigit
      if digits.isEmpty then none
      else
        let value := Decimal.ofDigits digits
        some (some (if negative then -value else value), rest.dropWhile Char.isDigit)
    else some (none, text)
  | [] => some (none, [])

def readPlaces? (text : List Char) : Option (List Char × List Char) :=
  match text with
  | '.' :: rest =>
    let places := rest.takeWhile Char.isDigit
    if places.isEmpty then none else some (places, rest.dropWhile Char.isDigit)
  | _ => some ([], text)

/-- The value of a number from its parts. Without decimals and exponent it is whole, if it fits. -/
def numberOf? (negative : Bool) (whole places : List Char) (exponent? : Option Int) :
    Option Number :=
  let value := Decimal.ofDigits whole
  let float (magnitude : Float) : Number :=
    .float (.ofFloat (if negative then -magnitude else magnitude))
  if places.isEmpty ∧ exponent?.isNone ∧ value ≤ wordMax then
    if negative then
      if value = 0 ∨ -(value : Int) < Int64.minValue.toInt then
        some (float (UInt64.ofNat value).toFloat)
      else some (.whole (-value))
    else some (.whole value)
  else
    let exponent := exponent?.getD 0
    let significand := Significand.ofDigits whole places
    if 2147483647 < exponent.natAbs then
      if significand.digits ≠ 0 ∧ 0 < exponent then none else some (float 0.0)
    else (scale (UInt64.ofNat significand.digits).toFloat (significand.exponent + exponent) 8).map
      float

/-- A number and what follows it. Only zero begins with a zero. -/
def readNumber? (text : List Char) : Option (Number × List Char) := do
  let (negative, body) := match text with
    | '-' :: rest => (true, rest)
    | rest => (false, rest)
  let whole := body.takeWhile Char.isDigit
  let rest := body.dropWhile Char.isDigit
  if whole.isEmpty || (whole.head? == some '0' && 1 < whole.length) then failure
  let (places, rest) ← readPlaces? rest
  let (exponent, tail) ← readExponent? rest
  let number ← numberOf? negative whole places exponent
  return (number, tail)

def readUnit? : List Char → Option (Nat × List Char)
  | a :: b :: c :: d :: rest => do
    let a ← Text.Hex.value? a
    let b ← Text.Hex.value? b
    let c ← Text.Hex.value? c
    let d ← Text.Hex.value? d
    return (((a * 16 + b) * 16 + c) * 16 + d, rest)
  | _ => none

/-- The character of an escaped unit, with the second one of a pair, and what follows. -/
def readEscapedUnit? (text : List Char) : Option (Char × List Char) := do
  let (unit, rest) ← readUnit? text
  if 0xD800 ≤ unit ∧ unit ≤ 0xDBFF then
    match rest with
    | '\\' :: 'u' :: rest =>
      let (second, rest) ← readUnit? rest
      if 0xDC00 ≤ second ∧ second ≤ 0xDFFF then
        return (Char.ofNat (0x10000 + (unit - 0xD800) * 0x400 + (second - 0xDC00)), rest)
      else none
    | _ => none
  else if 0xDC00 ≤ unit ∧ unit ≤ 0xDFFF then none
  else return (Char.ofNat unit, rest)

def readEscape? : List Char → Option (Char × List Char)
  | '"' :: rest => some ('"', rest)
  | '\\' :: rest => some ('\\', rest)
  | '/' :: rest => some ('/', rest)
  | 'b' :: rest => some (Char.ofNat 8, rest)
  | 'f' :: rest => some (Char.ofNat 12, rest)
  | 'n' :: rest => some ('\n', rest)
  | 'r' :: rest => some ('\r', rest)
  | 't' :: rest => some ('\t', rest)
  | 'u' :: rest => readEscapedUnit? rest
  | _ => none

/-- The rest of a string after its opening quote, collected backwards, and what follows it. -/
def readString? (fuel : Nat) (text : List Char) (read : List Char) : Option (String × List Char) :=
  match fuel, text with
  | fuel + 1, c :: rest =>
    if c = '"' then some (String.ofList read.reverse, rest)
    else if c = '\\' then
      match readEscape? rest with
      | some (escaped, rest) => readString? fuel rest (escaped :: read)
      | none => none
    else if c.toNat < 32 then none
    else readString? fuel rest (c :: read)
  | _, _ => none

def afterWord? (word text : List Char) : Option (List Char) :=
  if word.isPrefixOf text then some (text.drop word.length) else none

mutual

/-- A value at the beginning of a text without leading blanks, and what follows it; `fuel` is more
than there are characters. -/
def readValue? (fuel depth : Nat) (text : List Char) : Option (Json × List Char) :=
  match fuel with
  | 0 => none
  | fuel + 1 =>
    match text with
    | [] => none
    | c :: rest =>
      if c = 'n' then (afterWord? ['u', 'l', 'l'] rest).map fun rest => (.null, rest)
      else if c = 't' then (afterWord? ['r', 'u', 'e'] rest).map fun rest => (.bool true, rest)
      else if c = 'f' then
        (afterWord? ['a', 'l', 's', 'e'] rest).map fun rest => (.bool false, rest)
      else if c = '"' then
        (readString? fuel rest []).map fun (value, rest) => (.text value, rest)
      else if c = '[' then
        if depth ≤ 1 then none
        else match skipSpace rest with
          | ']' :: rest => some (.array [], rest)
          | rest => readItems? fuel (depth - 1) rest []
      else if c.toNat = 123 then
        if depth ≤ 1 then none
        else match skipSpace rest with
          | [] => none
          | d :: rest =>
            if d.toNat = 125 then some (.object [], rest)
            else readFields? fuel (depth - 1) (d :: rest) []
      else (readNumber? text).map fun (value, rest) => (.number value, rest)

def readItems? (fuel depth : Nat) (text : List Char) (read : List Json) :
    Option (Json × List Char) :=
  match fuel with
  | 0 => none
  | fuel + 1 =>
    match readValue? fuel depth (skipSpace text) with
    | none => none
    | some (item, rest) =>
      match skipSpace rest with
      | ',' :: rest => readItems? fuel depth rest (item :: read)
      | ']' :: rest => some (.array (item :: read).reverse, rest)
      | _ => none

def readFields? (fuel depth : Nat) (text : List Char) (read : List (String × Json)) :
    Option (Json × List Char) :=
  match fuel with
  | 0 => none
  | fuel + 1 =>
    match skipSpace text with
    | '"' :: rest =>
      match readString? fuel rest [] with
      | none => none
      | some (key, rest) =>
        match skipSpace rest with
        | ':' :: rest =>
          match readValue? fuel depth (skipSpace rest) with
          | none => none
          | some (value, rest) =>
            match skipSpace rest with
            | ',' :: rest => readFields? fuel depth rest (insertField key value read)
            | c :: rest =>
              if c.toNat = 125 then some (.object (insertField key value read), rest) else none
            | [] => none
        | _ => none
    | _ => none

end

def ofText? (text : List Char) : Option Json :=
  match readValue? (2 * text.length + 1) 128 (skipSpace text) with
  | some (value, rest) => if (skipSpace rest).isEmpty then some value else none
  | none => none

end SqlProgram.Json
