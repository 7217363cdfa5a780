import SqlProgram.Decimal.Binary

/-!
Decimal numbers as text: an optional sign, digits with an optional point, an optional exponent; or
one of the names of the numbers that are not finite.
-/

namespace SqlProgram.Decimal

def ofDigits (digits : List Char) : Nat :=
  digits.foldl (fun value c => 10 * value + (c.toNat - '0'.toNat)) 0

/-- An unsigned number of at most `limit`: digits after an optional plus sign. -/
def readUnsigned? (limit : Nat) (text : List Char) : Option Nat :=
  let digits := match text with
    | '+' :: rest => rest
    | rest => rest
  if digits.isEmpty || !digits.all Char.isDigit then none
  else if ofDigits digits ≤ limit then some (ofDigits digits) else none

/-- The sign of a text, true for a minus, and what follows it. -/
def splitSign : List Char → Bool × List Char
  | '-' :: rest => (true, rest)
  | '+' :: rest => (false, rest)
  | rest => (false, rest)

def readInt? (text : List Char) : Option Int :=
  let (negative, digits) := splitSign text
  if digits.isEmpty || !digits.all Char.isDigit then none
  else some (if negative then -(ofDigits digits : Int) else ofDigits digits)

def readSigned? (least greatest : Int) (text : List Char) : Option Int :=
  (readInt? text).filter fun value => least ≤ value && value ≤ greatest

def Format.read? (format : Format) (text : String) : Option Nat :=
  let (negative, body) := splitSign text.toList
  match (String.ofList body).toLower with
  | "nan" => some (format.signed negative format.nan)
  | "inf" | "infinity" => some (format.signed negative format.infinity)
  | _ =>
    let whole := body.takeWhile Char.isDigit
    let rest := body.dropWhile Char.isDigit
    let (places, rest) := match rest with
      | '.' :: rest => (rest.takeWhile Char.isDigit, rest.dropWhile Char.isDigit)
      | rest => ([], rest)
    let exponent? := match rest with
      | [] => some (0 : Int)
      | c :: rest => if c == 'e' || c == 'E' then readInt? rest else none
    if whole.isEmpty && places.isEmpty then none
    else exponent?.map fun exponent =>
      format.signed negative (format.ofDecimal (ofDigits (whole ++ places)) (exponent - places.length))

end SqlProgram.Decimal
