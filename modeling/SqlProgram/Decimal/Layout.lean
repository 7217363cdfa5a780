import SqlProgram.Decimal.Shortest

/-!
How the digits of a number are laid out as text: positionally, or with one digit before the point
and an exponent.
-/

namespace SqlProgram.Decimal

structure Layout where
  /-- The numbers written positionally, by their count of places; all of them if absent. -/
  positional : Option (Int × Int)
  /-- Whole numbers end in `.0`. -/
  pointed : Bool
  /-- Exponents that are not negative carry a plus sign. -/
  signed : Bool
  /-- Which of two equally near digits is written last. -/
  tie : Tie

namespace Layout

def zeros (count : Nat) : List Char := List.replicate count '0'

def writePositional (layout : Layout) (digits : List Char) (places : Int) : List Char :=
  if places ≤ 0 then '0' :: '.' :: (zeros (-places).toNat ++ digits)
  else
    let whole := places.toNat
    if digits.length ≤ whole then
      digits ++ zeros (whole - digits.length) ++ if layout.pointed then ['.', '0'] else []
    else digits.take whole ++ '.' :: digits.drop whole

/-- One digit, the others after a point, and the exponent. -/
def writeExponent (layout : Layout) (digits : List Char) (places : Int) : List Char :=
  let point := if digits.length ≤ 1 then digits else digits.take 1 ++ '.' :: digits.drop 1
  let exponent := places - 1
  let sign := if exponent < 0 then ['-'] else if layout.signed then ['+'] else []
  point ++ 'e' :: (sign ++ Nat.toDigits 10 exponent.natAbs)

def write (layout : Layout) (number : Scientific) : List Char :=
  if number.digits = 0 then if layout.pointed then ['0', '.', '0'] else ['0']
  else
    let digits := Nat.toDigits 10 number.digits
    let places := number.places
    match layout.positional with
    | none => layout.writePositional digits places
    | some (least, greatest) =>
      if least ≤ places ∧ places ≤ greatest then layout.writePositional digits places
      else layout.writeExponent digits places

/-- The shortest text of a binary magnitude, after a minus if it is negative. -/
def writeBinary (layout : Layout) (negative : Bool) (magnitude : Magnitude) : List Char :=
  (if negative then ['-'] else []) ++ layout.write (magnitude.shortest layout.tie)

end Layout

end SqlProgram.Decimal
