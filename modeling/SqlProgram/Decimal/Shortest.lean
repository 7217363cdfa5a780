import SqlProgram.Decimal.Binary

/-!
The fewest decimal digits that read back as a given binary number. Of two decimals with that many
digits the nearer one is taken; a tie goes to the upper one or to the even one.
-/

namespace SqlProgram.Decimal

inductive Tie where
  | upper
  | even

/-- The number `digits * 10 ^ exponent`. -/
structure Scientific where
  digits : Nat
  exponent : Int
  deriving DecidableEq

namespace Scientific

def normalize (digits : Nat) (exponent : Int) : Scientific :=
  if digits = 0 then ⟨0, 0⟩
  else if digits % 10 = 0 then normalize (digits / 10) (exponent + 1)
  else ⟨digits, exponent⟩
termination_by digits

/-- How many digits stand before the point, or, if not positive, how many zeros after it. -/
def places (number : Scientific) : Int :=
  (Nat.toDigits 10 number.digits).length + number.exponent

end Scientific

/-- A number and the interval of numbers that read back as it, over one denominator. -/
structure Rounding where
  low : Nat
  value : Nat
  high : Nat
  denominator : Nat
  closed : Bool

/-- The interval is cut half way to either neighbour; ties read as the even mantissa. -/
def Magnitude.rounding (magnitude : Magnitude) : Rounding :=
  let unit := magnitude.exponent - 2
  let scale := Nat.pow 2 unit.toNat
  let below := if magnitude.tight then 1 else 2
  { low := (4 * magnitude.mantissa - below) * scale
    value := 4 * magnitude.mantissa * scale
    high := (4 * magnitude.mantissa + 2) * scale
    denominator := Nat.pow 2 (-unit).toNat
    closed := magnitude.mantissa % 2 == 0 }

namespace Rounding

/-- The least number of decimal places at which a number below one shows a digit. -/
def zeros (number denominator : Nat) : Nat → Nat
  | 0 => 0
  | fuel + 1 => if denominator ≤ number then 0 else zeros (10 * number) denominator fuel + 1

def places (rounding : Rounding) : Int :=
  if rounding.denominator ≤ rounding.value then
    (Nat.toDigits 10 (rounding.value / rounding.denominator)).length
  else 1 - (zeros rounding.value rounding.denominator (rounding.denominator.log2 + 1) : Nat)

/-- The better of the two neighbours among the multiples of `10 ^ exponent`, if one reads back. -/
def onGrid (rounding : Rounding) (tie : Tie) (exponent : Int) : Option Scientific :=
  let finer := Nat.pow 10 (-exponent).toNat
  let step := rounding.denominator * Nat.pow 10 exponent.toNat
  let count := rounding.value * finer / step
  let rest := rounding.value * finer % step
  let inside (near far : Nat) : Bool := near < far || (rounding.closed && near == far)
  let down := inside (rounding.low * finer) (count * step)
  let up := inside ((count + 1) * step) (rounding.high * finer)
  let upper := step < 2 * rest || step == 2 * rest && match tie with
    | .upper => true
    | .even => count % 2 == 1
  if up && (!down || upper) then some ⟨count + 1, exponent⟩
  else if down then some ⟨count, exponent⟩
  else none

/-- The neighbour on the coarsest grid that has one. -/
def shortest (rounding : Rounding) (tie : Tie) : Scientific :=
  let grids := (List.range 17).map fun (digits : Nat) => rounding.places - digits - 1
  match grids.findSome? (rounding.onGrid tie) with
  | some number => .normalize number.digits number.exponent
  | none => ⟨0, 0⟩

end Rounding

def Magnitude.shortest (magnitude : Magnitude) (tie : Tie) : Scientific :=
  if magnitude.mantissa = 0 then ⟨0, 0⟩ else magnitude.rounding.shortest tie

end SqlProgram.Decimal
