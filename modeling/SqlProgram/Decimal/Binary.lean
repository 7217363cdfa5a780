/-!
Binary floating-point numbers: what their bit patterns stand for, and the pattern nearest to a
quotient of whole numbers.
-/

namespace SqlProgram.Decimal

/-- The magnitude `mantissa * 2 ^ exponent` of a binary format. It is tight when the next smaller
magnitude of the format is only half as far away as the next larger one. -/
structure Magnitude where
  mantissa : Nat
  exponent : Int
  tight : Bool

inductive Binary where
  | nan (negative : Bool)
  | infinite (negative : Bool)
  | finite (negative : Bool) (magnitude : Magnitude)

/-- A binary format: a sign bit, `width` bits of an exponent and `places` bits of a mantissa. -/
structure Format where
  width : Nat
  places : Nat

namespace Format

def single : Format := ⟨8, 23⟩
def double : Format := ⟨11, 52⟩

def unit (format : Format) : Nat := Nat.pow 2 format.places

def fields (format : Format) : Nat := Nat.pow 2 format.width

def least (format : Format) : Int := 2 - (format.fields / 2 : Nat) - format.places

def decode (format : Format) (bits : Nat) : Binary :=
  let fraction := bits % format.unit
  let field := bits / format.unit % format.fields
  let negative := bits / format.unit / format.fields % 2 == 1
  if field == format.fields - 1 then
    if fraction == 0 then .infinite negative else .nan negative
  else if field == 0 then .finite negative ⟨fraction, format.least, false⟩
  else
    .finite negative
      ⟨format.unit + fraction, format.least + field - 1, fraction == 0 && field > 1⟩

def infinity (format : Format) : Nat := (format.fields - 1) * format.unit

def nan (format : Format) : Nat := format.infinity + format.unit / 2

/-- A pattern without sign bit, and the sign. -/
def signed (format : Format) (negative : Bool) (bits : Nat) : Nat :=
  if negative then format.fields * format.unit + bits else bits

/-- The whole number nearest to a quotient, the even one of two. -/
def roundEven (numerator denominator : Nat) : Nat :=
  let below := numerator / denominator
  let rest := 2 * (numerator % denominator)
  if denominator < rest || denominator == rest && below % 2 == 1 then below + 1 else below

/-- The pattern nearest to a quotient, the even one of two; what is too large is infinite. The
logarithms fix the exponent up to one. -/
def nearest (format : Format) (numerator denominator : Nat) : Nat :=
  if numerator = 0 then 0
  else
    let size : Int := (numerator.log2 : Int) - denominator.log2 - 1 - format.places
    let low := max format.least size
    let scaled (exponent : Int) : Nat := numerator * Nat.pow 2 (-exponent).toNat
    let divisor (exponent : Int) : Nat := denominator * Nat.pow 2 exponent.toNat
    let exponent := if 2 * format.unit * divisor low ≤ scaled low then low + 1 else low
    let rounded := roundEven (scaled exponent) (divisor exponent)
    min format.infinity ((exponent - format.least).toNat * format.unit + rounded)

/-- The pattern nearest to `digits * 10 ^ exponent`. Powers that lead far out of the format are not
computed. -/
def ofDecimal (format : Format) (digits : Nat) (exponent : Int) : Nat :=
  if digits = 0 then 0
  else if format.fields < exponent then format.infinity
  else if exponent + digits.log2 + 1 < -(format.fields + format.places : Int) then 0
  else format.nearest (digits * Nat.pow 10 exponent.toNat) (Nat.pow 10 (-exponent).toNat)

def ofBinary (format : Format) : Binary → Nat
  | .nan negative => format.signed negative format.nan
  | .infinite negative => format.signed negative format.infinity
  | .finite negative ⟨mantissa, exponent, _⟩ =>
    format.signed negative
      (format.nearest (mantissa * Nat.pow 2 exponent.toNat) (Nat.pow 2 (-exponent).toNat))

def ofInt (format : Format) (value : Int) : Nat :=
  format.signed (value < 0) (format.nearest value.natAbs 1)

end Format

end SqlProgram.Decimal
