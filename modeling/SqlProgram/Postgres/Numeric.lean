import SqlProgram.Arithmetic
import SqlProgram.Binary.BigEndian
import SqlProgram.Value.Basic

/-!
Decimal numbers of the server: groups of four digits, the weight of the first group, a sign and the
count of decimals shown. Numbers without decimals that fit are read as whole numbers, all others
with double precision.
-/

namespace SqlProgram.Postgres

/-- A decimal number as it is sent. Groups are words with a sign, whatever the server means. -/
structure Numeric where
  groups : List Int
  weight : Int
  sign : Nat
  scale : Int

namespace Numeric

def negativeSign : Nat := 0x4000

def wordAt (bytes : Array UInt8) (place : Nat) : Outcome Bytes := do
  let high ← itemAt bytes place
  let second ← Size.add place 1
  let low ← itemAt bytes second
  return [high, low]

def groupAt (bytes : Array UInt8) (index : Nat) : Outcome Int := do
  let offset ← Size.multiply index 2
  let place ← Size.add 8 offset
  let word ← wordAt bytes place
  return Binary.BigEndian.toInt word

def groupsFrom (bytes : Array UInt8) (index : Nat) : Nat → Outcome (List Int)
  | 0 => return []
  | count + 1 => do
    let group ← groupAt bytes index
    let rest ← groupsFrom bytes (index + 1) count
    return group :: rest

def exponentAt (weight : Int) (index : Nat) : Outcome Int :=
  Signed.subtract 32 weight (Signed.truncate 32 index)

/-- Whether a number fits into sixteen bytes with a sign. -/
def isWide (value : Int) : Bool := -Nat.pow 2 127 ≤ value && value < Nat.pow 2 127

/-- A group at its place: nothing if it lies behind the point, and no answer if a digit does or if
sixteen bytes are too few for what is computed. -/
def groupValue? (group exponent : Int) : Option Int :=
  if exponent < 0 then if group = 0 then some 0 else none
  else
    let power : Int := Nat.pow 10000 exponent.toNat
    if isWide power && isWide (group * power) then some (group * power) else none

/-- The sum of the groups from one on. -/
def wholeFrom (weight sum : Int) (index : Nat) : List Int → Outcome (Option Int)
  | [] => return some sum
  | group :: rest => do
    let exponent ← exponentAt weight index
    match groupValue? group exponent with
    | none => return none
    | some value => if isWide (sum + value) then wholeFrom weight (sum + value) (index + 1) rest else return none

/-- The magnitude, if it is whole and of the range of whole numbers. -/
def whole (number : Numeric) : Outcome (Option Int64) := do
  let sum ← wholeFrom number.weight 0 0 number.groups
  match sum with
  | none => return none
  | some value =>
    return if Int64.minValue.toInt ≤ value ∧ value ≤ Int64.maxValue.toInt then some (Int64.ofInt value) else none

/-- A power by repeated squaring, with the rounding of every product. -/
def powFrom (result base : Float) (exponent : Nat) : Float :=
  let result := if exponent % 2 = 1 then result * base else result
  if _further : exponent / 2 = 0 then result else powFrom result (base * base) (exponent / 2)
termination_by exponent
decreasing_by omega

def tenThousandPow (exponent : Nat) : Float := powFrom 1.0 10000.0 exponent

def groupFloat (group exponent : Int) : Outcome Float :=
  if 0 ≤ exponent then .ok (Float.ofInt group * tenThousandPow exponent.toNat)
  else (Signed.negate 32 exponent).map fun turned => Float.ofInt group / tenThousandPow turned.toNat

/-- The sum of the groups from one on, rounded at every step. -/
def floatFrom (weight : Int) (sum : Float) (index : Nat) : List Int → Outcome Float
  | [] => return sum
  | group :: rest => do
    let exponent ← exponentAt weight index
    let value ← groupFloat group exponent
    floatFrom weight (sum + value) (index + 1) rest

def negated (magnitude : Int64) : Outcome Int64 := (Signed.negate 64 magnitude.toInt).map Int64.ofInt

def value (number : Numeric) : Outcome Value := do
  let magnitude? ← if number.scale = 0 then number.whole else pure none
  match magnitude? with
  | some magnitude =>
    if number.sign = negativeSign then (negated magnitude).map .int else return .int magnitude
  | none =>
    let magnitude ← floatFrom number.weight 0.0 0 number.groups
    return .float (.ofFloat (if number.sign = negativeSign then -magnitude else magnitude))

/-- Signs of what is no number. -/
def special? : Nat → Option Double
  | 0xC000 => some .nan
  | 0xD000 => some (.infinity false)
  | 0xF000 => some (.infinity true)
  | _ => none

/-- What bytes are read as: nothing if they are too short. Whatever follows the last group is of no account. -/
def read (bytes : Bytes) : Outcome (Option Value) := do
  let bytes := bytes.toArray
  if bytes.size < 8 then return none
  let count ← wordAt bytes 0
  let weight ← wordAt bytes 2
  let sign ← wordAt bytes 4
  let scale ← wordAt bytes 6
  let count := Binary.BigEndian.toNat count
  let sign := Binary.BigEndian.toNat sign
  let needed ← Size.add 8 (← Size.multiply count 2)
  if bytes.size < needed then return none
  match special? sign with
  | some double => return some (.float double)
  | none =>
    let groups ← groupsFrom bytes 0 count
    let value ← value ⟨groups, Binary.BigEndian.toInt weight, sign, Binary.BigEndian.toInt scale⟩
    return some value

end Numeric

end SqlProgram.Postgres
