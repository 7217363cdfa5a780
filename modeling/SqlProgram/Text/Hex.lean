/-!
Bytes as pairs of lower-case hexadecimal digits, high half first.
-/

namespace SqlProgram.Text.Hex

def digit (value : Nat) : Char := Char.ofNat (if value < 10 then 48 + value else 87 + value)

/-- The value of a digit of either case. -/
def value? (c : Char) : Option Nat :=
  if '0' ≤ c ∧ c ≤ '9' then some (c.toNat - 48)
  else if 'a' ≤ c ∧ c ≤ 'f' then some (c.toNat - 87)
  else if 'A' ≤ c ∧ c ≤ 'F' then some (c.toNat - 55)
  else none

def encode (bytes : List UInt8) : List Char :=
  bytes.flatMap fun byte => [digit (byte.toNat / 16), digit (byte.toNat % 16)]

def decode? : List Char → Option (List UInt8)
  | [] => some []
  | [_] => none
  | high :: low :: rest => do
    let high ← value? high
    let low ← value? low
    return UInt8.ofNat (16 * high + low) :: (← decode? rest)

/-- The digits of a number without leading zeros, as after an escape. -/
def ofNat (value : Nat) : List Char := Nat.toDigits 16 value

end SqlProgram.Text.Hex
