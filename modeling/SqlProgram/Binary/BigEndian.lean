/-!
Numbers as bytes, the most significant first. Negative numbers are written as their remainder by
the power of two that the width allows.
-/

namespace SqlProgram.Binary.BigEndian

def ofNat : (width : Nat) → Nat → List UInt8
  | 0, _ => []
  | width + 1, n => ofNat width (n / 256) ++ [UInt8.ofNat n]

def toNat (bytes : List UInt8) : Nat := bytes.foldl (fun value byte => 256 * value + byte.toNat) 0

/-- The low bytes of a number that may be negative. -/
def ofInt (width : Nat) (value : Int) : List UInt8 := ofNat width (value % Nat.pow 256 width).toNat

/-- The number that bytes write; those of the upper half are negative. -/
def toInt (bytes : List UInt8) : Int :=
  let value := toNat bytes
  let count := Nat.pow 256 bytes.length
  if 2 * value < count then value else (value : Int) - count

@[simp] theorem length_ofNat (width n : Nat) : (ofNat width n).length = width := by
  induction width generalizing n with
  | zero => rfl
  | succ width ih => simp [ofNat, ih]

@[simp] theorem length_ofInt (width : Nat) (value : Int) : (ofInt width value).length = width :=
  length_ofNat width _

theorem toNat_concat (bytes : List UInt8) (byte : UInt8) :
    toNat (bytes ++ [byte]) = 256 * toNat bytes + byte.toNat := by
  simp [toNat]

theorem toNat_ofNat (width n : Nat) : toNat (ofNat width n) = n % Nat.pow 256 width := by
  induction width generalizing n with
  | zero => simp [ofNat, toNat, Nat.mod_one]
  | succ width ih =>
    have wider : Nat.pow 256 (width + 1) = 256 * Nat.pow 256 width := Nat.mul_comm ..
    rw [ofNat, toNat_concat, ih, wider, Nat.mod_mul, UInt8.toNat_ofNat']
    omega

theorem toNat_ofInt (width : Nat) (value : Int) :
    (toNat (ofInt width value) : Int) = value % Nat.pow 256 width := by
  have positive : 0 < Nat.pow 256 width := Nat.pow_pos (by decide)
  have least : 0 ≤ value % (Nat.pow 256 width : Nat) := Int.emod_nonneg value (by omega)
  have most : value % (Nat.pow 256 width : Nat) < Nat.pow 256 width := Int.emod_lt_of_pos value (by omega)
  rw [ofInt, toNat_ofNat]
  generalize Nat.pow 256 width = count at positive least most ⊢
  rw [Nat.mod_eq_of_lt (by omega)]
  omega

/-- Half of the remainders stand for negative numbers, and the other half for themselves. -/
theorem toInt_ofInt (width : Nat) {value : Int} (least : -(Nat.pow 256 width : Int) ≤ 2 * value)
    (most : 2 * value < Nat.pow 256 width) : toInt (ofInt width value) = value := by
  have read := toNat_ofInt width value
  have positive : 0 < Nat.pow 256 width := Nat.pow_pos (by decide)
  rw [toInt, length_ofInt]
  generalize Nat.pow 256 width = count at least most read positive ⊢
  by_cases negative : value < 0
  · have wrapped : value % (count : Int) = value + count := by
      rw [← Int.add_emod_right, Int.emod_eq_of_lt (by omega) (by omega)]
    rw [if_neg (by omega)]
    omega
  · have kept : value % (count : Int) = value := Int.emod_eq_of_lt (by omega) (by omega)
    rw [if_pos (by omega)]
    omega

end SqlProgram.Binary.BigEndian
