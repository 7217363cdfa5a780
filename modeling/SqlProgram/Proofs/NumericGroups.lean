import Mathlib.Tactic.Linarith
import Mathlib.Tactic.Positivity
import Mathlib.Tactic.Ring
import SqlProgram.Postgres.Numeric

/-!
The groups of a decimal number. Whatever words they are, every place and every exponent that is computed for them has
room, and a sum that is found is the sum of what they count.
-/

namespace SqlProgram

theorem Outcome.ok_bind (value : α) (next : α → Outcome β) : (Outcome.ok value >>= next) = next value := rfl

theorem Size.settle_ok {value : Nat} (room : value < 2 ^ 64) (operation : String) :
    Size.settle operation value = .ok value := if_pos room

theorem Signed.settle_ok {width : Nat} {value : Int} (least : -2 ^ (width - 1) ≤ value)
    (most : value < 2 ^ (width - 1)) (operation : String) : Signed.settle width operation value = .ok value := by
  have power : ((Nat.pow 2 (width - 1) : Nat) : Int) = 2 ^ (width - 1) := Nat.cast_pow 2 (width - 1)
  rw [Signed.settle, power, if_pos ⟨least, most⟩]

namespace Postgres

/-- Numbers that have room in a word with a sign. -/
def IsWord (value : Int) : Prop := Int16.minValue.toInt ≤ value ∧ value ≤ Int16.maxValue.toInt

theorem IsWord.bounds {value : Int} (word : IsWord value) : -32768 ≤ value ∧ value ≤ 32767 := word

namespace Numeric

/-- The sum of groups, of which the first counts the given power of ten thousand. -/
def total (exponent : Int) : List Int → Int
  | [] => 0
  | group :: rest => group * 10000 ^ exponent.toNat + total (exponent - 1) rest

theorem total_nonneg {groups : List Int} (least : ∀ group ∈ groups, 0 ≤ group) (exponent : Int) :
    0 ≤ total exponent groups := by
  induction groups generalizing exponent with
  | nil => exact Int.le_refl 0
  | cons group rest ih =>
    obtain ⟨first, others⟩ := List.forall_mem_cons.mp least
    have below := ih others (exponent - 1)
    have here : 0 ≤ group * 10000 ^ exponent.toNat := by positivity
    rw [total]
    omega

theorem total_append (exponent : Int) (groups others : List Int) :
    total exponent (groups ++ others) = total exponent groups + total (exponent - groups.length) others := by
  induction groups generalizing exponent with
  | nil => simp [total]
  | cons group rest ih =>
    have place : exponent - 1 - (rest.length : Int) = exponent - (rest.length + 1) := by omega
    simp only [List.cons_append, total, ih, List.length_cons, Nat.cast_add, Nat.cast_one, place]
    omega

theorem isWide_iff (value : Int) : isWide value = true ↔ -2 ^ 127 ≤ value ∧ value < 2 ^ 127 := by
  simp [isWide]

/-- Sixteen bytes have room for the powers of ten thousand up to the ninth. -/
theorem isWide_power {exponent : Nat} (near : exponent ≤ 9) : isWide (10000 ^ exponent) = true := by
  have power : (10000 : Int) ^ exponent ≤ 10000 ^ 9 := by
    apply pow_le_pow_right₀
    · omega
    · omega
  have positive : (0 : Int) < 10000 ^ exponent := by positivity
  rw [isWide_iff]
  omega

theorem groupValue?_sound {group exponent value : Int} (found : groupValue? group exponent = some value) :
    value = group * 10000 ^ exponent.toNat := by
  unfold groupValue? at found
  split at found
  · split at found
    next zero =>
      cases found
      simp [zero]
    next => cases found
  · simp only [Option.ite_none_right_eq_some, Option.some.injEq] at found
    have power : ((Nat.pow 10000 exponent.toNat : Nat) : Int) = 10000 ^ exponent.toNat := Nat.cast_pow 10000 _
    rw [← found.2, power]

theorem exponentAt_ok {weight : Int} (word : IsWord weight) {index : Nat} (narrow : index < 2 ^ 16) :
    exponentAt weight index = .ok (weight - index) := by
  obtain ⟨least, most⟩ := word.bounds
  have count : Nat.pow 2 32 = 4294967296 := rfl
  have place : Signed.truncate 32 index = index := by
    apply Int.bmod_eq_of_le
    · omega
    · omega
  rw [exponentAt, Signed.subtract, place, Signed.settle_ok (by omega) (by omega)]

/-- To add up groups never fails, though it may find no sum. -/
theorem wholeFrom_ok {weight : Int} (word : IsWord weight) {groups : List Int} {index : Nat}
    (narrow : index + groups.length ≤ 2 ^ 16) (sum : Int) :
    ∃ found, wholeFrom weight sum index groups = .ok found := by
  induction groups generalizing sum index with
  | nil => exact ⟨some sum, rfl⟩
  | cons group rest ih =>
    rw [List.length_cons] at narrow
    have further : index + 1 + rest.length ≤ 2 ^ 16 := by omega
    rw [wholeFrom, exponentAt_ok word (by omega), Outcome.ok_bind]
    cases groupValue? group (weight - index) with
    | none => exact ⟨none, rfl⟩
    | some value =>
      by_cases wide : isWide (sum + value) = true
      · simp only [wide, if_true]
        exact ih further (sum + value)
      · simp only [if_neg wide]
        exact ⟨none, rfl⟩

/-- The sum that is found is the sum of the groups. -/
theorem wholeFrom_sound {weight : Int} (word : IsWord weight) {groups : List Int} {index : Nat}
    (narrow : index + groups.length ≤ 2 ^ 16) {sum value : Int}
    (found : wholeFrom weight sum index groups = .ok (some value)) : value = sum + total (weight - index) groups := by
  induction groups generalizing sum index with
  | nil =>
    cases found
    simp [total]
  | cons group rest ih =>
    rw [List.length_cons] at narrow
    have further : index + 1 + rest.length ≤ 2 ^ 16 := by omega
    have next : weight - (index : Int) - 1 = weight - ((index + 1 : Nat) : Int) := by omega
    rw [wholeFrom, exponentAt_ok word (by omega), Outcome.ok_bind] at found
    cases counted : groupValue? group (weight - index) with
    | none =>
      simp only [counted] at found
      cases found
    | some here =>
      simp only [counted] at found
      by_cases wide : isWide (sum + here) = true
      · simp only [wide, if_true] at found
        rw [ih further found, groupValue?_sound counted, total, next]
        omega
      · simp only [if_neg wide] at found
        cases found

/-- Groups before the point, none of them negative, are added up as long as their sum is not too wide. -/
theorem wholeFrom_complete {weight : Int} (word : IsWord weight) {groups : List Int} {index : Nat}
    (narrow : index + groups.length ≤ 2 ^ 16) {sum : Int} (least : ∀ group ∈ groups, 0 ≤ group)
    (before : groups.length ≤ weight - index + 1) (short : weight - index ≤ 9) (positive : 0 ≤ sum)
    (most : sum + total (weight - index) groups < 2 ^ 127) :
    wholeFrom weight sum index groups = .ok (some (sum + total (weight - index) groups)) := by
  induction groups generalizing sum index with
  | nil =>
    rw [total, Int.add_zero]
    rfl
  | cons group rest ih =>
    obtain ⟨first, others⟩ := List.forall_mem_cons.mp least
    have next : weight - (index : Int) - 1 = weight - ((index + 1 : Nat) : Int) := by omega
    have below := total_nonneg others (weight - (index + 1 : Nat))
    have here : 0 ≤ group * 10000 ^ (weight - index).toNat := by positivity
    rw [total, next] at most ⊢
    rw [List.length_cons] at narrow before
    have power : isWide (10000 ^ (weight - index).toNat) = true := isWide_power (by omega)
    have product : isWide (group * 10000 ^ (weight - index).toNat) = true := by
      rw [isWide_iff]
      omega
    have wide : isWide (sum + group * 10000 ^ (weight - index).toNat) = true := by
      rw [isWide_iff]
      omega
    have counted : groupValue? group (weight - index) = some (group * 10000 ^ (weight - index).toNat) := by
      have same : ((Nat.pow 10000 (weight - index).toNat : Nat) : Int) = 10000 ^ (weight - index).toNat :=
        Nat.cast_pow 10000 _
      rw [groupValue?, if_neg (by omega)]
      simp only [same, power, product, Bool.and_true, if_true]
    rw [wholeFrom, exponentAt_ok word (by omega), Outcome.ok_bind, counted]
    simp only [wide, if_true]
    rw [ih (by omega) others (by omega) (by omega) (by omega) (by omega), Int.add_assoc]

theorem floatFrom_ok {weight : Int} (word : IsWord weight) {groups : List Int} {index : Nat}
    (narrow : index + groups.length ≤ 2 ^ 16) (sum : Float) :
    ∃ float, floatFrom weight sum index groups = .ok float := by
  induction groups generalizing sum index with
  | nil => exact ⟨sum, rfl⟩
  | cons group rest ih =>
    obtain ⟨least, most⟩ := word.bounds
    rw [List.length_cons] at narrow
    have further : index + 1 + rest.length ≤ 2 ^ 16 := by omega
    have counted : ∃ value, groupFloat group (weight - index) = .ok value := by
      unfold groupFloat
      by_cases before : 0 ≤ weight - (index : Int)
      · rw [if_pos before]
        exact ⟨_, rfl⟩
      · rw [if_neg before, Signed.negate, Signed.settle_ok (by omega) (by omega)]
        exact ⟨_, rfl⟩
    obtain ⟨value, here⟩ := counted
    rw [floatFrom, exponentAt_ok word (by omega), Outcome.ok_bind, here, Outcome.ok_bind]
    exact ih further (sum + value)

end Numeric

end Postgres

end SqlProgram
