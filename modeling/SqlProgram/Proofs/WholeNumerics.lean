import Mathlib.Data.Nat.Digits.Lemmas
import Mathlib.Data.Nat.Multiplicity
import SqlProgram.Proofs.NumericSafety

/-!
Whole numbers among decimal ones: how a server sends one in groups of four digits, and what is read. The magnitude is
narrowed before the sign is looked at, so the least whole number of eight bytes is not found.
-/

namespace SqlProgram.Postgres.Numeric

def bytes (number : Numeric) : Bytes :=
  Binary.BigEndian.ofNat 2 number.groups.length ++ Binary.BigEndian.ofInt 2 number.weight ++
    Binary.BigEndian.ofNat 2 number.sign ++ Binary.BigEndian.ofInt 2 number.scale ++
      number.groups.flatMap (Binary.BigEndian.ofInt 2)

/-- A number of which every part has room in its word. -/
structure Fits (number : Numeric) : Prop where
  count : number.groups.length < 2 ^ 16
  weight : IsWord number.weight
  sign : number.sign < 2 ^ 16
  scale : IsWord number.scale
  group : ∀ group ∈ number.groups, IsWord group

theorem toInt_word {value : Int} (word : IsWord value) :
    Binary.BigEndian.toInt (Binary.BigEndian.ofInt 2 value) = value := by
  obtain ⟨least, most⟩ := word
  have count : Nat.pow 256 2 = 65536 := rfl
  have low : Int16.minValue.toInt = -32768 := rfl
  have high : Int16.maxValue.toInt = 32767 := rfl
  rw [Binary.BigEndian.toInt_ofInt]
  · omega
  · omega

theorem toNat_word {value : Nat} (word : value < 2 ^ 16) :
    Binary.BigEndian.toNat (Binary.BigEndian.ofNat 2 value) = value := by
  rw [Binary.BigEndian.toNat_ofNat]
  exact Nat.mod_eq_of_lt word

theorem words_append {word : Bytes} (pair : word.length = 2) (rest : Bytes) :
    words (word ++ rest) = word :: words rest := by
  match word, pair with
  | [high, low], _ => rfl

theorem words_groups (groups : List Int) :
    words (groups.flatMap (Binary.BigEndian.ofInt 2)) = groups.map (Binary.BigEndian.ofInt 2) := by
  induction groups with
  | nil => rfl
  | cons group rest ih =>
    rw [List.flatMap_cons, words_append (Binary.BigEndian.length_ofInt 2 group), ih, List.map_cons]

theorem ofBytes?_bytes {number : Numeric} (fits : number.Fits) : ofBytes? number.bytes = some number := by
  have read : (number.groups.map (Binary.BigEndian.ofInt 2)).map Binary.BigEndian.toInt = number.groups := by
    rw [List.map_map]
    conv_rhs => rw [← List.map_id number.groups]
    apply List.map_congr_left
    intro group member
    exact toInt_word (fits.group group member)
  have split : words number.bytes = Binary.BigEndian.ofNat 2 number.groups.length ::
      Binary.BigEndian.ofInt 2 number.weight :: Binary.BigEndian.ofNat 2 number.sign ::
        Binary.BigEndian.ofInt 2 number.scale :: number.groups.map (Binary.BigEndian.ofInt 2) := by
    simp only [bytes, List.append_assoc]
    rw [words_append (Binary.BigEndian.length_ofNat 2 _), words_append (Binary.BigEndian.length_ofInt 2 _),
      words_append (Binary.BigEndian.length_ofNat 2 _), words_append (Binary.BigEndian.length_ofInt 2 _),
      words_groups]
  simp only [ofBytes?, split, toNat_word fits.count, toNat_word fits.sign, toInt_word fits.weight,
    toInt_word fits.scale, List.length_map, Nat.lt_irrefl, if_false]
  rw [List.take_of_length_le (by rw [List.length_map]), read]

/-- A whole number as a server sends it: its digits in groups of four, of which neither the first nor the last is zero,
none of them behind the point, and no decimals shown. -/
structure Sends (number : Numeric) (value : Int) : Prop where
  digits : ∀ group ∈ number.groups, 0 ≤ group ∧ group < 10000
  first : number.groups.head? ≠ some 0
  last : number.groups.getLast? ≠ some 0
  before : number.groups.length ≤ number.weight + 1
  weight : 0 ≤ number.weight ∧ IsWord number.weight
  sign : number.sign = if value < 0 then negativeSign else 0
  scale : number.scale = 0
  magnitude : total number.weight number.groups = value.natAbs

theorem Sends.fits {number : Numeric} {value : Int} (sends : number.Sends value) : number.Fits where
  count := by
    have before := sends.before
    have most := sends.weight.2.2
    have high : Int16.maxValue.toInt = 32767 := rfl
    omega
  weight := sends.weight.2
  sign := by
    rw [sends.sign]
    split
    · decide
    · decide
  scale := by
    rw [sends.scale]
    exact ⟨by decide, by decide⟩
  group := by
    intro group member
    have low : Int16.minValue.toInt = -32768 := rfl
    have high : Int16.maxValue.toInt = 32767 := rfl
    have digits := sends.digits group member
    constructor
    · omega
    · omega

theorem total_digits (digits : List Nat) (zeros : Nat) :
    total ((digits.length : Int) - 1 + zeros) (digits.reverse.map Nat.cast) =
      (10000 ^ zeros * Nat.ofDigits 10000 digits : Nat) := by
  induction digits generalizing zeros with
  | nil => simp [total]
  | cons digit rest ih =>
    have above := ih (zeros + 1)
    have place : ((rest.length : Int) + 1 - 1 + zeros) = (rest.length : Int) - 1 + (zeros + 1 : Nat) := by
      push_cast
      omega
    have lowest : ((rest.length : Int) - 1 + (zeros + 1 : Nat)) - rest.length = zeros := by
      push_cast
      omega
    rw [List.reverse_cons, List.map_append, total_append, List.length_map, List.length_reverse, List.length_cons,
      Nat.cast_add, Nat.cast_one, place, above, lowest, Nat.ofDigits_cons]
    simp only [List.map_cons, List.map_nil, total, Int.toNat_natCast]
    push_cast
    ring

theorem first_group_ne_zero {magnitude : Nat} (positive : 0 < magnitude) :
    ((Nat.digits 10000 magnitude).reverse.map Nat.cast).head? ≠ some (0 : Int) := by
  have some_digit : Nat.digits 10000 magnitude ≠ [] := Nat.digits_ne_nil_iff_ne_zero.mpr (by omega)
  rw [List.head?_map, List.head?_reverse, List.getLast?_eq_some_getLast some_digit]
  intro equal
  have highest : (Nat.digits 10000 magnitude).getLast some_digit = 0 := by simpa using equal
  exact Nat.getLast_digit_ne_zero 10000 (by omega) highest

theorem last_group_ne_zero {magnitude : Nat} (odd : ¬10000 ∣ magnitude) (positive : 0 < magnitude) :
    ((Nat.digits 10000 magnitude).reverse.map Nat.cast).getLast? ≠ some (0 : Int) := by
  rw [List.getLast?_map, List.getLast?_reverse, Nat.digits_eq_cons_digits_div (by omega) (by omega), List.head?_cons]
  intro equal
  have lowest : ((magnitude % 10000 : Nat) : Int) = 0 := Option.some.inj equal
  apply odd
  exact Nat.dvd_of_mod_eq_zero (by omega)

/-- Zeros behind the last group are told by the weight alone. -/
theorem sends_digits {value : Int} {zeros rest : Nat} (odd : ¬10000 ∣ rest) (positive : 0 < rest)
    (same : value.natAbs = 10000 ^ zeros * rest) (fits : (Nat.digits 10000 value.natAbs).length ≤ 2 ^ 15) :
    Sends ⟨(Nat.digits 10000 rest).reverse.map Nat.cast, ((Nat.digits 10000 rest).length : Int) - 1 + zeros,
      if value < 0 then negativeSign else 0, 0⟩ value := by
  have length : (Nat.digits 10000 value.natAbs).length = zeros + (Nat.digits 10000 rest).length := by
    rw [same, Nat.digits_base_pow_mul (by omega) positive, List.length_append, List.length_replicate]
  have counted : 0 < (Nat.digits 10000 rest).length :=
    List.length_pos_of_ne_nil (Nat.digits_ne_nil_iff_ne_zero.mpr (by omega))
  refine ⟨?_, first_group_ne_zero positive, last_group_ne_zero odd positive, ?_, ?_, rfl, rfl, ?_⟩
  · intro group member
    obtain ⟨digit, inside, rfl⟩ := List.mem_map.mp member
    have short := Nat.digits_lt_base (by omega : 1 < 10000) (List.mem_reverse.mp inside)
    omega
  · simp only [List.length_map, List.length_reverse]
    omega
  · have low : Int16.minValue.toInt = -32768 := rfl
    have high : Int16.maxValue.toInt = 32767 := rfl
    simp only [IsWord]
    omega
  · simp only
    rw [total_digits, Nat.ofDigits_digits, ← same]

/-- Every whole number whose groups can be counted in a word is sent in some way. -/
theorem exists_sends {value : Int} (fits : (Nat.digits 10000 value.natAbs).length ≤ 2 ^ 15) :
    ∃ number : Numeric, number.Sends value := by
  by_cases zero : value = 0
  · subst zero
    refine ⟨⟨[], 0, 0, 0⟩, nofun, nofun, nofun, ?_, ?_, rfl, rfl, rfl⟩
    · decide
    · exact ⟨by decide, by decide, by decide⟩
  · obtain ⟨zeros, rest, odd, same⟩ :=
      Nat.exists_eq_pow_mul_and_not_dvd (Int.natAbs_ne_zero.mpr zero) 10000 (by omega)
    have positive : 0 < rest := by
      apply Nat.pos_of_ne_zero
      intro none_left
      subst none_left
      exact odd (Nat.dvd_zero 10000)
    exact ⟨_, sends_digits odd positive same fits⟩

theorem le_nine_of_total {number : Numeric} {value : Int} (sends : number.Sends value)
    (some_group : number.groups ≠ []) (small : value.natAbs < 2 ^ 63) : number.weight ≤ 9 := by
  obtain ⟨group, rest, split⟩ := List.exists_cons_of_ne_nil some_group
  have leading := sends.first
  have magnitude := sends.magnitude
  have digits := sends.digits
  rw [split] at leading magnitude digits
  obtain ⟨least, others⟩ := List.forall_mem_cons.mp digits
  have below := total_nonneg (fun group member => (others group member).1) (number.weight - 1)
  have nonzero : group ≠ 0 := by
    intro equal
    subst equal
    exact leading rfl
  by_contra far
  have power : (10000 : Int) ^ 10 ≤ 10000 ^ number.weight.toNat := by
    apply pow_le_pow_right₀
    · decide
    · omega
  have here : 10000 ^ number.weight.toNat ≤ group * 10000 ^ number.weight.toNat := by
    apply le_mul_of_one_le_left
    · positivity
    · omega
  rw [total] at magnitude
  omega

/-- The magnitude is found exactly if eight bytes have room for it. -/
theorem whole_of_sends {number : Numeric} {value : Int} (sends : number.Sends value) :
    number.whole =
      .ok (if (value.natAbs : Int) ≤ Int64.maxValue.toInt then some (Int64.ofInt value.natAbs) else none) := by
  have high : Int64.maxValue.toInt = 2 ^ 63 - 1 := rfl
  have low : Int64.minValue.toInt = -2 ^ 63 := rfl
  have word := sends.weight.2
  have most := word.bounds.2
  have before := sends.before
  have started : 0 + number.groups.length ≤ 2 ^ 16 := by omega
  have first : number.weight - ((0 : Nat) : Int) = number.weight := by rw [Nat.cast_zero, Int.sub_zero]
  have magnitude := sends.magnitude
  rw [whole]
  by_cases small : (value.natAbs : Int) ≤ Int64.maxValue.toInt
  · have found : wholeFrom number.weight 0 0 number.groups = .ok (some (value.natAbs : Int)) := by
      by_cases none_there : number.groups = []
      · rw [none_there, total] at magnitude
        rw [none_there, wholeFrom, magnitude]
        rfl
      · have short := le_nine_of_total sends none_there (by omega)
        rw [wholeFrom_complete word started (fun group member => (sends.digits group member).1) (by omega) (by omega)
          (Int.le_refl 0) (by rw [first]; omega), first, magnitude, Int.zero_add]
    rw [found, Outcome.ok_bind, if_pos small]
    simp only
    rw [if_pos (by omega)]
    rfl
  · -- Whether the sum is found at all does not matter here: if it is, it is exact and too large.
    obtain ⟨sum?, found⟩ := wholeFrom_ok word started 0
    rw [found, Outcome.ok_bind, if_neg small]
    cases sum? with
    | none => rfl
    | some sum =>
      have added := wholeFrom_sound word started found
      rw [first] at added
      simp only
      rw [if_neg (by omega)]
      rfl

theorem Sends.sign_ordinary {number : Numeric} {value : Int} (sends : number.Sends value) :
    special? number.sign = none ∧ (number.sign = negativeSign ↔ value < 0) := by
  rw [sends.sign]
  split
  next negative => exact ⟨rfl, iff_of_true rfl negative⟩
  next positive => exact ⟨rfl, iff_of_false (by decide) positive⟩

theorem decodeCell_bytes {number : Numeric} {value : Int} (sends : number.Sends value) {read : Value}
    (ended : number.value = .ok read) (name : String) (index : Nat) :
    decodeCell ⟨name, .numeric⟩ index (some number.bytes) = .ok read := by
  rw [decodeCell_read, (read_some (ofBytes?_bytes sends.fits)).2.2, sends.sign_ordinary.1, Option.elim_none, ended]
  rfl

theorem value_found {number : Numeric} {value : Int} (sends : number.Sends value)
    (small : (value.natAbs : Int) ≤ Int64.maxValue.toInt) :
    number.value = .ok (.int (Int64.ofInt value)) := by
  have high : Int64.maxValue.toInt = 2 ^ 63 - 1 := rfl
  have low : Int64.minValue.toInt = -2 ^ 63 := rfl
  have found := whole_of_sends sends
  rw [if_pos small] at found
  rw [value_whole sends.scale found]
  by_cases negative : value < 0
  · have other : Int64.ofInt (value.natAbs : Int) ≠ Int64.minValue := by
      intro least
      have held : (Int64.ofInt (value.natAbs : Int)).toInt = value.natAbs := Int64.toInt_ofInt_of_le (by omega) (by omega)
      rw [least] at held
      omega
    have turned : -((value.natAbs : Nat) : Int) = value := by omega
    rw [if_pos (sends.sign_ordinary.2.mpr negative), negated_ok other, ← Int64.ofInt_neg, turned]
    rfl
  · have same : ((value.natAbs : Nat) : Int) = value := by omega
    have positive : number.sign ≠ negativeSign := fun equal => negative (sends.sign_ordinary.2.mp equal)
    rw [if_neg positive, same]

theorem value_missed {number : Numeric} {value : Int} (sends : number.Sends value)
    (large : ¬(value.natAbs : Int) ≤ Int64.maxValue.toInt) : ∃ float, number.value = .ok (.float float) := by
  have most := sends.weight.2.bounds.2
  have before := sends.before
  apply value_float sends.weight.2
  · omega
  · intro _
    rw [whole_of_sends sends, if_neg large]

/-- A whole number of eight bytes is read as such wherever it stands in its range, but the least of all is not: like
every number out of range it is read with double precision. -/
theorem whole_decoded (value : Int) :
    ((Nat.digits 10000 value.natAbs).length ≤ 2 ^ 15 → ∃ number : Numeric, number.Sends value) ∧
      ∀ number : Numeric, number.Sends value → ∀ name index,
        (Int64.minValue.toInt < value → value ≤ Int64.maxValue.toInt →
          decodeCell ⟨name, .numeric⟩ index (some number.bytes) = .ok (.int (Int64.ofInt value))) ∧
        (value ≤ Int64.minValue.toInt ∨ Int64.maxValue.toInt < value →
          ∃ float, decodeCell ⟨name, .numeric⟩ index (some number.bytes) = .ok (.float float)) := by
  have high : Int64.maxValue.toInt = 2 ^ 63 - 1 := rfl
  have low : Int64.minValue.toInt = -2 ^ 63 := rfl
  refine ⟨exists_sends, ?_⟩
  intro number sends name index
  constructor
  · intro least most
    exact decodeCell_bytes sends (value_found sends (by omega)) name index
  · intro outside
    obtain ⟨float, read⟩ := value_missed sends (by omega)
    exact ⟨float, decodeCell_bytes sends read name index⟩

/-- A negative number of five groups. -/
theorem whole_decoded_negative :
    let number : Numeric := ⟨[922, 3372, 368, 5477, 5807], 4, negativeSign, 0⟩
    number.Sends (-9223372036854775807) ∧
      decodeCell ⟨"n", .numeric⟩ 0 (some number.bytes) = .ok (.int (-9223372036854775807)) := by
  have magnitude : total 4 [922, 3372, 368, 5477, 5807] = 9223372036854775807 := by simp [total]
  intro number
  have sends : number.Sends (-9223372036854775807) := by
    refine ⟨?_, by decide, by decide, by decide, ?_, rfl, rfl, magnitude⟩
    · decide
    · exact ⟨by decide, by decide, by decide⟩
  exact ⟨sends, ((whole_decoded (-9223372036854775807)).2 number sends "n" 0).1 (by decide) (by decide)⟩

/-- The least whole number of eight bytes. -/
theorem whole_least_missed :
    let number : Numeric := ⟨[922, 3372, 368, 5477, 5808], 4, negativeSign, 0⟩
    number.Sends Int64.minValue.toInt ∧
      number.bytes = [0, 5, 0, 4, 0x40, 0, 0, 0, 0x03, 0x9A, 0x0D, 0x2C, 0x01, 0x70, 0x15, 0x65, 0x16, 0xB0] ∧
      ∃ float, decodeCell ⟨"n", .numeric⟩ 0 (some number.bytes) = .ok (.float float) := by
  have magnitude : total 4 [922, 3372, 368, 5477, 5808] = 9223372036854775808 := by simp [total]
  intro number
  have sends : number.Sends Int64.minValue.toInt := by
    refine ⟨?_, by decide, by decide, by decide, ?_, rfl, rfl, magnitude⟩
    · decide
    · exact ⟨by decide, by decide, by decide⟩
  obtain ⟨float, missed⟩ := value_missed sends (by decide)
  exact ⟨sends, by decide, float, decodeCell_bytes sends missed "n" 0⟩

end SqlProgram.Postgres.Numeric
