import SqlProgram.Postgres.Decode
import SqlProgram.Proofs.NumericGroups

/-!
Reading decimal numbers from whatever bytes there are. Every place that is looked at is there and every number that is
computed has room, but for one: groups that are themselves negative add up to the least whole number of eight bytes, and
the sign turns it around.
-/

namespace SqlProgram.Postgres.Numeric

def words : Bytes → List Bytes
  | high :: low :: rest => [high, low] :: words rest
  | _ => []

/-- The number that bytes hold: a header of four words, and as many groups as the first of them says. -/
def ofBytes? (bytes : Bytes) : Option Numeric :=
  match words bytes with
  | count :: weight :: sign :: scale :: groups =>
    let count := Binary.BigEndian.toNat count
    if groups.length < count then none
    else some {
      groups := (groups.take count).map Binary.BigEndian.toInt
      weight := Binary.BigEndian.toInt weight
      sign := Binary.BigEndian.toNat sign
      scale := Binary.BigEndian.toInt scale }
  | _ => none

theorem length_words (bytes : Bytes) : (words bytes).length = bytes.length / 2 := by
  induction bytes using words.induct with
  | case1 high low rest ih =>
    rw [words, List.length_cons, ih, List.length_cons, List.length_cons]
    omega
  | case2 bytes short =>
    match bytes with
    | [] | [_] => simp [words]
    | high :: low :: rest => exact absurd rfl (short high low rest)

theorem bytes_of_word {bytes word : Bytes} {index : Nat} (there : (words bytes)[index]? = some word) :
    ∃ high low, word = [high, low] ∧ bytes[2 * index]? = some high ∧ bytes[2 * index + 1]? = some low := by
  induction bytes using words.induct generalizing index with
  | case1 high low rest ih =>
    cases index with
    | zero =>
      cases there
      exact ⟨high, low, rfl, rfl, rfl⟩
    | succ index => exact ih there
  | case2 bytes short =>
    rw [words] at there
    · cases there
    · exact short

theorem itemAt_ok {bytes : Bytes} {place : Nat} {byte : UInt8} (there : bytes[place]? = some byte) :
    itemAt bytes.toArray place = .ok byte := by
  rw [itemAt, List.getElem?_toArray, there]

theorem wordAt_ok {bytes word : Bytes} {index : Nat} (there : (words bytes)[index]? = some word)
    (narrow : index < 2 ^ 32) : wordAt bytes.toArray (2 * index) = .ok word := by
  obtain ⟨high, low, same, first, second⟩ := bytes_of_word there
  rw [wordAt, itemAt_ok first, Outcome.ok_bind, Size.add, Size.settle_ok (by omega), Outcome.ok_bind,
    itemAt_ok second, same]
  rfl

theorem word_isWord {bytes word : Bytes} {index : Nat} (there : (words bytes)[index]? = some word) :
    IsWord (Binary.BigEndian.toInt word) ∧ Binary.BigEndian.toNat word < 2 ^ 16 := by
  obtain ⟨high, low, same, _, _⟩ := bytes_of_word there
  have least : Int16.minValue.toInt = -32768 := rfl
  have most : Int16.maxValue.toInt = 32767 := rfl
  have count : Nat.pow 256 2 = 65536 := rfl
  have first := high.toNat_lt
  have second := low.toNat_lt
  have value : Binary.BigEndian.toNat word = 256 * high.toNat + low.toNat := by
    rw [same]
    simp [Binary.BigEndian.toNat]
  have width : word.length = 2 := by rw [same, List.length_cons, List.length_singleton]
  simp only [IsWord, Binary.BigEndian.toInt, width, count, value]
  constructor
  · split
    · omega
    · omega
  · omega

theorem groupAt_ok {bytes word : Bytes} {index : Nat} (there : (words bytes)[4 + index]? = some word)
    (narrow : index < 2 ^ 16) : groupAt bytes.toArray index = .ok (Binary.BigEndian.toInt word) := by
  have place : 8 + index * 2 = 2 * (4 + index) := by omega
  rw [groupAt, Size.multiply, Size.settle_ok (by omega), Outcome.ok_bind, Size.add, Size.settle_ok (by omega),
    Outcome.ok_bind, place, wordAt_ok there (by omega)]
  rfl

theorem groupsFrom_ok {bytes : Bytes} {index count : Nat} (there : 4 + index + count ≤ (words bytes).length)
    (narrow : index + count ≤ 2 ^ 16) :
    groupsFrom bytes.toArray index count =
      .ok ((((words bytes).drop (4 + index)).take count).map Binary.BigEndian.toInt) := by
  induction count generalizing index with
  | zero => rfl
  | succ count ih =>
    have inside : 4 + index < (words bytes).length := by omega
    have found : (words bytes)[4 + index]? = some (words bytes)[4 + index] := List.getElem?_eq_getElem inside
    rw [groupsFrom, groupAt_ok found (by omega), Outcome.ok_bind, ih (by omega) (by omega), Outcome.ok_bind,
      List.drop_eq_getElem_cons inside, List.take_succ_cons, List.map_cons]
    rfl

theorem header {bytes : Bytes} (long : 8 ≤ bytes.length) :
    ∃ count weight sign scale groups, words bytes = count :: weight :: sign :: scale :: groups := by
  have enough : 4 ≤ (words bytes).length := by
    rw [length_words]
    omega
  match words bytes, enough with
  | count :: weight :: sign :: scale :: groups, _ => exact ⟨count, weight, sign, scale, groups, rfl⟩

theorem read_words {bytes count weight sign scale : Bytes} {groups : List Bytes}
    (split : words bytes = count :: weight :: sign :: scale :: groups) :
    read bytes =
      if groups.length < Binary.BigEndian.toNat count then .ok none
      else (special? (Binary.BigEndian.toNat sign)).elim
        ((value {
          groups := (groups.take (Binary.BigEndian.toNat count)).map Binary.BigEndian.toInt
          weight := Binary.BigEndian.toInt weight
          sign := Binary.BigEndian.toNat sign
          scale := Binary.BigEndian.toInt scale }).map some)
        fun double => .ok (some (.float double)) := by
  have length := length_words bytes
  rw [split] at length
  simp only [List.length_cons] at length
  have first : (words bytes)[0]? = some count := by rw [split]; rfl
  have second : (words bytes)[1]? = some weight := by rw [split]; rfl
  have third : (words bytes)[2]? = some sign := by rw [split]; rfl
  have fourth : (words bytes)[3]? = some scale := by rw [split]; rfl
  have counted : wordAt bytes.toArray 0 = .ok count := wordAt_ok first (by omega)
  have weighed : wordAt bytes.toArray 2 = .ok weight := wordAt_ok second (by omega)
  have signed : wordAt bytes.toArray 4 = .ok sign := wordAt_ok third (by omega)
  have scaled : wordAt bytes.toArray 6 = .ok scale := wordAt_ok fourth (by omega)
  have narrow := (word_isWord first).2
  have long : ¬bytes.length < 8 := by omega
  have doubled : Size.multiply (Binary.BigEndian.toNat count) 2 = .ok (Binary.BigEndian.toNat count * 2) :=
    Size.settle_ok (by omega) _
  have ending : Size.add 8 (Binary.BigEndian.toNat count * 2) = .ok (8 + Binary.BigEndian.toNat count * 2) :=
    Size.settle_ok (by omega) _
  -- The four words of the header are there, and any count that is not too large is one of words behind them.
  rw [read]
  simp only [List.size_toArray, if_neg long, counted, weighed, signed, scaled, doubled, ending, Outcome.ok_bind]
  by_cases few : groups.length < Binary.BigEndian.toNat count
  · rw [if_pos few, if_pos (by omega)]
    rfl
  · have grouped : groupsFrom bytes.toArray 0 (Binary.BigEndian.toNat count) =
        .ok ((groups.take (Binary.BigEndian.toNat count)).map Binary.BigEndian.toInt) := by
      rw [groupsFrom_ok (by rw [split]; simp only [List.length_cons]; omega) (by omega), split]
      rfl
    rw [if_neg few, if_neg (by omega)]
    cases special? (Binary.BigEndian.toNat sign) with
    | some double => rfl
    | none =>
      simp only [grouped, Outcome.ok_bind, Option.elim_none]
      cases value _ with
      | ok value => rfl
      | failed failure => rfl
      | panicked panic => rfl

theorem read_none {bytes : Bytes} (refused : ofBytes? bytes = none) : read bytes = .ok none := by
  by_cases long : 8 ≤ bytes.length
  · obtain ⟨count, weight, sign, scale, groups, split⟩ := header long
    have few : groups.length < Binary.BigEndian.toNat count := by
      by_contra enough
      simp [ofBytes?, split, enough] at refused
    rw [read_words split, if_pos few]
  · have short : bytes.length < 8 := Nat.lt_of_not_le long
    rw [read]
    simp only [List.size_toArray, if_pos short]
    rfl

variable {number : Numeric}

/-- A number that was received has parts of one word each, and is read as it was received. -/
theorem read_some {bytes : Bytes} (held : ofBytes? bytes = some number) :
    IsWord number.weight ∧ number.groups.length ≤ 2 ^ 16 ∧
      read bytes = (special? number.sign).elim (number.value.map some) fun double => .ok (some (.float double)) := by
  unfold ofBytes? at held
  split at held
  next count weight sign scale groups split =>
    have first : (words bytes)[0]? = some count := by rw [split]; rfl
    have second : (words bytes)[1]? = some weight := by rw [split]; rfl
    have narrow := (word_isWord first).2
    simp only [Option.ite_none_left_eq_some, Option.some.injEq] at held
    obtain ⟨enough, same⟩ := held
    subst same
    refine ⟨(word_isWord second).1, ?_, ?_⟩
    · simp only [List.length_map, List.length_take]
      omega
    · rw [read_words split, if_neg enough]
  next => cases held

theorem whole_ok (word : IsWord number.weight) (narrow : number.groups.length ≤ 2 ^ 16) :
    ∃ magnitude?, number.whole = .ok magnitude? := by
  obtain ⟨found, added⟩ := wholeFrom_ok word (show 0 + number.groups.length ≤ 2 ^ 16 by omega) 0
  rw [whole, added, Outcome.ok_bind]
  cases found with
  | none => exact ⟨none, rfl⟩
  | some sum => exact ⟨_, rfl⟩

theorem negated_ok {magnitude : Int64} (other : magnitude ≠ Int64.minValue) : negated magnitude = .ok (-magnitude) := by
  have least := magnitude.minValue_le_toInt
  have most := magnitude.toInt_le
  have low : Int64.minValue.toInt = -2 ^ 63 := rfl
  have high : Int64.maxValue.toInt = 2 ^ 63 - 1 := rfl
  have apart : magnitude.toInt ≠ Int64.minValue.toInt := fun same => other (Int64.toInt_inj.mp same)
  rw [negated, Signed.negate, Signed.settle_ok (by omega) (by omega), Outcome.map, Int64.ofInt_neg, Int64.ofInt_toInt]

theorem value_float (word : IsWord number.weight) (narrow : number.groups.length ≤ 2 ^ 16)
    (unfound : number.scale = 0 → number.whole = .ok none) : ∃ double, number.value = .ok (.float double) := by
  obtain ⟨magnitude, added⟩ := floatFrom_ok word (show 0 + number.groups.length ≤ 2 ^ 16 by omega) 0.0
  by_cases scale : number.scale = 0
  · rw [value, if_pos scale, unfound scale]
    simp only [Outcome.ok_bind, added]
    exact ⟨_, rfl⟩
  · rw [value, if_neg scale]
    simp only [added, Outcome.ok_bind]
    exact ⟨_, rfl⟩

/-- The sign is looked at after the magnitude was narrowed. -/
theorem value_whole (scale : number.scale = 0) {magnitude : Int64} (found : number.whole = .ok (some magnitude)) :
    number.value = if number.sign = negativeSign then (negated magnitude).map .int else .ok (.int magnitude) := by
  rw [value, if_pos scale, found]
  rfl

/-- The one case for which eight bytes are too few: a magnitude that is itself the least number, with the other sign. -/
structure Turns (number : Numeric) : Prop where
  sign : number.sign = negativeSign
  scale : number.scale = 0
  magnitude : number.whole = .ok (some Int64.minValue)

/-- Only groups that are no groups of digits get there. -/
theorem Turns.negative (turns : number.Turns) (word : IsWord number.weight)
    (narrow : number.groups.length ≤ 2 ^ 16) : ∃ group ∈ number.groups, group < 0 := by
  by_contra digits
  have least : ∀ group ∈ number.groups, 0 ≤ group := by
    intro group member
    by_contra below
    exact digits ⟨group, member, by omega⟩
  have positive := total_nonneg least number.weight
  have low : Int64.minValue.toInt = -2 ^ 63 := rfl
  have high : Int64.maxValue.toInt = 2 ^ 63 - 1 := rfl
  have started : 0 + number.groups.length ≤ 2 ^ 16 := by omega
  obtain ⟨found, counted⟩ := wholeFrom_ok word started 0
  have magnitude := turns.magnitude
  rw [whole, counted, Outcome.ok_bind] at magnitude
  cases found with
  | none => cases magnitude
  | some sum =>
    have added := wholeFrom_sound word started counted
    have narrowed := Outcome.ok.inj magnitude
    simp only [Option.ite_none_right_eq_some, Option.some.injEq] at narrowed
    obtain ⟨⟨least, most⟩, same⟩ := narrowed
    have least_sum : sum = Int64.minValue.toInt := by
      rw [← same, Int64.toInt_ofInt_of_le least (by omega)]
    rw [Nat.cast_zero, Int.sub_zero] at added
    omega

theorem turns_negative_groups : (⟨[-922, -3372, -368, -5477, -5808], 4, negativeSign, 0⟩ : Numeric).Turns :=
  ⟨rfl, rfl, rfl⟩

theorem value_ok (word : IsWord number.weight) (narrow : number.groups.length ≤ 2 ^ 16) (steady : ¬number.Turns) :
    ∃ value, number.value = .ok value := by
  obtain ⟨magnitude?, found⟩ := whole_ok word narrow
  by_cases scale : number.scale = 0
  · cases magnitude? with
    | none =>
      obtain ⟨double, read⟩ := value_float word narrow fun _ => found
      exact ⟨_, read⟩
    | some magnitude =>
      rw [value_whole scale found]
      split
      next negative =>
        have other : magnitude ≠ Int64.minValue := by
          intro least
          exact steady ⟨negative, scale, by rw [found, least]⟩
        exact ⟨_, by rw [negated_ok other]; rfl⟩
      next => exact ⟨_, rfl⟩
  · obtain ⟨double, read⟩ := value_float word narrow fun zero => absurd zero scale
    exact ⟨_, read⟩

theorem value_turns (turns : number.Turns) :
    number.value = .panicked (.message "attempt to negate with overflow") := by
  rw [value_whole turns.scale turns.magnitude, if_pos turns.sign]
  rfl

theorem decodeCell_read (bytes : Bytes) (name : String) (index : Nat) :
    decodeCell ⟨name, .numeric⟩ index (some bytes) =
      (read bytes).bind fun value? => value?.elim (.failed (.decode name (.malformed index))) .ok := by
  simp only [decodeCell, reader?]
  cases read bytes with
  | ok value? => cases value? with
    | none => rfl
    | some value => rfl
  | failed failure => rfl
  | panicked panic => rfl

/-- Every place that bytes are read at is there, and every number that is computed from them has room, with the one
exception of the sign of groups that no server sends. -/
theorem read_safely (bytes : Bytes) (name : String) (index : Nat) :
    (ofBytes? bytes = none →
      decodeCell ⟨name, .numeric⟩ index (some bytes) = .failed (.decode name (.malformed index))) ∧
    ∀ number, ofBytes? bytes = some number →
      (¬number.Turns → ∃ value, decodeCell ⟨name, .numeric⟩ index (some bytes) = .ok value) ∧
      (number.Turns →
        decodeCell ⟨name, .numeric⟩ index (some bytes) =
            .panicked (.message "attempt to negate with overflow") ∧
          ∃ group ∈ number.groups, group < 0) := by
  constructor
  · intro refused
    rw [decodeCell_read, read_none refused]
    rfl
  · intro number held
    obtain ⟨word, narrow, read⟩ := read_some held
    rw [decodeCell_read, read]
    constructor
    · intro steady
      cases special? number.sign with
      | some double => exact ⟨_, rfl⟩
      | none =>
        obtain ⟨value, ended⟩ := value_ok word narrow steady
        exact ⟨value, by rw [Option.elim_none, ended]; rfl⟩
    · intro turns
      refine ⟨?_, turns.negative word narrow⟩
      rw [turns.sign]
      simp only [special?, negativeSign, Option.elim_none, value_turns turns]
      rfl

/-- A negative group with a negative sign, and groups that reach the least number. -/
theorem read_safely_negative :
    let plain : Bytes := [0, 1, 0, 0, 0x40, 0, 0, 0, 0xFF, 0xFF]
    let turning : Bytes :=
      [0, 5, 0, 4, 0x40, 0, 0, 0, 0xFC, 0x66, 0xF2, 0xD4, 0xFE, 0x90, 0xEA, 0x9B, 0xE9, 0x50]
    decodeCell ⟨"n", .numeric⟩ 0 (some [0, 1]) = .failed (.decode "n" (.malformed 0)) ∧
      (∃ value, decodeCell ⟨"n", .numeric⟩ 0 (some plain) = .ok value) ∧
      (⟨[-922, -3372, -368, -5477, -5808], 4, negativeSign, 0⟩ : Numeric).Turns ∧
      decodeCell ⟨"n", .numeric⟩ 0 (some turning) = .panicked (.message "attempt to negate with overflow") := by
  intro plain turning
  have steady : ¬(⟨[-1], 0, negativeSign, 0⟩ : Numeric).Turns := by
    intro turns
    exact absurd turns.magnitude nofun
  exact ⟨(read_safely [0, 1] "n" 0).1 rfl, ((read_safely plain "n" 0).2 _ rfl).1 steady, turns_negative_groups,
    (((read_safely turning "n" 0).2 _ rfl).2 turns_negative_groups).1⟩

/-- The groups of the least number, all negative, and the sign that turns it around. -/
theorem read_overflows :
    decodeCell ⟨"n", .numeric⟩ 0
        (some [0, 5, 0, 4, 0x40, 0, 0, 0, 0xFC, 0x66, 0xF2, 0xD4, 0xFE, 0x90, 0xEA, 0x9B, 0xE9, 0x50]) =
      .panicked (.message "attempt to negate with overflow") := by
  have held : ofBytes? [0, 5, 0, 4, 0x40, 0, 0, 0, 0xFC, 0x66, 0xF2, 0xD4, 0xFE, 0x90, 0xEA, 0x9B, 0xE9, 0x50] =
      some ⟨[-922, -3372, -368, -5477, -5808], 4, negativeSign, 0⟩ := rfl
  rw [decodeCell_read, (read_some held).2.2, value_turns turns_negative_groups]
  rfl

end SqlProgram.Postgres.Numeric
