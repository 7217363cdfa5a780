import SqlProgram.Value.Literal

/-!
What literals are made of. Numbers are written with letters, digits, points and signs only, in every layout, and what
stands in quotes can be told from the text.
-/

namespace SqlProgram

def isBare (c : Char) : Bool := c.isAlphanum || c == '.' || c == '-' || c == '+'

theorem isBare_of_isDigit {c : Char} (digit : c.isDigit) : isBare c := by
  simp [isBare, Char.isAlphanum, digit]

theorem all_take {p : Char → Bool} {text : List Char} (all : text.all p) (count : Nat) : (text.take count).all p := by
  rw [List.all_eq_true] at all ⊢
  exact fun c member => all c (List.mem_of_mem_take member)

theorem all_drop {p : Char → Bool} {text : List Char} (all : text.all p) (count : Nat) : (text.drop count).all p := by
  rw [List.all_eq_true] at all ⊢
  exact fun c member => all c (List.mem_of_mem_drop member)

theorem digits_bare (value : Nat) : (Nat.toDigits 10 value).all isBare := by
  rw [List.all_eq_true]
  intro c member
  exact isBare_of_isDigit (Nat.isDigit_of_mem_toDigits (by omega) (by omega) member)

theorem toList_int (value : Int) :
    (toString value).toList = (if value < 0 then ['-'] else []) ++ Nat.toDigits 10 value.natAbs := by
  cases value with
  | ofNat value =>
    have text : toString (Int.ofNat value) = String.ofList (Nat.toDigits 10 value) := Nat.toString_eq_ofList_toDigits
    rw [text, String.toList_ofList, if_neg (by simp), List.nil_append, Int.natAbs_ofNat']
  | negSucc value =>
    have text : toString (Int.negSucc value) = "-" ++ toString (value + 1) := rfl
    rw [text, String.toList_append, Nat.toString_eq_ofList_toDigits, String.toList_ofList, String.toList_ofList,
      if_pos (Int.negSucc_lt_zero value), Int.natAbs_negSucc]

theorem int_bare (value : Int) : (toString value).toList.all isBare := by
  have sign : (if value < 0 then ['-'] else []).all isBare := by split <;> decide
  rw [toList_int, List.all_append, sign, digits_bare, Bool.and_self]

namespace Text.Quoted

/-- What stands in quotes is cut off from the front of a text in one way only, where no other quote follows. -/
theorem enclose_append_inj {quote : Char} {first second rest other : List Char} (ends : rest.head? ≠ some quote)
    (halts : other.head? ≠ some quote) (same : enclose quote first ++ rest = enclose quote second ++ other) :
    first = second ∧ rest = other := by
  simp only [enclose, List.cons_append, List.append_assoc, List.nil_append, List.cons.injEq, true_and] at same
  have read := congrArg (readRest quote) same
  rw [readRest_double quote first rest ends, readRest_double quote second other halts] at read
  cases read
  exact ⟨rfl, rfl⟩

theorem enclose_injective (quote : Char) : Function.Injective (enclose quote) := by
  intro first second same
  have alone : ([] : List Char).head? ≠ some quote := by simp
  exact (enclose_append_inj alone alone (congrArg (· ++ []) same)).1

end Text.Quoted

namespace Decimal.Layout

theorem zeros_bare (count : Nat) : (zeros count).all isBare := by
  rw [List.all_eq_true]
  intro c member
  rw [List.eq_of_mem_replicate member]
  decide

theorem writePositional_bare (layout : Layout) {digits : List Char} (places : Int)
    (bare : digits.all isBare) : (layout.writePositional digits places).all isBare := by
  have point : isBare '.' := by decide
  have zero : isBare '0' := by decide
  unfold writePositional
  by_cases small : places ≤ 0
  · simp only [small, if_true, List.all_cons, List.all_append, zeros_bare, bare, point, zero, Bool.and_self]
  · by_cases whole : digits.length ≤ places.toNat
    · have ending : (if layout.pointed then ['.', '0'] else []).all isBare := by split <;> decide
      simp only [small, whole, if_true, if_false, List.all_append, zeros_bare, bare, ending, Bool.and_self]
    · have front := all_take bare places.toNat
      have back := all_drop bare places.toNat
      simp only [small, whole, if_false, List.all_append, List.all_cons, front, back, point, Bool.and_self]

theorem writeExponent_bare (layout : Layout) {digits : List Char} (places : Int)
    (bare : digits.all isBare) : (layout.writeExponent digits places).all isBare := by
  have point : isBare '.' := by decide
  have mark : isBare 'e' := by decide
  have front := all_take bare 1
  have back := all_drop bare 1
  have pointed : (if digits.length ≤ 1 then digits else digits.take 1 ++ '.' :: digits.drop 1).all isBare := by
    split
    · exact bare
    · simp only [List.all_append, List.all_cons, front, back, point, Bool.and_self]
  have sign : (if places - 1 < 0 then ['-'] else if layout.signed then ['+'] else []).all isBare := by
    split
    · decide
    · split <;> decide
  simp only [writeExponent, List.all_append, List.all_cons, pointed, sign, mark, digits_bare, Bool.and_self]

theorem write_bare (layout : Layout) (number : Scientific) : (layout.write number).all isBare := by
  unfold write
  split
  · split <;> decide
  · cases layout.positional with
    | none => exact writePositional_bare layout _ (digits_bare _)
    | some range =>
      dsimp only
      split
      · exact writePositional_bare layout _ (digits_bare _)
      · exact writeExponent_bare layout _ (digits_bare _)

theorem writeBinary_bare (layout : Layout) (negative : Bool) (magnitude : Magnitude) :
    (layout.writeBinary negative magnitude).all isBare := by
  have sign : (if negative then ['-'] else []).all isBare := by split <;> decide
  simp only [writeBinary, List.all_append, sign, write_bare, Bool.and_self]

end Decimal.Layout

namespace Value

theorem binaryText_bare (number : Decimal.Binary) : (binaryText number).toList.all isBare := by
  cases number with
  | nan negative =>
    change "NaN".toList.all isBare
    decide
  | infinite negative => cases negative <;> decide
  | finite negative magnitude =>
    simp only [binaryText, String.toList_ofList]
    exact Decimal.Layout.writeBinary_bare _ negative magnitude

theorem literal_cases (value : Value) :
    value.literal.all isBare ∨ ∃ content, value.literal = Text.Quoted.enclose '\'' content := by
  cases value with
  | null => exact .inl (by decide)
  | bool value => cases value <;> exact .inl (by decide)
  | int value => exact .inl (int_bare value.toInt)
  | float value => exact .inl (binaryText_bare value.binary)
  | text | bytes | uuid | date | timestamp | json => exact .inr ⟨_, rfl⟩

end Value

end SqlProgram
