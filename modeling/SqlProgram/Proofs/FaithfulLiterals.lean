import SqlProgram.Proofs.LiteralText
import SqlProgram.Proofs.ScannedTokens

/-!
Defaults beside the literals of statements. A default is written as a keyword, as a number or as one string in
quotes, and what stands in the quotes is the text of the value. The exception is a number that is not finite: its name
is written without quotes, where a statement has the names of columns.
-/

namespace SqlProgram

structure IsDigits (text : List Char) : Prop where
  written : text ≠ []
  digits : ∀ c ∈ text, c.isDigit

inductive IsDecimal : List Char → Prop where
  | whole {digits : List Char} (front : IsDigits digits) : IsDecimal digits
  | pointed {digits fraction : List Char} (front : IsDigits digits) (back : IsDigits fraction) :
      IsDecimal (digits ++ '.' :: fraction)

/-- What a statement reads as a value: a keyword, a number with or without a sign, or a string in which every quote is
written twice. -/
inductive IsLiteral : List Char → Prop where
  | keyword {word : String} (known : word ∈ ["null", "true", "false"]) : IsLiteral word.toList
  | number {text : List Char} (decimal : IsDecimal text) : IsLiteral text
  | signed {sign : Char} {text : List Char} (known : sign ∈ ['+', '-']) (decimal : IsDecimal text) :
      IsLiteral (sign :: text)
  | string (content : List Char) : IsLiteral (Text.Quoted.enclose '\'' content)

/-! Numbers as they are written without an exponent. -/

theorem isDigits_toDigits (value : Nat) : IsDigits (Nat.toDigits 10 value) where
  written := Nat.toDigits_ne_nil
  digits _ member := Nat.isDigit_of_mem_toDigits (by omega) (by omega) member

theorem isDigit_of_mem_zeros {count : Nat} {c : Char} (member : c ∈ Decimal.Layout.zeros count) : c.isDigit := by
  rw [List.eq_of_mem_replicate member]
  decide

namespace IsDigits

variable {text : List Char} (run : IsDigits text) (count : Nat)
include run

theorem append_zeros : IsDigits (text ++ Decimal.Layout.zeros count) where
  written := List.append_ne_nil_of_left_ne_nil run.written _
  digits c member := (List.mem_append.mp member).elim (run.digits c) isDigit_of_mem_zeros

theorem zeros_append : IsDigits (Decimal.Layout.zeros count ++ text) where
  written := List.append_ne_nil_of_right_ne_nil _ run.written
  digits c member := (List.mem_append.mp member).elim isDigit_of_mem_zeros (run.digits c)

theorem take (inside : 0 < count) : IsDigits (text.take count) where
  written empty := (List.take_eq_nil_iff.mp empty).elim (by omega) run.written
  digits c member := run.digits c (List.mem_of_mem_take member)

theorem drop (inside : count < text.length) : IsDigits (text.drop count) where
  written empty := absurd (List.drop_eq_nil_iff.mp empty) (by omega)
  digits c member := run.digits c (List.mem_of_mem_drop member)

end IsDigits

theorem isDigits_zero : IsDigits ['0'] := isDigits_toDigits 0

theorem isDecimal_writePositional (layout : Decimal.Layout) {digits : List Char} (run : IsDigits digits)
    (places : Int) : IsDecimal (layout.writePositional digits places) := by
  unfold Decimal.Layout.writePositional
  by_cases small : places ≤ 0
  · rw [if_pos small]
    exact .pointed isDigits_zero (run.zeros_append _)
  · rw [if_neg small]
    by_cases whole : digits.length ≤ places.toNat
    · have front := run.append_zeros (places.toNat - digits.length)
      cases pointed : layout.pointed with
      | false => simpa [whole, pointed] using IsDecimal.whole front
      | true => simpa [whole, pointed] using IsDecimal.pointed front isDigits_zero
    · have front := run.take places.toNat (by omega)
      have back := run.drop places.toNat (by omega)
      simpa [whole] using IsDecimal.pointed front back

theorem isDecimal_write {layout : Decimal.Layout} (all : layout.positional = none) (number : Decimal.Scientific) :
    IsDecimal (layout.write number) := by
  unfold Decimal.Layout.write
  by_cases zero : number.digits = 0
  · cases pointed : layout.pointed with
    | false => simpa [zero, pointed] using IsDecimal.whole isDigits_zero
    | true => simpa [zero, pointed] using IsDecimal.pointed isDigits_zero isDigits_zero
  · rw [if_neg zero, all]
    exact isDecimal_writePositional layout (isDigits_toDigits _) number.places

theorem isLiteral_writeBinary {layout : Decimal.Layout} (all : layout.positional = none) (negative : Bool)
    (magnitude : Decimal.Magnitude) : IsLiteral (layout.writeBinary negative magnitude) := by
  have decimal := isDecimal_write all (magnitude.shortest layout.tie)
  cases negative with
  | false => exact .number decimal
  | true => exact .signed (by decide) decimal

theorem isLiteral_int (value : Int) : IsLiteral (toString value).toList := by
  rw [toList_int]
  split
  · exact .signed (by decide) (.whole (isDigits_toDigits value.natAbs))
  · exact .number (.whole (isDigits_toDigits value.natAbs))

theorem toList_int_injective : Function.Injective fun value : Int => (toString value).toList := by
  have minus (value : Nat) : '-' ∉ Nat.toDigits 10 value :=
    fun member => absurd ((isDigits_toDigits value).digits '-' member) (by decide)
  intro first second same
  simp only [toList_int] at same
  have signs : first < 0 ↔ second < 0 := by
    have mem := congrArg ('-' ∈ ·) same
    by_cases one : first < 0 <;> by_cases two : second < 0 <;> simp [one, two, minus] at mem ⊢
  simp only [signs] at same
  have read := congrArg (Nat.ofDigitChars 10 · 0) (List.append_cancel_left same)
  simp only [Nat.ofDigitChars_ten_toDigits] at read
  omega

theorem IsDecimal.head {text : List Char} (decimal : IsDecimal text) : ∃ c rest, text = c :: rest ∧ c.isDigit := by
  have begins {digits : List Char} (run : IsDigits digits) : ∃ c rest, digits = c :: rest ∧ c.isDigit := by
    obtain ⟨c, rest, rfl⟩ := List.exists_cons_of_ne_nil run.written
    exact ⟨c, rest, rfl, run.digits c (List.mem_cons_self ..)⟩
  cases decimal with
  | whole front => exact begins front
  | pointed front back =>
    obtain ⟨c, rest, rfl, digit⟩ := begins front
    exact ⟨c, rest ++ '.' :: _, rfl, digit⟩

def specialNames : List String := ["NaN", "inf", "-inf"]

/-- Such a name has a letter where a number has its first digit, and it is none of the keywords. -/
theorem not_isLiteral_special {name : String} (special : name ∈ specialNames) : ¬ IsLiteral name.toList := by
  have unknown : ∀ name ∈ specialNames, name ∉ ["null", "true", "false"] := by decide
  have apart : ∀ name ∈ specialNames, ∀ c ∈ name.toList.take 2, c.isDigit = false ∧ c ≠ '\'' := by
    simp [specialNames]
  intro literal
  generalize written : name.toList = text at literal
  have starts := apart name special
  rw [written] at starts
  cases literal with
  | keyword known => exact unknown name special (String.toList_injective written ▸ known)
  | number decimal =>
    obtain ⟨c, rest, rfl, digit⟩ := decimal.head
    exact absurd digit (by simp [(starts c (by simp)).1])
  | signed known decimal =>
    obtain ⟨c, rest, rfl, digit⟩ := decimal.head
    exact absurd digit (by simp [(starts c (by simp)).1])
  | string content => exact (starts '\'' (by simp [Text.Quoted.enclose])).2 rfl

namespace Text.Hex

theorem value?_digit {value : Nat} (small : value < 16) : value? (digit value) = some value := by
  revert value
  decide

/-- Pairs of digits are read as the bytes that they were written for. -/
theorem decode?_encode (bytes : List UInt8) : decode? (encode bytes) = some bytes := by
  induction bytes with
  | nil => rfl
  | cons byte bytes ih =>
    have pair : encode (byte :: bytes) = digit (byte.toNat / 16) :: digit (byte.toNat % 16) :: encode bytes := rfl
    have bound := byte.toNat_lt
    have halves : 16 * (byte.toNat / 16) + byte.toNat % 16 = byte.toNat := by omega
    rw [pair, decode?, value?_digit (by omega), value?_digit (by omega), ih]
    simp only [Option.bind_eq_bind, Option.bind_some, Option.pure_def, halves, UInt8.ofNat_toNat]

theorem encode_injective : Function.Injective encode := by
  intro first second same
  have read := congrArg decode? same
  rw [decode?_encode, decode?_encode] at read
  exact Option.some.inj read

theorem ne_hyphen_of_mem_encode {bytes : List UInt8} {c : Char} (member : c ∈ encode bytes) : c ≠ '-' := by
  have apart : ∀ value < 16, digit value ≠ '-' := by decide
  obtain ⟨byte, -, half⟩ := List.mem_flatMap.mp member
  have bound := byte.toNat_lt
  rcases List.mem_pair.mp half with rfl | rfl
  · exact apart _ (by omega)
  · exact apart _ (by omega)

end Text.Hex

theorem Uuid.filter_chars (uuid : Uuid) : uuid.chars.filter (· != '-') = Text.Hex.encode uuid.bytes := by
  have hyphen (text : List Char) : ('-' :: text).filter (· != '-') = text.filter (· != '-') := rfl
  have kept : (Text.Hex.encode uuid.bytes).filter (· != '-') = Text.Hex.encode uuid.bytes :=
    List.filter_eq_self.mpr fun c member => bne_iff_ne.mpr (Text.Hex.ne_hyphen_of_mem_encode member)
  have cut (start count : Nat) (text : List Char) :
      (text.drop start).take count ++ text.drop (start + count) = text.drop start := by
    rw [← List.drop_drop, List.take_append_drop]
  dsimp only [chars]
  simp only [List.filter_append, hyphen]
  rw [← List.filter_append, cut 16 4, ← List.filter_append, cut 12 4, ← List.filter_append, cut 8 4,
    ← List.filter_append, List.take_append_drop, kept]

theorem Uuid.chars_injective : Function.Injective Uuid.chars := by
  intro first second same
  have digits := congrArg (List.filter (· != '-')) same
  rw [filter_chars, filter_chars] at digits
  obtain ⟨bytes, length⟩ := first
  obtain ⟨others, length'⟩ := second
  obtain rfl : bytes = others := Text.Hex.encode_injective digits
  rfl

namespace Value

/-- All values but the binary numbers that are infinite or no number at all. -/
def IsFinite : Value → Prop
  | .float value => ∃ negative magnitude, value.binary = .finite negative magnitude
  | _ => True

/-- The kinds that are written in quotes. -/
def isQuoted : Value → Bool
  | .null | .bool _ | .int _ | .float _ => false
  | .text _ | .bytes _ | .uuid _ | .date _ | .timestamp _ | .json _ => true

/-- A text itself, the digits of bytes behind their mark, and what all other values show. -/
def ownText : Value → List Char
  | .text value => value.toList
  | .bytes value => '\\' :: 'x' :: Text.Hex.encode value
  | value => value.display.toList

theorem literal_special {value : Value} (infinite : ¬ value.IsFinite) :
    ∃ name ∈ specialNames, value.literal = name.toList := by
  cases value with
  | float value =>
    refine ⟨binaryText value.binary, ?_, rfl⟩
    cases binary : value.binary with
    | nan negative | infinite negative => cases negative <;> decide
    | finite negative magnitude => exact absurd ⟨negative, magnitude, binary⟩ infinite
  | null | bool | int | text | bytes | uuid | date | timestamp | json => exact absurd trivial infinite

theorem isLiteral_literal {value : Value} (finite : value.IsFinite) : IsLiteral value.literal := by
  cases value with
  | null => exact .keyword (by decide)
  | bool value => cases value <;> exact .keyword (by decide)
  | int value => exact isLiteral_int value.toInt
  | float value =>
    obtain ⟨negative, magnitude, binary⟩ := finite
    have text : (Value.float value).literal = floatLayout.writeBinary negative magnitude := by
      rw [literal, binary, binaryText, String.toList_ofList]
    rw [text]
    exact isLiteral_writeBinary rfl negative magnitude
  | text | bytes | uuid | date | timestamp | json => exact .string _

theorem literal_quoted {value : Value} (quoted : value.isQuoted) :
    value.literal = Text.Quoted.enclose '\'' value.ownText := by
  cases value with
  | null | bool | int | float => cases quoted
  | text | bytes => rfl
  | uuid | date | timestamp | json => exact congrArg (Text.Quoted.enclose '\'') String.toList_ofList.symm

theorem literal_bare {value : Value} (bare : value.isQuoted = false) : value.literal = value.ownText := by
  cases value with
  | null | bool | int | float => rfl
  | text | bytes | uuid | date | timestamp | json => cases bare

theorem literal_bool_injective : Function.Injective (literal ∘ bool) := by
  intro first second same
  cases first <;> cases second <;> first | rfl | exact absurd same (by decide)

theorem literal_int_injective : Function.Injective (literal ∘ int) :=
  fun _ _ same => Int64.toInt_inj.mp (toList_int_injective same)

theorem literal_text_injective : Function.Injective (literal ∘ text) :=
  fun _ _ same => String.toList_injective (Text.Quoted.enclose_injective '\'' same)

theorem literal_bytes_injective : Function.Injective (literal ∘ bytes) := by
  intro first second same
  have marked := Text.Quoted.enclose_injective '\'' same
  exact Text.Hex.encode_injective (List.cons.inj (List.cons.inj marked).2).2

theorem literal_uuid_injective : Function.Injective (literal ∘ uuid) :=
  fun _ _ same => Uuid.chars_injective (Text.Quoted.enclose_injective '\'' same)

def distinctKinds : List String := ["text", "bytes", "int", "bool", "uuid"]

theorem eq_of_literal {value other : Value} (distinct : value.kind ∈ distinctKinds) (alike : other.kind = value.kind)
    (same : other.literal = value.literal) : other = value := by
  cases value with
  | bool value =>
    cases other with
    | bool other => exact congrArg bool (literal_bool_injective same)
    | _ => exact absurd alike (by simp [kind])
  | int value =>
    cases other with
    | int other => exact congrArg int (literal_int_injective same)
    | _ => exact absurd alike (by simp [kind])
  | text value =>
    cases other with
    | text other => exact congrArg text (literal_text_injective same)
    | _ => exact absurd alike (by simp [kind])
  | bytes value =>
    cases other with
    | bytes other => exact congrArg bytes (literal_bytes_injective same)
    | _ => exact absurd alike (by simp [kind])
  | uuid value =>
    cases other with
    | uuid other => exact congrArg uuid (literal_uuid_injective same)
    | _ => exact absurd alike (by simp [kind])
  | null | float | date | timestamp | json => exact absurd distinct (by simp [kind, distinctKinds])

/-- What a value is written as, beside the value. A string is one token for the scanner of statements, and the content
of that token is the text of the value. -/
structure IsFaithful (value : Value) : Prop where
  isLiteral_iff : IsLiteral value.literal ↔ value.IsFinite
  special : ¬ value.IsFinite → ∃ name ∈ specialNames, value.literal = name.toList
  bare : value.isQuoted = false → value.literal = value.ownText
  quoted : value.isQuoted → ∀ lexed, Lexes value.literal lexed ↔ lexed = [.quoted .single value.ownText]
  distinct : value.kind ∈ distinctKinds → ∀ other : Value, other.kind = value.kind →
    other.literal = value.literal → other = value

/-- Every default but the special numbers is written as one literal, from which its text can be told. Texts, bytes,
whole numbers, truth values and identifiers can themselves be told from others of their kind. -/
theorem literal_faithful (value : Value) : value.IsFaithful where
  isLiteral_iff := by
    refine ⟨fun written => ?_, isLiteral_literal⟩
    by_contra infinite
    obtain ⟨name, special, text⟩ := literal_special infinite
    exact not_isLiteral_special special (text ▸ written)
  special := literal_special
  bare := literal_bare
  quoted quoted lexed := by
    have read : tokens value.literal = [.quoted .single value.ownText] := by
      rw [literal_quoted quoted]
      exact tokens_enclosed .single value.ownText
    rw [lexes_iff, read]
  distinct distinct _ := eq_of_literal distinct

/-- An interchange value in one token: its own quotes stay as they are, and the quote in its text is written twice. -/
theorem literal_faithful_nested :
    let value : Value := .json (.array [.text "it's", .null])
    value.literal = "'[\"it''s\",null]'".toList ∧ IsLiteral value.literal ∧
      ∀ lexed, Lexes value.literal lexed ↔ lexed = [.quoted .single "[\"it's\",null]".toList] := by
  intro value
  exact ⟨by decide, (literal_faithful value).isLiteral_iff.mpr trivial, (literal_faithful value).quoted rfl⟩

/-- What is no number is written as a bare word, which is no literal. -/
theorem literal_nan :
    (Value.float Double.nan).literal = "NaN".toList ∧ ¬ IsLiteral (Value.float Double.nan).literal := by
  have written : (Value.float Double.nan).literal = "NaN".toList := rfl
  exact ⟨written, written ▸ not_isLiteral_special (by decide)⟩

end Value

end SqlProgram
