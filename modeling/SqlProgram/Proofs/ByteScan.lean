import Mathlib.Data.String.Basic
import SqlProgram.Proofs.PlaceholderBalance

/-!
The scan of a text byte by byte. A character that is not ASCII has bytes that are no marks, so scanning bytes finds what
scanning characters finds, and what is between two placeholders is cut out of the text between characters.
-/

namespace SqlProgram

namespace Text

/-- The bytes of a character in UTF-8, each read as the character with its number. -/
def bytesOf (c : Char) : List Char := (String.utf8EncodeChar c).map Char.ofUInt8

def bytewise (text : String) : List Char := text.toByteArray.data.toList.map Char.ofUInt8

theorem bytewise_ofList (text : List Char) : bytewise (String.ofList text) = text.flatMap bytesOf := by
  rw [bytewise, String.toByteArray_ofList, List.utf8Encode, List.toList_data_toByteArray, List.map_flatMap]
  rfl

theorem bytewise_eq (text : String) : bytewise text = text.toList.flatMap bytesOf := by
  rw [← bytewise_ofList, String.ofList_toList]

theorem length_bytesOf (c : Char) : (bytesOf c).length = c.utf8Size := by
  rw [bytesOf, List.length_map, String.length_utf8EncodeChar]

theorem length_bytes (text : List Char) : (text.flatMap bytesOf).length = String.utf8Len text := by
  induction text with
  | nil => rfl
  | cons c rest ih => rw [List.flatMap_cons, List.length_append, length_bytesOf, ih, String.utf8Len_cons, Nat.add_comm]

theorem bytesOf_ascii {c : Char} (ascii : c.utf8Size = 1) : bytesOf c = [c] := by
  have small : c.val.toNat ≤ 127 := by rwa [Char.utf8Size_eq_one_iff, UInt32.le_iff_toNat_le] at ascii
  have same : Char.ofUInt8 c.val.toUInt8 = c := by
    apply Char.ext
    apply UInt32.toNat_inj.mp
    change (c.val.toUInt8.toUInt32).toNat = c.val.toNat
    rw [UInt8.toNat_toUInt32, UInt32.toNat_toUInt8]
    omega
  rw [bytesOf, String.utf8EncodeChar_eq_singleton ascii, List.map_singleton, same]

theorem le_of_mem_utf8EncodeChar {c : Char} (wide : c.utf8Size ≠ 1) {byte : UInt8}
    (member : byte ∈ String.utf8EncodeChar c) : 128 ≤ byte.toNat := by
  have large : ¬ c.val.toNat ≤ 127 := by rwa [Ne, Char.utf8Size_eq_one_iff, UInt32.le_iff_toNat_le] at wide
  have tagged (bits tag : Nat) (fits : bits + tag < 256) (marked : 128 ≤ tag) :
      128 ≤ (UInt8.ofNat (bits + tag)).toNat := by
    rw [UInt8.toNat_ofNat_of_lt' fits]
    omega
  simp only [String.utf8EncodeChar, large, if_false] at member
  split at member
  · rcases List.mem_pair.mp member with rfl | rfl <;> exact tagged _ _ (by omega) (by omega)
  · split at member
    · simp only [List.mem_cons, List.not_mem_nil, or_false] at member
      rcases member with rfl | rfl | rfl <;> exact tagged _ _ (by omega) (by omega)
    · simp only [List.mem_cons, List.not_mem_nil, or_false] at member
      rcases member with rfl | rfl | rfl | rfl <;> exact tagged _ _ (by omega) (by omega)

end Text

namespace Placeholder

def scan (text : String) : List Nat × Option Quote :=
  (positions none 0 (Text.bytewise text), openAfter none (Text.bytewise text))

theorem isPlaceholder_iff {state : Option Quote} {c : Char} :
    isPlaceholder state c = true ↔ state = none ∧ c = '?' := by
  rw [isPlaceholder, Bool.and_eq_true, Option.isNone_iff_eq_none, beq_iff_eq]

theorem positions_append (state : Option Quote) (offset : Nat) (first second : List Char) :
    positions state offset (first ++ second) =
      positions state offset first ++ positions (openAfter state first) (offset + first.length) second := by
  induction first generalizing state offset with
  | nil => rfl
  | cons c rest ih =>
    have later : openAfter state (c :: rest) = openAfter (step state c) rest := rfl
    have further : offset + (c :: rest).length = offset + 1 + rest.length := by
      rw [List.length_cons]
      omega
    simp only [List.cons_append, positions, ih, later, further]
    split <;> rfl

theorem lt_of_mem_positions {state : Option Quote} {offset place : Nat} {text : List Char}
    (member : place ∈ positions state offset text) : place < offset + text.length := by
  induction text generalizing state offset with
  | nil => cases member
  | cons c rest ih =>
    have later : place = offset ∨ place ∈ positions (step state c) (offset + 1) rest := by
      simp only [positions] at member
      split at member
      · exact List.mem_cons.mp member
      · exact .inr member
    rw [List.length_cons]
    rcases later with rfl | later
    · omega
    · have bound := ih later
      omega

theorem positions_shift (state : Option Quote) (first second : Nat) (text : List Char) :
    positions state (first + second) text = (positions state second text).map (first + ·) := by
  induction text generalizing state second with
  | nil => rfl
  | cons c rest ih =>
    simp only [positions, Nat.add_assoc, ih]
    split <;> rfl

/-- A character that is no mark changes nothing, wherever it stands. -/
theorem step_inert {c : Char} (plain : isPlain c) (state : Option Quote) : step state c = state := by
  cases state with
  | none => exact step_plain plain
  | some quote =>
    simp only [isPlain, Bool.and_eq_true, Option.isNone_iff_eq_none] at plain
    have other : c ≠ quote.mark := by
      rintro rfl
      rw [Quote.ofChar?_mark] at plain
      cases plain.1
    simp [step, other]

theorem isPlaceholder_inert {c : Char} (plain : isPlain c) (state : Option Quote) : isPlaceholder state c = false := by
  cases state with
  | none => exact isPlaceholder_plain plain
  | some quote => rfl

theorem inert_all {text : List Char} (plain : ∀ c ∈ text, isPlain c) (state : Option Quote) (offset : Nat) :
    openAfter state text = state ∧ positions state offset text = [] := by
  induction text generalizing offset with
  | nil => exact ⟨rfl, rfl⟩
  | cons c rest ih =>
    obtain ⟨first, others⟩ := List.forall_mem_cons.mp plain
    obtain ⟨kept, none⟩ := ih others (offset + 1)
    have later : openAfter state (c :: rest) = openAfter (step state c) rest := rfl
    simp only [later, positions, step_inert first, isPlaceholder_inert first, kept, none]
    exact ⟨trivial, rfl⟩

theorem isPlain_wide {c : Char} (wide : 128 ≤ c.toNat) : isPlain c := by
  refine isPlain_of (p := fun c => decide (128 ≤ c.toNat)) ⟨by decide, by decide, by decide⟩ ?_
  exact decide_eq_true wide

/-- The bytes of a character do to a scan what the character does. -/
theorem bytes_scanned (state : Option Quote) (offset : Nat) (c : Char) :
    openAfter state (Text.bytesOf c) = step state c ∧
      positions state offset (Text.bytesOf c) = if isPlaceholder state c then [offset] else [] := by
  by_cases ascii : c.utf8Size = 1
  · rw [Text.bytesOf_ascii ascii]
    exact ⟨rfl, rfl⟩
  · have wide : isPlain c := isPlain_wide <| by
      rw [Char.utf8Size_eq_one_iff, UInt32.le_iff_toNat_le] at ascii
      change ¬ c.toNat ≤ 127 at ascii
      omega
    have bytes : ∀ byte ∈ Text.bytesOf c, isPlain byte := by
      intro byte member
      obtain ⟨number, inside, rfl⟩ := List.mem_map.mp member
      exact isPlain_wide (Text.le_of_mem_utf8EncodeChar ascii inside)
    obtain ⟨kept, none⟩ := inert_all bytes state offset
    rw [kept, none, step_inert wide, isPlaceholder_inert wide]
    exact ⟨rfl, rfl⟩

theorem openAfter_bytes (state : Option Quote) (text : List Char) :
    openAfter state (text.flatMap Text.bytesOf) = openAfter state text := by
  induction text generalizing state with
  | nil => rfl
  | cons c rest ih =>
    have later : openAfter state (c :: rest) = openAfter (step state c) rest := rfl
    rw [List.flatMap_cons, openAfter_append, (bytes_scanned state 0 c).1, ih, later]

theorem positions_bytes_cons (state : Option Quote) (offset : Nat) (c : Char) (rest : List Char) :
    positions state offset ((c :: rest).flatMap Text.bytesOf) =
      (if isPlaceholder state c then [offset] else []) ++
        positions (step state c) (offset + c.utf8Size) (rest.flatMap Text.bytesOf) := by
  obtain ⟨stepped, found⟩ := bytes_scanned state offset c
  rw [List.flatMap_cons, positions_append, stepped, found, Text.length_bytesOf]

/-- The offset of a placeholder in bytes is the length of what stands in front of it. -/
theorem positions_bytes (state : Option Quote) (front rest : List Char) :
    positions state (String.utf8Len front) (rest.flatMap Text.bytesOf) =
      (positions state front.length rest).map fun place => String.utf8Len ((front ++ rest).take place) := by
  induction rest generalizing state front with
  | nil => rfl
  | cons c rest ih =>
    have room : String.utf8Len front + c.utf8Size = String.utf8Len (front ++ [c]) := by
      rw [String.utf8Len_append]
      simp
    have further : front.length + 1 = (front ++ [c]).length := by simp
    have whole : front ++ c :: rest = front ++ [c] ++ rest := List.append_cons front c rest
    rw [positions_bytes_cons, room, ih, positions, further, whole]
    split
    · simp
    · rfl

theorem scan_eq (text : String) :
    scan text = ((positions none 0 text.toList).map fun place => String.utf8Len (text.toList.take place),
      openAfter none text.toList) := by
  rw [scan, Text.bytewise_eq, openAfter_bytes]
  exact congrArg (·, openAfter none text.toList) (positions_bytes none [] text.toList)

theorem count_bytes (state : Option Quote) (text : List Char) :
    count state (text.flatMap Text.bytesOf) = count state text := by
  have places := congrArg List.length (positions_bytes state [] text)
  rwa [List.length_map, length_positions, length_positions] at places

theorem length_scan (text : String) : (scan text).1.length = count none text.toList := by
  rw [scan, length_positions, Text.bytewise_eq, count_bytes]

theorem scan_lt {text : String} {place : Nat} (member : place ∈ (scan text).1) :
    place < String.utf8Len text.toList := by
  have bound := lt_of_mem_positions member
  rwa [Nat.zero_add, Text.bytewise_eq, Text.length_bytes] at bound

/-- Behind a text that leaves no quote open, a scan begins anew. -/
theorem scan_append {first : List Char} (closed : openAfter none first = none) (second : List Char) :
    (scan (String.ofList (first ++ second))).1 =
      (scan (String.ofList first)).1 ++ (scan (String.ofList second)).1.map (String.utf8Len first + ·) := by
  simp only [scan, Text.bytewise_ofList]
  rw [List.flatMap_append, positions_append, openAfter_bytes, closed, Nat.zero_add, Text.length_bytes,
    ← positions_shift, Nat.add_zero]

end Placeholder

end SqlProgram
