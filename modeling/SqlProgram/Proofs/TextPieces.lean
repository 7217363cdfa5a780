import SqlProgram.Proofs.BoundText
import SqlProgram.Proofs.ByteScan

/-!
A text in pieces: what stands before, between and behind its placeholders. The pieces can be cut out of the text by the
offsets that a scan finds, and to replace the placeholders is to put something else between the pieces.
-/

namespace SqlProgram

namespace Text

/-- What lies between two byte offsets, if they are in order, in the text and between characters. -/
def slice? (text : String) (first last : Nat) : Option String :=
  if first ≤ last ∧ String.Pos.Raw.isValid text ⟨first⟩ ∧ String.Pos.Raw.isValid text ⟨last⟩ then
    some (String.Pos.Raw.extract text ⟨first⟩ ⟨last⟩)
  else none

/-- The text from `first` on, cut at the given offsets; the byte at each of them is left out. -/
def cutFrom? (text : String) (first : Nat) : List Nat → Option (List String)
  | [] => (slice? text first text.utf8ByteSize).map ([·])
  | offset :: offsets => do
    let piece ← slice? text first offset
    let pieces ← cutFrom? text (offset + 1) offsets
    return piece :: pieces

def interleave (pieces gaps : List (List Char)) : List Char := (List.zipWith (· ++ ·) pieces (gaps ++ [[]])).flatten

theorem interleave_cons (piece gap : List Char) (pieces gaps : List (List Char)) :
    interleave (piece :: pieces) (gap :: gaps) = piece ++ (gap ++ interleave pieces gaps) := by
  simp [interleave]

theorem interleave_modifyHead (c : Char) {pieces : List (List Char)} (filled : pieces ≠ []) (gaps : List (List Char)) :
    interleave (pieces.modifyHead (c :: ·)) gaps = c :: interleave pieces gaps := by
  obtain ⟨piece, rest, rfl⟩ := List.exists_cons_of_ne_nil filled
  cases gaps <;> rfl

theorem isValid_utf8Len (front back : List Char) :
    String.Pos.Raw.isValid (String.ofList (front ++ back)) ⟨String.utf8Len front⟩ = true := by
  rw [String.Pos.Raw.isValid_eq_true_iff, String.Pos.Raw.isValid_iff_exists_append]
  refine ⟨String.ofList front, String.ofList back, String.ofList_append, ?_⟩
  rw [← String.utf8ByteSize_ofList]
  rfl

theorem slice?_middle (front middle back : List Char) :
    slice? (String.ofList (front ++ middle ++ back)) (String.utf8Len front) (String.utf8Len (front ++ middle)) =
      some (String.ofList middle) := by
  have begins : String.Pos.Raw.isValid (String.ofList (front ++ middle ++ back)) ⟨String.utf8Len front⟩ = true := by
    rw [List.append_assoc]
    exact isValid_utf8Len front (middle ++ back)
  have ends := isValid_utf8Len (front ++ middle) back
  have order : String.utf8Len front ≤ String.utf8Len (front ++ middle) := by
    rw [String.utf8Len_append]
    exact Nat.le_add_right ..
  rw [slice?, if_pos ⟨order, begins, ends⟩, String.utf8Len_append, String.extract_of_valid]

end Text

namespace Placeholder

def pieces (state : Option Quote) : List Char → List (List Char)
  | [] => [[]]
  | c :: rest =>
    if isPlaceholder state c then [] :: pieces (step state c) rest
    else (pieces (step state c) rest).modifyHead (c :: ·)

theorem length_pieces (state : Option Quote) (text : List Char) :
    (pieces state text).length = count state text + 1 := by
  induction text generalizing state with
  | nil => rfl
  | cons c rest ih =>
    simp only [pieces, count]
    split <;> simp [ih]
    omega

theorem pieces_ne_nil (state : Option Quote) (text : List Char) : pieces state text ≠ [] := by
  rw [← List.length_pos_iff, length_pieces]
  exact Nat.zero_lt_succ _

theorem pieces_cons_mark {state : Option Quote} {c : Char} (found : isPlaceholder state c = true) (rest : List Char) :
    pieces state (c :: rest) = [] :: pieces (step state c) rest := by
  rw [pieces, if_pos found]

theorem pieces_cons_kept {state : Option Quote} {c : Char} (kept : isPlaceholder state c = false) (rest : List Char) :
    pieces state (c :: rest) = (pieces (step state c) rest).modifyHead (c :: ·) := by
  rw [pieces, if_neg (by simp [kept])]

/-- The first piece is still growing when the scan is at the beginning of `rest`. -/
theorem cutFrom?_bytes (state : Option Quote) (front middle rest : List Char) :
    Text.cutFrom? (String.ofList (front ++ middle ++ rest)) (String.utf8Len front)
        (positions state (String.utf8Len (front ++ middle)) (rest.flatMap Text.bytesOf)) =
      some (((pieces state rest).modifyHead (middle ++ ·)).map String.ofList) := by
  induction rest generalizing state front middle with
  | nil =>
    have sliced := Text.slice?_middle front middle []
    have room : (String.ofList (front ++ middle ++ [])).utf8ByteSize = String.utf8Len (front ++ middle) := by
      rw [List.append_nil, String.utf8ByteSize_ofList]
    rw [List.flatMap_nil, positions, Text.cutFrom?, room, sliced]
    simp [pieces]
  | cons c rest ih =>
    have room : String.utf8Len (front ++ middle) + c.utf8Size = String.utf8Len (front ++ (middle ++ [c])) := by
      rw [← List.append_assoc, String.utf8Len_append (front ++ middle)]
      simp
    cases found : isPlaceholder state c with
    | true =>
      have mark : c.utf8Size = 1 := by
        rw [(isPlaceholder_iff.mp found).2]
        rfl
      -- The piece ends here, and the next one is empty so far.
      have sliced := Text.slice?_middle front middle (c :: rest)
      have others := ih (step state c) (front ++ (middle ++ [c])) []
      have whole : front ++ (middle ++ [c]) ++ [] ++ rest = front ++ middle ++ c :: rest := by simp
      have same : (pieces (step state c) rest).modifyHead ([] ++ ·) = pieces (step state c) rest :=
        congrFun List.modifyHead_id _
      rw [List.append_nil, ← room, mark, same, ← List.append_nil (front ++ _), whole] at others
      rw [positions_bytes_cons, if_pos found, List.singleton_append, Text.cutFrom?, sliced, mark,
        pieces_cons_mark found]
      simp only [Option.bind_eq_bind, Option.bind_some, others]
      simp
    | false =>
      have others := ih (step state c) front (middle ++ [c])
      have whole : front ++ (middle ++ [c]) ++ rest = front ++ middle ++ c :: rest := by simp
      rw [whole, ← room] at others
      rw [positions_bytes_cons, if_neg (by simp [found]), List.nil_append, others, pieces_cons_kept found,
        List.modifyHead_modifyHead]
      refine congrArg (fun grow => some ((List.modifyHead grow _).map String.ofList)) ?_
      funext piece
      exact (List.append_cons middle c piece).symm

theorem cutFrom?_scan (text : String) :
    ∃ cut, Text.cutFrom? text 0 (scan text).1 = some cut ∧ cut.map String.toList = pieces none text.toList := by
  refine ⟨(pieces none text.toList).map String.ofList, ?_, ?_⟩
  · have cut := cutFrom?_bytes none [] [] text.toList
    have same : (pieces none text.toList).modifyHead ([] ++ ·) = pieces none text.toList :=
      congrFun List.modifyHead_id _
    rw [same, ← Text.bytewise_eq, List.nil_append, List.nil_append, String.ofList_toList] at cut
    exact cut
  · rw [List.map_map]
    exact (List.map_congr_left fun piece _ => String.toList_ofList).trans (List.map_id _)

/-- To replace the placeholders is to fill the gaps between the pieces, and nothing else is changed. -/
theorem substitute_eq_interleave (replace : Nat → List Char) (state : Option Quote) (before : Nat) (text : List Char) :
    substitute replace state before text =
      Text.interleave (pieces state text) ((List.range' before (count state text)).map replace) := by
  induction text generalizing state before with
  | nil => rfl
  | cons c rest ih =>
    cases found : isPlaceholder state c with
    | true =>
      have counted : count state (c :: rest) = count (step state c) rest + 1 := by
        simp only [count, found, if_true, Nat.add_comm]
      rw [pieces_cons_mark found, counted, List.range'_succ, List.map_cons, Text.interleave_cons, ← ih, substitute,
        if_pos found, List.nil_append]
    | false =>
      have counted : count state (c :: rest) = count (step state c) rest := by
        simp only [count, found, Bool.false_eq_true, if_false, Nat.zero_add]
      rw [pieces_cons_kept found, counted, Text.interleave_modifyHead c (pieces_ne_nil _ _), ← ih, substitute,
        if_neg (by simp [found])]

theorem eq_interleave (text : List Char) :
    text = Text.interleave (pieces none text) (List.replicate (count none text) ['?']) := by
  have marks : (List.range' 0 (count none text)).map (fun _ => ['?']) = List.replicate (count none text) ['?'] := by
    simp [List.map_const']
  rw [← marks, ← substitute_eq_interleave, substitute_same fun _ _ => rfl]

theorem pieces_append {state : Option Quote} {first : List Char} (outside : openAfter state first = none)
    (second : List Char) : pieces state (first ++ '?' :: second) = pieces state first ++ pieces none second := by
  induction first generalizing state with
  | nil =>
    cases outside
    rfl
  | cons c rest ih =>
    have others : pieces (step state c) (rest ++ '?' :: second) = pieces (step state c) rest ++ pieces none second :=
      ih outside
    cases found : isPlaceholder state c with
    | true => rw [List.cons_append, pieces_cons_mark found, pieces_cons_mark found, others, List.cons_append]
    | false =>
      obtain ⟨piece, more, same⟩ := List.exists_cons_of_ne_nil (pieces_ne_nil (step state c) rest)
      rw [List.cons_append, pieces_cons_kept found, pieces_cons_kept found, others, same]
      rfl

theorem exists_mark {state : Option Quote} {text : List Char} {index : Nat} (inside : index < count state text) :
    ∃ first second, text = first ++ '?' :: second ∧ openAfter state first = none ∧ count state first = index := by
  induction text generalizing state index with
  | nil => cases inside
  | cons c rest ih =>
    cases found : isPlaceholder state c with
    | true =>
      simp only [count, found, if_true] at inside
      cases index with
      | zero =>
        obtain ⟨outside, mark⟩ := isPlaceholder_iff.mp found
        exact ⟨[], rest, congrArg (· :: rest) mark, outside, rfl⟩
      | succ index =>
        have later : index < count (step state c) rest := by omega
        obtain ⟨first, second, rfl, outside, counted⟩ := ih later
        refine ⟨c :: first, second, rfl, outside, ?_⟩
        simp only [count, found, if_true, counted, Nat.add_comm]
    | false =>
      simp only [count, found, Bool.false_eq_true, if_false, Nat.zero_add] at inside
      obtain ⟨first, second, rfl, outside, counted⟩ := ih inside
      refine ⟨c :: first, second, rfl, outside, ?_⟩
      simp only [count, found, Bool.false_eq_true, if_false, Nat.zero_add, counted]

end Placeholder

end SqlProgram
