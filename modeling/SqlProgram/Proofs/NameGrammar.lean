import SqlProgram.Ident

/-!
The written form of names, said without a reader, and that names are written in it. What a name is
written as is read back, whatever stands after its segments.
-/

namespace SqlProgram

def IsLetter (c : Char) : Prop := ('A' ≤ c ∧ c ≤ 'Z') ∨ ('a' ≤ c ∧ c ≤ 'z')

def IsDigit (c : Char) : Prop := '0' ≤ c ∧ c ≤ '9'

/-- `[A-Za-z_][A-Za-z0-9_$]*` -/
inductive WordForm : List Char → Prop where
  | word (start : c = '_' ∨ IsLetter c) (rest : ∀ d ∈ text, d = '_' ∨ d = '$' ∨ IsLetter d ∨ IsDigit d) :
      WordForm (c :: text)

/-- Text without NUL in which every double quote is doubled. -/
inductive DoubledForm : List Char → Prop where
  | nil : DoubledForm []
  | other (unquoted : c ≠ '"') (present : c ≠ '\x00') (rest : DoubledForm text) : DoubledForm (c :: text)
  | quote (rest : DoubledForm text) : DoubledForm ('"' :: '"' :: text)

inductive SegmentForm : List Char → Prop where
  | plain (word : WordForm text) : SegmentForm text
  | quoted (filled : text ≠ []) (doubled : DoubledForm text) : SegmentForm ('"' :: (text ++ ['"']))

/-- One or more segments with single dots between them. -/
inductive NameForm : List Char → Prop where
  | last (segment : SegmentForm text) : NameForm text
  | dotted (segment : SegmentForm text) (rest : NameForm others) : NameForm (text ++ '.' :: others)

theorem isAlpha_iff {c : Char} : c.isAlpha = true ↔ IsLetter c := by
  have upper : c.isUpper = true ↔ 'A' ≤ c ∧ c ≤ 'Z' := decide_eq_true_iff
  have lower : c.isLower = true ↔ 'a' ≤ c ∧ c ≤ 'z' :=
    (Bool.and_eq_true_iff (x := decide ('a' ≤ c)) (y := decide (c ≤ 'z'))).trans
      (and_congr decide_eq_true_iff decide_eq_true_iff)
  exact Bool.or_eq_true_iff.trans (or_congr upper lower)

theorem isWordStart_iff {c : Char} : isWordStart c = true ↔ c = '_' ∨ IsLetter c := by
  simp only [isWordStart, Bool.or_eq_true, beq_iff_eq, isAlpha_iff]

theorem isWordPart_iff {c : Char} :
    isWordPart c = true ↔ c = '_' ∨ c = '$' ∨ IsLetter c ∨ IsDigit c := by
  have digit : c.isDigit = true ↔ IsDigit c := by
    simp only [Char.isDigit, Bool.and_eq_true, decide_eq_true_eq]
    exact Iff.rfl
  simp only [isWordPart, Char.isAlphanum, Bool.or_eq_true, beq_iff_eq, isAlpha_iff, digit, or_assoc]

theorem isBlank_of_isLetter {c : Char} (letter : IsLetter c) : Text.isBlank c = false := by
  have bounds : (65 ≤ c.toNat ∧ c.toNat ≤ 90) ∨ (97 ≤ c.toNat ∧ c.toNat ≤ 122) := letter
  simp only [Text.isBlank, Bool.or_eq_false_iff, Bool.and_eq_false_iff, decide_eq_false_iff_not, beq_eq_false_iff_ne]
  omega

theorem wordForm_iff {text : List Char} : WordForm text ↔ isWord text = true := by
  constructor
  · rintro ⟨start, rest⟩
    simp only [isWord, Bool.and_eq_true, isWordStart_iff, List.all_eq_true]
    exact ⟨start, fun d member => isWordPart_iff.mpr (rest d member)⟩
  · intro word
    cases text with
    | nil => cases word
    | cons c text =>
      simp only [isWord, Bool.and_eq_true, isWordStart_iff, List.all_eq_true] at word
      exact .word word.1 fun d member => isWordPart_iff.mp (word.2 d member)

theorem isQuotable_iff {text : List Char} : isQuotable text = true ↔ text ≠ [] ∧ '\x00' ∉ text := by
  simp only [isQuotable, Bool.and_eq_true, Bool.not_eq_true', List.isEmpty_eq_false_iff, List.all_eq_true,
    bne_iff_ne, ne_eq]
  exact and_congr_right fun _ => ⟨fun all member => all _ member rfl, fun none c member same => none (same ▸ member)⟩

/-- Doubling its quotes gives every text without NUL the doubled form, and nothing else has it. -/
theorem doubledForm_iff {text : List Char} :
    DoubledForm text ↔ ∃ inner, '\x00' ∉ inner ∧ text = Text.Quoted.double '"' inner := by
  constructor
  · intro form
    induction form with
    | nil => exact ⟨[], List.not_mem_nil, rfl⟩
    | @other c text unquoted present _ ih =>
      obtain ⟨inner, clean, rfl⟩ := ih
      refine ⟨c :: inner, ?_, by simp [Text.Quoted.double, unquoted]⟩
      exact fun member => (List.mem_cons.mp member).elim (fun same => present same.symm) clean
    | quote _ ih =>
      obtain ⟨inner, clean, rfl⟩ := ih
      exact ⟨'"' :: inner, by simpa using clean, by simp [Text.Quoted.double]⟩
  · rintro ⟨inner, clean, rfl⟩
    induction inner with
    | nil => exact .nil
    | cons c inner ih =>
      simp only [List.mem_cons, not_or] at clean
      by_cases same : c = '"'
      · simp only [Text.Quoted.double, same, if_true]
        exact .quote (ih clean.2)
      · simp only [Text.Quoted.double, same, if_false]
        exact .other same (Ne.symm clean.1) (ih clean.2)

theorem double_eq_nil {quote : Char} {text : List Char} : Text.Quoted.double quote text = [] ↔ text = [] := by
  cases text with
  | nil => exact Iff.rfl
  | cons c text =>
    by_cases same : c = quote <;> simp [Text.Quoted.double, same]

namespace Segment

theorem form_chars (segment : Segment) : SegmentForm segment.chars := by
  cases segment with
  | plain name word => exact .plain (wordForm_iff.mpr word)
  | quoted name quotable =>
    obtain ⟨filled, clean⟩ := isQuotable_iff.mp quotable
    exact .quoted (fun empty => filled (double_eq_nil.mp empty)) (doubledForm_iff.mpr ⟨_, clean, rfl⟩)

theorem exists_of_form {text : List Char} (form : SegmentForm text) : ∃ segment : Segment, segment.chars = text := by
  cases form with
  | plain word => exact ⟨.plain (String.ofList text) (by simpa using wordForm_iff.mp word), by simp [chars]⟩
  | @quoted text filled doubled =>
    obtain ⟨inner, clean, rfl⟩ := doubledForm_iff.mp doubled
    have quotable : isQuotable inner = true :=
      isQuotable_iff.mpr ⟨fun empty => filled (double_eq_nil.mpr empty), clean⟩
    exact ⟨.quoted (String.ofList inner) (by simpa using quotable), by simp [chars, Text.Quoted.enclose]⟩

theorem plain_chars {name : String} (word : isWord name.toList = true) :
    ∃ c rest, name.toList = c :: rest ∧ isWordStart c = true ∧ ∀ d ∈ c :: rest, isWordPart d = true := by
  cases same : name.toList with
  | nil => rw [same] at word; cases word
  | cons c rest =>
    rw [same, isWord, Bool.and_eq_true, List.all_eq_true] at word
    refine ⟨c, rest, rfl, word.1, fun d member => ?_⟩
    rcases List.mem_cons.mp member with rfl | later
    · rcases isWordStart_iff.mp word.1 with underscore | letter
      · exact isWordPart_iff.mpr (.inl underscore)
      · exact isWordPart_iff.mpr (.inr (.inr (.inl letter)))
    · exact word.2 d later

theorem isStop_of_isWordPart {c : Char} (part : isWordPart c = true) : isStop c = false := by
  unfold isStop
  rw [Bool.or_eq_false_iff, beq_eq_false_iff_ne, beq_eq_false_iff_ne]
  constructor <;> rintro rfl <;> exact absurd part (by decide)

theorem read_chars (segment : Segment) {tail : List Char} (ends : tail = [] ∨ tail.head? = some '.') :
    read (segment.chars ++ tail) = .ok (segment, tail) := by
  cases segment with
  | plain name word =>
    obtain ⟨c, rest, same, start, parts⟩ := plain_chars word
    have unquoted : c ≠ '"' := by rintro rfl; exact absurd start (by decide)
    have goes : ∀ d ∈ name.toList, (!isStop d) = true := by
      rw [same]
      exact fun d member => by rw [isStop_of_isWordPart (parts d member)]; rfl
    have stops : tail.takeWhile (!isStop ·) = [] ∧ tail.dropWhile (!isStop ·) = tail := by
      rcases ends with rfl | dot
      · exact ⟨rfl, rfl⟩
      · obtain ⟨others, rfl⟩ := List.head?_eq_some_iff.mp dot
        exact ⟨rfl, rfl⟩
    have readable : read (name.toList ++ tail) =
        (ofPlain ((name.toList ++ tail).takeWhile (!isStop ·))).map fun segment =>
          (segment, (name.toList ++ tail).dropWhile (!isStop ·)) := by
      rw [same, List.cons_append]
      simp only [read, unquoted, if_false]
    rw [chars, readable, List.takeWhile_append_of_pos goes, List.dropWhile_append_of_pos goes, stops.1, stops.2,
      List.append_nil]
    simp [ofPlain, word, Except.map]
  | quoted name quotable =>
    have unclosed : tail.head? ≠ some '"' := by
      rcases ends with rfl | dot
      · decide
      · rw [dot]
        decide
    have inner := Text.Quoted.readRest_double '"' name.toList tail unclosed
    simp only [chars, Text.Quoted.enclose, List.cons_append, List.append_assoc, read, if_true,
      List.nil_append, inner]
    simp [ofQuoted, quotable, Except.map]

theorem eq_of_read {text tail : List Char} {segment : Segment} (found : read text = .ok (segment, tail)) :
    text = segment.chars ++ tail := by
  cases text with
  | nil => cases found
  | cons c rest =>
    simp only [read] at found
    split at found
    next quoted =>
      subst quoted
      split at found
      · cases found
      next name tail' inner =>
        simp only [ofQuoted] at found
        split at found
        · cases found
          simp [chars, Text.Quoted.enclose, Text.Quoted.eq_of_readRest inner]
        · split at found <;> cases found
    next unquoted =>
      simp only [ofPlain] at found
      split at found
      · cases found
        simp [chars]
      · cases found

theorem head_not_blank (segment : Segment) : ∃ c rest, segment.chars = c :: rest ∧ Text.isBlank c = false := by
  cases segment with
  | plain name word =>
    obtain ⟨c, rest, same, start, parts⟩ := plain_chars word
    refine ⟨c, rest, same, ?_⟩
    rcases isWordStart_iff.mp start with rfl | letter
    · decide
    · exact isBlank_of_isLetter letter
  | quoted name quotable => exact ⟨'"', _, rfl, by decide⟩

theorem nul_not_mem (segment : Segment) : '\x00' ∉ segment.chars := by
  cases segment with
  | plain name word =>
    obtain ⟨c, rest, same, start, parts⟩ := plain_chars word
    rw [chars, same]
    exact fun member => absurd (parts _ member) (by decide)
  | quoted name quotable =>
    have clean := (isQuotable_iff.mp quotable).2
    simp only [chars, Text.Quoted.enclose, List.mem_cons, List.mem_append, List.not_mem_nil, or_false]
    rintro (quote | inside | quote)
    · cases quote
    · exact clean (Text.Quoted.mem_of_mem_double inside)
    · cases quote

end Segment

namespace Ident

theorem form_chars (ident : Ident) : NameForm ident.chars := by
  obtain ⟨qualifiers, last⟩ := ident
  induction qualifiers with
  | nil => exact .last last.form_chars
  | cons segment rest ih => exact .dotted segment.form_chars ih

theorem exists_of_form {text : List Char} (form : NameForm text) : ∃ ident : Ident, ident.chars = text := by
  induction form with
  | last segment =>
    obtain ⟨last, rfl⟩ := Segment.exists_of_form segment
    exact ⟨⟨[], last⟩, rfl⟩
  | dotted segment _ ih =>
    obtain ⟨first, rfl⟩ := Segment.exists_of_form segment
    obtain ⟨rest, rfl⟩ := ih
    exact ⟨⟨first :: rest.qualifiers, rest.last⟩, rfl⟩

/-- A name begins with its first segment, so it is neither empty nor blank. -/
theorem chars_head (ident : Ident) : ∃ c rest, ident.chars = c :: rest ∧ Text.isBlank c = false := by
  obtain ⟨qualifiers, last⟩ := ident
  cases qualifiers with
  | nil => exact last.head_not_blank
  | cons segment others =>
    obtain ⟨c, rest, same, visible⟩ := segment.head_not_blank
    exact ⟨c, _, by simp only [chars, List.foldr_cons, same, List.cons_append]; rfl, visible⟩

theorem nul_not_mem (ident : Ident) : '\x00' ∉ ident.chars := by
  obtain ⟨qualifiers, last⟩ := ident
  induction qualifiers with
  | nil => exact last.nul_not_mem
  | cons segment rest ih =>
    intro member
    rcases List.mem_append.mp member with first | later
    · exact segment.nul_not_mem first
    · exact (List.mem_cons.mp later).elim (fun dot => nomatch dot) ih

theorem read_last {whole : String} {text : List Char} {segment : Segment}
    (found : Segment.read text = .ok (segment, [])) : read whole text = .ok ([], segment) := by
  rw [read]
  split
  next refused => rw [found] at refused; cases refused
  next ended =>
    rw [found] at ended
    cases ended
    rfl
  next more => rw [found] at more; cases more

theorem read_dotted {whole : String} {text rest : List Char} {segment : Segment}
    (found : Segment.read text = .ok (segment, '.' :: rest)) (more : rest ≠ []) :
    read whole text = (read whole rest).map fun (qualifiers, last) => (segment :: qualifiers, last) := by
  rw [read]
  split
  next refused => rw [found] at refused; cases refused
  next ended => rw [found] at ended; cases ended
  next dotted =>
    rw [found] at dotted
    cases dotted
    simp only [if_true, List.isEmpty_eq_false_iff.mpr more, Bool.false_eq_true, if_false]

theorem read_chars (whole : String) (ident : Ident) :
    read whole ident.chars = .ok (ident.qualifiers, ident.last) := by
  obtain ⟨qualifiers, last⟩ := ident
  induction qualifiers with
  | nil =>
    have found : Segment.read (last.chars ++ []) = .ok (last, []) := last.read_chars (.inl rfl)
    rw [List.append_nil] at found
    exact read_last found
  | cons segment rest ih =>
    obtain ⟨c, others, filled, _⟩ := (Ident.mk rest last).chars_head
    have more : (Ident.mk rest last).chars ≠ [] := by rw [filled]; exact nofun
    refine (read_dotted (segment.read_chars (.inr rfl)) more).trans ?_
    rw [ih]
    rfl

/-- A text that is read as segments is what these are written as. -/
theorem eq_of_read {whole : String} {text : List Char} {qualifiers : List Segment} {last : Segment}
    (found : read whole text = .ok (qualifiers, last)) : text = (Ident.mk qualifiers last).chars := by
  fun_induction read whole text generalizing qualifiers last with
  | case1 => cases found
  | case2 _ _ ended =>
    cases found
    exact (Segment.eq_of_read ended).trans (List.append_nil _)
  | case3 => cases found
  | case4 _ segment rest _ dotted ih =>
    cases later : read whole rest with
    | error => rw [later] at found; cases found
    | ok others =>
      rw [later] at found
      cases found
      rw [Segment.eq_of_read dotted, ih later]
      rfl
  | case5 => cases found

theorem parse_text (ident : Ident) : parse ident.text = .ok ident := by
  obtain ⟨c, rest, begins, visible⟩ := ident.chars_head
  have filled : Text.isBlankText ident.text = false := by
    simp [Text.isBlankText, text, begins, visible]
  have same : ident.text.toList = ident.chars := String.toList_ofList
  have clean : (ident.chars.any (· == '\x00')) = false := by
    rw [List.any_eq_false]
    exact fun d member nul => ident.nul_not_mem (beq_iff_eq.mp nul ▸ member)
  rw [parse, filled, same, clean, read_chars]
  rfl

theorem text_of_parse {text : String} {ident : Ident} (found : parse text = .ok ident) : ident.text = text := by
  unfold parse at found
  split at found
  · cases found
  split at found
  · cases found
  cases read : read text text.toList with
  | error => rw [read] at found; cases found
  | ok segments =>
    rw [read] at found
    cases found
    rw [Ident.text, ← eq_of_read read, String.ofList_toList]

theorem split_of_qualifier? {ident table : Ident} (split : ident.qualifier? = some table) :
    ident.segments = table.segments ++ [ident.last] ∧ ident.chars = table.chars ++ '.' :: ident.last.chars := by
  obtain ⟨qualifiers, last⟩ := ident
  obtain rfl | ⟨init, final, rfl⟩ := qualifiers.eq_nil_or_concat
  · cases split
  · simp only [qualifier?, List.concat_eq_append, List.getLast?_concat, List.dropLast_concat,
      Option.some.injEq] at split
    subst split
    rw [List.concat_eq_append]
    refine ⟨rfl, ?_⟩
    induction init with
    | nil => rfl
    | cons segment init ih =>
      have longer : (Ident.mk (segment :: init ++ [final]) last).chars =
          segment.chars ++ '.' :: (Ident.mk (init ++ [final]) last).chars := rfl
      rw [longer, ih, ← List.cons_append, ← List.append_assoc]
      rfl

end Ident

end SqlProgram
