import SqlProgram.Proofs.NameGrammar
import SqlProgram.Proofs.PlaceholderBalance
import SqlProgram.Statement.Draft

/-!
Lists in the text of a statement, as a reader takes them apart: at the commas outside quotes, up to the parenthesis
that closes the list or to the end of the text. What the builder lists is read back, whatever the names in quotes are.
-/

namespace SqlProgram

open Placeholder

namespace Listing

def split (state : Option Quote) : List Char → List Char × List (List Char) × List Char
  | [] => ([], [], [])
  | c :: rest =>
    let (item, items, after) := split (step state c) rest
    if state = none ∧ c = ')' then ([], [], rest)
    else if state = none ∧ c = ',' then ([], item :: items, after)
    else (c :: item, items, after)

def read (text : List Char) : List (List Char) × List Char :=
  let (item, items, after) := split none text
  (((item :: items).map (List.dropWhile (· == ' '))).filter (!·.isEmpty), after)

/-- No list ends or goes on to another item inside the text. -/
def Unbroken (state : Option Quote) : List Char → Prop
  | [] => True
  | c :: rest => (state = none → c ≠ ')' ∧ c ≠ ',') ∧ Unbroken (step state c) rest

theorem Unbroken.append {state : Option Quote} {first second : List Char} (left : Unbroken state first)
    (right : Unbroken (openAfter state first) second) : Unbroken state (first ++ second) := by
  induction first generalizing state with
  | nil => exact right
  | cons c rest ih => exact ⟨left.1, ih left.2 right⟩

def isInner (c : Char) : Bool := (Quote.ofChar? c).isNone && c != ')' && c != ','

theorem Unbroken.of_inner {text : List Char} (inner : text.all isInner) : Unbroken none text := by
  induction text with
  | nil => trivial
  | cons c rest ih =>
    simp only [List.all_cons, isInner, Bool.and_eq_true, Option.isNone_iff_eq_none, bne_iff_ne] at inner
    have stays : step none c = none := inner.1.1.1
    refine ⟨fun _ => ⟨inner.1.1.2, inner.1.2⟩, ?_⟩
    rw [stays]
    exact ih inner.2

/-- A doubled mark is outside quotes for a moment, but it is no mark of a list. -/
theorem Unbroken.double (quote : Quote) (text : List Char) :
    Unbroken (some quote) (Text.Quoted.double quote.mark text) := by
  have closes : step (some quote) quote.mark = none := by simp [step]
  have opens : step none quote.mark = some quote := by simp [step]
  have noMark : quote.mark ≠ ')' ∧ quote.mark ≠ ',' := by cases quote <;> decide
  have inside : some quote ≠ none := Option.some_ne_none quote
  induction text with
  | nil => trivial
  | cons c rest ih =>
    by_cases same : c = quote.mark
    · simp only [Text.Quoted.double, same, if_true, Unbroken, closes, opens]
      exact ⟨fun outside => absurd outside inside, fun _ => noMark, ih⟩
    · have stays : step (some quote) c = some quote := by simp [step, same]
      simp only [Text.Quoted.double, same, if_false, Unbroken, stays]
      exact ⟨fun outside => absurd outside inside, ih⟩

theorem Unbroken.enclose (quote : Quote) (text : List Char) : Unbroken none (Text.Quoted.enclose quote.mark text) := by
  have opens : step none quote.mark = some quote := by simp [step]
  have noMark : quote.mark ≠ ')' ∧ quote.mark ≠ ',' := by cases quote <;> decide
  have inside : some quote ≠ none := Option.some_ne_none quote
  have last : Unbroken (some quote) [quote.mark] := ⟨fun outside => absurd outside inside, trivial⟩
  rw [Text.Quoted.enclose, Unbroken, opens]
  refine ⟨fun _ => noMark, (Unbroken.double quote text).append ?_⟩
  rw [(inside_double quote text).1]
  exact last

/-- The reader passes over a text that is unbroken. -/
theorem split_append {state : Option Quote} {text : List Char} (unbroken : Unbroken state text) (rest : List Char) :
    split state (text ++ rest) =
      (text ++ (split (openAfter state text) rest).1, (split (openAfter state text) rest).2) := by
  induction text generalizing state with
  | nil => rfl
  | cons c text ih =>
    have noEnd : ¬ (state = none ∧ c = ')') := fun ⟨outside, mark⟩ => (unbroken.1 outside).1 mark
    have noComma : ¬ (state = none ∧ c = ',') := fun ⟨outside, mark⟩ => (unbroken.1 outside).2 mark
    have later : openAfter state (c :: text) = openAfter (step state c) text := rfl
    rw [List.cons_append, split, ih unbroken.2, later]
    simp only [if_neg noEnd, if_neg noComma, List.cons_append]

/-- A text that stands in a list as one item. -/
structure IsItem (text : List Char) : Prop where
  unbroken : Unbroken none text
  closed : openAfter none text = none
  begins : ∃ c rest, text = c :: rest ∧ c ≠ ' '

theorem IsItem.append {first second : List Char} (item : IsItem first) (unbroken : Unbroken none second)
    (closed : openAfter none second = none) : IsItem (first ++ second) := by
  obtain ⟨c, rest, rfl, start⟩ := item.begins
  have unbroken' : Unbroken (openAfter none (c :: rest)) second := by rwa [item.closed]
  refine ⟨item.unbroken.append unbroken', ?_, c, rest ++ second, rfl, start⟩
  rw [openAfter_append, item.closed, closed]

theorem IsItem.trim {text : List Char} (item : IsItem text) : text.dropWhile (· == ' ') = text := by
  obtain ⟨c, rest, rfl, start⟩ := item.begins
  exact List.dropWhile_cons_of_neg (by simpa using start)

theorem IsItem.not_empty {text : List Char} (item : IsItem text) : (!text.isEmpty) = true := by
  obtain ⟨c, rest, rfl, _⟩ := item.begins
  rfl

theorem split_commaChars {tail after : List Char} (ends : split none tail = ([], [], after)) {item : List Char}
    {items : List (List Char)} (each : ∀ text ∈ item :: items, IsItem text) :
    split none (commaChars (item :: items) ++ tail) = (item, items.map (' ' :: ·), after) := by
  induction items generalizing item with
  | nil =>
    have only := each item List.mem_cons_self
    simp only [commaChars, split_append only.unbroken, only.closed, ends, List.append_nil, List.map_nil]
  | cons next rest ih =>
    have first := each item List.mem_cons_self
    have later := ih fun text member => each text (List.mem_cons_of_mem item member)
    have comma : step none ',' = none := rfl
    have blank : step none ' ' = none := rfl
    have written : commaChars (item :: next :: rest) ++ tail =
        item ++ ',' :: ' ' :: (commaChars (next :: rest) ++ tail) := by
      simp only [commaChars, List.append_assoc, List.cons_append]
    rw [written, split_append first.unbroken, first.closed, split, comma, split, blank, later]
    simp

theorem read_commaChars {tail after : List Char} (ends : split none tail = ([], [], after)) {items : List (List Char)}
    (each : ∀ text ∈ items, IsItem text) : read (commaChars items ++ tail) = (items, after) := by
  cases items with
  | nil => simp only [read, commaChars, List.nil_append, ends]; rfl
  | cons item items =>
    have trimmed : ∀ text ∈ items, (' ' :: text).dropWhile (· == ' ') = text := fun text member =>
      (each text (List.mem_cons_of_mem item member)).trim
    have full : ∀ text ∈ item :: items, (!text.isEmpty) = true := fun text member => (each text member).not_empty
    have others : (items.map (' ' :: ·)).map (List.dropWhile (· == ' ')) = items := by
      rw [List.map_map]
      exact (List.map_congr_left trimmed).trans items.map_id
    simp only [read, split_commaChars ends each, List.map_cons, (each item List.mem_cons_self).trim, others]
    rw [List.filter_eq_self.mpr full]

end Listing

open Listing

theorem Listing.isInner_of_isWordPart {c : Char} (part : isWordPart c) : isInner c := by
  have plain := isPlain_of_isWordPart part
  have noEnd : c ≠ ')' := by rintro rfl; exact absurd part (by decide)
  have noComma : c ≠ ',' := by rintro rfl; exact absurd part (by decide)
  simp only [isPlain, Bool.and_eq_true] at plain
  simp [isInner, plain.1, noEnd, noComma]

/-- A name is one item of a list, whatever it holds. -/
theorem Segment.chars_item (segment : Segment) : IsItem segment.chars := by
  obtain ⟨c, rest, begins, visible⟩ := segment.head_not_blank
  have start : c ≠ ' ' := by rintro rfl; exact absurd visible (by decide)
  refine ⟨?_, segment.chars_holds.closed, c, rest, begins, start⟩
  cases segment with
  | quoted name quotable => exact .enclose .double name.toList
  | plain name word =>
    obtain ⟨c, rest, letters, _, parts⟩ := plain_chars word
    rw [← letters] at parts
    exact .of_inner (List.all_eq_true.mpr fun d member => isInner_of_isWordPart (parts d member))

end SqlProgram
