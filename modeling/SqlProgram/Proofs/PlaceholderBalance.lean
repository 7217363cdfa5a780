import SqlProgram.Proofs.LiteralText
import SqlProgram.Statement.Condition
import SqlProgram.Table

/-!
Text that leaves no quote open, with a known number of placeholders. Whatever the builder writes on
its own account is such a text: what a caller supplies stands in quotes that it cannot leave.
-/

namespace SqlProgram

namespace Placeholder

/-- A text that can stand anywhere in a statement: it closes every quote that it opens. -/
structure Holds (text : List Char) (placeholders : Nat) : Prop where
  closed : openAfter none text = none
  counted : count none text = placeholders

def isPlain (c : Char) : Bool := (Quote.ofChar? c).isNone && c != '?'

theorem step_plain {c : Char} (plain : isPlain c) : step none c = none := by
  simp only [isPlain, Bool.and_eq_true, Option.isNone_iff_eq_none] at plain
  exact plain.1

theorem isPlaceholder_plain {c : Char} (plain : isPlain c) : isPlaceholder none c = false := by
  simp only [isPlain, Bool.and_eq_true, bne_iff_ne] at plain
  simp [isPlaceholder, plain.2]

namespace Holds

theorem nil : Holds [] 0 := ⟨rfl, rfl⟩

theorem question : Holds ['?'] 1 := ⟨rfl, rfl⟩

theorem append {first second : List Char} {m n : Nat} (left : Holds first m) (right : Holds second n) :
    Holds (first ++ second) (m + n) := by
  refine ⟨?_, ?_⟩
  · rw [openAfter_append, left.closed, right.closed]
  · rw [count_append, left.closed, left.counted, right.counted]

theorem cons {c : Char} {rest : List Char} {n : Nat} (plain : isPlain c) (later : Holds rest n) :
    Holds (c :: rest) n := by
  refine ⟨?_, ?_⟩
  · have first : openAfter none (c :: rest) = openAfter (step none c) rest := rfl
    rw [first, step_plain plain, later.closed]
  · simp only [count, isPlaceholder_plain plain, step_plain plain, later.counted]
    simp

theorem of_plain {text : List Char} (plain : text.all isPlain) : Holds text 0 := by
  induction text with
  | nil => exact nil
  | cons c rest ih =>
    simp only [List.all_cons, Bool.and_eq_true] at plain
    exact cons plain.1 (ih plain.2)

theorem before {first second : List Char} {n : Nat} (left : Holds first 0) (right : Holds second n) :
    Holds (first ++ second) n := by
  simpa using left.append right

theorem after {first second : List Char} {n : Nat} (left : Holds first n) (right : Holds second 0) :
    Holds (first ++ second) n := by
  simpa using left.append right

end Holds

/-- Inside a quote every doubled mark closes it and opens it again. -/
theorem inside_double (quote : Quote) (text : List Char) :
    openAfter (some quote) (Text.Quoted.double quote.mark text) = some quote ∧
      count (some quote) (Text.Quoted.double quote.mark text) = 0 := by
  have closes : step (some quote) quote.mark = none := by simp [step]
  have opens : step none quote.mark = some quote := by simp [step]
  have noMark : quote.mark ≠ '?' := by cases quote <;> decide
  induction text with
  | nil => exact ⟨rfl, rfl⟩
  | cons c rest ih =>
    by_cases same : c = quote.mark
    · simp only [Text.Quoted.double, same, if_true, openAfter, List.foldl_cons, closes, opens, count,
        isPlaceholder]
      exact ⟨ih.1, by simp [ih.2, noMark]⟩
    · have stays : step (some quote) c = some quote := by simp [step, same]
      simp only [Text.Quoted.double, same, if_false, openAfter, List.foldl_cons, stays, count,
        isPlaceholder]
      exact ⟨ih.1, by simp [ih.2]⟩

theorem Holds.enclose (quote : Quote) (text : List Char) :
    Holds (Text.Quoted.enclose quote.mark text) 0 := by
  obtain ⟨inside, uncounted⟩ := inside_double quote text
  have opens : step none quote.mark = some quote := by simp [step]
  have noMark : quote.mark ≠ '?' := by cases quote <;> decide
  refine ⟨?_, ?_⟩
  · have first : openAfter none (Text.Quoted.enclose quote.mark text) =
        openAfter (step none quote.mark) (Text.Quoted.double quote.mark text ++ [quote.mark]) := rfl
    rw [first, opens, openAfter_append, inside]
    simp [openAfter, step]
  · simp only [Text.Quoted.enclose, count, opens, count_append, inside, uncounted, isPlaceholder]
    simp [noMark]

end Placeholder

open Placeholder

/-! Literals without quotes are written in plain characters. -/

theorem isPlain_of {p : Char → Bool} (marks : p '\'' = false ∧ p '"' = false ∧ p '?' = false) {c : Char}
    (holds : p c) : isPlain c := by
  obtain ⟨single, double, question⟩ := marks
  have notSingle : c ≠ '\'' := by rintro rfl; rw [single] at holds; cases holds
  have notDouble : c ≠ '"' := by rintro rfl; rw [double] at holds; cases holds
  have notMark : c ≠ '?' := by rintro rfl; rw [question] at holds; cases holds
  simp [isPlain, Quote.ofChar?, notSingle, notDouble, notMark]

theorem isPlain_of_isBare {c : Char} (bare : isBare c) : isPlain c := isPlain_of (by decide) bare

theorem digits_plain (value : Nat) : (Nat.toDigits 10 value).all isPlain := by
  have bare := digits_bare value
  rw [List.all_eq_true] at bare ⊢
  exact fun c member => isPlain_of_isBare (bare c member)

theorem Value.literal_holds (value : Value) : Holds value.literal 0 := by
  rcases value.literal_cases with bare | ⟨content, quoted⟩
  · rw [List.all_eq_true] at bare
    exact .of_plain (List.all_eq_true.mpr fun c member => isPlain_of_isBare (bare c member))
  · rw [quoted]
    exact .enclose .single content

/-! Names and expressions. -/

theorem isPlain_of_isWordPart {c : Char} (part : isWordPart c) : isPlain c := isPlain_of (by decide) part

theorem isWordPart_of_isWordStart {c : Char} (start : isWordStart c) : isWordPart c := by
  simp only [isWordStart, Bool.or_eq_true] at start
  rcases start with start | start
  · simp [isWordPart, start]
  · simp [isWordPart, Char.isAlphanum, start]

theorem Segment.chars_holds (segment : Segment) : Holds segment.chars 0 := by
  cases segment with
  | quoted name quotable => exact .enclose .double name.toList
  | plain name word =>
    refine .of_plain ?_
    change name.toList.all isPlain
    cases letters : name.toList with
    | nil => rfl
    | cons c rest =>
      simp only [letters, isWord, Bool.and_eq_true] at word
      rw [List.all_cons, isPlain_of_isWordPart (isWordPart_of_isWordStart word.1), Bool.true_and]
      rw [List.all_eq_true] at word ⊢
      exact fun d member => isPlain_of_isWordPart (word.2 d member)

theorem Ident.chars_holds (ident : Ident) : Holds ident.chars 0 := by
  unfold Ident.chars
  induction ident.qualifiers with
  | nil => exact ident.last.chars_holds
  | cons segment rest ih => exact segment.chars_holds.before (.cons (by decide) ih)

theorem Expr.call_holds {function : String} {arguments : List Char} (name : function.toList.all isPlain)
    (inner : Holds arguments 0) : Holds (call function arguments) 0 :=
  (Holds.of_plain name).before (.cons (by decide) (inner.before (.of_plain (by decide))))

theorem Expr.chars_holds (expr : Expr) : Holds expr.chars 0 := by
  induction expr with
  | column name => exact name.chars_holds
  | qualified table name => exact table.chars_holds.before (.cons (by decide) name.chars_holds)
  | aggregate function argument ih => exact call_holds (by cases function <;> decide) ih
  | coalesce argument default ih =>
    exact call_holds (by decide) (ih.before (.cons (by decide) (.cons (by decide) default.literal_holds)))
  | renamed expr name ih =>
    exact (ih.before (.of_plain (by decide))).before name.chars_holds

theorem Expr.bareChars_holds (expr : Expr) : Holds expr.bareChars 0 := by
  induction expr with
  | column name => exact name.chars_holds
  | qualified _ name => exact name.chars_holds
  | aggregate function argument => exact Expr.chars_holds (.aggregate function argument)
  | coalesce argument default => exact Expr.chars_holds (.coalesce argument default)
  | renamed _ _ ih => exact ih

theorem Table.referenceChars_holds (table : Table) : Holds table.referenceChars 0 := by
  unfold Table.referenceChars
  cases table.seenAs with
  | none => exact table.name.chars_holds
  | some name =>
    exact (table.name.chars_holds.before (.of_plain (by decide))).before name.chars_holds

end SqlProgram
