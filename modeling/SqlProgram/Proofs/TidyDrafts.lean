import SqlProgram.Proofs.BoundText
import SqlProgram.Proofs.ParameterReferences

/-!
What the builder writes is tidy: its parts are words, quoted texts and placeholders with separators between them. So
a draft is tidy if the texts written by hand in it are.
-/

namespace SqlProgram

open Placeholder

def isSeparator (c : Char) : Bool := (Quote.ofChar? c).isNone && !isWordPart c && c != '?'

/-- A text that can be put after any separator. -/
structure Clean (text : List Char) : Prop where
  closed : openAfter none text = none
  tidy : isTidy none .apart text = true

theorem Preceding.ofChar_apart {c : Char} (outside : isWordPart c = false) : ofChar c = .apart := by
  unfold ofChar
  rw [outside]
  rfl

theorem isTidy_separator {c : Char} (separates : isSeparator c = true) (preceding : Preceding) (rest : List Char) :
    isTidy none preceding (c :: rest) = isTidy none .apart rest := by
  simp only [isSeparator, Bool.and_eq_true, Option.isNone_iff_eq_none, Bool.not_eq_true', bne_iff_ne, ne_eq] at separates
  obtain ⟨⟨unquoted, outside⟩, mark⟩ := separates
  have dollar : c ≠ '$' := by
    rintro rfl
    cases outside
  have digit : c.isDigit = false := by
    cases found : c.isDigit with
    | false => rfl
    | true => simp [isWordPart, Char.isAlphanum, found] at outside
  have stays : step none c = none := unquoted
  have next : preceding.step none c = .apart := by
    simp [Preceding.step, mark, dollar, Preceding.ofChar_apart outside]
  have admitted : preceding.admits c = true := by
    cases preceding <;> simp [Preceding.admits, mark, digit]
  simp only [isTidy, admitted, stays, next, Option.isSome_none, Bool.or_true, Bool.true_and]

namespace Clean

theorem nil : Clean [] := ⟨rfl, rfl⟩

theorem append {first second : List Char} (left : Clean first) (right : Clean second)
    (separated : second.head?.any isSeparator = true) : Clean (first ++ second) := by
  refine ⟨?_, ?_⟩
  · rw [openAfter_append, left.closed, right.closed]
  · cases second with
    | nil => cases separated
    | cons c rest =>
      have alone := right.tidy
      rw [isTidy_separator separated] at alone
      rw [isTidy_append, left.tidy, left.closed, isTidy_separator separated, alone]
      rfl

theorem behind {word text : List Char} (right : Clean text) (left : Clean word)
    (ends : precedingAfter none .apart word = .apart) : Clean (word ++ text) := by
  refine ⟨?_, ?_⟩
  · rw [openAfter_append, left.closed, right.closed]
  · rw [isTidy_append, left.tidy, left.closed, ends, right.tidy]
    rfl

theorem join {first second : List Char} {c : Char} (left : Clean first) (separates : isSeparator c = true)
    (right : Clean second) : Clean (first ++ c :: second) := by
  have closed : openAfter none (c :: second) = openAfter none second := by
    simp only [isSeparator, Bool.and_eq_true, Option.isNone_iff_eq_none] at separates
    have first : openAfter none (c :: second) = openAfter (step none c) second := rfl
    rw [first]
    exact congrArg (openAfter · second) separates.1.1
  refine left.append ⟨closed.trans right.closed, ?_⟩ separates
  rw [isTidy_separator separates, right.tidy]

theorem between {first word second : List Char} (left : Clean first) (middle : Clean word)
    (begins : word.head?.any isSeparator = true) (ends : precedingAfter none .apart word = .apart)
    (right : Clean second) : Clean (first ++ word ++ second) := by
  rw [List.append_assoc]
  refine left.append (right.behind middle ends) ?_
  cases word with
  | nil => cases begins
  | cons c rest => exact begins

/-- Inside quotes everything may stand. -/
theorem enclose (quote : Quote) (content : List Char) : Clean (Text.Quoted.enclose quote.mark content) := by
  refine ⟨(Holds.enclose quote content).closed, ?_⟩
  have notMark : (quote.mark != '?') = true := by cases quote <;> decide
  have notDigit : quote.mark.isDigit = false := by cases quote <;> decide
  have admitted (preceding : Preceding) : preceding.admits quote.mark = true := by
    cases preceding <;> simp [Preceding.admits, notMark, notDigit]
  have closes : step (some quote) quote.mark = none := by simp [step]
  have opens : step none quote.mark = some quote := by simp [step]
  have inside (preceding : Preceding) :
      isTidy (some quote) preceding (Text.Quoted.double quote.mark content ++ [quote.mark]) = true := by
    induction content generalizing preceding with
    | nil => rfl
    | cons c rest ih =>
      by_cases same : c = quote.mark
      · simp [Text.Quoted.double, same, isTidy, closes, opens, admitted, ih]
      · have stays : step (some quote) c = some quote := by simp [step, same]
        simp [Text.Quoted.double, same, isTidy, stays, ih]
  rw [Text.Quoted.enclose, isTidy, admitted, opens, inside]
  rfl

theorem of_bare {text : List Char} (bare : text.all isBare = true) : Clean text := by
  have plain : text.all isPlain = true :=
    List.all_eq_true.mpr fun c member => isPlain_of_isBare (List.all_eq_true.mp bare c member)
  refine ⟨(Holds.of_plain plain).closed, ?_⟩
  refine isTidy_of_references none .apart text ?_ (Holds.of_plain plain).counted nofun
  have unread (word : Bool) : references none word text = [] := by
    induction text generalizing word with
    | nil => rfl
    | cons c rest ih =>
      rw [List.all_cons, Bool.and_eq_true] at bare plain
      have dollar : (c == '$') = false := by
        rw [beq_eq_false_iff_ne]
        rintro rfl
        cases bare.1
      simp only [references, step_plain plain.1, dollar, Bool.and_false, Bool.false_and, Bool.false_eq_true, if_false]
      exact ih bare.2 plain.2 _
  exact unread false

end Clean

theorem Value.literal_clean (value : Value) : Clean value.literal := by
  rcases value.literal_cases with bare | ⟨content, quoted⟩
  · exact .of_bare bare
  · rw [quoted]
    exact .enclose .single content

/-! Names and expressions. -/

theorem isTidy_word {text : List Char} (parts : ∀ c ∈ text, isWordPart c = true) : isTidy none .word text = true := by
  induction text with
  | nil => rfl
  | cons c rest ih =>
    have part := parts c (List.mem_cons_self ..)
    have plain := isPlain_of_isWordPart part
    have mark : c ≠ '?' := by
      rintro rfl
      cases part
    have goes : Preceding.step none .word c = .word := by simp [Preceding.step, mark, Preceding.ofChar, part]
    have admitted : Preceding.admits .word c = true := bne_iff_ne.mpr mark
    rw [isTidy, admitted, step_plain plain, goes, ih fun d member => parts d (List.mem_cons_of_mem _ member)]
    rfl

theorem Segment.chars_clean (segment : Segment) : Clean segment.chars := by
  cases segment with
  | quoted name quotable => exact .enclose .double name.toList
  | plain name word =>
    refine ⟨(Segment.chars_holds (.plain name word)).closed, ?_⟩
    change isTidy none .apart name.toList = true
    obtain ⟨c, rest, same, start, parts⟩ : ∃ c rest, name.toList = c :: rest ∧ isWordStart c = true ∧
        ∀ d ∈ rest, isWordPart d = true := by
      cases letters : name.toList with
      | nil => rw [letters] at word; cases word
      | cons c rest =>
        rw [letters, isWord, Bool.and_eq_true, List.all_eq_true] at word
        exact ⟨c, rest, rfl, word⟩
    have part := isWordPart_of_isWordStart start
    have dollar : c ≠ '$' := by rintro rfl; cases start
    have mark : c ≠ '?' := by rintro rfl; cases start
    have goes : Preceding.step none .apart c = .word := by
      simp [Preceding.step, mark, dollar, Preceding.ofChar, part]
    rw [same, isTidy, step_plain (isPlain_of_isWordPart part), goes, isTidy_word parts]
    rfl

theorem Ident.chars_clean (ident : Ident) : Clean ident.chars := by
  unfold Ident.chars
  induction ident.qualifiers with
  | nil => exact ident.last.chars_clean
  | cons segment rest ih => exact segment.chars_clean.join (by decide) ih

namespace Expr

theorem call_clean {function : String} {arguments : List Char} (name : Clean function.toList)
    (inner : Clean arguments) : Clean (call function arguments) := by
  have closing : Clean [')'] := ⟨rfl, rfl⟩
  exact name.join (by decide) (inner.append closing (by decide))

theorem chars_clean (expr : Expr) : Clean expr.chars := by
  induction expr with
  | column name => exact name.chars_clean
  | qualified table name => exact table.chars_clean.join (by decide) name.chars_clean
  | aggregate function argument ih =>
    have name : Clean function.name.toList := by cases function <;> exact ⟨by decide, by decide⟩
    exact call_clean name ih
  | coalesce argument default ih =>
    have word : Clean "coalesce".toList := ⟨by decide, by decide⟩
    have spaced : Clean (' ' :: default.literal) := Clean.nil.join (by decide) default.literal_clean
    exact call_clean word (ih.join (by decide) spaced)
  | renamed expr name ih =>
    have word : Clean " as ".toList := ⟨by decide, by decide⟩
    exact ih.between word (by decide) (by decide) name.chars_clean

theorem bareChars_clean (expr : Expr) : Clean expr.bareChars := by
  induction expr with
  | column name | qualified _ name => exact name.chars_clean
  | aggregate function argument => exact chars_clean (.aggregate function argument)
  | coalesce argument default => exact chars_clean (.coalesce argument default)
  | renamed _ _ ih => exact ih

end Expr

theorem Table.referenceChars_clean (table : Table) : Clean table.referenceChars := by
  unfold Table.referenceChars
  cases table.seenAs with
  | none => exact table.name.chars_clean
  | some name =>
    have word : Clean " as ".toList := ⟨by decide, by decide⟩
    exact table.name.chars_clean.between word (by decide) (by decide) name.chars_clean

/-! Texts written by hand. -/

/-- The placeholder of the condition belongs to no word and no digit follows it, and read alone the condition refers
to nothing else. -/
def Condition.IsTidy : Condition → Prop
  | .written fragment => isTidy none .apart fragment.text.toList = true
  | .not operand => operand.IsTidy
  | _ => True

def Predicate.IsTidy : Predicate → Prop
  | .written fragment => references none false fragment.text.toList = []
  | .not operand => operand.IsTidy
  | .and left right | .or left right => left.IsTidy ∧ right.IsTidy
  | _ => True

def Start.IsTidy : Start → Prop
  | .sql fragment => references none false fragment.text.toList = []
  | _ => True

def Clause.IsTidy : Clause → Prop
  | .on predicate | .wherePredicate predicate | .andPredicate predicate | .orPredicate predicate => predicate.IsTidy
  | .where condition | .and condition | .or condition => condition.IsTidy
  | .raw fragment => references none false fragment.text.toList = []
  | _ => True

def Clause.beginsInDigit : Clause → Bool
  | .raw fragment => fragment.text.toList.head?.any Char.isDigit
  | _ => false

/-- Drafts whose texts written by hand refer to nothing but their own placeholders. No digit at the beginning of one
comes directly after a placeholder. -/
structure Draft.IsTidy (draft : Draft) : Prop where
  start : draft.start.IsTidy
  clauses : ∀ clause ∈ draft.clauses, clause.IsTidy
  apart : ∀ front clause back, draft.clauses = front ++ clause :: back → clause.beginsInDigit = true →
    precedingAfter none .apart (Draft.chars ⟨draft.start, front⟩) ≠ .unnumbered

theorem Clean.fragment {fragment : Fragment 0} (alone : references none false fragment.text.toList = []) :
    Clean fragment.text.toList :=
  ⟨fragment.closed, isTidy_of_references none .apart _ alone fragment.counted nofun⟩

theorem notChars_clean {operand : List Char} (inner : Clean operand) : Clean (notChars operand) := by
  have word : Clean "not (".toList := ⟨by decide, by decide⟩
  have closing : Clean [')'] := ⟨rfl, rfl⟩
  exact (inner.behind word (by decide)).append closing (by decide)

theorem Condition.chars_clean (condition : Condition) (tidy : condition.IsTidy) : Clean condition.chars := by
  induction condition with
  | written fragment => exact ⟨fragment.closed, tidy⟩
  | compare field comparison =>
    have operator : Clean (' ' :: (comparison.sql.toList ++ [' ', '?'])) := by
      cases comparison <;> exact ⟨by decide, by decide⟩
    exact field.expr.chars_clean.append operator rfl
  | inList field | between field => exact field.expr.chars_clean.append ⟨by decide, by decide⟩ (by decide)
  | not operand ih => exact notChars_clean (ih tidy)

theorem Predicate.joinChars_clean {word : String} {left right : List Char} (operator : Clean word.toList)
    (first : Clean left) (second : Clean right) : Clean (joinChars word left right) := by
  have closing : Clean [')'] := ⟨rfl, rfl⟩
  have operand : Clean ('(' :: (right ++ [')'])) := Clean.nil.join (by decide) (second.append closing (by decide))
  have spaced : Clean (' ' :: (word.toList ++ ' ' :: '(' :: (right ++ [')']))) :=
    Clean.nil.join (by decide) (operator.join (by decide) operand)
  exact Clean.nil.join (by decide) (first.join (by decide) spaced)

theorem Predicate.chars_clean (predicate : Predicate) (tidy : predicate.IsTidy) : Clean predicate.chars := by
  induction predicate with
  | written fragment => exact .fragment tidy
  | isNull field | isNotNull field => exact field.expr.chars_clean.append ⟨by decide, by decide⟩ (by decide)
  | eqField left right =>
    have sign : Clean " = ".toList := ⟨by decide, by decide⟩
    exact left.expr.chars_clean.between sign (by decide) (by decide) right.expr.chars_clean
  | not operand ih => exact notChars_clean (ih tidy)
  | and left right first second => exact joinChars_clean ⟨by decide, by decide⟩ (first tidy.1) (second tidy.2)
  | or left right first second => exact joinChars_clean ⟨by decide, by decide⟩ (first tidy.1) (second tidy.2)

theorem commaChars_clean {items : List (List Char)} (each : ∀ item ∈ items, Clean item) : Clean (commaChars items) := by
  induction items with
  | nil => exact .nil
  | cons item rest ih =>
    rw [List.forall_mem_cons] at each
    cases rest with
    | nil => exact each.1
    | cons next others => exact each.1.join (by decide) (Clean.nil.join (by decide) (ih each.2))

theorem commaChars_map_clean {chars : Field → List Char} (each : ∀ field, Clean (chars field)) (fields : List Field) :
    Clean (commaChars (fields.map chars)) :=
  commaChars_clean fun _ member => by
    obtain ⟨field, _, rfl⟩ := List.mem_map.mp member
    exact each field

theorem columns_clean (fields : List Field) : Clean (commaChars (fields.map fun field => field.expr.chars)) :=
  commaChars_map_clean (fun field => field.expr.chars_clean) fields

theorem Start.chars_clean (start : Start) (tidy : start.IsTidy) : Clean start.chars := by
  cases start with
  | sql fragment => exact .fragment tidy
  | select fields => exact (columns_clean fields).behind ⟨by decide, by decide⟩ (by decide)
  | insertInto table | update table | deleteFrom table =>
    exact table.referenceChars_clean.behind ⟨by decide, by decide⟩ (by decide)

namespace Clause

theorem valuesChars_clean (fields : List Field) : Clean (valuesChars fields) := by
  have names := commaChars_map_clean (fun field => field.expr.bareChars_clean) fields
  have marks : Clean (commaChars (fields.map fun _ => ['?'])) := commaChars_map_clean (fun _ => ⟨rfl, rfl⟩) fields
  have closing : Clean [')'] := ⟨rfl, rfl⟩
  have opened : Clean (" (".toList ++ commaChars (fields.map fun field => field.expr.bareChars)) :=
    names.behind ⟨by decide, by decide⟩ (by decide)
  have middle : Clean ") values (".toList := ⟨by decide, by decide⟩
  exact (opened.between middle (by decide) (by decide) marks).append closing (by decide)

theorem setChars_clean (fields : List Field) : Clean (setChars fields) := by
  have assigned (field : Field) : Clean (field.expr.bareChars ++ " = ?".toList) :=
    field.expr.bareChars_clean.append ⟨by decide, by decide⟩ (by decide)
  exact (commaChars_map_clean assigned fields).behind ⟨by decide, by decide⟩ (by decide)

theorem chars_clean (clause : Clause) (tidy : clause.IsTidy) : Clean clause.chars := by
  cases clause with
  | source table | join table | leftJoin table =>
    exact table.referenceChars_clean.behind ⟨by decide, by decide⟩ (by decide)
  | on predicate | wherePredicate predicate | andPredicate predicate | orPredicate predicate =>
    exact (predicate.chars_clean tidy).behind ⟨by decide, by decide⟩ (by decide)
  | «where» condition | and condition | or condition =>
    exact (condition.chars_clean tidy).behind ⟨by decide, by decide⟩ (by decide)
  | groupBy fields | orderBy fields => exact (columns_clean fields).behind ⟨by decide, by decide⟩ (by decide)
  | ascending | descending => exact ⟨by decide, by decide⟩
  | limit count | offset count => exact (Clean.of_bare (digits_bare count)).behind ⟨by decide, by decide⟩ (by decide)
  | raw fragment => exact .fragment tidy
  | values fields => exact valuesChars_clean fields
  | set fields => exact setChars_clean fields

/-- What the builder writes on its own account begins with a space. -/
theorem begins_apart (clause : Clause) (written : ∀ fragment, clause ≠ .raw fragment) :
    clause.chars.head?.any isSeparator = true := by
  cases clause with
  | raw fragment => exact absurd rfl (written fragment)
  | _ => rfl

end Clause

theorem Clean.append_fragment {text : List Char} (left : Clean text) {fragment : Fragment 0}
    (alone : references none false fragment.text.toList = [])
    (apart : fragment.text.toList.head?.any Char.isDigit = true → precedingAfter none .apart text ≠ .unnumbered) :
    Clean (text ++ fragment.text.toList) := by
  refine ⟨?_, ?_⟩
  · rw [openAfter_append, left.closed, fragment.closed]
  · rw [isTidy_append, left.tidy, left.closed, Bool.true_and]
    have unread (word : Bool) : references none word fragment.text.toList = [] := by
      cases word with
      | false => exact alone
      | true => exact references_word alone
    refine isTidy_of_references none _ _ (unread _) fragment.counted fun _ before => ?_
    cases letters : fragment.text.toList with
    | nil => rfl
    | cons c rest =>
      have digit : ¬c.isDigit = true := fun digit => apart (by rw [letters]; exact digit) before
      exact List.takeWhile_cons_of_neg digit

namespace Draft

theorem clauses_clean (start : Start) (front clauses : List Clause) (left : Clean (chars ⟨start, front⟩))
    (each : ∀ clause ∈ clauses, clause.IsTidy)
    (apart : ∀ middle clause back, clauses = middle ++ clause :: back → clause.beginsInDigit = true →
      precedingAfter none .apart (chars ⟨start, front ++ middle⟩) ≠ .unnumbered) :
    Clean (chars ⟨start, front ++ clauses⟩) := by
  induction clauses generalizing front with
  | nil => rwa [List.append_nil]
  | cons clause rest ih =>
    rw [List.forall_mem_cons] at each
    have added : chars ⟨start, front ++ [clause]⟩ = chars ⟨start, front⟩ ++ clause.chars :=
      chars_add ⟨start, front⟩ clause
    have next : Clean (chars ⟨start, front ++ [clause]⟩) := by
      rw [added]
      by_cases written : ∃ fragment, clause = .raw fragment
      · obtain ⟨fragment, rfl⟩ := written
        refine left.append_fragment each.1 fun digit => ?_
        simpa using apart [] _ rest rfl digit
      · exact left.append (clause.chars_clean each.1) (clause.begins_apart fun fragment same => written ⟨fragment, same⟩)
    have onward := ih (front ++ [clause]) next each.2 fun middle other back split digit => by
      simpa using apart (clause :: middle) other back (congrArg (clause :: ·) split) digit
    simpa using onward

theorem chars_clean (draft : Draft) (tidy : draft.IsTidy) : Clean draft.chars := by
  have started : Clean (chars ⟨draft.start, []⟩) := by
    simpa [chars] using draft.start.chars_clean tidy.start
  exact clauses_clean draft.start [] draft.clauses started tidy.clauses tidy.apart

end Draft

/-! Expansion and numbering. -/

theorem isTidy_word_of_unnumbered {rest : List Char} (tidy : isTidy none .unnumbered rest = true) :
    isTidy none .word rest = true := by
  cases rest with
  | nil => rfl
  | cons c rest =>
    have same : Preceding.step none .unnumbered c = Preceding.step none .word c := rfl
    rw [isTidy, Bool.and_eq_true, same] at tidy
    obtain ⟨admitted, later⟩ := tidy
    have mark : (c != '?') = true := (Bool.and_eq_true_iff.mp admitted).1
    rw [isTidy, later, Bool.and_true]
    exact mark

namespace Parameter

theorem marks_clean (parameter : Parameter) :
    Clean parameter.marks ∧ precedingAfter none .apart parameter.marks ≠ .apart := by
  have commas (count : Nat) : Clean (commaMarks (count + 1)) ∧
      precedingAfter none .apart (commaMarks (count + 1)) ≠ .apart := by
    induction count with
    | zero => exact ⟨⟨by decide, by decide⟩, by decide⟩
    | succ count ih =>
      obtain ⟨⟨closed, tidy⟩, ends⟩ := ih
      exact ⟨⟨closed, tidy⟩, ends⟩
  cases parameter with
  | scalar value => exact ⟨⟨rfl, rfl⟩, nofun⟩
  | range low high =>
    have both : Clean "? and ?".toList ∧ precedingAfter none .apart "? and ?".toList ≠ .apart :=
      ⟨⟨by decide, by decide⟩, by decide⟩
    exact both
  | collection values =>
    cases values with
    | nil =>
      have word : Clean "null".toList ∧ precedingAfter none .apart "null".toList ≠ .apart :=
        ⟨⟨by decide, by decide⟩, by decide⟩
      exact word
    | cons value rest => exact commas rest.length

end Parameter

/-- Expansion leaves a tidy text tidy, from any place of it on. -/
theorem isTidy_expanded (parameters : List Parameter) (state : Option Quote) (preceding : Preceding) (before : Nat)
    (text : List Char) (enough : before + count state text ≤ parameters.length)
    (tidy : isTidy state preceding text = true) :
    isTidy state preceding (substitute (Parameter.marksAt parameters) state before text) = true := by
  induction text generalizing state preceding before with
  | nil => rfl
  | cons c rest ih =>
    rw [isTidy, Bool.and_eq_true] at tidy
    obtain ⟨admitted, later⟩ := tidy
    cases found : isPlaceholder state c with
    | false =>
      simp only [count, found, Bool.false_eq_true, if_false, Nat.zero_add] at enough
      simp only [substitute, found, Bool.false_eq_true, if_false]
      rw [isTidy, admitted, ih _ _ before enough later]
      rfl
    | true =>
      obtain ⟨rfl, rfl, rfl⟩ := eq_of_placeholder found admitted
      simp only [count, found, if_true] at enough
      have inside : before < parameters.length := by omega
      have next : step none '?' = none := by decide
      have opens : Preceding.step none .apart '?' = .unnumbered := by decide
      rw [next, opens] at later
      rw [next] at enough
      have others := ih none .unnumbered (before + 1) (by omega) later
      obtain ⟨marks, ends⟩ := (parameters[before]).marks_clean
      have mark : Parameter.marksAt parameters before = (parameters[before]).marks := by
        rw [Parameter.marksAt, List.getElem?_eq_getElem inside]
        rfl
      have written : substitute (Parameter.marksAt parameters) none before ('?' :: rest) =
          (parameters[before]).marks ++ substitute (Parameter.marksAt parameters) none (before + 1) rest := by
        rw [← mark]
        rfl
      rw [written, isTidy_append, marks.tidy, marks.closed, Bool.true_and]
      cases reached : precedingAfter none .apart (parameters[before]).marks with
      | apart => exact absurd reached ends
      | word => exact isTidy_word_of_unnumbered others
      | unnumbered => exact others

/-- The numbered form of a statement with a tidy text refers to its parameters in order, each by its own number, and
to nothing else. Every text is tidy if what is written by hand in it is. -/
theorem Draft.references_numbered (draft : Draft) :
    (draft.IsTidy → isTidy none .apart draft.text.toList = true) ∧
      (isTidy none .apart draft.text.toList = true →
        ∀ (parameters : List Parameter) (filled : parameters.length = draft.slots),
          ∃ statement, draft.bind parameters filled = .ok statement ∧
            statement.params = parameters.flatMap Parameter.values ∧
            references none false (statement.render .dollar).toList =
              (List.range statement.params.length).map numberOf) := by
  rw [Draft.text, String.toList_ofList]
  refine ⟨fun tidy => (draft.chars_clean tidy).tidy, fun tidy parameters filled => ?_⟩
  obtain ⟨statement, bound, text, values, holds⟩ := draft.bind_expanded parameters filled
  have all : 0 + count none draft.chars = parameters.length := by
    rw [draft.chars_holds.counted, filled, Nat.zero_add]
  have expanded := isTidy_expanded parameters none .apart 0 draft.chars (Nat.le_of_eq all) tidy
  rw [← text] at expanded
  refine ⟨statement, bound, values, ?_⟩
  have numbered := references_substitute none .apart 0 statement.sql.toList expanded
  rw [holds.counted, ← List.range_eq_range'] at numbered
  rw [Statement.render, String.toList_ofList]
  exact numbered

/-- Dollars and digits in names, in quotes and after what ends a word are no references. -/
theorem Draft.references_numbered_dollars :
    let start : Start :=
      .select [⟨.column (.plain "cost$1" (by decide)), .text⟩, ⟨.column (.quoted "$2 ?" (by decide)), .text⟩]
    let condition : Condition := .written ⟨"tag$9 || '$3' like ?", by decide, by decide⟩
    let draft : Draft := ⟨start, [.where condition, .and (.inList ⟨.column (.plain "id" (by decide)), .int64⟩),
      .raw ⟨" limit ", by decide, by decide⟩, .raw ⟨"5", by decide, by decide⟩]⟩
    draft.IsTidy ∧ ∀ filled : [Parameter.scalar (.text "$8"), .collection [.null, .null]].length = draft.slots,
      ∃ statement, draft.bind _ filled = .ok statement ∧
        references none false (statement.render .dollar).toList = [['1'], ['2'], ['3']] := by
  intro start condition draft
  have parts : ∀ clause ∈ draft.clauses, clause.IsTidy := by
    simp only [draft, List.forall_mem_cons, Clause.IsTidy, condition, Condition.IsTidy]
    exact ⟨by decide, trivial, by decide, by decide, fun _ => nofun⟩
  have tidy : draft.IsTidy := by
    refine ⟨trivial, parts, fun front clause back split digit => ?_⟩
    -- The digit comes after a space.
    rcases front with _ | ⟨first, _ | ⟨second, _ | ⟨third, more⟩⟩⟩
    · cases split
      cases digit
    · cases split
      cases digit
    · cases split
      cases digit
    · have last : [.raw ⟨"5", by decide, by decide⟩] = more ++ clause :: back :=
        (List.cons.inj (List.cons.inj (List.cons.inj split).2).2).2
      have alone : more = [] := by
        have lengths := congrArg List.length last
        simp only [List.length_append, List.length_cons, List.length_nil] at lengths
        exact List.eq_nil_of_length_eq_zero (by omega)
      cases alone
      cases split
      decide
  refine ⟨tidy, fun filled => ?_⟩
  obtain ⟨whole, numbered⟩ := references_numbered draft
  obtain ⟨statement, bound, values, found⟩ := numbered (whole tidy) _ filled
  rw [values] at found
  exact ⟨statement, bound, found⟩

/-- The builder accepts texts that break this. A reference written by hand is one of its own; a placeholder behind a
word is none, and one before a digit is another. -/
theorem Draft.references_untidy :
    (∃ start statement, Start.ofText "select $7" = .ok start ∧ (Draft.ofStart start).bind [] rfl = .ok statement ∧
        statement.params = [] ∧ references none false (statement.render .dollar).toList = [['7']]) ∧
      (∃ start condition statement, Start.ofText "select 1" = .ok start ∧ Condition.of "name like?" = .ok condition ∧
        ((Draft.ofStart start).add (.where condition)).bind [.scalar (.text "a")] rfl = .ok statement ∧
        statement.params = [.text "a"] ∧ references none false (statement.render .dollar).toList = []) ∧
      ∃ start condition digit statement, Start.ofText "select 1" = .ok start ∧ Condition.of "id = ?" = .ok condition ∧
        Clause.ofText "5" = .ok (.raw digit) ∧
        (((Draft.ofStart start).add (.where condition)).add (.raw digit)).bind [.scalar .null] rfl = .ok statement ∧
        statement.params = [.null] ∧ references none false (statement.render .dollar).toList = [['1', '5']] := by
  refine ⟨⟨.sql ⟨"select $7", by decide, by decide⟩, _, rfl, rfl, rfl, by decide⟩, ?_, ?_⟩
  · refine ⟨.sql ⟨"select 1", by decide, by decide⟩, .written ⟨"name like?", by decide, by decide⟩, _, rfl, rfl, rfl,
      rfl, by decide⟩
  · refine ⟨.sql ⟨"select 1", by decide, by decide⟩, .written ⟨"id = ?", by decide, by decide⟩,
      ⟨"5", by decide, by decide⟩, _, rfl, rfl, rfl, rfl, rfl, by decide⟩

end SqlProgram
