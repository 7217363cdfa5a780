import SqlProgram.Proofs.PlaceholderBalance
import SqlProgram.Statement.Draft

/-!
Every draft closes its quotes and holds one placeholder for each slot, so binding always has a
parameter for each placeholder, and the bound statement has one value for each of its own.
-/

namespace SqlProgram

open Placeholder

theorem notChars_holds {operand : List Char} {n : Nat} (inner : Holds operand n) :
    Holds (notChars operand) n :=
  ((Holds.of_plain (by decide)).before inner).after (.of_plain (by decide))

theorem Condition.chars_holds (condition : Condition) : Holds condition.chars 1 := by
  induction condition with
  | written fragment => exact ⟨fragment.closed, fragment.counted⟩
  | compare field comparison =>
    have operator : comparison.sql.toList.all isPlain := by cases comparison <;> decide
    have bound : Holds (' ' :: (comparison.sql.toList ++ [' ', '?'])) 1 :=
      .cons (by decide) ((Holds.of_plain operator).before (.cons (by decide) .question))
    exact field.expr.chars_holds.before bound
  | inList field => exact field.expr.chars_holds.before ⟨by decide, by decide⟩
  | between field => exact field.expr.chars_holds.before ⟨by decide, by decide⟩
  | not operand ih => exact notChars_holds ih

theorem Predicate.joinChars_holds {word : String} {left right : List Char} (plain : word.toList.all isPlain)
    (first : Holds left 0) (second : Holds right 0) : Holds (joinChars word left right) 0 := by
  have last : Holds (')' :: ' ' :: (word.toList ++ ' ' :: '(' :: (right ++ [')']))) 0 :=
    .cons (by decide) <| .cons (by decide) <| (Holds.of_plain plain).before <|
      .cons (by decide) <| .cons (by decide) <| second.before (.of_plain (by decide))
  exact .cons (by decide) (first.before last)

theorem Predicate.chars_holds (predicate : Predicate) : Holds predicate.chars 0 := by
  induction predicate with
  | written fragment => exact ⟨fragment.closed, fragment.counted⟩
  | isNull field => exact field.expr.chars_holds.before (.of_plain (by decide))
  | isNotNull field => exact field.expr.chars_holds.before (.of_plain (by decide))
  | eqField left right =>
    exact (left.expr.chars_holds.before (.of_plain (by decide))).before right.expr.chars_holds
  | not operand ih => exact notChars_holds ih
  | and left right first second => exact joinChars_holds (by decide) first second
  | or left right first second => exact joinChars_holds (by decide) first second

theorem commaChars_holds {items : List (List Char)} {n : Nat} (each : ∀ item ∈ items, Holds item n) :
    Holds (commaChars items) (n * items.length) := by
  induction items with
  | nil => exact .nil
  | cons item rest ih =>
    have first := each item (by simp)
    have later := ih fun other member => each other (by simp [member])
    cases rest with
    | nil => simpa [commaChars] using first
    | cons next rest =>
      have joined := first.append (.cons (c := ',') (by decide) (.cons (c := ' ') (by decide) later))
      have total : n + n * (next :: rest).length = n * (item :: next :: rest).length := by
        simp only [List.length_cons, Nat.mul_add, Nat.mul_one]
        omega
      rw [total] at joined
      exact joined

theorem commaChars_map_holds {chars : α → List Char} {n : Nat} (each : ∀ item, Holds (chars item) n)
    (items : List α) : Holds (commaChars (items.map chars)) (n * items.length) := by
  have written : ∀ text ∈ items.map chars, Holds text n := by
    intro text member
    obtain ⟨item, _, rfl⟩ := List.mem_map.mp member
    exact each item
  rw [← List.length_map chars]
  exact commaChars_holds written

theorem columns_hold (fields : List Field) :
    Holds (commaChars (fields.map fun field => field.expr.chars)) 0 := by
  simpa using commaChars_map_holds (fun field : Field => field.expr.chars_holds) fields

theorem Start.chars_holds (start : Start) : Holds start.chars 0 := by
  cases start with
  | sql fragment => exact ⟨fragment.closed, fragment.counted⟩
  | select fields => exact (Holds.of_plain (by decide)).before (columns_hold fields)
  | insertInto table | update table | deleteFrom table =>
    exact (Holds.of_plain (by decide)).before table.referenceChars_holds

namespace Clause

/-- The columns to be filled carry no placeholder, whatever their names; each mark is one. -/
theorem valuesChars_holds (fields : List Field) : Holds (valuesChars fields) fields.length := by
  have names : Holds (commaChars (fields.map fun field => field.expr.bareChars)) 0 := by
    simpa using commaChars_map_holds (fun field : Field => field.expr.bareChars_holds) fields
  have marks : Holds (commaChars (fields.map fun _ => ['?'])) fields.length := by
    simpa using commaChars_map_holds (fun _ : Field => .question) fields
  have opening : Holds (" (".toList ++ commaChars (fields.map fun field => field.expr.bareChars) ++
      ") values (".toList) 0 :=
    ((Holds.of_plain (by decide)).before names).before (.of_plain (by decide))
  exact (opening.before marks).after (.of_plain (by decide))

theorem setChars_holds (fields : List Field) : Holds (setChars fields) fields.length := by
  have each (field : Field) : Holds (field.expr.bareChars ++ " = ?".toList) 1 :=
    field.expr.bareChars_holds.before ⟨by decide, by decide⟩
  have assignments := commaChars_map_holds each fields
  rw [Nat.one_mul] at assignments
  exact (Holds.of_plain (by decide)).before assignments

theorem chars_holds (clause : Clause) : Holds clause.chars clause.slots := by
  cases clause with
  | source table | join table | leftJoin table =>
    exact (Holds.of_plain (by decide)).before table.referenceChars_holds
  | on predicate | wherePredicate predicate | andPredicate predicate | orPredicate predicate =>
    exact (Holds.of_plain (by decide)).before predicate.chars_holds
  | «where» condition | and condition | or condition =>
    exact (Holds.of_plain (by decide)).before condition.chars_holds
  | groupBy fields | orderBy fields => exact (Holds.of_plain (by decide)).before (columns_hold fields)
  | ascending | descending => exact .of_plain (by decide)
  | limit count | offset count =>
    exact (Holds.of_plain (by decide)).before (.of_plain (digits_plain count))
  | raw fragment => exact ⟨fragment.closed, fragment.counted⟩
  | values fields => exact valuesChars_holds fields
  | set fields => exact setChars_holds fields

end Clause

/-- The slots of a draft are the placeholders of its text, after every clause. -/
theorem Draft.chars_holds (draft : Draft) : Holds draft.chars draft.slots := by
  have clauses : Holds (draft.clauses.flatMap Clause.chars)
      (draft.clauses.foldr (fun clause rest => clause.slots + rest) 0) := by
    induction draft.clauses with
    | nil => exact .nil
    | cons clause rest ih => exact clause.chars_holds.append ih
  exact draft.start.chars_holds.before clauses

namespace Parameter

theorem commaMarks_holds (count : Nat) : Holds (commaMarks count) count := by
  fun_induction commaMarks count with
  | case1 => exact .nil
  | case2 => exact .question
  | case3 count _ ih =>
    have later : Holds (',' :: ' ' :: commaMarks count) count := .cons (by decide) (.cons (by decide) ih)
    simpa [Nat.add_comm] using Holds.question.append later

/-- A parameter is written with one placeholder for each value; an empty collection with none. -/
theorem marks_holds (parameter : Parameter) : Holds parameter.marks parameter.width := by
  cases parameter with
  | scalar value => exact .question
  | range low high =>
    have both : Holds "? and ?".toList 2 := ⟨by decide, by decide⟩
    exact both
  | collection values =>
    cases values with
    | nil => exact .of_plain (by decide)
    | cons value rest => exact commaMarks_holds _

end Parameter

/-- Expansion, from any place of a template on, where some parameters are used up. A placeholder is
only found outside quotes, so what is written in its place starts and ends outside them, too. -/
theorem Placeholder.substitute_marks (parameters : List Parameter) (state : Option Quote) (before : Nat)
    (text : List Char) (enough : before + count state text = parameters.length) :
    let written := substitute (fun index => (parameters[index]?.map Parameter.marks).getD []) state before text
    openAfter state written = openAfter state text ∧
      count state written = ((parameters.drop before).flatMap Parameter.values).length := by
  dsimp only
  induction text generalizing state before with
  | nil =>
    have used : parameters.drop before = [] := List.drop_eq_nil_of_le (by simp only [count] at enough; omega)
    simp [substitute, count, used]
  | cons c rest ih =>
    cases found : isPlaceholder state c with
    | false =>
      simp only [count, found] at enough
      obtain ⟨closes, counts⟩ := ih (step state c) before (by simpa using enough)
      simp only [substitute, found, Bool.false_eq_true, if_false, count]
      exact ⟨closes, by simpa using counts⟩
    | true =>
      -- Outside every quote, so the balance of the written marks applies where they stand.
      have outside : state = none ∧ c = '?' := by simpa [isPlaceholder] using found
      obtain ⟨rfl, rfl⟩ := outside
      simp only [count, found, if_true] at enough
      have inside : before < parameters.length := by omega
      obtain ⟨closes, counts⟩ := ih (step none '?') (before + 1) (by omega)
      have same : step none '?' = none := by decide
      rw [same] at closes counts
      have marks := (parameters[before]).marks_holds
      simp only [substitute, found, if_true, List.getElem?_eq_getElem inside, Option.map_some, Option.getD_some, same]
      refine ⟨?_, ?_⟩
      · rw [openAfter_append, marks.closed, closes]
        rfl
      · rw [count_append, marks.closed, marks.counted, counts, List.drop_eq_getElem_cons inside,
          List.flatMap_cons, List.length_append]
        rfl

/-- A template with a placeholder for each parameter is expanded to a statement with one for each
value. -/
theorem Statement.expand_holds {template : List Char} {parameters : List Parameter}
    (holds : Holds template parameters.length) :
    ∃ statement, expand template parameters = .ok statement ∧
      statement.params = parameters.flatMap Parameter.values ∧
      Holds statement.sql.toList statement.params.length := by
  have enough : (positions none 0 template).length = parameters.length := by
    rw [length_positions, holds.counted]
  have expanded := substitute_marks parameters none 0 template (by rw [holds.counted, Nat.zero_add])
  simp only [expand, enough, if_true]
  refine ⟨_, rfl, rfl, ?_⟩
  rw [String.toList_ofList]
  exact ⟨expanded.1.trans holds.closed, expanded.2⟩

/-- Whatever calls led to a draft, its text is outside every quote and holds exactly one placeholder
for each open slot. So a draft is always bound: never does the number of slots get out of step with
the placeholders, and the statement holds one placeholder for each of its values. -/
theorem Draft.bind_balanced (draft : Draft) :
    openAfter none draft.text.toList = none ∧ count none draft.text.toList = draft.slots ∧
      ∀ (parameters : List Parameter) (filled : parameters.length = draft.slots),
        ∃ statement, draft.bind parameters filled = .ok statement ∧
          statement.params = parameters.flatMap Parameter.values ∧
          openAfter none statement.sql.toList = none ∧
          statement.placeholderCount = statement.params.length := by
  have holds := draft.chars_holds
  rw [Draft.text, String.toList_ofList]
  refine ⟨holds.closed, holds.counted, fun parameters filled => ?_⟩
  rw [← filled] at holds
  cases parameters with
  | nil =>
    refine ⟨.raw draft.chars, rfl, rfl, ?_, ?_⟩
    · simpa [Statement.raw] using holds.closed
    · simpa [Statement.raw, Statement.placeholderCount] using holds.counted
  | cons parameter rest =>
    obtain ⟨statement, expanded, values, balanced⟩ := Statement.expand_holds holds
    exact ⟨statement, expanded, values, balanced.closed, balanced.counted⟩

/-- Quotes and question marks in a column's name and in a default are no placeholders. -/
theorem Draft.bind_balanced_hostile :
    let name : Segment := .quoted "what's \"?" (by decide)
    let field : Field := ⟨.coalesce (.column name) (.text "'?"), .text⟩
    let draft : Draft := ⟨.select [field], [.where (.inList field), .and (.not (.between field))]⟩
    let parameters : List Parameter := [.collection [], .range (.text "?") (.text "'")]
    parameters.length = draft.slots ∧
      ∀ filled : parameters.length = draft.slots,
        ∃ statement, draft.bind parameters filled = .ok statement ∧
          statement.params = [.text "?", .text "'"] ∧ statement.placeholderCount = 2 := by
  intro name field draft parameters
  refine ⟨rfl, fun filled => ?_⟩
  obtain ⟨statement, bound, values, _, counted⟩ := (Draft.bind_balanced draft).2.2 parameters filled
  have given : parameters.flatMap Parameter.values = [.text "?", .text "'"] := rfl
  rw [values, given] at counted
  exact ⟨statement, bound, values, counted⟩

end SqlProgram
