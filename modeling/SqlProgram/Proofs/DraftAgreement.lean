import SqlProgram.Proofs.BuilderAgreement
import SqlProgram.Proofs.DraftBalance

/-!
Drafts built by the same calls in two wordings. Their texts are alike and they open the same slots, whatever the
quoted names and the text defaults are.
-/

namespace SqlProgram

open Placeholder

theorem Alike.behind {first second : List Char} (alike : Alike first second) {word : List Char}
    (plain : word.all isPlain) : Alike (word ++ first) (word ++ second) :=
  (Alike.refl (Holds.of_plain plain).closed).append alike

theorem Alike.notChars {first second : List Char} (alike : Alike first second) :
    Alike (SqlProgram.notChars first) (SqlProgram.notChars second) := by
  have closing : Alike [')'] [')'] := .refl rfl
  exact (alike.behind (by decide)).append closing

theorem Alike.joinChars {first second others more : List Char} {word : String} (one : Alike first second)
    (two : Alike others more) (plain : word.toList.all isPlain) :
    Alike (Predicate.joinChars word first others) (Predicate.joinChars word second more) := by
  have middle : openAfter none (')' :: ' ' :: (word.toList ++ [' ', '('])) = none := by
    have joined : Holds (')' :: ' ' :: (word.toList ++ [' ', '('])) 0 :=
      .cons (by decide) <| .cons (by decide) <| (Holds.of_plain plain).before <| .of_plain (by decide)
    exact joined.closed
  have closing : Alike [')'] [')'] := .refl rfl
  have opening : Alike ['('] ['('] := .refl rfl
  have whole := opening.append (one.append ((Alike.refl middle).append (two.append closing)))
  simp only [List.cons_append, List.append_assoc, List.nil_append] at whole
  exact whole

section
variable {Gap : Type} {first second : Wording Gap} (same : first.SameButQuoted second)
include same

theorem ConditionCall.make_agrees (condition : ConditionCall Gap) :
    Agree (fun one other => Alike one.chars other.chars) (condition.make first) (condition.make second) := by
  induction condition with
  | of text =>
    have checked := Fragment.checkFilled_agrees (n := 1) (same.texts text) .blankCondition
      (.conditionPlaceholders · (first.text text)) (.conditionPlaceholders · (second.text text))
    exact .call (checked.map fun one other alike => alike)
  | compare field comparison =>
    have marked : openAfter none (' ' :: (comparison.sql.toList ++ [' ', '?'])) = none := by
      cases comparison <;> decide
    exact (field.make_agrees same).map fun one other twin => twin.chars.append (.refl marked)
  | inList field | between field =>
    exact (field.make_agrees same).map fun one other twin => twin.chars.append (.refl (by decide))
  | not operand ih => exact ih.map fun one other alike => alike.notChars

theorem PredicateCall.make_agrees (predicate : PredicateCall Gap) :
    Agree (fun one other => Alike one.chars other.chars) (predicate.make first) (predicate.make second) := by
  induction predicate with
  | of text =>
    have checked := Fragment.checkFilled_agrees (n := 0) (same.texts text) .blankPredicate
      (fun _ => .predicatePlaceholders (first.text text)) (fun _ => .predicatePlaceholders (second.text text))
    exact .call (checked.map fun one other alike => alike)
  | isNull field | isNotNull field =>
    exact (field.make_agrees same).map fun one other twin => twin.chars.append (.refl (by decide))
  | eqField left right =>
    refine (left.make_agrees same).bind fun one other twin => (right.make_agrees same).map fun field others twins => ?_
    exact (twin.chars.append (.refl (by decide))).append twins.chars
  | not operand ih => exact ih.map fun one other alike => alike.notChars
  | and left right former latter =>
    exact former.bind fun one other alike => latter.map fun right others likewise =>
      alike.joinChars likewise (by decide)
  | or left right former latter =>
    exact former.bind fun one other alike => latter.map fun right others likewise =>
      alike.joinChars likewise (by decide)

theorem StartCall.make_agrees (start : StartCall Gap) :
    Agree (fun one other => Alike one.chars other.chars) (start.make first) (start.make second) := by
  cases start with
  | sql text =>
    have checked := Fragment.checkFilled_agrees (n := 0) (same.texts text) .blankStatement
      .statementPlaceholders .statementPlaceholders
    exact .call (checked.map fun one other alike => alike)
  | select fields =>
    refine (FieldCall.makeAll_agrees same fields).map fun built others twins => ?_
    exact (twins.commas fun one other twin => twin.chars).behind (by decide)
  | insertInto table | update table | deleteFrom table =>
    exact (table.make_agrees same).map fun one other twin => twin.referenceChars.behind (by decide)

end

structure Clause.Twin (one other : Clause) : Prop where
  chars : Alike one.chars other.chars
  slots : one.slots = other.slots

theorem Clause.Twin.values {fields others : List Field} (twins : Field.Twins fields others) :
    Clause.Twin (.values fields) (.values others) := by
  have names := twins.commas fun one other twin => twin.bareChars
  have marks : Alike (commaChars (fields.map fun _ => ['?'])) (commaChars (others.map fun _ => ['?'])) :=
    twins.commas fun one other twin => .refl rfl
  have middle : Alike ") values (".toList ") values (".toList := .refl (by decide)
  have closing : Alike [')'] [')'] := .refl rfl
  refine ⟨?_, twins.forall₂.length_eq⟩
  exact (((names.behind (by decide)).append middle).append marks).append closing

theorem Clause.Twin.set {fields others : List Field} (twins : Field.Twins fields others) :
    Clause.Twin (.set fields) (.set others) := by
  have each (one other : Field) (twin : one.Twin other) :
      Alike (one.expr.bareChars ++ " = ?".toList) (other.expr.bareChars ++ " = ?".toList) :=
    twin.bareChars.append (.refl (by decide))
  have assignments := twins.commas each
  exact ⟨assignments.behind (by decide), twins.forall₂.length_eq⟩

section
variable {Gap : Type} {first second : Wording Gap} (same : first.SameButQuoted second)
include same

theorem ClauseCall.make_agrees (clause : ClauseCall Gap) :
    Agree Clause.Twin (clause.make first) (clause.make second) := by
  cases clause with
  | source table | join table | leftJoin table =>
    exact (table.make_agrees same).map fun one other twin => ⟨twin.referenceChars.behind (by decide), rfl⟩
  | on predicate | wherePredicate predicate | andPredicate predicate | orPredicate predicate =>
    exact (predicate.make_agrees same).map fun one other alike => ⟨alike.behind (by decide), rfl⟩
  | «where» condition | and condition | or condition =>
    exact (condition.make_agrees same).map fun one other alike => ⟨alike.behind (by decide), rfl⟩
  | groupBy fields | orderBy fields =>
    refine (FieldCall.makeAll_agrees same fields).map fun built others twins => ⟨?_, rfl⟩
    exact (twins.commas fun one other twin => twin.chars).behind (by decide)
  | ascending | descending => exact .pure ⟨.refl (Clause.chars_holds _).closed, rfl⟩
  | limit count | offset count => exact .pure ⟨.refl (Clause.chars_holds _).closed, rfl⟩
  | raw text =>
    have checked := Fragment.check_agrees (n := 0) (same.texts text)
      (fun _ => .fragmentPlaceholders (first.text text)) (fun _ => .fragmentPlaceholders (second.text text))
    exact .call (checked.map fun one other alike => ⟨alike, rfl⟩)
  | values fields => exact (FieldCall.makeAll_agrees same fields).map fun built others twins => .values twins
  | set fields => exact (FieldCall.makeAll_agrees same fields).map fun built others twins => .set twins

end

structure Draft.Twin (one other : Draft) : Prop where
  chars : Alike one.chars other.chars
  slots : one.slots = other.slots

theorem Draft.Twin.add {one other : Draft} (twin : one.Twin other) {clause another : Clause}
    (next : clause.Twin another) : (one.add clause).Twin (other.add another) := by
  constructor
  · rw [chars_add, chars_add]
    exact twin.chars.append next.chars
  · rw [slots_add, slots_add, twin.slots, next.slots]

theorem DraftCalls.make_agrees {Gap : Type} {first second : Wording Gap} (same : first.SameButQuoted second)
    (calls : DraftCalls Gap) : Agree Draft.Twin (calls.make first) (calls.make second) := by
  have onward (clauses : List (ClauseCall Gap)) (one other : Draft) (twin : one.Twin other) :
      Agree Draft.Twin (makeFrom first one clauses) (makeFrom second other clauses) := by
    induction clauses generalizing one other with
    | nil => exact .pure twin
    | cons clause rest ih =>
      exact (clause.make_agrees same).bind fun added another next => ih _ _ (twin.add next)
  refine (calls.start.make_agrees same).bind fun start another alike => onward calls.clauses _ _ ⟨?_, rfl⟩
  simpa [Draft.chars, Draft.ofStart] using alike

end SqlProgram
