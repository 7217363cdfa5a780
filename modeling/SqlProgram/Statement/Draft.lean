import SqlProgram.Statement.Basic
import SqlProgram.Statement.Condition
import SqlProgram.Table

/-!
Statements under construction: a beginning and the clauses after it. Each condition, and each
field that is set, opens a slot; a draft is bound by one parameter for every slot.
-/

namespace SqlProgram

inductive Start where
  | sql (fragment : Fragment 0)
  | select (fields : List Field)
  | insertInto (table : Table)
  | update (table : Table)
  | deleteFrom (table : Table)

inductive Clause where
  | source (table : Table)
  | join (table : Table)
  | leftJoin (table : Table)
  | on (predicate : Predicate)
  | where (condition : Condition)
  | and (condition : Condition)
  | or (condition : Condition)
  | wherePredicate (predicate : Predicate)
  | andPredicate (predicate : Predicate)
  | orPredicate (predicate : Predicate)
  | groupBy (fields : List Field)
  | orderBy (fields : List Field)
  | ascending
  | descending
  | limit (count : Nat)
  | offset (count : Nat)
  | raw (fragment : Fragment 0)
  | values (fields : List Field)
  | set (fields : List Field)

def commaChars : List (List Char) → List Char
  | [] => []
  | [item] => item
  | item :: items => item ++ ',' :: ' ' :: commaChars items

namespace Start

def ofText (text : String) : Except Rejection Start :=
  (Fragment.checkFilled 0 .blankStatement .statementPlaceholders text).map .sql

def chars : Start → List Char
  | .sql fragment => fragment.text.toList
  | .select fields => "select ".toList ++ commaChars (fields.map fun field => field.expr.chars)
  | .insertInto table => "insert into ".toList ++ table.referenceChars
  | .update table => "update ".toList ++ table.referenceChars
  | .deleteFrom table => "delete from ".toList ++ table.referenceChars

end Start

namespace Clause

def ofText (text : String) : Except Rejection Clause :=
  (Fragment.check 0 (fun _ => .fragmentPlaceholders text) text).map .raw

/-- The columns to be filled and a placeholder for each. -/
def valuesChars (fields : List Field) : List Char :=
  " (".toList ++ commaChars (fields.map fun field => field.expr.bareChars) ++
    ") values (".toList ++ commaChars (fields.map fun _ => ['?']) ++ [')']

def setChars (fields : List Field) : List Char :=
  " set ".toList ++ commaChars (fields.map fun field => field.expr.bareChars ++ " = ?".toList)

def chars : Clause → List Char
  | .source table => " from ".toList ++ table.referenceChars
  | .join table => " join ".toList ++ table.referenceChars
  | .leftJoin table => " left join ".toList ++ table.referenceChars
  | .on predicate => " on ".toList ++ predicate.chars
  | .where condition => " where ".toList ++ condition.chars
  | .and condition => " and ".toList ++ condition.chars
  | .or condition => " or ".toList ++ condition.chars
  | .wherePredicate predicate => " where ".toList ++ predicate.chars
  | .andPredicate predicate => " and ".toList ++ predicate.chars
  | .orPredicate predicate => " or ".toList ++ predicate.chars
  | .groupBy fields => " group by ".toList ++ commaChars (fields.map fun field => field.expr.chars)
  | .orderBy fields => " order by ".toList ++ commaChars (fields.map fun field => field.expr.chars)
  | .ascending => " asc".toList
  | .descending => " desc".toList
  | .limit count => " limit ".toList ++ Nat.toDigits 10 count
  | .offset count => " offset ".toList ++ Nat.toDigits 10 count
  | .raw fragment => fragment.text.toList
  | .values fields => valuesChars fields
  | .set fields => setChars fields

/-- How many slots the clause opens. -/
def slots : Clause → Nat
  | .where _ | .and _ | .or _ => 1
  | .values fields | .set fields => fields.length
  | _ => 0

end Clause

/-- A beginning and the clauses after it, in order. -/
structure Draft where
  start : Start
  clauses : List Clause

namespace Draft

def ofStart (start : Start) : Draft := ⟨start, []⟩

def add (draft : Draft) (clause : Clause) : Draft :=
  { draft with clauses := draft.clauses ++ [clause] }

/-- The text so far, with one placeholder for each slot. -/
def chars (draft : Draft) : List Char := draft.start.chars ++ draft.clauses.flatMap Clause.chars

def text (draft : Draft) : String := String.ofList draft.chars

def slots (draft : Draft) : Nat :=
  draft.clauses.foldr (fun clause rest => clause.slots + rest) 0

theorem chars_add (draft : Draft) (clause : Clause) : (draft.add clause).chars = draft.chars ++ clause.chars := by
  simp [chars, add]

theorem slots_add (draft : Draft) (clause : Clause) : (draft.add clause).slots = draft.slots + clause.slots := by
  simp only [slots, add]
  induction draft.clauses with
  | nil => simp
  | cons first rest ih => simp only [List.cons_append, List.foldr_cons, ih, Nat.add_assoc]

/-- The statement with every slot filled. A draft without slots is a statement as it is. -/
def bind (draft : Draft) (parameters : List Parameter)
    (_filled : parameters.length = draft.slots) : Outcome Statement :=
  if parameters.isEmpty then .ok (.raw draft.chars) else Statement.expand draft.chars parameters

end Draft

end SqlProgram
