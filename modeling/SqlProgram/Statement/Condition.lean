import SqlProgram.Field.Basic
import SqlProgram.Statement.Fragment

/-!
Conditions, which bind what one placeholder stands for, and predicates, which bind nothing.
-/

namespace SqlProgram

inductive Comparison where
  | eq
  | notEq
  | gt
  | gte
  | lt
  | lte
  | like
  deriving DecidableEq

namespace Comparison

def all : List Comparison := [.eq, .notEq, .gt, .gte, .lt, .lte, .like]

def sql : Comparison → String
  | .eq => "="
  | .notEq => "<>"
  | .gt => ">"
  | .gte => ">="
  | .lt => "<"
  | .lte => "<="
  | .like => "like"

end Comparison

def notChars (operand : List Char) : List Char := "not (".toList ++ operand ++ [')']

/-- A truth value with one placeholder. -/
inductive Condition where
  | written (fragment : Fragment 1)
  | compare (field : Field) (comparison : Comparison)
  | inList (field : Field)
  | between (field : Field)
  | not (operand : Condition)

namespace Condition

def of (text : String) : Except Rejection Condition :=
  (Fragment.checkFilled 1 .blankCondition (.conditionPlaceholders · text) text).map .written

/-- The condition as written, with its placeholder not yet expanded. -/
def chars : Condition → List Char
  | .written fragment => fragment.text.toList
  | .compare field comparison =>
    field.expr.chars ++ ' ' :: (comparison.sql.toList ++ [' ', '?'])
  | .inList field => field.expr.chars ++ " in (?)".toList
  | .between field => field.expr.chars ++ " between ?".toList
  | .not operand => notChars operand.chars

def text (condition : Condition) : String := String.ofList condition.chars

def shown (condition : Condition) : String :=
  "Condition(" ++ Text.Escaped.enclose condition.text ++ ")"

end Condition

/-- A truth value without placeholders. -/
inductive Predicate where
  | written (fragment : Fragment 0)
  | isNull (field : Field)
  | isNotNull (field : Field)
  | eqField (left right : Field)
  | not (operand : Predicate)
  | and (left right : Predicate)
  | or (left right : Predicate)

namespace Predicate

def of (text : String) : Except Rejection Predicate :=
  (Fragment.checkFilled 0 .blankPredicate (fun _ => .predicatePlaceholders text) text).map .written

/-- Two operands in parentheses with a word between them. -/
def joinChars (word : String) (left right : List Char) : List Char :=
  '(' :: (left ++ ')' :: ' ' :: (word.toList ++ ' ' :: '(' :: (right ++ [')'])))

def chars : Predicate → List Char
  | .written fragment => fragment.text.toList
  | .isNull field => field.expr.chars ++ " is null".toList
  | .isNotNull field => field.expr.chars ++ " is not null".toList
  | .eqField left right => left.expr.chars ++ " = ".toList ++ right.expr.chars
  | .not operand => notChars operand.chars
  | .and left right => joinChars "and" left.chars right.chars
  | .or left right => joinChars "or" left.chars right.chars

def text (predicate : Predicate) : String := String.ofList predicate.chars

end Predicate

end SqlProgram
