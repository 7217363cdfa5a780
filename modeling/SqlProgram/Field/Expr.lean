import SqlProgram.Ident
import SqlProgram.Row.Layout
import SqlProgram.Value.Literal

/-!
Column expressions: how they are written in a statement, and which column of a result they mean.
-/

namespace SqlProgram

inductive Aggregate where
  | count
  | sum
  | min
  | max
  | avg
  deriving DecidableEq

def Aggregate.name : Aggregate → String
  | .count => "count"
  | .sum => "sum"
  | .min => "min"
  | .max => "max"
  | .avg => "avg"

inductive Expr where
  | column (name : Segment)
  | qualified (table : Ident) (name : Segment)
  | aggregate (function : Aggregate) (argument : Expr)
  | coalesce (argument : Expr) (default : Value)
  | renamed (expr : Expr) (name : Ident)

namespace Expr

/-- The column that a name refers to; all but its last segment is the qualifier. -/
def ofIdent (ident : Ident) : Expr :=
  match ident.qualifier? with
  | some table => .qualified table ident.last
  | none => .column ident.last

def call (function : String) (arguments : List Char) : List Char :=
  function.toList ++ '(' :: (arguments ++ [')'])

/-- The expression as written. -/
def chars : Expr → List Char
  | .column name => name.chars
  | .qualified table name => table.chars ++ '.' :: name.chars
  | .aggregate function argument => call function.name argument.chars
  | .coalesce argument default =>
    call "coalesce" (argument.chars ++ ',' :: ' ' :: default.literal)
  | .renamed expr name => expr.chars ++ " as ".toList ++ name.chars

def shown (expr : Expr) : String :=
  "Column(" ++ Text.Escaped.enclose (String.ofList expr.chars) ++ ")"

/-- The expression where only a column may stand: without qualifier or alias. -/
def bareChars : Expr → List Char
  | .column name => name.chars
  | .qualified _ name => name.chars
  | .aggregate function argument => (aggregate function argument).chars
  | .coalesce argument default => (coalesce argument default).chars
  | .renamed expr _ => expr.bareChars

/-- The name of the result column. -/
def label : Expr → String
  | .column name => name.name
  | .qualified _ name => name.name
  | .aggregate function _ => function.name
  | .coalesce _ _ => "coalesce"
  | .renamed _ name => name.last.name

def names (expr : Expr) (column : String) : Bool :=
  match expr with
  | .column name => name.names column
  | .qualified _ name => name.names column
  | .aggregate function _ => Text.sameFolded function.name column
  | .coalesce _ _ => Text.sameFolded "coalesce" column
  | .renamed _ name => name.names column

/-- The same expression seen through a table; another qualifier is replaced. -/
def qualifiedBy (table : Ident) : Expr → Expr
  | .column name => .qualified table name
  | .qualified _ name => .qualified table name
  | .aggregate function argument => .aggregate function (argument.qualifiedBy table)
  | .coalesce argument default => .coalesce (argument.qualifiedBy table) default
  | .renamed expr name => .renamed (expr.qualifiedBy table) name

/-- The column of a result that is meant: one named by the label exactly, else the first that the
expression names. -/
def indexIn (expr : Expr) (layout : RowLayout) : Option Nat :=
  layout.findEither? (· == expr.label) expr.names

end Expr

end SqlProgram
