import SqlProgram.Outcome
import SqlProgram.Parameter
import SqlProgram.Placeholder

/-!
Statements with all their values: text with one placeholder for each. A template holds one
placeholder for each parameter; expanding it writes out as many as the parameter has values.
-/

namespace SqlProgram

inductive PlaceholderStyle where
  | question
  /-- Numbered with a dollar sign, as the wire protocol wants them. -/
  | dollar
  deriving DecidableEq

/-- A statement and the values of its placeholders in order. -/
structure Statement where
  sql : String
  params : List Value

namespace Statement

/-- What it means that a template does not hold one placeholder for each parameter. -/
def outOfSync (template : List Char) (placeholders parameters : Nat) : Panic :=
  .message <| "assertion `left == right` failed: slot count out of sync with placeholders in `" ++
    String.ofList template ++ s!"`\n  left: {placeholders}\n right: {parameters}"

/-- Each placeholder of a template expanded to those of its parameter. There must be as many
parameters as placeholders. -/
def expand (template : List Char) (parameters : List Parameter) : Outcome Statement :=
  let placeholders := (Placeholder.positions none 0 template).length
  if placeholders = parameters.length then
    .ok {
      sql := String.ofList (Placeholder.substitute
        (fun index => (parameters[index]?.map Parameter.marks).getD []) none 0 template)
      params := parameters.flatMap Parameter.values }
  else .panicked (outOfSync template placeholders parameters.length)

def raw (text : List Char) : Statement := ⟨String.ofList text, []⟩

def placeholderCount (statement : Statement) : Nat := Placeholder.count none statement.sql.toList

/-- A placeholder by its number, from one. -/
def dollarMark (before : Nat) : List Char := '$' :: Nat.toDigits 10 (before + 1)

def render (statement : Statement) : PlaceholderStyle → String
  | .question => statement.sql
  | .dollar =>
    String.ofList (Placeholder.substitute dollarMark none 0 statement.sql.toList)

/-- The statement followed by a clause without parameters. -/
def withSuffix (statement : Statement) (suffix : String) : Statement :=
  { statement with sql := statement.sql ++ suffix }

/-- The statement that also gives back a column of the rows it changes. -/
def returning (statement : Statement) (column : String) : Statement :=
  statement.withSuffix (" returning " ++ column)

end Statement

end SqlProgram
