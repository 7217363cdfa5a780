import SqlProgram.Postgres.Decode

/-!
What a PostgreSQL server says to the messages of a client. A server may also say nothing.
-/

namespace SqlProgram.Postgres

structure ServerError where
  code : String
  message : String
  constraint : Option String

namespace ServerError

/-- The failure of a statement. Violated constraints are told apart by their codes. -/
def toFailure (error : ServerError) : Failure :=
  let violation := error.constraint.getD "unknown" ++ ": " ++ error.message
  match error.code with
  | "23505" => .uniqueViolation violation
  | "23503" => .foreignKeyViolation violation
  | "23514" => .checkViolation violation
  | _ => .query "db error" (some ("ERROR: " ++ error.message))

end ServerError

inductive Answer (α : Type) where
  | value (value : α)
  | error (error : ServerError)
  | silence

structure Prepared where
  params : List WireType
  columns : List WireColumn

/-- What ends the rows of a statement: the tag of its command, if all went well. -/
structure Execution where
  rows : List (List Cell)
  ending : Answer String

/-- A server and what it remembers. Connections are numbers. -/
structure Server (σ : Type) where
  connect : σ → Answer Nat × σ
  /-- Text that is run as it is. -/
  simple : Nat → String → σ → Answer Unit × σ
  prepare : Nat → String → σ → Answer Prepared × σ
  execute : Nat → List Cell → σ → Execution × σ

end SqlProgram.Postgres
