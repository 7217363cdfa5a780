import SqlProgram.Program.Leaf

/-!
What running programs tell an observer.
-/

namespace SqlProgram

inductive Level where
  | trace
  | debug
  | warn
  | error
  deriving DecidableEq

def Level.name : Level → String
  | .trace => "trace"
  | .debug => "debug"
  | .warn => "warn"
  | .error => "error"

/-- What a database tells of its own work. -/
inductive DatabaseEvent where
  /-- A statement ended well; its text may have been cut. -/
  | executed (sql : String) (params : Nat)
  | failed (sql : String) (params : Nat) (failure : Failure)
  | rowsEnded (sql : String) (rows : Nat)
  | rowsAborted (sql : String)
  | closing

inductive Event where
  | running (leaf : Leaf)
  | rollbackFailed (failure : Failure)
  | releasing
  | abandoning
  | panicked (message : String)
  | streaming (statement : Statement)
  | database (event : DatabaseEvent)

inductive Detail where
  | text (value : String)
  | number (value : Nat)

namespace DatabaseEvent

def level : DatabaseEvent → Level
  | .closing => .warn
  | _ => .debug

def message : DatabaseEvent → String
  | .executed .. => "statement executed"
  | .failed .. => "statement failed"
  | .rowsEnded .. => "rows streamed"
  | .rowsAborted _ => "row stream dropped early, cancelling"
  | .closing => "closing connection left inside a transaction"

def details : DatabaseEvent → List (String × Detail)
  | .executed sql params => [("sql", .text sql), ("params", .number params)]
  | .failed sql params failure =>
    [("sql", .text sql), ("params", .number params), ("error", .text failure.message)]
  | .rowsEnded sql rows => [("sql", .text sql), ("rows", .number rows)]
  | .rowsAborted sql => [("sql", .text sql)]
  | .closing => []

end DatabaseEvent

namespace Event

def level : Event → Level
  | .releasing => .trace
  | .running _ | .streaming _ => .debug
  | .rollbackFailed _ | .abandoning => .warn
  | .panicked _ => .error
  | .database event => event.level

/-- The part of the library that tells the event. -/
def target : Event → String
  | .database _ => "pgdsl.sql"
  | _ => "pgdsl.program"

def message : Event → String
  | .running _ => "running leaf"
  | .rollbackFailed _ => "rollback failed"
  | .releasing => "releasing connection"
  | .abandoning => "discarding connection with an open transaction"
  | .panicked _ => "program panicked"
  | .streaming _ => "streaming query"
  | .database event => event.message

def details : Event → List (String × Detail)
  | .running leaf =>
    [("kind", .text leaf.kind.name), ("sql", .text leaf.statement.sql),
      ("params", .number leaf.statement.params.length)]
  | .rollbackFailed failure => [("error", .text failure.message)]
  | .panicked message => [("panic", .text message)]
  | .streaming statement =>
    [("sql", .text statement.sql), ("params", .number statement.params.length)]
  | .database event => event.details
  | .releasing | .abandoning => []

end Event

end SqlProgram
