import SqlProgram.Calendar.Duration
import SqlProgram.Failure.Rejection
import SqlProgram.Text.Escaped
import SqlProgram.Value.Type

/-!
The failures of building and running programs, each with its cause and its message.
-/

namespace SqlProgram

inductive DecodeFault where
  | absent
  | outOfRange
  | mismatch (cause : Mismatch)
  /-- The database sent a type that no value stands for. -/
  | unsupported (type : String)
  | malformed (index : Nat)
  /-- Whatever else a mapper reports. -/
  | caller (message : String)

namespace DecodeFault

def message : DecodeFault → String
  | .absent => "column not present in result"
  | .outOfRange => "column index out of range"
  | .mismatch cause => cause.message
  | .unsupported type => s!"unsupported column type {type}"
  | .malformed index => s!"error deserializing column {index}"
  | .caller message => message

end DecodeFault

inductive DriftIssue where
  | notFound (label : String)
  | notMapped (column : String)
  deriving DecidableEq

namespace DriftIssue

def message : DriftIssue → String
  | .notFound label => s!"{label} not found"
  | .notMapped column => s!"{column} not mapped"

end DriftIssue

structure SchemaDrift where
  issues : List DriftIssue
  deriving DecidableEq

namespace SchemaDrift

def messages (drift : SchemaDrift) : List String := drift.issues.map DriftIssue.message

def message (drift : SchemaDrift) : String := "schema drift: " ++ "; ".intercalate drift.messages

end SchemaDrift

inductive Failure where
  | invalidArgument (rejection : Rejection)
  | connection (message : String)
  /-- What the client library said, and what caused it. -/
  | query (message : String) (cause : Option String)
  | notFound (message : String)
  | uniqueViolation (message : String)
  | foreignKeyViolation (message : String)
  | checkViolation (message : String)
  | decode (column : String) (fault : DecodeFault)
  | schemaDrift (drift : SchemaDrift)
  | pool (message : String)
  | timeout (after : Calendar.Duration)
  | backend (message : String)
  | panicked (message : String)
  | runtime (message : String)
  | rowWidth (values columns : Nat)
  | noTransaction
  /-- A statement failed in a transaction, and so did taking the transaction back. -/
  | rollbackFailed (statement rollback : Failure)
  | other (message : String)

namespace Failure

def message : Failure → String
  | .invalidArgument rejection => "Invalid argument: " ++ rejection.message
  | .connection message => "Connection error: " ++ message
  | .query message _ => "Query error: " ++ message
  | .notFound message => "Not found: " ++ message
  | .uniqueViolation message => "Unique constraint violation: " ++ message
  | .foreignKeyViolation message => "Foreign key violation: " ++ message
  | .checkViolation message => "Check constraint violation: " ++ message
  | .decode column fault => s!"Decode error on column '{column}': {fault.message}"
  | .schemaDrift drift => drift.message
  | .pool message => "Pool error: " ++ message
  | .timeout after => "Query timeout after " ++ after.text
  | .backend message => "Backend error: " ++ message
  | .panicked message => "Program panicked: " ++ message
  | .runtime message => "Runtime error: " ++ message
  | .rowWidth values columns => s!"row has {values} values for {columns} columns"
  | .noTransaction => "no transaction in progress"
  | .rollbackFailed statement rollback =>
    statement.message ++ " (rollback failed: " ++ rollback.message ++ ")"
  | .other message => message

def kind : Failure → String
  | .invalidArgument _ => "InvalidArgument"
  | .connection _ => "Connection"
  | .query _ _ => "Query"
  | .notFound _ => "NotFound"
  | .uniqueViolation _ => "UniqueViolation"
  | .foreignKeyViolation _ => "ForeignKeyViolation"
  | .checkViolation _ => "CheckViolation"
  | .decode _ _ => "Decode"
  | .schemaDrift _ => "SchemaDrift"
  | .pool _ => "Pool"
  | .timeout _ => "Timeout"
  | .backend _ => "Backend"
  | .panicked _ => "Panicked"
  | .runtime _ => "Runtime"
  | .rowWidth _ _ | .noTransaction | .rollbackFailed _ _ | .other _ => "Other"

/-- What a failure of a kind carries, as it is shown inside a program. -/
def contentShown : Failure → String
  | .invalidArgument rejection => Text.Escaped.enclose rejection.message
  | .connection message | .query message _ | .notFound message | .uniqueViolation message
  | .foreignKeyViolation message | .checkViolation message | .pool message | .backend message
  | .panicked message | .runtime message => Text.Escaped.enclose message
  | .schemaDrift drift =>
    "SchemaDrift \x7b issues: [" ++
      ", ".intercalate (drift.messages.map Text.Escaped.enclose) ++ "] \x7d"
  | .timeout after => after.text
  | failure => Text.Escaped.enclose failure.message

/-- How a failure is shown inside a program. -/
def shown (failure : Failure) : String :=
  match failure with
  | .decode column fault =>
    "Decode \x7b column: " ++ Text.Escaped.enclose column ++ ", message: " ++
      Text.Escaped.enclose fault.message ++ " \x7d"
  | _ => failure.kind ++ "(" ++ failure.contentShown ++ ")"

def isInvalidArgument : Failure → Bool
  | .invalidArgument _ => true
  | _ => false

def isNotFound : Failure → Bool
  | .notFound _ => true
  | _ => false

def isUniqueViolation : Failure → Bool
  | .uniqueViolation _ => true
  | _ => false

def isTimeout : Failure → Bool
  | .timeout _ => true
  | _ => false

end Failure

end SqlProgram
