import SqlProgram.Backend.Basic
import SqlProgram.Document.Statement

/-!
Failures, events and what happened on a backend in documents.
-/

namespace SqlProgram.Document

def failureOf (json : Json) : Reading Failure := do
  let message ← fieldD "message" "" textOf json
  match ← textField "kind" json with
  | "InvalidArgument" => return .invalidArgument (.caller message)
  | "Connection" => return .connection message
  | "NotFound" => return .notFound message
  | "UniqueViolation" => return .uniqueViolation message
  | "ForeignKeyViolation" => return .foreignKeyViolation message
  | "CheckViolation" => return .checkViolation message
  | "Decode" => return .decode (← textField "column" json) (.caller message)
  | "SchemaDrift" =>
    let fields ← fieldsOf (← field "fields" json)
    let layout ← layoutOf (← field "metadata" json)
    let table := Table.ofFields (← accept (Ident.parse "t")) fields
    match table.validate layout with
    | .error drift => return .schemaDrift drift
    | .ok () => malformed "drift expected"
  | "Pool" => return .pool message
  | "Timeout" => return .timeout ⟨← natFieldD "nanos" 0 json⟩
  | "Backend" => return .backend message
  | "Panicked" => return .panicked message
  | "Runtime" => return .runtime message
  | "Other" => return .other message
  | other => malformed s!"unknown kind {other}"

/-- The kind of a failure, its message and, for what the database client reports, the cause. -/
def ofFailure (failure : Failure) : Json :=
  let answer := [("error", Json.text failure.kind), ("message", .text failure.message)]
  match failure with
  | .query _ cause => .ofFields (("cause", ofOption .text cause) :: answer)
  | _ => .ofFields answer

def ofPanic (panic : Panic) : Json :=
  .ofFields [("error", .text "panic"), ("message", .text panic.text)]

def ofOutcome (encode : α → Json) : Outcome α → Json
  | .ok value => tagged "ok" (encode value)
  | .failed failure => ofFailure failure
  | .panicked panic => ofPanic panic

def ofDetail : Detail → Json
  | .text value => .text value
  | .number value => .ofInt value

def ofEvent (event : Event) : Json :=
  .array [.text event.level.name, .text event.target,
    .ofFields (("message", .text event.message) ::
      event.details.map fun (name, detail) => (name, ofDetail detail))]

def ofCall (connection : Nat) : Call → Json
  | .begin => .array [.text "begin", .ofInt connection]
  | .commit => .array [.text "commit", .ofInt connection]
  | .rollback => .array [.text "rollback", .ofInt connection]
  | .update statement => withStatement "update" statement []
  | .updateReturning statement column => withStatement "update_returning" statement [.text column]
  | .query statement | .openRows statement => withStatement "query" statement []
  | .describe statement => withStatement "describe" statement []
where
  withStatement (name : String) (statement : Statement) (more : List Json) : Json :=
    .array ([.text name, .ofInt connection, .text statement.sql, ofValues statement.params] ++ more)

/-- What happened on a backend; events are told apart from it. -/
def ofEntry? : Entry Nat → Option Json
  | .acquired connection => some (.array [.text "acquire", .ofInt connection])
  | .acquireFailed => some (.array [.text "acquire", .text "failed"])
  | .called connection call => some (ofCall connection call)
  | .released connection => some (.array [.text "release", .ofInt connection])
  | .discarded connection => some (.array [.text "discard", .ofInt connection])
  | .rowsDropped _ read ended => some (.array [.text "rows_dropped", .ofInt read, .bool ended])
  | .acquiring | .answered .. | .told _ => none

def ofHistory (world : World σ Nat) : Json := .array (world.history.filterMap ofEntry?)

def ofEvents (world : World σ κ) : Json :=
  .array (world.history.filterMap fun
    | .told event => some (ofEvent event)
    | _ => none)

end SqlProgram.Document
