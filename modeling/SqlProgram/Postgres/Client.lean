import SqlProgram.Backend.Rows
import SqlProgram.Postgres.Config
import SqlProgram.Postgres.Encode
import SqlProgram.Postgres.Server
import SqlProgram.Statement.Basic

/-!
Statements on one connection to a server: each is prepared, its values are encoded for the types
that the server asks for, and then it is executed. Every statement has the same time to succeed.
-/

namespace SqlProgram.Postgres

inductive Interruption where
  | failed (failure : Failure)
  | silence

abbrev Exchange (σ : Type) := ExceptT Interruption (StateM σ)

namespace Exchange

def ofAnswer : Answer α → Exchange σ α
  | .value value => return value
  | .error error => throw (.failed error.toFailure)
  | .silence => throw .silence

def send (message : σ → Answer α × σ) : Exchange σ α := do ofAnswer (← modifyGet message)

end Exchange

def miscounted (expected given : Nat) : Failure :=
  .query s!"expected {expected} parameters but got {given}" none

def unsendable (index : Nat) (fault : EncodeFault) : Failure :=
  .query s!"error serializing parameter {index}" (some fault.message)

def encodeFrom (index : Nat) : List (Value × WireType) → Except Failure (List Cell)
  | [] => .ok []
  | (value, type) :: rest =>
    match encode value type with
    | .error fault => .error (unsendable index fault)
    | .ok cell => (encodeFrom (index + 1) rest).map (cell :: ·)

def encodeAll (types : List WireType) (values : List Value) : Except Failure (List Cell) :=
  if values.length = types.length then encodeFrom 0 (values.zip types)
  else .error (miscounted types.length values.length)

/-- How many rows a command changed: the last word of its tag, if that is a number. -/
def affected (tag : String) : Nat :=
  let word := (tag.toList.reverse.takeWhile (· != ' ')).reverse
  (Decimal.readUnsigned? (UInt64.size - 1) word).getD 0

def nativeSql (statement : Statement) : String := statement.render .dollar

structure Client (σ : Type) where
  server : Server σ
  config : Config

namespace Client

def start (client : Client σ) (connection : Nat) (statement : Statement) :
    Exchange σ (Prepared × Execution) := do
  let prepared ← .send (client.server.prepare connection (nativeSql statement))
  match encodeAll prepared.params statement.params with
  | .error failure => throw (.failed failure)
  | .ok cells => return (prepared, ← modifyGet (client.server.execute connection cells))

/-- Runs an exchange to its end or to the end of the time that it has, and tells how it went. -/
def timed (client : Client σ) (sql : String) (params : Nat) (exchange : Exchange σ α)
    (state : σ) : Reply α × σ :=
  let told := client.config.truncateSql sql
  match exchange.run.run state with
  | (.ok value, state) => (⟨.now, .ok value, [.executed told params]⟩, state)
  | (.error (.failed failure), state) =>
    (⟨.now, .failed failure, [.failed told params failure]⟩, state)
  | (.error .silence, state) =>
    match client.config.queryTimeout with
    | none => (.silence, state)
    | some timeout =>
      let failure := Failure.timeout timeout
      (⟨.polls 1, .failed failure, [.failed told params failure]⟩, state)

def batch (client : Client σ) (connection : Nat) (sql : String) : σ → Reply Unit × σ :=
  client.timed sql 0 (.send (client.server.simple connection sql))

def update (client : Client σ) (connection : Nat) (statement : Statement) :
    σ → Reply Nat × σ :=
  client.timed (nativeSql statement) statement.params.length do
    let (_, execution) ← client.start connection statement
    return affected (← .ofAnswer execution.ending)

def updateReturning (client : Client σ) (connection : Nat) (statement : Statement)
    (column : String) (state : σ) : Reply (Option Row) × σ :=
  let statement := statement.returning column
  let (reply, state) :=
    client.timed (nativeSql statement) statement.params.length (do
      let (prepared, execution) ← client.start connection statement
      let _ ← .ofAnswer execution.ending
      return (prepared, execution.rows.head?)) state
  (reply.bind fun (prepared, first) =>
    match first with
    | none => .ok none
    | some cells => (decodeRow prepared.columns cells).map some, state)

/-- The columns of a result, from the statement alone. -/
def describe (client : Client σ) (connection : Nat) (statement : Statement) :
    σ → Reply RowLayout × σ :=
  client.timed (nativeSql statement) 0 do
    let prepared ← .send (client.server.prepare connection (nativeSql statement))
    return layoutOf prepared.columns

/-- What follows the rows that the server sent. -/
def endingSteps (client : Client σ) : Answer String → List RowStep × Delay
  | .value _ => ([], .now)
  | .error error => ([⟨.now, .failed error.toFailure⟩], .now)
  | .silence =>
    match client.config.queryTimeout with
    | none => ([], .never)
    | some timeout => ([⟨.polls 1, .failed (.timeout timeout)⟩], .now)

def streamOf (client : Client σ) (sql : String) (prepared : Prepared) (execution : Execution) :
    RowStream :=
  let told := client.config.truncateSql sql
  let (last, closing) := client.endingSteps execution.ending
  { layout := layoutOf prepared.columns
    steps := execution.rows.map (fun cells => ⟨.now, decodeRow prepared.columns cells⟩) ++ last
    closing
    inMemory := false
    atEnd := [.rowsEnded told execution.rows.length]
    ifDropped := [.rowsAborted told]
    read := 0
    phase := .flowing }

def openRows (client : Client σ) (connection : Nat) (statement : Statement) :
    σ → Reply RowStream × σ :=
  let sql := nativeSql statement
  client.timed sql statement.params.length do
    let (prepared, execution) ← client.start connection statement
    return client.streamOf sql prepared execution

def query (client : Client σ) (connection : Nat) (statement : Statement) (state : σ) :
    Reply Cursor × σ :=
  let (opened, state) := client.openRows connection statement state
  match opened.outcome with
  | .ok rows =>
    let all := rows.collect
    (⟨opened.delay.plus all.delay, all.outcome, opened.events ++ all.events⟩, state)
  | .failed failure => (⟨opened.delay, .failed failure, opened.events⟩, state)
  | .panicked panic => (⟨opened.delay, .panicked panic, opened.events⟩, state)

end Client

end SqlProgram.Postgres
