import SqlProgram.Backend.Basic

/-!
Jobs: what a run does with connections, one step at a time. A job names what it holds wherever it
can come to a halt, so whoever lets go of it knows what is to be given back.
-/

namespace SqlProgram

inductive Held (κ : Type) where
  | nothing
  | lease (lease : Lease κ)
  | rows (lease : Lease κ) (rows : RowStream)

inductive Job (κ α : Type) where
  | done (outcome : Outcome α)
  | record (entry : Entry κ) (next : Job κ α)
  | acquire (next : Outcome κ → Job κ α)
  | call (lease : Lease κ) (call : Call) (next : Outcome call.Answer → Job κ α)
  /-- Waits, records and goes on. -/
  | pause (held : Held κ) (delay : Delay) (entries : List (Entry κ)) (next : Job κ α)
  | giveBack (lease : Lease κ) (next : Job κ α)

def Reply.acquireEntries (reply : Reply κ) : List (Entry κ) :=
  reply.events.map .ofDatabase ++
    match reply.outcome with
    | .ok connection => [.acquired connection]
    | .failed _ => [.acquireFailed]
    | .panicked _ => []

def Reply.callEntries (connection : κ) (asked : Call) (reply : Reply asked.Answer) :
    List (Entry κ) :=
  reply.events.map .ofDatabase ++ [.answered connection asked reply.outcome.isOk]

namespace Job

def recordAll (entries : List (Entry κ)) (next : Job κ α) : Job κ α :=
  entries.foldr (fun entry rest => .record entry rest) next

def finish (lease : Lease κ) (outcome : Outcome α) : Job κ α := .giveBack lease (.done outcome)

def borrow (next : κ → Job κ α) (refused : Failure → Job κ α) : Job κ α :=
  .acquire fun
    | .ok connection => next connection
    | .failed failure => refused failure
    | .panicked panic => .done (.panicked panic)

/-- Calls; a panic gives the lease back and ends. -/
def request (lease : Lease κ) (asked : Call) (next : Except Failure asked.Answer → Job κ α) :
    Job κ α :=
  .call lease asked fun
    | .ok answer => next (.ok answer)
    | .failed failure => next (.error failure)
    | .panicked panic => finish lease (.panicked panic)

/-- Reads the rest of a stream and lets go of it; `read` holds the rows so far, the latest first. -/
def drainFrom (lease : Lease κ) (rows : RowStream) (read : List Row)
    (next : Except Failure Cursor → Job κ α) : List RowStep → Job κ α
  | [] =>
    let rows := { rows with steps := [] }
    .pause (.rows lease rows) rows.closing
      (rows.atEnd.map .ofDatabase ++ rows.advance.dropEntries lease.connection)
      (next (.ok ⟨rows.layout, read.reverse⟩))
  | step :: rest =>
    let rows := { rows with steps := step :: rest }
    .pause (.rows lease rows) step.delay [] <|
      match step.item with
      | .ok row => drainFrom lease rows.advance (row :: read) next rest
      | .failed failure =>
        recordAll (rows.advance.dropEntries lease.connection) (next (.error failure))
      | .panicked panic =>
        recordAll (rows.advance.dropEntries lease.connection) (finish lease (.panicked panic))

def drain (lease : Lease κ) (rows : RowStream) (next : Except Failure Cursor → Job κ α) :
    Job κ α :=
  drainFrom lease rows [] next rows.steps

/-- Runs a job until it ends or has to wait. Whoever is patient waits as long as it takes. -/
def advance (backend : Backend σ κ) (patient : Bool) :
    Job κ α → World σ κ → Job κ α × World σ κ
  | .done outcome, world => (.done outcome, world)
  | .record entry next, world => next.advance backend patient (world.add entry)
  | .giveBack lease next, world => next.advance backend patient (backend.giveBack lease world)
  | .pause held delay entries next, world =>
    match delay.left patient with
    | none => next.advance backend patient (world.addAll entries)
    | some left => (.pause held left entries next, world)
  | .acquire next, world =>
    let (reply, state) := backend.acquire world.state
    let world := { world with state }.add .acquiring
    match reply.delay.left patient with
    | none => (next reply.outcome).advance backend patient (world.addAll reply.acquireEntries)
    | some left => (.pause .nothing left reply.acquireEntries (next reply.outcome), world)
  | .call lease asked next, world =>
    let (reply, state) := backend.call lease.connection asked world.state
    let world := { world with state }.add (.called lease.connection asked)
    match reply.delay.left patient with
    | none =>
      (next reply.outcome).advance backend patient
        (world.addAll (reply.callEntries lease.connection asked))
    | some left =>
      (.pause (.lease lease) left (reply.callEntries lease.connection asked) (next reply.outcome),
        world)

def held : Job κ α → Held κ
  | .pause held _ _ _ => held
  | .call lease _ _ => .lease lease
  | .giveBack lease _ => .lease lease
  | _ => .nothing

end Job

namespace Backend

/-- Takes back what a job held; rows are let go of before their connection. -/
def reclaim (backend : Backend σ κ) (held : Held κ) (world : World σ κ) : World σ κ :=
  match held with
  | .nothing => world
  | .lease lease => backend.giveBack lease world
  | .rows lease rows =>
    backend.giveBack lease (world.addAll (rows.dropEntries lease.connection))

def drop (backend : Backend σ κ) (job : Job κ α) (world : World σ κ) : World σ κ :=
  backend.reclaim job.held world

end Backend

end SqlProgram
