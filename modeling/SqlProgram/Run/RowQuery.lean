import SqlProgram.Backend.Job

/-!
Rows of one statement, mapped as they arrive. A connection is borrowed at the first poll and goes
back when the rows end, when one of them fails or when the consumer lets go.
-/

namespace SqlProgram

inductive RowQuery (κ : Type) where
  | opening (job : Job κ (Lease κ × RowStream))
  /-- Rows flow as long as the connection is on loan. -/
  | reading (lease : Lease κ) (onLoan : Bool) (rows : RowStream)
  | closed

namespace RowQuery

def ofStatement (statement : Statement) : RowQuery κ :=
  .opening <| .record (.told (.streaming statement)) <|
    .borrow (fun connection =>
        .request ⟨connection, false⟩ (.openRows statement) fun
          | .ok rows => .done (.ok (⟨connection, false⟩, rows))
          | .error failure => .finish ⟨connection, false⟩ (.failed failure))
      fun failure => .done (.failed failure)

/-- What is found at a poll, the query after it and the world. -/
abbrev Look (σ κ α : Type) := Polled (Outcome α) × RowQuery κ × World σ κ

/-- Looks for the next row. The connection goes back before the rows are let go of. -/
def pollRows (backend : Backend σ κ) (mapper : Row → Outcome α) (patient : Bool)
    (lease : Lease κ) (rows : RowStream) (world : World σ κ) : Look σ κ α :=
  match rows.poll patient with
  | (.pending, rows) => (.pending, .reading lease true rows, world)
  | (.item (.ok row), rows) => (.item (mapper row), .reading lease true rows, world)
  | (.item (.failed failure), rows) =>
    (.item (.failed failure), .reading lease false rows, backend.giveBack lease world)
  | (.item (.panicked panic), rows) =>
    (.item (.panicked panic), .reading lease true rows, world)
  | (.ended, rows) =>
    let world := backend.giveBack lease (world.tellAll rows.atEnd)
    (.ended, .closed, world.addAll (rows.dropEntries lease.connection))

def poll (backend : Backend σ κ) (mapper : Row → Outcome α) (patient : Bool) (query : RowQuery κ)
    (world : World σ κ) : Look σ κ α :=
  match query with
  | .closed => (.ended, .closed, world)
  | .reading lease true rows => pollRows backend mapper patient lease rows world
  | .reading lease false rows =>
    (.ended, .closed, world.addAll (rows.dropEntries lease.connection))
  | .opening job =>
    match job.advance backend patient world with
    | (.done (.ok (lease, rows)), world) => pollRows backend mapper patient lease rows world
    | (.done (.failed failure), world) => (.item (.failed failure), .closed, world)
    | (.done (.panicked panic), world) => (.item (.panicked panic), .closed, world)
    | (job, world) => (.pending, .opening job, world)

/-- Looks for rows once for each item of the list, which says whether that look waits. -/
def pollAll (backend : Backend σ κ) (mapper : Row → Outcome α) :
    List Bool → RowQuery κ → World σ κ → List (Polled (Outcome α)) × RowQuery κ × World σ κ
  | [], query, world => ([], query, world)
  | patient :: rest, query, world =>
    let (polled, query, world) := query.poll backend mapper patient world
    let (later, query, world) := pollAll backend mapper rest query world
    (polled :: later, query, world)

def drop (backend : Backend σ κ) (query : RowQuery κ) (world : World σ κ) : World σ κ :=
  match query with
  | .closed => world
  | .opening job => backend.drop job world
  | .reading lease onLoan rows =>
    let world := if onLoan then backend.giveBack lease world else world
    world.addAll (rows.dropEntries lease.connection)

end RowQuery

end SqlProgram
