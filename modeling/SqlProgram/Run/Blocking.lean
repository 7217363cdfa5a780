import SqlProgram.Backend.Job
import SqlProgram.Program.Machine

/-!
Runs on one connection, which is borrowed before the first request and given back at the end,
however the run ends.
-/

namespace SqlProgram.Blocking

/-- Asks the backend for the columns of a result; one that cannot tell runs the statement. -/
def describe (describes : Bool) (lease : Lease κ) (statement : Statement)
    (next : Except Failure RowLayout → Job κ α) : Job κ α :=
  if describes then .request lease (.describe statement) next
  else .request lease (.query statement) fun answer => next (answer.map Cursor.layout)

/-- A dialogue held over one connection. From a begin on, the connection counts as inside a
transaction, until a commit or a rollback succeeds. -/
def serve (describes : Bool) : Dialogue α → Lease κ → Job κ α
  | .done outcome, lease => .finish lease outcome
  | .note event next, lease => .record (.told event) (serve describes next lease)
  | .ask .begin next, lease =>
    let lease := { lease with dirty := true }
    .request lease .begin fun answer => serve describes (next answer) lease
  | .ask .commit next, lease =>
    .request lease .commit fun answer => serve describes (next answer) (closed lease answer)
  | .ask .rollback next, lease =>
    .request lease .rollback fun answer => serve describes (next answer) (closed lease answer)
  | .ask (.update statement) next, lease =>
    .request lease (.update statement) fun answer => serve describes (next answer) lease
  | .ask (.updateReturning statement column) next, lease =>
    .request lease (.updateReturning statement column) fun answer =>
      serve describes (next answer) lease
  | .ask (.query statement) next, lease =>
    .request lease (.query statement) fun answer => serve describes (next answer) lease
  | .ask (.describe statement) next, lease =>
    describe describes lease statement fun answer => serve describes (next answer) lease
where
  /-- A transaction is over once closing it succeeded. -/
  closed (lease : Lease κ) : Except Failure Unit → Lease κ
    | .ok () => { lease with dirty := false }
    | .error _ => lease

/-- A whole run: borrowing, the dialogue, giving back. -/
def job (describes : Bool) (program : Program α) : Job κ α :=
  .borrow (fun connection => serve describes program.dialogue ⟨connection, false⟩)
    fun failure => .done (.failed failure)

end SqlProgram.Blocking
