import SqlProgram.Backend.Job
import SqlProgram.Program.Machine

/-!
Runs that borrow a connection for each request and give it back before the next. Only a transaction
keeps its connection, from the begin to the commit or rollback.
-/

namespace SqlProgram.Reactive

/-- A request on the connection of the open transaction, if there is one, or on a connection of its
own. -/
def onLease (pinned : Option (Lease κ)) (call : Call)
    (next : Except Failure call.Answer → Job κ α) : Job κ α :=
  match pinned with
  | some lease => .request lease call next
  | none =>
    .borrow (fun connection =>
        .request ⟨connection, false⟩ call fun answer =>
          .giveBack ⟨connection, false⟩ (next answer))
      fun failure => next (.error failure)

/-- What is done with a stream before its connection may go. -/
abbrev Reader (κ β : Type) := {α : Type} → Lease κ → RowStream → (Except Failure β → Job κ α) →
  Job κ α

def readRows (pinned : Option (Lease κ)) (statement : Statement) (read : Reader κ β)
    (next : Except Failure β → Job κ α) : Job κ α :=
  let onConnection (lease : Lease κ) (next : Except Failure β → Job κ α) : Job κ α :=
    .request lease (.openRows statement) fun
      | .ok rows => read lease rows next
      | .error failure => next (.error failure)
  match pinned with
  | some lease => onConnection lease next
  | none =>
    .borrow (fun connection =>
        onConnection ⟨connection, false⟩ fun answer =>
          .giveBack ⟨connection, false⟩ (next answer))
      fun failure => next (.error failure)

/-- Lets go of a stream for its columns. -/
def columnsOf : Reader κ RowLayout := fun lease rows next =>
  .recordAll (rows.dropEntries lease.connection) (next (.ok rows.layout))

/-- Asks the backend for the columns of a result; one that cannot tell starts the statement. -/
def describe (describes : Bool) (pinned : Option (Lease κ)) (statement : Statement)
    (next : Except Failure RowLayout → Job κ α) : Job κ α :=
  if describes then onLease pinned (.describe statement) next
  else readRows pinned statement columnsOf next

def unpin (pinned : Option (Lease κ)) (next : Job κ α) : Job κ α :=
  match pinned with
  | some lease => .giveBack lease next
  | none => next

/-- Closes the open transaction, after which its connection goes back. -/
def close (pinned : Option (Lease κ)) (call : Call)
    (next : Except Failure call.Answer → Job κ α) : Job κ α :=
  match pinned with
  | none => next (.error .noTransaction)
  | some lease =>
    .request lease call fun
      | .ok answer => .giveBack { lease with dirty := false } (next (.ok answer))
      | .error failure => .giveBack lease (next (.error failure))

/-- A dialogue held over the connections of a backend; `pinned` is that of an open transaction. -/
def serve (describes : Bool) : Dialogue α → Option (Lease κ) → Job κ α
  | .done outcome, pinned => unpin pinned (.done outcome)
  | .note event next, pinned => .record (.told event) (serve describes next pinned)
  | .ask .begin next, pinned =>
    .borrow (fun connection =>
        .request ⟨connection, true⟩ .begin fun
          | .ok () => unpin pinned (serve describes (next (.ok ())) (some ⟨connection, true⟩))
          | .error failure =>
            .giveBack ⟨connection, true⟩ (serve describes (next (.error failure)) pinned))
      fun failure => serve describes (next (.error failure)) pinned
  | .ask .commit next, pinned =>
    close pinned .commit fun answer => serve describes (next answer) none
  | .ask .rollback next, pinned =>
    close pinned .rollback fun answer => serve describes (next answer) none
  | .ask (.update statement) next, pinned =>
    onLease pinned (.update statement) fun answer => serve describes (next answer) pinned
  | .ask (.updateReturning statement column) next, pinned =>
    onLease pinned (.updateReturning statement column) fun answer =>
      serve describes (next answer) pinned
  | .ask (.query statement) next, pinned =>
    readRows pinned statement Job.drain fun answer => serve describes (next answer) pinned
  | .ask (.describe statement) next, pinned =>
    describe describes pinned statement fun answer => serve describes (next answer) pinned

def job (describes : Bool) (program : Program α) : Job κ α :=
  serve describes program.dialogue none

end SqlProgram.Reactive
