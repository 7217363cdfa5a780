import SqlProgram.Event
import SqlProgram.Row.Basic

/-!
The dialogue of a program with the session that runs it: requests, and what follows each answer.
Each leaf has requests of its own.
-/

namespace SqlProgram

/-- What a session is asked for. -/
inductive Request where
  | begin
  | commit
  | rollback
  | update (statement : Statement)
  | updateReturning (statement : Statement) (column : String)
  | query (statement : Statement)
  | describe (statement : Statement)

@[reducible] def Request.Answer : Request → Type
  | .begin | .commit | .rollback => Unit
  | .update _ => Nat
  | .updateReturning _ _ => Option Row
  | .query _ => Cursor
  | .describe _ => RowLayout

/-- Requests and what follows each answer, up to the end of a run. -/
inductive Dialogue (α : Type) where
  | done (outcome : Outcome α)
  | note (event : Event) (next : Dialogue α)
  | ask (request : Request) (next : Except Failure request.Answer → Dialogue α)

namespace Dialogue

/-- Goes on with a value; a failure ends the run. -/
def orFail (next : α → Dialogue β) : Except Failure α → Dialogue β
  | .ok value => next value
  | .error failure => .done (.failed failure)

def ofOutcome (next : α → Dialogue β) : Outcome α → Dialogue β
  | .ok value => next value
  | .failed failure => .done (.failed failure)
  | .panicked panic => .done (.panicked panic)

def bind (first : Dialogue α) (next : α → Dialogue β) : Dialogue β :=
  match first with
  | .done outcome => ofOutcome next outcome
  | .note event rest => .note event (rest.bind next)
  | .ask request rest => .ask request fun answer => (rest answer).bind next

/-- A statement in a transaction of its own, which is kept if the statement succeeds and taken back
if it fails. -/
def transaction (statement : Statement) (column : String) (next : Option Row → Dialogue α) :
    Dialogue α :=
  .ask .begin <| orFail fun _ =>
    .ask (.updateReturning statement column) fun
      | .ok row => .ask .commit <| orFail fun _ => next row
      | .error failure =>
        .ask .rollback fun
          | .ok _ => .done (.failed failure)
          | .error rollback =>
            .note (.rollbackFailed rollback)
              (.done (.failed (.rollbackFailed failure rollback)))

/-- The first row, without which the run ends. -/
def firstRow (statement : Statement) (next : Row → Dialogue α) (cursor : Cursor) : Dialogue α :=
  match cursor.next.1 with
  | some row => next row
  | none => .done (.failed (.notFound s!"no row for `{statement.sql}`"))

def ofKind (statement : Statement) : (kind : LeafKind) → (kind.Answer → Dialogue α) → Dialogue α
  | .update, next => .ask (.update statement) (orFail next)
  | .updateReturning column, next => transaction statement column next
  | .query, next => .ask (.query statement) (orFail (firstRow statement next))
  | .queryOne, next => .ask (.query statement) (orFail fun cursor => next cursor.next.1)
  | .queryIterable, next => .ask (.query statement) (orFail fun cursor => next cursor.rows)
  | .queryMeta, next => .ask (.describe statement) (orFail next)

/-- A leaf is told to the observer and then asked for. -/
def ofLeaf (leaf : Leaf) (next : leaf.Answer → Dialogue α) : Dialogue α :=
  .note (.running leaf) (ofKind leaf.statement leaf.kind next)

end Dialogue

end SqlProgram
