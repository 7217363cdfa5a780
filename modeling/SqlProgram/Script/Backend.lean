import SqlProgram.Backend.Basic

/-!
A backend that answers from a script, for trying programs out. Every kind of call has a queue of
answers; one that ran out answers as an empty database would.
-/

namespace SqlProgram.Script

structure Rows where
  layout : RowLayout
  rows : List Row
  /-- What follows the rows instead of their end. -/
  failure : Option Failure
  /-- Whether the stream hangs where it should end. -/
  hangs : Bool
  /-- How long each row, and the end, takes. -/
  delay : Delay
  inMemory : Bool

namespace Rows

def empty : Rows := ⟨⟨[]⟩, [], none, false, .now, false⟩

def cursor (script : Rows) : Outcome Cursor :=
  match script.failure with
  | some failure => .failed failure
  | none => .ok ⟨script.layout, script.rows⟩

def stream (script : Rows) : RowStream :=
  if script.inMemory then .ofRows script.layout script.rows
  else {
    layout := script.layout
    steps := (script.rows.map Outcome.ok ++ (script.failure.map Outcome.failed).toList).map
      fun item => ⟨script.delay, item⟩
    closing := if script.hangs then .never else script.delay
    inMemory := false
    atEnd := []
    ifDropped := []
    read := 0
    phase := .flowing }

end Rows

/-- The answers still to come, by what they answer, and how many connections were lent. -/
structure State where
  acquire : List (Reply Unit)
  begin : List (Reply Unit)
  commit : List (Reply Unit)
  rollback : List (Reply Unit)
  update : List (Reply Nat)
  updateReturning : List (Reply (Option Row))
  query : List (Reply Rows)
  lent : Nat

def nextReply (default : α) : List (Reply α) → Reply α × List (Reply α)
  | [] => (.ofOutcome (.ok default), [])
  | reply :: rest => (reply, rest)

def answer (call : Call) (state : State) : Reply call.Answer × State :=
  match call with
  | .begin =>
    let (reply, rest) := nextReply () state.begin
    (reply, { state with begin := rest })
  | .commit =>
    let (reply, rest) := nextReply () state.commit
    (reply, { state with commit := rest })
  | .rollback =>
    let (reply, rest) := nextReply () state.rollback
    (reply, { state with rollback := rest })
  | .update _ =>
    let (reply, rest) := nextReply 0 state.update
    (reply, { state with update := rest })
  | .updateReturning _ _ =>
    let (reply, rest) := nextReply none state.updateReturning
    (reply, { state with updateReturning := rest })
  | .query _ =>
    let (reply, rest) := nextReply .empty state.query
    (reply.bind Rows.cursor, { state with query := rest })
  | .openRows _ =>
    let (reply, rest) := nextReply .empty state.query
    (reply.bind fun rows => .ok rows.stream, { state with query := rest })
  | .describe _ =>
    let (reply, rest) := nextReply .empty state.query
    (reply.bind fun rows => .ok rows.layout, { state with query := rest })

def lend (state : State) : Reply Nat × State :=
  let (reply, rest) := nextReply () state.acquire
  let number := state.lent + 1
  ({ reply with outcome := reply.outcome.map fun _ => number },
    { state with
      acquire := rest
      lent := if reply.outcome matches .ok () then number else state.lent })

/-- The scripted backend. A prompt one answers without delay. -/
def backend (prompt : Bool) : Backend State Nat where
  acquire state := hasten (lend state)
  call _ call state := hasten (answer call state)
  release _ state := state
  discard _ state := ([], state)
  describes := false
where
  hasten {α : Type} (answered : Reply α × State) : Reply α × State :=
    if prompt then ({ answered.1 with delay := .now }, answered.2) else answered

end SqlProgram.Script
