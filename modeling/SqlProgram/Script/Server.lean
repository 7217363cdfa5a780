import SqlProgram.Postgres.Server

/-!
A PostgreSQL server that answers from a script and keeps the messages that it was sent. Once it is
silent on a connection it stays so.
-/

namespace SqlProgram.Script

inductive Message where
  | connect
  | simple (sql : String)
  | prepare (sql : String)
  | execute (cells : List Postgres.Cell)

/-- The answers still to come, the messages so far, the latest first, and the silent connections. -/
structure ServerState where
  connect : List (Postgres.Answer Unit)
  simple : List (Postgres.Answer Unit)
  prepare : List (Postgres.Answer Postgres.Prepared)
  execute : List Postgres.Execution
  latest : List Message
  connections : Nat
  silent : List Nat

namespace ServerState

def messages (state : ServerState) : List Message := state.latest.reverse

def note (message : Message) (state : ServerState) : ServerState :=
  { state with latest := message :: state.latest }

/-- Keeps in mind that a connection is silent. -/
def hear (connection : Nat) (answer : Postgres.Answer α) (state : ServerState) : ServerState :=
  match answer with
  | .silence => { state with silent := connection :: state.silent }
  | _ => state

def next (connection : Nat) (default : α) (queue : List (Postgres.Answer α))
    (keep : List (Postgres.Answer α) → ServerState → ServerState) (state : ServerState) :
    Postgres.Answer α × ServerState :=
  if state.silent.contains connection then (.silence, state)
  else
    let answer := queue.headD (.value default)
    (answer, (keep queue.tail state).hear connection answer)

end ServerState

def server : Postgres.Server ServerState where
  connect state :=
    let state := state.note .connect
    let rest := { state with connect := state.connect.tail }
    match state.connect.headD (.value ()) with
    | .value () => (.value (state.connections + 1), { rest with connections := state.connections + 1 })
    | .error error => (.error error, rest)
    | .silence => (.silence, rest)
  simple connection sql state :=
    state.note (.simple sql) |>.next connection () state.simple
      fun simple state => { state with simple }
  prepare connection sql state :=
    state.note (.prepare sql) |>.next connection ⟨[], []⟩ state.prepare
      fun prepare state => { state with prepare }
  execute connection cells state :=
    let state := state.note (.execute cells)
    if state.silent.contains connection then (⟨[], .silence⟩, state)
    else
      let execution := state.execute.headD ⟨[], .value "OK"⟩
      (execution,
        { state with execute := state.execute.tail }.hear connection execution.ending)

end SqlProgram.Script
