import SqlProgram.Backend.Basic
import SqlProgram.Postgres.Client
import SqlProgram.Postgres.ConnectionString

/-!
A pool of connections to a PostgreSQL server as a backend.
-/

namespace SqlProgram.Postgres

/-- Connections that are kept: those that wait, the longest first, and how many are lent. -/
structure Pool where
  maxSize : Nat
  idle : List Nat
  lent : Nat

namespace Pool

def ofSize (maxSize : Nat) : Pool := ⟨maxSize, [], 0⟩

def size (pool : Pool) : Nat := pool.idle.length + pool.lent

/-- The pool that settings ask for. No connection is made. -/
def ofConfig (config : Config) : Except Failure Pool :=
  if Text.isBlankText config.databaseUrl then .error (.invalidArgument .blankUrl)
  else match ConnectionString.read? config.databaseUrl with
    | none => .error (.connection "invalid connection string")
    | some _ => .ok (.ofSize config.maxPoolSize)

def takeBack (pool : Pool) (connection : Nat) : Pool :=
  { pool with idle := pool.idle ++ [connection], lent := pool.lent - 1 }

def giveUp (pool : Pool) : Pool := { pool with lent := pool.lent - 1 }

end Pool

structure PoolState (σ : Type) where
  pool : Pool
  server : σ

namespace PoolState

/-- Lends a connection: one that waits, else a new one if there is room; otherwise there is none to
be had until another comes back. -/
def lend (server : Server σ) (state : PoolState σ) : Reply Nat × PoolState σ :=
  match state.pool.idle with
  | connection :: idle =>
    (.ofOutcome (.ok connection),
      { state with pool := { state.pool with idle, lent := state.pool.lent + 1 } })
  | [] =>
    if state.pool.maxSize ≤ state.pool.size then (.silence, state)
    else
      let (answer, after) := server.connect state.server
      match answer with
      | .value connection =>
        (.ofOutcome (.ok connection),
          { pool := { state.pool with lent := state.pool.lent + 1 }, server := after })
      | .error _ =>
        (.ofOutcome (.failed (.pool "Error occurred while creating a new object: db error")),
          { state with server := after })
      | .silence => (.silence, { state with server := after })

def exchange (state : PoolState σ) (run : σ → Reply α × σ) : Reply α × PoolState σ :=
  let (reply, server) := run state.server
  (reply, { state with server })

end PoolState

def Client.perform (client : Client σ) (connection : Nat) : (call : Call) →
    σ → Reply call.Answer × σ
  | .begin => client.batch connection "begin"
  | .commit => client.batch connection "commit"
  | .rollback => client.batch connection "rollback"
  | .update statement => client.update connection statement
  | .updateReturning statement column => client.updateReturning connection statement column
  | .query statement => client.query connection statement
  | .openRows statement => client.openRows connection statement
  | .describe statement => client.describe connection statement

/-- The backend of a client. Connections that may be inside a transaction are closed. -/
def backend (client : Client σ) : Backend (PoolState σ) Nat where
  acquire := PoolState.lend client.server
  call connection call state := state.exchange (client.perform connection call)
  release connection state := { state with pool := state.pool.takeBack connection }
  discard _ state := ([.closing], { state with pool := state.pool.giveUp })
  describes := true

end SqlProgram.Postgres
