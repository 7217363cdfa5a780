import SqlProgram.Backend.Rows

/-!
Backends: where connections come from and go back to, and what can be called on one. A backend
answers a call at once; the answer says how long it takes to arrive.
-/

namespace SqlProgram

inductive Call where
  | begin
  | commit
  | rollback
  | update (statement : Statement)
  | updateReturning (statement : Statement) (column : String)
  /-- All rows at once. -/
  | query (statement : Statement)
  /-- Rows one by one. -/
  | openRows (statement : Statement)
  | describe (statement : Statement)

@[reducible] def Call.Answer : Call → Type
  | .begin | .commit | .rollback => Unit
  | .update _ => Nat
  | .updateReturning _ _ => Option Row
  | .query _ => Cursor
  | .openRows _ => RowStream
  | .describe _ => RowLayout

/-- Connections and what they can do. `κ` names connections and `σ` is all that changes. -/
structure Backend (σ κ : Type) where
  acquire : σ → Reply κ × σ
  call : κ → (call : Call) → σ → Reply call.Answer × σ
  release : κ → σ → σ
  /-- Gets rid of a connection that nobody may use again. -/
  discard : κ → σ → List DatabaseEvent × σ
  /-- Whether columns can be told without running the statement. -/
  describes : Bool

/-- A connection on loan, and whether a transaction was opened on it that is not known to be closed. -/
structure Lease (κ : Type) where
  connection : κ
  dirty : Bool

inductive Entry (κ : Type) where
  | acquiring
  | acquired (connection : κ)
  | acquireFailed
  | called (connection : κ) (call : Call)
  | answered (connection : κ) (call : Call) (succeeded : Bool)
  | released (connection : κ)
  | discarded (connection : κ)
  /-- A stream was let go of, with so many rows read and the end reached or not. -/
  | rowsDropped (connection : κ) (read : Nat) (ended : Bool)
  | told (event : Event)

def Entry.ofDatabase (event : DatabaseEvent) : Entry κ := .told (.database event)

/-- A backend's state and what happened so far, the latest first. -/
structure World (σ κ : Type) where
  state : σ
  latest : List (Entry κ)

namespace World

def ofState (state : σ) : World σ κ := ⟨state, []⟩

def history (world : World σ κ) : List (Entry κ) := world.latest.reverse

def add (entry : Entry κ) (world : World σ κ) : World σ κ :=
  { world with latest := entry :: world.latest }

def addAll (entries : List (Entry κ)) (world : World σ κ) : World σ κ :=
  entries.foldl (fun world entry => world.add entry) world

def tellAll (events : List DatabaseEvent) (world : World σ κ) : World σ κ :=
  world.addAll (events.map .ofDatabase)

theorem history_add (entry : Entry κ) (world : World σ κ) :
    (world.add entry).history = world.history ++ [entry] := by
  simp only [history, add, List.reverse_cons]

theorem history_addAll (entries : List (Entry κ)) (world : World σ κ) :
    (world.addAll entries).history = world.history ++ entries := by
  induction entries generalizing world with
  | nil => exact (List.append_nil _).symm
  | cons entry entries ih =>
    have first : world.addAll (entry :: entries) = (world.add entry).addAll entries := rfl
    rw [first, ih, history_add, List.append_assoc]
    rfl

theorem state_addAll (entries : List (Entry κ)) (world : World σ κ) :
    (world.addAll entries).state = world.state := by
  induction entries generalizing world with
  | nil => rfl
  | cons entry entries ih => exact ih (world.add entry)

end World

/-- What it leaves in the history to let go of a stream. -/
def RowStream.dropEntries (connection : κ) (rows : RowStream) : List (Entry κ) :=
  if rows.inMemory then []
  else rows.dropEvents.map .ofDatabase ++ [.rowsDropped connection rows.read (rows.phase = .ended)]

namespace Backend

/-- Ends a loan. A connection that may still be inside a transaction is never lent again. -/
def giveBack (backend : Backend σ κ) (lease : Lease κ) (world : World σ κ) : World σ κ :=
  if lease.dirty then
    let world := world.add (.told .abandoning)
    let (events, state) := backend.discard lease.connection world.state
    ({ world with state }.add (.discarded lease.connection)).tellAll events
  else
    let world := world.add (.told .releasing)
    { world with state := backend.release lease.connection world.state }.add
      (.released lease.connection)

end Backend

end SqlProgram
