import SqlProgram.Proofs.HistoryEntries

/-!
What a call is answered in the end, and what a backend is like then.
-/

namespace SqlProgram

/-- What an answer is to whoever waits as long as it takes. -/
def Reply.answer? (reply : Reply α) : Option (Outcome α) :=
  match reply.delay with
  | .polls _ => some reply.outcome
  | .never => none

theorem RowStream.advance_keeps (rows : RowStream) :
    rows.advance.closing = rows.closing ∧ rows.advance.layout = rows.layout := by
  unfold RowStream.advance
  split <;> exact ⟨rfl, rfl⟩

theorem RowStream.collectFrom_never (rows : RowStream) (read : List Row) (steps : List RowStep) :
    (rows.collectFrom read .never steps).answer? = none := by
  induction steps generalizing read with
  | nil => rfl
  | cons step rest ih =>
    obtain ⟨delay, item⟩ := step
    cases item with
    | ok row => exact ih (row :: read)
    | failed failure => rfl
    | panicked panic => rfl

def whenAnswered (answer : Option (Outcome α)) (next : α → Option (Outcome β)) : Option (Outcome β) :=
  match answer with
  | some (.ok value) => next value
  | some (.failed failure) => some (.failed failure)
  | some (.panicked panic) => some (.panicked panic)
  | none => none

namespace Backend

def reply (backend : Backend σ κ) (connection : κ) (call : Call) (state : σ) :
    Option (Outcome call.Answer) × σ :=
  ((backend.call connection call state).1.answer?, (backend.call connection call state).2)

def returned (backend : Backend σ κ) (lease : Lease κ) (state : σ) : σ :=
  if lease.dirty then (backend.discard lease.connection state).2 else backend.release lease.connection state

theorem state_giveBack (backend : Backend σ κ) (lease : Lease κ) (world : World σ κ) :
    (backend.giveBack lease world).state = backend.returned lease world.state := by
  unfold giveBack returned
  split
  · exact World.state_addAll _ _
  · rfl

theorem requests_giveBack (backend : Backend σ κ) (lease : Lease κ) (world : World σ κ) :
    (backend.giveBack lease world).requests = world.requests := by
  unfold giveBack
  split
  · refine (World.requests_tellAll _ _).trans ?_
    exact (World.requests_quiet rfl _).trans (World.requests_quiet rfl world)
  · exact (World.requests_quiet rfl _).trans (World.requests_quiet rfl world)

end Backend

end SqlProgram
