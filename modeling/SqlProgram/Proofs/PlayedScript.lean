import SqlProgram.Proofs.JobAnswers
import SqlProgram.Proofs.SessionMeaning

/-!
Backends that play a script: what they answer depends only on what was asked before, not on the
connections that carry the calls.
-/

namespace SqlProgram

/-- The request that a backend sees: one that cannot tell columns runs the statement for them. -/
def Request.asked (describes : Bool) : Request → Request
  | .describe statement => if describes then .describe statement else .query statement
  | request => request

namespace Backend

/-- How a blocking run has a request answered. -/
def answerBlocking (backend : Backend σ κ) (connection : κ) (request : Request) (state : σ) :
    Option (Outcome request.Answer) × σ :=
  match request with
  | .begin => backend.reply connection .begin state
  | .commit => backend.reply connection .commit state
  | .rollback => backend.reply connection .rollback state
  | .update statement => backend.reply connection (.update statement) state
  | .updateReturning statement column => backend.reply connection (.updateReturning statement column) state
  | .query statement => backend.reply connection (.query statement) state
  | .describe statement =>
    if backend.describes then backend.reply connection (.describe statement) state
    else
      let (answer, later) := backend.reply connection (.query statement) state
      (whenAnswered answer fun cursor => some (.ok cursor.layout), later)

/-- How an asynchronous run has a request answered: it drains the rows of a query, and of rows that it
opened for their columns it reads none. -/
def answerReactive (backend : Backend σ κ) (connection : κ) (request : Request) (state : σ) :
    Option (Outcome request.Answer) × σ :=
  match request with
  | .query statement =>
    let (answer, later) := backend.reply connection (.openRows statement) state
    (whenAnswered answer fun rows => rows.collect.answer?, later)
  | .describe statement =>
    if backend.describes then backend.reply connection (.describe statement) state
    else
      let (answer, later) := backend.reply connection (.openRows statement) state
      (whenAnswered answer fun rows => some (.ok rows.layout), later)
  | request => backend.answerBlocking connection request state

/-- A backend that plays a script, whichever connections carry the calls. It always has a connection to
lend, and it answers blocking and asynchronous runs alike. -/
structure Plays (backend : Backend σ κ) (session : Session ρ) (stage : σ → ρ → Prop) : Prop where
  acquire : ∀ {state script}, stage state script →
    (∃ connection, (backend.acquire state).1.answer? = some (.ok connection)) ∧
      stage (backend.acquire state).2 script
  returned : ∀ {state script} (lease : Lease κ), stage state script →
    stage (backend.returned lease state) script
  tell : ∀ {state script} event, stage state script → stage state (session.tell event script)
  blocking : ∀ {state script} connection request, stage state script →
    (backend.answerBlocking connection request state).1 = (session.answer request script).1 ∧
      stage (backend.answerBlocking connection request state).2 (session.answer request script).2
  reactive : ∀ {state script} connection request, stage state script →
    (backend.answerReactive connection request state).1 = (session.answer request script).1 ∧
      stage (backend.answerReactive connection request state).2 (session.answer request script).2

end Backend

namespace Job

variable {backend : Backend σ κ} {session : Session ρ}

def Agrees (backend : Backend σ κ) (job : Job κ α) (state : σ) (meant : Interpretation ρ α) : Prop :=
  job.Yields backend state meant.outcome (meant.requests.map (Request.asked backend.describes))

theorem Asks.agrees {request : Request} {next : Except Failure request.Answer → Dialogue α} {job : Job κ α}
    {answer : Option (Outcome request.Answer)} {resumed : Except Failure request.Answer → Job κ α}
    (asks : job.Asks backend state [request.asked backend.describes] answer later resumed)
    (same : answer = (session.answer request script).1)
    (rest : ∀ reply, (resumed reply).Agrees backend later
      (session.hold (next reply) (session.answer request script).2)) :
    job.Agrees backend state (session.hold (.ask request next) script) := by
  unfold Agrees at rest ⊢
  simp only [Session.hold]
  revert same rest
  generalize session.answer request script = answered
  obtain ⟨found, after⟩ := answered
  intro same rest
  subst same
  rcases answer with _ | value | failure | panic
  · exact asks
  · exact asks _ _ (rest (.ok value))
  · exact asks _ _ (rest (.error failure))
  · exact asks

end Job

end SqlProgram
