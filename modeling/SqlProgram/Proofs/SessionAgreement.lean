import SqlProgram.Proofs.PlayedScript
import SqlProgram.Proofs.TransactionOrder

/-!
Blocking and asynchronous runs against the same script. One keeps its connection and the other changes
it with each leaf, but both serve a program as a session would that plays the script.
-/

namespace SqlProgram

namespace Blocking

variable {backend : Backend σ κ} {session : Session ρ} {stage : σ → ρ → Prop}

theorem asks_describe (backend : Backend σ κ) (lease : Lease κ) (statement : Statement) (state : σ)
    (next : Except Failure RowLayout → Job κ α) :
    (describe backend.describes lease statement next).Asks backend state
      [(Request.describe statement).asked backend.describes]
      (backend.answerBlocking lease.connection (.describe statement) state).1
      (backend.answerBlocking lease.connection (.describe statement) state).2 next := by
  unfold describe Request.asked Backend.answerBlocking
  cases backend.describes with
  | true => exact Job.asks_request backend lease (.describe statement) state next
  | false =>
    have asks := Job.asks_request backend lease (.query statement) state
      fun answer => next (answer.map Cursor.layout)
    have reads (cursor : Cursor) : (next (.ok cursor.layout)).Asks backend
        (backend.reply lease.connection (.query statement) state).2 [] (some (.ok cursor.layout))
        (backend.reply lease.connection (.query statement) state).2 next :=
      fun _ _ rest => rest
    exact asks.andThen reads fun _ => rfl

/-- A blocking run serves a dialogue as a session would that plays the script. -/
theorem serve_agrees (plays : backend.Plays session stage) (dialogue : Dialogue α) (lease : Lease κ) {state : σ}
    {script : ρ} (related : stage state script) :
    (serve backend.describes dialogue lease).Agrees backend state (session.hold dialogue script) := by
  induction dialogue generalizing lease state script with
  | done outcome => exact Job.yields_finish lease state outcome
  | note event next ih => exact Job.yields_record rfl (ih lease (plays.tell event related))
  | ask request next ih =>
    obtain ⟨same, later⟩ := plays.blocking lease.connection request related
    cases request with
    | begin =>
      simp only [serve]
      exact (Job.asks_request backend { lease with dirty := true } .begin state _).agrees same
        fun reply => ih reply _ later
    | commit => exact (Job.asks_request backend lease .commit state _).agrees same fun reply => ih reply _ later
    | rollback => exact (Job.asks_request backend lease .rollback state _).agrees same fun reply => ih reply _ later
    | update statement =>
      exact (Job.asks_request backend lease (.update statement) state _).agrees same fun reply => ih reply _ later
    | updateReturning statement column =>
      exact (Job.asks_request backend lease (.updateReturning statement column) state _).agrees same
        fun reply => ih reply _ later
    | query statement =>
      exact (Job.asks_request backend lease (.query statement) state _).agrees same fun reply => ih reply _ later
    | describe statement =>
      exact (asks_describe backend lease statement state _).agrees same fun reply => ih reply _ later

theorem job_agrees (plays : backend.Plays session stage) (program : Program α) {state : σ} {script : ρ}
    (related : stage state script) :
    (job backend.describes program).Agrees backend state (session.interpret program script) := by
  obtain ⟨⟨connection, arrived⟩, lent⟩ := plays.acquire related
  exact Job.yields_acquire arrived (serve_agrees plays program.dialogue ⟨connection, false⟩ lent)

end Blocking

namespace Reactive

variable {backend : Backend σ κ} {session : Session ρ} {stage : σ → ρ → Prop}

/-- A connection is kept exactly inside a transaction. -/
inductive Pins : Phase → Option (Lease κ) → Prop where
  | between : Pins .between none
  | reached (leaf : Leaf) : Pins (.reached leaf) none
  | begun (leaf : Leaf) (lease : Lease κ) : Pins (.begun leaf) (some lease)
  | changed (lease : Lease κ) : Pins .changed (some lease)
  | unchanged (lease : Lease κ) : Pins .unchanged (some lease)
  | finished : Pins .finished none

theorem asks_onLease {call : Call} {connection : κ} {state : σ} (next : Except Failure call.Answer → Job κ α)
    (arrived : (backend.acquire state).1.answer? = some (.ok connection)) :
    (onLease none call next).Asks backend state [call.request]
      (backend.reply connection call (backend.acquire state).2).1
      (backend.reply connection call (backend.acquire state).2).2
      fun answer => .giveBack ⟨connection, false⟩ (next answer) :=
  Job.asks_borrow arrived (Job.asks_request backend ⟨connection, false⟩ call _ _)

theorem asks_readRows {statement : Statement} {read : Reader κ β} {answer : RowStream → Option (Outcome β)}
    {connection : κ} {state : σ} (next : Except Failure β → Job κ α)
    (arrived : (backend.acquire state).1.answer? = some (.ok connection))
    (reads : ∀ (rows : RowStream) (later : σ) (next : Except Failure β → Job κ α),
      (read ⟨connection, false⟩ rows next).Asks backend later [] (answer rows) later next) :
    (readRows none statement read next).Asks backend state [.query statement]
      (whenAnswered (backend.reply connection (.openRows statement) (backend.acquire state).2).1 answer)
      (backend.reply connection (.openRows statement) (backend.acquire state).2).2
      fun answer => .giveBack ⟨connection, false⟩ (next answer) := by
  refine Job.asks_borrow arrived ?_
  exact (Job.asks_request backend ⟨connection, false⟩ (.openRows statement) _ _).andThen
    (fun rows => reads rows _ _) fun _ => rfl

theorem asks_describe {connection : κ} {state : σ} (statement : Statement)
    (next : Except Failure RowLayout → Job κ α)
    (arrived : (backend.acquire state).1.answer? = some (.ok connection)) :
    (describe backend.describes none statement next).Asks backend state
      [(Request.describe statement).asked backend.describes]
      (backend.answerReactive connection (.describe statement) (backend.acquire state).2).1
      (backend.answerReactive connection (.describe statement) (backend.acquire state).2).2
      fun answer => .giveBack ⟨connection, false⟩ (next answer) := by
  unfold describe Request.asked Backend.answerReactive
  cases backend.describes with
  | true => exact Job.asks_borrow arrived (Job.asks_request backend ⟨connection, false⟩ (.describe statement) _ _)
  | false =>
    exact asks_readRows next arrived fun rows later next =>
      Job.asks_columns ⟨connection, false⟩ rows later next

/-- An asynchronous run serves a dialogue in order as a session would that plays the script. -/
theorem serve_agrees (plays : backend.Plays session stage) {phase : Phase} {dialogue : Dialogue α}
    (orderly : dialogue.Orderly phase) {pinned : Option (Lease κ)} (pins : Pins phase pinned)
    {state : σ} {script : ρ} (related : stage state script) :
    (serve backend.describes dialogue pinned).Agrees backend state (session.hold dialogue script) := by
  -- On the order and not on the dialogue: what is pinned follows from the phase.
  induction orderly generalizing pinned state script with
  | done outcome =>
    cases pins
    exact Job.yields_done state outcome
  | failed failure =>
    cases pins
    exact Job.yields_done state (.failed failure)
  | rollbackFailed failure _ ih => exact Job.yields_record rfl (ih pins (plays.tell _ related))
  | running leaf _ ih =>
    cases pins
    exact Job.yields_record rfl (ih (.reached leaf) (plays.tell _ related))
  | @plain leaf request next plain asked _ _ answered refused =>
    cases pins
    obtain ⟨⟨connection, arrived⟩, lent⟩ := plays.acquire related
    obtain ⟨same, later⟩ := plays.reactive connection request lent
    have rest (reply : Except Failure request.Answer) :
        (Job.giveBack ⟨connection, false⟩ (serve backend.describes (next reply) none)).Agrees backend
          (backend.answerReactive connection request (backend.acquire state).2).2
          (session.hold (next reply) (session.answer request script).2) := by
      refine Job.yields_giveBack ?_
      cases reply with
      | ok answer => exact answered answer .between (plays.returned _ later)
      | error failure => exact refused failure .finished (plays.returned _ later)
    cases request with
    | update statement => exact (asks_onLease _ arrived).agrees same rest
    | updateReturning statement column => exact (asks_onLease _ arrived).agrees same rest
    | query statement =>
      exact (asks_readRows _ arrived fun rows later next => Job.asks_drain _ rows later next).agrees same rest
    | describe statement => exact (asks_describe statement _ arrived).agrees same rest
    | begin => exact absurd asked leaf.request_ne.1
    | commit => exact absurd asked leaf.request_ne.2.1
    | rollback => exact absurd asked leaf.request_ne.2.2
  | begin transaction _ _ answered refused =>
    cases pins
    obtain ⟨⟨connection, arrived⟩, lent⟩ := plays.acquire related
    obtain ⟨same, later⟩ := plays.reactive connection .begin lent
    simp only [serve]
    refine (Job.asks_borrow arrived
      (Job.asks_request backend ⟨connection, true⟩ .begin _ _)).agrees same fun reply => ?_
    cases reply with
    | ok answer => exact answered answer (.begun _ ⟨connection, true⟩) later
    | error failure => exact Job.yields_giveBack (refused failure .finished (plays.returned _ later))
  | @updateReturning statement column leaf _ asked _ _ answered refused =>
    cases pins with
    | begun _ lease =>
      obtain ⟨same, later⟩ := plays.reactive lease.connection (.updateReturning statement column) related
      simp only [serve, onLease]
      refine (Job.asks_request backend lease (.updateReturning statement column) state _).agrees same fun reply => ?_
      cases reply with
      | ok row => exact answered row (.changed lease) later
      | error failure => exact refused failure (.unchanged lease) later
  | commit _ _ answered refused =>
    cases pins with
    | changed lease =>
      obtain ⟨same, later⟩ := plays.reactive lease.connection .commit related
      simp only [serve, close]
      refine (Job.asks_request backend lease .commit state _).agrees same fun reply => ?_
      cases reply with
      | ok answer => exact Job.yields_giveBack (answered answer .between (plays.returned _ later))
      | error failure => exact Job.yields_giveBack (refused failure .finished (plays.returned _ later))
  | rollback _ ih =>
    cases pins with
    | unchanged lease =>
      obtain ⟨same, later⟩ := plays.reactive lease.connection .rollback related
      simp only [serve, close]
      refine (Job.asks_request backend lease .rollback state _).agrees same fun reply => ?_
      cases reply with
      | ok answer => exact Job.yields_giveBack (ih (.ok answer) .finished (plays.returned _ later))
      | error failure => exact Job.yields_giveBack (ih (.error failure) .finished (plays.returned _ later))

theorem job_agrees (plays : backend.Plays session stage) (program : Program α) {state : σ} {script : ρ}
    (related : stage state script) :
    (job backend.describes program).Agrees backend state (session.interpret program script) :=
  serve_agrees plays program.orderly .between related

end Reactive

end SqlProgram
