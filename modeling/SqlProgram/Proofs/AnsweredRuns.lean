import SqlProgram.Proofs.PollPatience
import SqlProgram.Proofs.StatementCalls
import SqlProgram.Run.Blocking
import SqlProgram.Run.Strategy
import SqlProgram.Script.Backend

/-!
Runs on a backend that answers. A run waits for nothing but answers and rows, so it comes to its end if all of them
arrive, whatever they are.
-/

namespace SqlProgram

theorem Delay.left_of_arrives {delay : Delay} (arrives : delay ≠ .never) : delay.left true = none := by
  cases delay with
  | never => exact absurd rfl arrives
  | polls count => exact left_polls count

structure RowStream.Arrives (rows : RowStream) : Prop where
  step : ∀ step ∈ rows.steps, step.delay ≠ .never
  closing : rows.closing ≠ .never

def Call.Delivers : (call : Call) → Outcome call.Answer → Prop
  | .openRows _, .ok (rows : RowStream) => rows.Arrives
  | _, _ => True

/-- States in which a backend answers whatever it is asked for, and which it does not leave. -/
structure Backend.AnswersIn (backend : Backend σ κ) (steady : σ → Prop) : Prop where
  acquires : ∀ state, steady state →
    (backend.acquire state).1.delay ≠ .never ∧ steady (backend.acquire state).2
  calls : ∀ connection (call : Call) state, steady state →
    (backend.call connection call state).1.delay ≠ .never ∧
      call.Delivers (backend.call connection call state).1.outcome ∧ steady (backend.call connection call state).2
  returns : ∀ lease state, steady state → steady (backend.returned lease state)

namespace Job

/-- A job that waits for nothing but answers and what they deliver. -/
def Timely : Job κ α → Prop
  | .done _ => True
  | .record _ next => next.Timely
  | .acquire next => ∀ answer, (next answer).Timely
  | .call _ asked next => ∀ answer, asked.Delivers answer → (next answer).Timely
  | .pause _ delay _ next => delay ≠ .never ∧ next.Timely
  | .giveBack _ next => next.Timely

theorem advance_ends {backend : Backend σ κ} {steady : σ → Prop} (answers : backend.AnswersIn steady) {job : Job κ α}
    (timely : job.Timely) {world : World σ κ} (steadily : steady world.state) :
    ∃ outcome after, job.advance backend true world = (.done outcome, after) := by
  -- On the job: whatever the answer is, the rest of the job is one of those that the induction speaks of.
  induction job generalizing world with
  | done outcome => exact ⟨outcome, world, rfl⟩
  | record entry next ih => exact ih timely steadily
  | giveBack lease next ih =>
    apply ih timely
    rw [backend.state_giveBack]
    exact answers.returns lease world.state steadily
  | pause held delay entries next ih =>
    obtain ⟨arrives, rest⟩ := timely
    simp only [advance, Delay.left_of_arrives arrives]
    apply ih rest
    rw [World.state_addAll]
    exact steadily
  | acquire next ih =>
    obtain ⟨arrives, kept⟩ := answers.acquires world.state steadily
    simp only [advance, Delay.left_of_arrives arrives]
    apply ih _ (timely _)
    rw [World.state_addAll]
    exact kept
  | call lease call next ih =>
    obtain ⟨arrives, delivers, kept⟩ := answers.calls lease.connection call world.state steadily
    simp only [advance, Delay.left_of_arrives arrives]
    apply ih _ (timely _ delivers)
    rw [World.state_addAll]
    exact kept

theorem timely_recordAll {next : Job κ α} (entries : List (Entry κ)) (timely : next.Timely) :
    (recordAll entries next).Timely := by
  induction entries with
  | nil => exact timely
  | cons entry entries ih => exact ih

theorem timely_borrow {next : κ → Job κ α} {refused : Failure → Job κ α} (given : ∀ connection, (next connection).Timely)
    (failed : ∀ failure, (refused failure).Timely) : (borrow next refused).Timely := by
  intro answer
  cases answer with
  | ok connection => exact given connection
  | failed failure => exact failed failure
  | panicked panic => exact trivial

theorem timely_request (lease : Lease κ) (call : Call) {next : Except Failure call.Answer → Job κ α}
    (answered : ∀ answer, call.Delivers (.ok answer) → (next (.ok answer)).Timely)
    (refused : ∀ failure, (next (.error failure)).Timely) : (request lease call next).Timely := by
  intro answer delivers
  cases answer with
  | ok answer => exact answered answer delivers
  | failed failure => exact refused failure
  | panicked panic => exact trivial

theorem timely_drainFrom (lease : Lease κ) {next : Except Failure Cursor → Job κ α}
    (later : ∀ answer, (next answer).Timely) {steps : List RowStep} (arrives : ∀ step ∈ steps, step.delay ≠ .never)
    {rows : RowStream} (closing : rows.closing ≠ .never) (read : List Row) :
    (drainFrom lease rows read next steps).Timely := by
  induction steps generalizing rows read with
  | nil => exact ⟨closing, later _⟩
  | cons step rest ih =>
    obtain ⟨first, others⟩ := List.forall_mem_cons.mp arrives
    have kept := { rows with steps := step :: rest }.advance_keeps.1
    refine ⟨first, ?_⟩
    cases step.item with
    | ok row =>
      apply ih others
      rw [kept]
      exact closing
    | failed failure => exact timely_recordAll _ (later (.error failure))
    | panicked panic => exact timely_recordAll _ trivial

theorem timely_drain (lease : Lease κ) {rows : RowStream} {next : Except Failure Cursor → Job κ α}
    (arrives : rows.Arrives) (later : ∀ answer, (next answer).Timely) : (drain lease rows next).Timely :=
  timely_drainFrom lease later arrives.step arrives.closing []

end Job

open Job

theorem Blocking.serve_timely (describes : Bool) (dialogue : Dialogue α) (lease : Lease κ) :
    (serve describes dialogue lease).Timely := by
  induction dialogue generalizing lease with
  | done outcome => exact trivial
  | note event next ih => exact ih lease
  | ask request next ih =>
    cases request with
    | begin | commit | rollback =>
      simp only [serve]
      exact timely_request _ _ (fun answer _ => ih (.ok answer) _) fun failure => ih (.error failure) _
    | update | updateReturning | query =>
      exact timely_request _ _ (fun answer _ => ih (.ok answer) lease) fun failure => ih (.error failure) lease
    | describe statement =>
      simp only [serve, describe]
      split
      · exact timely_request _ _ (fun answer _ => ih (.ok answer) lease) fun failure => ih (.error failure) lease
      · apply timely_request
        · exact fun cursor _ => ih (.ok cursor.layout) lease
        · exact fun failure => ih (.error failure) lease

namespace Reactive

theorem onLease_timely (pinned : Option (Lease κ)) (call : Call) {next : Except Failure call.Answer → Job κ α}
    (later : ∀ answer, (next answer).Timely) : (onLease pinned call next).Timely := by
  cases pinned with
  | some lease => exact timely_request lease call (fun answer _ => later (.ok answer)) fun failure => later (.error failure)
  | none =>
    apply timely_borrow
    · intro connection
      exact timely_request _ call (fun answer _ => later (.ok answer)) fun failure => later (.error failure)
    · exact fun failure => later (.error failure)

theorem readRows_timely (pinned : Option (Lease κ)) (statement : Statement) {read : Reader κ β}
    {next : Except Failure β → Job κ α}
    (reads : ∀ {lease : Lease κ} {rows : RowStream} {next : Except Failure β → Job κ α}, rows.Arrives →
      (∀ answer, (next answer).Timely) → (read lease rows next).Timely)
    (later : ∀ answer, (next answer).Timely) : (readRows pinned statement read next).Timely := by
  have opened (lease : Lease κ) {next : Except Failure β → Job κ α} (later : ∀ answer, (next answer).Timely) :
      (readRows (some lease) statement read next).Timely := by
    unfold readRows
    exact timely_request lease _ (fun _ arrives => reads arrives later) fun failure => later (.error failure)
  cases pinned with
  | some lease => exact opened lease later
  | none => exact timely_borrow (fun connection => opened _ later) fun failure => later (.error failure)

theorem describe_timely (describes : Bool) (pinned : Option (Lease κ)) (statement : Statement)
    {next : Except Failure RowLayout → Job κ α} (later : ∀ answer, (next answer).Timely) :
    (describe describes pinned statement next).Timely := by
  unfold describe
  split
  · exact onLease_timely pinned _ later
  · exact readRows_timely pinned statement (fun _ later => timely_recordAll _ (later _)) later

theorem unpin_timely (pinned : Option (Lease κ)) {next : Job κ α} (timely : next.Timely) :
    (unpin pinned next).Timely := by
  cases pinned with
  | none => exact timely
  | some lease => exact timely

theorem close_timely (pinned : Option (Lease κ)) (call : Call) {next : Except Failure call.Answer → Job κ α}
    (later : ∀ answer, (next answer).Timely) : (close pinned call next).Timely := by
  cases pinned with
  | none => exact later (.error .noTransaction)
  | some lease =>
    unfold close
    exact timely_request lease call (fun answer _ => later (.ok answer)) fun failure => later (.error failure)

theorem serve_timely (describes : Bool) (dialogue : Dialogue α) (pinned : Option (Lease κ)) :
    (serve describes dialogue pinned).Timely := by
  induction dialogue generalizing pinned with
  | done outcome => exact unpin_timely pinned trivial
  | note event next ih => exact ih pinned
  | ask request next ih =>
    cases request with
    | begin =>
      simp only [serve]
      refine timely_borrow (fun connection => ?_) fun failure => ih (.error failure) pinned
      apply timely_request
      · exact fun answer _ => unpin_timely pinned (ih (.ok answer) _)
      · exact fun failure => ih (.error failure) pinned
    | commit => exact close_timely pinned _ fun answer => ih answer none
    | rollback => exact close_timely pinned _ fun answer => ih answer none
    | update statement => exact onLease_timely pinned _ fun answer => ih answer pinned
    | updateReturning statement column => exact onLease_timely pinned _ fun answer => ih answer pinned
    | query statement => exact readRows_timely pinned statement (timely_drain _) fun answer => ih answer pinned
    | describe statement => exact describe_timely describes pinned statement fun answer => ih answer pinned

end Reactive

/-- However a program is run from a world on, the run comes to its end. A stream does if it is looked at often enough. -/
structure Program.Completes (backend : Backend σ κ) (program : Program α) (world : World σ κ) : Prop where
  direct : ∃ outcome, (program.runDirect backend world).1 = some outcome
  captured : ∃ outcome, (program.runCaptured backend world).1 = some outcome
  deferred : ∃ deferred, program.runDeferred backend world = (some (.ok deferred), world) ∧
    ∃ outcome, (deferred.force world).1 = some outcome
  async : ∃ outcome, (program.runAsync backend world).1 = some outcome
  stream : ∃ enough, ∀ looks, enough < looks.length →
    ∃ outcome, .item outcome ∈ (ProgramStream.pollAll backend looks (program.stream backend) world).1

/-- Runs end if every answer arrives, whether it is a value, a failure or a panic. -/
theorem Program.completes {backend : Backend σ κ} {steady : σ → Prop} (answers : backend.AnswersIn steady)
    (program : Program α) {world : World σ κ} (steadily : steady world.state) : program.Completes backend world := by
  have blocking : (Blocking.job backend.describes program : Job κ α).Timely :=
    timely_borrow (fun connection => Blocking.serve_timely backend.describes program.dialogue ⟨connection, false⟩)
      fun _ => trivial
  have reactive : (Reactive.job backend.describes program : Job κ α).Timely :=
    Reactive.serve_timely backend.describes program.dialogue none
  obtain ⟨outcome, after, ran⟩ := Job.advance_ends answers blocking steadily
  obtain ⟨result, last, ended⟩ := Job.advance_ends answers reactive steadily
  have direct : program.runDirect backend world = (some outcome, after) := by
    have started : program.runDirect backend world =
        (Blocking.job backend.describes program).toAction backend world := rfl
    rw [started, Job.toAction, ran]
    rfl
  refine ⟨⟨outcome, by rw [direct]⟩, ?_, ⟨_, rfl, outcome, congrArg Prod.fst direct⟩, ⟨result, ?_⟩, ?_⟩
  · have captured : (program.runCaptured backend world).1 = (Strategy.capture (program.runDirect backend) world).1 := rfl
    rw [captured, Strategy.capture, direct]
    cases outcome with
    | ok value => exact ⟨_, rfl⟩
    | failed failure => exact ⟨_, rfl⟩
    | panicked panic => exact ⟨_, rfl⟩
  · unfold runAsync Job.toAction
    rw [ended]
    rfl
  · refine ⟨(Reactive.job backend.describes program).looks backend world, ?_⟩
    intro looks enough
    obtain ⟨early, late, _, _, polled⟩ := ProgramStream.pollAll_finds backend looks ended enough
    have same : ProgramStream.pollAll backend looks (program.stream backend) world = _ := polled
    rw [same]
    exact ⟨result, List.mem_append_right _ (List.mem_cons_self ..)⟩

namespace Script

structure State.Arrives (state : State) : Prop where
  acquire : ∀ reply ∈ state.acquire, reply.delay ≠ .never
  begin : ∀ reply ∈ state.begin, reply.delay ≠ .never
  commit : ∀ reply ∈ state.commit, reply.delay ≠ .never
  rollback : ∀ reply ∈ state.rollback, reply.delay ≠ .never
  update : ∀ reply ∈ state.update, reply.delay ≠ .never
  updateReturning : ∀ reply ∈ state.updateReturning, reply.delay ≠ .never
  query : ∀ reply ∈ state.query, reply.delay ≠ .never ∧ ∀ rows, reply.outcome = .ok rows → rows.stream.Arrives

theorem nextReply_all {holds : Reply α → Prop} (default : α) (still : holds (.ofOutcome (.ok default)))
    {replies : List (Reply α)} (all : ∀ reply ∈ replies, holds reply) :
    holds (nextReply default replies).1 ∧ ∀ reply ∈ (nextReply default replies).2, holds reply := by
  cases replies with
  | nil => exact ⟨still, nofun⟩
  | cons reply rest => exact List.forall_mem_cons.mp all

theorem Rows.empty_arrives : Rows.empty.stream.Arrives where
  step := nofun
  closing := nofun

theorem answer_arrives (call : Call) {state : State} (arrives : state.Arrives) :
    (answer call state).1.delay ≠ .never ∧ call.Delivers (answer call state).1.outcome ∧
      (answer call state).2.Arrives := by
  have stored := nextReply_all Rows.empty
    ⟨nofun, fun rows same => Outcome.ok.inj same ▸ Rows.empty_arrives⟩ arrives.query
  obtain ⟨⟨arrived, delivers⟩, rest⟩ := stored
  cases call with
  | begin =>
    obtain ⟨first, rest⟩ := nextReply_all () nofun arrives.begin
    exact ⟨first, trivial, { arrives with begin := rest }⟩
  | commit =>
    obtain ⟨first, rest⟩ := nextReply_all () nofun arrives.commit
    exact ⟨first, trivial, { arrives with commit := rest }⟩
  | rollback =>
    obtain ⟨first, rest⟩ := nextReply_all () nofun arrives.rollback
    exact ⟨first, trivial, { arrives with rollback := rest }⟩
  | update statement =>
    obtain ⟨first, rest⟩ := nextReply_all 0 nofun arrives.update
    exact ⟨first, trivial, { arrives with update := rest }⟩
  | updateReturning statement column =>
    obtain ⟨first, rest⟩ := nextReply_all none nofun arrives.updateReturning
    exact ⟨first, trivial, { arrives with updateReturning := rest }⟩
  | query statement => exact ⟨arrived, trivial, { arrives with query := rest }⟩
  | describe statement => exact ⟨arrived, trivial, { arrives with query := rest }⟩
  | openRows statement =>
    refine ⟨arrived, ?_, { arrives with query := rest }⟩
    simp only [answer, Reply.bind]
    cases opened : (nextReply Rows.empty state.query).1.outcome with
    | ok rows => exact delivers rows opened
    | failed failure => exact trivial
    | panicked panic => exact trivial

theorem lend_arrives {state : State} (arrives : state.Arrives) :
    (lend state).1.delay ≠ .never ∧ (lend state).2.Arrives := by
  obtain ⟨first, rest⟩ := nextReply_all () nofun arrives.acquire
  exact ⟨first, { arrives with acquire := rest }⟩

theorem hasten_arrives (prompt : Bool) {answered : Reply α × State} (arrives : answered.1.delay ≠ .never) :
    (backend.hasten prompt answered).1.delay ≠ .never ∧
      (backend.hasten prompt answered).1.outcome = answered.1.outcome ∧
      (backend.hasten prompt answered).2 = answered.2 := by
  cases prompt with
  | false => exact ⟨arrives, rfl, rfl⟩
  | true => exact ⟨nofun, rfl, rfl⟩

theorem backend_answers (prompt : Bool) : (backend prompt).AnswersIn State.Arrives where
  acquires state arrives := by
    obtain ⟨first, later⟩ := lend_arrives arrives
    obtain ⟨arrived, _, kept⟩ := hasten_arrives prompt first
    exact ⟨arrived, kept ▸ later⟩
  calls connection call state arrives := by
    obtain ⟨first, delivers, later⟩ := answer_arrives call arrives
    obtain ⟨arrived, same, kept⟩ := hasten_arrives prompt first
    exact ⟨arrived, same ▸ delivers, kept ▸ later⟩
  returns lease state arrives := by
    unfold Backend.returned
    split
    · exact arrives
    · exact arrives

end Script

end SqlProgram
