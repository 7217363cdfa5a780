import SqlProgram.Proofs.LeafTurns
import SqlProgram.Run.Reactive

/-!
The turns of an asynchronous run: every leaf is served on a connection of its own, which goes back before
the next leaf is reached.
-/

namespace SqlProgram.Reactive

inductive Serves (backend : Backend σ κ) : Service σ κ where
  | refused {leaf : Leaf} {failure : Failure} {state : σ}
      (refused : (backend.acquire state).1.answer? = some (.failed failure)) :
      Serves backend leaf state none (.failed failure) (backend.acquire state).2
  | panicked {leaf : Leaf} {panic : Panic} {state : σ}
      (panicked : (backend.acquire state).1.answer? = some (.panicked panic)) :
      Serves backend leaf state none (.panicked panic) (backend.acquire state).2
  | lent {leaf : Leaf} {connection : κ} {dirty : Bool} {result : Outcome leaf.Answer} {state middle : σ}
      (lent : (backend.acquire state).1.answer? = some (.ok connection))
      (answers : backend.Answers connection (backend.acquire state).2 exchanges middle)
      (carried : leaf.Carried exchanges result) :
      Serves backend leaf state (some ⟨connection, exchanges⟩) result (backend.returned ⟨connection, dirty⟩ middle)

theorem serves_sound (backend : Backend σ κ) : Service.Sound (Serves backend) where
  carried serves := by
    cases serves
    assumption
  refused serves := by
    cases serves <;> rfl

/-- Worlds between which nothing was done but to talk to a connection and to give it back. -/
structure Parts (backend : Backend σ κ) (connection : κ) (world : World σ κ) (exchanges : List Exchange)
    (later : World σ κ) : Prop where
  answers : ∃ dirty middle, backend.Answers connection world.state exchanges middle ∧
    later.state = backend.returned ⟨connection, dirty⟩ middle
  steps : later.steps = world.steps ++ exchanges.flatMap (Exchange.entries connection)

variable {backend : Backend σ κ} {connection : κ} {world between after : World σ κ} {outcome : Outcome α}

theorem parts_giveBack (talks : backend.Talks connection world exchanges between) (dirty : Bool) :
    Parts backend connection world exchanges (backend.giveBack ⟨connection, dirty⟩ between) :=
  ⟨⟨dirty, between.state, talks.answers, backend.state_giveBack _ _⟩, (backend.steps_giveBack _ _).trans talks.steps⟩

theorem Parts.told (parts : Parts backend connection world exchanges between) (failure : Failure) :
    Parts backend connection world exchanges (between.add (.told (.rollbackFailed failure))) :=
  ⟨parts.answers, (World.steps_quiet rfl between).trans parts.steps⟩

def GoesOn (backend : Backend σ κ) (leaf : Leaf) (next : leaf.Answer → Dialogue α) (connection : κ)
    (world : World σ κ) (outcome : Outcome α) (after : World σ κ) : Prop :=
  ∃ exchanges result later, leaf.Carried exchanges result ∧ Parts backend connection world exchanges later ∧
    (serve backend.describes (.ofOutcome next result) none).Ends backend later outcome after

/-- A dialogue that went on after the turn of a leaf. -/
def TakesTurn (backend : Backend σ κ) (leaf : Leaf) (next : leaf.Answer → Dialogue α) (world : World σ κ)
    (outcome : Outcome α) (after : World σ κ) : Prop :=
  ∃ talk result later, Serves backend leaf world.state talk result later.state ∧
    later.steps = world.steps ++ Turn.entries ⟨leaf, talk⟩ ∧
    (serve backend.describes (.ofOutcome next result) none).Ends backend later outcome after

theorem takesTurn_borrow {leaf : Leaf} {next : leaf.Answer → Dialogue α} {given : κ → Job κ α}
    {refused : Failure → Job κ α}
    (ends : (Job.borrow given refused).Ends backend (world.add (.told (.running leaf))) outcome after)
    (refuses : ∀ failure, refused failure = .done (.failed failure))
    (gives : ∀ connection between, (given connection).Ends backend between outcome after →
      GoesOn backend leaf next connection between outcome after) :
    TakesTurn backend leaf next world outcome after := by
  obtain ⟨reply, between, arrived, state, steps, rest⟩ := ends.of_acquire
  have told : between.steps = world.steps ++ Turn.entries ⟨leaf, none⟩ := steps.trans (World.steps_add _ world)
  cases reply with
  | ok connection =>
    obtain ⟨exchanges, result, later, carried, parts, last⟩ := gives connection between rest
    obtain ⟨dirty, middle, answers, returned⟩ := parts.answers
    rw [state] at answers
    refine ⟨some ⟨connection, exchanges⟩, result, later, ?_, Turn.steps_talk (steps ▸ parts.steps), last⟩
    rw [returned]
    exact .lent arrived answers carried
  | failed failure =>
    simp only [refuses] at rest
    refine ⟨none, .failed failure, between, ?_, told, rest⟩
    rw [state]
    exact .refused arrived
  | panicked panic =>
    refine ⟨none, .panicked panic, between, ?_, told, rest⟩
    rw [state]
    exact .panicked arrived

theorem ends_proceed {lease : Lease κ} {next : β → Dialogue α} {reply : Outcome β}
    (ends : (Job.proceed lease (fun answer => .giveBack lease (serve backend.describes (.orFail next answer) none))
      reply).Ends backend world outcome after) :
    (serve backend.describes (.ofOutcome next reply) none).Ends backend (backend.giveBack lease world) outcome
      after := by
  cases reply <;> exact ends.of_giveBack

theorem ends_readRows {statement : Statement} {next : Cursor → Dialogue α}
    (ends : (readRows (some ⟨connection, false⟩) statement Job.drain fun answer =>
      .giveBack ⟨connection, false⟩ (serve backend.describes (.orFail next answer) none)).Ends backend world outcome
        after) :
    ∃ exchange rows later, exchange.Reads statement rows ∧ Parts backend connection world [exchange] later ∧
      (serve backend.describes (.ofOutcome next rows) none).Ends backend later outcome after := by
  simp only [readRows] at ends
  obtain ⟨opened, between, talks, rest⟩ := ends.of_request
  cases opened with
  | ok rows =>
    obtain ⟨read, entries, arrived, silent, rest⟩ := Job.Ends.of_drain rest
    have reads : Exchange.Reads statement ⟨.openRows statement, .ok rows⟩ read := .oneByOne arrived
    exact ⟨_, read, _, reads, parts_giveBack (talks.addAll silent) false, ends_proceed rest⟩
  | failed failure => exact ⟨_, .failed failure, _, .oneByOne rfl, parts_giveBack talks false, rest.of_giveBack⟩
  | panicked panic => exact ⟨_, .panicked panic, _, .oneByOne rfl, parts_giveBack talks false, rest.of_giveBack⟩

/-- A transaction keeps its connection to its end. -/
theorem takesTurn_transaction {statement : Statement} {column : String} {next : Option Row → Dialogue α}
    (ends : (serve backend.describes (.transaction statement column next) none).Ends backend
      (world.add (.told (.running ⟨.updateReturning column, statement⟩))) outcome after) :
    TakesTurn backend ⟨.updateReturning column, statement⟩ next world outcome after := by
  simp only [Dialogue.transaction, serve] at ends
  refine takesTurn_borrow ends (fun _ => rfl) fun connection between ends => ?_
  obtain ⟨begun, opened, first, rest⟩ := ends.of_request
  cases begun with
  | failed failure =>
    exact ⟨_, _, _, .unbegun statement column failure, parts_giveBack first true, rest.of_giveBack⟩
  | panicked panic =>
    exact ⟨_, _, _, .beginPanicked statement column panic, parts_giveBack first true, rest.of_giveBack⟩
  | ok =>
    simp only [Job.proceed, serve, onLease, Dialogue.orFail, unpin] at rest
    obtain ⟨changed, stated, second, rest⟩ := rest.of_request
    have said := first.trans second
    cases changed with
    | panicked panic =>
      exact ⟨_, _, _, .statementPanicked statement column panic, parts_giveBack said true, rest.of_giveBack⟩
    | ok row =>
      simp only [Job.proceed, serve, close] at rest
      obtain ⟨committed, closed, third, rest⟩ := rest.of_request
      have carried := Leaf.Carried.kept statement column row committed
      cases committed with
      | ok => exact ⟨_, _, _, carried, parts_giveBack (said.trans third) false, rest.of_giveBack⟩
      | failed failure => exact ⟨_, _, _, carried, parts_giveBack (said.trans third) true, rest.of_giveBack⟩
      | panicked panic => exact ⟨_, _, _, carried, parts_giveBack (said.trans third) true, rest.of_giveBack⟩
    | failed failure =>
      simp only [Job.proceed, serve, close] at rest
      obtain ⟨undone, closed, third, rest⟩ := rest.of_request
      have carried := Leaf.Carried.takenBack statement column failure undone
      cases undone with
      | ok => exact ⟨_, _, _, carried, parts_giveBack (said.trans third) false, rest.of_giveBack⟩
      | failed rollback =>
        -- The second failure is told after the connection went back.
        exact ⟨_, _, _, carried, (parts_giveBack (said.trans third) true).told rollback, rest.of_giveBack⟩
      | panicked panic => exact ⟨_, _, _, carried, parts_giveBack (said.trans third) true, rest.of_giveBack⟩

theorem describe_none (describes : Bool) (statement : Statement) (next : Except Failure RowLayout → Job κ α) :
    describe describes none statement next =
      .borrow (fun connection => describe describes (some ⟨connection, false⟩) statement fun answer =>
          .giveBack ⟨connection, false⟩ (next answer))
        fun failure => next (.error failure) := by
  unfold describe
  split <;> rfl

theorem goesOn_describe {statement : Statement} {next : RowLayout → Dialogue α}
    (ends : (describe backend.describes (some ⟨connection, false⟩) statement fun answer =>
      .giveBack ⟨connection, false⟩ (serve backend.describes (.orFail next answer) none)).Ends backend world outcome
        after) :
    GoesOn backend ⟨.queryMeta, statement⟩ next connection world outcome after := by
  unfold describe at ends
  split at ends
  · simp only [onLease] at ends
    obtain ⟨layout, between, talks, rest⟩ := ends.of_request
    exact ⟨_, _, _, .queryMeta (.itself layout), parts_giveBack talks false, ends_proceed rest⟩
  · simp only [readRows] at ends
    obtain ⟨opened, between, talks, rest⟩ := ends.of_request
    have carried : Leaf.Carried ⟨.queryMeta, statement⟩ _ _ := .queryMeta (.oneByOne opened)
    cases opened with
    | ok rows =>
      have dropped := talks.addAll (rows.silent_dropEntries connection)
      exact ⟨_, _, _, carried, parts_giveBack dropped false, (Job.Ends.of_recordAll rest).of_giveBack⟩
    | failed failure => exact ⟨_, _, _, carried, parts_giveBack talks false, rest.of_giveBack⟩
    | panicked panic => exact ⟨_, _, _, carried, parts_giveBack talks false, rest.of_giveBack⟩

theorem takesTurn_ofLeaf {leaf : Leaf} {next : leaf.Answer → Dialogue α}
    (ends : (serve backend.describes (.ofLeaf leaf next) none).Ends backend world outcome after) :
    TakesTurn backend leaf next world outcome after := by
  have asks : (serve backend.describes (.ofKind leaf.statement leaf.kind next) none).Ends backend
      (world.add (.told (.running leaf))) outcome after := ends
  obtain ⟨kind, statement⟩ := leaf
  cases kind with
  | updateReturning column => exact takesTurn_transaction asks
  | update =>
    simp only [Dialogue.ofKind, serve, onLease] at asks
    refine takesTurn_borrow asks (fun _ => rfl) fun connection between ends => ?_
    obtain ⟨count, later, talks, rest⟩ := ends.of_request
    exact ⟨_, _, _, .update statement count, parts_giveBack talks false, ends_proceed rest⟩
  | query =>
    simp only [Dialogue.ofKind, serve, readRows] at asks
    refine takesTurn_borrow asks (fun _ => rfl) fun connection between ends => ?_
    obtain ⟨exchange, rows, later, reads, parts, rest⟩ := ends_readRows ends
    rw [Dialogue.ofOutcome_firstRow] at rest
    exact ⟨_, _, later, .query reads, parts, rest⟩
  | queryOne =>
    simp only [Dialogue.ofKind, serve, readRows] at asks
    refine takesTurn_borrow asks (fun _ => rfl) fun connection between ends => ?_
    obtain ⟨exchange, rows, later, reads, parts, rest⟩ := ends_readRows ends
    rw [Dialogue.ofOutcome_map] at rest
    exact ⟨_, _, later, .queryOne reads, parts, rest⟩
  | queryIterable =>
    simp only [Dialogue.ofKind, serve, readRows] at asks
    refine takesTurn_borrow asks (fun _ => rfl) fun connection between ends => ?_
    obtain ⟨exchange, rows, later, reads, parts, rest⟩ := ends_readRows ends
    rw [Dialogue.ofOutcome_map] at rest
    exact ⟨_, _, later, .queryIterable reads, parts, rest⟩
  | queryMeta =>
    simp only [Dialogue.ofKind, serve, describe_none] at asks
    exact takesTurn_borrow asks (fun _ => rfl) fun connection between ends => goesOn_describe ends

theorem serve_done {result : Outcome α}
    (ends : (serve backend.describes (.done result) none).Ends backend world outcome after) :
    ∃ turns later, (Course.done result).Served (Serves backend) world.state turns outcome later ∧
      after.steps = world.steps ++ turns.flatMap Turn.entries := by
  obtain ⟨rfl, rfl⟩ := ends.of_done
  exact ⟨[], _, .done _ _, (List.append_nil _).symm⟩

theorem serve_turns (course : Course α)
    (ends : (serve backend.describes course.dialogue none).Ends backend world outcome after) :
    ∃ turns later, course.Served (Serves backend) world.state turns outcome later ∧
      after.steps = world.steps ++ turns.flatMap Turn.entries := by
  induction course generalizing world with
  | done result => exact serve_done ends
  | reach leaf next ih =>
    obtain ⟨talk, result, between, first, steps, rest⟩ := takesTurn_ofLeaf ends
    have later : ∃ turns later, (Course.ofOutcome next result).Served (Serves backend) between.state turns outcome
        later ∧ after.steps = between.steps ++ turns.flatMap Turn.entries := by
      cases result with
      | ok answer => exact ih answer rest
      | failed failure => exact serve_done rest
      | panicked panic => exact serve_done rest
    obtain ⟨turns, last, served, recorded⟩ := later
    refine ⟨⟨leaf, talk⟩ :: turns, last, .reach first served, ?_⟩
    rw [recorded, steps, List.append_assoc, List.flatMap_cons]

theorem job_conducted (program : Program α) (ends : (job backend.describes program).Ends backend world outcome after) :
    ∃ turns later, program.course.Served (Serves backend) world.state turns outcome later ∧
      after.steps = world.steps ++ turns.flatMap Turn.entries := by
  rw [job, program.dialogue_eq_course] at ends
  exact serve_turns program.course ends

end SqlProgram.Reactive
