import SqlProgram.Proofs.LeafTurns
import SqlProgram.Run.Blocking

/-!
The turns of a blocking run: every leaf is served on the one connection that was handed out.
-/

namespace SqlProgram.Blocking

def service (backend : Backend σ κ) (connection : κ) : Service σ κ := fun leaf state talk result later =>
  ∃ exchanges, talk = some ⟨connection, exchanges⟩ ∧ backend.Answers connection state exchanges later ∧
    leaf.Carried exchanges result

theorem service_sound (backend : Backend σ κ) (connection : κ) : (service backend connection).Sound where
  carried := by
    rintro state talk later leaf result ⟨exchanges, same, _, carried⟩
    cases same
    exact carried
  refused := by
    rintro state later leaf result ⟨exchanges, impossible, _⟩
    cases impossible

/-- A whole run: without a connection no leaf is reached. -/
inductive Conducted (backend : Backend σ κ) (program : Program α) (state : σ) : List (Turn κ) → Outcome α → Prop where
  | refused {failure : Failure} (refused : (backend.acquire state).1.answer? = some (.failed failure)) :
      Conducted backend program state [] (.failed failure)
  | panicked {panic : Panic} (panicked : (backend.acquire state).1.answer? = some (.panicked panic)) :
      Conducted backend program state [] (.panicked panic)
  | lent {connection : κ} (lent : (backend.acquire state).1.answer? = some (.ok connection))
      (served : program.course.Served (service backend connection) (backend.acquire state).2 turns outcome later) :
      Conducted backend program state turns outcome

variable {backend : Backend σ κ} {lease : Lease κ} {world after : World σ κ} {outcome : Outcome α}

theorem proceed_serve (describes : Bool) (lease : Lease κ) (next : β → Dialogue α) (reply : Outcome β) :
    Job.proceed lease (fun answer => serve describes (.orFail next answer) lease) reply =
      serve describes (.ofOutcome next reply) lease := by
  cases reply <;> rfl

def GoesOn (backend : Backend σ κ) (leaf : Leaf) (next : leaf.Answer → Dialogue α) (lease : Lease κ)
    (world : World σ κ) (outcome : Outcome α) (after : World σ κ) : Prop :=
  ∃ exchanges result between dirty, leaf.Carried exchanges result ∧
    backend.Talks lease.connection world exchanges between ∧
    (serve backend.describes (.ofOutcome next result) ⟨lease.connection, dirty⟩).Ends backend between outcome after

theorem goesOn_transaction {statement : Statement} {column : String} {next : Option Row → Dialogue α}
    (ends : (serve backend.describes (.transaction statement column next) lease).Ends backend world outcome after) :
    GoesOn backend ⟨.updateReturning column, statement⟩ next lease world outcome after := by
  simp only [Dialogue.transaction, serve] at ends
  obtain ⟨begun, opened, first, rest⟩ := ends.of_request
  rw [proceed_serve] at rest
  cases begun with
  | failed failure => exact ⟨_, _, opened, _, .unbegun statement column failure, first, rest⟩
  | panicked panic => exact ⟨_, _, opened, _, .beginPanicked statement column panic, first, rest⟩
  | ok =>
    simp only [Dialogue.ofOutcome, serve] at rest
    obtain ⟨changed, stated, second, rest⟩ := rest.of_request
    have said := first.trans second
    cases changed with
    | panicked panic => exact ⟨_, _, stated, _, .statementPanicked statement column panic, said, rest⟩
    | ok row =>
      simp only [Job.proceed, serve] at rest
      obtain ⟨committed, closed, third, rest⟩ := rest.of_request
      have carried := Leaf.Carried.kept statement column row committed
      cases committed with
      | ok => exact ⟨_, _, closed, _, carried, said.trans third, rest⟩
      | failed failure => exact ⟨_, _, closed, _, carried, said.trans third, rest⟩
      | panicked panic => exact ⟨_, _, closed, _, carried, said.trans third, rest⟩
    | failed failure =>
      simp only [Job.proceed, serve] at rest
      obtain ⟨undone, closed, third, rest⟩ := rest.of_request
      have carried := Leaf.Carried.takenBack statement column failure undone
      cases undone with
      | ok => exact ⟨_, _, closed, _, carried, said.trans third, rest⟩
      | failed rollback =>
        -- The second failure is told before the run ends.
        have silent : ∀ entry ∈ [(.told (.rollbackFailed rollback) : Entry κ)], entry.counts = false :=
          List.forall_mem_singleton.mpr rfl
        have told := (said.trans third).addAll silent
        exact ⟨_, _, _, _, carried, told, rest⟩
      | panicked panic => exact ⟨_, _, closed, _, carried, said.trans third, rest⟩

theorem goesOn_describe {statement : Statement} {next : RowLayout → Dialogue α}
    (ends : (serve backend.describes (.ask (.describe statement) (.orFail next)) lease).Ends backend world outcome
      after) :
    GoesOn backend ⟨.queryMeta, statement⟩ next lease world outcome after := by
  simp only [serve, describe] at ends
  split at ends
  · obtain ⟨layout, between, talks, rest⟩ := ends.of_request
    rw [proceed_serve] at rest
    exact ⟨_, _, between, lease.dirty, .queryMeta (.itself layout), talks, rest⟩
  · obtain ⟨rows, between, talks, rest⟩ := ends.of_request
    refine ⟨_, _, between, lease.dirty, .queryMeta (.atOnce rows), talks, ?_⟩
    rw [← Dialogue.ofOutcome_map]
    cases rows <;> exact rest

theorem goesOn_ofKind {kind : LeafKind} {statement : Statement} {next : kind.Answer → Dialogue α}
    (ends : (serve backend.describes (.ofKind statement kind next) lease).Ends backend world outcome after) :
    GoesOn backend ⟨kind, statement⟩ next lease world outcome after := by
  cases kind with
  | updateReturning column => exact goesOn_transaction ends
  | queryMeta => exact goesOn_describe ends
  | update =>
    obtain ⟨count, between, talks, rest⟩ := Job.Ends.of_request ends
    rw [proceed_serve] at rest
    exact ⟨_, _, between, lease.dirty, .update statement count, talks, rest⟩
  | query =>
    obtain ⟨rows, between, talks, rest⟩ := Job.Ends.of_request ends
    rw [proceed_serve, Dialogue.ofOutcome_firstRow] at rest
    exact ⟨_, _, between, lease.dirty, .query (.atOnce rows), talks, rest⟩
  | queryOne =>
    obtain ⟨rows, between, talks, rest⟩ := Job.Ends.of_request ends
    rw [proceed_serve, Dialogue.ofOutcome_map] at rest
    exact ⟨_, _, between, lease.dirty, .queryOne (.atOnce rows), talks, rest⟩
  | queryIterable =>
    obtain ⟨rows, between, talks, rest⟩ := Job.Ends.of_request ends
    rw [proceed_serve, Dialogue.ofOutcome_map] at rest
    exact ⟨_, _, between, lease.dirty, .queryIterable (.atOnce rows), talks, rest⟩

theorem goesOn_ofLeaf {leaf : Leaf} {next : leaf.Answer → Dialogue α}
    (ends : (serve backend.describes (.ofLeaf leaf next) lease).Ends backend world outcome after) :
    GoesOn backend leaf next lease (world.add (.told (.running leaf))) outcome after :=
  goesOn_ofKind ends

theorem serve_done {connection : κ} {result : Outcome α}
    (ends : (serve backend.describes (.done result) lease).Ends backend world outcome after) :
    ∃ turns later, (Course.done result).Served (service backend connection) world.state turns outcome later ∧
      after.steps = world.steps ++ turns.flatMap Turn.entries := by
  obtain ⟨rfl, rfl⟩ := (Job.Ends.of_giveBack ends).of_done
  exact ⟨[], _, .done _ _, (backend.steps_giveBack lease world).trans (List.append_nil _).symm⟩

/-- A course is taken turn by turn, whatever the connection answers. -/
theorem serve_turns (course : Course α) {connection : κ} {dirty : Bool}
    (ends : (serve backend.describes course.dialogue ⟨connection, dirty⟩).Ends backend world outcome after) :
    ∃ turns later, course.Served (service backend connection) world.state turns outcome later ∧
      after.steps = world.steps ++ turns.flatMap Turn.entries := by
  induction course generalizing dirty world with
  | done result => exact serve_done ends
  | reach leaf next ih =>
    obtain ⟨exchanges, result, between, marked, carried, talks, rest⟩ := goesOn_ofLeaf ends
    have first : service backend connection leaf world.state (some ⟨connection, exchanges⟩) result
        between.state := ⟨exchanges, rfl, talks.answers, carried⟩
    have later : ∃ turns later, (Course.ofOutcome next result).Served (service backend connection) between.state
        turns outcome later ∧ after.steps = between.steps ++ turns.flatMap Turn.entries := by
      cases result with
      | ok answer => exact ih answer rest
      | failed failure => exact serve_done rest
      | panicked panic => exact serve_done rest
    obtain ⟨turns, last, served, recorded⟩ := later
    refine ⟨⟨leaf, some ⟨connection, exchanges⟩⟩ :: turns, last, .reach first served, ?_⟩
    rw [recorded, Turn.steps_talk talks.steps, List.append_assoc, List.flatMap_cons]

theorem job_conducted (program : Program α) (ends : (job backend.describes program).Ends backend world outcome after) :
    ∃ turns, Conducted backend program world.state turns outcome ∧
      after.steps = world.steps ++ turns.flatMap Turn.entries := by
  obtain ⟨reply, lent, arrived, state, steps, rest⟩ := Job.Ends.of_acquire ends
  cases reply with
  | ok connection =>
    rw [program.dialogue_eq_course] at rest
    obtain ⟨turns, later, served, recorded⟩ := serve_turns program.course rest
    rw [state] at served
    exact ⟨turns, .lent arrived served, steps ▸ recorded⟩
  | failed failure =>
    obtain ⟨rfl, rfl⟩ := rest.of_done
    exact ⟨[], .refused arrived, steps.trans (List.append_nil _).symm⟩
  | panicked panic =>
    obtain ⟨rfl, rfl⟩ := rest.of_done
    exact ⟨[], .panicked arrived, steps.trans (List.append_nil _).symm⟩

end SqlProgram.Blocking
