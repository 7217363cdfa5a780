import Mathlib.Data.List.Permutation
import SqlProgram.Proofs.CallDiscipline
import SqlProgram.Proofs.CompletedRuns
import SqlProgram.Proofs.RunFailures
import SqlProgram.Script.Backend

/-!
The transaction protocol. However a program is run, its leaves are carried out one after the other, each
by one plain call or by a transaction on one connection, and no call strays into or out of a transaction.
-/

namespace SqlProgram

/-- What the protocol promises of a run that took some turns and then ended. -/
structure Protocol (backend : Backend σ κ) (program : Program α) (turns : List (Turn κ)) (outcome : Outcome α) :
    Prop where
  /-- On the connection of a leaf nothing is said but what carries the leaf out. -/
  carried : ∀ turn ∈ turns, ∀ talk, turn.talk = some talk → ∃ result, turn.leaf.Carried talk.exchanges result
  disciplined : Disciplined (turns.flatMap Turn.said)
  /-- That no transaction is open is told only if the program or the backend made it up. -/
  neverMissing : ∀ failure, outcome = .failed failure → Failure.noTransaction.IsPartOf failure →
    ∃ cause, Failure.noTransaction.IsPartOf cause ∧ (program.course.Raises cause ∨ backend.Raises cause)
  bothTold : ∀ turn ∈ turns, ∀ talk, turn.talk = some talk → ∀ statement column failure rollback,
    ⟨.updateReturning statement column, .failed failure⟩ ∈ talk.exchanges →
    ⟨.rollback, .failed rollback⟩ ∈ talk.exchanges →
    ∃ error, outcome = .failed error ∧ error.Tells failure ∧ error.Tells rollback

namespace Protocol

variable {backend : Backend σ κ} {program : Program α} {outcome : Outcome α}

theorem of_served {service : Service σ κ} (sound : service.Sound)
    (blames : ∀ {leaf : Leaf} {state talk later} {failure : Failure},
      service leaf state talk (.failed failure : Outcome leaf.Answer) later → backend.Blamed failure)
    (served : program.course.Served service state turns outcome later) : Protocol backend program turns outcome where
  carried := served.carried sound
  disciplined := served.disciplined sound
  neverMissing := by
    rintro failure rfl told
    rcases served.blame with raised | ⟨leaf, talk, before, after, failed⟩
    · exact ⟨failure, told, .inl raised⟩
    · obtain ⟨cause, part, raised⟩ := (blames failed).noTransaction told
      exact ⟨cause, part, .inr raised⟩
  bothTold := by
    intro turn member talk talked statement column failure rollback failed stuck
    exact ⟨_, served.rollbackFailed sound member talked failed stuck, Failure.rollbackFailed_tells failure rollback⟩

theorem of_refused (program : Program α) (raises : ∀ failure, outcome = .failed failure → backend.Raises failure) :
    Protocol backend program [] outcome where
  carried := nofun
  disciplined := disciplined_nil
  neverMissing failure failed told := ⟨failure, told, .inr (raises failure failed)⟩
  bothTold := nofun

theorem of_blocking {state : σ} (conducted : Blocking.Conducted backend program state turns outcome) :
    Protocol backend program turns outcome := by
  cases conducted with
  | refused refused =>
    refine of_refused program fun failure failed => ?_
    cases failed
    exact .acquire refused
  | panicked panicked => exact of_refused program nofun
  | @lent turns outcome later connection lent served =>
    refine of_served (Blocking.service_sound backend connection) ?_ served
    rintro leaf state talk later failure ⟨exchanges, _, answers, carried⟩
    exact carried.blame rfl answers

theorem of_reactive {state : σ} (served : program.course.Served (Reactive.Serves backend) state turns outcome later) :
    Protocol backend program turns outcome := by
  refine of_served (Reactive.serves_sound backend) ?_ served
  intro leaf state talk later failure serves
  cases serves with
  | refused refused => exact .itself (.acquire refused)
  | lent lent answers carried => exact carried.blame rfl answers

end Protocol

/-- Every run that comes to its end kept to the protocol, whatever the backend answered. -/
theorem Program.transaction_protocol (backend : Backend σ κ) (program : Program α) (world : World σ κ) :
    program.EveryRun backend world (Protocol backend program) :=
  everyRun (fun _ _ _ => .of_blocking) (fun _ _ _ _ => .of_reactive) world

/-- A statement that is refused in a transaction that cannot be taken back, after a statement that is kept. The run
tells of both. -/
theorem Program.transaction_protocol_stuck :
    let backend := Script.backend false
    let world : World Script.State Nat := .ofState {
      acquire := [], begin := [⟨.polls 1, .ok (), []⟩], commit := []
      rollback := [.ofOutcome (.failed (.backend "gone"))], update := []
      updateReturning := [.ofOutcome (.failed (.backend "unique"))], query := [], lent := 0 }
    let statement : Statement := ⟨"insert into t values (1)", []⟩
    let plain : Leaf := ⟨.update, statement⟩
    let returning : Leaf := ⟨.updateReturning "id", statement⟩
    let program : Program (Option Row) := (updateCount statement).bind fun _ => .step returning .ok
    let failure : Failure := .rollbackFailed (.backend "unique") (.backend "gone")
    let outcome := .failed failure
    failure.message = "Backend error: unique (rollback failed: Backend error: gone)" ∧
      (program.runDirect backend world).1 = some outcome ∧
      (program.runAsync backend world).1 = some outcome ∧
      (program.runAsync backend world).2.steps =
        [.told (.running plain), .called 1 (.update statement), .answered 1 (.update statement) true,
          .told (.running returning), .called 2 .begin, .answered 2 .begin true,
          .called 2 (.updateReturning statement "id"), .answered 2 (.updateReturning statement "id") false,
          .called 2 .rollback, .answered 2 .rollback false] ∧
      (∃ turns, Blocking.Took backend program world turns outcome (program.runDirect backend world).2 ∧
        Protocol backend program turns outcome) ∧
      ∃ turns, Reactive.Took backend program world turns outcome (program.runAsync backend world).2 ∧
        Protocol backend program turns outcome := by
  intro backend world statement plain returning program failure outcome
  have directly : (program.runDirect backend world).1 = some outcome := by
    rw [runDirect, runWith, Blocking.job, dialogue_eq_meaning]
    cbv
  have asynchronously : (program.runAsync backend world).1 = some outcome := by
    rw [runAsync, Reactive.job, dialogue_eq_meaning]
    cbv
  have runs := transaction_protocol backend program world
  refine ⟨rfl, directly, asynchronously, ?_, runs.direct outcome directly, runs.async outcome asynchronously⟩
  rw [runAsync, Reactive.job, dialogue_eq_meaning]
  cbv

end SqlProgram
