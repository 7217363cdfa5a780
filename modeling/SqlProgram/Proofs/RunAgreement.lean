import SqlProgram.Proofs.PollPatience
import SqlProgram.Proofs.ScriptPlay
import SqlProgram.Proofs.SessionAgreement

/-!
Agreement of all ways to run a program. On a backend that plays a script they end alike after the same
requests, and as the program is meant.
-/

namespace SqlProgram

/-- A result whose panics are failures, too, each with its own message. -/
def Outcome.captured : Outcome α → Outcome α
  | .panicked (.message message) => .failed (.panicked message)
  | .panicked .other => .failed (.panicked "non-string panic payload")
  | outcome => outcome

theorem Strategy.capture_yields {action : Action σ κ α} {world : World σ κ}
    (yields : action.Yields world outcome requests) :
    (capture action).Yields world (outcome.map Outcome.captured) requests := by
  unfold Action.Yields capture at *
  revert yields
  generalize action world = ran
  obtain ⟨result, after⟩ := ran
  rintro ⟨rfl, asked⟩
  match result with
  | none => exact ⟨rfl, asked⟩
  | some (.ok value) => exact ⟨rfl, asked⟩
  | some (.failed failure) => exact ⟨rfl, asked⟩
  | some (.panicked (.message message)) => exact ⟨rfl, (World.requests_quiet rfl after).trans asked⟩
  | some (.panicked .other) => exact ⟨rfl, (World.requests_quiet rfl after).trans asked⟩

theorem Job.advance_of_toAction {backend : Backend σ κ} {job : Job κ α} {world : World σ κ}
    (ended : (job.toAction backend world).1 = some outcome) :
    job.advance backend true world = (.done outcome, (job.toAction backend world).2) := by
  unfold toAction at ended ⊢
  revert ended
  generalize job.advance backend true world = looked
  obtain ⟨rest, after⟩ := looked
  intro ended
  cases rest with
  | done result =>
    cases ended
    rfl
  | _ => cases ended

/-- However a program is run, it ends as it is meant to end, after the requests that are meant. Panics
pass through all runs but the one that captures them and fails with their message. A stream hands the result out once
and then ends; it passes on a panic whenever it is looked at. -/
theorem Program.strategies_agree {backend : Backend σ κ} {session : Session ρ} {stage : σ → ρ → Prop}
    (plays : backend.Plays session stage) (program : Program α) {world : World σ κ} {script : ρ}
    (related : stage world.state script) :
    let meant := session.interpret program script
    let requests := meant.requests.map (Request.asked backend.describes)
    (program.runDirect backend).Yields world meant.outcome requests ∧
      (program.runCaptured backend).Yields world (meant.outcome.map Outcome.captured) requests ∧
      (∀ message, meant.outcome = some (.panicked (.message message)) →
        (program.runCaptured backend).Yields world (some (.failed (.panicked message))) requests) ∧
      (∃ deferred, program.runDeferred backend world = (some (.ok deferred), world) ∧
        deferred.force.Yields world meant.outcome requests) ∧
      (program.runAsync backend).Yields world meant.outcome requests ∧
      ∀ outcome, meant.outcome = some outcome → ∃ enough, ∀ looks, enough < looks.length →
        let looked := ProgramStream.pollAll backend looks (program.stream backend) world
        looked.2.2.requests = world.requests ++ requests ∧
          ∃ early late, early ≤ enough ∧ looks.length = early + 1 + late ∧
            looked.1 = List.replicate early .pending ++ .item outcome ::
              List.replicate late (ProgramStream.afterwards outcome) := by
  intro meant requests
  have direct : (program.runDirect backend).Yields world meant.outcome requests :=
    Blocking.job_agrees plays program related world rfl
  have async : (program.runAsync backend).Yields world meant.outcome requests :=
    Reactive.job_agrees plays program related world rfl
  have captured := Strategy.capture_yields direct
  refine ⟨direct, captured, ?_, ⟨_, rfl, direct⟩, async, ?_⟩
  · intro message panicked
    rw [panicked] at captured
    exact captured
  intro outcome found
  have ends := Job.advance_of_toAction (async.1.trans found)
  refine ⟨(Reactive.job backend.describes program).looks backend world, ?_⟩
  intro looks enough looked
  obtain ⟨early, late, bound, count, polled⟩ := ProgramStream.pollAll_finds backend looks ends enough
  have same : looked = _ := polled
  rw [same]
  exact ⟨async.2, early, late, bound, count, rfl⟩

/-- A script whose begin takes its time and whose second statement is refused, and a program that panics after its
first statement. -/
theorem Program.strategies_agree_rollback :
    let backend := Script.backend false
    let world : World Script.State Nat := .ofState {
      acquire := [], begin := [⟨.polls 2, .ok (), []⟩], commit := [], rollback := [], update := []
      updateReturning := [.ofOutcome (.failed (.backend "unique"))], query := [], lent := 0 }
    let statement : Statement := ⟨"insert into t values (1)", []⟩
    let program : Program (Option Row) :=
      (updateCount statement).bind fun _ => .step ⟨.updateReturning "id", statement⟩ .ok
    let panicking : Program Nat := (updateCount statement).tryMap fun _ => .panicked (.message "boom")
    let requests := [.update statement, .begin, .updateReturning statement "id", .rollback]
    (program.runDirect backend).Yields world (some (.failed (.backend "unique"))) requests ∧
      (program.runAsync backend).Yields world (some (.failed (.backend "unique"))) requests ∧
      (panicking.runDirect backend).Yields world (some (.panicked (.message "boom"))) [.update statement] ∧
      (panicking.runCaptured backend).Yields world (some (.failed (.panicked "boom"))) [.update statement] ∧
      (panicking.runAsync backend).Yields world (some (.panicked (.message "boom"))) [.update statement] := by
  intro backend world statement program panicking requests
  have related : Script.Stage world.state world.state := ⟨rfl, nofun, rfl⟩
  have ends : ((Script.session false).interpret program world.state).outcome = some (.failed (.backend "unique")) := by
    rw [Session.interpret, dialogue_eq_meaning]
    rfl
  have asked : ((Script.session false).interpret program world.state).requests = requests := by
    rw [Session.interpret, dialogue_eq_meaning]
    rfl
  have panics : ((Script.session false).interpret panicking world.state).outcome =
      some (.panicked (.message "boom")) := by
    rw [Session.interpret, dialogue_eq_meaning]
    rfl
  have before : ((Script.session false).interpret panicking world.state).requests = [.update statement] := by
    rw [Session.interpret, dialogue_eq_meaning]
    rfl
  obtain ⟨direct, _, _, _, async, _⟩ := strategies_agree (Script.backend_plays false) program related
  obtain ⟨raised, _, caught, _, thrown, _⟩ := strategies_agree (Script.backend_plays false) panicking related
  rw [ends, asked] at direct async
  have caught := caught "boom" panics
  rw [panics, before] at raised thrown
  rw [before] at caught
  exact ⟨direct, async, raised, caught, thrown⟩

end SqlProgram
