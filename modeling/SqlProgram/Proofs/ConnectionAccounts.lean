import Mathlib.Data.List.Permutation
import SqlProgram.Proofs.AnsweredRuns
import SqlProgram.Proofs.BlockingAccounts
import SqlProgram.Proofs.ReactiveAccounts
import SqlProgram.Script.Backend

/-!
Accounts of connections. Every connection that was handed out goes back once, and it is discarded
exactly if a transaction may still be open on it, wherever the run ends or is let go of.
-/

namespace SqlProgram

/-- Every run settles its accounts, whatever the backend does. A blocking run asks for one connection,
before its first leaf, whether it ends or waits. An asynchronous run asks for one at each leaf and gives it back before
the next; however often it was looked at, it may be let go of. Where the backend answers every call, all runs end. -/
theorem Program.connections_accounted (backend : Backend σ κ) (program : Program α) (world : World σ κ) :
    (Blocking.AskedOnce world (program.runDirect backend world).2 ∧
        ∀ outcome, (program.runDirect backend world).1 = some outcome →
          Blocking.Accounted world (program.runDirect backend world).2) ∧
      (Blocking.AskedOnce world (program.runCaptured backend world).2 ∧
        ∀ outcome, (program.runCaptured backend world).1 = some outcome →
          Blocking.Accounted world (program.runCaptured backend world).2) ∧
      (∃ deferred, program.runDeferred backend world = (some (.ok deferred), world) ∧
        ∀ later, Blocking.AskedOnce later (deferred.force later).2 ∧
          ∀ outcome, (deferred.force later).1 = some outcome → Blocking.Accounted later (deferred.force later).2) ∧
      (∀ outcome, (program.runAsync backend world).1 = some outcome →
        Reactive.Accounted world (program.runAsync backend world).2) ∧
      (∀ looks,
        let looked := ProgramStream.pollAll backend looks (program.stream backend) world
        Reactive.Accounted world (looked.2.1.drop backend looked.2.2) ∧
          ∀ outcome, .item outcome ∈ looked.1 → Reactive.Accounted world looked.2.2) ∧
      ∀ steady, backend.AnswersIn steady → steady world.state → program.Completes backend world := by
  have blocking := Blocking.job_obeys (κ := κ) backend.describes program
  have direct (later : World σ κ) : Blocking.AskedOnce later (program.runDirect backend later).2 ∧
      ∀ outcome, (program.runDirect backend later).1 = some outcome →
        Blocking.Accounted later (program.runDirect backend later).2 := by
    constructor
    · obtain ⟨_, leads, asked⟩ := Blocking.job_asks backend backend.describes program later
      exact .of_leads leads asked
    · intro outcome ended
      obtain ⟨_, leads, finished⟩ := Job.toAction_obeys backend blocking later ended
      exact .of_leads leads finished
  refine ⟨direct world, ⟨?_, ?_⟩, ⟨_, rfl, direct⟩, ?_, ?_, ?_⟩
  · obtain ⟨_, leads, asked⟩ := Blocking.job_asks backend backend.describes program world
    exact .of_leads (Strategy.capture_leads leads) asked
  · intro outcome ended
    obtain ⟨_, leads, finished⟩ := Strategy.capture_obeys backend blocking world ended
    exact .of_leads leads finished
  · intro outcome ended
    obtain ⟨_, leads, finished⟩ :=
      Job.toAction_obeys backend (Reactive.job_obeys backend.describes program) world ended
    exact .of_leads leads finished
  · intro looks looked
    obtain ⟨_, first, obeys⟩ := ProgramStream.pollAll_obeys backend looks
      (Reactive.stream_obeys backend program) world
    obtain ⟨_, last, finished⟩ := ProgramStream.drop_obeys backend obeys looked.2.2
    have dropped : Reactive.Accounted world (looked.2.1.drop backend looked.2.2) :=
      .of_leads (first.trans last) finished
    refine ⟨dropped, fun outcome found => ?_⟩
    obtain ⟨result, spent⟩ := ProgramStream.pollAll_item backend looks world found
    have same : looked.2.1 = .spent result := spent
    rwa [same, ProgramStream.drop_spent] at dropped
  · intro steady answers steadily
    exact program.completes answers steadily

/-- A connection whose commit fails is discarded by every run, and so is one whose run is let go of in the middle of
a begin. -/
theorem Program.connections_accounted_discarded :
    let backend := Script.backend false
    let world : World Script.State Nat := .ofState {
      acquire := [], begin := [⟨.polls 1, .ok (), []⟩], commit := [.ofOutcome (.failed (.backend "gone"))]
      rollback := [], update := [], updateReturning := [], query := [], lent := 0 }
    let leaf : Leaf := ⟨.updateReturning "id", ⟨"insert into t values (1)", []⟩⟩
    let program : Program (Option Row) := .step leaf .ok
    let dropped := ProgramStream.pollAll backend [false] (program.stream backend) world
    let calls : List (Entry Nat) :=
      [.called 1 .begin, .answered 1 .begin true, .called 1 (.updateReturning leaf.statement "id"),
        .answered 1 (.updateReturning leaf.statement "id") true, .called 1 .commit, .answered 1 .commit false,
        .discarded 1]
    (program.runDirect backend world).1 = some (.failed (.backend "gone")) ∧
      (program.runDirect backend world).2.history.filter Entry.counts =
        .acquiring :: .acquired 1 :: .told (.running leaf) :: calls ∧
      Blocking.AskedOnce world (program.runDirect backend world).2 ∧
      Blocking.Accounted world (program.runDirect backend world).2 ∧
      (program.runAsync backend world).1 = some (.failed (.backend "gone")) ∧
      (program.runAsync backend world).2.history.filter Entry.counts =
        .told (.running leaf) :: .acquiring :: .acquired 1 :: calls ∧
      Reactive.Accounted world (program.runAsync backend world).2 ∧
      Reactive.Accounted world (dropped.2.1.drop backend dropped.2.2) ∧
      program.Completes backend world := by
  intro backend world leaf program dropped calls
  obtain ⟨⟨asked, direct⟩, _, _, async, stream, completes⟩ := connections_accounted backend program world
  have ran : (program.runDirect backend world).1 = some (.failed (.backend "gone")) := by
    rw [runDirect, runWith, Blocking.job, dialogue_eq_meaning]
    cbv
  have ended : (program.runAsync backend world).1 = some (.failed (.backend "gone")) := by
    rw [runAsync, Reactive.job, dialogue_eq_meaning]
    cbv
  have arrives : Script.State.Arrives world.state := by
    have none {α : Type} (holds : α → Prop) : ∀ reply ∈ ([] : List α), holds reply := List.forall_mem_nil holds
    refine ⟨none _, ?_, ?_, none _, none _, none _, none _⟩
    · exact List.forall_mem_singleton.mpr (by simp)
    · exact List.forall_mem_singleton.mpr (by simp [Reply.ofOutcome, Delay.now])
  refine ⟨ran, ?_, asked, direct _ ran, ended, ?_, async _ ended, (stream [false]).1,
    completes Script.State.Arrives (Script.backend_answers false) arrives⟩
  · rw [runDirect, runWith, Blocking.job, dialogue_eq_meaning]
    cbv
  · rw [runAsync, Reactive.job, dialogue_eq_meaning]
    cbv

end SqlProgram
