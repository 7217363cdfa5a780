import Mathlib.Data.List.Permutation
import SqlProgram.Proofs.ExclusiveLoans
import SqlProgram.Script.Backend

/-!
Runs that share a backend are isolated. As long as no connection is handed out that is still on loan, none is held by
two runs at once, and inside a transaction nobody calls anything but the leaf that began it.
-/

namespace SqlProgram

def Task.connection? : Task κ α → Option κ
  | .running job => job.held.connection?
  | .leaving held => held.connection?

theorem Task.lends_of_obeys {task : Task κ α} {stage : Reactive.Stage κ} (obeys : task.Obeys Reactive.accounts stage)
    (holds : task.connection? = some connection) : stage.Lends connection := by
  cases task with
  | running job => exact Reactive.lends_of_obeys obeys holds
  | leaving held => exact Reactive.lends_of_drops obeys holds

namespace Shared

variable {ι : Type} [DecidableEq ι] {α : ι → Type} {shared : Shared σ κ α}

def described (backend : Backend σ κ) (programs : ∀ run, Program (α run)) (state : σ) : Shared σ κ α where
  state := state
  tasks run := .running (.pause .nothing .now [] (Reactive.job backend.describes (programs run)))
  said := []

structure Isolated (shared : Shared σ κ α) : Prop where
  /-- At no time is a connection on loan to two runs. -/
  alone : ∀ before after, shared.said = before ++ after → ∀ run other connection,
    OnLoan connection (own run before) → OnLoan connection (own other before) → run = other
  /-- Wherever a run stands, what it holds is on loan to it. -/
  held : ∀ run connection, (shared.tasks run).connection? = some connection → OnLoan connection (own run shared.said)
  /-- A run uses and gives back only what is on loan to it. -/
  uses : ∀ before run entry after connection, shared.said = before ++ (run, entry) :: after →
    entry.Uses connection → OnLoan connection (own run before)
  /-- From a begin until the transaction is closed, all calls on the connection are those of the leaf that began it. -/
  transactions : ∀ before run connection after, shared.said = before ++ (run, .called connection .begin) :: after →
    ∃ leaf column, leaf.kind = .updateReturning column ∧ Latest leaf (own run before) ∧
      ∀ middle other call rest, after = middle ++ (other, .called connection call) :: rest →
        (∀ spoken ∈ middle, ¬ spoken.2.Closes connection) →
          other = run ∧ (∀ entry ∈ own run middle, entry.isLeaf = false) ∧
            (call = .updateReturning leaf.statement column ∨ call = .commit ∨ call = .rollback)

theorem Isolated.of_faithful (exclusive : Exclusive (shared.said.map Prod.snd)) (faithful : Faithful shared.said)
    (held : ∀ run connection, (shared.tasks run).connection? = some connection →
      OnLoan connection (own run shared.said)) : shared.Isolated := by
  have apart (before after : List (ι × Entry κ)) (split : shared.said = before ++ after) : Apart before := by
    rw [split, List.map_append] at exclusive
    rw [split] at faithful
    exact faithful.before.apart exclusive.before
  refine ⟨fun before after split => (apart before after split).alone, held, ?_, ?_⟩
  · intro before run entry after connection split uses
    rw [split] at faithful
    exact faithful.onLoan uses
  · intro before run connection after split
    rw [split] at faithful
    have whole := faithful run
    rw [own_append, own_cons_self] at whole
    obtain ⟨leaf, transaction, latest, asks⟩ := whole.asks
    obtain ⟨column, kind⟩ := leaf.kind_of_transaction transaction
    refine ⟨leaf, column, kind, latest, ?_⟩
    rintro middle other call rest rfl opened
    rw [← List.cons_append, ← List.append_assoc] at faithful split
    obtain ⟨kept, stays⟩ := faithful.before.begun opened
    -- Both runs hold the connection when the call is made.
    have same := (apart _ _ split).alone other run connection (faithful.onLoan rfl) kept
    subst same
    refine ⟨rfl, stays, (asks (own other middle) connection call (own other rest) ?_ stays).cases kind⟩
    rw [own_append, own_cons_self]

end Shared

/-- Runs of any programs over one backend are isolated, however they take turns and whoever is cancelled, if the
backend hands out no connection that is still on loan. -/
theorem Program.runs_isolated {ι : Type} [DecidableEq ι] {α : ι → Type} (backend : Backend σ κ)
    (programs : ∀ run, Program (α run)) (state : σ) (schedule : List (ι × Move))
    (exclusive : Exclusive (((Shared.described backend programs state).play backend schedule).said.map Prod.snd)) :
    ((Shared.described backend programs state).play backend schedule).Isolated := by
  have accounted : (Shared.described backend programs state).Keeps Reactive.accounts .idle := by
    intro run
    exact ⟨.idle, .nil, trivial, .idle, .nil, Reactive.job_obeys backend.describes (programs run)⟩
  have called : (Shared.described backend programs state).Keeps Reactive.calls .nobody := by
    intro run
    exact ⟨.nobody, .nil, trivial, .nobody, .nil, Reactive.job_calls backend.describes (programs run)⟩
  refine .of_faithful exclusive (fun run => ?_) fun run connection holds => ?_
  · obtain ⟨stage, first, _⟩ := accounted.play backend schedule run
    obtain ⟨caller, second, _⟩ := called.play backend schedule run
    exact ⟨⟨stage, first⟩, caller, second⟩
  · obtain ⟨stage, runs, obeys⟩ := accounted.play backend schedule run
    exact Reactive.onLoan_of_runs runs (Task.lends_of_obeys obeys holds)

/-- Three runs over a pool of two connections: the first is cancelled in the middle of its begin, and the third gets the
connection that the second gave back. -/
theorem Program.runs_isolated_pool :
    let backend : Backend (List Nat × Script.State) Nat := {
      acquire := fun pool =>
        match pool.1 with
        | [] => (.silence, pool)
        | connection :: free => (.ofOutcome (.ok connection), free, pool.2)
      call := fun _ call pool => ((Script.answer call pool.2).1, pool.1, (Script.answer call pool.2).2)
      release := fun connection pool => (connection :: pool.1, pool.2)
      discard := fun _ pool => ([], pool)
      describes := false }
    let script : Script.State := {
      acquire := [], begin := [⟨.polls 1, .ok (), []⟩], commit := [], rollback := [], update := []
      updateReturning := [], query := [], lent := 0 }
    let statement : Statement := ⟨"insert into t values (1)", []⟩
    let leaf : Leaf := ⟨.updateReturning "id", statement⟩
    let programs : Nat → Program (Option Row) := fun _ => .step leaf .ok
    let schedule := List.replicate 6 (0, Move.look false) ++ List.replicate 11 (1, .look false) ++
      List.replicate 6 (2, .look false) ++ [(0, .cancel), (2, .look false), (0, .look false)]
    let after := (Shared.described backend programs ([7, 8], script)).play backend schedule
    Exclusive (after.said.map Prod.snd) ∧
      after.said.filter (fun spoken => spoken.2.counts) =
        [(0, .told (.running leaf)), (0, .acquiring), (0, .acquired 7), (0, .called 7 .begin),
          (1, .told (.running leaf)), (1, .acquiring), (1, .acquired 8),
          (1, .called 8 .begin), (1, .answered 8 .begin true),
          (1, .called 8 (.updateReturning statement "id")), (1, .answered 8 (.updateReturning statement "id") true),
          (1, .called 8 .commit), (1, .answered 8 .commit true), (1, .released 8),
          (2, .told (.running leaf)), (2, .acquiring), (2, .acquired 8),
          (2, .called 8 .begin), (2, .answered 8 .begin true),
          (2, .called 8 (.updateReturning statement "id")), (0, .discarded 7)] ∧
      after.Isolated := by
  intro backend script statement leaf programs schedule after
  have exclusive : Exclusive (after.said.map Prod.snd) := by
    apply of_decide_eq_true
    cbv
  refine ⟨exclusive, ?_, Program.runs_isolated backend programs _ schedule exclusive⟩
  cbv

end SqlProgram
