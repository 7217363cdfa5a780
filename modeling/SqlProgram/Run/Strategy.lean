import SqlProgram.Run.Blocking
import SqlProgram.Run.Reactive

/-!
What a run hands back: its result, its result with panics turned into failures, or the run itself,
to be started later.
-/

namespace SqlProgram

/-- Something done in a world. It has no outcome if it waits forever. -/
abbrev Action (σ κ α : Type) := World σ κ → Option (Outcome α) × World σ κ

namespace Job

def outcome? : Job κ α → Option (Outcome α)
  | .done outcome => some outcome
  | _ => none

def toAction (backend : Backend σ κ) (job : Job κ α) : Action σ κ α := fun world =>
  let (job, world) := job.advance backend true world
  (job.outcome?, world)

end Job

/-- A run that was described and not started. -/
structure Deferred (σ κ α : Type) where
  run : Action σ κ α

namespace Deferred

def force (deferred : Deferred σ κ α) : Action σ κ α := deferred.run

def map (f : α → β) (deferred : Deferred σ κ α) : Deferred σ κ β where
  run world :=
    let (outcome, world) := deferred.run world
    (outcome.map (Outcome.map f), world)

/-- A run that was not started shows nothing of itself. -/
def shown (_deferred : Deferred σ κ α) : String := "Deferred \x7b .. \x7d"

end Deferred

/-- How a blocking run is handed back. -/
inductive Strategy where
  /-- Runs now; the first failure is the result. -/
  | direct
  /-- Runs now; panics are failures, too. -/
  | captured
  /-- Runs when it is forced. -/
  | deferred
  deriving DecidableEq

namespace Strategy

@[reducible] def Output (σ κ α : Type) : Strategy → Type
  | .direct => α
  | .captured => α
  | .deferred => Deferred σ κ α

/-- Turns a panic into a failure that tells its message. -/
def capture (action : Action σ κ α) : Action σ κ α := fun world =>
  match action world with
  | (some (.panicked panic), world) =>
    (some (.failed (.panicked panic.text)), world.add (.told (.panicked panic.text)))
  | other => other

def wrap : (strategy : Strategy) → Action σ κ α → Action σ κ (strategy.Output σ κ α)
  | .direct, action => action
  | .captured, action => capture action
  | .deferred, action => fun world => (some (.ok ⟨action⟩), world)

end Strategy

namespace Program

/-- Runs on one connection, waiting for every answer. -/
def runWith (strategy : Strategy) (backend : Backend σ κ) (program : Program α) :
    Action σ κ (strategy.Output σ κ α) :=
  strategy.wrap ((Blocking.job backend.describes program).toAction backend)

def runDirect (backend : Backend σ κ) (program : Program α) : Action σ κ α :=
  program.runWith .direct backend

def runCaptured (backend : Backend σ κ) (program : Program α) : Action σ κ α :=
  program.runWith .captured backend

def runDeferred (backend : Backend σ κ) (program : Program α) :
    Action σ κ (Deferred σ κ α) :=
  program.runWith .deferred backend

/-- Runs on a connection for each leaf and yields the result. -/
def runAsync (backend : Backend σ κ) (program : Program α) : Action σ κ α :=
  (Reactive.job backend.describes program).toAction backend

end Program

end SqlProgram
