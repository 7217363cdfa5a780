import SqlProgram.Run.Reactive

/-!
A running program as a stream of one result. Nothing happens until the stream is polled, and letting
go of it gives back what the run holds.
-/

namespace SqlProgram

/-- The rest of a run, until its result was handed out. -/
structure ProgramStream (κ α : Type) where
  running : Option (Job κ α)

namespace ProgramStream

def ofProgram (backend : Backend σ κ) (program : Program α) : ProgramStream κ α :=
  ⟨some (Reactive.job backend.describes program)⟩

def remaining (stream : ProgramStream κ α) : Nat := if stream.running.isSome then 1 else 0

def isTerminated (stream : ProgramStream κ α) : Bool := stream.running.isNone

def shown (stream : ProgramStream κ α) : String :=
  "ProgramStream \x7b terminated: " ++ Value.boolText stream.isTerminated ++ " \x7d"

/-- What a run says that is looked at after it panicked. -/
def resumedPanic : Panic := .message "`async fn` resumed after panicking"

/-- What is left of a run that panicked: it panics again. -/
def poisoned : Job κ α := .done (.panicked resumedPanic)

def poll (backend : Backend σ κ) (patient : Bool) (stream : ProgramStream κ α)
    (world : World σ κ) : Polled (Outcome α) × ProgramStream κ α × World σ κ :=
  match stream.running with
  | none => (.ended, stream, world)
  | some job =>
    match job.advance backend patient world with
    | (.done (.panicked panic), world) => (.item (.panicked panic), ⟨some poisoned⟩, world)
    | (.done outcome, world) => (.item outcome, ⟨none⟩, world)
    | (job, world) => (.pending, ⟨some job⟩, world)

/-- Looks for the result once for each item of the list, which says whether that look waits. -/
def pollAll (backend : Backend σ κ) :
    List Bool → ProgramStream κ α → World σ κ → List (Polled (Outcome α)) × ProgramStream κ α × World σ κ
  | [], stream, world => ([], stream, world)
  | patient :: rest, stream, world =>
    let (polled, stream, world) := stream.poll backend patient world
    let (later, stream, world) := pollAll backend rest stream world
    (polled :: later, stream, world)

def drop (backend : Backend σ κ) (stream : ProgramStream κ α) (world : World σ κ) : World σ κ :=
  match stream.running with
  | none => world
  | some job => backend.drop job world

end ProgramStream

namespace Program

def stream (backend : Backend σ κ) (program : Program α) : ProgramStream κ α :=
  .ofProgram backend program

end Program

end SqlProgram
