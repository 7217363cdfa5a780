import SqlProgram.Outcome
import SqlProgram.Program.Leaf
import SqlProgram.Table

/-!
Programs: descriptions of database work, in which later steps depend on the results of earlier ones.
Continuations wait in a queue beside the step that runs first, so a chain of any length stays flat.
-/

namespace SqlProgram

mutual

/-- Database work that yields a value. -/
inductive Program : Type → Type 1 where
  | pure (value : α) : Program α
  | fail (failure : Failure) : Program α
  /-- Work that panics as soon as it is reached. -/
  | panic (cause : Panic) : Program α
  /-- Work that is described only when it is reached. -/
  | suspend (body : Unit → Program α) : Program α
  | step (leaf : Leaf) (read : leaf.Answer → Outcome α) : Program α
  /-- Work followed by what waits for its value. -/
  | queued (head : Program β) (queue : Continuations β α) : Program α

/-- What waits for a value, the first to run first. -/
inductive Continuations : Type → Type → Type 1 where
  | one (next : α → Program β) : Continuations α β
  | snoc (queue : Continuations α β) (next : β → Program γ) : Continuations α γ

end

def Continuations.length : Continuations α β → Nat
  | .one _ => 1
  | .snoc queue _ => queue.length + 1

namespace Program

/-- Runs a program and then what is made of its value. What already failed takes no continuation. -/
def bind (program : Program α) (next : α → Program β) : Program β :=
  match program with
  | .fail failure => .fail failure
  | .queued head queue => .queued head (.snoc queue next)
  | head => .queued head (.one next)

def andThen (first : Program α) (second : Program β) : Program β := first.bind fun _ => second

def ofOutcome : Outcome α → Program α
  | .ok value => .pure value
  | .failed failure => .fail failure
  | .panicked cause => .panic cause

def map (f : α → β) (program : Program α) : Program β := program.bind fun value => .pure (f value)

/-- Changes the value by a function that may refuse it. -/
def tryMap (f : α → Outcome β) (program : Program α) : Program β :=
  program.bind fun value => ofOutcome (f value)

def update (statement : Statement) : Program Unit := .step ⟨.update, statement⟩ fun _ => .ok ()

/-- Changes rows and yields how many. -/
def updateCount (statement : Statement) : Program Nat := .step ⟨.update, statement⟩ .ok

def readOptional (mapper : Row → Outcome α) : Option Row → Outcome (Option α)
  | none => .ok none
  | some row => (mapper row).map some

/-- Changes rows in a transaction of its own and yields a field of the row that was changed. -/
def updateReturning (statement : Statement) (field : Field) :
    Program (Option field.type.Carrier) :=
  .step ⟨.updateReturning field.bareText, statement⟩
    (readOptional fun row => .ofExcept (row.get field))

/-- Exactly one row. -/
def query (statement : Statement) (mapper : Row → Outcome α) : Program α :=
  .step ⟨.query, statement⟩ mapper

def queryOne (statement : Statement) (mapper : Row → Outcome α) : Program (Option α) :=
  .step ⟨.queryOne, statement⟩ (readOptional mapper)

def queryIterable (statement : Statement) (mapper : Row → Outcome α) : Program (List α) :=
  .step ⟨.queryIterable, statement⟩ (Outcome.mapList mapper)

def queryMeta (statement : Statement) (mapper : RowLayout → Outcome α) : Program α :=
  .step ⟨.queryMeta, statement⟩ mapper

/-- How a table differs from the columns of a result; a difference is a value, not a failure. -/
def validate (statement : Statement) (table : Table) : Program (Except SchemaDrift Unit) :=
  queryMeta statement fun layout => .ok (table.validate layout)

/-- The first operation, if it is known before the program runs. -/
def describe : Program α → Option Leaf
  | .step leaf _ => some leaf
  | .queued (.step leaf _) _ => some leaf
  | _ => none

def pending : Program α → Nat
  | .queued _ queue => queue.length
  | _ => 0

def headShown : Program α → String
  | .pure _ => "Program::Pure"
  | .fail failure => "Program::Fail(" ++ failure.shown ++ ")"
  | .panic cause => "Program::Panic(" ++ Text.Escaped.enclose cause.text ++ ")"
  | .suspend _ => "Program::Suspend"
  | .step leaf _ => leaf.shown
  | .queued head _ => head.headShown

def shown (program : Program α) : String :=
  program.headShown ++ if program.pending = 0 then "" else s!" then {program.pending} more"

end Program

end SqlProgram
