import SqlProgram.Event
import SqlProgram.Outcome

/-!
Answers that take their time.
-/

namespace SqlProgram

/-- How long something takes, in looks that come too early. -/
inductive Delay where
  | polls (count : Nat)
  | never
  deriving DecidableEq

namespace Delay

def now : Delay := .polls 0

/-- What is left after one look; nothing once the wait is over. Whoever is patient waits as long as
it takes, but not forever. -/
def left (patient : Bool) : Delay → Option Delay
  | .polls 0 => none
  | .polls (count + 1) => if patient then none else some (.polls count)
  | .never => some .never

def plus : Delay → Delay → Delay
  | .polls first, .polls second => .polls (first + second)
  | _, _ => .never

end Delay

/-- How something that was asked for ends, when, and what is told then. -/
structure Reply (α : Type) where
  delay : Delay
  outcome : Outcome α
  events : List DatabaseEvent

namespace Reply

def ofOutcome (outcome : Outcome α) : Reply α := ⟨.now, outcome, []⟩

/-- A reply that never comes; the outcome is of no account. -/
def silence : Reply α := ⟨.never, .failed (.backend "no reply"), []⟩

def bind (reply : Reply α) (next : α → Outcome β) : Reply β :=
  { reply with outcome := reply.outcome.bind next }

end Reply

inductive Polled (α : Type) where
  | pending
  | item (item : α)
  | ended

end SqlProgram
