import SqlProgram.Failure.Basic

/-!
How a computation ends: with a value, with a failure that is passed on, or in a panic that unwinds
everything up to whoever catches it.
-/

namespace SqlProgram

/-- What a panic carries; only a message can be told to others. -/
inductive Panic where
  | message (text : String)
  | other

def Panic.text : Panic → String
  | .message text => text
  | .other => "non-string panic payload"

inductive Outcome (α : Type) where
  | ok (value : α)
  | failed (failure : Failure)
  | panicked (panic : Panic)

namespace Outcome

def ofExcept : Except Failure α → Outcome α
  | .ok value => .ok value
  | .error failure => .failed failure

def isOk : Outcome α → Bool
  | .ok _ => true
  | _ => false

def map (f : α → β) : Outcome α → Outcome β
  | .ok value => .ok (f value)
  | .failed failure => .failed failure
  | .panicked panic => .panicked panic

def bind (outcome : Outcome α) (next : α → Outcome β) : Outcome β :=
  match outcome with
  | .ok value => next value
  | .failed failure => .failed failure
  | .panicked panic => .panicked panic

instance : Monad Outcome where
  pure := .ok
  bind := bind

/-- Every item mapped in order, up to the first that fails or panics. -/
def mapList (f : α → Outcome β) : List α → Outcome (List β)
  | [] => .ok []
  | item :: items => (f item).bind fun value => (mapList f items).map (value :: ·)

end Outcome

end SqlProgram
