import SqlProgram.Outcome

/-!
Computing with whole numbers of fixed widths. An operation panics if its result has no room, and so does looking at a
place where nothing is.
-/

namespace SqlProgram

namespace Panic

def overflow (operation : String) : Panic := .message s!"attempt to {operation} with overflow"

def outOfBounds (length index : Nat) : Panic :=
  .message s!"index out of bounds: the len is {length} but the index is {index}"

end Panic

def itemAt (items : Array α) (place : Nat) : Outcome α :=
  match items[place]? with
  | some item => .ok item
  | none => .panicked (.outOfBounds items.size place)

/-! Places and lengths have no sign. -/

namespace Size

def settle (operation : String) (value : Nat) : Outcome Nat :=
  if value < UInt64.size then .ok value else .panicked (.overflow operation)

def add (left right : Nat) : Outcome Nat := settle "add" (left + right)

def multiply (left right : Nat) : Outcome Nat := settle "multiply" (left * right)

end Size

namespace Signed

def settle (width : Nat) (operation : String) (value : Int) : Outcome Int :=
  if -Nat.pow 2 (width - 1) ≤ value ∧ value < Nat.pow 2 (width - 1) then .ok value
  else .panicked (.overflow operation)

def subtract (width : Nat) (left right : Int) : Outcome Int := settle width "subtract" (left - right)

def negate (width : Nat) (value : Int) : Outcome Int := settle width "negate" (-value)

/-- The low bits of a number, taken for a number with a sign. -/
def truncate (width : Nat) (value : Int) : Int := value.bmod (Nat.pow 2 width)

end Signed

end SqlProgram
