import SqlProgram.Placeholder
import SqlProgram.Text.Blank

/-!
Text written by hand, accepted once it is known to leave no quote open and to hold as many
placeholders as its place in a statement wants: an open quote would hide all that follow.
-/

namespace SqlProgram

/-- Accepted text with the given number of placeholders. -/
structure Fragment (placeholders : Nat) where
  text : String
  closed : Placeholder.openAfter none text.toList = none
  counted : Placeholder.count none text.toList = placeholders

namespace Fragment

/-- Accepts a text, or says what is wrong with it; `miscounted` is the refusal of another number of
placeholders. -/
def check (placeholders : Nat) (miscounted : Nat → Rejection) (text : String) :
    Except Rejection (Fragment placeholders) :=
  match closed : Placeholder.openAfter none text.toList with
  | some quote => .error (.unterminatedQuote quote text)
  | none =>
    if counted : Placeholder.count none text.toList = placeholders then
      .ok ⟨text, closed, counted⟩
    else .error (miscounted (Placeholder.count none text.toList))

def checkFilled (placeholders : Nat) (blank : Rejection) (miscounted : Nat → Rejection)
    (text : String) : Except Rejection (Fragment placeholders) :=
  if Text.isBlankText text then .error blank else check placeholders miscounted text

end Fragment

end SqlProgram
