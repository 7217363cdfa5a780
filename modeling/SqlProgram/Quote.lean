/-!
The two marks that open quoted text in SQL: one for string literals, one for identifiers.
-/

namespace SqlProgram

inductive Quote where
  | single
  | double
  deriving DecidableEq

namespace Quote

/-- The character of a mark; it closes what it opened. -/
def mark : Quote → Char
  | .single => '\''
  | .double => '"'

def name : Quote → String
  | .single => "single"
  | .double => "double"

def ofChar? (c : Char) : Option Quote :=
  if c = '\'' then some .single else if c = '"' then some .double else none

@[simp] theorem ofChar?_mark (quote : Quote) : ofChar? quote.mark = some quote := by
  cases quote <;> rfl

theorem ofChar?_eq_some_iff {c : Char} {quote : Quote} : ofChar? c = some quote ↔ c = quote.mark := by
  constructor
  · intro found
    unfold ofChar? at found
    split at found
    · cases found; assumption
    · split at found
      · cases found; assumption
      · cases found
  · rintro rfl
    simp

end Quote

end SqlProgram
