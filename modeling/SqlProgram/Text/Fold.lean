/-!
Comparison that ignores the case of ASCII letters, and of no other letter.
-/

namespace SqlProgram.Text

/-- The text with `A` to `Z` lowered. -/
def foldCase (text : String) : String := String.ofList (text.toList.map Char.toLower)

def sameFolded (left right : String) : Bool := foldCase left == foldCase right

@[simp] theorem sameFolded_self (text : String) : sameFolded text text := by simp [sameFolded]

end SqlProgram.Text
