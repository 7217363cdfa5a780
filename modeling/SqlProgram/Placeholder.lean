import SqlProgram.Failure.Rejection

/-!
Placeholders: the question marks of a statement that stand outside string literals and quoted
names. A doubled quote closes its text and opens it again, so it stays inside.
-/

namespace SqlProgram.Placeholder

/-- The quote that is open after a character, given the one open before it. -/
def step (state : Option Quote) (c : Char) : Option Quote :=
  match state with
  | none => Quote.ofChar? c
  | some quote => if c = quote.mark then none else some quote

def openAfter (state : Option Quote) (text : List Char) : Option Quote := text.foldl step state

def isPlaceholder (state : Option Quote) (c : Char) : Bool := state.isNone && c == '?'

/-- The offsets of the placeholders, counted from `offset`. -/
def positions (state : Option Quote) (offset : Nat) : List Char → List Nat
  | [] => []
  | c :: rest =>
    let later := positions (step state c) (offset + 1) rest
    if isPlaceholder state c then offset :: later else later

def count (state : Option Quote) : List Char → Nat
  | [] => 0
  | c :: rest =>
    (if isPlaceholder state c then 1 else 0) + count (step state c) rest

/-- Every placeholder replaced; `replace` is told how many came before it. -/
def substitute (replace : Nat → List Char) (state : Option Quote) (before : Nat) :
    List Char → List Char
  | [] => []
  | c :: rest =>
    if isPlaceholder state c then
      replace before ++ substitute replace (step state c) (before + 1) rest
    else c :: substitute replace (step state c) before rest

theorem length_positions (state : Option Quote) (offset : Nat) (text : List Char) :
    (positions state offset text).length = count state text := by
  induction text generalizing state offset with
  | nil => rfl
  | cons c rest ih =>
    simp only [positions, count]
    split <;> simp [ih]
    omega

theorem openAfter_append (state : Option Quote) (first second : List Char) :
    openAfter state (first ++ second) = openAfter (openAfter state first) second :=
  List.foldl_append

theorem count_append (state : Option Quote) (first second : List Char) :
    count state (first ++ second) = count state first + count (openAfter state first) second := by
  induction first generalizing state with
  | nil => simp [count, openAfter]
  | cons c rest ih =>
    have later : openAfter state (c :: rest) = openAfter (step state c) rest := rfl
    simp only [List.cons_append, count, ih, later]
    omega

end SqlProgram.Placeholder
