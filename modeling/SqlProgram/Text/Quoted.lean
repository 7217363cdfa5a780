/-!
Text between quotes, in which an inner quote is written twice. Main statement: reading gives back
what was enclosed, whatever follows the closing quote.
-/

namespace SqlProgram.Text.Quoted

/-- Every `quote` written twice. -/
def double (quote : Char) : List Char → List Char
  | [] => []
  | c :: rest => if c = quote then quote :: quote :: double quote rest else c :: double quote rest

def enclose (quote : Char) (text : List Char) : List Char :=
  quote :: (double quote text ++ [quote])

/-- What stands before the first quote that is not doubled, and what follows that quote. -/
def readRest (quote : Char) : List Char → Option (List Char × List Char)
  | [] => none
  | [c] => if c = quote then some ([], []) else none
  | c :: d :: rest =>
    if c = quote then
      if d = quote then (readRest quote rest).map fun (text, tail) => (quote :: text, tail)
      else some ([], d :: rest)
    else (readRest quote (d :: rest)).map fun (text, tail) => (c :: text, tail)

theorem readRest_length_lt {quote : Char} {input text tail : List Char}
    (read : readRest quote input = some (text, tail)) : tail.length < input.length := by
  fun_induction readRest quote input generalizing text tail with
  | case1 => simp at read
  | case2 => simp at read; simp [← read.2]
  | case3 => simp at read
  | case4 rest ih =>
    obtain ⟨⟨text', tail'⟩, found, same⟩ := Option.map_eq_some_iff.1 read
    have shorter := ih found
    simp only [Prod.mk.injEq] at same
    simp only [← same.2, List.length_cons]
    omega
  | case5 => simp at read; simp [← read.2]
  | case6 _ _ _ _ ih =>
    obtain ⟨⟨text', tail'⟩, found, same⟩ := Option.map_eq_some_iff.1 read
    have shorter := ih found
    simp only [Prod.mk.injEq] at same
    simp only [← same.2, List.length_cons] at shorter ⊢
    omega

theorem readRest_double (quote : Char) (text tail : List Char) (closed : tail.head? ≠ some quote) :
    readRest quote (double quote text ++ quote :: tail) = some (text, tail) := by
  induction text with
  | nil =>
    cases tail with
    | nil => simp [double, readRest]
    | cons c tail =>
      have different : c ≠ quote := by simpa using closed
      simp [double, readRest, different]
  | cons c text ih =>
    by_cases same : c = quote
    · simp [double, readRest, same, ih]
    · cases text with
      | nil => simp_all [double, readRest]
      | cons d text =>
        by_cases inner : d = quote
        · simp_all [double, readRest]
        · simp_all [double, readRest]

/-- Only what was enclosed is read, up to a quote that is not doubled. -/
theorem eq_of_readRest {quote : Char} {input text tail : List Char}
    (read : readRest quote input = some (text, tail)) : input = double quote text ++ quote :: tail := by
  fun_induction readRest quote input generalizing text tail with
  | case1 => simp at read
  | case2 =>
    simp only [Option.some.injEq, Prod.mk.injEq] at read
    obtain ⟨rfl, rfl⟩ := read
    rfl
  | case3 => simp at read
  | case4 rest ih =>
    obtain ⟨⟨text', tail'⟩, found, same⟩ := Option.map_eq_some_iff.1 read
    simp only [Prod.mk.injEq] at same
    obtain ⟨rfl, rfl⟩ := same
    simp [double, ih found]
  | case5 =>
    simp only [Option.some.injEq, Prod.mk.injEq] at read
    obtain ⟨rfl, rfl⟩ := read
    rfl
  | case6 c d rest other ih =>
    obtain ⟨⟨text', tail'⟩, found, same⟩ := Option.map_eq_some_iff.1 read
    simp only [Prod.mk.injEq] at same
    obtain ⟨rfl, rfl⟩ := same
    simp [double, other, ih found]

theorem mem_of_mem_double {quote c : Char} {text : List Char} (member : c ∈ double quote text) : c ∈ text := by
  induction text with
  | nil => exact member
  | cons d rest ih =>
    by_cases same : d = quote
    · simp only [double, same, if_true, List.mem_cons, or_self_left] at member ⊢
      exact member.imp_right ih
    · simp only [double, same, if_false, List.mem_cons] at member ⊢
      exact member.imp_right ih

end SqlProgram.Text.Quoted
