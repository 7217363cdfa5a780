import SqlProgram.Proofs.PlaceholderBalance

/-!
Text in tokens: single characters, and what stands in quotes, where a quote that is doubled does not end
it. Writing the tokens of a text out gives the text.
-/

namespace SqlProgram

inductive Token where
  | char (c : Char)
  | quoted (quote : Quote) (content : List Char)
  /-- The rest of a text that leaves a quote open. -/
  | opened (quote : Quote) (rest : List Char)
  deriving DecidableEq

namespace Token

def chars : Token → List Char
  | .char c => [c]
  | .quoted quote content => Text.Quoted.enclose quote.mark content
  | .opened quote rest => quote.mark :: rest

/-- A token without what stands in its quotes. -/
def outline : Token → List Char
  | .char c => [c]
  | .quoted quote _ => [quote.mark, quote.mark]
  | .opened quote _ => [quote.mark]

end Token

def tokens : List Char → List Token
  | [] => []
  | c :: rest =>
    match Quote.ofChar? c with
    | none => .char c :: tokens rest
    | some quote =>
      match _found : Text.Quoted.readRest quote.mark rest with
      | none => [.opened quote rest]
      | some (content, tail) => .quoted quote content :: tokens tail
termination_by text => text.length
decreasing_by
  · simp
  · have shorter := Text.Quoted.readRest_length_lt _found
    simp only [List.length_cons]
    omega

/-- A text with the contents of all its quotes left out. -/
def blanked (text : List Char) : List Char := (tokens text).flatMap Token.outline

theorem tokens_plain {c : Char} (plain : Quote.ofChar? c = none) (rest : List Char) :
    tokens (c :: rest) = .char c :: tokens rest := by
  rw [tokens]
  simp only [plain]

theorem tokens_enclose (quote : Quote) (content : List Char) {tail : List Char}
    (closed : tail.head? ≠ some quote.mark) :
    tokens (Text.Quoted.enclose quote.mark content ++ tail) = .quoted quote content :: tokens tail := by
  have read := Text.Quoted.readRest_double quote.mark content tail closed
  have shape : Text.Quoted.enclose quote.mark content ++ tail =
      quote.mark :: (Text.Quoted.double quote.mark content ++ quote.mark :: tail) := by
    simp [Text.Quoted.enclose]
  rw [shape, tokens]
  simp only [Quote.ofChar?_mark]
  split
  next none => rw [read] at none; cases none
  next found =>
    rw [read] at found
    cases found
    rfl

theorem tokens_enclosed (quote : Quote) (content : List Char) :
    tokens (Text.Quoted.enclose quote.mark content) = [.quoted quote content] := by
  have alone : tokens (Text.Quoted.enclose quote.mark content ++ []) = .quoted quote content :: tokens [] :=
    tokens_enclose quote content nofun
  rwa [List.append_nil, tokens] at alone

theorem flatMap_chars_tokens (text : List Char) : (tokens text).flatMap Token.chars = text := by
  fun_induction tokens text with
  | case1 => rfl
  | case2 c rest plain ih => simp [Token.chars, ih]
  | case3 c rest quote opens unread =>
    simp [Token.chars, Quote.ofChar?_eq_some_iff.mp opens]
  | case4 c rest quote opens content tail found ih =>
    simp [Token.chars, Text.Quoted.enclose, ih, Text.Quoted.eq_of_readRest found,
      Quote.ofChar?_eq_some_iff.mp opens]

/-! The tokens tell what the scanner of placeholders finds. -/

def Token.IsClosed : Token → Prop
  | .char c => Quote.ofChar? c = none
  | .quoted _ _ => True
  | .opened _ _ => False

def Token.placeholders : Token → Nat
  | .char c => if c = '?' then 1 else 0
  | _ => 0

open Placeholder

theorem Token.IsClosed.holds {token : Token} (closed : token.IsClosed) : Holds token.chars token.placeholders := by
  cases token with
  | char c =>
    have plain : Quote.ofChar? c = none := closed
    exact ⟨plain, by simp [chars, count, isPlaceholder, placeholders]⟩
  | quoted quote content => exact .enclose quote content
  | opened => exact closed.elim

theorem openAfter_unread {quote : Quote} {rest : List Char}
    (unread : Text.Quoted.readRest quote.mark rest = none) : openAfter (some quote) rest = some quote := by
  have closes : step (some quote) quote.mark = none := by simp [step]
  have opens : step none quote.mark = some quote := by simp [step]
  fun_induction Text.Quoted.readRest quote.mark rest with
  | case1 => rfl
  | case2 => cases unread
  | case3 c other => simp [openAfter, step, other]
  | case4 rest ih =>
    have inside := ih (Option.map_eq_none_iff.mp unread)
    simp only [openAfter, List.foldl_cons, closes, opens]
    exact inside
  | case5 => cases unread
  | case6 c d rest other ih =>
    have stays : step (some quote) c = some quote := by simp [step, other]
    have inside := ih (Option.map_eq_none_iff.mp unread)
    simp only [openAfter, List.foldl_cons, stays] at inside ⊢
    exact inside

theorem openAfter_none_iff (text : List Char) :
    openAfter none text = none ↔ ∀ token ∈ tokens text, token.IsClosed := by
  fun_induction tokens text with
  | case1 => exact iff_of_true rfl fun _ => nofun
  | case2 c rest plain ih =>
    have first : openAfter none (c :: rest) = openAfter (Quote.ofChar? c) rest := rfl
    rw [first, plain, List.forall_mem_cons, ih]
    exact (and_iff_right plain).symm
  | case3 c rest quote opens unread =>
    have first : openAfter none (c :: rest) = openAfter (Quote.ofChar? c) rest := rfl
    rw [first, opens, openAfter_unread unread, List.forall_mem_singleton]
    exact iff_of_false nofun id
  | case4 c rest quote opens content tail found ih =>
    have first : openAfter none (c :: rest) = openAfter (Quote.ofChar? c) rest := rfl
    have leaves : openAfter (some quote) (quote.mark :: tail) = openAfter none tail := by simp [openAfter, step]
    rw [first, opens, Text.Quoted.eq_of_readRest found, openAfter_append, (inside_double quote content).1, leaves,
      List.forall_mem_cons, ih]
    exact (and_iff_right trivial).symm

end SqlProgram
