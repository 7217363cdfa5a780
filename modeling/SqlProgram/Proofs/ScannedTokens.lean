import SqlProgram.Proofs.ByteScan
import SqlProgram.Proofs.QuotedTokens
import SqlProgram.Statement.Draft

/-!
The scanner beside the grammar of quotes. A relation says how a text is read in tokens; a scan finds the question marks
that are tokens of their own, and the quote of a last token that does not end. What is accepted by hand follows from it.
-/

namespace SqlProgram

open Placeholder

/-- A text read in tokens. Within quotes a quote is written twice; one that is not doubled ends the token. -/
inductive Lexes : List Char → List Token → Prop where
  | nil : Lexes [] []
  | char {c : Char} {rest : List Char} {lexed : List Token} (plain : Quote.ofChar? c = none)
      (later : Lexes rest lexed) : Lexes (c :: rest) (.char c :: lexed)
  | quoted {quote : Quote} {content tail : List Char} {lexed : List Token} (ends : tail.head? ≠ some quote.mark)
      (later : Lexes tail lexed) :
      Lexes (Text.Quoted.enclose quote.mark content ++ tail) (.quoted quote content :: lexed)
  | opened (quote : Quote) (content : List Char) :
      Lexes (quote.mark :: Text.Quoted.double quote.mark content)
        [.opened quote (Text.Quoted.double quote.mark content)]

namespace Text.Quoted

theorem head_of_readRest {quote : Char} {input content tail : List Char}
    (read : readRest quote input = some (content, tail)) : tail.head? ≠ some quote := by
  fun_induction readRest quote input generalizing content tail with
  | case1 => cases read
  | case2 =>
    cases read
    intro same
    cases same
  | case3 => cases read
  | case4 rest ih =>
    obtain ⟨⟨inner, after⟩, found, same⟩ := Option.map_eq_some_iff.mp read
    cases same
    exact ih found
  | case5 d rest other =>
    cases read
    exact fun same => other (Option.some.inj same)
  | case6 c d rest other ih =>
    obtain ⟨⟨inner, after⟩, found, same⟩ := Option.map_eq_some_iff.mp read
    cases same
    exact ih found

theorem exists_double_iff (quote : Char) (input : List Char) :
    (∃ content, input = double quote content) ↔ readRest quote input = none := by
  constructor
  · rintro ⟨content, rfl⟩
    induction content with
    | nil => rfl
    | cons c content ih =>
      by_cases same : c = quote
      · simp [double, readRest, same, ih]
      · cases content with
        | nil => simp [double, readRest, same]
        | cons d content =>
          simp only [double, same, if_false]
          split <;> simp_all [double, readRest]
  · intro unread
    fun_induction readRest quote input with
    | case1 => exact ⟨[], rfl⟩
    | case2 => cases unread
    | case3 c other => exact ⟨[c], by simp [double, other]⟩
    | case4 rest ih =>
      obtain ⟨content, rfl⟩ := ih (Option.map_eq_none_iff.mp unread)
      exact ⟨quote :: content, by simp [double]⟩
    | case5 => cases unread
    | case6 c d rest other ih =>
      obtain ⟨content, same⟩ := ih (Option.map_eq_none_iff.mp unread)
      exact ⟨c :: content, by simp [double, other, same]⟩

end Text.Quoted

theorem tokens_opened (quote : Quote) {rest : List Char} (unread : Text.Quoted.readRest quote.mark rest = none) :
    tokens (quote.mark :: rest) = [.opened quote rest] := by
  rw [tokens]
  simp only [Quote.ofChar?_mark]
  split
  next => rfl
  next found =>
    rw [unread] at found
    cases found

theorem lexes_tokens (text : List Char) : Lexes text (tokens text) := by
  fun_induction tokens text with
  | case1 => exact .nil
  | case2 c rest plain ih => exact .char plain ih
  | case3 c rest quote opens unread =>
    obtain ⟨content, rfl⟩ := (Text.Quoted.exists_double_iff quote.mark rest).mpr unread
    rw [Quote.ofChar?_eq_some_iff.mp opens]
    exact .opened quote content
  | case4 c rest quote opens content tail found ih =>
    have shape : c :: rest = Text.Quoted.enclose quote.mark content ++ tail := by
      rw [Quote.ofChar?_eq_some_iff.mp opens, Text.Quoted.eq_of_readRest found]
      simp [Text.Quoted.enclose]
    rw [shape]
    exact .quoted (Text.Quoted.head_of_readRest found) ih

/-- There is one way to read a text. -/
theorem lexes_iff (text : List Char) (lexed : List Token) : Lexes text lexed ↔ lexed = tokens text := by
  constructor
  · intro reads
    induction reads with
    | nil => rw [tokens]
    | char plain later ih => rw [tokens_plain plain, ih]
    | quoted ends later ih => rw [tokens_enclose _ _ ends, ih]
    | opened quote content =>
      rw [tokens_opened quote ((Text.Quoted.exists_double_iff quote.mark _).mp ⟨content, rfl⟩)]
  · rintro rfl
    exact lexes_tokens text

/-- The byte offsets of the question marks that stand outside quotes. -/
def questionMarks (offset : Nat) : List Token → List Nat
  | [] => []
  | token :: later =>
    let others := questionMarks (offset + String.utf8Len token.chars) later
    if token = .char '?' then offset :: others else others

def openQuote? (lexed : List Token) : Option Quote :=
  match lexed.getLast? with
  | some (.opened quote _) => some quote
  | _ => none

theorem openQuote?_cons {token : Token} (closed : token.IsClosed) (later : List Token) :
    openQuote? (token :: later) = openQuote? later := by
  cases later with
  | nil =>
    cases token with
    | opened => cases closed
    | char | quoted => rfl
  | cons => rfl

theorem length_questionMarks (offset : Nat) (lexed : List Token) :
    (questionMarks offset lexed).length = lexed.count (.char '?') := by
  induction lexed generalizing offset with
  | nil => rfl
  | cons token later ih =>
    rw [questionMarks, List.count_cons]
    split <;> simp_all

namespace Lexes

theorem positions_eq {text : List Char} {lexed : List Token} (reads : Lexes text lexed) (offset : Nat) :
    positions none offset (text.flatMap Text.bytesOf) = questionMarks offset lexed := by
  induction reads generalizing offset with
  | nil => rfl
  | @char c rest lexed plain later ih =>
    have stays : step none c = none := plain
    have size : String.utf8Len (Token.char c).chars = c.utf8Size := by simp [Token.chars]
    rw [positions_bytes_cons, stays, ih, questionMarks, size]
    by_cases mark : c = '?' <;> simp [isPlaceholder, mark]
  | @quoted quote content tail lexed ends later ih =>
    have holds := Holds.enclose quote content
    have inside : positions none offset ((Text.Quoted.enclose quote.mark content).flatMap Text.bytesOf) = [] := by
      rw [← List.length_eq_zero_iff, length_positions, count_bytes, holds.counted]
    rw [List.flatMap_append, positions_append, openAfter_bytes, holds.closed, inside, Text.length_bytes, ih]
    rfl
  | opened quote content =>
    have first : step none quote.mark = some quote := Quote.ofChar?_mark quote
    have apart : quote.mark ≠ '?' := by cases quote <;> decide
    have hidden : count none (quote.mark :: Text.Quoted.double quote.mark content) = 0 := by
      simp [count, isPlaceholder, apart, first, (inside_double quote content).2]
    rw [List.length_eq_zero_iff.mp ((length_positions ..).trans ((count_bytes ..).trans hidden))]
    rfl

theorem openAfter_eq {text : List Char} {lexed : List Token} (reads : Lexes text lexed) :
    openAfter none text = openQuote? lexed := by
  induction reads with
  | nil => rfl
  | @char c rest lexed plain later ih =>
    have stays : step none c = none := plain
    have kept : openAfter none (c :: rest) = openAfter (step none c) rest := rfl
    have closed : (Token.char c).IsClosed := plain
    rw [kept, stays, ih, openQuote?_cons closed]
  | @quoted quote content tail lexed ends later ih =>
    have closed : (Token.quoted quote content).IsClosed := trivial
    rw [openAfter_append, (Holds.enclose quote content).closed, ih, openQuote?_cons closed]
  | opened quote content =>
    have first : step none quote.mark = some quote := Quote.ofChar?_mark quote
    have kept (rest : List Char) : openAfter none (quote.mark :: rest) = openAfter (step none quote.mark) rest := rfl
    rw [kept, first, (inside_double quote content).1]
    rfl

theorem scan_eq {text : String} {lexed : List Token} (reads : Lexes text.toList lexed) :
    scan text = (questionMarks 0 lexed, openQuote? lexed) := by
  rw [scan, Text.bytewise_eq, reads.positions_eq, openAfter_bytes, reads.openAfter_eq]

theorem count_eq {text : List Char} {lexed : List Token} (reads : Lexes text lexed) :
    count none text = lexed.count (.char '?') := by
  rw [← count_bytes, ← length_positions none 0, reads.positions_eq, length_questionMarks]

end Lexes

/-- A text is accepted as it stands if it meets the demand, and is rejected if not. -/
structure AcceptedIff (made : Except Rejection α) (chars : α → List Char) (text : String) (demand : Prop) : Prop where
  accepted : demand → ∃ value, made = .ok value ∧ chars value = text.toList
  rejected : ¬ demand → ∃ rejection, made = .error rejection

theorem AcceptedIff.map {made : Except Rejection α} {chars : α → List Char} {text : String} {demand : Prop}
    (accepts : AcceptedIff made chars text demand) (wrap : α → β) {written : β → List Char}
    (same : ∀ value, written (wrap value) = chars value) : AcceptedIff (made.map wrap) written text demand where
  accepted met := by
    obtain ⟨value, rfl, kept⟩ := accepts.accepted met
    exact ⟨wrap value, rfl, (same value).trans kept⟩
  rejected unmet := by
    obtain ⟨rejection, rfl⟩ := accepts.rejected unmet
    exact ⟨rejection, rfl⟩

namespace Fragment

theorem check_accepted {n : Nat} {text : String} (miscounted : Nat → Rejection)
    (closed : openAfter none text.toList = none) (counted : count none text.toList = n) :
    check n miscounted text = .ok ⟨text, closed, counted⟩ := by
  unfold check
  split
  next quote opened => rw [closed] at opened; cases opened
  next => exact dif_pos counted

theorem check_refused {n : Nat} {text : String} (miscounted : Nat → Rejection)
    (wrong : ¬(openAfter none text.toList = none ∧ count none text.toList = n)) :
    ∃ rejection, check n miscounted text = .error rejection := by
  unfold check
  split
  next quote opened => exact ⟨_, rfl⟩
  next closed => exact ⟨_, dif_neg fun counted => wrong ⟨closed, counted⟩⟩

theorem check_accepts (placeholders : Nat) (miscounted : Nat → Rejection) {text : String} {lexed : List Token}
    (reads : Lexes text.toList lexed) :
    AcceptedIff (check placeholders miscounted text) (·.text.toList) text
      (openQuote? lexed = none ∧ lexed.count (.char '?') = placeholders) := by
  rw [← reads.openAfter_eq, ← reads.count_eq]
  refine ⟨fun met => ?_, check_refused miscounted⟩
  obtain ⟨closed, counted⟩ := met
  exact ⟨⟨text, closed, counted⟩, check_accepted miscounted closed counted, rfl⟩

theorem checkFilled_accepts (placeholders : Nat) (blank : Rejection) (miscounted : Nat → Rejection) {text : String}
    {lexed : List Token} (reads : Lexes text.toList lexed) :
    AcceptedIff (checkFilled placeholders blank miscounted text) (·.text.toList) text
      (Text.isBlankText text = false ∧ openQuote? lexed = none ∧ lexed.count (.char '?') = placeholders) := by
  have accepts := check_accepts placeholders miscounted reads
  cases filled : Text.isBlankText text with
  | true =>
    rw [checkFilled, if_pos filled]
    exact ⟨nofun, fun _ => ⟨blank, rfl⟩⟩
  | false =>
    rw [checkFilled, if_neg (by simp [filled])]
    exact ⟨fun met => accepts.accepted met.2, fun unmet => accepts.rejected fun met => unmet ⟨rfl, met⟩⟩

end Fragment

/-- There is one way to read a text. A scan of its bytes, and one of its characters, find the question marks outside
quotes and the quote of a last token that does not end. What is accepted by hand depends on these, and on whether the
text is blank. -/
theorem scan_lexes (text : String) :
    ∃ lexed, (∀ other, Lexes text.toList other ↔ other = lexed) ∧
      scan text = (questionMarks 0 lexed, openQuote? lexed) ∧
      (positions none 0 text.toList).map (fun place => String.utf8Len (text.toList.take place)) =
        questionMarks 0 lexed ∧
      openAfter none text.toList = openQuote? lexed ∧
      AcceptedIff (Start.ofText text) Start.chars text
        (Text.isBlankText text = false ∧ openQuote? lexed = none ∧ lexed.count (.char '?') = 0) ∧
      AcceptedIff (Clause.ofText text) Clause.chars text
        (openQuote? lexed = none ∧ lexed.count (.char '?') = 0) ∧
      AcceptedIff (Predicate.of text) Predicate.chars text
        (Text.isBlankText text = false ∧ openQuote? lexed = none ∧ lexed.count (.char '?') = 0) ∧
      AcceptedIff (Condition.of text) Condition.chars text
        (Text.isBlankText text = false ∧ openQuote? lexed = none ∧ lexed.count (.char '?') = 1) := by
  have reads := lexes_tokens text.toList
  have places := congrArg Prod.fst ((Placeholder.scan_eq text).symm.trans reads.scan_eq)
  refine ⟨tokens text.toList, lexes_iff text.toList, reads.scan_eq, places, reads.openAfter_eq, ?_, ?_, ?_, ?_⟩
  · exact (Fragment.checkFilled_accepts 0 _ _ reads).map Start.sql fun _ => rfl
  · exact (Fragment.check_accepts 0 _ reads).map Clause.raw fun _ => rfl
  · exact (Fragment.checkFilled_accepts 0 _ _ reads).map Predicate.written fun _ => rfl
  · exact (Fragment.checkFilled_accepts 1 _ _ reads).map Condition.written fun _ => rfl

end SqlProgram
