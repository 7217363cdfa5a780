import SqlProgram.Proofs.PlaceholderBalance
import SqlProgram.Statement.Basic

/-!
References to parameters as a PostgreSQL server reads them: a dollar that does not belong to a word, and the digits
after it. A text is tidy if numbering its placeholders gives each a reference of its own and there are no others.
-/

namespace SqlProgram

open Placeholder

/-- The numbers of the references in a text, as they are written. `word` says whether a character of a word comes
before the text. -/
def references (state : Option Quote) (word : Bool) : List Char → List (List Char)
  | [] => []
  | c :: rest =>
    let number := rest.takeWhile Char.isDigit
    let later := references (step state c) (isWordPart c) rest
    if state.isNone && c == '$' && !word && !number.isEmpty then number :: later else later

/-- What comes before a character, as far as it decides whether the character is read as part of a reference. -/
inductive Preceding where
  | apart
  | word
  /-- A placeholder, or a dollar that begins a reference if a digit comes next. -/
  | unnumbered
  deriving DecidableEq

namespace Preceding

def ofChar (c : Char) : Preceding := if isWordPart c then .word else .apart

/-- Whether a character may come next, outside quotes. -/
def admits : Preceding → Char → Bool
  | .apart, _ => true
  | .word, c => c != '?'
  | .unnumbered, c => c != '?' && !c.isDigit

def step (state : Option Quote) (preceding : Preceding) (c : Char) : Preceding :=
  if state.isNone && (c == '?' || c == '$' && preceding == .apart) then .unnumbered else ofChar c

/-- Whether the preceding character is one of a word once placeholders are numbered. -/
def isWord : Preceding → Bool
  | .apart => false
  | _ => true

end Preceding

def isTidy (state : Option Quote) (preceding : Preceding) : List Char → Bool
  | [] => true
  | c :: rest =>
    (state.isSome || preceding.admits c) && isTidy (step state c) (preceding.step state c) rest

def precedingAfter (state : Option Quote) (preceding : Preceding) : List Char → Preceding
  | [] => preceding
  | c :: rest => precedingAfter (step state c) (preceding.step state c) rest

theorem isTidy_append (state : Option Quote) (preceding : Preceding) (first second : List Char) :
    isTidy state preceding (first ++ second) =
      (isTidy state preceding first &&
        isTidy (openAfter state first) (precedingAfter state preceding first) second) := by
  induction first generalizing state preceding with
  | nil => rfl
  | cons c rest ih =>
    have later : openAfter state (c :: rest) = openAfter (step state c) rest := rfl
    simp only [List.cons_append, isTidy, precedingAfter, ih, later, Bool.and_assoc]

/-! What numbering makes of a tidy text. -/

theorem takeWhile_substitute {before : Nat} {rest : List Char} (tidy : isTidy none .unnumbered rest = true) :
    (substitute Statement.dollarMark none before rest).takeWhile Char.isDigit = [] := by
  cases rest with
  | nil => rfl
  | cons c rest =>
    simp only [isTidy, Option.isSome_none, Bool.false_or, Preceding.admits, Bool.and_eq_true, bne_iff_ne, ne_eq,
      Bool.not_eq_true'] at tidy
    obtain ⟨⟨mark, digit⟩, _⟩ := tidy
    have kept : isPlaceholder none c = false := by simp [isPlaceholder, mark]
    simp only [substitute, kept, Bool.false_eq_true, if_false, List.takeWhile_cons, digit]

theorem references_digits {digits : List Char} (all : ∀ c ∈ digits, c.isDigit = true) (word : Bool)
    (filled : digits ≠ []) (rest : List Char) : references none word (digits ++ rest) = references none true rest := by
  induction digits generalizing word with
  | nil => exact absurd rfl filled
  | cons c others ih =>
    have digit := all c (List.mem_cons_self ..)
    have part : isWordPart c = true := by simp [isWordPart, Char.isAlphanum, digit]
    have plain : step none c = none := step_plain (isPlain_of_isBare (isBare_of_isDigit digit))
    have noDollar : (c == '$') = false := by
      rw [beq_eq_false_iff_ne]
      rintro rfl
      cases digit
    rw [List.cons_append]
    simp only [references, plain, part, noDollar, Bool.and_false, Bool.false_and, Bool.false_eq_true, if_false]
    cases others with
    | nil => rfl
    | cons d more => exact ih (fun e member => all e (List.mem_cons_of_mem _ member)) true (List.cons_ne_nil _ _)

/-- A placeholder is found outside quotes only, and a tidy text has it only where nothing of a word comes before. -/
theorem eq_of_placeholder {state : Option Quote} {preceding : Preceding} {c : Char}
    (found : isPlaceholder state c = true) (admitted : (state.isSome || preceding.admits c) = true) :
    preceding = .apart ∧ state = none ∧ c = '?' := by
  have marks : state = none ∧ c = '?' := by simpa [isPlaceholder] using found
  obtain ⟨rfl, rfl⟩ := marks
  refine ⟨?_, rfl, rfl⟩
  cases preceding with
  | apart => rfl
  | word | unnumbered => cases admitted

def numberOf (before : Nat) : List Char := Nat.toDigits 10 (before + 1)

theorem references_mark (before : Nat) {rest : List Char} (ends : rest.takeWhile Char.isDigit = []) :
    references none false (Statement.dollarMark before ++ rest) = numberOf before :: references none true rest := by
  have digits : ∀ c ∈ numberOf before, c.isDigit = true := fun c member =>
    Nat.isDigit_of_mem_toDigits (by omega) (by omega) member
  have filled : numberOf before ≠ [] := Nat.toDigits_ne_nil
  have number : (numberOf before ++ rest).takeWhile Char.isDigit = numberOf before := by
    rw [List.takeWhile_append_of_pos digits, ends, List.append_nil]
  have found : (numberOf before).isEmpty = false := List.isEmpty_eq_false_iff.mpr filled
  have written : Statement.dollarMark before ++ rest = '$' :: (numberOf before ++ rest) := rfl
  have stays : step none '$' = none := by decide
  have part : isWordPart '$' = true := by decide
  rw [written]
  simp only [references, number, found, stays, part, references_digits digits true filled]
  rfl

/-- A character that is no placeholder is the same to whoever reads the text before numbering and afterwards. -/
theorem Preceding.isWord_step {state : Option Quote} {c : Char} (preceding : Preceding)
    (kept : isPlaceholder state c = false) : (preceding.step state c).isWord = isWordPart c := by
  have plain : (ofChar c).isWord = isWordPart c := by
    unfold ofChar
    cases isWordPart c <;> rfl
  cases state with
  | some quote => exact plain
  | none =>
    have mark : (c == '?') = false := kept
    unfold step
    split
    next opens =>
      simp only [Option.isNone_none, mark, Bool.false_or, Bool.true_and, Bool.and_eq_true, beq_iff_eq] at opens
      rw [opens.1]
      decide
    next => exact plain

/-- Once its placeholders are numbered, a tidy text refers to each of them in order, and to nothing else. -/
theorem references_substitute (state : Option Quote) (preceding : Preceding) (before : Nat) (text : List Char)
    (tidy : isTidy state preceding text = true) :
    references state preceding.isWord (substitute Statement.dollarMark state before text) =
      (List.range' before (count state text)).map numberOf := by
  induction text generalizing state preceding before with
  | nil => rfl
  | cons c rest ih =>
    rw [isTidy, Bool.and_eq_true] at tidy
    obtain ⟨admitted, later⟩ := tidy
    cases found : isPlaceholder state c with
    | true =>
      obtain ⟨rfl, rfl, rfl⟩ := eq_of_placeholder found admitted
      have stays : step none '?' = none := by decide
      have opens : Preceding.step none .apart '?' = .unnumbered := by decide
      rw [stays, opens] at later
      have others := ih none .unnumbered (before + 1) later
      have counted : count none ('?' :: rest) = count none rest + 1 := by
        simp only [count, found, stays, if_true]
        omega
      have written : substitute Statement.dollarMark none before ('?' :: rest) =
          Statement.dollarMark before ++ substitute Statement.dollarMark none (before + 1) rest := rfl
      have unread : Preceding.isWord .apart = false := rfl
      rw [written, unread, references_mark before (takeWhile_substitute later), counted, List.range'_succ, List.map_cons]
      exact congrArg (numberOf before :: ·) others
    | false =>
      have others := ih (step state c) (preceding.step state c) before later
      rw [preceding.isWord_step found] at others
      have written : substitute Statement.dollarMark state before (c :: rest) =
          c :: substitute Statement.dollarMark (step state c) before rest := by
        simp only [substitute, found, Bool.false_eq_true, if_false]
      have counted : count state (c :: rest) = count (step state c) rest := by
        simp only [count, found, Bool.false_eq_true, if_false, Nat.zero_add]
      -- A dollar that could begin a reference has no digit after it.
      have none_here : (state.isNone && c == '$' && !preceding.isWord &&
          !((substitute Statement.dollarMark (step state c) before rest).takeWhile Char.isDigit).isEmpty) = false := by
        cases state with
        | some quote => rfl
        | none =>
          by_cases dollar : c = '$'
          · subst dollar
            cases preceding with
            | word | unnumbered => rfl
            | apart =>
              have stays : step none '$' = none := by decide
              have opens : Preceding.step none .apart '$' = .unnumbered := by decide
              rw [stays, opens] at later
              rw [stays, takeWhile_substitute later]
              rfl
          · simp [dollar]
      rw [written, counted, references]
      simp only [none_here, Bool.false_eq_true, if_false]
      exact others

/-! A text without placeholders that refers to nothing is tidy, wherever it is put. -/

/-- The first dollar may belong to a word that comes before the text. -/
theorem references_word {text : List Char} (alone : references none false text = []) :
    references none true text = [] := by
  cases text with
  | nil => rfl
  | cons c rest =>
    simp only [references, Bool.not_false, Bool.and_true, Bool.not_true, Bool.and_false, Bool.false_and,
      Bool.false_eq_true, if_false] at alone ⊢
    split at alone
    · cases alone
    · exact alone

theorem isTidy_of_references (state : Option Quote) (preceding : Preceding) (text : List Char)
    (alone : references state preceding.isWord text = []) (counted : count state text = 0)
    (begins : state = none → preceding = .unnumbered → text.takeWhile Char.isDigit = []) :
    isTidy state preceding text = true := by
  induction text generalizing state preceding with
  | nil => rfl
  | cons c rest ih =>
    have kept : isPlaceholder state c = false := by
      cases found : isPlaceholder state c with
      | false => rfl
      | true =>
        simp only [count, found, if_true] at counted
        omega
    simp only [count, kept, Bool.false_eq_true, if_false, Nat.zero_add] at counted
    rw [references] at alone
    split at alone
    · cases alone
    next unread =>
      rw [← preceding.isWord_step kept] at alone
      have later := ih (step state c) (preceding.step state c) alone counted fun outside opens => by
        -- What opens here is a dollar, and it is not read as a reference.
        have dollar : state = none ∧ c = '$' ∧ preceding = .apart := by
          unfold Preceding.step at opens
          split at opens
          next fresh =>
            simp only [Bool.and_eq_true, Bool.or_eq_true, beq_iff_eq, Option.isNone_iff_eq_none] at fresh
            obtain ⟨rfl, rfl | others⟩ := fresh
            · cases kept
            · exact ⟨rfl, others⟩
          next =>
            unfold Preceding.ofChar at opens
            split at opens <;> cases opens
        obtain ⟨rfl, rfl, rfl⟩ := dollar
        simpa [Preceding.isWord] using unread
      rw [isTidy, later, Bool.and_true]
      cases state with
      | some quote => rfl
      | none =>
        have mark : (c != '?') = true := by simpa [isPlaceholder] using kept
        cases preceding with
        | apart => rfl
        | word => exact mark
        | unnumbered =>
          have digit : c.isDigit = false := by
            have none := begins rfl rfl
            cases digit : c.isDigit with
            | false => rfl
            | true =>
              rw [List.takeWhile_cons_of_pos digit] at none
              cases none
          simp [Preceding.admits, mark, digit]

end SqlProgram
