import SqlProgram.Proofs.QuotedTokens

/-!
Blanking character by character. What is written for a text is known from where its reader stands, so texts
that a reader outside quotes cannot tell apart may replace each other wherever they stand.
-/

namespace SqlProgram

/-- Where the reader of a text stands. Behind a quote it cannot say yet whether the next one doubles it. -/
inductive Place where
  | outside
  | inside (quote : Quote)
  | behind (quote : Quote)

namespace Place

def opens (c : Char) : Place :=
  match Quote.ofChar? c with
  | none => .outside
  | some quote => .inside quote

def step : Place → Char → Place
  | .outside, c => opens c
  | .inside quote, c => if c = quote.mark then .behind quote else .inside quote
  | .behind quote, c => if c = quote.mark then .inside quote else opens c

/-- What is written down at a character; a closing quote waits for the next one. -/
def mark : Place → Char → List Char
  | .outside, c => [c]
  | .inside _, _ => []
  | .behind quote, c => if c = quote.mark then [] else [quote.mark, c]

def close : Place → List Char
  | .behind quote => [quote.mark]
  | _ => []

def after (place : Place) (text : List Char) : Place := text.foldl step place

def written (place : Place) : List Char → List Char
  | [] => []
  | c :: rest => place.mark c ++ written (place.step c) rest

def outline (place : Place) (text : List Char) : List Char := place.written text ++ (place.after text).close

/-- The quote that is open as the scanner of placeholders sees it. -/
def quote? : Place → Option Quote
  | .inside quote => some quote
  | _ => none

def unfinished : Place → Option Quote
  | .outside => none
  | .inside quote | .behind quote => some quote

theorem after_append (place : Place) (first second : List Char) :
    place.after (first ++ second) = (place.after first).after second :=
  List.foldl_append

theorem written_append (place : Place) (first second : List Char) :
    place.written (first ++ second) = place.written first ++ (place.after first).written second := by
  induction first generalizing place with
  | nil => rfl
  | cons c rest ih =>
    have later : place.after (c :: rest) = (place.step c).after rest := rfl
    simp only [List.cons_append, written, ih, later, List.append_assoc]

theorem outline_cons (place : Place) (c : Char) (rest : List Char) :
    place.outline (c :: rest) = place.mark c ++ (place.step c).outline rest := by
  simp only [outline, written, List.append_assoc]
  rfl

theorem quote?_opens (c : Char) : (opens c).quote? = Quote.ofChar? c := by
  unfold opens
  cases Quote.ofChar? c <;> rfl

theorem unfinished_opens (c : Char) : (opens c).unfinished = Quote.ofChar? c := by
  unfold opens
  cases Quote.ofChar? c <;> rfl

theorem quote?_step (place : Place) (c : Char) : (place.step c).quote? = Placeholder.step place.quote? c := by
  cases place with
  | outside => exact quote?_opens c
  | inside quote =>
    by_cases same : c = quote.mark <;> simp [step, quote?, Placeholder.step, same]
  | behind quote =>
    by_cases same : c = quote.mark
    · simp [step, quote?, Placeholder.step, same]
    · simp only [step, same, if_false]
      exact quote?_opens c

theorem quote?_after (place : Place) (text : List Char) :
    (place.after text).quote? = Placeholder.openAfter place.quote? text := by
  induction text generalizing place with
  | nil => rfl
  | cons c rest ih => exact (ih (place.step c)).trans (congrArg (Placeholder.openAfter · rest) (place.quote?_step c))

/-- Inside quotes nothing is written down, up to the quote that closes them. -/
theorem outline_inside {quote : Quote} {rest content tail : List Char}
    (read : Text.Quoted.readRest quote.mark rest = some (content, tail)) :
    (Place.inside quote).outline rest = quote.mark :: Place.outside.outline tail := by
  fun_induction Text.Quoted.readRest quote.mark rest generalizing content tail with
  | case1 => cases read
  | case2 =>
    cases read
    simp [mark, step, outline, written, after, close]
  | case3 => cases read
  | case4 rest ih =>
    obtain ⟨⟨inner, others⟩, found, same⟩ := Option.map_eq_some_iff.mp read
    cases same
    simpa [outline_cons, mark, step] using ih found
  | case5 d rest other =>
    cases read
    simp [outline_cons, mark, step, other]
  | case6 c d rest other ih =>
    obtain ⟨⟨inner, others⟩, found, same⟩ := Option.map_eq_some_iff.mp read
    cases same
    rw [outline_cons]
    simpa [mark, step, other] using ih found

theorem outline_unread {quote : Quote} {rest : List Char}
    (unread : Text.Quoted.readRest quote.mark rest = none) : (Place.inside quote).outline rest = [] := by
  fun_induction Text.Quoted.readRest quote.mark rest with
  | case1 => rfl
  | case2 => cases unread
  | case3 c other => simp [mark, step, other, outline, written, after, close]
  | case4 rest ih => simpa [outline_cons, mark, step] using ih (Option.map_eq_none_iff.mp unread)
  | case5 => cases unread
  | case6 c d rest other ih =>
    rw [outline_cons]
    simpa [mark, step, other] using ih (Option.map_eq_none_iff.mp unread)

/-- A reader that starts outside quotes writes down the text with all quotes emptied. -/
theorem outline_outside (text : List Char) : Place.outside.outline text = blanked text := by
  unfold blanked
  fun_induction tokens text with
  | case1 => rfl
  | case2 c rest plain ih =>
    have stays : Place.outside.step c = .outside := by simp [step, opens, plain]
    rw [outline_cons, stays, ih]
    rfl
  | case3 c rest quote opened unread =>
    have enters : Place.outside.step c = .inside quote := by simp [step, opens, opened]
    rw [outline_cons, enters, outline_unread unread]
    simp [mark, Token.outline, Quote.ofChar?_eq_some_iff.mp opened]
  | case4 c rest quote opened content tail found ih =>
    have enters : Place.outside.step c = .inside quote := by simp [step, opens, opened]
    rw [outline_cons, enters, outline_inside found, ih]
    simp [mark, Token.outline, Quote.ofChar?_eq_some_iff.mp opened]

open Placeholder

/-- Text without quotes, put where no quote is open. A closing quote that waits is written down before it. -/
theorem outline_plain {place : Place} (outside : place.quote? = none) {inserted : List Char} (filled : inserted ≠ [])
    (plain : ∀ c ∈ inserted, Quote.ofChar? c = none) (rest : List Char) :
    place.outline (inserted ++ rest) = place.close ++ (inserted ++ Place.outside.outline rest) := by
  have flat (text : List Char) (unquoted : ∀ c ∈ text, Quote.ofChar? c = none) :
      Place.outside.outline (text ++ rest) = text ++ Place.outside.outline rest := by
    induction text with
    | nil => rfl
    | cons c others ih =>
      have stays : Place.outside.step c = .outside := by simp [step, opens, unquoted c (List.mem_cons_self ..)]
      have later := ih fun d member => unquoted d (List.mem_cons_of_mem _ member)
      rw [List.cons_append, outline_cons, stays, later]
      rfl
  cases place with
  | outside => exact flat inserted plain
  | inside quote => cases outside
  | behind quote =>
    cases inserted with
    | nil => exact absurd rfl filled
    | cons c others =>
      have first := plain c (List.mem_cons_self ..)
      have different : c ≠ quote.mark := by
        rintro rfl
        simp at first
      have leaves : (Place.behind quote).step c = .outside := by simp [step, different, opens, first]
      have later := flat others fun d member => plain d (List.mem_cons_of_mem _ member)
      rw [List.cons_append, outline_cons, leaves, later]
      simp [mark, different, close]

/-- A closing quote that waits is no placeholder. -/
theorem substitute_close (replace : Nat → List Char) {place : Place} (outside : place.quote? = none) (before : Nat)
    (rest : List Char) :
    substitute replace place.unfinished before (place.close ++ rest) =
      place.close ++ substitute replace none before rest := by
  cases place with
  | outside => rfl
  | inside quote => cases outside
  | behind quote =>
    have hidden : isPlaceholder (some quote) quote.mark = false := rfl
    have closes : Placeholder.step (some quote) quote.mark = none := by simp [Placeholder.step]
    simp [close, unfinished, substitute, hidden, closes]

theorem substitute_outside (replace : Nat → List Char) {c : Char} (kept : isPlaceholder none c = false) (before : Nat)
    (rest : List Char) :
    substitute replace none before (c :: rest) = c :: substitute replace (opens c).unfinished before rest := by
  have entered : (opens c).unfinished = Placeholder.step none c := unfinished_opens c
  rw [entered]
  simp only [substitute, kept, Bool.false_eq_true, if_false]

theorem substitute_mark (replace : Nat → List Char) {place : Place} {c : Char}
    (kept : isPlaceholder place.quote? c = false) (before : Nat) (rest : List Char) :
    substitute replace place.unfinished before (place.mark c ++ rest) =
      place.mark c ++ substitute replace (place.step c).unfinished before rest := by
  cases place with
  | outside => exact substitute_outside replace kept before rest
  | inside quote => by_cases same : c = quote.mark <;> simp [mark, step, same, unfinished]
  | behind quote =>
    by_cases same : c = quote.mark
    · simp [mark, step, same, unfinished]
    · have leaves : (Place.behind quote).step c = opens c := if_neg same
      have marks : (Place.behind quote).mark c ++ rest = (Place.behind quote).close ++ c :: rest := by
        simp [mark, same, close]
      rw [marks, substitute_close replace rfl, substitute_outside replace kept, leaves]
      simp [mark, same, close]

/-- Placeholders stand outside quotes, so it is all the same whether they are replaced before the contents of the
quotes are left out or afterwards. -/
theorem outline_substitute {replace : Nat → List Char} (place : Place) (before : Nat) (text : List Char)
    (plain : ∀ index, ∀ c ∈ replace index, Quote.ofChar? c = none)
    (filled : ∀ index, before ≤ index → index < before + count place.quote? text → replace index ≠ []) :
    place.outline (substitute replace place.quote? before text) =
      substitute replace place.unfinished before (place.outline text) := by
  induction text generalizing place before with
  | nil =>
    cases place with
    | behind quote => simp [substitute, outline, written, after, close, unfinished, isPlaceholder]
    | _ => rfl
  | cons c rest ih =>
    cases found : isPlaceholder place.quote? c with
    | false =>
      have later := ih (place.step c) before fun index above below => by
        apply filled index above
        simpa [count, found, quote?_step] using below
      rw [quote?_step] at later
      rw [outline_cons, substitute_mark replace found, ← later]
      simp only [substitute, found, Bool.false_eq_true, if_false, outline_cons]
    | true =>
      have marks : place.quote? = none ∧ c = '?' := by simpa [isPlaceholder] using found
      obtain ⟨outside, rfl⟩ := marks
      have marked : isPlaceholder none '?' = true := rfl
      have next : Placeholder.step none '?' = none := rfl
      have counted : count place.quote? ('?' :: rest) = count none rest + 1 := by
        rw [outside, count, marked, next]
        exact Nat.add_comm ..
      have here : replace before ≠ [] := filled before (Nat.le_refl _) (by omega)
      have later : Place.outside.outline (substitute replace none (before + 1) rest) =
          substitute replace none (before + 1) (Place.outside.outline rest) := by
        refine ih Place.outside (before + 1) fun index above below => filled index (by omega) ?_
        have same : Place.outside.quote? = none := rfl
        rw [same] at below
        omega
      have unchanged : place.outline ('?' :: rest) = place.close ++ '?' :: Place.outside.outline rest :=
        outline_plain outside (List.cons_ne_nil '?' []) (by simp [Quote.ofChar?]) rest
      rw [unchanged, substitute_close replace outside, outside]
      simp only [substitute, marked, if_true, next, ← later]
      exact outline_plain outside here (plain before) _

end Place

end SqlProgram
