import SqlProgram.Proofs.TextPieces

/-!
The text of a statement with its placeholders numbered: between the numbers it is the text as it was. A clause that
gives back a column comes behind the last of them and holds none.
-/

namespace SqlProgram

open Placeholder

theorem Placeholder.substitute_free {replace : Nat → List Char} (free : ∀ index, Holds (replace index) 0)
    (state : Option Quote) (before : Nat) (text : List Char) :
    openAfter state (substitute replace state before text) = openAfter state text ∧
      count state (substitute replace state before text) = 0 := by
  induction text generalizing state before with
  | nil => exact ⟨rfl, rfl⟩
  | cons c rest ih =>
    cases found : isPlaceholder state c with
    | true =>
      obtain ⟨rfl, rfl⟩ := isPlaceholder_iff.mp found
      obtain ⟨closed, counted⟩ := ih none (before + 1)
      have later : openAfter none ('?' :: rest) = openAfter none rest := rfl
      have written : substitute replace none before ('?' :: rest) =
          replace before ++ substitute replace none (before + 1) rest := if_pos found
      rw [written, openAfter_append, count_append, (free before).closed, (free before).counted, closed, counted, later]
      exact ⟨rfl, rfl⟩
    | false =>
      obtain ⟨closed, counted⟩ := ih (step state c) before
      have written : substitute replace state before (c :: rest) =
          c :: substitute replace (step state c) before rest := if_neg (by simp [found])
      have later (others : List Char) : openAfter state (c :: others) = openAfter (step state c) others := rfl
      rw [written, later, later, closed, count, counted, found]
      exact ⟨rfl, rfl⟩

namespace Statement

theorem dollarMark_holds (before : Nat) : Holds (dollarMark before) 0 := .cons (by decide) (.of_plain (digits_plain _))

theorem dollarMark_decimal (before : Nat) : dollarMark before = '$' :: (toString (before + 1)).toList := by
  rw [dollarMark, Nat.toString_eq_ofList_toDigits, String.toList_ofList]

theorem toList_render_dollar (statement : Statement) :
    (statement.render .dollar).toList = substitute dollarMark none 0 statement.sql.toList := String.toList_ofList

/-- To number the placeholders changes nothing else. -/
theorem render_interleaved {statement : Statement} {count : Nat} (holds : Holds statement.sql.toList count) :
    (statement.render .dollar).toList = Text.interleave (Placeholder.pieces none statement.sql.toList)
      ((List.range count).map fun before => '$' :: (toString (before + 1)).toList) := by
  have marks : (List.range count).map dollarMark =
      (List.range count).map fun before => '$' :: (toString (before + 1)).toList :=
    List.map_congr_left fun before _ => dollarMark_decimal before
  rw [toList_render_dollar, substitute_eq_interleave, holds.counted, ← List.range_eq_range', marks]

theorem render_holds {statement : Statement} {count : Nat} (holds : Holds statement.sql.toList count) :
    Holds (statement.render .dollar).toList 0 := by
  obtain ⟨closed, counted⟩ := substitute_free dollarMark_holds none 0 statement.sql.toList
  rw [toList_render_dollar]
  exact ⟨closed.trans holds.closed, counted⟩

theorem render_withSuffix {statement : Statement} {count : Nat} (holds : Holds statement.sql.toList count)
    {suffix : String} (plain : Holds suffix.toList 0) :
    (statement.withSuffix suffix).render .dollar = statement.render .dollar ++ suffix := by
  apply String.toList_injective
  have written : (statement.withSuffix suffix).sql.toList = statement.sql.toList ++ suffix.toList :=
    String.toList_append
  have free : substitute dollarMark none (0 + count) suffix.toList = suffix.toList :=
    substitute_same fun index below => by
      rw [plain.counted] at below
      omega
  rw [String.toList_append, toList_render_dollar, toList_render_dollar, written, substitute_append, holds.closed,
    holds.counted, free]

theorem returning_holds (field : Field) : Holds (" returning " ++ field.bareText).toList 0 := by
  have bare : field.bareText.toList = field.expr.bareChars := String.toList_ofList
  rw [String.toList_append, bare]
  exact (Holds.of_plain (by decide)).before field.expr.bareChars_holds

end Statement

/-- A bound statement with its placeholders numbered has its text cut at the placeholders and, in the gaps, their
numbers from one on, in decimal. No placeholder is left and no quote is open. To give back a column, a clause is put
behind that text as it is, and the values stay the same. -/
theorem Draft.render_numbered (draft : Draft) (parameters : List Parameter)
    (filled : parameters.length = draft.slots) :
    ∃ statement pieces, draft.bind parameters filled = .ok statement ∧
      Text.cutFrom? statement.sql 0 (scan statement.sql).1 = some pieces ∧
      pieces.length = statement.params.length + 1 ∧
      statement.sql.toList = Text.interleave (pieces.map String.toList)
        (List.replicate statement.params.length ['?']) ∧
      (statement.render .dollar).toList = Text.interleave (pieces.map String.toList)
        ((List.range statement.params.length).map fun before => '$' :: (toString (before + 1)).toList) ∧
      scan (statement.render .dollar) = ([], none) ∧
      ∀ field : Field,
        (statement.returning field.bareText).render .dollar =
          statement.render .dollar ++ (" returning " ++ field.bareText) ∧
        (statement.returning field.bareText).params = statement.params := by
  obtain ⟨statement, bound, _, _, holds⟩ := draft.bind_expanded parameters filled
  obtain ⟨cut, sliced, chars⟩ := cutFrom?_scan statement.sql
  have numbered := Statement.render_holds holds
  refine ⟨statement, cut, bound, sliced, ?_, ?_, ?_, ?_, fun field => ⟨?_, rfl⟩⟩
  · rw [← List.length_map, chars, length_pieces, holds.counted]
  · rw [chars, ← holds.counted, ← eq_interleave]
  · rw [chars, Statement.render_interleaved holds]
  · have unmarked : (scan (statement.render .dollar)).1 = [] := by
      rw [← List.length_eq_zero_iff, length_scan, numbered.counted]
    have closed : (scan (statement.render .dollar)).2 = none := by rw [scan_eq, numbered.closed]
    rw [← unmarked, ← closed]
  · exact Statement.render_withSuffix holds (Statement.returning_holds field)

/-- Quotes and question marks in the name of a column, in a default and in a value. -/
theorem Draft.render_numbered_hostile :
    let field : Field := ⟨.coalesce (.column (.quoted "what's \"?" (by decide))) (.text "'?"), .text⟩
    let draft : Draft := ⟨.select [field], [.where (.inList field), .and (.not (.between field))]⟩
    let parameters : List Parameter := [.collection [.text "?"], .range (.text "$1") (.text "'")]
    parameters.length = draft.slots ∧
      ∀ filled : parameters.length = draft.slots,
        ∃ statement, draft.bind parameters filled = .ok statement ∧ scan (statement.render .dollar) = ([], none) ∧
          (statement.returning field.bareText).render .dollar =
            statement.render .dollar ++ (" returning " ++ field.bareText) := by
  intro field draft parameters
  refine ⟨rfl, fun filled => ?_⟩
  obtain ⟨statement, _, bound, _, _, _, _, scanned, suffixed⟩ := draft.render_numbered parameters filled
  exact ⟨statement, bound, scanned, (suffixed field).1⟩

end SqlProgram
