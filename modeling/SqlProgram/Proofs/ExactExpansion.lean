import SqlProgram.Proofs.TextPieces

/-!
Expansion as exact substitution. The pieces of a template come back unchanged, each gap holds the placeholders of its
parameter, and a scan of the result numbers these as the values of the parameter are numbered.
-/

namespace SqlProgram

open Placeholder

namespace Parameter

/-- What is written for a parameter. -/
inductive WrittenAs : Parameter → List Char → Prop where
  | scalar (value : Value) : WrittenAs (.scalar value) "?".toList
  | range (low high : Value) : WrittenAs (.range low high) "? and ?".toList
  | nothing : WrittenAs (.collection []) "null".toList
  | list (filled : items ≠ []) :
      WrittenAs (.collection items) (", ".toList.intercalate (List.replicate items.length "?".toList))

theorem commaMarks_eq (count : Nat) :
    commaMarks (count + 1) = ", ".toList.intercalate (List.replicate (count + 1) "?".toList) := by
  induction count with
  | zero => rfl
  | succ count ih =>
    have first : commaMarks (count + 2) = '?' :: ',' :: ' ' :: commaMarks (count + 1) := rfl
    rw [first, ih]
    rfl

theorem marks_written (parameter : Parameter) : parameter.WrittenAs parameter.marks := by
  cases parameter with
  | scalar value => exact .scalar value
  | range low high => exact .range low high
  | collection values =>
    cases values with
    | nil => exact .nothing
    | cons value rest =>
      have written : (collection (value :: rest)).marks = commaMarks (rest.length + 1) := rfl
      rw [written, commaMarks_eq]
      exact .list (List.cons_ne_nil value rest)

def widths (parameters : List Parameter) : Nat :=
  parameters.foldr (fun parameter rest => parameter.width + rest) 0

theorem length_values (parameters : List Parameter) : (parameters.flatMap values).length = widths parameters := by
  induction parameters with
  | nil => rfl
  | cons parameter rest ih =>
    rw [List.flatMap_cons, List.length_append, ih]
    rfl

theorem fill_eq_interleave {parameters : List Parameter} {text : List Char}
    (counted : count none text = parameters.length) :
    fill parameters text = Text.interleave (pieces none text) (parameters.map marks) := by
  have gaps : (List.range' 0 parameters.length).map (marksAt parameters) = parameters.map marks := by
    refine List.ext_getElem (by simp) fun index first second => ?_
    have inside : index < parameters.length := by simpa using second
    simp [marksAt, inside]
  rw [fill, substitute_eq_interleave, counted, gaps]

theorem count_fill {parameters : List Parameter} {text : List Char} (counted : count none text = parameters.length) :
    count none (fill parameters text) = widths parameters := by
  have expanded := (substitute_marks parameters none 0 text (by rw [counted, Nat.zero_add])).2
  rw [List.drop_zero, length_values] at expanded
  exact expanded

theorem fill_holds {parameters : List Parameter} {text : List Char} (holds : Holds text parameters.length) :
    Holds (fill parameters text) (widths parameters) := by
  have expanded := (substitute_marks parameters none 0 text (by rw [holds.counted, Nat.zero_add])).1
  exact ⟨expanded.trans holds.closed, count_fill holds.counted⟩

theorem fill_mark (parameter : Parameter) (others : List Parameter) (rest : List Char) :
    fill (parameter :: others) ('?' :: rest) = parameter.marks ++ fill others rest := by
  have apart : fill ([parameter] ++ others) (['?'] ++ rest) = fill [parameter] ['?'] ++ fill others rest :=
    fill_append .question rest
  have own : fill [parameter] ['?'] = parameter.marks := List.append_nil _
  rwa [own] at apart

end Parameter

namespace Statement

/-- A parameter in a statement: it is written behind `front`, where `earlier` values come before its own. Of the
placeholders that a scan finds, numbered from zero, those written for the parameter have the numbers of its values. -/
structure Binds (statement : Statement) (front : List Char) (earlier : Nat) (parameter : Parameter) : Prop where
  written : front ++ parameter.marks <+: statement.sql.toList
  numbers : ∀ number place, (scan statement.sql).1[number]? = some place →
    (String.utf8Len front ≤ place ∧ place < String.utf8Len (front ++ parameter.marks) ↔
      earlier ≤ number ∧ number < earlier + parameter.width)
  found : ∀ index, index < parameter.width →
    ∃ place, (scan (String.ofList parameter.marks)).1[index]? = some place ∧
      (scan statement.sql).1[earlier + index]? = some (String.utf8Len front + place)
  bound : ∀ index, index < parameter.width → statement.params[earlier + index]? = parameter.values[index]?

theorem binds_of_written {statement : Statement} {front back : List Char} {earlier : Nat} {parameter : Parameter}
    {first last : List Value} (written : statement.sql.toList = front ++ (parameter.marks ++ back))
    (params : statement.params = first ++ (parameter.values ++ last)) (holds : Holds front earlier)
    (counted : first.length = earlier) : statement.Binds front earlier parameter := by
  have marks := parameter.marks_holds
  let ahead := (scan (String.ofList front)).1
  let own := (scan (String.ofList parameter.marks)).1
  let behind := (scan (String.ofList back)).1
  have scanned : (scan statement.sql).1 =
      ahead ++ (own.map (String.utf8Len front + ·) ++
        behind.map fun place => String.utf8Len front + (String.utf8Len parameter.marks + place)) := by
    rw [← String.ofList_toList (s := statement.sql), written, scan_append holds.closed, scan_append marks.closed,
      List.map_append, List.map_map]
    rfl
  have aheadCount : ahead.length = earlier := by rw [length_scan, String.toList_ofList, holds.counted]
  have ownCount : own.length = parameter.width := by rw [length_scan, String.toList_ofList, marks.counted]
  refine ⟨⟨back, by rw [written, List.append_assoc]⟩, fun number place found => ?_, fun index inside => ?_,
    fun index inside => ?_⟩
  · rw [String.utf8Len_append]
    rw [scanned, List.getElem?_append, aheadCount] at found
    split at found
    next below =>
      have bound := scan_lt (List.mem_of_getElem? found)
      rw [String.toList_ofList] at bound
      omega
    next =>
      rw [List.getElem?_append, List.length_map, ownCount] at found
      split at found
      next inside =>
        obtain ⟨own, place, rfl⟩ := Option.map_eq_some_iff.mp (List.getElem?_map ▸ found)
        have bound := scan_lt (List.mem_of_getElem? place)
        rw [String.toList_ofList] at bound
        omega
      next beyond =>
        obtain ⟨place, _, rfl⟩ := Option.map_eq_some_iff.mp (List.getElem?_map ▸ found)
        omega
  · have place : own[index]? = some own[index] := List.getElem?_eq_getElem (ownCount ▸ inside)
    refine ⟨own[index], place, ?_⟩
    rw [scanned, List.getElem?_append_right (by omega), aheadCount, Nat.add_sub_cancel_left,
      List.getElem?_append_left (by rwa [List.length_map, ownCount]), List.getElem?_map, place, Option.map_some]
  · rw [params, List.getElem?_append_right (by omega), counted, Nat.add_sub_cancel_left,
      List.getElem?_append_left inside]

/-- A template is expanded to its pieces, with what is written for each parameter in the gaps. It is cut at the
placeholders, by offsets that are in the text and between characters. The values are those of the parameters in order,
and each has the number of the placeholder that was written for it. -/
theorem expand_exact (template : String) (parameters : List Parameter)
    (enough : count none template.toList = parameters.length) :
    ∃ statement pieces, expand template.toList parameters = .ok statement ∧
      Text.cutFrom? template 0 (scan template).1 = some pieces ∧
      pieces.length = parameters.length + 1 ∧
      template.toList = Text.interleave (pieces.map String.toList) (List.replicate parameters.length ['?']) ∧
      statement.sql.toList = Text.interleave (pieces.map String.toList) (parameters.map Parameter.marks) ∧
      (∀ parameter ∈ parameters, parameter.WrittenAs parameter.marks) ∧
      statement.params = parameters.flatMap Parameter.values ∧
      statement.placeholderCount = Parameter.widths parameters ∧
      ∀ before parameter after, parameters = before ++ parameter :: after →
        statement.Binds
          (Text.interleave ((pieces.map String.toList).take (before.length + 1)) (before.map Parameter.marks))
          (Parameter.widths before) parameter := by
  let statement : Statement := {
    sql := String.ofList (Parameter.fill parameters template.toList)
    params := parameters.flatMap Parameter.values }
  have expanded : expand template.toList parameters = .ok statement := if_pos ((length_positions ..).trans enough)
  have written : statement.sql.toList = Parameter.fill parameters template.toList := String.toList_ofList
  obtain ⟨cut, sliced, chars⟩ := cutFrom?_scan template
  refine ⟨statement, cut, expanded, sliced, ?_, ?_, ?_, fun parameter _ => parameter.marks_written, rfl, ?_, ?_⟩
  · rw [← List.length_map, chars, length_pieces, enough]
  · rw [chars, ← enough, ← eq_interleave]
  · rw [chars, written, Parameter.fill_eq_interleave enough]
  · rw [placeholderCount, written, Parameter.count_fill enough]
  · rintro before parameter after rfl
    rw [List.length_append, List.length_cons] at enough
    -- The placeholder of the parameter splits the template, its pieces, the text and the values alike.
    obtain ⟨first, second, same, outside, counted⟩ :=
      exists_mark (show before.length < count none template.toList by omega)
    have holds : Holds first before.length := ⟨outside, counted⟩
    have piecesBefore : (Placeholder.pieces none template.toList).take (before.length + 1) =
        Placeholder.pieces none first := by
      rw [same, pieces_append outside, List.take_left' (by rw [length_pieces, counted])]
    have filled : statement.sql.toList =
        Parameter.fill before first ++ (parameter.marks ++ Parameter.fill after second) := by
      rw [written, same, Parameter.fill_append holds, Parameter.fill_mark]
    have params : statement.params =
        before.flatMap Parameter.values ++ (parameter.values ++ after.flatMap Parameter.values) := by
      rw [← List.flatMap_cons, ← List.flatMap_append]
    rw [chars, piecesBefore, ← Parameter.fill_eq_interleave counted]
    exact binds_of_written filled params (Parameter.fill_holds holds) (Parameter.length_values before)

/-- A single value, a range, a list and an empty list, with marks in quotes between them. -/
theorem expand_exact_mixed :
    ∃ statement, expand "naïve = ? and \"é?\" = 'it''s ?' and day between ? and id in (?, 7) or id in (?)".toList
        [.scalar (.int 1), .range (.int 2) (.int 3), .collection [.int 4, .int 5], .collection []] = .ok statement ∧
      statement.params = [.int 1, .int 2, .int 3, .int 4, .int 5] ∧ statement.placeholderCount = 5 := by
  obtain ⟨statement, pieces, expanded, _, _, _, _, _, params, placeholders, _⟩ :=
    expand_exact "naïve = ? and \"é?\" = 'it''s ?' and day between ? and id in (?, 7) or id in (?)"
      [.scalar (.int 1), .range (.int 2) (.int 3), .collection [.int 4, .int 5], .collection []] (by decide +kernel)
  exact ⟨statement, expanded, params, placeholders⟩

end Statement

end SqlProgram
