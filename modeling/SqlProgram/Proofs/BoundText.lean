import SqlProgram.Proofs.DraftBalance

/-!
The text of a bound statement: that of its draft with every placeholder expanded to those of its parameter. A draft
without slots is left as it is.
-/

namespace SqlProgram

open Placeholder

def Parameter.marksAt (parameters : List Parameter) (index : Nat) : List Char := (parameters[index]?.map marks).getD []

theorem Placeholder.substitute_same {replace : Nat → List Char} {state : Option Quote} {before : Nat} {text : List Char}
    (same : ∀ index, index < count state text → replace (before + index) = ['?']) :
    substitute replace state before text = text := by
  induction text generalizing state before with
  | nil => rfl
  | cons c rest ih =>
    cases found : isPlaceholder state c with
    | true =>
      have mark : c = '?' := by
        simp only [isPlaceholder, Bool.and_eq_true, beq_iff_eq] at found
        exact found.2
      simp only [count, found, if_true] at same
      have first := same 0 (by omega)
      have later : substitute replace (step state c) (before + 1) rest = rest := ih fun index below => by
        rw [Nat.add_right_comm]
        exact same (index + 1) (by omega)
      simp only [Nat.add_zero] at first
      rw [substitute, if_pos found, first, later, mark]
      rfl
    | false =>
      simp only [count, found, Bool.false_eq_true, if_false, Nat.zero_add] at same
      simp only [substitute, found, Bool.false_eq_true, if_false, ih same]

theorem Placeholder.substitute_none (replace : Nat → List Char) (state : Option Quote) (text : List Char)
    (counted : count state text = 0) : substitute replace state 0 text = text :=
  substitute_same fun index below => by omega

/-- A text after another takes up the placeholders where the first one leaves off. -/
theorem Placeholder.substitute_append (replace : Nat → List Char) (state : Option Quote) (before : Nat)
    (first second : List Char) :
    substitute replace state before (first ++ second) = substitute replace state before first ++
      substitute replace (openAfter state first) (before + count state first) second := by
  induction first generalizing state before with
  | nil => rfl
  | cons c rest ih =>
    have later : openAfter state (c :: rest) = openAfter (step state c) rest := rfl
    cases found : isPlaceholder state c with
    | true =>
      simp only [List.cons_append, substitute, count, found, if_true, ih, later, List.append_assoc, Nat.add_assoc]
    | false =>
      simp only [List.cons_append, substitute, count, found, Bool.false_eq_true, if_false, ih, later, Nat.zero_add]

/-- Only what is written for the placeholders of a text matters, wherever their numbers begin. -/
theorem Placeholder.substitute_congr {replace other : Nat → List Char} {state : Option Quote} {before start : Nat}
    {text : List Char}
    (same : ∀ index, index < count state text → replace (before + index) = other (start + index)) :
    substitute replace state before text = substitute other state start text := by
  induction text generalizing state before start with
  | nil => rfl
  | cons c rest ih =>
    cases found : isPlaceholder state c with
    | true =>
      simp only [count, found, if_true] at same
      have first := same 0 (by omega)
      have later : substitute replace (step state c) (before + 1) rest =
          substitute other (step state c) (start + 1) rest :=
        ih fun index below => by
          rw [Nat.add_right_comm before, Nat.add_right_comm start]
          exact same (index + 1) (by omega)
      simp only [Nat.add_zero] at first
      simp only [substitute, found, if_true, first, later]
    | false =>
      simp only [count, found, Bool.false_eq_true, if_false, Nat.zero_add] at same
      simp only [substitute, found, Bool.false_eq_true, if_false, ih same]

/-- A text with each placeholder expanded to those of its parameter. -/
def Parameter.fill (parameters : List Parameter) (text : List Char) : List Char :=
  substitute (marksAt parameters) none 0 text

theorem Parameter.fill_append {parameters others : List Parameter} {first : List Char}
    (left : Holds first parameters.length) (second : List Char) :
    fill (parameters ++ others) (first ++ second) = fill parameters first ++ fill others second := by
  have own : substitute (marksAt (parameters ++ others)) none 0 first = fill parameters first :=
    substitute_congr fun index below => by
      rw [left.counted] at below
      simp only [marksAt, Nat.zero_add, List.getElem?_append_left below]
  have rest : substitute (marksAt (parameters ++ others)) none parameters.length second = fill others second :=
    substitute_congr fun index _ => by
      simp only [marksAt, Nat.zero_add, List.getElem?_append_right (Nat.le_add_right _ _), Nat.add_sub_cancel_left]
  rw [fill, substitute_append, left.closed, left.counted, Nat.zero_add, own, rest]

/-- Single values leave a text as it is. -/
theorem Parameter.fill_scalars (values : List Value) {text : List Char} (holds : Holds text values.length) :
    fill (values.map .scalar) text = text :=
  substitute_same fun index below => by
    rw [holds.counted] at below
    have placed : (values.map Parameter.scalar)[index]? = some (.scalar values[index]) := by
      rw [List.getElem?_map, List.getElem?_eq_getElem below, Option.map_some]
    rw [marksAt, Nat.zero_add, placed]
    rfl

theorem Parameter.fill_nil {text : List Char} (holds : Holds text 0) : fill [] text = text :=
  substitute_none _ _ _ holds.counted

theorem Parameter.fill_before (parameters : List Parameter) {first : List Char} (plain : Holds first 0)
    (second : List Char) : fill parameters (first ++ second) = first ++ fill parameters second := by
  have apart := @fill_append [] parameters first plain second
  rwa [List.nil_append, fill_nil plain] at apart

theorem Parameter.fill_after {parameters : List Parameter} {first second : List Char}
    (holds : Holds first parameters.length) (plain : Holds second 0) :
    fill parameters (first ++ second) = fill parameters first ++ second := by
  have apart := @fill_append parameters [] first holds second
  rwa [List.append_nil, fill_nil plain] at apart

theorem Draft.bind_expanded (draft : Draft) (parameters : List Parameter) (filled : parameters.length = draft.slots) :
    ∃ statement, draft.bind parameters filled = .ok statement ∧
      statement.sql.toList = substitute (Parameter.marksAt parameters) none 0 draft.chars ∧
      statement.params = parameters.flatMap Parameter.values ∧
      Holds statement.sql.toList statement.params.length := by
  have holds := draft.chars_holds
  rw [← filled] at holds
  cases parameters with
  | nil =>
    have kept : substitute (Parameter.marksAt []) none 0 draft.chars = draft.chars :=
      substitute_none _ _ _ holds.counted
    have written : (Statement.raw draft.chars).sql.toList = draft.chars := String.toList_ofList
    refine ⟨.raw draft.chars, rfl, written.trans kept.symm, rfl, ?_⟩
    rw [written]
    exact holds
  | cons parameter rest =>
    have enough : (positions none 0 draft.chars).length = (parameter :: rest).length := by
      rw [length_positions, holds.counted]
    have expanded : Statement.expand draft.chars (parameter :: rest) = .ok {
        sql := String.ofList (substitute (Parameter.marksAt (parameter :: rest)) none 0 draft.chars)
        params := (parameter :: rest).flatMap Parameter.values } := if_pos enough
    obtain ⟨statement, bound, values, balanced⟩ := Statement.expand_holds holds
    refine ⟨statement, bound, ?_, values, balanced⟩
    rw [expanded] at bound
    cases bound
    exact String.toList_ofList

end SqlProgram
