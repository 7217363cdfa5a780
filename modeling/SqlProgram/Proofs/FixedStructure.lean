import SqlProgram.Proofs.BoundText
import SqlProgram.Proofs.DraftAgreement

/-!
Statements bound from the same calls in two wordings. What their users supply never gets out of its quotes, so the
statements and their numbered forms are the same once the contents of quotes are left out.
-/

namespace SqlProgram

open Placeholder

inductive Shape where
  | scalar
  | range
  | collection (count : Nat)
  deriving DecidableEq

namespace Parameter

def shape : Parameter → Shape
  | .scalar _ => .scalar
  | .range _ _ => .range
  | .collection values => .collection values.length

theorem marks_of_shape {one other : Parameter} (same : one.shape = other.shape) : one.marks = other.marks := by
  cases one with
  | scalar value => cases other <;> cases same; rfl
  | range low high => cases other <;> cases same; rfl
  | collection values =>
    cases other with
    | scalar value | range low high => cases same
    | collection others =>
      have lengths : values.length = others.length := Shape.collection.inj same
      cases values with
      | nil =>
        rw [List.length_nil] at lengths
        rw [List.eq_nil_of_length_eq_zero lengths.symm]
      | cons value rest =>
        cases others with
        | nil => cases lengths
        | cons another more =>
          have marks := congrArg commaMarks lengths
          exact marks

theorem width_of_shape {one other : Parameter} (same : one.shape = other.shape) : one.width = other.width := by
  rw [← one.marks_holds.counted, marks_of_shape same, other.marks_holds.counted]

theorem map_of_shapes {parameters others : List Parameter} (shapes : parameters.map shape = others.map shape)
    {f : Parameter → β} (determined : ∀ one other : Parameter, one.shape = other.shape → f one = f other) :
    parameters.map f = others.map f := by
  induction parameters generalizing others with
  | nil => rw [List.map_eq_nil_iff.mp shapes.symm]
  | cons parameter rest ih =>
    cases others with
    | nil => cases shapes
    | cons another more =>
      obtain ⟨first, later⟩ := List.cons.inj shapes
      exact congrArg₂ List.cons (determined _ _ first) (ih later)

/-- Something always stands where a placeholder was. -/
theorem marks_ne_nil (parameter : Parameter) : parameter.marks ≠ [] := by
  cases parameter with
  | scalar value => exact List.cons_ne_nil _ _
  | range low high => exact List.cons_ne_nil _ _
  | collection values =>
    match values with
    | [] => exact List.cons_ne_nil _ _
    | [_] => exact List.cons_ne_nil _ _
    | _ :: _ :: _ => exact List.cons_ne_nil _ _

theorem marks_plain (parameter : Parameter) : ∀ c ∈ parameter.marks, Quote.ofChar? c = none := by
  have commas (count : Nat) : ∀ c ∈ commaMarks count, Quote.ofChar? c = none := by
    fun_induction commaMarks count with
    | case1 => exact List.forall_mem_nil _
    | case2 => simp [Quote.ofChar?]
    | case3 count _ ih =>
      simp only [List.forall_mem_cons]
      exact ⟨rfl, rfl, rfl, ih⟩
  cases parameter with
  | scalar value =>
    have mark : ∀ c ∈ ['?'], Quote.ofChar? c = none := by simp [Quote.ofChar?]
    exact mark
  | range low high =>
    have marks : ∀ c ∈ "? and ?".toList, Quote.ofChar? c = none := by simp [Quote.ofChar?]
    exact marks
  | collection values =>
    cases values with
    | nil =>
      have word : ∀ c ∈ "null".toList, Quote.ofChar? c = none := by simp [Quote.ofChar?]
      exact word
    | cons value rest => exact commas _

theorem marksAt_of_shapes {parameters others : List Parameter} (shapes : parameters.map shape = others.map shape) :
    marksAt parameters = marksAt others := by
  funext index
  rw [marksAt, marksAt, ← List.getElem?_map, ← List.getElem?_map, map_of_shapes shapes fun _ _ => marks_of_shape]

theorem marksAt_plain (parameters : List Parameter) (index : Nat) :
    ∀ c ∈ marksAt parameters index, Quote.ofChar? c = none := by
  unfold marksAt
  cases parameters[index]? with
  | none => exact fun _ => nofun
  | some parameter => exact parameter.marks_plain

theorem marksAt_ne_nil {parameters : List Parameter} {index : Nat} (below : index < parameters.length) :
    marksAt parameters index ≠ [] := by
  rw [marksAt, List.getElem?_eq_getElem below]
  exact (parameters[index]).marks_ne_nil

end Parameter

theorem Statement.dollarMark_plain (before : Nat) : ∀ c ∈ dollarMark before, Quote.ofChar? c = none := by
  have digits := digits_plain (before + 1)
  rw [List.all_eq_true] at digits
  intro c member
  rcases List.mem_cons.mp member with rfl | later
  · rfl
  · exact step_plain (digits c later)

theorem blanked_substitute {replace : Nat → List Char} {text : List Char}
    (plain : ∀ index, ∀ c ∈ replace index, Quote.ofChar? c = none)
    (filled : ∀ index, index < count none text → replace index ≠ []) :
    blanked (substitute replace none 0 text) = substitute replace none 0 (blanked text) := by
  rw [← Place.outline_outside, ← Place.outline_outside]
  refine Place.outline_substitute .outside 0 text plain fun index _ below => filled index ?_
  rwa [Nat.zero_add] at below

namespace Statement

theorem blanked_render {one other : Statement} (same : blanked one.sql.toList = blanked other.sql.toList) :
    blanked (one.render .dollar).toList = blanked (other.render .dollar).toList := by
  have numbered (statement : Statement) : blanked (statement.render .dollar).toList =
      substitute dollarMark none 0 (blanked statement.sql.toList) := by
    rw [render, String.toList_ofList]
    exact blanked_substitute dollarMark_plain fun index _ => List.cons_ne_nil _ _
  rw [numbered, numbered, same]

end Statement

/-- The outline of a bound statement is that of its draft, with every placeholder expanded. -/
theorem Draft.bind_outlined (draft : Draft) (parameters : List Parameter) (filled : parameters.length = draft.slots) :
    ∃ statement, draft.bind parameters filled = .ok statement ∧
      blanked statement.sql.toList = substitute (Parameter.marksAt parameters) none 0 (blanked draft.chars) ∧
      statement.placeholderCount = (parameters.flatMap Parameter.values).length := by
  obtain ⟨statement, bound, text, values, holds⟩ := draft.bind_expanded parameters filled
  refine ⟨statement, bound, ?_, ?_⟩
  · rw [text]
    refine blanked_substitute (Parameter.marksAt_plain parameters) fun index below => Parameter.marksAt_ne_nil ?_
    rwa [draft.chars_holds.counted, ← filled] at below
  · rw [← values]
    exact holds.counted

theorem Draft.Twin.bind {one other : Draft} (twin : one.Twin other) {parameters others : List Parameter}
    (shapes : parameters.map Parameter.shape = others.map Parameter.shape)
    (filled : parameters.length = one.slots) (supplied : others.length = other.slots) :
    ∃ left right, one.bind parameters filled = .ok left ∧ other.bind others supplied = .ok right ∧
      blanked left.sql.toList = blanked right.sql.toList ∧ left.placeholderCount = right.placeholderCount := by
  obtain ⟨left, bound, outline, counted⟩ := one.bind_outlined parameters filled
  obtain ⟨right, tied, blank, number⟩ := other.bind_outlined others supplied
  refine ⟨left, right, bound, tied, ?_, ?_⟩
  · rw [outline, blank, Parameter.marksAt_of_shapes shapes, twin.chars.blanked_eq]
  · have widths := Parameter.map_of_shapes shapes fun _ _ => Parameter.width_of_shape
    rw [counted, number, List.length_flatMap, List.length_flatMap]
    exact congrArg List.sum widths

/-- Users of the builder cannot change the structure of a statement. Whatever the names in quotes, the defaults of
text fields and the bound values are, the same call refuses or the statements are the same outside quotes. -/
theorem DraftCalls.structure_fixed {Gap : Type} (calls : DraftCalls Gap) {first second : Wording Gap}
    (same : first.SameButQuoted second) :
    (∃ made rejection reason, calls.make first 0 = (.error rejection, made) ∧
        calls.make second 0 = (.error reason, made)) ∨
      ∃ made one other, calls.make first 0 = (.ok one, made) ∧ calls.make second 0 = (.ok other, made) ∧
        one.slots = other.slots ∧
        ∀ (parameters others : List Parameter) (filled : parameters.length = one.slots)
          (supplied : others.length = other.slots),
          parameters.map Parameter.shape = others.map Parameter.shape →
          ∃ left right, one.bind parameters filled = .ok left ∧ other.bind others supplied = .ok right ∧
            blanked left.sql.toList = blanked right.sql.toList ∧
            left.placeholderCount = right.placeholderCount ∧
            blanked (left.render .dollar).toList = blanked (right.render .dollar).toList := by
  obtain ⟨both, calls'⟩ := calls.make_agrees same 0
  revert both calls'
  rcases calls.make first 0 with ⟨answer, made⟩
  rcases calls.make second 0 with ⟨reply, others⟩
  rintro both rfl
  cases both with
  | refused => exact .inl ⟨made, _, _, rfl, rfl⟩
  | @accepted one other twin =>
    refine .inr ⟨made, one, other, rfl, rfl, twin.slots, fun parameters others filled supplied shapes => ?_⟩
    obtain ⟨left, right, bound, tied, outlines, counts⟩ := twin.bind shapes filled supplied
    exact ⟨left, right, bound, tied, outlines, counts, Statement.blanked_render outlines⟩

/-- Names and a default that try to close their quotes, open a comment and bring placeholders of their own. -/
theorem DraftCalls.structure_fixed_hostile :
    let calls : DraftCalls Unit :=
      ⟨.select [.orElseText (.of .text (.quote ())) ()],
        [.source (.of [] (.read ())), .where (.inList (.of .text (.quote ())))]⟩
    let first : Wording Unit := ⟨fun _ => "\"t\"", fun _ => "id", fun _ => ""⟩
    let second : Wording Unit := ⟨fun _ => "\"t\"\"? --\"", fun _ => "id\" = ? or $1 --", fun _ => "'); drop '?"⟩
    first.SameButQuoted second ∧
      ∃ one other, calls.make first 0 = (.ok one, 3) ∧ calls.make second 0 = (.ok other, 3) ∧
        one.text = "select coalesce(\"id\", '') from \"t\" where \"id\" in (?)" ∧
        ∀ (filled : [Parameter.collection [.text "a", .null]].length = one.slots)
          (supplied : [Parameter.collection [.text "'?", .text "$9"]].length = other.slots),
          ∃ left right, one.bind _ filled = .ok left ∧ other.bind _ supplied = .ok right ∧
            blanked left.sql.toList = blanked right.sql.toList ∧
            blanked (left.render .dollar).toList = blanked (right.render .dollar).toList := by
  intro calls first second
  have short : tokens "\"t\"".toList = [.quoted .double "t".toList] :=
    tokens_enclosed .double "t".toList
  have long : tokens "\"t\"\"? --\"".toList = [.quoted .double "t\"? --".toList] :=
    tokens_enclosed .double "t\"? --".toList
  have read : SameButNames "\"t\"" "\"t\"\"? --\"" := by
    unfold SameButNames
    rw [short, long]
    exact .cons (.names (by decide) (by decide)) .nil
  have names : isQuotable "id".toList ∧ isQuotable "id\" = ? or $1 --".toList := by decide
  have same : first.SameButQuoted second := ⟨fun _ => read, fun _ => .inr names⟩
  have table : Ident.parse "\"t\"" = .ok ⟨[], .quoted "t" (by decide)⟩ := Ident.parse_text ⟨[], .quoted "t" (by decide)⟩
  have column : Ident.quoted "id" = .ok ⟨[], .quoted "id" names.1⟩ := by
    rw [Ident.quoted, Segment.ofQuoted, dif_pos names.1]
    rfl
  have made : calls.make first 0 = (.ok
      ⟨.select [⟨.coalesce (.column (.quoted "id" (by decide))) (.text ""), .text⟩],
        [.source ⟨⟨[], .quoted "t" (by decide)⟩, none, []⟩,
          .where (.inList ⟨.column (.quoted "id" (by decide)), .text⟩)]⟩, 3) := by
    simp only [calls, first, DraftCalls.make, DraftCalls.makeFrom, StartCall.make, ClauseCall.make, ConditionCall.make,
      TableCall.make, FieldCall.makeAll, FieldCall.make, NameCall.make, bind, pure, call, column, table]
    rfl
  rcases structure_fixed calls same with ⟨_, _, _, refused, _⟩ | ⟨count, one, other, built, twin, _, bound⟩
  · rw [made] at refused
    cases refused
  · rw [made] at built
    cases built
    refine ⟨same, _, other, made, twin, by decide, fun filled supplied => ?_⟩
    obtain ⟨left, right, one, two, outline, _, numbered⟩ := bound _ _ filled supplied rfl
    exact ⟨left, right, one, two, outline, numbered⟩

end SqlProgram
