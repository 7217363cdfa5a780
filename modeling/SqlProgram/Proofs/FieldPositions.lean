import SqlProgram.Table

/-!
Fields and the columns that a database makes of them. Which of these columns a field is taken for is
said without the search: its own, unless the field is spelled in a case that is not its column's and
another column goes by that spelling.
-/

namespace SqlProgram

namespace Text

theorem toLower_toLower (c : Char) : c.toLower.toLower = c.toLower := by
  by_cases upper : c.val ≥ 'A'.val ∧ c.val ≤ 'Z'.val
  · have lowered : c.toLower.toNat = (c.toNat + 32) % 2 ^ 32 := congrArg Char.toNat (dif_pos upper)
    have bounds : 65 ≤ c.toNat ∧ c.toNat ≤ 90 := upper
    have above : ¬ (65 ≤ c.toLower.toNat ∧ c.toLower.toNat ≤ 90) := by omega
    exact dif_neg above
  · have same : c.toLower = c := dif_neg upper
    rw [same, same]

theorem foldCase_foldCase (text : String) : foldCase (foldCase text) = foldCase text := by
  simp only [foldCase, String.toList_ofList, List.map_map, String.ofList_inj]
  exact List.map_congr_left fun c _ => toLower_toLower c

theorem sameFolded_foldCase (text : String) : sameFolded text (foldCase text) = true := by
  rw [sameFolded, foldCase_foldCase, beq_self_eq_true]

end Text

/-- The name that a database gives to the column of a segment: plain words are lowered. -/
def Segment.resultName : Segment → String
  | .plain name _ => Text.foldCase name
  | .quoted name _ => name

def Expr.resultName : Expr → String
  | .column name => name.resultName
  | .qualified _ name => name.resultName
  | .aggregate function _ => function.name
  | .coalesce _ _ => "coalesce"
  | .renamed _ name => name.last.resultName

def Field.resultName (field : Field) : String := field.expr.resultName

theorem Aggregate.foldCase_name (function : Aggregate) : Text.foldCase function.name = function.name := by
  cases function <;> decide

theorem Expr.names_or (expr : Expr) :
    ((∀ column, expr.names column = (expr.label == column)) ∧ expr.resultName = expr.label) ∨
      (∀ column, expr.names column = Text.sameFolded expr.label column) ∧
        expr.resultName = Text.foldCase expr.label := by
  have segment (name : Segment) :
      ((∀ column, name.names column = (name.name == column)) ∧ name.resultName = name.name) ∨
        (∀ column, name.names column = Text.sameFolded name.name column) ∧
          name.resultName = Text.foldCase name.name := by
    cases name with
    | plain name word => exact .inr ⟨fun _ => rfl, rfl⟩
    | quoted name quotable => exact .inl ⟨fun _ => rfl, rfl⟩
  cases expr with
  | column name => exact segment name
  | qualified table name => exact segment name
  | aggregate function argument => exact .inr ⟨fun _ => rfl, function.foldCase_name.symm⟩
  | coalesce argument default =>
    have lowered : Text.foldCase "coalesce" = "coalesce" := by decide
    exact .inr ⟨fun _ => rfl, lowered.symm⟩
  | renamed expr name => exact segment name.last

namespace RowLayout

variable {layout : RowLayout} {first second : String → Bool}

theorem findEither?_eq (layout : RowLayout) (first second : String → Bool) :
    layout.findEither? first second = (layout.names.findIdx? first).or (layout.names.findIdx? second) := by
  simp only [findEither?, names, List.findIdx?_map, Function.comp_def]
  cases layout.columns.findIdx? fun column => first column.name <;> rfl

theorem findEither?_first {index : Nat} (found : layout.names.findIdx? first = some index) :
    layout.findEither? first second = some index := by
  rw [findEither?_eq, found]
  rfl

theorem findEither?_second (none : layout.names.findIdx? first = none) :
    layout.findEither? first second = layout.names.findIdx? second := by
  rw [findEither?_eq, none]
  rfl

end RowLayout

namespace Field

/-- At its place among the names of a result a field is not taken for another column: it is spelled as
its own column, or no column is spelled as it and none before its own but for case. -/
def Undisturbed (field : Field) (names : List String) (index : Nat) : Prop :=
  field.label = field.resultName ∨
    (field.label ∉ names ∧ ∀ name ∈ names.take index, Text.sameFolded field.label name = false)

variable {field : Field} {layout : RowLayout} {index : Nat}

theorem findIdx?_of_nodup {names : List String} (distinct : names.Nodup) {name : String}
    (placed : names[index]? = some name) : names.findIdx? (· == name) = some index := by
  obtain ⟨inside, same⟩ := List.getElem?_eq_some_iff.mp placed
  refine List.findIdx?_eq_some_iff_getElem.mpr ⟨inside, beq_iff_eq.mpr same, fun earlier before found => ?_⟩
  have again : names[earlier]? = names[index]? := by
    rw [placed, List.getElem?_eq_some_iff]
    exact ⟨by omega, beq_iff_eq.mp found⟩
  exact absurd ((List.getElem?_inj (by omega) distinct).mp again) (by omega)

/-- The search for the column of a field finds its own column exactly if nothing disturbs it. -/
theorem indexIn_eq_iff (distinct : layout.names.Nodup) (placed : layout.names[index]? = some field.resultName) :
    field.indexIn layout = some index ↔ field.Undisturbed layout.names index := by
  by_cases own : field.label = field.resultName
  · rw [← own] at placed
    exact ⟨fun _ => .inl own, fun _ => RowLayout.findEither?_first (findIdx?_of_nodup distinct placed)⟩
  · -- The label is not the name of the field's own column, so the field must go by case.
    obtain ⟨-, exactly⟩ | ⟨folds, lowered⟩ := field.expr.names_or
    · exact absurd exactly.symm own
    by_cases spelled : field.label ∈ layout.names
    · refine ⟨fun found => ?_, fun undisturbed => ?_⟩
      · obtain ⟨other, elsewhere⟩ := List.getElem?_of_mem spelled
        have taken : field.indexIn layout = some other :=
          RowLayout.findEither?_first (findIdx?_of_nodup distinct elsewhere)
        have same : some index = some other := found.symm.trans taken
        cases same
        rw [placed] at elsewhere
        exact absurd (Option.some.inj elsewhere).symm own
      · rcases undisturbed with own' | ⟨absent, _⟩
        · exact absurd own' own
        · exact absurd spelled absent
    · have unseen : layout.names.findIdx? (· == field.label) = none := by
        rw [List.findIdx?_eq_none_iff]
        exact fun name member => beq_eq_false_iff_ne.mpr fun same => spelled (same ▸ member)
      have searched : field.indexIn layout = layout.names.findIdx? field.expr.names :=
        RowLayout.findEither?_second unseen
      obtain ⟨inside, named⟩ := List.getElem?_eq_some_iff.mp placed
      rw [searched, List.findIdx?_eq_some_iff_getElem]
      constructor
      · rintro ⟨_, _, earlier⟩
        refine .inr ⟨spelled, fun name member => ?_⟩
        obtain ⟨place, before, rfl⟩ := List.mem_take_iff_getElem.mp member
        have missed := earlier place (by omega)
        rw [folds, Bool.not_eq_true] at missed
        exact missed
      · rintro (own' | ⟨_, unlike⟩)
        · exact absurd own' own
        refine ⟨inside, ?_, fun place before found => ?_⟩
        · rw [folds, named, resultName, lowered]
          exact Text.sameFolded_foldCase _
        · rw [folds] at found
          have missed := unlike _ (List.mem_take_iff_getElem.mpr ⟨place, by omega, rfl⟩)
          exact absurd (found.symm.trans missed) (by decide)

end Field

end SqlProgram
