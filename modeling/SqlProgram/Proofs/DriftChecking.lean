import SqlProgram.Proofs.FieldPositions

/-!
What the check of a table against a live layout reports, told from rows. A field is missing exactly if no row of the
layout has a column for it, and a column is not mapped exactly if no field names it. Neither depends on the order of the
columns.
-/

namespace SqlProgram

theorem Text.sameFolded_comm (left right : String) : sameFolded left right = sameFolded right left := Bool.beq_comm

namespace Segment

def IsPlain : Segment → Prop
  | .plain _ _ => True
  | .quoted _ _ => False

theorem names_of_isPlain {segment : Segment} (plain : segment.IsPlain) (column : String) :
    segment.names column = Text.sameFolded segment.name column := by
  cases segment with
  | plain name word => rfl
  | quoted => exact plain.elim

end Segment

namespace Expr

theorem names_label (expr : Expr) : expr.names expr.label = true := by
  obtain ⟨exactly, -⟩ | ⟨folds, -⟩ := expr.names_or
  · rw [exactly, beq_self_eq_true]
  · rw [folds, Text.sameFolded_self]

theorem names_resultName (expr : Expr) : expr.names expr.resultName = true := by
  obtain ⟨-, same⟩ | ⟨folds, lowered⟩ := expr.names_or
  · rw [same, names_label]
  · rw [lowered, folds, Text.sameFolded_foldCase]

theorem indexIn_eq_none_iff {expr : Expr} {layout : RowLayout} :
    expr.indexIn layout = none ↔ ∀ column ∈ layout.names, expr.names column = false := by
  rw [indexIn, RowLayout.findEither?_eq, Option.or_eq_none_iff, List.findIdx?_eq_none_iff, List.findIdx?_eq_none_iff]
  refine ⟨And.right, fun unnamed => ⟨fun column member => ?_, unnamed⟩⟩
  rw [beq_eq_false_iff_ne]
  rintro rfl
  exact absurd (unnamed _ member) (by rw [names_label]; decide)

/-- The label comes from a plain word or from a function, so that its case does not count. -/
def IgnoresCase : Expr → Prop
  | .column name | .qualified _ name => name.IsPlain
  | .aggregate _ _ | .coalesce _ _ => True
  | .renamed _ name => name.last.IsPlain

theorem names_of_ignoresCase {expr : Expr} (ignores : expr.IgnoresCase) (column : String) :
    expr.names column = Text.sameFolded expr.label column := by
  cases expr with
  | column name | qualified _ name => exact Segment.names_of_isPlain ignores column
  | aggregate | coalesce => rfl
  | renamed expr name => exact Segment.names_of_isPlain ignores column

end Expr

/-- Whatever null is refused as, the text of that begins otherwise than that of an absent column. -/
theorem ValueType.message_decode_null {type : ValueType} {cause : Mismatch}
    (refused : type.decode .null = .error cause) : cause.message ≠ "column not present in result" := by
  have kind : ∃ expected, cause = .kind expected .null := by cases type <;> cases refused <;> exact ⟨_, rfl⟩
  obtain ⟨expected, rfl⟩ := kind
  have begins : (Mismatch.kind expected .null).message = "expected " ++ expected ++ ", found " ++ "null" := rfl
  intro same
  have first := congrArg (fun text => text.toList.head?) (begins.symm.trans same)
  simp at first

namespace Row

def ofNulls (layout : RowLayout) : Row := ⟨layout, List.replicate layout.width .null, List.length_replicate⟩

theorem message_decodeAt_ofNulls {layout : RowLayout} {type : ValueType} {index : Nat} {name : String}
    {fault : DecodeFault} (failed : (ofNulls layout).decodeAt type index name = .error (.decode name fault)) :
    fault.message ≠ "column not present in result" := by
  unfold decodeAt at failed
  split at failed
  next =>
    cases failed
    decide
  next value found =>
    obtain rfl : value = .null := List.eq_of_mem_replicate (List.mem_of_getElem? found)
    cases refused : type.decode .null with
    | ok decoded =>
      rw [refused] at failed
      cases failed
    | error cause =>
      rw [refused] at failed
      cases failed
      exact ValueType.message_decode_null refused

end Row

namespace Field

variable {field : Field} {layout : RowLayout}

/-- No row of the layout has a column for the field, as the failure to read it tells. -/
def IsMissing (field : Field) (layout : RowLayout) : Prop :=
  ∀ row : Row, row.layout = layout →
    ∃ fault, row.get field = .error (.decode field.label fault) ∧ fault.message = "column not present in result"

/-- A column that is found is read from a row of nulls, or the text of the failure is another. -/
theorem isMissing_iff : field.IsMissing layout ↔ field.indexIn layout = none := by
  constructor
  · intro missing
    cases found : field.indexIn layout with
    | none => rfl
    | some index =>
      obtain ⟨fault, failed, message⟩ := missing (.ofNulls layout) rfl
      have read : (Row.ofNulls layout).get field = (Row.ofNulls layout).decodeAt field.type index field.label := by
        rw [Row.get]
        simp only [Row.ofNulls, found]
      exact absurd message (Row.message_decodeAt_ofNulls (read.symm.trans failed))
  · rintro absent row rfl
    refine ⟨.absent, ?_, rfl⟩
    rw [Row.get, absent]

instance (field : Field) (layout : RowLayout) : Decidable (field.IsMissing layout) :=
  decidable_of_iff _ isMissing_iff.symm

theorem isMissing_iff_unnamed : field.IsMissing layout ↔ ∀ column ∈ layout.names, field.names column = false :=
  isMissing_iff.trans Expr.indexIn_eq_none_iff

theorem get_eq_getByName (row : Row) (ignores : field.expr.IgnoresCase) :
    row.get field = row.getByName field.type field.label := by
  have second : field.expr.names = fun column => Text.sameFolded column field.label := by
    funext column
    rw [Expr.names_of_ignoresCase ignores, Text.sameFolded_comm]
    rfl
  have found : field.indexIn row.layout = row.layout.indexOf? field.label :=
    congrArg (row.layout.findEither? (· == field.label)) second
  rw [Row.get, Row.getByName, found]

end Field

namespace Table

def Maps (table : Table) (column : String) : Prop := ∃ field ∈ table.fields, field.names column = true

instance (table : Table) (column : String) : Decidable (table.Maps column) :=
  inferInstanceAs (Decidable (∃ field ∈ table.fields, field.names column = true))

/-- The issues that a check against a layout comes back with. -/
def reported (table : Table) (layout : RowLayout) : List DriftIssue :=
  match table.validate layout with
  | .ok () => []
  | .error drift => drift.issues

/-- The declared fields that no row of the layout has a column for. -/
def missing (table : Table) (layout : RowLayout) : List Field := table.fields.filter (·.IsMissing layout)

def unmapped (table : Table) (layout : RowLayout) : List ColumnInfo :=
  layout.columns.filter fun column => ¬ table.Maps column.name

variable {table : Table} {layout : RowLayout}

theorem reported_eq_issues (table : Table) (layout : RowLayout) : table.reported layout = table.issues layout := by
  unfold reported validate
  cases table.issues layout <;> rfl

theorem validate_eq_ok_iff : table.validate layout = .ok () ↔ table.reported layout = [] := by
  rw [reported_eq_issues, validate]
  cases table.issues layout <;> simp

/-- An issue for each field that is missing and then one for each column that is not mapped. -/
theorem reported_eq (table : Table) (layout : RowLayout) :
    table.reported layout = (table.missing layout).map (fun field => .notFound field.label) ++
      (table.unmapped layout).map fun column => .notMapped column.name := by
  have absent : (fun field : Field => (field.indexIn layout).isNone) =
      fun field => decide (field.IsMissing layout) := by
    funext field
    rw [Bool.eq_iff_iff, Option.isNone_iff_eq_none, decide_eq_true_eq, Field.isMissing_iff]
  have unseen : (fun column : ColumnInfo => !table.fields.any (·.names column.name)) =
      fun column => decide ¬ table.Maps column.name := by
    funext column
    have named : table.fields.any (·.names column.name) = decide (table.Maps column.name) := by
      rw [Bool.eq_iff_iff, List.any_eq_true, decide_eq_true_eq]
      exact Iff.rfl
    rw [named, decide_not]
  rw [reported_eq_issues, issues, absent, unseen]
  rfl

theorem missing_congr {first second : RowLayout} (same : ∀ field ∈ table.fields,
    (∀ column ∈ first.names, field.names column = false) ↔ ∀ column ∈ second.names, field.names column = false) :
    table.missing first = table.missing second := by
  refine List.filter_congr fun field member => decide_eq_decide.mpr ?_
  rw [Field.isMissing_iff_unnamed, Field.isMissing_iff_unnamed]
  exact same field member

theorem reported_perm {first second : RowLayout} (shuffled : first.columns.Perm second.columns) :
    (table.reported first).Perm (table.reported second) := by
  have names : first.names.Perm second.names := shuffled.map ColumnInfo.name
  have same : table.missing first = table.missing second :=
    missing_congr fun field _ => forall_congr' fun column => imp_congr_left names.mem_iff
  rw [reported_eq, reported_eq, same]
  exact ((shuffled.filter _).map _).append_left _

theorem reported_insert {front back : List ColumnInfo} {column : ColumnInfo} (strange : ¬ table.Maps column.name) :
    (table.reported ⟨front ++ column :: back⟩).Perm (.notMapped column.name :: table.reported ⟨front ++ back⟩) := by
  have same : table.missing ⟨front ++ column :: back⟩ = table.missing ⟨front ++ back⟩ := by
    refine missing_congr fun field member => ?_
    have unnamed : field.names column.name = false :=
      Bool.eq_false_iff.mpr fun named => strange ⟨field, member, named⟩
    simp only [RowLayout.names, List.map_append, List.map_cons, List.forall_mem_append, List.forall_mem_cons, unnamed,
      true_and]
  have one : table.unmapped ⟨front ++ column :: back⟩ =
      table.unmapped ⟨front⟩ ++ column :: table.unmapped ⟨back⟩ := by
    simp only [unmapped, List.filter_append, List.filter_cons, strange, not_false_eq_true, decide_true, if_true]
  have others : table.unmapped ⟨front ++ back⟩ = table.unmapped ⟨front⟩ ++ table.unmapped ⟨back⟩ :=
    List.filter_append ..
  rw [reported_eq, reported_eq, same, one, others, List.map_append, List.map_cons, List.map_append,
    ← List.append_assoc, ← List.append_assoc]
  exact List.perm_middle

/-- The columns that a database makes of the fields are all found, and nothing else is there. -/
theorem reported_own (own : layout.names = table.fields.map Field.resultName) : table.reported layout = [] := by
  have found : table.missing layout = [] := by
    refine List.filter_eq_nil_iff.mpr fun field member => ?_
    rw [decide_eq_true_eq, Field.isMissing_iff_unnamed, own]
    intro unnamed
    have named : field.names field.resultName = true := field.expr.names_resultName
    exact absurd (unnamed _ (List.mem_map_of_mem member)) (by rw [named]; decide)
  have mapped : table.unmapped layout = [] := by
    refine List.filter_eq_nil_iff.mpr fun column member => ?_
    rw [decide_eq_true_eq, Decidable.not_not]
    have listed : column.name ∈ layout.names := List.mem_map_of_mem member
    rw [own] at listed
    obtain ⟨field, inside, same⟩ := List.mem_map.mp listed
    exact ⟨field, inside, same ▸ field.expr.names_resultName⟩
  rw [reported_eq, found, mapped]
  rfl

/-- A check comes back with an issue for each field that no row of the layout has a column for and for each column that
no field names, in order, and accepts the layout if there are none. So the order of the columns does not count, a
strange column is one issue more, and the table's own columns are none. A field whose case does not count is read as its
label is. -/
theorem validate_agrees_decoding (table : Table) :
    (∀ layout,
      table.reported layout = (table.missing layout).map (fun field => .notFound field.label) ++
          (table.unmapped layout).map (fun column => .notMapped column.name) ∧
        (table.reported layout).map DriftIssue.message =
          (table.missing layout).map (fun field => field.label ++ " not found") ++
            (table.unmapped layout).map (fun column => column.name ++ " not mapped") ∧
        (table.validate layout = .ok () ↔ table.reported layout = [])) ∧
      (∀ first second, first.columns.Perm second.columns → (table.reported first).Perm (table.reported second)) ∧
      (∀ front column back, ¬ table.Maps column.name →
        (table.reported ⟨front ++ column :: back⟩).Perm
          (.notMapped column.name :: table.reported ⟨front ++ back⟩)) ∧
      (∀ layout, layout.names = table.fields.map Field.resultName → table.validate layout = .ok ()) ∧
      ∀ (row : Row) (field : Field), field.expr.IgnoresCase →
        row.get field = row.getByName field.type field.label := by
  refine ⟨fun layout => ⟨table.reported_eq layout, ?_, validate_eq_ok_iff⟩, fun _ _ => reported_perm,
    fun _ _ _ => reported_insert, fun _ own => validate_eq_ok_iff.mpr (reported_own own),
    fun row _ => Field.get_eq_getByName row⟩
  rw [reported_eq, List.map_append, List.map_map, List.map_map]
  rfl

/-- A plain name, a quoted one that is spelled otherwise, and a count, beside a column that none of them names. -/
theorem validate_agrees_decoding_mixed :
    let id : Field := .ofIdent .int64 ⟨[.plain "t" (by decide)], .plain "ID" (by decide)⟩
    let name : Field := .ofIdent .text ⟨[], .quoted "Name" (by decide)⟩
    let table : Table := .ofFields ⟨[], .plain "t" (by decide)⟩ [id, name, id.aggregate .count]
    let column (name : String) : ColumnInfo := ⟨name, "", none⟩
    let row : Row := ⟨⟨[column "count", column "id"]⟩, [.int 2, .int 7], rfl⟩
    table.reported ⟨[column "count", column "name", column "id"]⟩ = [.notFound "Name", .notMapped "name"] ∧
      ¬ table.Maps "name" ∧
      (table.reported ⟨[column "count", column "name", column "id"]⟩).Perm
        (.notMapped "name" :: table.reported ⟨[column "count", column "id"]⟩) ∧
      (table.reported ⟨[column "count", column "id"]⟩).Perm (table.reported ⟨[column "id", column "count"]⟩) ∧
      table.validate ⟨[column "id", column "Name", column "count"]⟩ = .ok () ∧
      id.expr.IgnoresCase ∧ row.get id = .ok (7 : Int64) ∧ row.getByName .int64 "ID" = .ok (7 : Int64) := by
  intro id name table column row
  obtain ⟨reports, shuffles, inserts, own, reads⟩ := validate_agrees_decoding table
  have strange : ¬ table.Maps "name" := by decide
  have read : row.get id = row.getByName .int64 "ID" := reads row id trivial
  have found : id.indexIn row.layout = some 1 := by decide
  have seven : row.get id = .ok (7 : Int64) := by
    rw [Row.get, found]
    rfl
  exact ⟨(reports _).1.trans (by decide), strange, inserts [column "count"] (column "name") [column "id"] strange,
    shuffles _ _ (.swap ..), own _ (by decide), trivial, seven, read.symm.trans seven⟩

end Table

end SqlProgram
