import SqlProgram.Statement.Draft

/-!
Fields and tables seen through another name. Only how they are written changes: the label of a field, the column that it
finds and what a table decodes stay as they were. Of several names that a table is seen through the last one counts.
-/

namespace SqlProgram

namespace Expr

/-- The expression calls no function; it may be renamed. -/
def IsCallFree : Expr → Prop
  | .column _ | .qualified _ _ => True
  | .aggregate _ _ | .coalesce _ _ => False
  | .renamed expr _ => expr.IsCallFree

variable (table other : Ident) (expr : Expr)

/-- Functions and aliases pass a qualifier on to the column inside, where it replaces the one before it. -/
theorem qualifiedBy_qualifiedBy : (expr.qualifiedBy table).qualifiedBy other = expr.qualifiedBy other := by
  induction expr with
  | column name | qualified _ name => rfl
  | aggregate function argument ih => exact congrArg (aggregate function) ih
  | coalesce argument default ih => exact congrArg (coalesce · default) ih
  | renamed expr name ih => exact congrArg (renamed · name) ih

/-! The outermost constructor alone decides on the label and on the columns that are named, and it stays. -/

theorem label_qualifiedBy : (expr.qualifiedBy table).label = expr.label := by
  cases expr <;> rfl

theorem names_qualifiedBy : (expr.qualifiedBy table).names = expr.names := by
  cases expr <;> rfl

theorem indexIn_qualifiedBy : (expr.qualifiedBy table).indexIn = expr.indexIn := by
  funext layout
  rw [indexIn, indexIn, label_qualifiedBy, names_qualifiedBy]

variable {expr} in
/-- What stands in a list of columns has lost its qualifier, unless that stands inside a function. -/
theorem bareChars_qualifiedBy (free : expr.IsCallFree) : (expr.qualifiedBy table).bareChars = expr.bareChars := by
  induction expr with
  | column name | qualified _ name => rfl
  | aggregate | coalesce => exact free.elim
  | renamed expr name ih => exact ih free

end Expr

/-- A field does what another does; it may be written otherwise. -/
structure Field.BehavesAs (seen field : Field) : Prop where
  type : seen.type = field.type
  label : seen.label = field.label
  names : ∀ column, seen.names column = field.names column
  indexIn : ∀ layout, seen.indexIn layout = field.indexIn layout
  bareText : field.expr.IsCallFree → seen.bareText = field.bareText

theorem Field.qualifiedBy_qualifiedBy (table other : Ident) (field : Field) :
    (field.qualifiedBy table).qualifiedBy other = field.qualifiedBy other :=
  congrArg (Field.mk · field.type) (field.expr.qualifiedBy_qualifiedBy table other)

theorem Field.qualifiedBy_behaves (table : Ident) (field : Field) : (field.qualifiedBy table).BehavesAs field where
  type := rfl
  label := field.expr.label_qualifiedBy table
  names column := congrFun (field.expr.names_qualifiedBy table) column
  indexIn layout := congrFun (field.expr.indexIn_qualifiedBy table) layout
  bareText free := congrArg String.ofList (Expr.bareChars_qualifiedBy table free)

theorem Row.get_qualifiedBy (row : Row) (table : Ident) (field : Field) :
    row.get (field.qualifiedBy table) = row.get field := by
  have behaves := field.qualifiedBy_behaves table
  rw [get, get, behaves.indexIn, behaves.label]
  rfl

namespace FieldValues

def through (table : Ident) : (fields : List Field) → FieldValues fields →
    FieldValues (fields.map (Field.qualifiedBy table))
  | [], _ => ()
  | _ :: rest, (value, values) => (value, through table rest values)

theorem parameters_through (table : Ident) (fields : List Field) (values : FieldValues fields) :
    parameters (fields.map (Field.qualifiedBy table)) (through table fields values) = parameters fields values := by
  induction fields with
  | nil => rfl
  | cons field rest ih => exact congrArg (Parameter.ofScalar field.type values.1 :: ·) (ih values.2)

theorem decode_cons (row : Row) (field : Field) (rest : List Field) :
    decode row (field :: rest) =
      (row.get field).bind fun value => (decode row rest).map fun values => (value, values) := by
  rw [decode]
  cases row.get field <;> rfl

theorem decode_through (row : Row) (table : Ident) (fields : List Field) :
    decode row (fields.map (Field.qualifiedBy table)) = (decode row fields).map (through table fields) := by
  induction fields with
  | nil => rfl
  | cons field rest ih =>
    have seen : decode row ((field :: rest).map (Field.qualifiedBy table)) = (row.get field).bind fun value =>
        ((decode row rest).map (through table rest)).map fun values => (value, values) := by
      refine (decode_cons row (field.qualifiedBy table) _).trans ?_
      rw [row.get_qualifiedBy, ih]
      rfl
    refine seen.trans ?_
    rw [decode_cons]
    cases row.get field with
    | error failure => rfl
    | ok value => cases decode row rest <;> rfl

end FieldValues

/-- A table does what another does. Its fields have the values of the other's, and where no field calls a function,
lists of its columns are written alike. -/
structure Table.BehavesAs (seen table : Table) (values : FieldValues table.fields → FieldValues seen.fields) :
    Prop where
  parameters : ∀ given, FieldValues.parameters seen.fields (values given) = FieldValues.parameters table.fields given
  decode : ∀ row, seen.decode row = (table.decode row).map values
  validate : ∀ layout, seen.validate layout = table.validate layout
  insertion : (∀ field ∈ table.fields, field.expr.IsCallFree) → ∀ draft : Draft,
    (draft.add (.values seen.fields)).text = (draft.add (.values table.fields)).text
  revision : (∀ field ∈ table.fields, field.expr.IsCallFree) → ∀ draft : Draft,
    (draft.add (.set seen.fields)).text = (draft.add (.set table.fields)).text

section
variable (table : Ident) {fields : List Field}

theorem Field.bareChars_through (free : ∀ field ∈ fields, field.expr.IsCallFree) (written : List Char → List Char) :
    ((fields.map (Field.qualifiedBy table)).map fun field => written field.expr.bareChars) =
      fields.map fun field => written field.expr.bareChars := by
  rw [List.map_map]
  exact List.map_congr_left fun field member => congrArg written (Expr.bareChars_qualifiedBy table (free field member))

theorem Clause.values_through (free : ∀ field ∈ fields, field.expr.IsCallFree) :
    (Clause.values (fields.map (Field.qualifiedBy table))).chars = (Clause.values fields).chars := by
  have columns := Field.bareChars_through table free fun chars => chars
  have marks : ((fields.map (Field.qualifiedBy table)).map fun _ => ['?']) = fields.map fun _ => ['?'] :=
    List.map_map ..
  have written (fields : List Field) : (Clause.values fields).chars =
      " (".toList ++ commaChars (fields.map fun field => field.expr.bareChars) ++
        ") values (".toList ++ commaChars (fields.map fun _ => ['?']) ++ [')'] := rfl
  rw [written, written, columns, marks]

theorem Clause.set_through (free : ∀ field ∈ fields, field.expr.IsCallFree) :
    (Clause.set (fields.map (Field.qualifiedBy table))).chars = (Clause.set fields).chars :=
  congrArg (" set ".toList ++ commaChars ·) (Field.bareChars_through table free (· ++ " = ?".toList))

end

theorem Draft.text_add {first second : Clause} (same : first.chars = second.chars) (draft : Draft) :
    (draft.add first).text = (draft.add second).text := by
  rw [text, text, chars_add, chars_add, same]

namespace Table

theorem issues_through {seen table : Table} {name : Ident}
    (fields : seen.fields = table.fields.map (Field.qualifiedBy name)) (layout : RowLayout) :
    seen.issues layout = table.issues layout := by
  have behaves := Field.qualifiedBy_behaves name
  have absent : (fun field => (field.indexIn layout).isNone) ∘ Field.qualifiedBy name =
      fun field => (field.indexIn layout).isNone :=
    funext fun field => congrArg Option.isNone ((behaves field).indexIn layout)
  have labels : (fun field => DriftIssue.notFound field.label) ∘ Field.qualifiedBy name =
      fun field => .notFound field.label :=
    funext fun field => congrArg DriftIssue.notFound (behaves field).label
  have mapped (column : String) : (fun field => Field.names field column) ∘ Field.qualifiedBy name =
      fun field => field.names column :=
    funext fun field => (behaves field).names column
  simp only [issues, fields, List.filter_map, List.map_map, List.any_map, absent, labels, mapped]

theorem behaves_through (table : Table) (seenAs : Option Ident) (name : Ident) :
    BehavesAs ⟨table.name, seenAs, table.fields.map (Field.qualifiedBy name)⟩ table (.through name table.fields) where
  parameters := FieldValues.parameters_through name table.fields
  decode row := FieldValues.decode_through row name table.fields
  validate layout := by rw [validate, validate, issues_through rfl]
  insertion free draft := draft.text_add (Clause.values_through name free)
  revision free draft := draft.text_add (Clause.set_through name free)

theorem map_qualifiedBy_twice (fields : List Field) (name other : Ident) :
    (fields.map (Field.qualifiedBy name)).map (Field.qualifiedBy other) = fields.map (Field.qualifiedBy other) := by
  rw [List.map_map]
  exact List.map_congr_left fun field _ => field.qualifiedBy_qualifiedBy name other

/-- A field or table that is seen through a name behaves as it did. Only the last of several names counts, and a table
that is already seen through its own name is not changed. -/
theorem requalified_behaves :
    (∀ (name other : Ident) (field : Field),
      (field.qualifiedBy name).qualifiedBy other = field.qualifiedBy other ∧ (field.qualifiedBy name).BehavesAs field) ∧
      ∀ (table : Table) (name other : Ident),
        BehavesAs (table.asAlias name) table (.through name table.fields) ∧
        BehavesAs table.qualified table (.through (table.seenAs.getD table.name) table.fields) ∧
        (table.asAlias name).asAlias other = table.asAlias other ∧
        table.qualified.qualified = table.qualified ∧ (table.asAlias name).qualified = table.asAlias name := by
  refine ⟨fun name other field => ⟨field.qualifiedBy_qualifiedBy name other, field.qualifiedBy_behaves name⟩, ?_⟩
  intro table name other
  refine ⟨table.behaves_through _ _, table.behaves_through _ _, ?_, ?_, ?_⟩
  · exact congrArg (Table.mk table.name (some other)) (map_qualifiedBy_twice table.fields name other)
  · exact congrArg (Table.mk table.name table.seenAs) (map_qualifiedBy_twice table.fields _ _)
  · exact congrArg (Table.mk table.name (some name)) (map_qualifiedBy_twice table.fields name name)

/-- A qualified column under an alias and a column of the same name, seen through two names in turn. -/
theorem requalified_behaves_renamed :
    let a : Ident := ⟨[], .plain "a" (by decide)⟩
    let b : Ident := ⟨[.plain "s" (by decide)], .quoted "B" (by decide)⟩
    let id : Field := .ofIdent .int64 ⟨[.plain "t" (by decide)], .plain "Id" (by decide)⟩
    let name : Field := (Field.ofIdent .text ⟨[], .plain "id" (by decide)⟩).renamed ⟨[], .quoted "n" (by decide)⟩
    let table : Table := .ofFields ⟨[], .plain "t" (by decide)⟩ [id, name]
    let row : Row := ⟨⟨[⟨"id", "", none⟩, ⟨"n", "", none⟩]⟩, [.int 7, .text "x"], rfl⟩
    let draft : Draft := .ofStart (.insertInto table)
    (∀ field ∈ table.fields, field.expr.IsCallFree) ∧
      (draft.add (.values ((table.asAlias a).asAlias b).fields)).text = (draft.add (.values table.fields)).text ∧
      (table.asAlias b).decode row = .ok ((7 : Int64), "x", ()) ∧
      (table.asAlias b).validate row.layout = table.validate row.layout := by
  intro a b id name table row draft
  have free : ∀ field ∈ table.fields, field.expr.IsCallFree := by
    intro field member
    rcases List.mem_cons.mp member with rfl | other
    · exact trivial
    · rw [List.mem_singleton.mp other]
      exact trivial
  obtain ⟨seen, -⟩ := requalified_behaves.2 table b b
  obtain ⟨-, -, last, -⟩ := requalified_behaves.2 table a b
  rw [last]
  exact ⟨free, seen.insertion free draft, (seen.decode row).trans rfl, seen.validate row.layout⟩

end Table

end SqlProgram
