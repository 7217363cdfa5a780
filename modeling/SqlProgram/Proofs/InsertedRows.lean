import Mathlib.Data.List.Nodup
import SqlProgram.Proofs.BoundText
import SqlProgram.Proofs.FieldPositions
import SqlProgram.Proofs.ListedItems
import SqlProgram.Proofs.ValueRoundTrip
import SqlProgram.Row.Basic

/-!
Rows that are written and read back through the same table: what an insert or an update binds for the columns of the
table's fields is what the fields decode from a row that holds it, in whatever order its columns come.
-/

namespace SqlProgram

open Placeholder

/-- The expression is a column, maybe seen through a table. -/
def Expr.IsColumn : Expr → Prop
  | .column _ | .qualified _ _ => True
  | _ => False

theorem Expr.IsColumn.bareChars_item {expr : Expr} (column : expr.IsColumn) : Listing.IsItem expr.bareChars := by
  cases expr with
  | column name => exact name.chars_item
  | qualified table name => exact name.chars_item
  | aggregate | coalesce | renamed => exact column.elim

/-! The statements, as a reader takes them apart. -/

/-- The statement lists the columns to be filled and then a placeholder for each. -/
def Statement.Fills (statement : Statement) (table : Table) (columns : List (List Char)) : Prop :=
  ∃ list marks, statement.sql.toList = "insert into ".toList ++ (table.referenceChars ++ (" (".toList ++ list)) ∧
    Listing.read list = (columns, " values (".toList ++ marks) ∧
    Listing.read marks = (columns.map fun _ => ['?'], [])

def Statement.Sets (statement : Statement) (table : Table) (columns : List (List Char)) : Prop :=
  ∃ list, statement.sql.toList = "update ".toList ++ (table.referenceChars ++ (" set ".toList ++ list)) ∧
    Listing.read list = (columns.map fun column => column ++ " = ?".toList, [])

namespace Table

def insertion (table : Table) : Draft := (Draft.ofStart (.insertInto table)).add (.values table.fields)

def revision (table : Table) : Draft := (Draft.ofStart (.update table)).add (.set table.fields)

def columns (table : Table) : List (List Char) := table.fields.map fun field => field.expr.bareChars

end Table

namespace FieldValues

def encoded : (fields : List Field) → FieldValues fields → List Value
  | [], _ => []
  | field :: rest, (value, values) => field.type.encode value :: encoded rest values

theorem parameters_eq (fields : List Field) (values : FieldValues fields) :
    parameters fields values = (encoded fields values).map .scalar := by
  induction fields with
  | nil => rfl
  | cons field rest ih =>
    obtain ⟨value, values⟩ := values
    exact congrArg (Parameter.scalar (field.type.encode value) :: ·) (ih values)

theorem length_encoded (fields : List Field) (values : FieldValues fields) :
    (encoded fields values).length = fields.length := by
  induction fields with
  | nil => rfl
  | cons field rest ih =>
    obtain ⟨value, values⟩ := values
    exact congrArg (· + 1) (ih values)

end FieldValues

theorem Draft.chars_ofStart (start : Start) : (ofStart start).chars = start.chars := List.append_nil _

theorem Draft.bind_values (draft : Draft) (fields : List Field) (slots : draft.slots = fields.length)
    (values : FieldValues fields) :
    ∃ (filled : (FieldValues.parameters fields values).length = draft.slots) (statement : Statement),
      draft.bind (FieldValues.parameters fields values) filled = .ok statement ∧
      statement.sql.toList = draft.chars ∧ statement.params = FieldValues.encoded fields values := by
  have filled : (FieldValues.parameters fields values).length = draft.slots := by
    rw [FieldValues.parameters_eq, List.length_map, FieldValues.length_encoded, slots]
  obtain ⟨statement, bound, text, params, _⟩ := draft.bind_expanded _ filled
  refine ⟨filled, statement, bound, ?_, ?_⟩
  · have holds := draft.chars_holds
    rw [slots, ← FieldValues.length_encoded fields values] at holds
    rw [FieldValues.parameters_eq] at text
    exact text.trans (Parameter.fill_scalars _ holds)
  · rw [params, FieldValues.parameters_eq, List.flatMap_map]
    exact List.flatMap_singleton' _

namespace Table

theorem columns_items {table : Table} (columns : ∀ field ∈ table.fields, field.expr.IsColumn) :
    ∀ text ∈ table.columns, Listing.IsItem text := by
  intro text member
  obtain ⟨field, among, rfl⟩ := List.mem_map.mp member
  exact (columns field among).bareChars_item

theorem insertion_chars (table : Table) :
    table.insertion.chars = "insert into ".toList ++ (table.referenceChars ++ (" (".toList ++
      (commaChars table.columns ++ (") values (".toList ++
        (commaChars (table.columns.map fun _ => ['?']) ++ [')']))))) := by
  have start : (Start.insertInto table).chars = "insert into ".toList ++ table.referenceChars := rfl
  have clause : (Clause.values table.fields).chars = " (".toList ++ commaChars table.columns ++ ") values (".toList ++
      commaChars (table.fields.map fun _ => ['?']) ++ [')'] := rfl
  simp only [insertion, Draft.chars_add, Draft.chars_ofStart, start, clause, columns, List.append_assoc,
    List.map_map, Function.comp_def]

theorem revision_chars (table : Table) :
    table.revision.chars = "update ".toList ++ (table.referenceChars ++ (" set ".toList ++
      commaChars (table.columns.map fun column => column ++ " = ?".toList))) := by
  have start : (Start.update table).chars = "update ".toList ++ table.referenceChars := rfl
  have clause : (Clause.set table.fields).chars = " set ".toList ++
      commaChars (table.fields.map fun field => field.expr.bareChars ++ " = ?".toList) := rfl
  simp only [revision, Draft.chars_add, Draft.chars_ofStart, start, clause, columns, List.append_assoc,
    List.map_map, Function.comp_def]

theorem insertion_fills {table : Table} (columns : ∀ field ∈ table.fields, field.expr.IsColumn)
    {statement : Statement} (written : statement.sql.toList = table.insertion.chars) :
    statement.Fills table table.columns := by
  have mark : Listing.IsItem ['?'] := ⟨.of_inner (by decide), rfl, '?', [], rfl, by decide⟩
  have marks : ∀ text ∈ table.columns.map fun _ => ['?'], Listing.IsItem text := by
    intro text member
    obtain ⟨_, _, rfl⟩ := List.mem_map.mp member
    exact mark
  have closing : ") values (".toList = ')' :: " values (".toList := by decide
  have ends (marks : List Char) : Listing.split none (") values (".toList ++ marks) =
      ([], [], " values (".toList ++ marks) := by
    rw [closing, List.cons_append]
    rfl
  refine ⟨_, commaChars (table.columns.map fun _ => ['?']) ++ [')'], written.trans table.insertion_chars, ?_, ?_⟩
  · exact Listing.read_commaChars (ends _) (columns_items columns)
  · exact Listing.read_commaChars rfl marks

theorem revision_sets {table : Table} (columns : ∀ field ∈ table.fields, field.expr.IsColumn)
    {statement : Statement} (written : statement.sql.toList = table.revision.chars) :
    statement.Sets table table.columns := by
  have assignments : ∀ text ∈ table.columns.map fun column => column ++ " = ?".toList, Listing.IsItem text := by
    intro text member
    obtain ⟨column, among, rfl⟩ := List.mem_map.mp member
    exact (columns_items columns column among).append (.of_inner (by decide)) (by decide)
  refine ⟨_, written.trans table.revision_chars, ?_⟩
  rw [← List.append_nil (commaChars _)]
  exact Listing.read_commaChars rfl assignments

end Table

/-! Reading the row back. -/

theorem Row.get_of_mem {row : Row} {field : Field} (distinct : row.layout.names.Nodup) (stored : field.type.IsStored)
    {value : field.type.Carrier}
    (placed : (field.label, field.type.encode value) ∈ row.layout.names.zip row.values) :
    row.get field = .ok value := by
  obtain ⟨index, paired⟩ := List.getElem?_of_mem placed
  obtain ⟨named, held⟩ := List.getElem?_zip_eq_some.mp paired
  have found : field.indexIn row.layout = some index :=
    RowLayout.findEither?_first (Field.findIdx?_of_nodup distinct named)
  simp only [Row.get, found, Row.decodeAt, held, stored.decode_encode]
  rfl

theorem FieldValues.decode_of_mem {row : Row} (distinct : row.layout.names.Nodup) {fields : List Field}
    (stored : ∀ field ∈ fields, field.type.IsStored) (values : FieldValues fields)
    (placed : (fields.map Field.label).zip (encoded fields values) ⊆ row.layout.names.zip row.values) :
    decode row fields = .ok values := by
  induction fields with
  | nil => rfl
  | cons field rest ih =>
    obtain ⟨value, values⟩ := values
    obtain ⟨first, later⟩ := List.cons_subset.mp placed
    have own := Row.get_of_mem distinct (stored field List.mem_cons_self) first
    have others := ih (fun other member => stored other (List.mem_cons_of_mem field member)) values later
    simp only [decode, own, others]
    rfl

namespace Table

/-- The columns of a row in any order: each field finds its own. -/
theorem decode_of_perm {table : Table} (stored : ∀ field ∈ table.fields, field.type.IsStored)
    (distinct : (table.fields.map fun field => Text.foldCase field.label).Nodup) (values : FieldValues table.fields)
    {row : Row} (holds : (row.layout.names.zip row.values).Perm
      ((table.fields.map Field.label).zip (FieldValues.encoded table.fields values))) :
    table.decode row = .ok values := by
  have width : row.layout.names.length = row.values.length := by
    rw [row.width, RowLayout.names, List.length_map, RowLayout.width]
  have count : (table.fields.map Field.label).length = (FieldValues.encoded table.fields values).length := by
    rw [FieldValues.length_encoded, List.length_map]
  have names : row.layout.names.Perm (table.fields.map Field.label) := by
    have firsts := holds.map Prod.fst
    rwa [List.map_fst_zip (Nat.le_of_eq width), List.map_fst_zip (Nat.le_of_eq count)] at firsts
  have labels : (table.fields.map Field.label).Nodup := by
    refine List.Nodup.of_map Text.foldCase ?_
    rwa [List.map_map]
  exact FieldValues.decode_of_mem (names.nodup_iff.mpr labels) stored values holds.symm.subset

/-- Bound to values for the fields, the draft becomes a statement of the given form with these values for its
parameters. A row of them under the labels of the fields decodes to what was bound, in whatever order its
columns are. -/
def Stores (table : Table) (values : FieldValues table.fields) (draft : Draft) (form : Statement → Prop) : Prop :=
  ∃ (filled : (FieldValues.parameters table.fields values).length = draft.slots) (statement : Statement),
    draft.bind (FieldValues.parameters table.fields values) filled = .ok statement ∧ form statement ∧
    statement.params = FieldValues.encoded table.fields values ∧
    ∀ row : Row, (row.layout.names.zip row.values).Perm ((table.fields.map Field.label).zip statement.params) →
      table.decode row = .ok values

theorem stores {table : Table} (stored : ∀ field ∈ table.fields, field.type.IsStored)
    (distinct : (table.fields.map fun field => Text.foldCase field.label).Nodup) (values : FieldValues table.fields)
    {draft : Draft} (slots : draft.slots = table.fields.length) {form : Statement → Prop}
    (written : ∀ statement : Statement, statement.sql.toList = draft.chars → form statement) :
    table.Stores values draft form := by
  obtain ⟨filled, statement, bound, text, params⟩ := draft.bind_values table.fields slots values
  refine ⟨filled, statement, bound, written statement text, params, fun row holds => ?_⟩
  rw [params] at holds
  exact decode_of_perm stored distinct values holds

/-- What is inserted is what is read back. An insert lists the columns of the fields by their bare names, in order,
and binds the values in that order; an update sets the same columns to them. -/
theorem written_read_back (table : Table) (columns : ∀ field ∈ table.fields, field.expr.IsColumn)
    (stored : ∀ field ∈ table.fields, field.type.IsStored)
    (distinct : (table.fields.map fun field => Text.foldCase field.label).Nodup) (values : FieldValues table.fields) :
    (table.Stores values table.insertion fun statement =>
      statement.Fills table (table.fields.map fun field => field.expr.bareChars)) ∧
    table.Stores values table.revision fun statement =>
      statement.Sets table (table.fields.map fun field => field.expr.bareChars) := by
  have inserts : table.insertion.slots = table.fields.length := by
    rw [insertion, Draft.slots_add]
    exact Nat.zero_add _
  have sets : table.revision.slots = table.fields.length := by
    rw [revision, Draft.slots_add]
    exact Nat.zero_add _
  exact ⟨stores stored distinct values inserts fun _ written => insertion_fills columns written,
    stores stored distinct values sets fun _ written => revision_sets columns written⟩

/-- A column seen through its table, a name with a comma and a parenthesis, and an absent value, read back from a row
in another order. -/
theorem written_read_back_reordered :
    let id : Field := .ofIdent .int64 ⟨[.plain "t" (by decide)], .plain "Id" (by decide)⟩
    let note : Field := .ofIdent (.optional .text) ⟨[], .quoted "a, b)" (by decide)⟩
    let done : Field := .ofIdent .bool ⟨[], .plain "done" (by decide)⟩
    let table : Table := .ofFields ⟨[], .plain "t" (by decide)⟩ [id, note, done]
    let values : FieldValues table.fields := ((7 : Int64), (none : Option String), true, ())
    let columns := ["done", "Id", "a, b)"].map fun name => ColumnInfo.mk name "" none
    let row : Row := ⟨⟨columns⟩, [.bool true, .int 7, .null], rfl⟩
    ∃ (filled : (FieldValues.parameters table.fields values).length = table.insertion.slots) (statement : Statement),
      table.insertion.bind (FieldValues.parameters table.fields values) filled = .ok statement ∧
      statement.Fills table ["Id".toList, "\"a, b)\"".toList, "done".toList] ∧
      statement.params = [.int 7, .null, .bool true] ∧ table.decode row = .ok values := by
  intro id note done table values columns row
  have each {property : Field → Prop} (first : property id) (second : property note) (third : property done) :
      ∀ field ∈ table.fields, property field :=
    List.forall_mem_cons.mpr ⟨first, List.forall_mem_cons.mpr ⟨second, List.forall_mem_singleton.mpr third⟩⟩
  have plain : ∀ field ∈ table.fields, field.expr.IsColumn := each trivial trivial trivial
  have stored : ∀ field ∈ table.fields, field.type.IsStored :=
    each (.inl trivial) (.inr ⟨.text, trivial, rfl⟩) (.inl trivial)
  have distinct : (table.fields.map fun field => Text.foldCase field.label).Nodup := by decide
  obtain ⟨⟨filled, statement, bound, fills, params, reads⟩, -⟩ := written_read_back table plain stored distinct values
  refine ⟨filled, statement, bound, fills, params, reads row ?_⟩
  rw [params]
  exact @List.perm_append_comm (String × Value) [("done", .bool true)] [("Id", .int 7), ("a, b)", .null)]

end Table

end SqlProgram
