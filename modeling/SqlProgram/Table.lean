import SqlProgram.Parameter
import SqlProgram.Row.Basic

/-!
Tables: a name and the fields that a program knows of it, with what they decode into and how they
compare with the columns of a live result.
-/

namespace SqlProgram

/-- What the fields of a list decode into, in order. -/
def FieldValues : List Field → Type
  | [] => Unit
  | field :: rest => field.type.Carrier × FieldValues rest

namespace FieldValues

/-- The values of fields in a row; the first that does not decode is reported. -/
def decode (row : Row) : (fields : List Field) → Except Failure (FieldValues fields)
  | [] => .ok ()
  | field :: rest =>
    match row.get field with
    | .error failure => .error failure
    | .ok value => (decode row rest).map fun values => (value, values)

def parameters : (fields : List Field) → FieldValues fields → List Parameter
  | [], _ => []
  | field :: rest, (value, values) => .ofScalar field.type value :: parameters rest values

end FieldValues

structure Table where
  name : Ident
  seenAs : Option Ident
  fields : List Field

namespace Table

def ofFields (name : Ident) (fields : List Field) : Table := ⟨name, none, fields⟩

/-- The table where a statement mentions it. -/
def referenceChars (table : Table) : List Char :=
  match table.seenAs with
  | none => table.name.chars
  | some name => table.name.chars ++ " as ".toList ++ name.chars

def reference (table : Table) : String := String.ofList table.referenceChars

/-- The same table under an alias, through which its fields are seen. -/
def asAlias (table : Table) (name : Ident) : Table :=
  ⟨table.name, some name, table.fields.map (Field.qualifiedBy name)⟩

/-- The same table with its fields seen through its alias or its name. -/
def qualified (table : Table) : Table :=
  { table with fields := table.fields.map (Field.qualifiedBy (table.seenAs.getD table.name)) }

def decode (table : Table) (row : Row) : Except Failure (FieldValues table.fields) :=
  FieldValues.decode row table.fields

/-- Fields without a live column, then live columns without a field. -/
def issues (table : Table) (layout : RowLayout) : List DriftIssue :=
  ((table.fields.filter fun field => (field.indexIn layout).isNone).map fun field =>
    .notFound field.label) ++
  ((layout.columns.filter fun column => !table.fields.any (·.names column.name)).map fun column =>
    .notMapped column.name)

def validate (table : Table) (layout : RowLayout) : Except SchemaDrift Unit :=
  match table.issues layout with
  | [] => .ok ()
  | issue :: rest => .error ⟨issue :: rest⟩

end Table

end SqlProgram
