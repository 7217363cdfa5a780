import SqlProgram.Failure.Basic
import SqlProgram.Field.Basic

/-!
Rows of a result: one value for each column, decoded by field, by name or by position.
-/

namespace SqlProgram

/-- The values of one row, as many as the layout has columns. -/
structure Row where
  layout : RowLayout
  values : List Value
  width : values.length = layout.width

namespace Row

/-- A row of the given values, if they fill the layout. -/
def ofValues (layout : RowLayout) (values : List Value) : Except Failure Row :=
  if h : values.length = layout.width then .ok ⟨layout, values, h⟩
  else .error (.rowWidth values.length layout.width)

/-- The value at a position; failures give the column the name that it was asked for by. -/
def decodeAt (row : Row) (type : ValueType) (index : Nat) (name : String) :
    Except Failure type.Carrier :=
  match row.values[index]? with
  | none => .error (.decode name .outOfRange)
  | some value => (type.decode value).mapError fun cause => .decode name (.mismatch cause)

def get (row : Row) (field : Field) : Except Failure field.type.Carrier :=
  match field.indexIn row.layout with
  | none => .error (.decode field.label .absent)
  | some index => row.decodeAt field.type index field.label

def getByName (row : Row) (type : ValueType) (name : String) : Except Failure type.Carrier :=
  match row.layout.indexOf? name with
  | none => .error (.decode name .absent)
  | some index => row.decodeAt type index name

def getAt (row : Row) (type : ValueType) (index : Nat) : Except Failure type.Carrier :=
  match row.layout.columns[index]? with
  | none => .error (.decode (toString index) .outOfRange)
  | some column => row.decodeAt type index column.name

end Row

/-- The rows of a result that are still to be read. -/
structure Cursor where
  layout : RowLayout
  rows : List Row

namespace Cursor

/-- The next row and the cursor after it; a cursor at the end stays there. -/
def next (cursor : Cursor) : Option Row × Cursor :=
  match cursor.rows with
  | [] => (none, cursor)
  | row :: rows => (some row, { cursor with rows := rows })

def remaining (cursor : Cursor) : Nat := cursor.rows.length

end Cursor

end SqlProgram
