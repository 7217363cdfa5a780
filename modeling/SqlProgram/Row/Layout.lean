import SqlProgram.Text.Fold

/-!
The columns of a result and finding them by name.
-/

namespace SqlProgram

structure ColumnInfo where
  name : String
  typeName : String
  /-- Absent if the database does not tell. -/
  nullable : Option Bool
  deriving DecidableEq

structure RowLayout where
  columns : List ColumnInfo
  deriving DecidableEq

namespace RowLayout

def width (layout : RowLayout) : Nat := layout.columns.length

def names (layout : RowLayout) : List String := layout.columns.map ColumnInfo.name

/-- The first column whose name passes the first test or, if none does, the second. -/
def findEither? (layout : RowLayout) (first second : String → Bool) : Option Nat :=
  match layout.columns.findIdx? fun column => first column.name with
  | some index => some index
  | none => layout.columns.findIdx? fun column => second column.name

/-- The column of a name: an exact one first, then one that differs in case only. -/
def indexOf? (layout : RowLayout) (name : String) : Option Nat :=
  layout.findEither? (· == name) fun column => Text.sameFolded column name

def column? (layout : RowLayout) (name : String) : Option ColumnInfo :=
  (layout.indexOf? name).bind fun index => layout.columns[index]?

end RowLayout

end SqlProgram
