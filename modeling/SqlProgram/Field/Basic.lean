import SqlProgram.Field.Expr
import SqlProgram.Value.Type

/-!
Fields: column expressions with the type of their values.
-/

namespace SqlProgram

/-- A column expression and the type it decodes into. -/
structure Field where
  expr : Expr
  type : ValueType

namespace Field

def ofIdent (type : ValueType) (ident : Ident) : Field := ⟨.ofIdent ident, type⟩

def of (type : ValueType) (name : String) : Except Rejection Field :=
  (Ident.parse name).map (ofIdent type)

/-- The field as written in a statement. -/
def text (field : Field) : String := String.ofList field.expr.chars

/-- The field as written in a list of columns to be set. -/
def bareText (field : Field) : String := String.ofList field.expr.bareChars

def label (field : Field) : String := field.expr.label

def names (field : Field) (column : String) : Bool := field.expr.names column

def indexIn (field : Field) (layout : RowLayout) : Option Nat := field.expr.indexIn layout

/-- A function of the field. Counts are whole numbers and averages fractions, whatever the column
holds. -/
def aggregate (field : Field) (function : Aggregate) : Field where
  expr := .aggregate function field.expr
  type := match function with
    | .count => .int64
    | .avg => .float64
    | _ => field.type

def coalesce (field : Field) (default : field.type.Carrier) : Field :=
  { field with expr := .coalesce field.expr (field.type.encode default) }

def renamed (field : Field) (name : Ident) : Field := { field with expr := .renamed field.expr name }

def qualifiedBy (table : Ident) (field : Field) : Field :=
  { field with expr := field.expr.qualifiedBy table }

end Field

end SqlProgram
