import SqlProgram.Value.Type

/-!
Parameters as they are bound, before each takes as many placeholders as it has values.
-/

namespace SqlProgram

inductive Parameter where
  | scalar (value : Value)
  | range (low high : Value)
  | collection (values : List Value)

namespace Parameter

/-- The values in the order of their placeholders. -/
def values : Parameter → List Value
  | .scalar value => [value]
  | .range low high => [low, high]
  | .collection values => values

def width (parameter : Parameter) : Nat := parameter.values.length

def commaMarks : Nat → List Char
  | 0 => []
  | 1 => ['?']
  | count + 1 => '?' :: ',' :: ' ' :: commaMarks count

/-- The placeholders as written; a collection without values is the null that nothing equals. -/
def marks : Parameter → List Char
  | .scalar _ => ['?']
  | .range _ _ => "? and ?".toList
  | .collection [] => "null".toList
  | .collection values => commaMarks values.length

def ofScalar (type : ValueType) (value : type.Carrier) : Parameter := .scalar (type.encode value)

/-- The values of an `in` condition. -/
def ofList (type : ValueType) (values : List type.Carrier) : Parameter :=
  .collection (values.map type.encode)

/-- The ends of a `between` condition. -/
def ofRange (type : ValueType) (low high : type.Carrier) : Parameter :=
  .range (type.encode low) (type.encode high)

end Parameter

end SqlProgram
