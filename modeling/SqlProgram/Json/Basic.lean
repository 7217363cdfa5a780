import SqlProgram.Double

/-!
Values of the JSON interchange format. The fields of an object are kept in the order of their keys.
-/

namespace SqlProgram

inductive Json.Number where
  | whole (value : Int)
  | float (value : Double)

inductive Json where
  | null
  | bool (value : Bool)
  | number (value : Json.Number)
  | text (value : String)
  | array (items : List Json)
  | object (fields : List (String × Json))

namespace Json

instance : Inhabited Json := ⟨.null⟩

/-- Sets a field; keys stay in order, and an earlier value of the key is replaced. -/
def insertField (key : String) (value : Json) : List (String × Json) → List (String × Json)
  | [] => [(key, value)]
  | (k, v) :: rest =>
    if key < k then (key, value) :: (k, v) :: rest
    else if key = k then (key, value) :: rest
    else (k, v) :: insertField key value rest

/-- An object of the given fields, the last value of a key counting. -/
def ofFields (fields : List (String × Json)) : Json :=
  .object (fields.foldl (fun sorted field => insertField field.1 field.2 sorted) [])

def ofInt (value : Int) : Json := .number (.whole value)

def field? (key : String) : Json → Option Json
  | .object fields => (fields.find? fun field => field.1 == key).map Prod.snd
  | _ => none

end Json

end SqlProgram
