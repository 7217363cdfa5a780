import SqlProgram.Json.Basic
import SqlProgram.Outcome

/-!
Documents: the interchange form of the data of programs. Reading one ends in what it describes, in
the fault of a text that describes nothing, or in the failure of building what was described.
-/

namespace SqlProgram.Document

inductive Fault where
  | malformed (what : String)
  | refused (failure : Failure)

abbrev Reading (α : Type) := Except Fault α

def malformed (what : String) : Reading α := .error (.malformed what)

def accept (result : Except Rejection α) : Reading α :=
  result.mapError fun rejection => .refused (.invalidArgument rejection)

def succeed (result : Except Failure α) : Reading α := result.mapError .refused

/-- The result of something that ends in any way; a panic has no form in a document. -/
def ended : Outcome α → Reading α
  | .ok value => .ok value
  | .failed failure => .error (.refused failure)
  | .panicked panic => malformed panic.text

def required (what : String) : Option α → Reading α
  | some value => .ok value
  | none => malformed what

def field (key : String) (json : Json) : Reading Json :=
  required s!"missing field {key}" (json.field? key)

def textOf : Json → Reading String
  | .text value => .ok value
  | _ => malformed "text expected"

def intOf : Json → Reading Int
  | .number (.whole value) => .ok value
  | _ => malformed "whole number expected"

def natOf (json : Json) : Reading Nat := do
  let value ← intOf json
  if value < 0 then malformed "number that is not negative expected" else return value.toNat

def boolOf : Json → Reading Bool
  | .bool value => .ok value
  | _ => malformed "truth value expected"

def listOf : Json → Reading (List Json)
  | .array items => .ok items
  | _ => malformed "list expected"

def textField (key : String) (json : Json) : Reading String := do textOf (← field key json)

def fieldD (key : String) (default : α) (read : Json → Reading α) (json : Json) : Reading α :=
  match json.field? key with
  | some value => read value
  | none => .ok default

def natFieldD (key : String) (default : Nat) (json : Json) : Reading Nat :=
  fieldD key default natOf json

def listFieldD (key : String) (json : Json) : Reading (List Json) := fieldD key [] listOf json

def flag (key : String) (json : Json) : Bool :=
  match json.field? key with
  | some (.bool value) => value
  | _ => false

def tagged (key : String) (value : Json) : Json := .object [(key, value)]

def ofTexts (texts : List String) : Json := .array (texts.map .text)

def ofOption (encode : α → Json) : Option α → Json
  | some value => encode value
  | none => .null

end SqlProgram.Document
