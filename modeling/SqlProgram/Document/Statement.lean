import SqlProgram.Document.Value
import SqlProgram.Statement.Draft

/-!
Fields, tables, conditions and statements in documents. Parts are built in the order in which they
are written, so the first that is refused decides.
-/

namespace SqlProgram.Document

def identOf (json : Json) : Reading Ident := do accept (Ident.parse (← textOf json))

def derivedOf (current : Field) (json : Json) : Reading Field := do
  match ← listOf json with
  | [.text "count"] => return current.aggregate .count
  | [.text "sum"] => return current.aggregate .sum
  | [.text "min"] => return current.aggregate .min
  | [.text "max"] => return current.aggregate .max
  | [.text "avg"] => return current.aggregate .avg
  | [.text "coalesce", value] => return current.coalesce (← carrierOf current.type value)
  | [.text "alias", name] => return current.renamed (← identOf name)
  | [.text "qualified_by", name] => return current.qualifiedBy (← identOf name)
  | _ => malformed "derivation expected"

/-- A field and everything that was derived on the way to it, the field itself last. -/
def fieldHistory (json : Json) : Reading (List Field × Field) := do
  match json with
  | .text name =>
    let field ← accept (Field.of .any name)
    return ([], field)
  | _ =>
    let name ← textField "name" json
    let type ← fieldD "type" .any typeOf json
    let start ← match json.field? "via" with
      | some (.text "quoted") => accept ((Ident.quoted name).map (Field.ofIdent type))
      | _ => accept (Field.of type name)
    (← listFieldD "ops" json).foldlM
      (fun (earlier, current) step => do
        return (earlier ++ [current], ← derivedOf current step))
      ([], start)

def fieldOf (json : Json) : Reading Field := do return (← fieldHistory json).2

mutual

/-- A list of fields: as it is, in an object, or as the fields of a table. -/
def fieldsOf (json : Json) : Reading (List Field) :=
  match json with
  | .array items => items.mapM fieldOf
  | .object fields => fieldsIn fields
  | _ => malformed "fields expected"

def fieldsIn : List (String × Json) → Reading (List Field)
  | [] => malformed "fields expected"
  | (key, json) :: rest =>
    if key = "fields" then do (← listOf json).mapM fieldOf
    else if key = "table" then do return (← tableOf json).fields
    else fieldsIn rest

/-- A table: its fields are built before its name. -/
def tableOf (json : Json) : Reading Table :=
  match json with
  | .object entries => do
    let fields ← tableFieldsIn entries
    let name ← textField "name" json
    let ident ← match json.field? "via" with
      | some (.text "quoted") => accept (Ident.quoted name)
      | _ => accept (Ident.parse name)
    (← listFieldD "ops" json).foldlM (fun table step => do
      match ← listOf step with
      | [.text "as_alias", name] => return table.asAlias (← identOf name)
      | [.text "qualified"] => return table.qualified
      | _ => malformed "table operation expected") (Table.ofFields ident fields)
  | _ => malformed "table expected"

def tableFieldsIn : List (String × Json) → Reading (List Field)
  | [] => malformed "fields expected"
  | (key, json) :: rest => if key = "fields" then fieldsOf json else tableFieldsIn rest

end

def comparisonOf : String → Reading Comparison
  | "eq" => .ok .eq
  | "not_eq" => .ok .notEq
  | "gt" => .ok .gt
  | "gte" => .ok .gte
  | "lt" => .ok .lt
  | "lte" => .ok .lte
  | "like" => .ok .like
  | other => malformed s!"unknown comparison {other}"

/-- A condition, negated as often as asked. -/
def conditionOf (json : Json) : Reading Condition := do
  let start ← match json.field? "of" with
    | some text => accept (Condition.of (← textOf text))
    | none =>
      let operand ← fieldOf (← field "field" json)
      match ← textField "cmp" json with
      | "in_list" => pure (.inList operand)
      | "between" => pure (.between operand)
      | other => pure (.compare operand (← comparisonOf other))
  return (List.replicate (← natFieldD "not" 0 json) ()).foldl (fun inner _ => .not inner) start

def predicateOf : Json → Reading Predicate
  | .object [("of", text)] => do accept (Predicate.of (← textOf text))
  | .object [("is_null", operand)] => return .isNull (← fieldOf operand)
  | .object [("is_not_null", operand)] => return .isNotNull (← fieldOf operand)
  | .object [("eq_field", .array [left, right])] =>
    return .eqField (← fieldOf left) (← fieldOf right)
  | .object [("not", operand)] => return .not (← predicateOf operand)
  | .object [("and", .array [left, right])] =>
    return .and (← predicateOf left) (← predicateOf right)
  | .object [("or", .array [left, right])] =>
    return .or (← predicateOf left) (← predicateOf right)
  | _ => malformed "predicate expected"

def startOf (json : Json) : Reading Start := do
  match ← listOf json with
  | [.text "sql", text] => accept (Start.ofText (← textOf text))
  | [.text "select", fields] => return .select (← fieldsOf fields)
  | [.text "insert_into", table] => return .insertInto (← tableOf table)
  | [.text "update", table] => return .update (← tableOf table)
  | [.text "delete_from", table] => return .deleteFrom (← tableOf table)
  | _ => malformed "start expected"

def clauseOf (json : Json) : Reading Clause := do
  match ← listOf json with
  | [.text "asc"] => return .ascending
  | [.text "desc"] => return .descending
  | [.text name, argument] =>
    match name with
    | "from" => return .source (← tableOf argument)
    | "join" => return .join (← tableOf argument)
    | "left_join" => return .leftJoin (← tableOf argument)
    | "on" => return .on (← predicateOf argument)
    | "where_pred" => return .wherePredicate (← predicateOf argument)
    | "and_pred" => return .andPredicate (← predicateOf argument)
    | "or_pred" => return .orPredicate (← predicateOf argument)
    | "where" => return .where (← conditionOf argument)
    | "and" => return .and (← conditionOf argument)
    | "or" => return .or (← conditionOf argument)
    | "group_by" => return .groupBy (← fieldsOf argument)
    | "order_by" => return .orderBy (← fieldsOf argument)
    | "limit" => return .limit (← natOf argument)
    | "offset" => return .offset (← natOf argument)
    | "raw" => accept (Clause.ofText (← textOf argument))
    | "values" => return .values (← fieldsOf argument)
    | "set" => return .set (← fieldsOf argument)
    | other => malformed s!"unknown clause {other}"
  | _ => malformed "clause expected"

/-- A draft after its start and after each clause, up to the first part that cannot be read. -/
structure Drafting where
  drafts : List Draft
  result : Reading Draft

def draftingFrom (draft : Draft) : List Json → Drafting
  | [] => ⟨[draft], .ok draft⟩
  | json :: rest =>
    match clauseOf json with
    | .error fault => ⟨[draft], .error fault⟩
    | .ok clause =>
      let later := draftingFrom (draft.add clause) rest
      { later with drafts := draft :: later.drafts }

def draftingOf (json : Json) : Drafting :=
  match field "start" json >>= startOf, listFieldD "steps" json with
  | .ok start, .ok steps => draftingFrom (.ofStart start) steps
  | .error fault, _ | _, .error fault => ⟨[], .error fault⟩

def bindingOf (draft : Draft) (json : Json) : Reading Statement := do
  let parameters ← (← listFieldD "bind" json).mapM parameterOf
  if filled : parameters.length = draft.slots then ended (draft.bind parameters filled)
  else malformed "one parameter for each slot expected"

def statementOf (json : Json) : Reading Statement := do
  bindingOf (← (draftingOf json).result) json

def statementFields (statement : Statement) : List (String × Json) :=
  [("sql", .text statement.sql), ("params", ofValues statement.params),
    ("placeholders", .ofInt statement.placeholderCount),
    ("dollar", .text (statement.render .dollar)), ("question", .text (statement.render .question))]

end SqlProgram.Document
