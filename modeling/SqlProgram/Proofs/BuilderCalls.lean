import SqlProgram.Statement.Draft

/-!
The calls of the builder as they stand in a program, with gaps for the texts that its users supply. A wording fills
the gaps, and whatever is built comes to an end at the first call that refuses what it is given.
-/

namespace SqlProgram

structure Wording (Gap : Type) where
  /-- Names that are read, and text written by hand. -/
  text : Gap → String
  /-- Names that the builder puts in quotes. -/
  name : Gap → String
  /-- Defaults of text fields. -/
  default : Gap → String

/-- What calls come to, with the number of those so far that may refuse. -/
def Building (α : Type) : Type := Nat → Except Rejection α × Nat

instance : Monad Building where
  pure built := fun made => (.ok built, made)
  bind building next := fun made =>
    match building made with
    | (.ok built, made) => next built made
    | (.error rejection, made) => (.error rejection, made)

def call (answer : Except Rejection α) : Building α := fun made => (answer, made + 1)

def Field.orElse (field : Field) (default : Value) : Field := { field with expr := .coalesce field.expr default }

theorem Field.coalesce_eq_orElse (field : Field) (default : field.type.Carrier) :
    field.coalesce default = field.orElse (field.type.encode default) := rfl

section
variable (Gap : Type)

inductive NameCall where
  | read (text : Gap)
  | quote (name : Gap)

inductive FieldCall where
  | of (type : ValueType) (name : NameCall Gap)
  | aggregate (field : FieldCall) (function : Aggregate)
  | orElse (field : FieldCall) (default : Value)
  | orElseText (field : FieldCall) (default : Gap)
  | renamed (field : FieldCall) (name : NameCall Gap)
  | qualifiedBy (field : FieldCall) (table : NameCall Gap)

inductive TableCall where
  | of (fields : List (FieldCall Gap)) (name : NameCall Gap)
  | asAlias (table : TableCall) (name : NameCall Gap)
  | qualified (table : TableCall)

inductive ConditionCall where
  | of (text : Gap)
  | compare (field : FieldCall Gap) (comparison : Comparison)
  | inList (field : FieldCall Gap)
  | between (field : FieldCall Gap)
  | not (operand : ConditionCall)

inductive PredicateCall where
  | of (text : Gap)
  | isNull (field : FieldCall Gap)
  | isNotNull (field : FieldCall Gap)
  | eqField (left right : FieldCall Gap)
  | not (operand : PredicateCall)
  | and (left right : PredicateCall)
  | or (left right : PredicateCall)

inductive StartCall where
  | sql (text : Gap)
  | select (fields : List (FieldCall Gap))
  | insertInto (table : TableCall Gap)
  | update (table : TableCall Gap)
  | deleteFrom (table : TableCall Gap)

inductive ClauseCall where
  | source (table : TableCall Gap)
  | join (table : TableCall Gap)
  | leftJoin (table : TableCall Gap)
  | on (predicate : PredicateCall Gap)
  | where (condition : ConditionCall Gap)
  | and (condition : ConditionCall Gap)
  | or (condition : ConditionCall Gap)
  | wherePredicate (predicate : PredicateCall Gap)
  | andPredicate (predicate : PredicateCall Gap)
  | orPredicate (predicate : PredicateCall Gap)
  | groupBy (fields : List (FieldCall Gap))
  | orderBy (fields : List (FieldCall Gap))
  | ascending
  | descending
  | limit (count : Nat)
  | offset (count : Nat)
  | raw (text : Gap)
  | values (fields : List (FieldCall Gap))
  | set (fields : List (FieldCall Gap))

structure DraftCalls where
  start : StartCall Gap
  clauses : List (ClauseCall Gap)

end

section
variable {Gap : Type} (wording : Wording Gap)

def NameCall.make : NameCall Gap → Building Ident
  | .read text => call (Ident.parse (wording.text text))
  | .quote name => call (Ident.quoted (wording.name name))

def FieldCall.make : FieldCall Gap → Building Field
  | .of type name => return .ofIdent type (← name.make wording)
  | .aggregate field function => return (← field.make).aggregate function
  | .orElse field default => return (← field.make).orElse default
  | .orElseText field default => return (← field.make).orElse (.text (wording.default default))
  | .renamed field name => return (← field.make).renamed (← name.make wording)
  | .qualifiedBy field table => do
    let field ← field.make
    return field.qualifiedBy (← table.make wording)

def FieldCall.makeAll : List (FieldCall Gap) → Building (List Field)
  | [] => return []
  | field :: fields => return (← field.make wording) :: (← makeAll fields)

def TableCall.make : TableCall Gap → Building Table
  | .of fields name => do
    let fields ← FieldCall.makeAll wording fields
    return .ofFields (← name.make wording) fields
  | .asAlias table name => return (← table.make).asAlias (← name.make wording)
  | .qualified table => return (← table.make).qualified

def ConditionCall.make : ConditionCall Gap → Building Condition
  | .of text => call (Condition.of (wording.text text))
  | .compare field comparison => return .compare (← field.make wording) comparison
  | .inList field => return .inList (← field.make wording)
  | .between field => return .between (← field.make wording)
  | .not operand => return .not (← operand.make)

def PredicateCall.make : PredicateCall Gap → Building Predicate
  | .of text => call (Predicate.of (wording.text text))
  | .isNull field => return .isNull (← field.make wording)
  | .isNotNull field => return .isNotNull (← field.make wording)
  | .eqField left right => return .eqField (← left.make wording) (← right.make wording)
  | .not operand => return .not (← operand.make)
  | .and left right => return .and (← left.make) (← right.make)
  | .or left right => return .or (← left.make) (← right.make)

def StartCall.make : StartCall Gap → Building Start
  | .sql text => call (Start.ofText (wording.text text))
  | .select fields => return .select (← FieldCall.makeAll wording fields)
  | .insertInto table => return .insertInto (← table.make wording)
  | .update table => return .update (← table.make wording)
  | .deleteFrom table => return .deleteFrom (← table.make wording)

def ClauseCall.make : ClauseCall Gap → Building Clause
  | .source table => return .source (← table.make wording)
  | .join table => return .join (← table.make wording)
  | .leftJoin table => return .leftJoin (← table.make wording)
  | .on predicate => return .on (← predicate.make wording)
  | .where condition => return .where (← condition.make wording)
  | .and condition => return .and (← condition.make wording)
  | .or condition => return .or (← condition.make wording)
  | .wherePredicate predicate => return .wherePredicate (← predicate.make wording)
  | .andPredicate predicate => return .andPredicate (← predicate.make wording)
  | .orPredicate predicate => return .orPredicate (← predicate.make wording)
  | .groupBy fields => return .groupBy (← FieldCall.makeAll wording fields)
  | .orderBy fields => return .orderBy (← FieldCall.makeAll wording fields)
  | .ascending => return .ascending
  | .descending => return .descending
  | .limit count => return .limit count
  | .offset count => return .offset count
  | .raw text => call (Clause.ofText (wording.text text))
  | .values fields => return .values (← FieldCall.makeAll wording fields)
  | .set fields => return .set (← FieldCall.makeAll wording fields)

namespace DraftCalls

def makeFrom (draft : Draft) : List (ClauseCall Gap) → Building Draft
  | [] => return draft
  | clause :: clauses => do makeFrom (draft.add (← clause.make wording)) clauses

def make (calls : DraftCalls Gap) : Building Draft := do
  makeFrom wording (.ofStart (← calls.start.make wording)) calls.clauses

end DraftCalls

end

end SqlProgram
