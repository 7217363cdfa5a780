/-!
The types that a PostgreSQL server gives to parameters and columns.
-/

namespace SqlProgram.Postgres

inductive WireType where
  | bool
  | int2
  | int4
  | int8
  | oid
  | float4
  | float8
  | numeric
  | text
  | varchar
  | bpchar
  | name
  | unknown
  | bytea
  | uuid
  | date
  | timestamp
  | timestamptz
  | json
  | jsonb
  /-- A type that no value stands for. -/
  | other (typeName : String)
  deriving DecidableEq

namespace WireType

def typeName : WireType → String
  | .bool => "bool"
  | .int2 => "int2"
  | .int4 => "int4"
  | .int8 => "int8"
  | .oid => "oid"
  | .float4 => "float4"
  | .float8 => "float8"
  | .numeric => "numeric"
  | .text => "text"
  | .varchar => "varchar"
  | .bpchar => "bpchar"
  | .name => "name"
  | .unknown => "unknown"
  | .bytea => "bytea"
  | .uuid => "uuid"
  | .date => "date"
  | .timestamp => "timestamp"
  | .timestamptz => "timestamptz"
  | .json => "json"
  | .jsonb => "jsonb"
  | .other typeName => typeName

def known : List WireType :=
  [.bool, .int2, .int4, .int8, .oid, .float4, .float8, .numeric, .text, .varchar, .bpchar, .name,
    .unknown, .bytea, .uuid, .date, .timestamp, .timestamptz, .json, .jsonb]

def ofName (typeName : String) : WireType :=
  (known.find? fun type => type.typeName == typeName).getD (.other typeName)

def isTextual : WireType → Bool
  | .text | .varchar | .bpchar | .name | .unknown => true
  | _ => false

end WireType

end SqlProgram.Postgres
