import SqlProgram.Row.Basic
import SqlProgram.Statement.Basic

/-!
The leaves of programs: single operations on a database.
-/

namespace SqlProgram

inductive LeafKind where
  /-- Changes rows; how many is known afterwards. -/
  | update
  /-- Changes rows in a transaction of its own and reads a column of one of them. -/
  | updateReturning (column : String)
  /-- Reads exactly one row. -/
  | query
  /-- Reads the first row, if there is one. -/
  | queryOne
  | queryIterable
  /-- Reads no row, only which columns there would be. -/
  | queryMeta
  deriving DecidableEq

namespace LeafKind

@[reducible] def Answer : LeafKind → Type
  | .update => Nat
  | .updateReturning _ => Option Row
  | .query => Row
  | .queryOne => Option Row
  | .queryIterable => List Row
  | .queryMeta => RowLayout

def name : LeafKind → String
  | .update => "update"
  | .updateReturning _ => "update_returning"
  | .query => "query"
  | .queryOne => "query_one"
  | .queryIterable => "query_iterable"
  | .queryMeta => "query_meta"

def shown : LeafKind → String
  | .update => "Update"
  | .updateReturning _ => "UpdateReturning"
  | .query => "Query"
  | .queryOne => "QueryOne"
  | .queryIterable => "QueryIterable"
  | .queryMeta => "QueryMeta"

end LeafKind

structure Leaf where
  kind : LeafKind
  statement : Statement

namespace Leaf

@[reducible] def Answer (leaf : Leaf) : Type := leaf.kind.Answer

def shown (leaf : Leaf) : String :=
  "Program::Step \x7b kind: " ++ leaf.kind.shown ++ ", sql: " ++
    Text.Escaped.enclose leaf.statement.sql ++ " \x7d"

end Leaf

end SqlProgram
