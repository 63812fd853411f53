import Scaffold.Value.JsonText

/-!
# SQL statements

The statements that make and unmake the tables of an application, with their
written form. The literal of a default is a text between single quotes with each
quote doubled, a number as it is, or the text of the JSON of a list or mapping.
-/

namespace Scaffold.Sql

inductive ColumnType where
  | text
  | real
  | integer
  deriving DecidableEq

inductive Constraint where
  /-- A key, never null. -/
  | primaryKey
  | notNull
  | unique
  /-- A default, as the text of its literal. -/
  | default (literal : String)
  deriving DecidableEq

structure Column where
  name : String
  type : ColumnType
  constraints : List Constraint
  deriving DecidableEq

inductive Statement where
  | createTable (table : String) (columns : List Column)
  | createUniqueIndex (index table column : String)
  | dropIndex (index : String)
  | dropTable (table : String)
  deriving DecidableEq

def ColumnType.render : ColumnType → String
  | .text => "TEXT"
  | .real => "REAL"
  | .integer => "INTEGER"

def Constraint.render : Constraint → String
  | .primaryKey => "PRIMARY KEY NOT NULL"
  | .notNull => "NOT NULL"
  | .unique => "UNIQUE"
  | .default literal => "DEFAULT " ++ literal

def Column.render (c : Column) : String :=
  " ".intercalate (c.name :: c.type.render :: c.constraints.map Constraint.render)

/-- A statement in lines; a table's columns are one of them. -/
def Statement.lines : Statement → List String
  | .createTable table columns => [
      "CREATE TABLE IF NOT EXISTS " ++ table ++ " (",
      ",\n".intercalate (columns.map fun c => "  " ++ c.render),
      ");"]
  | .createUniqueIndex index table column =>
    ["CREATE UNIQUE INDEX IF NOT EXISTS " ++ index ++ " ON " ++ table ++ " (" ++ column ++ ");"]
  | .dropIndex index => ["DROP INDEX IF EXISTS " ++ index ++ ";"]
  | .dropTable table => ["DROP TABLE IF EXISTS " ++ table ++ ";"]

/-! ## Literals -/

def quotedChars : List Char → List Char
  | [] => []
  | c :: rest => if c = '\'' then '\'' :: '\'' :: quotedChars rest else c :: quotedChars rest

def quoted (s : String) : String := String.ofList ('\'' :: quotedChars s.toList ++ ['\''])

def literal : Value → Except JsonFault String
  | .null => .ok "NULL"
  | .bool b => .ok (if b then "1" else "0")
  | .int n => .ok (Value.intText n)
  | .real x => .ok (NumberStyle.literal.render x)
  | .text s => .ok (quoted s)
  | v => v.json.map quoted

end Scaffold.Sql
