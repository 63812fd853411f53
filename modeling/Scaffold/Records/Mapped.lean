import Scaffold.Manifest.Keys
import Scaffold.Sql.Statement

/-!
# Mapped classes

The module of classes that map the tables of an application, one class for
each entity, relations apart.
-/

namespace Scaffold.Mapped

inductive Option where
  | primaryKey
  | nullable (b : Bool)
  | unique
  /-- A default that the database fills in, as the text of its SQL literal. -/
  | serverDefault (literal : String)
  deriving DecidableEq

structure Attribute where
  name : String
  type : String
  optional : Bool
  /-- The literal of the column's name. -/
  column : String
  columnType : String
  options : List Option

structure Class where
  name : String
  table : String
  attributes : List Attribute

/-! ## Types -/

def storedType : ScalarKind → String
  | .id | .uuid => "String"
  | .string | .date => "Text"
  | .number => "Float"
  | .boolean => "Boolean"
  | .json => "JSON"

/-- The type of an attribute's values; dates are kept as text. -/
def valueType : ScalarKind → String
  | .id | .uuid | .string | .date => "str"
  | .number => "float"
  | .boolean => "bool"
  | .json => "Any"

def hasServerDefault : ScalarKind → Bool
  | .string | .number | .boolean => true
  | _ => false

/-! ## Classes -/

def syntheticKey : Attribute := ⟨"id", "str", false, "\"id\"", "String", [.primaryKey]⟩

def timestamp (name : String) : Attribute :=
  ⟨name, "str", true, "\"" ++ name ++ "\"", "Text", [.serverDefault "\"CURRENT_TIMESTAMP\""]⟩

def Attribute.ofField (e : Entity) (f : ScalarField) : Except JsonFault Attribute := do
  let type := valueType f.kind
  let column := Text.literal f.name
  if e.isPrimaryKey f then
    return ⟨f.name, type, false, column, storedType f.kind, [.primaryKey]⟩
  let nullable := !f.isRequired || f.isNullable
  let default ← match f.default with
    | some v =>
      if hasServerDefault f.kind then do
        pure [Option.serverDefault (Text.literal (← Sql.literal v))]
      else pure []
    | none => pure []
  return ⟨f.name, type, nullable, column, storedType f.kind,
    [.nullable nullable] ++ (if f.isUnique then [.unique] else []) ++ default⟩

def Class.ofEntity (e : Entity) : Except JsonFault Class := do
  let declared ← e.scalarFields.mapM (Attribute.ofField e)
  return ⟨e.name, e.tableName,
    (if e.needsSyntheticKey then [syntheticKey] else []) ++ declared ++
      e.addedTimestamps.map timestamp⟩

/-! ## Printing -/

def Option.render : Option → String
  | .primaryKey => "primary_key=True"
  | .nullable b => "nullable=" ++ Value.literal (.bool b)
  | .unique => "unique=True"
  | .serverDefault literal => "server_default=text(" ++ literal ++ ")"

def Attribute.render (a : Attribute) : String :=
  let annotation := if a.optional then "Optional[" ++ a.type ++ "]" else a.type
  a.name ++ ": Mapped[" ++ annotation ++ "] = mapped_column(" ++
    ", ".intercalate (a.column :: a.columnType :: a.options.map Option.render) ++ ")"

def Class.lines (c : Class) : List String :=
  ["class " ++ c.name ++ "(Base):", "    __tablename__ = " ++ Text.literal c.table, ""] ++
    c.attributes.map fun a => "    " ++ a.render

def classes (m : Manifest) : Except JsonFault (List Class) := m.entities.mapM Class.ofEntity

def source (m : Manifest) (cs : List Class) : String :=
  let head := [
    "\"\"\"SQLAlchemy models.",
    "",
    m.sourceBanner,
    "\"\"\"",
    "",
    "from __future__ import annotations",
    "",
    "from typing import Any, Optional",
    "",
    "from sqlalchemy import JSON, Boolean, Float, String, Text, text",
    "from sqlalchemy.orm import DeclarativeBase, Mapped, mapped_column",
    "",
    "",
    "class Base(DeclarativeBase):",
    "    pass"]
  "\n".intercalate (head ++ cs.flatMap (fun c => "" :: "" :: c.lines) ++ [""])

def moduleText (m : Manifest) : Except JsonFault String := do
  return source m (← classes m)

end Scaffold.Mapped
