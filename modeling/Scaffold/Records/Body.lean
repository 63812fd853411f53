import Scaffold.Manifest.Keys
import Scaffold.Value.Literal

/-!
# Body classes

The module of classes that check what goes in and out of an application: for
each entity one to read, one to create and one to update.
-/

namespace Scaffold.Body

structure Attribute where
  name : String
  type : String
  /-- The literal of the default of an attribute that may be left out. -/
  default : Option String

structure Class where
  name : String
  attributes : List Attribute

def valueType : ScalarKind → String
  | .id | .uuid | .string => "str"
  | .number => "float"
  | .boolean => "bool"
  | .date => "datetime"
  | .json => "Any"

def Attribute.ofField (partly : Bool) (f : ScalarField) : Attribute :=
  ⟨f.name, valueType f.kind,
    if partly then some (Value.literal .null)
    else if f.isRequired && !f.isNullable then none
    else some (f.default.getD .null).literal⟩

def classes (e : Entity) : List Class := [
  ⟨e.name ++ "Schema", e.scalarFields.map (Attribute.ofField false)⟩,
  ⟨"Create" ++ e.name ++ "Schema", e.writableFields.map (Attribute.ofField false)⟩,
  ⟨"Update" ++ e.name ++ "Schema", e.writableFields.map (Attribute.ofField true)⟩]

def Attribute.render (a : Attribute) : String :=
  match a.default with
  | some d => a.name ++ ": Optional[" ++ a.type ++ "] = " ++ d
  | none => a.name ++ ": " ++ a.type

def Class.lines (c : Class) : List String :=
  ("class " ++ c.name ++ "(BaseModel):") ::
    if c.attributes.isEmpty then ["    pass"] else c.attributes.map fun a => "    " ++ a.render

def moduleText (m : Manifest) : String :=
  let head := [
    "\"\"\"Pydantic validation schemas.",
    "",
    m.sourceBanner,
    "\"\"\"",
    "",
    "from __future__ import annotations",
    "",
    "from datetime import datetime",
    "from typing import Any, Optional",
    "",
    "from pydantic import BaseModel"]
  let body := (m.entities.flatMap classes).flatMap fun c => "" :: "" :: c.lines
  "\n".intercalate (head ++ body ++ [""])

end Scaffold.Body
