import Scaffold.Manifest.Basic

/-!
# Manifests as values

A manifest is written as a mapping with the attributes that were supplied, in
a fixed order.
-/

namespace Scaffold

def Attribute.entry {α : Type} (name : String) (write : α → Value) : Attribute α → List (String × Value)
  | .unset => []
  | .null => [(name, .null)]
  | .set a => [(name, write a)]

def Relation.toValue (r : Relation) : Value :=
  .ofFields ([("entity", .text r.entity)] ++ r.field.entry "field" .text ++
    [("type", .text r.type.name)])

def FieldInfo.entries (i : FieldInfo) : List (String × Value) :=
  [("name", .text i.name)] ++ i.description.entry "description" .text ++
    i.required.entry "required" .bool ++ i.unique.entry "unique" .bool ++
    i.nullable.entry "nullable" .bool ++ (i.default.map fun v => ("default", v)).toList

def Field.entries (f : Field) : List (String × Value) :=
  f.info.entries ++ [("kind", .text f.kindName)] ++
    (f.relation?.map fun r => ("relation", r.relation.toValue)).toList

def Field.toValue (f : Field) : Value := .ofFields f.entries

def Entity.toValue (e : Entity) : Value :=
  .ofFields ([("name", .text e.name)] ++ e.table.entry "table" .text ++
    [("fields", .list (e.fields.map Field.toValue))])

def Manifest.entries (m : Manifest) : List (String × Value) :=
  [("id", .text m.id), ("name", .text m.name), ("version", .text m.version)] ++
    m.generators.entry "generators" .map ++
    [("entities", .list (m.entities.map Entity.toValue))] ++ m.relations.entry "relations" .map

def Manifest.toValue (m : Manifest) : Value := .ofFields m.entries

end Scaffold
