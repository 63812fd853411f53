import Scaffold.Manifest.Keys
import Scaffold.Value.JsonText

/-!
# Schemas of request bodies

A JSON Schema document with, for each entity, the bodies that create and
update a record.
-/

namespace Scaffold.RequestBodies

/-- The type of a property's values, and the format of their text. -/
def propertyType : ScalarKind → List (String × Value)
  | .id | .string => [("type", .text "string")]
  | .uuid => [("type", .text "string"), ("format", .text "uuid")]
  | .number => [("type", .text "number")]
  | .boolean => [("type", .text "boolean")]
  | .date => [("type", .text "string"), ("format", .text "date-time")]
  | .json => []

def orNull (es : List (String × Value)) : List (String × Value) :=
  es.map fun e => if e.1 = "type" then ("type", .list [e.2, .text "null"]) else e

def property (f : ScalarField) : Value :=
  let type := propertyType f.kind
  .ofFields ((if f.isNullable then orNull type else type) ++
    (match f.description.toOption with
      | some d => if d.isEmpty then [] else [("description", .text d)]
      | none => []) ++
    (f.default.map fun v => ("default", v)).toList)

def keyed {α : Type} (key : α → String) (value : α → Value) (xs : List α) : Value :=
  .map (Entries.ofList (xs.map fun x => (.text (key x), value x)))

def body (partly : Bool) (fields : List ScalarField) : Value :=
  let required := if partly then [] else (fields.filter (·.isRequired)).map (·.name)
  .ofFields ([
    ("type", .text "object"),
    ("properties", keyed (·.name) property fields),
    ("additionalProperties", .bool false)] ++
    (if required.isEmpty then [] else [("required", .ofTexts required)]))

def entityBodies (e : Entity) : Value := .ofFields [
  ("create", body false e.writableFields),
  ("update", body true e.writableFields)]

def document (m : Manifest) : Value := .ofFields [
  ("$schema", .text "https://json-schema.org/draft/2020-12/schema"),
  ("title", .text (m.name ++ " request bodies")),
  ("entities", keyed (·.name) entityBodies m.entities)]

def text (m : Manifest) : Except JsonFault String :=
  ((document m).writeJson .document 0).map (· ++ "\n")

end Scaffold.RequestBodies
