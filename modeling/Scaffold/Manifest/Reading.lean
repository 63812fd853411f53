import Scaffold.Manifest.Basic
import Scaffold.Value.Coerce

/-!
# Values read as manifests

The typed reading of a manifest asks only for the types of its attributes.
Names may be empty or repeated and relations may point nowhere.
-/

namespace Scaffold

open Coerced

namespace Attribute

def ofReading {α : Type} : Option (Option α) → Attribute α
  | none => .unset
  | some none => .null
  | some (some a) => .set a

end Attribute

def Entries.wantAttribute {α : Type} (es : Entries) (key : String) (read : Value → Coerced α) :
    Coerced (Attribute α) :=
  (es.want key (Value.asNullable read)).map Attribute.ofReading

def Value.asModel {α : Type} (fault : TypeFault) (read : Entries → Coerced α) : Value → Coerced α
  | .map es => read es
  | _ => fail fault

def Value.asChoice {α : Type} (ofName? : String → Option α) : Value → Coerced α
  | .text s => match ofName? s with
    | some a => .ok a
    | none => fail .choice
  | _ => fail .choice

def Relation.ofEntries (es : Entries) : Coerced Relation :=
  (both (es.need "entity" Value.asText) (both (es.wantAttribute "field" Value.asText)
    (es.need "type" (Value.asChoice Cardinality.ofName?)))).map
    fun (entity, field, type) => ⟨entity, field, type⟩

def FieldInfo.ofEntries (es : Entries) : Coerced FieldInfo :=
  (both (es.need "name" Value.asText) (both (es.wantAttribute "description" Value.asText)
    (both (es.wantAttribute "required" Value.asTruth)
      (both (es.wantAttribute "unique" Value.asTruth)
        (es.wantAttribute "nullable" Value.asTruth))))).map
    fun (name, description, required, unique, nullable) =>
      ⟨name, description, required, unique, nullable, es.getText? "default"⟩

/-- The kind says which attributes a field has. -/
def Field.ofEntries (es : Entries) : Coerced Field :=
  match es.getText? "kind" with
  | none => fail .tagAbsent
  | some (.text kind) =>
    if kind = relationKindName then
      under (.text kind) ((both (FieldInfo.ofEntries es)
        (es.need "relation" (Value.asModel .model Relation.ofEntries))).map
          fun (info, target) => .relation ⟨info, target⟩)
    else match ScalarKind.ofName? kind with
      | some k => under (.text kind) ((FieldInfo.ofEntries es).map
          fun info => .scalar ⟨info, k⟩)
      | none => fail .tagUnknown
  | some _ => fail .tagUnknown

def Entity.ofEntries (es : Entries) : Coerced Entity :=
  (both (es.need "name" Value.asText) (both (es.wantAttribute "table" Value.asText)
    (es.need "fields" (Value.asList .tuple (Value.asModel .tagged Field.ofEntries))))).map
    fun (name, table, fields) => ⟨name, table, fields⟩

def Manifest.ofEntries (es : Entries) : Coerced Manifest :=
  (both (es.need "id" Value.asText) (both (es.need "name" Value.asText)
    (both (es.need "version" Value.asText)
      (both (es.wantAttribute "generators" Value.asTextMap)
        (both (es.need "entities" (Value.asList .tuple (Value.asModel .model Entity.ofEntries)))
          (es.wantAttribute "relations" Value.asTextMap)))))).map
    fun (id, name, version, generators, entities, relations) =>
      ⟨id, name, version, generators, entities, relations⟩

def Manifest.ofValue (v : Value) : Coerced Manifest := Value.asModel .model Manifest.ofEntries v

end Scaffold
