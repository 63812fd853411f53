import Scaffold.Manifest.Basic
import Scaffold.Schema.Basic

/-!
# Names in a manifest

Entity names are distinct, field names are distinct within an entity, and a
relation names an entity. The first violation is reported, entities in order
and within an entity its fields in order.
-/

namespace Scaffold

inductive NameFault where
  | duplicateEntity (name : String) (index previous : Nat)
  | duplicateField (name : String) (entity index previous : Nat)
  | unknownTarget (target : String) (entity index : Nat)

namespace NameFault

def path : NameFault → Path
  | .duplicateEntity _ i _ => [.text "entities", .int i, .text "name"]
  | .duplicateField _ e i _ =>
    [.text "entities", .int e, .text "fields", .int i, .text "name"]
  | .unknownTarget _ e i =>
    [.text "entities", .int e, .text "fields", .int i, .text "relation", .text "entity"]

def message : NameFault → String
  | .duplicateEntity name _ previous =>
    "Duplicate entity name " ++ Text.jsonString name ++ " (already used at $.entities[" ++
      toString previous ++ "].name)"
  | .duplicateField name e _ previous =>
    "Duplicate field name " ++ Text.jsonString name ++ " (already used at $.entities[" ++
      toString e ++ "].fields[" ++ toString previous ++ "].name)"
  | .unknownTarget target _ _ => "Unknown entity " ++ Text.jsonString target

def issue (f : NameFault) : Issue := ⟨f.message, f.path⟩

end NameFault

namespace Manifest

/-- The first fault among fields, given the names of the fields before them. -/
def fieldFault (known : List String) (entity : Nat) (before : List String) :
    List Field → Option NameFault
  | [] => none
  | f :: rest =>
    match before.idxOf? f.name with
    | some previous => some (.duplicateField f.name entity before.length previous)
    | none =>
      match f.relation? with
      | some r =>
        if known.contains r.relation.entity then
          fieldFault known entity (before ++ [f.name]) rest
        else some (.unknownTarget r.relation.entity entity before.length)
      | none => fieldFault known entity (before ++ [f.name]) rest

/-- The first fault among entities, given the names of the entities before them. -/
def entityFault (known before : List String) : List Entity → Option NameFault
  | [] => none
  | e :: rest =>
    match before.idxOf? e.name with
    | some previous => some (.duplicateEntity e.name before.length previous)
    | none =>
      match fieldFault known before.length [] e.fields with
      | some fault => some fault
      | none => entityFault known (before ++ [e.name]) rest

def nameFault? (m : Manifest) : Option NameFault :=
  entityFault (m.entities.map (·.name)) [] m.entities

end Manifest

end Scaffold
