import Scaffold.Value.JsonText

/-!
# Schemas

A schema says which values are accepted and what is taken over from them. A
complaint is an issue: a message and the path to the value it is about.
-/

namespace Scaffold

structure Issue where
  message : String
  path : Path

inductive Refinement where
  | minLength (minimum : Int) (message : String)
  /-- A refinement that says nothing yet: it cannot be applied. -/
  | undefined

inductive Schema where
  | text
  | truth
  | anything
  | literal (expected : Value)
  | array (item : Schema)
  | record (key value : Schema)
  | object (shape : List (String × Schema))
  | union (alternatives : List Schema)
  | optional (inner : Schema)
  | refined (inner : Schema) (refinements : List Refinement)
  /-- A schema that says nothing yet: no value can be held against it. -/
  | undefined

instance : Inhabited Schema := ⟨.undefined⟩

/-- What keeps a value from being held against a schema at all. -/
inductive SchemaFault where
  | undefined
  | noLength (type : String)
  | unhashable (type : String)
  | noText (fault : JsonFault)

def SchemaFault.message : SchemaFault → String
  | .undefined => ""
  | .noLength type => "object of type '" ++ type ++ "' has no len()"
  | .unhashable type => "unhashable type: '" ++ type ++ "'"
  | .noText fault => fault.message

namespace Refinement

def minItems (minimum : Int) : Refinement :=
  .minLength minimum ("Expected at least " ++ Value.intText minimum ++ " item(s)")

end Refinement

namespace Schema

def isOptional : Schema → Bool
  | .optional _ => true
  | .refined inner _ => inner.isOptional
  | _ => false

def putProperty : List (String × Schema) → String → Schema → List (String × Schema)
  | [], k, s => [(k, s)]
  | (k', s') :: rest, k, s => if k' = k then (k, s) :: rest else (k', s') :: putProperty rest k s

/-- An object schema; of two schemas for one property the last counts, at the first's place. -/
def ofProperties (ps : List (String × Schema)) : Schema :=
  .object (ps.foldl (fun shape p => putProperty shape p.1 p.2) [])

end Schema

end Scaffold
