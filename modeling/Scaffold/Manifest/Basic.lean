import Scaffold.Value.Basic
import Scaffold.Text.Case

/-!
# Manifests

A manifest names the entities of an application and the fields of each. Every
attribute that may be left out records whether it was supplied, so that a
manifest can be written back with exactly what was given.
-/

namespace Scaffold

inductive ScalarKind where
  | id
  | string
  | number
  | boolean
  | date
  | json
  | uuid
  deriving DecidableEq

inductive Cardinality where
  | one
  | many
  deriving DecidableEq

/-- An attribute that may be left out or be null. -/
inductive Attribute (α : Type) where
  | unset
  | null
  | set (a : α)
  deriving DecidableEq

namespace Attribute

def toOption {α : Type} : Attribute α → Option α
  | .set a => some a
  | _ => none

def holds (a : Attribute Bool) : Bool := a.toOption.getD false

end Attribute

/-- What scalar and relation fields share. -/
structure FieldInfo where
  name : String
  description : Attribute String
  required : Attribute Bool
  unique : Attribute Bool
  nullable : Attribute Bool
  default : Option Value

structure ScalarField extends FieldInfo where
  kind : ScalarKind

structure Relation where
  entity : String
  field : Attribute String
  type : Cardinality

structure RelationField extends FieldInfo where
  relation : Relation

inductive Field where
  | scalar (f : ScalarField)
  | relation (f : RelationField)

structure Entity where
  name : String
  table : Attribute String
  fields : List Field

structure Manifest where
  id : String
  name : String
  version : String
  generators : Attribute Entries
  entities : List Entity
  relations : Attribute Entries

/-! ## Kinds -/

namespace ScalarKind

def all : List ScalarKind := [.id, .string, .number, .boolean, .date, .json, .uuid]

def name : ScalarKind → String
  | .id => "id"
  | .string => "string"
  | .number => "number"
  | .boolean => "boolean"
  | .date => "date"
  | .json => "json"
  | .uuid => "uuid"

def ofName? (s : String) : Option ScalarKind := all.find? fun k => k.name = s

/-- Kinds whose values the application makes up itself. -/
def isIdentity : ScalarKind → Bool
  | .id | .uuid => true
  | _ => false

end ScalarKind

namespace Cardinality

def all : List Cardinality := [.one, .many]

def name : Cardinality → String
  | .one => "one"
  | .many => "many"

def ofName? (s : String) : Option Cardinality := all.find? fun c => c.name = s

end Cardinality

def relationKindName : String := "relation"

/-! ## Fields and entities -/

namespace Field

def info : Field → FieldInfo
  | .scalar f => f.toFieldInfo
  | .relation f => f.toFieldInfo

def name (f : Field) : String := f.info.name

def kindName : Field → String
  | .scalar f => f.kind.name
  | .relation _ => relationKindName

def isIdentity : Field → Bool
  | .scalar f => f.kind.isIdentity
  | .relation _ => false

def scalar? : Field → Option ScalarField
  | .scalar f => some f
  | .relation _ => none

def relation? : Field → Option RelationField
  | .scalar _ => none
  | .relation f => some f

end Field

namespace Entity

def tableName (e : Entity) : String :=
  match e.table with
  | .set t => if t.isEmpty then Text.lower e.name else t
  | _ => Text.lower e.name

def pageName (e : Entity) : String := Text.lower e.name

def routeSegment (e : Entity) : String := e.pageName ++ "s"

def scalarFields (e : Entity) : List ScalarField := e.fields.filterMap Field.scalar?
def relationFields (e : Entity) : List RelationField := e.fields.filterMap Field.relation?

end Entity

namespace Manifest

def entity? (m : Manifest) (name : String) : Option Entity := m.entities.find? (·.name = name)

end Manifest

end Scaffold
