import Scaffold.Manifest.Basic
import Scaffold.Text.Quoted

/-!
# Keys and columns of an entity

Which field is the primary key, which columns are added to an entity's own, and
which fields a client may write.
-/

namespace Scaffold

def timestampNames : List String := ["created_at", "updated_at"]

namespace ScalarField

def isRequired (f : ScalarField) : Bool := f.required.holds
def isUnique (f : ScalarField) : Bool := f.unique.holds
def isNullable (f : ScalarField) : Bool := f.nullable.holds

end ScalarField

namespace Entity

def primaryKey (e : Entity) : String :=
  match e.fields.find? Field.isIdentity with
  | some f => f.name
  | none => "id"

/-- The declared field that is the primary key: the first that identifies, and failing that one
named `id`. -/
def keyField? (e : Entity) : Option ScalarField :=
  (e.scalarFields.find? (·.kind.isIdentity)).or (e.scalarFields.find? (·.name = "id"))

def isPrimaryKey (e : Entity) (f : ScalarField) : Bool :=
  match e.keyField? with
  | some key => f.name = key.name
  | none => false

def needsSyntheticKey (e : Entity) : Bool := e.keyField?.isNone

/-- Whether the application makes up the key of a new record. -/
def serverAssignsKey (e : Entity) : Bool :=
  match e.keyField? with
  | some key => key.kind.isIdentity
  | none => true

/-- The timestamps that no field of the entity takes the place of. -/
def addedTimestamps (e : Entity) : List String :=
  timestampNames.filter fun n => !e.scalarFields.any (·.name = n)

/-- The fields a client may write: all but a key that the application makes up. -/
def writableFields (e : Entity) : List ScalarField :=
  if e.serverAssignsKey then e.scalarFields.filter fun f => !e.isPrimaryKey f else e.scalarFields

end Entity

namespace Manifest

def sourceBanner (m : Manifest) : String :=
  "Generated from the " ++ Text.literal m.name ++ " manifest (" ++ m.id ++ " v" ++ m.version ++ ")."

end Manifest

end Scaffold
