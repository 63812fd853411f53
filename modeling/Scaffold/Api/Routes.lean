import Scaffold.Manifest.Keys
import Scaffold.Page.ApiDocs
import Scaffold.Page.Fill
import Scaffold.Page.RouterModule

/-!
# Routers

The module with a router for each entity, and the list of their endpoints.
-/

namespace Scaffold.Routes

/-- The type of a key in an address; text unless the client supplies a number or truth value. -/
def keyType (e : Entity) : String :=
  match e.keyField? with
  | none => "str"
  | some key =>
    match key.kind with
    | .number => "float"
    | .boolean => "bool"
    | _ => "str"

def entityContext (e : Entity) : Value := .ofFields [
  ("name", .text e.name),
  ("var", .text e.pageName),
  ("plural", .text e.routeSegment),
  ("primary_key", .text e.primaryKey),
  ("key_type", .text (keyType e)),
  ("assigns_key", .bool e.serverAssignsKey),
  ("touches_updated_at", .bool (e.addedTimestamps.contains "updated_at"))]

def context (m : Manifest) : Entries := [
  (.text "banner", .text m.sourceBanner),
  (.text "entities", .list (m.entities.map entityContext))]

def text (m : Manifest) : Except FillFault String := Page.routerModule.fill (context m)

end Scaffold.Routes

namespace Scaffold.ApiDocs

def fieldContext (f : ScalarField) : Value := .ofFields [
  ("name", .text f.name),
  ("kind", .text f.kind.name),
  ("required", .bool f.isRequired)]

def entityContext (e : Entity) : Value := .ofFields [
  ("name", .text e.name),
  ("plural", .text e.routeSegment),
  ("fields", .list (e.scalarFields.map fieldContext))]

def context (m : Manifest) : Entries := [
  (.text "manifest_name", .text m.name),
  (.text "manifest_version", .text m.version),
  (.text "entities", .list (m.entities.map entityContext))]

def text (m : Manifest) : Except FillFault String := Page.apiDocs.fill (context m)

end Scaffold.ApiDocs
