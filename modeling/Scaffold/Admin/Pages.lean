import Scaffold.Manifest.Keys
import Scaffold.Page.Components
import Scaffold.Page.DetailPage
import Scaffold.Page.Fill
import Scaffold.Page.ListPage
import Scaffold.Page.NewPage

/-!
# Admin pages

For each entity a page that lists its records, one that creates and one that
changes a record, and the form and the table they are made of. Two entities
whose names differ only in case would share their pages, so they are refused.
-/

namespace Scaffold

/-- Texts by path, in the order in which they were first written. -/
abbrev TextFiles := List (String × String)

namespace TextFiles

def put : TextFiles → String → String → TextFiles
  | [], path, text => [(path, text)]
  | (p, t) :: rest, path, text =>
    if p = path then (p, text) :: rest else (p, t) :: put rest path text

def putAll (files more : TextFiles) : TextFiles := more.foldl (fun fs f => put fs f.1 f.2) files

end TextFiles

namespace Admin

structure Pages where
  routes : TextFiles
  components : TextFiles

def Pages.empty : Pages := ⟨[], []⟩

inductive PageFault where
  /-- The name of an entity and the earlier name that it differs from only in case. -/
  | conflict (name other : String)
  | fill (fault : FillFault)

def conflictMessage (name other : String) : String :=
  "Entity names " ++ Text.literal other ++ " and " ++ Text.literal name ++
    " both produce admin pages under " ++ Text.literal (Text.lower name) ++
    "; rename one of them"

def columnLimit : Nat := 4

def inputType : ScalarKind → String
  | .id | .uuid | .string => "text"
  | .number => "number"
  | .boolean => "checkbox"
  | .date => "datetime-local"
  | .json => "textarea"

def fieldContext (editable : Bool) (f : ScalarField) : Value := .ofFields [
  ("name", .text f.name),
  ("kind", .text f.kind.name),
  ("input", .text (inputType f.kind)),
  ("required", .bool f.isRequired),
  ("default", f.default.getD .null),
  ("editable", .bool editable)]

def entityContext (e : Entity) : Value :=
  let writable := e.writableFields.map (·.name)
  .ofFields [
    ("name", .text e.name),
    ("lower", .text e.pageName),
    ("plural", .text e.routeSegment),
    ("primary_key", .text e.primaryKey),
    ("columns", .ofTexts ((e.scalarFields.map (·.name)).take columnLimit)),
    ("form_fields", .list (e.writableFields.map (fieldContext true))),
    ("detail_fields",
      .list (e.scalarFields.map fun f => fieldContext (writable.contains f.name) f))]

def context (e : Entity) : Entries := [(.text "entity", entityContext e)]

def entityRoutes (e : Entity) : Except FillFault TextFiles := do
  let c := context e
  return [
    (e.pageName ++ "/index.html", ← Page.listPage.fill c),
    (e.pageName ++ "/new.html", ← Page.newPage.fill c),
    (e.pageName ++ "/detail.html", ← Page.detailPage.fill c)]

def entityComponents (e : Entity) : Except FillFault TextFiles := do
  let c := context e
  return [
    (e.pageName ++ "-form.html", ← Page.formPart.fill c),
    (e.pageName ++ "-table.html", ← Page.tablePart.fill c)]

/-- Adds the pages of entities to those of the entities before them, whose page names and names
are given. -/
def addPages (owners : List (String × String)) (pages : Pages) :
    List Entity → Except PageFault Pages
  | [] => .ok pages
  | e :: rest =>
    match owners.lookup e.pageName with
    | some other => .error (.conflict e.name other)
    | none =>
      match entityRoutes e, entityComponents e with
      | .ok routes, .ok components =>
        addPages (owners ++ [(e.pageName, e.name)])
          ⟨pages.routes.putAll routes, pages.components.putAll components⟩ rest
      | .error fault, _ | _, .error fault => .error (.fill fault)

def pages (m : Manifest) : Except PageFault Pages := addPages [] .empty m.entities

end Admin

end Scaffold
