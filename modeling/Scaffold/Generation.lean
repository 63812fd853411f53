import Scaffold.Admin.Assets
import Scaffold.Api.RequestBodies
import Scaffold.Api.Routes
import Scaffold.Api.Settings
import Scaffold.Interface.Endpoints
import Scaffold.Records.Body
import Scaffold.Records.Mapped
import Scaffold.Sql.Migration

/-!
# Generation

What is generated from a manifest comes in groups, each of one or more pieces.
A run makes either all groups but the skipped ones or the groups asked for, in
the order they are asked for.
-/

namespace Scaffold

inductive Group where
  | schema
  | types
  | routes
  | config
  | migrations
  | admin
  deriving DecidableEq

namespace Group

def all : List Group := [.schema, .types, .routes, .config, .migrations, .admin]

def name : Group → String
  | .schema => "schema"
  | .types => "types"
  | .routes => "routes"
  | .config => "config"
  | .migrations => "migrations"
  | .admin => "admin"

def names : List String := all.map name

def ofName? (s : String) : Option Group := all.find? fun g => g.name = s

end Group

/-! ## Pieces -/

inductive Piece where
  | schema (text : String)
  | validationSchemas (text : String)
  | types (text : String)
  | apiTypes (text : String)
  | routes (text : String)
  | requestSchemas (text : String)
  | config (text : String)
  | migrations (text : String)
  | rollback (text : String)
  | admin (pages : Admin.Pages)
  | adminAssets (files : TextFiles)
  | adminAssetsModule (text : String)

def Piece.key : Piece → String
  | .schema _ => "schema"
  | .validationSchemas _ => "validation_schemas"
  | .types _ => "types"
  | .apiTypes _ => "api_types"
  | .routes _ => "routes"
  | .requestSchemas _ => "request_schemas"
  | .config _ => "config"
  | .migrations _ => "migrations"
  | .rollback _ => "rollback"
  | .admin _ => "admin"
  | .adminAssets _ => "admin_assets"
  | .adminAssetsModule _ => "admin_assets_module"

/-- All pieces of a run; what was skipped is empty. -/
structure Output where
  schema : String
  validationSchemas : String
  types : String
  apiTypes : String
  routes : String
  requestSchemas : String
  config : String
  migrations : String
  rollback : String
  admin : Admin.Pages
  adminAssets : TextFiles
  adminAssetsModule : String

namespace Output

def empty : Output := ⟨"", "", "", "", "", "", "", "", "", .empty, [], ""⟩

def put (o : Output) : Piece → Output
  | .schema t => { o with schema := t }
  | .validationSchemas t => { o with validationSchemas := t }
  | .types t => { o with types := t }
  | .apiTypes t => { o with apiTypes := t }
  | .routes t => { o with routes := t }
  | .requestSchemas t => { o with requestSchemas := t }
  | .config t => { o with config := t }
  | .migrations t => { o with migrations := t }
  | .rollback t => { o with rollback := t }
  | .admin p => { o with admin := p }
  | .adminAssets f => { o with adminAssets := f }
  | .adminAssetsModule t => { o with adminAssetsModule := t }

def pieces (o : Output) : List Piece := [
  .schema o.schema, .validationSchemas o.validationSchemas, .types o.types,
  .apiTypes o.apiTypes, .routes o.routes, .requestSchemas o.requestSchemas, .config o.config,
  .migrations o.migrations, .rollback o.rollback, .admin o.admin, .adminAssets o.adminAssets,
  .adminAssetsModule o.adminAssetsModule]

end Output

/-! ## Runs -/

inductive GenerationFault where
  | unknownTarget (target : String)
  | unhashable (type : String)
  | notIterable (type : String)
  | conflict (name other : String)
  | noJson (fault : JsonFault)
  | fill (fault : FillFault)

namespace GenerationFault

def message : GenerationFault → String
  | .unknownTarget target => "Unknown generator target: " ++ target
  | .unhashable type => "unhashable type: '" ++ type ++ "'"
  | .notIterable type => "'" ++ type ++ "' object is not iterable"
  | .conflict name other => Admin.conflictMessage name other
  | .noJson fault => fault.message
  | .fill fault => fault.message

def ofPages : Admin.PageFault → GenerationFault
  | .conflict name other => .conflict name other
  | .fill fault => .fill fault

end GenerationFault

namespace Group

def run (m : Manifest) (t : Moment) : Group → Except GenerationFault (List Piece)
  | .schema => do
    return [.schema (← (Mapped.moduleText m).mapError .noJson),
      .validationSchemas (Body.moduleText m)]
  | .types => .ok [.types (Interface.typesText m), .apiTypes (Interface.endpointsText m)]
  | .routes => do
    return [.routes (← (Routes.text m).mapError .fill),
      .requestSchemas (← (RequestBodies.text m).mapError .noJson)]
  | .config => do return [.config (← (AppSettings.text m).mapError .fill)]
  | .migrations => do
    return [.migrations (← (Sql.migrationText m t).mapError .noJson),
      .rollback (Sql.rollbackText m t)]
  | .admin => do
    return [.admin (← (Admin.pages m).mapError .ofPages),
      .adminAssets (← (Admin.assets m).mapError .fill),
      .adminAssetsModule (← (Admin.assetsModule m).mapError .fill)]

end Group

def commaNames (s : String) : List String :=
  ((s.splitOn ",").map Text.trim).filter (· ≠ "")

/-- The groups to skip: names in a list with commas, or any values with names among them. -/
def skippedNames (v : Value) : Except GenerationFault (List String) :=
  match v with
  | .text s => .ok (commaNames s)
  | v =>
    match v.elements? with
    | none => .error (.notIterable v.typeName)
    | some xs =>
      match xs.find? fun x => !x.isHashable with
      | some x => .error (.unhashable x.unhashableType)
      | none => .ok (xs.filterMap Value.text?)

namespace Manifest

def generateAll (m : Manifest) (skip : List String) (t : Moment) :
    Except GenerationFault Output :=
  (Group.all.filter fun g => !skip.contains g.name).foldlM
    (fun o g => do return (← g.run m t).foldl Output.put o) .empty

def putPiece : List Piece → Piece → List Piece
  | [], p => [p]
  | q :: rest, p => if q.key = p.key then p :: rest else q :: putPiece rest p

def targetGroup (target : Value) : Except GenerationFault Group :=
  match target.text?.bind Group.ofName? with
  | some g => .ok g
  | none =>
    if target.isHashable then .error (.unknownTarget target.plain)
    else .error (.unhashable target.unhashableType)

def generate (m : Manifest) (targets : List Value) (t : Moment) :
    Except GenerationFault (List Piece) :=
  targets.foldlM (fun ps target => do
    let g ← targetGroup target
    return (← g.run m t).foldl putPiece ps) []

end Manifest

end Scaffold
