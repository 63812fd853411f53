import Scaffold.Files.Disk
import Scaffold.Generation
import Scaffold.Plugin.Registry

/-!
# Where generated files go

A plan gives texts by the path at which they are to be written, in the order
in which the paths first came up. Every piece of a run that is not empty has a
place in the output folder, and a folder with modules is marked as a package.
-/

namespace Scaffold

abbrev FilePlan := List (FilePath × String)

namespace FilePlan

/-- Plans a text: a path that is planned already keeps its place. -/
def put : FilePlan → FilePath → String → FilePlan
  | [], p, text => [(p, text)]
  | e :: plan, p, text => if e.1 = p then (p, text) :: plan else e :: put plan p text

def putAll (plan more : FilePlan) : FilePlan := more.foldl (fun pl e => pl.put e.1 e.2) plan

def paths (plan : FilePlan) : List FilePath := plan.map Prod.fst

def outside? (plan : FilePlan) (here : Location) (folder : FilePath) : Option FilePath :=
  plan.paths.find? fun p => !(folder.resolve here).isPrefixOf (p.resolve here)

end FilePlan

/-! ## Generated pieces -/

namespace Output

def allTypes (o : Output) : String :=
  "\n\n".intercalate ([o.types, o.apiTypes].filter (· ≠ ""))

/-- All texts with their paths in the output folder, empty ones among them. -/
def texts (o : Output) (t : Moment) : TextFiles :=
  [("models.py", o.schema), ("schemas.py", o.validationSchemas), ("types.ts", o.allTypes),
    ("routes.py", o.routes), ("request_schemas.json", o.requestSchemas),
    ("app_config.py", o.config), ("admin_assets.py", o.adminAssetsModule)] ++
  o.adminAssets ++
  o.admin.routes.map (fun f => ("admin/pages/" ++ f.1, f.2)) ++
  o.admin.components.map (fun f => ("admin/components/" ++ f.1, f.2)) ++
  [("migrations/" ++ t.version ++ "_init.sql", o.migrations),
    ("migrations/" ++ t.version ++ "_rollback.sql", o.rollback)]

def packageMark : String := "\"\"\"Generated by edge-manifest.\"\"\"\n"

/-- The places of all texts that are not empty, with the mark of a package if there is a module
among them. -/
def plan (o : Output) (folder : FilePath) (t : Moment) : FilePlan :=
  let files := (o.texts t).filter (·.2 ≠ "")
  let plan := FilePlan.putAll [] (files.map fun f => (folder.append f.1, f.2))
  if plan.paths.any (·.suffix = ".py") then plan.put (folder.append "__init__.py") packageMark
  else plan

end Output

/-! ## Results of plugins -/

/-- A text goes to the output path of a plugin, texts by path go below it. -/
def PluginResult.plan (result : PluginResult) (folder : FilePath) (p : Plugin) : FilePlan :=
  let target := folder.append p.outputPath
  match result with
  | .text s => [(target, s)]
  | .files fs => FilePlan.putAll [] (fs.map fun f => (target.append f.1, f.2))

def Registry.plan (r : Registry) (results : Registry.Results) (folder : FilePath) : FilePlan :=
  results.foldl (fun plan x =>
    match r.get? x.1 with
    | some p => plan.putAll (x.2.plan folder p)
    | none => plan) []

end Scaffold
