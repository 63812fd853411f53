import Scaffold.Manifest.Loading
import Scaffold.Workspace.Config
import Scaffold.Workspace.Plan

/-!
# Setting up a workspace

The manifest is loaded, everything is generated and planned, and only when all
checks have passed does the first folder come to be. No planned path may lead
out of the output folder, and unless it is forced no file is written over.
-/

namespace Scaffold

inductive SetupFault where
  | load (fault : LoadFault)
  | generation (fault : GenerationFault)
  | plugin (fault : RegistryFault)
  | outside (path : FilePath)
  | present (path : FilePath)
  | disk (fault : DiskFault)

namespace SetupFault

def outsideMessage (p : FilePath) : String :=
  "Refusing to write outside the output directory: " ++ p.text

def presentMessage (p : FilePath) : String :=
  "Refusing to overwrite existing file: " ++ p.text ++ " (use --force)"

def message : SetupFault → String
  | .load fault => fault.message
  | .generation fault => fault.message
  | .plugin fault => fault.message
  | .outside p => outsideMessage p
  | .present p => presentMessage p
  | .disk fault => fault.message

end SetupFault

/-- What an activity leaves behind: the disk, what was printed, and how it ended. -/
structure Outcome (ε α : Type) where
  disk : Disk
  printed : String
  result : Except ε α

namespace Workspace

def writeAll (d : Disk) : FilePlan → Disk × Except DiskFault Unit
  | [] => (d, .ok ())
  | (p, text) :: plan =>
    match d.writeWithFolders p (.ofText text) with
    | (d, .ok ()) => writeAll d plan
    | (d, .error fault) => (d, .error fault)

def present (d : Disk) (plan : FilePlan) : Except DiskFault (List FilePath) :=
  (plan.paths.mapM fun p => (d.node? p).map fun n => (p, n.isSome)).map fun ps =>
    (ps.filter (·.2)).map Prod.fst

def refusal? (c : Config) (d : Disk) (folder : FilePath) (plan : FilePlan) : Option SetupFault :=
  match plan.outside? d.here folder with
  | some p => some (.outside p)
  | none =>
    -- files may be written over by choice, but never outside of the folder
    if c.force then none
    else match present d plan with
      | .error fault => some (.disk fault)
      | .ok [] => none
      | .ok (p :: _) => some (.present p)

def manifestPath (c : Config) (base : FilePath) (d : Disk) : Except LoadFault FilePath :=
  match c.manifestPath with
  | some p => .ok (base.join p)
  | none => Discovery.manifest d base

def carryOut (d : Disk) (folder : FilePath) (plan : FilePlan) : Disk × Except DiskFault Unit :=
  match d.ensureFolders folder with
  | (d, .error fault) => (d, .error fault)
  | (d, .ok ()) => writeAll d plan

def doneMessage (count : Nat) (folder manifest : FilePath) : String :=
  "Generated " ++ toString count ++ " files in " ++ folder.text ++ " (manifest: " ++
    manifest.text ++ ")"

def plan (c : Config) (r : Registry) (now : Moment) (folder : FilePath) (m : Manifest) :
    String × Except SetupFault FilePlan :=
  match m.generateAll c.skip now with
  | .error fault => ("", .error (.generation fault))
  | .ok output =>
    match r.runAll m .null with
    | (run, some fault) => (run.printed, .error (.plugin fault))
    | (run, none) =>
      -- a plugin may write over a generated file
      (run.printed, .ok ((output.plan folder now).putAll (run.registry.plan run.results folder)))

/-- Generates and writes everything for the project in a folder. The result is the written
paths. -/
def setup (c : Config) (r : Registry) (now : Moment) (base : FilePath) (d : Disk) :
    Outcome SetupFault (List FilePath) :=
  let folder := base.join c.outputDir
  let now := now.wholeSeconds
  let loaded := do
    let p ← manifestPath c base d
    return (p, ← LoadedManifest.ofFile d p (.map c.overrides))
  match loaded with
  | .error fault => ⟨d, "", .error (.load fault)⟩
  | .ok (source, loaded) =>
    match plan c r now folder loaded.manifest with
    | (printed, .error fault) => ⟨d, printed, .error fault⟩
    | (printed, .ok plan) =>
      match refusal? c d folder plan with
      | some fault => ⟨d, printed, .error fault⟩
      | none =>
        match carryOut d folder plan with
        | (d, .error fault) => ⟨d, printed, .error (.disk fault)⟩
        | (d, .ok ()) =>
          let message := doneMessage plan.length folder source
          ⟨d, printed ++ Console.message .success message, .ok plan.paths⟩

end Workspace

end Scaffold
