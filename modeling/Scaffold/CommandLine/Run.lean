import Scaffold.CommandLine.Arguments
import Scaffold.Workspace.Setup

/-!
# The commands

A command takes its configuration from the environment and then from its
options. Faults of the manifest and of the workspace are printed and give the
exit status 1; any other fault ends the run as it is.
-/

namespace Scaffold

namespace Command

def chosen (option : Option String) : Option String := option.filter (!·.isEmpty)

/-- The configuration of a command, its options going before the environment. -/
def config (command : Command) (env : Config.Environment) : Config :=
  let c := Config.ofEnvironment env
  let withManifest (m : Option String) : Config :=
    { c with manifestPath := ((chosen m).map .ofText).or c.manifestPath }
  match command with
  | .validate m => withManifest m
  | .setup m out force skip =>
    let groups := commaNames skip
    { withManifest m with
      outputDir := ((chosen out).map .ofText).getD c.outputDir
      force := force || c.force
      skip := if groups.isEmpty then c.skip else groups }

def unknownGroupMessage (group : String) : String :=
  "Ignoring unknown generator group: " ++ group

def warnings (c : Config) : String :=
  String.join (((c.skip.filter fun g => !Group.names.contains g)).map fun g =>
    Console.message .warning (unknownGroupMessage g))

def validMessage (m : Manifest) (source : FilePath) : String :=
  "Manifest " ++ m.id ++ " v" ++ m.version ++ " is valid (" ++ toString m.entities.length ++
    " entities, source: " ++ source.text ++ ")"

def checkManifest (c : Config) (d : Disk) : Outcome SetupFault Unit :=
  let loaded := do
    let p ← match c.manifestPath with
      | some p => pure p
      | none => Discovery.manifest d d.here.path
    return (p, ← LoadedManifest.ofFile d p .null)
  match loaded with
  | .error fault => ⟨d, "", .error (.load fault)⟩
  | .ok (p, loaded) => ⟨d, Console.message .success (validMessage loaded.manifest p), .ok ()⟩

def perform (command : Command) (c : Config) (now : Moment) (d : Disk) : Outcome SetupFault Unit :=
  match command with
  | .validate _ => checkManifest c d
  | .setup .. =>
    let o := Workspace.setup c .empty now d.here.path d
    ⟨o.disk, o.printed, o.result.map fun _ => ()⟩

end Command

def SetupFault.isExpected : SetupFault → Bool
  | .load (.refused ..) => true
  | .load (.source (.missing _)) | .load (.source (.missingModule _)) => true
  | .generation (.conflict ..) => true
  | .outside _ | .present _ => true
  | .disk fault => fault.cause = .missing
  | _ => false

/-- Runs a command line. The result is the exit status. -/
def runCommandLine (args : List String) (env : Config.Environment) (now : Moment) (d : Disk) :
    Outcome SetupFault Nat :=
  match Arguments.read args with
  | .error stop => ⟨d, "", .ok stop.status⟩
  | .ok command =>
    let c := command.config env
    let o := command.perform c now d
    let printed := Command.warnings c ++ o.printed
    match o.result with
    | .ok () => ⟨o.disk, printed, .ok 0⟩
    | .error fault =>
      if fault.isExpected then
        ⟨o.disk, printed ++ Console.message .error ("Error: " ++ fault.message), .ok 1⟩
      else ⟨o.disk, printed, .error fault⟩

end Scaffold
