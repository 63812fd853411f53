import Scaffold.CommandLine.Run
import Std.Time.DateTime.Timestamp

/-!
# The program

What a command can see of the file system is read into a disk, the command is
run on that disk, and what has changed on it is written back. Settings modules
are not run here; a command that needs one fails.
-/

namespace Scaffold.Program

def usage : String :=
  "usage: scaffold setup [--manifest PATH] [--out-dir PATH] [--force] [--skip GROUPS]\n" ++
  "       scaffold validate [--manifest PATH]"

/-! ## Reading -/

def notRun : Script := .raises "ImportError" "settings modules are not run"

/-- A file; one that cannot be read counts as empty. -/
def readContent (path : String) : IO Content := do
  if path.endsWith ".py" then return .script notRun
  let bytes ← try IO.FS.readBinFile path catch _ => pure .empty
  return .bytes bytes.toList

/-- A file or folder with all that is below it. Links to folders are not followed, and of the files
only those wanted by their names have content. -/
partial def readTree (wanted : String → Bool) (path name : String) : IO FileTree := do
  let node := (← IO.currentDir) / path
  if ← node.isDir then
    if (← node.symlinkMetadata).type == .symlink then return .folder []
    let entries ← try node.readDir catch _ => pure #[]
    let nodes ← entries.toList.mapM fun e => do
      return (e.fileName, ← readTree wanted (path ++ "/" ++ e.fileName) e.fileName)
    return .folder nodes
  else if wanted name then return .file (← readContent path)
  else return .file (.bytes [])

/-- Adds a node without what is below it, if it is there and not yet known. -/
def glance (root : FileTree) (l : Location) : IO FileTree := do
  let node := (← IO.currentDir) / l.path.text
  if (root.at? l).isSome || !(← node.pathExists) then return root
  if ← node.isDir then return root.put l (.folder [])
  else return root.put l (.file (← readContent l.path.text))

def glanceAlong (here : Location) (root : FileTree) (p : FilePath) : IO FileTree :=
  (List.range (p.segments.length + 1)).foldlM
    (fun root n => glance root (Location.follow (if p.isAbsolute then [] else here)
      (p.segments.take n))) root

def readAll (wanted : String → Bool) (root : FileTree) (l : Location) : IO FileTree := do
  if (← ((← IO.currentDir) / l.path.text).pathExists) then
    return root.put l (← readTree wanted l.path.text (l.getLast?.getD ""))
  else return root

/-- The disk as far as a configuration needs it. -/
def readDisk (c : Config) : IO Disk := do
  let here : Location := (FilePath.ofText (← IO.currentDir).toString).segments
  let root ← glanceAlong [] (.folder []) here.path
  let root ← match c.manifestPath with
    | some p => glanceAlong here root p
    | none => readAll Discovery.candidates.contains root here
  let root ← glanceAlong here root c.outputDir
  let root ← readAll (fun _ => true) root (c.outputDir.resolve here)
  return ⟨root, here⟩

/-! ## Writing -/

def Content.same : Content → Content → Bool
  | .bytes a, .bytes b => a == b
  | .script _, .script _ => true
  | _, _ => false

/-- Writes what is new or has changed. -/
partial def writeBack (path : String) (before : Option FileTree) : FileTree → IO Unit
  | .file c => do
    let unchanged := match before with
      | some (.file old) => Content.same old c
      | _ => false
    unless unchanged do IO.FS.writeBinFile path ⟨c.asBytes.toArray⟩
  | .folder entries => do
    if before.isNone then IO.FS.createDir path
    for (name, node) in entries do
      writeBack (path ++ "/" ++ name) (before.bind (·.child? name)) node

/-! ## Running -/

def readEnvironment : IO Config.Environment := do
  let read ← Config.Environment.names.mapM fun name => do return (name, ← IO.getEnv name)
  return read.filterMap fun v => v.2.map fun text => (v.1, text)

def now : IO Moment := do
  let t ← Std.Time.Timestamp.now
  return .ofUnix (t.toNanosecondsSinceUnixEpoch.val / 1000).toNat

def run (args : List String) : IO Nat := do
  let env ← readEnvironment
  match Arguments.read args with
  | .error stop =>
    IO.println usage
    return stop.status
  | .ok command =>
    let disk ← readDisk (command.config env)
    let outcome := runCommandLine args env (← now) disk
    writeBack "" (some disk.root) outcome.disk.root
    IO.print outcome.printed
    match outcome.result with
    | .ok status => return status
    | .error fault =>
      IO.eprintln fault.message
      return 1

end Scaffold.Program

def main (args : List String) : IO UInt32 := do
  return (← Scaffold.Program.run args).toUInt32
