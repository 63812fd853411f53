import Scaffold.Files.Disk

/-!
# Finding the manifest of a project

The file names that manifests may have are tried in turn, each in the project
folder first and then in the folders below it, level by level and by name.
Folders of tools and of generated files are left out.
-/

namespace Scaffold.Discovery

def candidates : List String := [
  "manifest.py", ".manifest.json", ".manifest.yaml", ".manifest.yml", "manifest.yaml",
  "manifest.yml", "manifest.json"]

def ignored : List String := [".git", "node_modules", "dist", ".output", ".venv", "__pycache__"]

/-- The names that lead to a folder, and its entries. -/
abbrev Folder := List String × List (String × FileTree)

def subfolders (f : Folder) : List Folder :=
  (f.2.mergeSort fun a b => !(b.1 < a.1)).filterMap fun e =>
    match e.2 with
    | .folder es => if ignored.contains e.1 then none else some (f.1 ++ [e.1], es)
    | .file _ => none

def holds (name : String) (f : Folder) : Bool := (f.2.lookup name).any (·.isFile)

/-- The names that lead to the first file of a name in folders of one level, or further down. -/
def search (name : String) : Nat → List Folder → Option (List String)
  | 0, _ => none
  | levels + 1, folders =>
    match folders.find? (holds name) with
    | some f => some (f.1 ++ [name])
    | none => search name levels (folders.flatMap subfolders)

def below? (entries : List (String × FileTree)) : Option (List String) :=
  candidates.findSome? fun name =>
    search name (FileTree.folder entries).height [([], entries)]

def manifest? (d : Disk) (start : FilePath) : Except DiskFault (Option FilePath) :=
  (d.entries start).map fun es => (below? es).map fun names => names.foldl FilePath.append start

end Scaffold.Discovery
