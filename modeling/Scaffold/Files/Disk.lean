import Scaffold.Files.FilePath
import Scaffold.Text.Quoted
import Scaffold.Text.Utf8
import Scaffold.Value.Basic

/-!
# Folders and files

A disk is a tree of folders and files with a current folder. Paths are
followed segment by segment through folders that exist, two dots leading to
the folder above. An operation gives the disk as it is afterwards, also when
it fails halfway.
-/

namespace Scaffold

/-! ## The tree -/

/-- A settings module: the names it binds, or how it fails when it is run. -/
inductive Script where
  | bindings (names : List (String × Value))
  | raises (kind message : String)
  /-- A brace in its first line is never closed. -/
  | unclosed

inductive Content where
  | bytes (bs : List UInt8)
  | script (s : Script)

namespace Content

/-- The bytes of a file; a settings module is not read as text. -/
def asBytes : Content → List UInt8
  | .bytes bs => bs
  | .script _ => []

/-- The settings module in a file; other content binds nothing. -/
def asScript : Content → Script
  | .script s => s
  | .bytes _ => .bindings []

def ofText (s : String) : Content := .bytes (Text.encodeUtf8 s)

end Content

inductive FileTree where
  | file (content : Content)
  | folder (entries : List (String × FileTree))

/-- The names that lead from the root to a node. -/
abbrev Location := List String

namespace FileTree

instance : Inhabited FileTree := ⟨.folder []⟩

def isFolder : FileTree → Bool
  | .file _ => false
  | .folder _ => true

def isFile (n : FileTree) : Bool := !n.isFolder

def child? (name : String) : FileTree → Option FileTree
  | .file _ => none
  | .folder es => es.lookup name

def at? : FileTree → Location → Option FileTree
  | n, [] => some n
  | n, s :: rest =>
    match n.child? s with
    | some m => m.at? rest
    | none => none
termination_by structural _ l => l

def putEntry (name : String) (n : FileTree) : List (String × FileTree) → List (String × FileTree)
  | [] => [(name, n)]
  | e :: es => if e.1 = name then (name, n) :: es else e :: putEntry name n es

/-- Puts a node at a location; the folders above it have to be there. -/
def put : FileTree → Location → FileTree → FileTree
  | _, [], x => x
  | .file c, _ :: _, _ => .file c
  | .folder es, [s], x => .folder (putEntry s x es)
  | .folder es, s :: rest, x =>
    match es.lookup s with
    | some n => .folder (putEntry s (n.put rest x) es)
    | none => .folder es
termination_by structural _ l => l

mutual

def height : FileTree → Nat
  | .file _ => 0
  | .folder es => heightEntries es + 1

def heightEntries : List (String × FileTree) → Nat
  | [] => 0
  | (_, n) :: es => max (height n) (heightEntries es)

end

mutual

/-- The paths of all nodes below a folder, folders with a slash at their end. -/
def paths (above : String) : FileTree → List String
  | .file _ => []
  | .folder es => pathsEntries above es

def pathsEntries (above : String) : List (String × FileTree) → List String
  | [] => []
  | (name, .file _) :: es => (above ++ name) :: pathsEntries above es
  | (name, n) :: es =>
    (above ++ name ++ "/") :: paths (above ++ name ++ "/") n ++ pathsEntries above es

end

end FileTree

/-! ## Failures -/

inductive DiskCause where
  | missing
  | exists
  | notFolder
  | isFolder
  | nameTooLong
  deriving DecidableEq

namespace DiskCause

def number : DiskCause → Nat
  | .missing => 2
  | .exists => 17
  | .notFolder => 20
  | .isFolder => 21
  | .nameTooLong => 36

def words : DiskCause → String
  | .missing => "No such file or directory"
  | .exists => "File exists"
  | .notFolder => "Not a directory"
  | .isFolder => "Is a directory"
  | .nameTooLong => "File name too long"

end DiskCause

structure DiskFault where
  cause : DiskCause
  path : FilePath

def DiskFault.message (f : DiskFault) : String :=
  "[Errno " ++ toString f.cause.number ++ "] " ++ f.cause.words ++ ": " ++
    Text.literal f.path.text

/-! ## Disks -/

structure Disk where
  root : FileTree
  here : Location

namespace Disk

def nameLimit : Nat := 255

def follow (root : FileTree) (from' : Location) : List String → Except DiskCause Location
  | [] => .ok from'
  | s :: rest =>
    match root.at? from' with
    | some (.folder es) =>
      if s = ".." then follow root from'.dropLast rest
      else if nameLimit < s.utf8ByteSize then .error .nameTooLong
      else if (es.lookup s).isSome then follow root (from' ++ [s]) rest
      else .error .missing
    | some (.file _) => .error .notFolder
    | none => .error .missing

def start (d : Disk) (p : FilePath) : Location := if p.isAbsolute then [] else d.here

def locate (d : Disk) (p : FilePath) : Except DiskCause Location :=
  follow d.root (d.start p) p.segments

def node (d : Disk) (p : FilePath) : Except DiskCause FileTree :=
  match d.locate p with
  | .error cause => .error cause
  | .ok l => match d.root.at? l with
    | some n => .ok n
    | none => .error .missing

def node? (d : Disk) (p : FilePath) : Except DiskFault (Option FileTree) :=
  match d.node p with
  | .ok n => .ok (some n)
  | .error .nameTooLong => .error ⟨.nameTooLong, p⟩
  | .error _ => .ok none

/-- The location at which the last segment of a path lies or can be made. -/
def place (d : Disk) (p : FilePath) : Except DiskCause Location :=
  match p.segments.getLast? with
  | none | some ".." => d.locate p
  | some s =>
    match d.locate p.parent with
    | .error cause => .error cause
    | .ok l =>
      match d.root.at? l with
      | some (.folder _) => if nameLimit < s.utf8ByteSize then .error .nameTooLong else .ok (l ++ [s])
      | some (.file _) => .error .notFolder
      | none => .error .missing

def put (d : Disk) (l : Location) (n : FileTree) : Disk := { d with root := d.root.put l n }

/-! ## Reading -/

def read (d : Disk) (p : FilePath) : Except DiskFault Content :=
  match d.node p with
  | .ok (.file c) => .ok c
  | .ok (.folder _) => .error ⟨.isFolder, p⟩
  | .error cause => .error ⟨cause, p⟩

def entries (d : Disk) (p : FilePath) : Except DiskFault (List (String × FileTree)) :=
  match d.node p with
  | .ok (.folder es) => .ok es
  | .ok (.file _) => .error ⟨.notFolder, p⟩
  | .error cause => .error ⟨cause, p⟩

/-! ## Writing -/

def makeFolder (d : Disk) (p : FilePath) : Except DiskCause Disk :=
  match d.place p with
  | .error cause => .error cause
  | .ok l => if (d.root.at? l).isSome then .error .exists else .ok (d.put l (.folder []))

/-- Makes one folder, which may be there already. -/
def ensureFolder (d : Disk) (p : FilePath) : Disk × Except DiskFault Unit :=
  match d.makeFolder p with
  | .ok d' => (d', .ok ())
  | .error cause =>
    match d.node p with
    | .ok (.folder _) => (d, .ok ())
    | _ => (d, .error ⟨cause, p⟩)

/-- Makes a folder and as many of the folders above it as are missing, up to a number. -/
def ensureFoldersUpTo : Nat → Disk → FilePath → Disk × Except DiskFault Unit
  | 0, d, p => d.ensureFolder p
  | above + 1, d, p =>
    match d.makeFolder p with
    | .error .missing =>
      match ensureFoldersUpTo above d p.parent with
      | (d', .ok ()) => d'.ensureFolder p
      | (d', .error fault) => (d', .error fault)
    | _ => d.ensureFolder p

def ensureFolders (d : Disk) (p : FilePath) : Disk × Except DiskFault Unit :=
  ensureFoldersUpTo p.segments.length d p

def write (d : Disk) (p : FilePath) (c : Content) : Except DiskFault Disk :=
  match d.place p with
  | .error cause => .error ⟨cause, p⟩
  | .ok l =>
    match d.root.at? l with
    | some (.folder _) => .error ⟨.isFolder, p⟩
    | _ => .ok (d.put l (.file c))

def writeWithFolders (d : Disk) (p : FilePath) (c : Content) : Disk × Except DiskFault Unit :=
  match d.ensureFolders p.parent with
  | (d', .error fault) => (d', .error fault)
  | (d', .ok ()) =>
    match d'.write p c with
    | .ok d'' => (d'', .ok ())
    | .error fault => (d', .error fault)

end Disk

/-! ## Resolved paths -/

/-- Follows segments by their names alone. -/
def Location.follow (from' : Location) (segments : List String) : Location :=
  segments.foldl (fun l s => if s = ".." then l.dropLast else l ++ [s]) from'

/-- The location that a path names, whether or not anything is there. -/
def FilePath.resolve (here : Location) (p : FilePath) : Location :=
  Location.follow (if p.isAbsolute then [] else here) p.segments

def Location.path (l : Location) : FilePath := .ofText ("/" ++ "/".intercalate l)

end Scaffold
