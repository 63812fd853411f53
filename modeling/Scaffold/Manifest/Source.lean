import Scaffold.Files.Disk
import Scaffold.Json.Reader
import Scaffold.Manifest.Discovery
import Scaffold.Manifest.Validation
import Scaffold.Text.Case
import Scaffold.Text.Split
import Scaffold.Text.Utf8
import Scaffold.Yaml.Reading

/-!
# Manifest files

A manifest is written as JSON, as YAML, or as a settings module that binds it
to a name; the end of the file's name tells which. A file that is not there is
a failure of its own kind, all else that keeps a manifest from being read is
told with the path of the file.
-/

namespace Scaffold

inductive LoadReason where
  | notFound (start : FilePath)
  | extension (name : String)
  | unreadable (fault : DiskFault)
  | encoding (error : Text.Utf8Error)
  | json (complaint : Json.Complaint) (text : List Char) (position : Nat)
  | yaml
  | noModule
  | brokenModule (kind message : String)
  | noBinding
  | invalid (e : InvalidManifest)

namespace LoadReason

def looksFor : String := ", ".intercalate (Discovery.candidates.map Text.jsonString)

def message : LoadReason → String
  | .notFound start =>
    "No manifest found. Looked for: " ++ looksFor ++ " (starting at " ++ start.text ++ ")"
  | .extension name => "Unsupported manifest extension: " ++ name
  | .unreadable fault => "Cannot read manifest: " ++ fault.message
  | .encoding error => "Cannot read manifest: " ++ error.message
  | .json c text position => "Invalid JSON syntax: " ++ c.message text position
  | .yaml => Yaml.Fault.malformed.message
  | .noModule => "Cannot import manifest module"
  | .brokenModule kind message => "Cannot import manifest module: " ++ kind ++ ": " ++ message
  | .noBinding => "Manifest module defines neither MANIFEST nor manifest"
  | .invalid e => e.message

end LoadReason

inductive SourceFault where
  | refused (reason : LoadReason)
  | missing (fault : DiskFault)
  | missingModule (path : FilePath)
  /-- The disk cannot even tell whether the file is there. -/
  | disk (fault : DiskFault)
  /-- A whole number in a JSON text with more digits than are read. -/
  | longInteger (digits : Nat)
  /-- A scalar in a YAML text that is not of the kind it is written as. -/
  | yamlScalar (fault : Yaml.Fault)

def SourceFault.message : SourceFault → String
  | .refused reason => reason.message
  | .missing fault | .disk fault => fault.message
  | .missingModule p => "No such file: " ++ p.text
  | .longInteger digits => Decimal.tooLongMessage digits
  | .yamlScalar fault => fault.message

namespace ManifestFile

/-! ## Settings modules -/

/-- The names under which a module may bind its manifest, the first of which counts. -/
def bindingNames : List String := ["MANIFEST", "manifest"]

def raisedMessage (kind message : String) : String :=
  if kind = "KeyError" then Text.literal message else message

def runScript (p : FilePath) : Script → Except SourceFault Value
  | .unclosed => .error (.refused (.brokenModule "SyntaxError"
      ("'\x7b' was never closed (" ++ p.name ++ ", line 1)")))
  | .raises kind message => .error (.refused (.brokenModule kind (raisedMessage kind message)))
  | .bindings names =>
    match bindingNames.findSome? fun n => names.reverse.lookup n with
    | some v => .ok v
    | none => .error (.refused .noBinding)

def readModule (d : Disk) (p : FilePath) : Except SourceFault Value :=
  match d.node? p with
  | .error fault => .error (.disk fault)
  | .ok (some (.file c)) =>
    if p.suffix = ".py" then runScript p (c.asScript) else .error (.refused .noModule)
  | .ok _ => .error (.missingModule p)

/-! ## Texts -/

/-- The text of a file, its lines ended by line feeds. -/
def readText (d : Disk) (p : FilePath) : Except SourceFault (List Char) :=
  match d.read p with
  | .error fault =>
    if fault.cause = .missing then .error (.missing fault) else .error (.refused (.unreadable fault))
  | .ok c =>
    match Text.decodeUtf8 0 (c.asBytes) with
    | .ok cs => .ok (Text.plainLineEnds cs)
    | .error e => .error (.refused (.encoding e))

def readJson (text : List Char) : Except SourceFault Value :=
  match Json.read text with
  | .ok v => .ok v
  | .error (.at c position) => .error (.refused (.json c text position))
  | .error (.tooLong digits) => .error (.longInteger digits)

def readYaml (text : List Char) : Except SourceFault Value :=
  match Yaml.read text with
  | .ok v => .ok v
  | .error .malformed => .error (.refused .yaml)
  | .error fault => .error (.yamlScalar fault)

def read (d : Disk) (p : FilePath) : Except SourceFault Value :=
  let suffix := Text.lower p.suffix
  if suffix = ".py" then readModule d p
  else if suffix = ".json" then (readText d p).bind readJson
  else if suffix = ".yaml" ∨ suffix = ".yml" then (readText d p).bind readYaml
  else .error (.refused (.extension (if suffix.isEmpty then p.name else suffix)))

end ManifestFile

end Scaffold
