import Scaffold.Files.Disk
import Scaffold.Generation
import Scaffold.Json.Reader
import Scaffold.Manifest.Overrides
import Scaffold.Text.Split
import Scaffold.Value.Coerce
import Scaffold.Value.JsonText

/-!
# Configuration

What a run is to read and write. A configuration comes from values, from a
JSON file or from the environment, and is kept as a JSON file that reads back
as the same configuration.
-/

namespace Scaffold

structure Config where
  /-- The manifest file; searched for if there is none. -/
  manifestPath : Option FilePath
  outputDir : FilePath
  /-- Whether files may be written over. -/
  force : Bool
  /-- Names of groups that are not generated. -/
  skip : List String
  defaultRegion : Option String
  generatorFlags : Entries

def Value.asPath : Value → Coerced FilePath
  | .text s => .ok (.ofText s)
  | _ => Coerced.fail .path

namespace Config

def defaultOutput : FilePath := .ofText ".output"

def default : Config := ⟨none, defaultOutput, false, [], none, []⟩

def migrationsDir (c : Config) : FilePath := c.outputDir.append "migrations"

def adminDir (c : Config) : FilePath := c.outputDir.append "admin"

def overrides (c : Config) : Entries :=
  (match c.defaultRegion with
    | none | some "" => []
    | some region => [(Entries.regionKey, .text region)]) ++
  (if c.generatorFlags.isEmpty then [] else [(Entries.flagsKey, .map c.generatorFlags)])

/-! ## Values -/

def ofEntries (es : Entries) : Coerced Config :=
  let manifestPath := es.want "manifest_path" (Value.asNullable Value.asPath)
  let outputDir := es.want "output_dir" Value.asPath
  let force := es.want "force" Value.asTruth
  let skip := es.want "skip" (Value.asList .list Value.asText)
  let defaultRegion := es.want "default_region" (Value.asNullable Value.asText)
  let generatorFlags := es.want "generator_flags" Value.asTextMap
  (Coerced.both manifestPath (Coerced.both outputDir (Coerced.both force (Coerced.both skip
    (Coerced.both defaultRegion generatorFlags))))).map fun (m, o, f, s, r, g) =>
    ⟨m.getD none, o.getD defaultOutput, f.getD false, s.getD [], r.getD none, g.getD []⟩

def toValue (c : Config) : Value := .ofFields [
  ("manifest_path", match c.manifestPath with
    | some p => .text p.text
    | none => .null),
  ("output_dir", .text c.outputDir.text),
  ("force", .bool c.force),
  ("skip", .ofTexts c.skip),
  ("default_region", match c.defaultRegion with
    | some r => .text r
    | none => .null),
  ("generator_flags", .map c.generatorFlags)]

end Config

/-! ## Settings files -/

inductive SettingsFault where
  | bytes (error : Text.Utf8Error)
  | noText (type : String)

def SettingsFault.message : SettingsFault → String
  | .bytes e => "Error serializing to JSON: " ++ (match e.fault with
    | .truncated => "incomplete utf-8 byte sequence"
    | _ => "invalid utf-8 sequence of " ++ toString e.bytes.length ++ " bytes") ++
      " from index " ++ toString e.position
  | .noText type => "Unable to serialize unknown type: <class '" ++ type ++ "'>"

namespace Value

/-- A moment in a settings file: no distance from UTC is a letter. -/
def settingsMoment (t : Moment) : String :=
  if t.offset = some 0 then { t with offset := none }.iso ++ "Z" else t.iso

def settingsBytes (bs : List UInt8) : Except SettingsFault String :=
  match Text.decodeUtf8 0 bs with
  | .ok cs => .ok (String.ofList cs)
  | .error e => .error (.bytes e)

mutual

def settingsKey : Value → Except SettingsFault String
  | .text s => .ok s
  | .bool b => .ok (if b then "true" else "false")
  | .bytes bs => settingsBytes bs
  | .date d => .ok d.iso
  | .moment t => .ok (settingsMoment t)
  | .tuple xs => do return ",".intercalate (← settingsKeys xs)
  | .missing => .error (.noText missingClass)
  | v => .ok v.literal

def settingsKeys : List Value → Except SettingsFault (List String)
  | [] => .ok []
  | x :: xs => do
    let key ← settingsKey x
    return key :: (← settingsKeys xs)

end

mutual

/-- A value made of what a settings file can hold: dates and bytes become texts, tuples and sets
lists, and keys texts. -/
def settings : Value → Except SettingsFault Value
  | .list xs | .tuple xs | .set xs => do return .list (← settingsItems xs)
  | .map es => do return .map (← settingsEntries es)
  | .date d => .ok (.text d.iso)
  | .moment t => .ok (.text (settingsMoment t))
  | .bytes bs => do return .text (← settingsBytes bs)
  | .missing => .error (.noText missingClass)
  | .null => .ok .null
  | .bool b => .ok (.bool b)
  | .int n => .ok (.int n)
  | .real x => .ok (.real x)
  | .text s => .ok (.text s)

def settingsItems : List Value → Except SettingsFault (List Value)
  | [] => .ok []
  | x :: xs => do
    let first ← settings x
    return first :: (← settingsItems xs)

def settingsEntries : List (Value × Value) → Except SettingsFault (List (Value × Value))
  | [] => .ok []
  | (k, v) :: es => do
    let key ← settingsKey k
    let value ← settings v
    return (.text key, value) :: (← settingsEntries es)

end

mutual

/-- Whether a value can be read from a settings file that leaves room for so many lists and
mappings inside one another. Those that are empty take no room. The sign of a number that is too
long counts as a digit. -/
def fitsFile (room : Nat) : Value → Bool
  | .int n => (intText n).length ≤ Decimal.digitLimit
  | .list xs => itemsFitFile room xs
  | .map es => entriesFitFile room es
  | _ => true

def itemsFitFile (room : Nat) : List Value → Bool
  | [] => true
  | x :: xs => 0 < room && fitsFile (room - 1) x && itemsFitFile room xs

def entriesFitFile (room : Nat) : List (Value × Value) → Bool
  | [] => true
  | (_, v) :: es => 0 < room && fitsFile (room - 1) v && entriesFitFile room es

end

end Value

namespace Config

def text (c : Config) : Except SettingsFault String := do
  let v ← c.toValue.settings
  (v.writeJson .settings 0).mapError fun _ => .noText Value.missingClass

/-- How many lists and mappings that are not empty a settings file may have inside one another. -/
def nestingLimit : Nat := 200

def ofText (text : List Char) : Coerced Config :=
  match Json.read text with
  | .error _ => Coerced.fail .json
  | .ok v =>
    if v.fitsFile nestingLimit then
      match v with
      | .map es => ofEntries es
      | _ => Coerced.fail .model
    else Coerced.fail .json

def fileName : String := "edge-manifest.json"

inductive SaveFault where
  | disk (fault : DiskFault)
  | settings (fault : SettingsFault)

/-- Writes the file of a configuration, in its output folder unless a path is given. -/
def save (c : Config) (d : Disk) (path : Option FilePath) : Disk × Except SaveFault FilePath :=
  let target := path.getD (c.outputDir.append fileName)
  match d.ensureFolders target.parent with
  | (d, .error fault) => (d, .error (.disk fault))
  | (d, .ok ()) =>
    match c.text with
    | .error fault => (d, .error (.settings fault))
    | .ok s =>
      match d.write target (.ofText s) with
      | .ok d => (d, .ok target)
      | .error fault => (d, .error (.disk fault))

inductive ReadFault where
  | disk (fault : DiskFault)
  | encoding (error : Text.Utf8Error)
  | types (issues : List TypeIssue)

def load (d : Disk) (p : FilePath) : Except ReadFault Config := do
  let content ← (d.read p).mapError .disk
  let text ← (Text.decodeUtf8 0 content.asBytes).mapError .encoding
  (ofText (Text.plainLineEnds text)).mapError .types

/-! ## The environment -/

abbrev Environment := List (String × String)

def Environment.get (env : Environment) (name : String) : String := (env.lookup name).getD ""

namespace Environment

def manifestPath : String := "EDGE_MANIFEST_PATH"
def outputDir : String := "EDGE_MANIFEST_OUT_DIR"
def force : String := "EDGE_MANIFEST_FORCE"
def skip : String := "EDGE_MANIFEST_SKIP"
def defaultRegion : String := "EDGE_MANIFEST_DEFAULT_REGION"

def names : List String := [manifestPath, outputDir, force, skip, defaultRegion]

end Environment

def setWords : List String := ["1", "true", "yes", "on"]

def nonEmpty (s : String) : Option String := if s.isEmpty then none else some s

def ofEnvironment (env : Environment) : Config where
  manifestPath := (nonEmpty (env.get Environment.manifestPath)).map .ofText
  outputDir := match env.lookup Environment.outputDir with
    | some s => .ofText s
    | none => defaultOutput
  force := setWords.contains (Text.lower (Text.trim (env.get Environment.force)))
  skip := commaNames (env.get Environment.skip)
  defaultRegion := nonEmpty (env.get Environment.defaultRegion)
  generatorFlags := []

end Config

end Scaffold
