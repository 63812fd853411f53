import Scaffold.Manifest.Names
import Scaffold.Manifest.Reading
import Scaffold.Manifest.Shape
import Scaffold.Manifest.Value
import Scaffold.Schema.Report

/-!
# Validation of manifests

A value is held against the manifest schema, which reports every issue at
once; what it takes over is read as a manifest; and the names of the manifest
are checked up to the first violation.
-/

namespace Scaffold

inductive InvalidManifest where
  | schema (issues : List Issue)
  | names (fault : NameFault)

namespace InvalidManifest

def issues : InvalidManifest → List Issue
  | .schema issues => issues
  | .names fault => [fault.issue]

def code : InvalidManifest → String
  | .schema _ => "schema_violation"
  | .names (.duplicateEntity ..) => "duplicate_entity_name"
  | .names (.duplicateField ..) => "duplicate_field_name"
  | .names (.unknownTarget ..) => "unknown_relation_target"

def message (e : InvalidManifest) : String := Report.render e.issues

end InvalidManifest

inductive ValidationFault where
  | invalid (e : InvalidManifest)
  /-- What the schema takes over has an attribute of another type, as when it is marked missing. -/
  | types (issues : List TypeIssue)
  | schema (fault : SchemaFault)

namespace Manifest

def validate (raw : Value) : Except ValidationFault Manifest :=
  match Schema.manifest.check raw with
  | .error fault => .error (.schema fault)
  | .ok (.error issues) => .error (.invalid (.schema issues))
  | .ok (.ok taken) =>
    match Manifest.ofValue taken with
    | .error issues => .error (.types issues)
    | .ok m =>
      match m.nameFault? with
      | some fault => .error (.invalid (.names fault))
      | none => .ok m

/-- A manifest that is typed already is validated as the value it is written as. -/
def revalidate (m : Manifest) : Except ValidationFault Manifest := validate m.toValue

end Manifest

end Scaffold
