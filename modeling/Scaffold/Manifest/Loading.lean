import Scaffold.Manifest.Overrides
import Scaffold.Manifest.Source

/-!
# Loading manifests

Loading reads, validates and merges overrides. A loader remembers the last
manifest that it loaded; a failure leaves that as it is.
-/

namespace Scaffold

structure LoadedManifest where
  manifest : Manifest
  source : Option FilePath
  overrides : Option Entries

inductive LoadFault where
  | refused (reason : LoadReason) (source : Option FilePath)
  | source (fault : SourceFault)
  | types (issues : List TypeIssue)
  | schema (fault : SchemaFault)
  | overrides (fault : OverrideFault)

namespace LoadFault

def ofValidation (source : Option FilePath) : ValidationFault → LoadFault
  | .invalid e => .refused (.invalid e) source
  | .types issues => .types issues
  | .schema fault => .schema fault

def ofSource (p : FilePath) : SourceFault → LoadFault
  | .refused reason => .refused reason (some p)
  | fault => .source fault

def refusal (reason : LoadReason) (source : Option FilePath) : String :=
  "Failed to load manifest" ++ (match source with
    | some p => " from " ++ p.text
    | none => "") ++ ":\n- " ++ reason.message

/-- The message of a fault; faults of types are told by their places instead. -/
def message : LoadFault → String
  | .refused reason p => refusal reason p
  | .source fault => fault.message
  | .types _ => ""
  | .schema fault => fault.message
  | .overrides fault => fault.message

end LoadFault

namespace LoadedManifest

/-- Overrides are kept with text keys; none at all and empty ones are the same. -/
def overridesOf (v : Value) : Coerced (Option Entries) :=
  if v.truth then (v.asTextMap.map some) |> Coerced.under (.text "runtime_overrides")
  else .ok none

def ofValue (raw overrides : Value) (source : Option FilePath) :
    Except LoadFault LoadedManifest := do
  let m ← (Manifest.validate raw).mapError (.ofValidation source)
  let merged ← (m.merge overrides).mapError .overrides
  let kept ← (overridesOf overrides).mapError .types
  return ⟨merged, source, kept⟩

def ofFile (d : Disk) (p : FilePath) (overrides : Value) : Except LoadFault LoadedManifest := do
  let raw ← (ManifestFile.read d p).mapError (.ofSource p)
  ofValue raw overrides (some p)

end LoadedManifest

structure Loader where
  last : Option LoadedManifest

namespace Loader

def new : Loader := ⟨none⟩

def keep (l : Loader) : Except LoadFault LoadedManifest → Loader × Except LoadFault LoadedManifest
  | .ok loaded => (⟨some loaded⟩, .ok loaded)
  | .error fault => (l, .error fault)

def loadValue (l : Loader) (raw overrides : Value) (source : Option FilePath) :
    Loader × Except LoadFault LoadedManifest :=
  l.keep (LoadedManifest.ofValue raw overrides source)

def loadFile (l : Loader) (d : Disk) (p : FilePath) (overrides : Value) :
    Loader × Except LoadFault LoadedManifest :=
  l.keep (LoadedManifest.ofFile d p overrides)

end Loader

namespace Discovery

def manifest (d : Disk) (start : FilePath) : Except LoadFault FilePath :=
  match manifest? d start with
  | .ok (some p) => .ok p
  | .ok none => .error (.refused (.notFound start) none)
  | .error fault =>
    .error (.source (if fault.cause = .missing then .missing fault else .disk fault))

end Discovery

end Scaffold
