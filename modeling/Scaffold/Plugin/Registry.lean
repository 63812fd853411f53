import Scaffold.Admin.Pages
import Scaffold.Api.Routes
import Scaffold.Console.Table

/-!
# Generator plugins

A registry holds plugins in the order in which they were registered, each
under the name it had then. Running all of them passes over those that do not
accept the manifest, with a warning.
-/

namespace Scaffold

inductive PluginResult where
  | text (s : String)
  | files (fs : TextFiles)

inductive PluginFailure where
  | undefined
  | failed (message : String)
  | fill (fault : FillFault)

structure Plugin where
  name : String
  outputPath : String
  /-- Whether a manifest is accepted; without a gate every manifest is. -/
  gate : Option (Manifest → Except PluginFailure Bool)
  /-- The name that the plugin goes by afterwards, and what it makes. The value holds options. -/
  generate : Manifest → Value → String × Except PluginFailure PluginResult

def Plugin.accepts (p : Plugin) (m : Manifest) : Except PluginFailure Bool :=
  match p.gate with
  | none => .ok true
  | some gate => gate m

inductive RegistryFault where
  | registered (name : String)
  | unknown (name : String)
  | rejected (name : String)
  | failure (f : PluginFailure)

namespace RegistryFault

def inDoubleQuotes (s : String) : String := "\"" ++ s ++ "\""

def message : RegistryFault → String
  | .registered name => "Generator plugin " ++ inDoubleQuotes name ++ " is already registered"
  | .unknown name => "Generator plugin " ++ inDoubleQuotes name ++ " is not registered"
  | .rejected name => "Manifest validation failed for generator " ++ inDoubleQuotes name
  | .failure .undefined => ""
  | .failure (.failed message) => message
  | .failure (.fill fault) => fault.message

end RegistryFault

structure Registry where
  entries : List (String × Plugin)

namespace Registry

def empty : Registry := ⟨[]⟩

def names (r : Registry) : List String := r.entries.map Prod.fst
def plugins (r : Registry) : List Plugin := r.entries.map Prod.snd
def get? (r : Registry) (name : String) : Option Plugin := r.entries.lookup name
def has (r : Registry) (name : String) : Bool := (r.get? name).isSome

def register (r : Registry) (p : Plugin) : Except RegistryFault Registry :=
  if r.has p.name then .error (.registered p.name) else .ok ⟨r.entries ++ [(p.name, p)]⟩

def unregister (r : Registry) (name : String) : Registry :=
  ⟨r.entries.filter fun e => e.1 ≠ name⟩

/-! ## Operations -/

inductive Operation where
  | register (p : Plugin)
  | unregister (name : String)
  | clear

/-- What an operation answers: for a removal, whether there was anything to remove. -/
inductive Reply where
  | done
  | removed (held : Bool)
  | refused (fault : RegistryFault)

def perform (r : Registry) : Operation → Registry × Reply
  | .register p =>
    match r.register p with
    | .ok r' => (r', .done)
    | .error f => (r, .refused f)
  | .unregister name => (r.unregister name, .removed (r.has name))
  | .clear => (empty, .done)

/-! ## Runs -/

def rename (r : Registry) (key name : String) : Registry :=
  ⟨r.entries.map fun e => if e.1 = key then (e.1, { e.2 with name := name }) else e⟩

def run (r : Registry) (name : String) (m : Manifest) (options : Value) :
    Registry × Except RegistryFault PluginResult :=
  match r.get? name with
  | none => (r, .error (.unknown name))
  | some p =>
    match p.accepts m with
    | .error f => (r, .error (.failure f))
    | .ok false => (r, .error (.rejected name))
    | .ok true =>
      let (newName, result) := p.generate m options
      (r.rename name newName, result.mapError .failure)

/-- Results by plugin name, in the order in which the names first came up. -/
abbrev Results := List (String × PluginResult)

def Results.put : Results → String → PluginResult → Results
  | [], name, result => [(name, result)]
  | (n, x) :: rest, name, result =>
    if n = name then (n, result) :: rest else (n, x) :: put rest name result

def skipWarning (name : String) : String :=
  "Skipping generator " ++ RegistryFault.inDoubleQuotes name ++ " - validation failed"

/-- The state of a run over all plugins: the registry, what was printed, and the results. -/
structure Run where
  registry : Registry
  printed : String
  results : Results

def runEach (m : Manifest) (options : Value) (s : Run) :
    List (String × Plugin) → Run × Option RegistryFault
  | [] => (s, none)
  | (key, p) :: rest =>
    match p.accepts m with
    | .error f => (s, some (.failure f))
    | .ok false =>
      runEach m options
        { s with printed := s.printed ++ Console.message .warning (skipWarning p.name) } rest
    | .ok true =>
      let (newName, result) := p.generate m options
      -- a plugin may change its name while it runs, also when it fails
      let registry := s.registry.rename key newName
      match result with
      | .ok x =>
        runEach m options { s with registry, results := s.results.put newName x } rest
      | .error f => ({ s with registry }, some (.failure f))

def runAll (r : Registry) (m : Manifest) (options : Value) : Run × Option RegistryFault :=
  runEach m options ⟨r, "", []⟩ r.entries

end Registry

/-- The bundled plugin that lists the endpoints; it wants at least one entity. -/
def Plugin.apiDocs : Plugin where
  name := "api-docs"
  outputPath := "docs/api.md"
  gate := some fun m => .ok !m.entities.isEmpty
  generate m _ := ("api-docs", (ApiDocs.text m).map .text |>.mapError .fill)

end Scaffold
