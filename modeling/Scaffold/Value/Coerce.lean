import Scaffold.Value.Literal
import Scaffold.Text.Case
import Scaffold.Text.Utf8

/-!
# Values read as typed attributes

Reading a typed attribute accepts a few spellings beside the type itself, such
as words for truth values. All faults of a value are reported, each with the
place it was found at.
-/

namespace Scaffold

inductive TypeFault where
  | absent
  | text
  | textBytes
  | truth
  | truthWord
  | list
  | tuple
  | mapping
  | model
  | tagged
  | path
  | json
  | choice
  | tagAbsent
  | tagUnknown
  deriving DecidableEq

def TypeFault.code : TypeFault → String
  | .absent => "missing"
  | .text => "string_type"
  | .textBytes => "string_unicode"
  | .truth => "bool_type"
  | .truthWord => "bool_parsing"
  | .list => "list_type"
  | .tuple => "tuple_type"
  | .mapping => "dict_type"
  | .model => "model_type"
  | .tagged => "model_attributes_type"
  | .path => "path_type"
  | .json => "json_invalid"
  | .choice => "literal_error"
  | .tagAbsent => "union_tag_not_found"
  | .tagUnknown => "union_tag_invalid"

structure TypeIssue where
  place : Path
  fault : TypeFault

/-- A typed reading, or every fault found. -/
abbrev Coerced (α : Type) := Except (List TypeIssue) α

namespace Coerced

def fail {α : Type} (fault : TypeFault) : Coerced α := .error [⟨[], fault⟩]

/-- Two readings side by side: the faults of both are kept. -/
def both {α β : Type} (a : Coerced α) (b : Coerced β) : Coerced (α × β) :=
  match a, b with
  | .ok x, .ok y => .ok (x, y)
  | .ok _, .error f => .error f
  | .error e, .ok _ => .error e
  | .error e, .error f => .error (e ++ f)

def under {α : Type} (key : Value) (r : Coerced α) : Coerced α :=
  r.mapError fun issues => issues.map fun i => { i with place := key :: i.place }

def collect {α : Type} : List (Coerced α) → Coerced (List α)
  | [] => .ok []
  | r :: rs => (both r (collect rs)).map fun p => p.1 :: p.2

end Coerced

namespace Value

open Coerced

def asText : Value → Coerced String
  | .text s => .ok s
  | .bytes bs => match Text.decodeUtf8 0 bs with
    | .ok cs => .ok (String.ofList cs)
    | .error _ => fail .textBytes
  | _ => fail .text

def trueWords : List String := ["1", "on", "t", "true", "y", "yes"]
def falseWords : List String := ["0", "off", "f", "false", "n", "no"]

def asTruth : Value → Coerced Bool
  | .bool b => .ok b
  | .int n => if n = 0 then .ok false else if n = 1 then .ok true else fail .truthWord
  | .real x =>
    if x.equalsInt 0 then .ok false else if x.equalsInt 1 then .ok true else fail .truth
  | .text s =>
    let word := Text.lower s
    if trueWords.contains word then .ok true
    else if falseWords.contains word then .ok false
    else fail .truthWord
  | _ => fail .truth

def asNullable {α : Type} (read : Value → Coerced α) : Value → Coerced (Option α)
  | .null => .ok none
  | v => (read v).map some

/-- A key as it stands in the place of a fault. -/
def placeKey : Value → Value
  | .text s => .text s
  | .int n => .int n
  | .bool b => .int (if b then 1 else 0)
  | k => .text k.literal

def asItems (fault : TypeFault) : Value → Coerced (List Value)
  | .list xs => .ok xs
  | .tuple xs => .ok xs
  | .set xs => .ok xs
  | _ => fail fault

def asTextMap : Value → Coerced Entries
  | .map es => (collect (es.map fun e =>
      (asText e.1 |> under (.text "[key]") |> under (placeKey e.1)).map fun k =>
        (Value.text k, e.2))).map Entries.ofList
  | _ => fail .mapping

def asList {α : Type} (fault : TypeFault) (read : Value → Coerced α) (v : Value) :
    Coerced (List α) :=
  match asItems fault v with
  | .error e => .error e
  | .ok xs => collect (xs.mapIdx fun i x => under (.int i) (read x))

end Value

namespace Entries

open Coerced

/-- A property that must be there. -/
def need {α : Type} (es : Entries) (key : String) (read : Value → Coerced α) : Coerced α :=
  under (.text key) (match es.getText? key with
    | some v => read v
    | none => fail .absent)

/-- A property that may be left out. -/
def want {α : Type} (es : Entries) (key : String) (read : Value → Coerced α) :
    Coerced (Option α) :=
  match es.getText? key with
  | some v => under (.text key) ((read v).map some)
  | none => .ok none

end Entries

end Scaffold
