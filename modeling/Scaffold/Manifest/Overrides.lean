import Scaffold.Manifest.Basic

/-!
# Settings merged into a manifest

Overrides are written into the generator settings in their order: the default
region under a key of its own, the generator flags one by one, and any other
key as it is.
-/

namespace Scaffold

inductive OverrideFault where
  | notMapping (type : String)
  | notIterable (type : String)
  | notPair (index : Nat)
  | pairLength (index length : Nat)
  | unhashable (type : String)

def OverrideFault.message : OverrideFault → String
  | .notMapping type => "'" ++ type ++ "' object has no attribute 'items'"
  | .notIterable type => "'" ++ type ++ "' object is not iterable"
  | .notPair i =>
    "cannot convert dictionary update sequence element #" ++ toString i ++ " to a sequence"
  | .pairLength i n =>
    "dictionary update sequence element #" ++ toString i ++ " has length " ++ toString n ++
      "; 2 is required"
  | .unhashable type => "unhashable type: '" ++ type ++ "'"

namespace Entries

/-- Writes pairs one by one; each pair is any value with two elements. -/
def putPairs (es : Entries) (index : Nat) : List Value → Except OverrideFault Entries
  | [] => .ok es
  | p :: rest =>
    match p.elements? with
    | none => .error (.notPair index)
    | some [k, v] =>
      if k.isHashable then putPairs (es.put k v) (index + 1) rest
      else .error (.unhashable k.unhashableType)
    | some xs => .error (.pairLength index xs.length)

def putFlags (es : Entries) (flags : Value) : Except OverrideFault Entries :=
  match flags with
  | .map fs => .ok (es.putAll fs)
  | v =>
    match v.elements? with
    | some ps => putPairs es 0 ps
    | none => .error (.notIterable v.typeName)

def regionKey : Value := .text "default_region"
def flagsKey : Value := .text "generator_flags"

def putOverride (es : Entries) (key value : Value) : Except OverrideFault Entries :=
  if key.equal regionKey then
    .ok (if value.truth then es.put (.text "defaultRegion") value else es)
  else if key.equal flagsKey then
    if value.truth then es.putFlags value else .ok es
  else .ok (es.put key value)

def putOverrides (es : Entries) : Entries → Except OverrideFault Entries
  | [] => .ok es
  | (k, v) :: rest =>
    match es.putOverride k v with
    | .ok es' => putOverrides es' rest
    | .error fault => .error fault

end Entries

namespace Manifest

def merge (m : Manifest) (overrides : Value) : Except OverrideFault Manifest :=
  if !overrides.truth then .ok m
  else match overrides with
    | .map os =>
      ((m.generators.toOption.getD []).putOverrides os).map fun generators =>
        { m with generators := .set generators }
    | v => .error (.notMapping v.typeName)

end Manifest

end Scaffold
