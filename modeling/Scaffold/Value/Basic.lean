import Scaffold.Time.Moment

/-!
# Values

The data of manifests and settings. Mappings keep the order in which keys were
first written, and two keys are one when they are equal as values, so that the
numbers `1` and `1.0` and the truth value are one key.
-/

namespace Scaffold

inductive Value where
  | null
  /-- The mark of a value that is not there at all. -/
  | missing
  | bool (b : Bool)
  | int (n : Int)
  | real (x : Binary64)
  | text (s : String)
  | bytes (bs : List UInt8)
  | date (d : Date)
  | moment (t : Moment)
  | list (xs : List Value)
  | tuple (xs : List Value)
  | set (xs : List Value)
  | map (es : List (Value × Value))

abbrev Entries := List (Value × Value)

abbrev Path := List Value

instance : Inhabited Value := ⟨.null⟩

namespace Value

/-! ## Kinds -/

/-- The name of a value's type, as errors about lengths and iteration give it. -/
def typeName : Value → String
  | .null => "NoneType"
  | .missing => "_Missing"
  | .bool _ => "bool"
  | .int _ => "int"
  | .real _ => "float"
  | .text _ => "str"
  | .bytes _ => "bytes"
  | .date _ => "datetime.date"
  | .moment _ => "datetime.datetime"
  | .list _ => "list"
  | .tuple _ => "tuple"
  | .set _ => "set"
  | .map _ => "dict"

/-- The name of the type of the missing value, with the module it belongs to. -/
def missingClass : String := "edge_manifest.manifest.validation._Missing"

def shortTypeName : Value → String
  | .date _ => "date"
  | .moment _ => "datetime"
  | v => v.typeName

def isText : Value → Bool
  | .text _ => true
  | _ => false

def text? : Value → Option String
  | .text s => some s
  | _ => none

def items? : Value → Option (List Value)
  | .list xs => some xs
  | .tuple xs => some xs
  | _ => none

def entries? : Value → Option Entries
  | .map es => some es
  | _ => none

/-- How many characters, bytes, items or entries a value has. -/
def length? : Value → Option Nat
  | .text s => some s.length
  | .bytes bs => some bs.length
  | .list xs => some xs.length
  | .tuple xs => some xs.length
  | .set xs => some xs.length
  | .map es => some es.length
  | _ => none

/-- What iteration over a value gives: characters, byte numbers, items, or keys. -/
def elements? : Value → Option (List Value)
  | .text s => some (s.toList.map fun c => .text (String.singleton c))
  | .bytes bs => some (bs.map fun b => .int b.toNat)
  | .list xs => some xs
  | .tuple xs => some xs
  | .set xs => some xs
  | .map es => some (es.map Prod.fst)
  | _ => none

def truth : Value → Bool
  | .null => false
  | .missing => false
  | .bool b => b
  | .int n => n != 0
  | .real x => !x.isZero
  | .date _ => true
  | .moment _ => true
  | .text s => !s.isEmpty
  | .bytes bs => !bs.isEmpty
  | .list xs => !xs.isEmpty
  | .tuple xs => !xs.isEmpty
  | .set xs => !xs.isEmpty
  | .map es => !es.isEmpty

mutual

/-- The type of the first part that keeps a value from being a key: lists, sets and mappings cannot be
part of one. -/
def unhashable? : Value → Option String
  | .list xs => some (typeName (.list xs))
  | .set xs => some (typeName (.set xs))
  | .map es => some (typeName (.map es))
  | .tuple xs => unhashableIn? xs
  | _ => none

def unhashableIn? : List Value → Option String
  | [] => none
  | x :: xs =>
    match unhashable? x with
    | some type => some type
    | none => unhashableIn? xs

end

def isHashable (v : Value) : Bool := v.unhashable?.isNone

def unhashableType (v : Value) : String := v.unhashable?.getD v.typeName

/-! ## Equality -/

/-- The number that a value counts as. -/
inductive Number where
  | int (n : Int)
  | real (x : Binary64)

def number? : Value → Option Number
  | .bool b => some (.int (if b then 1 else 0))
  | .int n => some (.int n)
  | .real x => some (.real x)
  | _ => none

def Number.equal : Number → Number → Bool
  | .int a, .int b => a == b
  | .int a, .real b => b.equalsInt a
  | .real a, .int b => a.equalsInt b
  | .real a, .real b => a.equal b

def Number.less : Number → Number → Bool
  | .int a, .int b => a < b
  | .int a, .real b => Binary64.intLess a b
  | .real a, .int b => a.lessInt b
  | .real a, .real b => a.less b

def Number.equalValue (a : Number) (v : Value) : Bool :=
  match v.number? with
  | some b => a.equal b
  | none => false

mutual

/-- Equality of values: numbers by their value, mappings and sets without regard to order. -/
def equal : Value → Value → Bool
  | .null, .null => true
  | .missing, .missing => true
  | .text a, .text b => a == b
  | .bytes a, .bytes b => a == b
  | .date a, .date b => a == b
  | .moment a, .moment b => a.equal b
  | .list xs, .list ys => equalItems xs ys
  | .tuple xs, .tuple ys => equalItems xs ys
  | .set xs, .set ys => xs.length == ys.length && allIn xs ys
  | .map es, .map fs => es.length == fs.length && equalEntries es fs
  | .bool a, w => Number.equalValue (.int (if a then 1 else 0)) w
  | .int a, w => Number.equalValue (.int a) w
  | .real a, w => Number.equalValue (.real a) w
  | _, _ => false
termination_by structural v => v

def equalItems : List Value → List Value → Bool
  | [], [] => true
  | x :: xs, y :: ys => equal x y && equalItems xs ys
  | _, _ => false
termination_by structural xs => xs

def allIn : List Value → List Value → Bool
  | [], _ => true
  | x :: xs, ys => ys.any (equal x ·) && allIn xs ys
termination_by structural xs => xs

def equalEntries : Entries → Entries → Bool
  | [], _ => true
  | (k, v) :: es, fs =>
    (match fs.find? (fun f => equal k f.1) with
      | some f => equal v f.2
      | none => false) && equalEntries es fs
termination_by structural es => es

end

/-- Whether two values have the same type at the top. -/
def sameType (a b : Value) : Bool := a.typeName == b.typeName

end Value

/-! ## Entries -/

namespace Entries

def get? (es : Entries) (k : Value) : Option Value :=
  (es.find? fun e => e.1.equal k).map (·.2)

/-- Writes an entry: a key that is there keeps its place and its first spelling. -/
def put : Entries → Value → Value → Entries
  | [], k, v => [(k, v)]
  | (k', v') :: es, k, v => if k'.equal k then (k', v) :: es else (k', v') :: put es k v

def ofList (es : List (Value × Value)) : Entries := es.foldl (fun m e => put m e.1 e.2) []

def putAll (es fs : Entries) : Entries := fs.foldl (fun m e => put m e.1 e.2) es

def getText? (es : Entries) (k : String) : Option Value := get? es (.text k)

end Entries

namespace Value

def field? (v : Value) (k : String) : Option Value := v.entries?.bind (Entries.getText? · k)

def ofSetItems (xs : List Value) : List Value :=
  xs.foldl (fun ys x => if ys.any (·.equal x) then ys else ys ++ [x]) []

def ofTexts (ss : List String) : Value := .list (ss.map .text)

def ofFields (fs : List (String × Value)) : Value := .map (fs.map fun f => (.text f.1, f.2))

end Value

end Scaffold
