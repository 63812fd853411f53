import Scaffold.Yaml.Node
import Scaffold.Yaml.Scalars
import Scaffold.Yaml.Tokens

/-!
# Reading YAML

A text is cut into tokens, the tokens are one document, and the nodes of the
document are read as values, collection by collection from the root down. Of
several faults the one in the outermost collection counts, and of those the
first.
-/

namespace Scaffold.Yaml

/-! ## Merged mappings -/

def Node.kind : Node → Kind
  | .scalar k _ | .sequence k _ | .mapping k _ => k

/-- A mapping whose merge key holds something else than mappings. -/
def Node.unmergeable : Node := .mapping .merge []

def entriesOf? : Node → Option (List (Node × Node))
  | .mapping .merge _ => none
  | .mapping _ es => some es
  | _ => none

/-- What a merge key takes over: the entries of a mapping, or of several, the first of which
counts. -/
def takenOver? : Node → Option (List (Node × Node))
  | .sequence _ xs => (xs.reverse.mapM entriesOf?).map List.flatten
  | n => entriesOf? n

/-- The key of a mapping's own value is the text of its sign. -/
def ownKey (n : Node) : Node :=
  match n with
  | .scalar .self t => .scalar .text t
  | n => n

def withMerged (kind : Kind) (es : List (Node × Node)) : Node :=
  match (es.filter (·.1.kind = .merge)).mapM (takenOver? ·.2) with
  | none => .unmergeable
  | some taken =>
    .mapping kind (taken.flatten ++
      ((es.filter (·.1.kind ≠ .merge)).map fun e => (ownKey e.1, e.2)))

mutual

def Node.merged : Node → Node
  | .scalar k t => .scalar k t
  | .sequence k xs => .sequence k (mergedItems xs)
  | .mapping k es =>
    let es := mergedEntries es
    if k = .mapping ∨ k = .set then withMerged k es else .mapping k es

def mergedItems : List Node → List Node
  | [] => []
  | x :: xs => x.merged :: mergedItems xs

def mergedEntries : List (Node × Node) → List (Node × Node)
  | [] => []
  | (k, v) :: es => (k.merged, v.merged) :: mergedEntries es

end

/-! ## Values -/

/-- A fault and how many collections lie around it. -/
structure DeepFault where
  depth : Nat
  fault : Fault

abbrev Valued (α : Type) := Except DeepFault α

namespace Valued

def fail {α : Type} (depth : Nat) (fault : Fault) : Valued α := .error ⟨depth, fault⟩

/-- Two readings one after the other; of two faults the outer one counts. -/
def both {α β : Type} (a : Valued α) (b : Valued β) : Valued (α × β) :=
  match a, b with
  | .ok x, .ok y => .ok (x, y)
  | .ok _, .error f => .error f
  | .error e, .ok _ => .error e
  | .error e, .error f => .error (if f.depth < e.depth then f else e)

end Valued

def isCollection : Node → Bool
  | .scalar .. => false
  | _ => true

def selfText? (es : List (Node × Node)) : Option String :=
  match es.find? (·.1.kind = .self) with
  | some (_, .scalar _ t) => some t
  | _ => none

mutual

def Node.value (depth : Nat) : Node → Valued Value
  | .scalar k t => (scalarValue k t).mapError (⟨depth, ·⟩)
  | .sequence .sequence xs => .list <$> itemValues (depth + 1) xs
  | .sequence .orderedMap xs | .sequence .pairs xs => .list <$> pairValues (depth + 1) xs
  | .mapping .mapping es => (fun kvs => .map (Entries.ofList kvs)) <$> entryValues (depth + 1) es
  | .mapping .set es =>
    (fun kvs => .set (Value.ofSetItems (kvs.map Prod.fst))) <$> entryValues (depth + 1) es
  | .mapping .merge _ => Valued.fail (depth + 1) .malformed
  | .mapping k es =>
    match selfText? es with
    | some t => (scalarValue k t).mapError (⟨depth, ·⟩)
    | none => Valued.fail depth .malformed
  | .sequence _ _ => Valued.fail depth .malformed

def itemValues (depth : Nat) : List Node → Valued (List Value)
  | [] => .ok []
  | x :: xs => (fun p => p.1 :: p.2) <$> Valued.both (x.value depth) (itemValues depth xs)

/-- Entries in their order; a collection is no key. -/
def entryValues (depth : Nat) : List (Node × Node) → Valued (List (Value × Value))
  | [] => .ok []
  | (k, v) :: es =>
    let key := if isCollection k then Valued.fail depth .malformed else k.value depth
    (fun p => p.1 :: p.2) <$>
      Valued.both (Valued.both key (v.value depth)) (entryValues depth es)

def pairValues (depth : Nat) : List Node → Valued (List Value)
  | [] => .ok []
  | .mapping _ [(k, v)] :: xs =>
    (fun p => .tuple [p.1.1, p.1.2] :: p.2) <$>
      Valued.both (Valued.both (k.value depth) (v.value depth)) (pairValues depth xs)
  | _ :: _ => Valued.fail depth .malformed

end

/-! ## Texts -/

/-- Control characters, but for tabs, line ends and the next-line character, and the two last code
points of the first plane are refused. -/
def isAllowed (c : Char) : Bool :=
  let n := c.toNat
  n = 9 || n = 10 || n = 13 || (0x20 ≤ n && n ≤ 0x7E) || n = 0x85 || (0xA0 ≤ n && n ≤ 0xFFFD) ||
    0x10000 ≤ n

/-- The value that a YAML text writes; nothing written is null. -/
def read (text : List Char) : Except Fault Value := do
  if !text.all isAllowed then throw .malformed
  match ← Node.ofTokens? (tokens text) with
  | none => return .null
  | some root => (root.merged.value 0).mapError DeepFault.fault

end Scaffold.Yaml
