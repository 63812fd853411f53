import Scaffold.Yaml.Kind
import Scaffold.Yaml.Token

/-!
# The nodes of a YAML document

The tokens are read by recursive descent into one tree. An alias stands for
the node with its anchor, which has to be complete.
-/

namespace Scaffold.Yaml

inductive Node where
  | scalar (kind : Kind) (text : String)
  | sequence (kind : Kind) (items : List Node)
  | mapping (kind : Kind) (entries : List (Node × Node))

def Node.absent : Node := .scalar .null ""

/-- What is still to be read, the anchored nodes, and the beginnings that tag handles stand for. -/
structure Source where
  tokens : List Token
  anchors : List (String × Node)
  handles : List (String × String)

def defaultHandles : List (String × String) := [("!", "!"), ("!!", Kind.coreTag)]

abbrev Reader := StateT Source (Except Fault)

namespace Reader

def peek : Reader (Option Token) := do
  match (← get).tokens with
  | [] => return none
  | .broken fault :: _ => throw fault
  | t :: _ => return some t

def skip : Reader Unit := modify fun s => { s with tokens := s.tokens.drop 1 }

/-! ## Properties of nodes -/

def anchor? : Reader (Option String) := do
  match ← peek with
  | some (.anchor name) => skip; return some name
  | _ => return none

def tag? : Reader (Option String) := do
  match ← peek with
  | some (.tag none suffix) => skip; return some suffix
  | some (.tag (some handle) suffix) =>
    skip
    match (← get).handles.lookup handle with
    | some lead => return some (lead ++ suffix)
    | none => throw .malformed
  | _ => return none

def properties : Reader (Option String × Option String) := do
  match ← anchor? with
  | some name => return (some name, ← tag?)
  | none =>
    let tag ← tag?
    return (← anchor?, tag)

/-- The kind of a collection: the one that its tag names, or that of its form. -/
def collectionKind (tag : Option String) (form : Kind) : Kind :=
  match tag with
  | none | some "!" => form
  | some t => .ofTag t

/-- A scalar without a tag is text where it is quoted, and else of the kind of its word. -/
def scalarKind (tag : Option String) (text : String) (plain : Bool) : Kind :=
  match tag with
  | none => if plain then .ofPlain text.toList else .text
  | some "!" => .ofPlain text.toList
  | some t => .ofTag t

/-- Keeps a node under its anchor; an anchor is used once. -/
def remember (anchor : Option String) (n : Node) : Reader Node := do
  match anchor with
  | none => return n
  | some name =>
    let s ← get
    if (s.anchors.lookup name).isSome then throw .malformed
    set { s with anchors := (name, n) :: s.anchors }
    return n

/-! ## Nodes -/

/-- Whether a token ends the place of a node in a block sequence, and of a key or value in a block
mapping. -/
def endsEntry : Option Token → Bool
  | some .blockEntry | some .blockEnd => true
  | _ => false

def endsPair : Option Token → Bool
  | some .key | some .value | some .blockEnd => true
  | _ => false

mutual

/-- A node; blocks may begin only outside of brackets, and a sequence without indentation of its
own only within a mapping. -/
def node (block inMapping : Bool) : Nat → Reader Node
  | 0 => throw .malformed
  | fuel + 1 => do
    -- an alias has no properties of its own
    if let some (.alias name) ← peek then
      skip
      match (← get).anchors.lookup name with
      | some n => return n
      | none => throw .malformed
    let (anchor, tag) ← properties
    let sequence (items : Reader (List Node)) : Reader Node := do
      remember anchor (.sequence (collectionKind tag .sequence) (← items))
    let mapping (entries : Reader (List (Node × Node))) : Reader Node := do
      remember anchor (.mapping (collectionKind tag .mapping) (← entries))
    -- properties with nothing behind them make an empty scalar
    let unwritten : Reader Node :=
      if anchor.isSome || tag.isSome then remember anchor (.scalar (scalarKind tag "" true) "")
      else throw .malformed
    match ← peek with
    | some (.scalar text plain) => skip; remember anchor (.scalar (scalarKind tag text plain) text)
    | some .flowSequence => skip; sequence (flowItems true fuel)
    | some .flowMapping => skip; mapping (flowEntries true fuel)
    -- a sequence within a mapping may stand at the column of its key
    | some .blockEntry => if inMapping then sequence (openItems fuel) else unwritten
    | some .blockSequence =>
      if block then do skip; sequence (blockItems fuel) else unwritten
    | some .blockMapping =>
      if block then do skip; mapping (blockEntries fuel) else unwritten
    | _ => unwritten

def blockItems : Nat → Reader (List Node)
  | 0 => throw .malformed
  | fuel + 1 => do
    match ← peek with
    | some .blockEntry =>
      skip
      let item ← if endsEntry (← peek) then pure Node.absent else node true false fuel
      return item :: (← blockItems fuel)
    | some .blockEnd => skip; return []
    | _ => throw .malformed

/-- The items of a sequence without indentation of its own. -/
def openItems : Nat → Reader (List Node)
  | 0 => throw .malformed
  | fuel + 1 => do
    match ← peek with
    | some .blockEntry =>
      skip
      let next ← peek
      let item ← if endsEntry next || endsPair next then pure Node.absent else node true false fuel
      return item :: (← openItems fuel)
    | _ => return []

def blockEntries : Nat → Reader (List (Node × Node))
  | 0 => throw .malformed
  | fuel + 1 => do
    match ← peek with
    | some .blockEnd => skip; return []
    | some .key =>
      skip
      let key ← if endsPair (← peek) then pure Node.absent else node true true fuel
      let value ← match ← peek with
        | some .value => do
          skip
          if endsPair (← peek) then pure Node.absent else node true true fuel
        | _ => pure Node.absent
      return (key, value) :: (← blockEntries fuel)
    | _ => throw .malformed

/-- The items between brackets; a pair of key and value is an item too. -/
def flowItems (first : Bool) : Nat → Reader (List Node)
  | 0 => throw .malformed
  | fuel + 1 => do
    if let some .flowSequenceEnd ← peek then skip; return []
    if !first then
      match ← peek with
      | some .flowEntry => skip
      | _ => throw .malformed
    match ← peek with
    | some .flowSequenceEnd => skip; return []
    | some .key =>
      skip
      let key ← match ← peek with
        | some .value | some .flowEntry | some .flowSequenceEnd => pure Node.absent
        | _ => node false false fuel
      let value ← match ← peek with
        | some .value => do
          skip
          match ← peek with
          | some .flowEntry | some .flowSequenceEnd => pure Node.absent
          | _ => node false false fuel
        | _ => pure Node.absent
      return .mapping .mapping [(key, value)] :: (← flowItems false fuel)
    | _ =>
      let item ← node false false fuel
      return item :: (← flowItems false fuel)

/-- The entries between braces; a key may lack its value. -/
def flowEntries (first : Bool) : Nat → Reader (List (Node × Node))
  | 0 => throw .malformed
  | fuel + 1 => do
    if let some .flowMappingEnd ← peek then skip; return []
    if !first then
      match ← peek with
      | some .flowEntry => skip
      | _ => throw .malformed
    match ← peek with
    | some .flowMappingEnd => skip; return []
    | some .key =>
      skip
      let key ← match ← peek with
        | some .value | some .flowEntry | some .flowMappingEnd => pure Node.absent
        | _ => node false false fuel
      let value ← match ← peek with
        | some .value => do
          skip
          match ← peek with
          | some .flowEntry | some .flowMappingEnd => pure Node.absent
          | _ => node false false fuel
        | _ => pure Node.absent
      return (key, value) :: (← flowEntries false fuel)
    | _ =>
      let key ← node false false fuel
      return (key, Node.absent) :: (← flowEntries false fuel)

end

/-! ## Documents -/

/-- The directives in front of a document: one version, which is 1, and handles for tags. -/
def directives (version : Bool) (handles : List (String × String)) :
    List Token → Except Fault (List (String × String) × List Token)
  | .directive .other :: rest => directives version handles rest
  | .directive (.version major) :: rest =>
    if version || major ≠ 1 then .error .malformed else directives true handles rest
  | .directive (.tag handle lead) :: rest =>
    if (handles.lookup handle).isSome then .error .malformed
    else directives version (handles ++ [(handle, lead)]) rest
  | tokens => .ok (handles, tokens)

def endsDocument : Option Token → Bool
  | none | some (.directive _) | some .documentStart | some .documentEnd => true
  | _ => false

def nothingMore : List Token → Except Fault Unit
  | [] => .ok ()
  | .documentEnd :: rest => nothingMore rest
  | .broken fault :: _ => .error fault
  | _ => .error .malformed

/-- The one document of a text; none for a text without tokens. -/
def document (fuel : Nat) : Reader (Option Node) := do
  let root ← match ← peek with
    | none => pure none
    | some (.directive _) | some .documentStart => do
      let (handles, tokens) ← directives false [] (← get).tokens
      modify fun s => { s with tokens, handles := handles ++ defaultHandles }
      match ← peek with
      | some .documentStart => skip
      | _ => throw .malformed
      if endsDocument (← peek) then pure (some Node.absent)
      else some <$> node true false fuel
    | _ => some <$> node true false fuel
  nothingMore (← get).tokens
  return root

end Reader

def Node.ofTokens? (tokens : List Token) : Except Fault (Option Node) :=
  (·.1) <$> (Reader.document (4 * tokens.length + 4)).run ⟨tokens, [], defaultHandles⟩

end Scaffold.Yaml
