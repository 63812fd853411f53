import Scaffold.Text.Split

/-!
# File paths

A path is read from a text by its slashes: empty segments and single dots
vanish, double dots stay. So a path is an anchor and a list of segments, and
joining a path to an anchored one gives the latter.
-/

namespace Scaffold

/-- What a path starts from: the current folder or the root. Exactly two slashes in front are kept
apart from one. -/
inductive Anchor where
  | here
  | root
  | doubleRoot
  deriving DecidableEq

/-- A segment is not empty, not a single dot, and holds no slash. -/
def isSegment (s : String) : Bool :=
  !s.toList.isEmpty && s.toList != ['.'] && !s.toList.contains '/'

structure FilePath where
  anchor : Anchor
  segments : List String
  segments_valid : ∀ s ∈ segments, isSegment s = true
  deriving DecidableEq

namespace FilePath

def readAnchor : List Char → Anchor
  | '/' :: '/' :: '/' :: _ => .root
  | '/' :: '/' :: _ => .doubleRoot
  | '/' :: _ => .root
  | _ => .here

def readSegments (cs : List Char) : List String :=
  ((Text.split '/' cs).map String.ofList).filter isSegment

def ofText (s : String) : FilePath where
  anchor := readAnchor s.toList
  segments := readSegments s.toList
  segments_valid _ h := (List.mem_filter.1 h).2

def anchorText : Anchor → String
  | .here => ""
  | .root => "/"
  | .doubleRoot => "//"

def text (p : FilePath) : String :=
  if p.anchor = .here ∧ p.segments = [] then "."
  else anchorText p.anchor ++ "/".intercalate p.segments

def isAbsolute (p : FilePath) : Bool := p.anchor ≠ .here

def join (p q : FilePath) : FilePath :=
  if q.isAbsolute then q
  else {
    anchor := p.anchor
    segments := p.segments ++ q.segments
    segments_valid s h := (List.mem_append.1 h).elim (p.segments_valid s) (q.segments_valid s) }

def append (p : FilePath) (s : String) : FilePath := p.join (.ofText s)

def parent (p : FilePath) : FilePath where
  anchor := p.anchor
  segments := p.segments.dropLast
  segments_valid s h := p.segments_valid s (List.dropLast_subset _ h)

def name (p : FilePath) : String := p.segments.getLast?.getD ""

/-- The last dot of a name and what follows it; a dot at either end of the name does not count. -/
def suffixOf (name : List Char) : List Char :=
  match Text.afterLast? '.' name with
  | none => []
  | some rest =>
    if rest.isEmpty || rest.length + 1 = name.length then [] else '.' :: rest

def suffix (p : FilePath) : String := String.ofList (suffixOf p.name.toList)

end FilePath

end Scaffold
