import Scaffold.Yaml.Scalar
import Scaffold.Yaml.Tag

/-!
# The tokens of a YAML text

Blocks are told by indentation: a deeper column opens one, a shallower column
ends all that are deeper. That a node is a key shows only at the colon behind
it, so the places where a key may have begun are remembered, one for each
level of brackets, and the tokens that open the key are put there afterwards.
-/

namespace Scaffold.Yaml

structure PossibleKey where
  level : Nat
  /-- How many tokens come before it. -/
  position : Nat
  /-- Whether nothing but a key can stand there. -/
  required : Bool
  index : Nat
  line : Nat
  column : Nat

structure Lexer where
  cursor : Cursor
  tokens : Array Token
  /-- The columns of the open blocks, innermost first. -/
  indents : List Nat
  /-- How many brackets are open. -/
  level : Nat
  keyAllowed : Bool
  keys : List PossibleKey

namespace Lexer

def start (text : List Char) : Lexer :=
  let c := Cursor.start text
  ⟨if c.peek?.any (·.toNat = 0xFEFF) then c.advance else c, #[], [], 0, true, []⟩

/-- The column of the innermost open block, or -1. -/
def indent (s : Lexer) : Int :=
  match s.indents with
  | [] => -1
  | i :: _ => i

def inFlow (s : Lexer) : Bool := 0 < s.level

def keyLimit : Nat := 1024

/-! ## Possible keys -/

def keyHere? (s : Lexer) : Option PossibleKey := s.keys.find? (·.level = s.level)

/-- Forgets the possible key of the current level; a required one cannot be forgotten. -/
def removeKey (s : Lexer) : Except Fault Lexer :=
  match s.keyHere? with
  | none => .ok s
  | some k =>
    if k.required then .error .malformed
    else .ok { s with keys := s.keys.filter (·.level ≠ s.level) }

/-- Forgets the possible keys that began on an earlier line or too far back. -/
def dropStaleKeys (s : Lexer) : Except Fault Lexer :=
  let stale (k : PossibleKey) : Bool :=
    k.line ≠ s.cursor.line || keyLimit < s.cursor.index - k.index
  if s.keys.any fun k => stale k && k.required then .error .malformed
  else .ok { s with keys := s.keys.filter (!stale ·) }

def saveKey (s : Lexer) : Except Fault Lexer :=
  if !s.keyAllowed then .ok s
  else do
    let required := !s.inFlow && s.indent == s.cursor.column
    let s ← s.removeKey
    let c := s.cursor
    return { s with
      keys := ⟨s.level, s.tokens.size, required, c.index, c.line, c.column⟩ :: s.keys }

/-! ## Indentation -/

def unwindTo (column : Int) : List Nat → Array Token → List Nat × Array Token
  | [], tokens => ([], tokens)
  | i :: is, tokens =>
    if column < i then unwindTo column is (tokens.push .blockEnd) else (i :: is, tokens)

def unwind (s : Lexer) (column : Int) : Lexer :=
  if s.inFlow then s
  else
    let (indents, tokens) := unwindTo column s.indents s.tokens
    { s with indents, tokens }

/-- Opens a block at a column, unless one is open there, with a token put at a position. -/
def openBlock (s : Lexer) (column position : Nat) (token : Token) : Lexer :=
  if s.inFlow || column ≤ s.indent then s
  else { s with
    indents := column :: s.indents
    tokens := s.tokens.insertIdxIfInBounds position token }

/-! ## Tokens -/

def push (s : Lexer) (token : Token) : Lexer := { s with tokens := s.tokens.push token }

def sign (s : Lexer) (length : Nat) (token : Token) : Lexer :=
  { s with cursor := s.cursor.skip length, tokens := s.tokens.push token }

def endBlocks (s : Lexer) : Except Fault Lexer := do
  let s ← (s.unwind (-1)).removeKey
  return { s with keyAllowed := false }

def directiveLine (s : Lexer) : Except Fault Lexer := do
  let s ← s.endBlocks
  let (d, c) ← directive s.cursor
  let c ← ignoredLine c
  return { s.push (.directive d) with cursor := c }

def documentMark (s : Lexer) (token : Token) : Except Fault Lexer := do
  return (← s.endBlocks).sign 3 token

def openFlow (s : Lexer) (token : Token) : Except Fault Lexer := do
  let s ← s.saveKey
  return { s.sign 1 token with level := s.level + 1, keyAllowed := true }

def closeFlow (s : Lexer) (token : Token) : Except Fault Lexer := do
  let s ← s.removeKey
  return { s.sign 1 token with level := s.level - 1, keyAllowed := false }

def flowEntry (s : Lexer) : Except Fault Lexer := do
  let s ← s.removeKey
  return { s.sign 1 .flowEntry with keyAllowed := true }

def blockEntry (s : Lexer) : Except Fault Lexer := do
  if !s.inFlow && !s.keyAllowed then throw .malformed
  let s := s.openBlock s.cursor.column s.tokens.size .blockSequence
  let s ← s.removeKey
  return { s.sign 1 .blockEntry with keyAllowed := true }

def announcedKey (s : Lexer) : Except Fault Lexer := do
  if !s.inFlow && !s.keyAllowed then throw .malformed
  let s := s.openBlock s.cursor.column s.tokens.size .blockMapping
  let s ← s.removeKey
  return { s.sign 1 .key with keyAllowed := !s.inFlow }

/-- A colon: what began at the possible key of this level was a key. -/
def valueSign (s : Lexer) : Except Fault Lexer := do
  match s.keyHere? with
  | some k =>
    -- the key is told before the tokens that have been read since it began
    let s := { s with
      keys := s.keys.filter (·.level ≠ s.level)
      tokens := s.tokens.insertIdxIfInBounds k.position .key
      keyAllowed := false }
    return (s.openBlock k.column k.position .blockMapping).sign 1 .value
  | none =>
    -- a key that a question mark announced, or none at all
    if !s.inFlow && !s.keyAllowed then throw .malformed
    let s := s.openBlock s.cursor.column s.tokens.size .blockMapping
    let s := { s with keyAllowed := !s.inFlow }
    return (← s.removeKey).sign 1 .value

def nodeToken (s : Lexer) (read : Cursor → Except Fault (Token × Cursor)) : Except Fault Lexer := do
  let s ← s.saveKey
  let (token, c) ← read s.cursor
  return { s.push token with cursor := c, keyAllowed := false }

def named (make : String → Token) (c : Cursor) : Except Fault (Token × Cursor) := do
  let (name, c) ← anchorName c
  return (make name, c)

def quoted (double : Bool) (c : Cursor) : Except Fault (Token × Cursor) := do
  let (text, c) ← quotedScalar double c
  return (.scalar (String.ofList text) false, c)

def block (s : Lexer) (folded : Bool) : Except Fault Lexer := do
  let s ← s.removeKey
  let (text, c) ← blockScalar folded s.indent s.cursor
  return { s.push (.scalar (String.ofList text) false) with cursor := c, keyAllowed := true }

def plain (s : Lexer) : Except Fault Lexer := do
  let s ← s.saveKey
  let p := plainScalar s.inFlow s.indent s.cursor
  return { s.push (.scalar (String.ofList p.text) true) with
    cursor := p.cursor, keyAllowed := p.endsLine }

def indicators : List Char := "-?:,[]\x7b\x7d#&*!|>'\"%@\x60".toList

def startsPlain (s : Lexer) (ch : Char) : Bool :=
  (!isGap (some ch) && !indicators.contains ch) ||
    (!isGap (s.cursor.peekAt? 1) && (ch = '-' || (!s.inFlow && (ch = '?' || ch = ':'))))

/-- Whether a sign stands alone; within brackets it need not. -/
def alone (s : Lexer) : Bool := s.inFlow || isGap (s.cursor.peekAt? 1)

def next (s : Lexer) (ch : Char) : Except Fault Lexer :=
  let atLineStart := s.cursor.column = 0
  let mark := atLineStart && s.cursor.atSeparator
  match ch with
  | '%' => if atLineStart then s.directiveLine else .error .malformed
  | '[' => s.openFlow .flowSequence
  | '{' => s.openFlow .flowMapping
  | ']' => s.closeFlow .flowSequenceEnd
  | '}' => s.closeFlow .flowMappingEnd
  | ',' => s.flowEntry
  | '*' => s.nodeToken (named .alias)
  | '&' => s.nodeToken (named .anchor)
  | '!' => s.nodeToken tag
  | '\'' => s.nodeToken (quoted false)
  | '"' => s.nodeToken (quoted true)
  | _ =>
    if ch = '-' && mark then s.documentMark .documentStart
    else if ch = '.' && mark then s.documentMark .documentEnd
    else if ch = '-' && isGap (s.cursor.peekAt? 1) then s.blockEntry
    else if ch = '?' && s.alone then s.announcedKey
    else if ch = ':' && s.alone then s.valueSign
    else if (ch = '|' || ch = '>') && !s.inFlow then s.block (ch = '>')
    else if s.startsPlain ch then s.plain
    else .error .malformed

/-- Passes blanks, comments and line ends; a key may begin on a new line outside of brackets. -/
def skipToToken : Nat → Lexer → Lexer
  | 0, s => s
  | fuel + 1, s =>
    let c := s.cursor.skipBlanks
    let c := if c.isAt '#' then c.skipWhile (!isBreak ·) else c
    match c.takeBreak with
    | (_ :: _, c) =>
      skipToToken fuel { s with cursor := c, keyAllowed := s.keyAllowed || !s.inFlow }
    | ([], c) => { s with cursor := c }

/-- Goes to the next token, past the keys and blocks that cannot reach it. -/
def settle (s : Lexer) : Except Fault Lexer := do
  let s ← (skipToToken (s.cursor.rest.length + 1) s).dropStaleKeys
  return s.unwind s.cursor.column

def finish (s : Lexer) : Except Fault Lexer := (s.unwind (-1)).removeKey

def run : Nat → Lexer → Array Token
  | 0, s => s.tokens.push (.broken .malformed)
  | fuel + 1, s =>
    match s.settle with
    | .error fault => s.tokens.push (.broken fault)
    | .ok s =>
      match s.cursor.peek? with
      | none =>
        match s.finish with
        | .ok s => s.tokens
        | .error fault => s.tokens.push (.broken fault)
      | some ch =>
        match s.next ch with
        | .ok s => run fuel s
        | .error fault => s.tokens.push (.broken fault)

end Lexer

def tokens (text : List Char) : List Token :=
  (Lexer.run (text.length + 1) (.start text)).toList

end Scaffold.Yaml
