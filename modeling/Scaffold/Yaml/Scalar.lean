import Scaffold.Yaml.Cursor
import Scaffold.Yaml.Token

/-!
# YAML scalars

The three forms in which a scalar is written: plain, between quotes, and as a
block of indented lines. Each reader starts at the first character of the
scalar and gives its text and the place behind it.
-/

namespace Scaffold.Yaml

def isBlankOrTab (c : Char) : Bool := c = ' ' || c = '\t'

def Cursor.atBlankOrTab (c : Cursor) : Bool := c.peek?.any isBlankOrTab

/-- What the line ends between two parts of a scalar count for: a single line feed is a blank. -/
def foldBreaks (first : Char) (more : List Char) : List Char :=
  (if first ≠ '\n' then [first] else if more.isEmpty then [' '] else []) ++ more

def Cursor.takeBreak (c : Cursor) : List Char × Cursor :=
  match c.peek? with
  | some ch => if isBreak ch then ([Cursor.breakText ch], c.advance) else ([], c)
  | none => ([], c)

/-! ## Plain scalars -/

def endsWord (flow : Bool) (ch : Char) (rest : List Char) : Bool :=
  isGap (some ch) ||
    (ch = ':' && (isGap rest.head? ||
      (flow && rest.head?.any fun d => [',', '[', ']', '{', '}'].contains d))) ||
    (flow && [',', '?', '[', ']', '{', '}'].contains ch)

def plainWord (flow : Bool) : List Char → List Char
  | [] => []
  | ch :: rest => if endsWord flow ch rest then [] else ch :: plainWord flow rest

def plainBreaks : Nat → Cursor → List Char → List Char × Cursor × Bool
  | 0, c, breaks => (breaks.reverse, c, false)
  | fuel + 1, c, breaks =>
    match c.peek? with
    | some ch =>
      if ch = ' ' then plainBreaks fuel c.advance breaks
      else if isBreak ch then
        let breaks := Cursor.breakText ch :: breaks
        if c.advance.atSeparator then (breaks.reverse, c.advance, true)
        else plainBreaks fuel c.advance breaks
      else (breaks.reverse, c, false)
    | none => (breaks.reverse, c, false)

def plainSpaces (c : Cursor) : List Char × Cursor × Bool :=
  let (blanks, c) := c.span (· = ' ')
  match c.takeBreak with
  | (first :: _, c) =>
    if c.atSeparator then ([], c, true)
    else match plainBreaks c.rest.length c [] with
      | (_, c, true) => ([], c, true)
      | (more, c, false) => (foldBreaks first more, c, true)
  | ([], c) => (blanks, c, false)

structure PlainScalar where
  text : List Char
  cursor : Cursor
  endsLine : Bool

def plainWords (flow : Bool) (indent : Int) :
    Nat → Cursor → List Char → List Char → Bool → PlainScalar
  | 0, c, _, text, endsLine => ⟨text.reverse, c, endsLine⟩
  | fuel + 1, c, spaces, text, endsLine =>
    let word := if c.isAt '#' then [] else plainWord flow c.rest
    if word.isEmpty then ⟨text.reverse, c, endsLine⟩
    else
      let text := word.reverse ++ (spaces.reverse ++ text)
      let (spaces, c, endsLine) := plainSpaces (c.skip word.length)
      if spaces.isEmpty || c.isAt '#' || (!flow && c.column < indent) then
        ⟨text.reverse, c, endsLine⟩
      else plainWords flow indent fuel c spaces text endsLine

def plainScalar (flow : Bool) (indent : Int) (c : Cursor) : PlainScalar :=
  plainWords flow (indent + 1) c.rest.length c [] [] false

/-! ## Quoted scalars -/

def simpleEscape? (c : Char) : Option Char :=
  match c with
  | '0' => some (Char.ofNat 0)
  | 'a' => some (Char.ofNat 7)
  | 'b' => some (Char.ofNat 8)
  | 't' | '\t' => some '\t'
  | 'n' => some '\n'
  | 'v' => some (Char.ofNat 11)
  | 'f' => some (Char.ofNat 12)
  | 'r' => some '\r'
  | 'e' => some (Char.ofNat 27)
  | ' ' => some ' '
  | '"' => some '"'
  | '\\' => some '\\'
  | '/' => some '/'
  | 'N' => some (Char.ofNat 0x85)
  | '_' => some (Char.ofNat 0xA0)
  | 'L' => some (Char.ofNat 0x2028)
  | 'P' => some (Char.ofNat 0x2029)
  | _ => none

def codeLength? : Char → Option Nat
  | 'x' => some 2
  | 'u' => some 4
  | 'U' => some 8
  | _ => none

/-- The line ends inside quotes; a document separator may not follow one. -/
def quotedBreaks : Nat → Cursor → List Char → Except Fault (List Char × Cursor)
  | 0, _, _ => .error .malformed
  | fuel + 1, c, breaks =>
    if c.atSeparator then .error .malformed
    else match (c.skipWhile isBlankOrTab).takeBreak with
      | (ch :: _, c) => quotedBreaks fuel c (ch :: breaks)
      | ([], c) => .ok (breaks.reverse, c)

def quotedSpaces (c : Cursor) : Except Fault (List Char × Cursor) :=
  let (blanks, c) := c.span isBlankOrTab
  match c.takeBreak with
  | (first :: _, c) => do
    let (more, c) ← quotedBreaks (c.rest.length + 1) c []
    return (foldBreaks first more, c)
  | ([], c) => if c.atEnd then .error .malformed else .ok (blanks, c)

def coded (length : Nat) (c : Cursor) : Except Fault (List Char × Cursor) :=
  let digits := c.rest.take length
  if digits.length < length || !digits.all isHexDigit then .error .malformed
  else
    let code := Decimal.ofDigits 16 digits
    if code.isValidChar then .ok ([Char.ofNat code], c.skip length)
    else if 0x110000 ≤ code then .error (.noCharacter code)
    else .error .malformed

def escaped (c : Cursor) : Except Fault (List Char × Cursor) :=
  match c.peek? with
  | none => .error .malformed
  | some ch =>
    match simpleEscape? ch with
    | some d => .ok ([d], c.advance)
    | none =>
      match codeLength? ch with
      | some length => coded length c.advance
      | none =>
        if isBreak ch then quotedBreaks (c.rest.length + 1) c.advance [] else .error .malformed

def quotedParts (double : Bool) : Nat → Cursor → List Char → Except Fault (List Char × Cursor)
  | 0, _, _ => .error .malformed
  | fuel + 1, c, text =>
    match c.peek? with
    | none => .error .malformed
    | some ch =>
      -- a doubled single quote stands for one
      if !double && ch = '\'' && c.peekAt? 1 = some '\'' then
        quotedParts double fuel (c.skip 2) ('\'' :: text)
      else if ch = (if double then '"' else '\'') then .ok (text.reverse, c.advance)
      else if double && ch = '\\' then do
        let (part, c) ← escaped c.advance
        quotedParts double fuel c (part.reverse ++ text)
      else if isGap (some ch) then do
        let (part, c) ← quotedSpaces c
        quotedParts double fuel c (part.reverse ++ text)
      else quotedParts double fuel c.advance (ch :: text)

def quotedScalar (double : Bool) (c : Cursor) : Except Fault (List Char × Cursor) :=
  quotedParts double c.rest.length c.advance []

/-! ## Block scalars -/

/-- What becomes of the line ends at the end of a block. -/
inductive Chomping where
  | clip
  | strip
  | keep
  deriving DecidableEq

structure BlockHeader where
  chomping : Chomping
  indent : Option Nat

def chompingOf? : Option Char → Option Chomping
  | some '+' => some .keep
  | some '-' => some .strip
  | _ => none

/-- A chomping sign and an indentation digit, in either order; the digit is not zero. -/
def blockHeader (c : Cursor) : Except Fault (BlockHeader × Cursor) :=
  let (early, c) := match chompingOf? c.peek? with
    | some ch => (some ch, c.advance)
    | none => (none, c)
  let (digit, c) := match c.peek? with
    | some ch => if Decimal.isDigit ch then (some (Decimal.digitValue ch), c.advance) else (none, c)
    | none => (none, c)
  let (late, c) := match digit, chompingOf? c.peek? with
    | some _, some ch => if early.isNone then (some ch, c.advance) else (none, c)
    | _, _ => (none, c)
  if digit = some 0 then .error .malformed
  else if c.isAt ' ' || c.atLineEnd then .ok (⟨(early.or late).getD .clip, digit⟩, c)
  else .error .malformed

def ignoredLine (c : Cursor) : Except Fault Cursor :=
  let c := c.skipBlanks
  let c := if c.isAt '#' then c.skipWhile (!isBreak ·) else c
  if c.atLineEnd then .ok c.takeBreak.2 else .error .malformed

/-- The blank lines at the front of a block and the furthest column that a blank leads to. -/
def leadingLines : Nat → Cursor → List Char → Nat → List Char × Cursor × Nat
  | 0, c, breaks, furthest => (breaks.reverse, c, furthest)
  | fuel + 1, c, breaks, furthest =>
    if c.isAt ' ' then leadingLines fuel c.advance breaks (max furthest c.advance.column)
    else match c.takeBreak with
      | (ch :: _, c) => leadingLines fuel c (ch :: breaks) furthest
      | ([], c) => (breaks.reverse, c, furthest)

def blockBreaks (indent : Nat) : Nat → Cursor → List Char → List Char × Cursor
  | 0, c, breaks => (breaks.reverse, c)
  | fuel + 1, c, breaks =>
    match (c.skipBlanksTo indent).takeBreak with
    | (ch :: _, c) => blockBreaks indent fuel c (ch :: breaks)
    | ([], c) => (breaks.reverse, c)

/-- The text of a block read so far, last character first, the last line end, and the blank lines
behind it. -/
structure BlockText where
  text : List Char
  lastBreak : List Char
  breaks : List Char
  cursor : Cursor

def startsLine (indent : Nat) (c : Cursor) : Bool := c.column = indent && !c.atEnd

def blockLines (folded : Bool) (indent : Nat) : Nat → BlockText → BlockText
  | 0, b => b
  | fuel + 1, b =>
    if !startsLine indent b.cursor then b
    else
      let spaced := b.cursor.atBlankOrTab
      let (line, c) := b.cursor.span (!isBreak ·)
      let text := line.reverse ++ (b.breaks.reverse ++ b.text)
      let (lineBreak, c) := c.takeBreak
      let (breaks, c) := blockBreaks indent (c.rest.length + 1) c []
      if startsLine indent c then
        -- a line feed joins two lines, unless one of them begins with a blank
        let joins := folded && lineBreak = ['\n'] && !spaced && !c.atBlankOrTab
        let text := if !joins then lineBreak ++ text
          else if breaks.isEmpty then ' ' :: text else text
        blockLines folded indent fuel ⟨text, lineBreak, breaks, c⟩
      else ⟨text, lineBreak, breaks, c⟩

def blockScalar (folded : Bool) (indent : Int) (c : Cursor) : Except Fault (List Char × Cursor) := do
  let (header, c) ← blockHeader c.advance
  let c ← ignoredLine c
  let least := max 1 (indent + 1).toNat
  -- without a digit the first line with text decides the indentation
  let (indent, breaks, c) := match header.indent with
    | none =>
      let (breaks, c, furthest) := leadingLines c.rest.length c [] 0
      (max least furthest, breaks, c)
    | some n =>
      let indent := least + n - 1
      let (breaks, c) := blockBreaks indent (c.rest.length + 1) c []
      (indent, breaks, c)
  let b := blockLines folded indent (c.rest.length + 1) ⟨[], [], breaks, c⟩
  let tail := match header.chomping with
    | .strip => []
    | .clip => b.lastBreak
    | .keep => b.lastBreak ++ b.breaks
  return (b.text.reverse ++ tail, b.cursor)

end Scaffold.Yaml
