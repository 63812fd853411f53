import Scaffold.Text.Utf8
import Scaffold.Yaml.Cursor
import Scaffold.Yaml.Token

/-!
# YAML names, tags and directives as they are written

Each reader starts at the sign of what it reads and gives the place behind it.
-/

namespace Scaffold.Yaml

def isUriChar (c : Char) : Bool :=
  isNameChar c || ";/?:@&=+$,.!~*'()[]".toList.contains c

def uriBytes : Nat → Cursor → List UInt8 → Except Fault (List UInt8 × Cursor)
  | 0, c, bytes => .ok (bytes.reverse, c)
  | fuel + 1, c, bytes =>
    if !c.isAt '%' then .ok (bytes.reverse, c)
    else
      let digits := c.advance.rest.take 2
      if digits.length < 2 || !digits.all isHexDigit then .error .malformed
      else uriBytes fuel (c.skip 3) (UInt8.ofNat (Decimal.ofDigits 16 digits) :: bytes)

def uriChars : Nat → Cursor → List Char → Except Fault (List Char × Cursor)
  | 0, c, text => .ok (text.reverse, c)
  | fuel + 1, c, text =>
    match c.peek? with
    | none => .ok (text.reverse, c)
    | some ch =>
      if ch = '%' then do
        let (bytes, c) ← uriBytes (c.rest.length + 1) c []
        match Text.decodeUtf8 0 bytes with
        | .ok cs => uriChars fuel c (cs.reverse ++ text)
        | .error _ => throw .malformed
      else if isUriChar ch then uriChars fuel c.advance (ch :: text)
      else .ok (text.reverse, c)

def uri (c : Cursor) : Except Fault (String × Cursor) := do
  let (text, c) ← uriChars (c.rest.length + 1) c []
  if text.isEmpty then throw .malformed
  return (String.ofList text, c)

def atBlankOrLineEnd (c : Cursor) : Bool := c.isAt ' ' || c.atLineEnd

def tagHandle (c : Cursor) : Except Fault (String × Cursor) :=
  if !c.isAt '!' then .error .malformed
  else if c.peekAt? 1 = some ' ' then .ok ("!", c.advance)
  else
    let (name, c) := c.advance.span isNameChar
    if c.isAt '!' then .ok (String.ofList ('!' :: name ++ ['!']), c.advance)
    else .error .malformed

def tagParts (c : Cursor) : Except Fault ((Option String × String) × Cursor) := do
  match c.peekAt? 1 with
  | some '<' =>
    let (text, c) ← uri (c.skip 2)
    if c.isAt '>' then return ((none, text), c.advance) else throw .malformed
  | next =>
    if isGap next then return ((none, "!"), c.advance)
    let word := c.advance.rest.takeWhile fun ch => ch ≠ ' ' && !isBreak ch
    let (handle, c) ← if word.contains '!' then tagHandle c else pure ("!", c.advance)
    let (text, c) ← uri c
    return ((some handle, text), c)

def tag (c : Cursor) : Except Fault (Token × Cursor) := do
  let ((handle, suffix), c) ← tagParts c
  if atBlankOrLineEnd c then return (.tag handle suffix, c) else throw .malformed

def anchorName (c : Cursor) : Except Fault (String × Cursor) :=
  let (name, c) := c.advance.span isNameChar
  let ends := c.atGap ||
    c.peek?.any fun ch => ['?', ':', ',', ']', '}', '%', '@', '\x60'].contains ch
  if name.isEmpty || !ends then .error .malformed else .ok (String.ofList name, c)

/-! ## Directives -/

def number (c : Cursor) : Except Fault (Nat × Cursor) :=
  let (digits, c) := c.span Decimal.isDigit
  if digits.isEmpty then .error .malformed else .ok (Decimal.ofDigits 10 digits, c)

def versionDirective (c : Cursor) : Except Fault (Directive × Cursor) := do
  let (major, c) ← number c.skipBlanks
  if !c.isAt '.' then throw .malformed
  let (_, c) ← number c.advance
  if atBlankOrLineEnd c then return (.version major, c) else throw .malformed

def tagDirective (c : Cursor) : Except Fault (Directive × Cursor) := do
  let (handle, c) ← tagHandle c.skipBlanks
  if !c.isAt ' ' then throw .malformed
  let (lead, c) ← uri c.skipBlanks
  if atBlankOrLineEnd c then return (.tag handle lead, c) else throw .malformed

def directive (c : Cursor) : Except Fault (Directive × Cursor) :=
  let (name, c) := c.advance.span isNameChar
  if name.isEmpty || !atBlankOrLineEnd c then .error .malformed
  else if name = "YAML".toList then versionDirective c
  else if name = "TAG".toList then tagDirective c
  else .ok (.other, c.skipWhile (!isBreak ·))

end Scaffold.Yaml
