import Scaffold.Value.Literal
import Scaffold.Text.Split

/-!
# Literals laid out in lines

A literal that is too wide is broken after each item; texts and bytes that are
too wide become several adjacent literals, broken at line ends, after blanks
and after four bytes.
-/

namespace Scaffold.Value

def lineWidth : Nat := 88

def newline (indent : Nat) : String := String.ofList ('\n' :: List.replicate indent ' ')

/-! ## Texts -/

/-- Parts of a line, each a run without blanks and the blanks after it. -/
def wordParts (cs : List Char) : List (List Char) :=
  let rec go (part : List Char) (inBlanks : Bool) : List Char → List (List Char)
    | [] => if part.isEmpty then [] else [part.reverse]
    | c :: rest =>
      if Text.isBlank c then go (c :: part) true rest
      else if inBlanks then part.reverse :: go [c] false rest
      else go (c :: part) false rest
  go [] false cs

def literalLength (cs : List Char) : Nat := (Text.literalChars cs).length

/-- Joins parts into chunks whose literals fit; the last chunk has the narrower width. -/
def fillParts (width lastWidth : Int) (current : List Char) : List (List Char) → List (List Char)
  | [] => if current.isEmpty then [] else [current]
  | part :: rest =>
    let limit := if rest.isEmpty then lastWidth else width
    if limit < literalLength (current ++ part) then
      if current.isEmpty then fillParts width lastWidth part rest
      else current :: fillParts width lastWidth part rest
    else fillParts width lastWidth (current ++ part) rest

/-- The pieces of a text too wide for its place. -/
def textChunks (width lastWidth : Int) : List String → List (List Char)
  | [] => []
  | [line] =>
    if literalLength line.toList ≤ lastWidth then [line.toList]
    else fillParts width lastWidth [] (wordParts line.toList)
  | line :: rest =>
    (if literalLength line.toList ≤ width then [line.toList]
      else fillParts width width [] (wordParts line.toList)) ++ textChunks width lastWidth rest

def layoutText (s : String) (indent allowance : Nat) : String :=
  if s.isEmpty then Text.literal s else
  let width : Int := lineWidth - indent
  let chunks := textChunks width (width - allowance) (Text.linesWithBreaks s)
  (newline indent).intercalate (chunks.map fun cs => String.ofList (Text.literalChars cs))

/-! ## Bytes -/

def byteGroups : List UInt8 → List (List UInt8)
  | a :: b :: c :: d :: e :: rest => [a, b, c, d] :: byteGroups (e :: rest)
  | [] => []
  | rest => [rest]

/-- Joins byte groups into chunks whose literals fit. The width is narrower only at a last group
of fewer than four. -/
def fillBytes (width lastWidth : Int) (current : List UInt8) :
    List (List UInt8) → List (List UInt8)
  | [] => if current.isEmpty then [] else [current]
  | part :: rest =>
    let narrows := rest.isEmpty && part.length < 4
    let limit := if narrows then lastWidth else width
    if limit < (Text.bytesLiteral (current ++ part)).length then
      if current.isEmpty then fillBytes width lastWidth part rest
      else current :: fillBytes width lastWidth part rest
    else fillBytes width lastWidth (current ++ part) rest

def layoutBytes (bs : List UInt8) (indent allowance : Nat) : String :=
  if bs.length ≤ 4 then Text.bytesLiteral bs
  else
    let width : Int := lineWidth - indent
    (newline indent).intercalate
      ((fillBytes width (width - allowance) [] (byteGroups bs)).map Text.bytesLiteral)

/-! ## All values -/

def fits (written : String) (indent allowance : Nat) : Bool :=
  written.length + indent + allowance ≤ lineWidth

mutual

/-- A literal at a column, with room for `allowance` characters after it. -/
def layout : Value → Nat → Nat → String
  | .map es, indent, allowance =>
    let written := literal (.map es)
    if fits written indent allowance then written
    else inBraces (layoutEntries es (indent + 1) (allowance + 1))
  | .list xs, indent, allowance =>
    let written := literal (.list xs)
    if fits written indent allowance then written
    else "[" ++ layoutItems xs (indent + 1) (allowance + 1) ++ "]"
  | .tuple xs, indent, allowance =>
    let written := literal (.tuple xs)
    if fits written indent allowance then written
    else
      let close := if xs.length = 1 then ",)" else ")"
      "(" ++ layoutItems xs (indent + 1) (allowance + close.length) ++ close
  | .set xs, indent, allowance =>
    let written := literal (.set xs)
    if fits written indent allowance || xs.isEmpty then written
    else
      -- which layout a member has depends on whether it comes last, so they are arranged first
      let members := arrange Prod.fst (layoutMembers xs (indent + 1) (allowance + 1))
      let inner := members.dropLast.map fun m => m.2.1
      let final := (members.getLast?.map fun m => m.2.2).toList
      inBraces (("," ++ newline (indent + 1)).intercalate (inner ++ final))
  | .text s, indent, allowance =>
    if fits (Text.literal s) indent allowance then Text.literal s else layoutText s indent allowance
  | .bytes bs, indent, allowance =>
    if fits (Text.bytesLiteral bs) indent allowance then Text.bytesLiteral bs
    else layoutBytes bs indent allowance
  | v, _, _ => literal v

def layoutItems : List Value → Nat → Nat → String
  | [], _, _ => ""
  | [x], indent, allowance => layout x indent allowance
  | x :: xs, indent, allowance =>
    layout x indent 1 ++ "," ++ newline indent ++ layoutItems xs indent allowance

/-- Each member with its layout before others and its layout at the end. -/
def layoutMembers : List Value → Nat → Nat → List (Value × String × String)
  | [], _, _ => []
  | x :: xs, indent, allowance =>
    (x, layout x indent 1, layout x indent allowance) :: layoutMembers xs indent allowance

def layoutEntries : Entries → Nat → Nat → String
  | [], _, _ => ""
  | [(k, v)], indent, allowance =>
    let key := literal k ++ ": "
    key ++ layout v (indent + key.length) allowance
  | (k, v) :: es, indent, allowance =>
    let key := literal k ++ ": "
    key ++ layout v (indent + key.length) 1 ++ "," ++ newline indent ++
      layoutEntries es indent allowance

end

def layoutMapping (es : Entries) : String := layout (.map es) 0 0

end Scaffold.Value
