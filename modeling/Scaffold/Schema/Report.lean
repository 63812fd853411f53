import Scaffold.Schema.Walk
import Scaffold.Text.Characters

/-!
# Reports of issues

A path is written from the root `$`: positions and keys made of digits in
brackets, identifiers after a dot, and any other key as a JSON string in
brackets.
-/

namespace Scaffold.Report

def isIdentifierStart (c : Char) : Bool :=
  c.isAlpha || c = '_' || c = '$'

def isIdentifierChar (c : Char) : Bool := isIdentifierStart c || Decimal.isDigit c

/-- A key without one final line feed, which the tests on keys look past. -/
def withoutFinalLineFeed (cs : List Char) : List Char :=
  if cs.getLast? = some '\n' then cs.dropLast else cs

def isNumeral (cs : List Char) : Bool :=
  let body := withoutFinalLineFeed cs
  !body.isEmpty && body.all Text.isDecimalDigit

def isIdentifier (cs : List Char) : Bool :=
  match withoutFinalLineFeed cs with
  | c :: rest => isIdentifierStart c && rest.all isIdentifierChar
  | [] => false

def quotedKey (s : String) : String := "[" ++ Text.jsonString s ++ "]"

def keyText : Value → String
  | .int n => "[" ++ Value.intText n ++ "]"
  | .bool b => "[" ++ Value.literal (.bool b) ++ "]"
  | .text s =>
    if isNumeral s.toList then "[" ++ s ++ "]"
    else if isIdentifier s.toList then "." ++ s
    else quotedKey s
  | k => quotedKey k.plain

def pathText (path : Path) : String := path.foldl (fun s k => s ++ keyText k) "$"

def header : String := "Manifest validation failed:"

/-- One line for an issue, whose message may have been no text. -/
def issueLine (message : Option String) (path : Path) : String :=
  "- " ++ pathText path ++ ": " ++ message.getD "Invalid value"

def renderLines (lines : List String) : String := "\n".intercalate (header :: lines)

def render (issues : List Issue) : String :=
  renderLines (issues.map fun i => issueLine (some i.message) i.path)

end Scaffold.Report
