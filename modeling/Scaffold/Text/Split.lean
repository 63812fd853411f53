import Scaffold.Text.Characters

/-!
# Cutting texts

Blanks cut off at the ends of a text, and a text cut into its lines or at a
character.
-/

namespace Scaffold.Text

def trimLeft (cs : List Char) : List Char := cs.dropWhile isBlank

def trim (s : String) : String :=
  String.ofList (trimLeft (trimLeft s.toList).reverse).reverse

/-! ## Lines -/

/-- The lines of a text, each with whether it is ended by a break. A carriage return and a line
feed are one break. -/
def lineSpans (line : List Char) : List Char → List (List Char × List Char)
  | [] => if line.isEmpty then [] else [(line.reverse, [])]
  | '\r' :: '\n' :: rest => (line.reverse, ['\r', '\n']) :: lineSpans [] rest
  | c :: rest =>
    if isLineBreak c then (line.reverse, [c]) :: lineSpans [] rest
    else lineSpans (c :: line) rest

def lines (s : String) : List String := (lineSpans [] s.toList).map fun l => String.ofList l.1

def linesWithBreaks (s : String) : List String :=
  (lineSpans [] s.toList).map fun l => String.ofList (l.1 ++ l.2)

def plainLineEnds : List Char → List Char
  | [] => []
  | '\r' :: '\n' :: rest => '\n' :: plainLineEnds rest
  | '\r' :: rest => '\n' :: plainLineEnds rest
  | c :: rest => c :: plainLineEnds rest

/-! ## Pieces -/

/-- The pieces of a text between the places where a character stands; always at least one. -/
def split (sep : Char) : List Char → List (List Char)
  | [] => [[]]
  | c :: cs =>
    if c = sep then [] :: split sep cs
    else match split sep cs with
      | [] => [[c]]
      | p :: ps => (c :: p) :: ps

def afterLast? (sep : Char) (cs : List Char) : Option (List Char) :=
  if cs.contains sep then (split sep cs).getLast? else none

def dropTrailing (c : Char) (cs : List Char) : List Char :=
  (cs.reverse.dropWhile (· = c)).reverse

end Scaffold.Text
