import Scaffold.Text.Split
import Scaffold.Text.Width

/-!
# Lines of a width

A line that is wider than its place is broken at its blanks. A word that is
wider by itself is cut into pieces, or runs over the edge and ends in a sign
that something is left out.
-/

namespace Scaffold.Console

def splitLines (line : List Char) : List Char → List (List Char)
  | [] => [line.reverse]
  | '\n' :: rest => line.reverse :: splitLines [] rest
  | c :: rest => splitLines (c :: line) rest

/-- Tabs filled with blanks up to the next multiple of eight columns. -/
def expandTabs (column : Nat) : List Char → List Char
  | [] => []
  | c :: rest =>
    if c = '\t' then
      let n := 8 - column % 8
      List.replicate n ' ' ++ expandTabs (column + n) rest
    else c :: expandTabs (column + Text.charColumns c) rest

def blanks (n : Nat) : List Char := List.replicate n ' '

def padRight (width : Nat) (cs : List Char) : List Char := cs ++ blanks (width - Text.columns cs)

def trimRight (cs : List Char) : List Char := (cs.reverse.dropWhile Text.isBlank).reverse

/-! ## Breaking -/

inductive Overflow where
  | fold
  | ellipsis
  deriving DecidableEq

/-- Words with the blanks after them, and before the first one those in front of it. -/
def wordRuns (run : List Char) (inWord after : Bool) : List Char → List (List Char)
  | [] => if run.isEmpty then [] else [run.reverse]
  | c :: rest =>
    if Text.isBlank c then wordRuns (c :: run) inWord inWord rest
    else if after then run.reverse :: wordRuns [c] true false rest
    else wordRuns (c :: run) true false rest

def chop (width column : Nat) (piece : List Char) : List Char → List (List Char)
  | [] => if piece.isEmpty then [] else [piece.reverse]
  | c :: rest =>
    let n := Text.charColumns c
    if width < column + n ∧ ¬ piece.isEmpty then piece.reverse :: chop width n [c] rest
    else chop width (column + n) (c :: piece) rest

/-- Words put into lines of a width; `line` is the line so far. -/
def wrapWords (overflow : Overflow) (width : Nat) (line : List Char) :
    List (List Char) → List (List Char)
  | [] => if line.isEmpty then [] else [line]
  | word :: rest =>
    let before := if line.isEmpty then [] else [line]
    if Text.columns line + Text.columns (trimRight word) ≤ width then
      wrapWords overflow width (line ++ word) rest
    else if overflow = .fold ∧ width < Text.columns (trimRight word) then
      let pieces := chop width 0 [] word
      before ++ pieces.dropLast ++ wrapWords overflow width (pieces.getLast?.getD []) rest
    else before ++ wrapWords overflow width word rest

/-- The lines of a line, its last blanks dropped where they are too many. -/
def wrapLine (overflow : Overflow) (width : Nat) (cs : List Char) : List (List Char) :=
  let lines := wrapWords overflow width [] (wordRuns [] false false cs)
  (if lines.isEmpty then [[]] else lines).map fun l =>
    l.take (max width (trimRight l).length)

/-! ## Cutting -/

def takeColumns (width : Nat) : List Char → List Char
  | [] => []
  | c :: rest =>
    let n := Text.charColumns c
    if n ≤ width then c :: takeColumns (width - n) rest else []

def crop (width : Nat) (cs : List Char) : List Char := padRight width (takeColumns width cs)

def cut (overflow : Overflow) (width : Nat) (cs : List Char) : List Char :=
  if Text.columns cs ≤ width then cs
  else match overflow with
    | .fold => crop width cs
    | .ellipsis => crop (width - 1) cs ++ ['…']

def centre (width : Nat) (cs : List Char) : List Char :=
  let body := cut .fold width (trimRight cs)
  padRight width (blanks ((width - Text.columns body) / 2) ++ body)

end Scaffold.Console
