import Scaffold.Console.Lines
import Scaffold.Console.Markup

/-!
# Messages and summary tables

A table of labels and values in a box, under a title that is centred over it
and broken into lines where it is wider. A column is as wide as the widest line
of its cells, a tab counting nothing.
-/

namespace Scaffold.Console

inductive Tone where
  | success
  | error
  | warning

def Tone.style : Tone → String
  | .success => "bold green"
  | .error => "bold red"
  | .warning => "bold yellow"

def message (tone : Tone) (text : String) : String :=
  let markup := ("[" ++ tone.style ++ "]").toList ++ Markup.escape text.toList ++
    ("[/" ++ tone.style ++ "]").toList
  String.ofList ((splitLines [] (Markup.plain markup)).flatMap fun l => expandTabs 0 l ++ ['\n'])

/-! ## Cells -/

def shownText (s : String) : List Char := Markup.plain (Markup.escape s.toList)

def widest (cs : List Char) : Nat :=
  ((Text.lineSpans [] cs).map fun l => Text.columns l.1).foldl max 0

def labelLines (width : Nat) (cs : List Char) : List (List Char) :=
  (splitLines [] cs).map fun l =>
    let l := expandTabs 0 l
    cut .ellipsis width (l.take (max width (trimRight l).length))

def valueLines (width : Nat) (cs : List Char) : List (List Char) :=
  (splitLines [] cs).flatMap fun l =>
    (wrapLine .ellipsis width (expandTabs 0 l)).map (cut .ellipsis width)

def titleLines (width : Nat) (cs : List Char) : List (List Char) :=
  (splitLines [] cs).flatMap fun l => (wrapLine .fold width (expandTabs 0 l)).map (centre width)

/-! ## The box -/

def rule (left line middle right : Char) (w₁ w₂ : Nat) : List Char :=
  left :: List.replicate (w₁ + 2) line ++ middle :: List.replicate (w₂ + 2) line ++ [right]

def rowLines (bar : Char) (w₁ w₂ : Nat) (a b : List (List Char)) : List (List Char) :=
  let height := max a.length b.length
  (List.range height).map fun i =>
    [bar, ' '] ++ padRight w₁ (a[i]?.getD []) ++ [' ', bar, ' '] ++ padRight w₂ (b[i]?.getD []) ++
      [' ', bar]

def headings : List Char × List Char := ("Item".toList, "Value".toList)

def table (title : String) (rows : List (String × String)) : String :=
  let cells := rows.map fun r => (shownText r.1, shownText r.2)
  let w₁ := (cells.map fun c => widest c.1).foldl max (Text.columns headings.1)
  let w₂ := (cells.map fun c => widest c.2).foldl max (Text.columns headings.2)
  let total := w₁ + w₂ + 7
  let lines := (if title.isEmpty then [] else titleLines total (shownText title)) ++
    [rule '┏' '━' '┳' '┓' w₁ w₂] ++ rowLines '┃' w₁ w₂ [headings.1] [headings.2] ++
    [rule '┡' '━' '╇' '┩' w₁ w₂] ++
    (cells.flatMap fun c => rowLines '│' w₁ w₂ (labelLines w₁ c.1) (valueLines w₂ c.2)) ++
    [rule '└' '─' '┴' '┘' w₁ w₂]
  String.ofList (lines.flatMap (· ++ ['\n']) ++ ['\n'])

end Scaffold.Console
