import Scaffold.Text.Emoji

/-!
# Console markup

Tags in square brackets style a text on the console, and names between colons
stand for emoji. Escaping a text makes its tags stand for themselves.
-/

namespace Scaffold.Markup

def startsTag (c : Char) : Bool := c.isLower || c = '#' || c = '/' || c = '@'

/-- The rest of a tag after its bracket: up to the first closing bracket, with no other opening
bracket on the way. -/
def tagBody : List Char → Option (List Char)
  | [] => none
  | ']' :: _ => some []
  | '[' :: _ => none
  | c :: rest => (tagBody rest).map (c :: ·)

def tag? : List Char → Option (List Char)
  | '[' :: c :: rest => if startsTag c then (tagBody rest).map (c :: ·) else none
  | _ => none

def backslashes (n : Nat) : List Char := List.replicate n '\\'

/-- Doubles the backslashes before a tag and adds one. `run` counts the backslashes just read. -/
def escapeTags (run : Nat) : List Char → List Char
  | [] => backslashes run
  | c :: rest =>
    if c = '\\' then escapeTags (run + 1) rest
    else
      let before := if (tag? (c :: rest)).isSome then backslashes (2 * run + 1) else backslashes run
      before ++ c :: escapeTags 0 rest

/-- A text whose tags stand for themselves. A single backslash at the end is doubled, so that it
does not escape a tag that follows. -/
def escape (cs : List Char) : List Char :=
  let out := escapeTags 0 cs
  match out.reverse with
  | '\\' :: '\\' :: _ => out
  | '\\' :: _ => out ++ ['\\']
  | _ => out

def unescapeBrackets : List Char → List Char
  | '\\' :: '[' :: rest => '[' :: unescapeBrackets rest
  | c :: rest => c :: unescapeBrackets rest
  | [] => []

def shownPiece (cs : List Char) : List Char := Text.putEmoji none (unescapeBrackets cs)

/-- The text that markup shows: pieces between tags, last character first in `piece`; the first
`skip` characters belong to a tag that has been read. -/
def shown (piece : List Char) (run skip : Nat) : List Char → List Char
  | [] => shownPiece (piece.reverse ++ backslashes run)
  | c :: rest =>
    match skip with
    | k + 1 => shown piece run k rest
    | 0 =>
      if c = '\\' then shown piece (run + 1) 0 rest
      else match tag? (c :: rest) with
        | none => shown (c :: (backslashes run ++ piece)) 0 0 rest
        | some inside =>
          let before := shownPiece piece.reverse ++ backslashes (run / 2)
          let own := if run % 2 = 1 then Text.putEmoji none ('[' :: inside ++ [']']) else []
          before ++ own ++ shown [] 0 (inside.length + 1) rest

def isDropped (c : Char) : Bool :=
  let n := c.toNat
  n = 7 || n = 8 || n = 11 || n = 12 || n = 13

def plain (markup : List Char) : List Char :=
  (if markup.contains '[' then shown [] 0 0 markup else Text.putEmoji none markup).filter fun c => !isDropped c

end Scaffold.Markup
