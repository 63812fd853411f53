/-!
# Patterns

Regular expressions over characters. A word is held against a pattern letter
by letter: what a pattern becomes after a letter accepts exactly the rests of
the words that it accepted with that letter in front.
-/

namespace Scaffold.Text

inductive Pattern where
  | nothing
  | empty
  | char (p : Char → Bool)
  | seq (a b : Pattern)
  | either (a b : Pattern)
  | many (a : Pattern)

namespace Pattern

def acceptsEmpty : Pattern → Bool
  | .nothing | .char _ => false
  | .empty | .many _ => true
  | .seq a b => a.acceptsEmpty && b.acceptsEmpty
  | .either a b => a.acceptsEmpty || b.acceptsEmpty

def cat : Pattern → Pattern → Pattern
  | .nothing, _ => .nothing
  | .empty, b => b
  | a, b => .seq a b

def alt : Pattern → Pattern → Pattern
  | .nothing, b => b
  | a, .nothing => a
  | a, b => .either a b

def after (c : Char) : Pattern → Pattern
  | .nothing | .empty => .nothing
  | .char p => if p c then .empty else .nothing
  | .seq a b =>
    if a.acceptsEmpty then ((a.after c).cat b).alt (b.after c) else (a.after c).cat b
  | .either a b => (a.after c).alt (b.after c)
  | .many a => (a.after c).cat (.many a)

def accepts (p : Pattern) : List Char → Bool
  | [] => p.acceptsEmpty
  | c :: cs => (p.after c).accepts cs

/-! ## Common shapes -/

def oneOf (s : String) : Pattern := .char fun c => s.toList.contains c

def range (a b : Char) : Pattern := .char fun c => a ≤ c && c ≤ b

def optional (p : Pattern) : Pattern := .either .empty p

def oneOrMore (p : Pattern) : Pattern := .seq p (.many p)

def chain (ps : List Pattern) : Pattern := ps.foldr .seq .empty

def choice (ps : List Pattern) : Pattern := ps.foldr .either .nothing

def word (s : String) : Pattern := chain (s.toList.map fun c => .char (· = c))

def words (ss : List String) : Pattern := choice (ss.map word)

end Pattern

end Scaffold.Text
