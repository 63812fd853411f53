import Scaffold.Value.JsonText
import Scaffold.Text.Case
import Scaffold.Text.Split

/-!
# Page templates

A template is text with holes for expressions over the values it is filled
with, repeated and conditional parts, and parts set further in. A name or an
attribute that is not there is a fault as soon as its value is asked for.
-/

namespace Scaffold

inductive Filter where
  /-- The characters with a meaning in HTML as entities. -/
  | escape
  /-- JSON that may stand inside a script element. -/
  | script
  /-- The plain text as a JSON string. -/
  | scriptString
  | literal
  | pascalCase
  | snakeCase
  deriving DecidableEq

inductive Expr where
  | name (n : String)
  | attr (e : Expr) (n : String)
  | constant (s : String)
  | concat (parts : List Expr)
  | choose (condition : Expr) (yes no : String)
  | filtered (f : Filter) (e : Expr)

inductive Condition where
  | holds (e : Expr)
  | equals (e : Expr) (s : String)
  /-- The truth value itself, not what counts as true. -/
  | isTrue (e : Expr)
  /-- The innermost repeated part will be filled again. -/
  | notLast

inductive Node where
  | text (s : String)
  | put (e : Expr)
  | each (item : String) (of : Expr) (body : List Node)
  | branch (condition : Condition) (yes no : List Node)
  | indented (width : Nat) (body : List Node)

abbrev Template := List Node

namespace Expr

/-- An attribute of the entity, or of the field, that a part is about. -/
def entity (n : String) : Expr := .attr (.name "entity") n
def field (n : String) : Expr := .attr (.name "field") n

end Expr

namespace Node

def escaped (e : Expr) : Node := .put (.filtered .escape e)
def script (e : Expr) : Node := .put (.filtered .script e)
def scriptString (e : Expr) : Node := .put (.filtered .scriptString e)
def literal (e : Expr) : Node := .put (.filtered .literal e)

def lines (ls : List String) : Node := .text (String.join (ls.map (· ++ "\n")))

def when (condition : Condition) (body : List Node) : Node := .branch condition body []

end Node

end Scaffold
