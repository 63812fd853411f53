import Scaffold.Text.Pattern

/-!
# Kinds of YAML nodes

A node has the kind that its tag names, or a kind by its form: a plain scalar
is held against the words of each kind in turn, and is text if it is none of
them.
-/

namespace Scaffold.Yaml

inductive Kind where
  | null
  | truth
  | integer
  | real
  | moment
  | bytes
  | text
  | sequence
  | mapping
  | set
  | orderedMap
  | pairs
  /-- The key under which a mapping takes over the entries of others. -/
  | merge
  /-- The key of the value that a mapping stands for. -/
  | self
  /-- A tag without a meaning. -/
  | other
  deriving DecidableEq

namespace Kind

def coreTag : String := "tag:yaml.org,2002:"

def names : List (String × Kind) := [
  ("null", .null), ("bool", .truth), ("int", .integer), ("float", .real), ("timestamp", .moment),
  ("binary", .bytes), ("str", .text), ("seq", .sequence), ("map", .mapping), ("set", .set),
  ("omap", .orderedMap), ("pairs", .pairs), ("merge", .merge), ("value", .self)]

def ofTag (tag : String) : Kind :=
  match names.find? fun n => coreTag ++ n.1 = tag with
  | some n => n.2
  | none => .other

/-! ## Plain words -/

open Text.Pattern

def nullWords : List String := ["~", "null", "Null", "NULL", ""]

def truthWords : List String := [
  "yes", "Yes", "YES", "no", "No", "NO", "true", "True", "TRUE", "false", "False", "FALSE",
  "on", "On", "ON", "off", "Off", "OFF"]

def digit : Text.Pattern := range '0' '9'
def digitOrGap : Text.Pattern := either digit (oneOf "_")
def sign : Text.Pattern := oneOf "+-"

def grouped : Text.Pattern := seq digit (many digitOrGap)

def sixties : Text.Pattern :=
  oneOrMore (chain [oneOf ":", optional (range '0' '5'), digit])

def exponent : Text.Pattern := chain [oneOf "eE", sign, oneOrMore digit]

def realForm : Text.Pattern := choice [
  chain [optional sign, grouped, oneOf ".", many digitOrGap, optional exponent],
  chain [oneOf ".", grouped, optional exponent],
  chain [optional sign, grouped, sixties, oneOf ".", many digitOrGap],
  seq (optional sign) (words [".inf", ".Inf", ".INF"]),
  words [".nan", ".NaN", ".NAN"]]

def nonZeroDigit : Text.Pattern := range '1' '9'

def integerForm : Text.Pattern := seq (optional sign) (choice [
  seq (word "0b") (oneOrMore (oneOf "01_")),
  seq (word "0") (oneOrMore (either (range '0' '7') (oneOf "_"))),
  word "0",
  seq nonZeroDigit (many digitOrGap),
  seq (word "0x")
    (oneOrMore (choice [digit, range 'a' 'f', range 'A' 'F', oneOf "_"])),
  chain [nonZeroDigit, many digitOrGap, sixties]])

def oneOrTwo : Text.Pattern := seq digit (optional digit)
def two : Text.Pattern := seq digit digit
def blanks : Text.Pattern := many (oneOf " \t")

def day : Text.Pattern := chain [two, two, oneOf "-", two, oneOf "-", two]

def looseDay : Text.Pattern := chain [two, two, oneOf "-", oneOrTwo, oneOf "-", oneOrTwo]

def zone : Text.Pattern :=
  seq blanks (either (oneOf "Z") (chain [sign, oneOrTwo, optional (seq (oneOf ":") two)]))

def dayAndTime : Text.Pattern := chain [
  looseDay,
  either (oneOf "Tt") (oneOrMore (oneOf " \t")),
  oneOrTwo, oneOf ":", two, oneOf ":", two, optional (seq (oneOf ".") (many digit)),
  optional zone]

def momentForm : Text.Pattern := either day dayAndTime

def patterns : List (Text.Pattern × Kind) := [
  (words truthWords, .truth), (realForm, .real), (integerForm, .integer), (word "<<", .merge),
  (words nullWords, .null), (momentForm, .moment), (word "=", .self)]

def ofPlain (text : List Char) : Kind :=
  match patterns.find? fun p => p.1.accepts text with
  | some p => p.2
  | none => .text

end Kind

end Scaffold.Yaml
