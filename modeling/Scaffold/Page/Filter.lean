import Scaffold.Page.Template

/-!
# Filters of templates
-/

namespace Scaffold

inductive FillFault where
  /-- A name that is not there. -/
  | undefinedName (n : String)
  /-- An attribute that a value does not have. -/
  | undefinedAttribute (type n : String)
  /-- A filter for texts on something else. -/
  | notText (type : String)
  | bytesText
  | notIterable (type : String)
  | noJson (fault : JsonFault)

def FillFault.message : FillFault → String
  | .undefinedName n => Text.literal n ++ " is undefined"
  | .undefinedAttribute type n => Text.literal type ++ " has no attribute " ++ Text.literal n
  | .notText type => "expected string or bytes-like object, got '" ++ type ++ "'"
  | .bytesText => "cannot use a string pattern on a bytes-like object"
  | .notIterable type => "'" ++ type ++ "' object is not iterable"
  | .noJson fault => fault.message

namespace Text

/-! ## Entities -/

def escapeChar : Char → List Char
  | '&' => "&amp;".toList
  | '<' => "&lt;".toList
  | '>' => "&gt;".toList
  | '\'' => "&#39;".toList
  | '"' => "&#34;".toList
  | c => [c]

def escape (s : String) : String := String.ofList (s.toList.flatMap escapeChar)

/-- Characters that could end a script element, as JSON escapes. -/
def scriptChar : Char → List Char
  | '<' => "\\u003c".toList
  | '>' => "\\u003e".toList
  | '&' => "\\u0026".toList
  | '\'' => "\\u0027".toList
  | c => [c]

/-! ## Word cases -/

def isSeparator (c : Char) : Bool := c = '-' || c = '_' || isBlank c

def words (word : List Char) : List Char → List (List Char)
  | [] => if word.isEmpty then [] else [word.reverse]
  | c :: rest =>
    if isSeparator c then
      if word.isEmpty then words [] rest else word.reverse :: words [] rest
    else words (c :: word) rest

def pascalCase (s : String) : String :=
  String.ofList ((words [] s.toList).flatMap capitalizeFirst)

def isLowerOrDigit (c : Char) : Bool := c.isLower || Decimal.isDigit c

/-- Underscores where a capital follows a small letter or digit, and before the last capital of a
run that a small letter follows. -/
def markHumps (before : Option Char) : List Char → List Char
  | [] => []
  | c :: rest =>
    let mark := match before with
      | none => false
      | some b =>
        c.isUpper && (isLowerOrDigit b ||
          (b.isUpper && (match rest with
            | d :: _ => d.isLower
            | [] => false)))
    (if mark then ['_', c] else [c]) ++ markHumps (some c) rest

def joinWords (inGap : Bool) : List Char → List Char
  | [] => []
  | c :: rest =>
    if c = '-' ∨ isBlank c then
      if inGap then joinWords true rest else '_' :: joinWords true rest
    else c :: joinWords false rest

def snakeCase (s : String) : String :=
  lower (String.ofList (joinWords false (markHumps none s.toList)))

end Text

namespace Filter

def onText (f : String → String) : Value → Except FillFault Value
  | .text s => .ok (.text (f s))
  | .bytes _ => .error .bytesText
  | v => .error (.notText v.typeName)

def apply : Filter → Value → Except FillFault Value
  | .escape, v => .ok (.text (Text.escape v.plain))
  | .script, v =>
    match v.writeJson .script 0 with
    | .ok s => .ok (.text (String.ofList (s.toList.flatMap Text.scriptChar)))
    | .error fault => .error (.noJson fault)
  | .scriptString, v => .ok (.text (Text.jsonString v.plain))
  | .literal, v => .ok (.text v.literal)
  | .pascalCase, v => onText Text.pascalCase v
  | .snakeCase, v => onText Text.snakeCase v

/-- A filter on a value that is not there: its literal is a word, and the other filters fail. -/
def applyUndefined (f : Filter) (fault : FillFault) : Except FillFault Value :=
  match f with
  | .literal => .ok (.text "Undefined")
  | .escape | .scriptString => .error fault
  | .script => .error (.noJson (.noText "StrictUndefined"))
  | .pascalCase | .snakeCase => .error (.notText "StrictUndefined")

end Filter

end Scaffold
