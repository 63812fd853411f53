import Scaffold.Value.Literal

/-!
# Values as JSON text

Tuples are written as arrays, and keys that are numbers, truth values or null
as strings. Dates, bytes and sets have no JSON text; a style may write them as
the string of their plain text.
-/

namespace Scaffold

inductive JsonFault where
  | noText (type : String)
  | badKey (type : String)
  | unordered (fault : OrderFault)

def JsonFault.message : JsonFault → String
  | .noText type => "Object of type " ++ type ++ " is not JSON serializable"
  | .badKey type => "keys must be str, int, float, bool or None, not " ++ type
  | .unordered fault => fault.message

structure JsonStyle where
  /-- Escape every character beyond ASCII. -/
  ascii : Bool
  sortKeys : Bool
  /-- One item a line, each level two columns further in. -/
  indented : Bool
  /-- Write what has no JSON text as the string of its plain text. -/
  lenient : Bool
  numbers : NumberStyle

namespace JsonStyle

def compact : JsonStyle := ⟨false, false, false, false, .json⟩

def script : JsonStyle := ⟨true, true, false, false, .json⟩

def document : JsonStyle := ⟨false, false, true, true, .json⟩

def settings : JsonStyle := ⟨false, false, true, false, .settings⟩

def string (st : JsonStyle) (s : String) : String :=
  if st.ascii then Text.jsonAsciiString s else Text.jsonString s

def lineBreak (st : JsonStyle) (depth : Nat) : String :=
  if st.indented then String.ofList ('\n' :: List.replicate (2 * depth) ' ') else ""

def separator (st : JsonStyle) (depth : Nat) : String :=
  if st.indented then "," ++ st.lineBreak depth else ", "

def enclose (st : JsonStyle) (depth : Nat) (opening closing : String) (items : List String) :
    String :=
  if items.isEmpty then opening ++ closing
  else opening ++ st.lineBreak (depth + 1) ++ (st.separator (depth + 1)).intercalate items ++
    st.lineBreak depth ++ closing

/-- The text of a key. Only on one line is the type of a bad key named in full. -/
def keyText (st : JsonStyle) (k : Value) : Except JsonFault String :=
  match k with
  | .text s => .ok s
  | .int n => .ok (Value.intText n)
  | .bool b => .ok (if b then "true" else "false")
  | .null => .ok "null"
  | .real x => .ok (NumberStyle.json.render x)
  | k => .error (.badKey (if st.indented then k.shortTypeName else k.typeName))

end JsonStyle

namespace Value

open JsonStyle in
mutual

def writeJson (st : JsonStyle) (depth : Nat) : Value → Except JsonFault String
  | .null => .ok "null"
  | .bool b => .ok (if b then "true" else "false")
  | .int n => .ok (intText n)
  | .real x => .ok (st.numbers.render x)
  | .text s => .ok (st.string s)
  | .list xs => do return st.enclose depth "[" "]" (← writeJsonItems st (depth + 1) xs)
  | .tuple xs => do return st.enclose depth "[" "]" (← writeJsonItems st (depth + 1) xs)
  | .map es => do
    let items := (es.map Prod.fst).zip (writeJsonEntries st (depth + 1) es)
    let items ← if st.sortKeys then (sortBy Prod.fst items).mapError .unordered else pure items
    return st.enclose depth "\x7b" "\x7d" (← (items.map Prod.snd).mapM id)
  | v => if st.lenient then .ok (st.string v.plain) else .error (.noText v.shortTypeName)

def writeJsonItems (st : JsonStyle) (depth : Nat) : List Value → Except JsonFault (List String)
  | [] => .ok []
  | x :: xs => do
    let first ← writeJson st depth x
    return first :: (← writeJsonItems st depth xs)

def writeJsonEntries (st : JsonStyle) (depth : Nat) : Entries → List (Except JsonFault String)
  | [] => []
  | (k, v) :: es =>
    (do
      let key ← st.keyText k
      let value ← writeJson st depth v
      return st.string key ++ ": " ++ value) :: writeJsonEntries st depth es

end

/-- One line of JSON, characters beyond ASCII as they are. -/
def json (v : Value) : Except JsonFault String := writeJson .compact 0 v

end Value

end Scaffold
