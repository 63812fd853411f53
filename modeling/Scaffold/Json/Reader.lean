import Scaffold.Json.Token

/-!
# Reading JSON

The reader goes over the tokens once, with the arrays and objects that are
still open on a stack. Of two equal keys the first keeps its place and the
last its value.
-/

namespace Scaffold.Json

inductive Frame where
  /-- Items read so far, last first. -/
  | array (items : List Value)
  | object (entries : Entries) (key : String)

inductive Expect where
  | value
  | valueOrClose
  | name (entries : Entries)
  | nameOrClose
  | colon
  | commaOrClose
  | nothing (root : Value)

structure State where
  stack : List Frame
  expect : Expect

namespace State

def start : State := ⟨[], .value⟩

/-- Hands a finished value to the innermost open array or object. -/
def deliver (stack : List Frame) (v : Value) : State :=
  match stack with
  | [] => ⟨[], .nothing v⟩
  | .array items :: rest => ⟨.array (v :: items) :: rest, .commaOrClose⟩
  | .object es key :: rest => ⟨.object (Entries.put es (.text key) v) key :: rest, .commaOrClose⟩

def complaint : Expect → Complaint
  | .value | .valueOrClose => .value
  | .name _ | .nameOrClose => .name
  | .colon => .colon
  | .commaOrClose => .comma
  | .nothing _ => .extra

def openValue (stack : List Frame) (position : Nat) : Token → Except Fault State
  | .openObject => .ok ⟨stack, .nameOrClose⟩
  | .openArray => .ok ⟨.array [] :: stack, .valueOrClose⟩
  | .text s => .ok (deliver stack (.text s))
  | .scalar v => .ok (deliver stack v)
  | .broken fault => .error fault
  | _ => .error (.at .value position)

def step (s : State) (position : Nat) (token : Token) : Except Fault State :=
  match s.expect, token, s.stack with
  | .value, t, stack => openValue stack position t
  | .valueOrClose, .closeArray, .array _ :: rest => .ok (deliver rest (.list []))
  | .valueOrClose, t, stack => openValue stack position t
  | .nameOrClose, .closeObject, stack => .ok (deliver stack (.map []))
  | .nameOrClose, .text k, stack => .ok ⟨.object [] k :: stack, .colon⟩
  | .name es, .text k, stack => .ok ⟨.object es k :: stack, .colon⟩
  | .nameOrClose, .broken (.at c p), _ | .name _, .broken (.at c p), _ => .error (.at c p)
  | .colon, .colon, stack => .ok ⟨stack, .value⟩
  | .commaOrClose, .comma, .array items :: rest => .ok ⟨.array items :: rest, .value⟩
  | .commaOrClose, .comma, .object es _ :: rest => .ok ⟨rest, .name es⟩
  | .commaOrClose, .closeArray, .array items :: rest => .ok (deliver rest (.list items.reverse))
  | .commaOrClose, .closeObject, .object es _ :: rest => .ok (deliver rest (.map es))
  | e, _, _ => .error (.at (complaint e) position)

def run (s : State) : List (Nat × Token) → Except Fault State
  | [] => .ok s
  | (position, token) :: rest =>
    match s.step position token with
    | .ok s' => run s' rest
    | .error fault => .error fault

end State

/-- The value that a JSON text writes. A byte-order mark may not stand in front of it. -/
def read (cs : List Char) : Except Fault Value :=
  if cs.head?.any (·.toNat = 0xFEFF) then .error (.at .byteOrderMark 0)
  else match State.start.run (tokens 0 0 cs) with
  | .error fault => .error fault
  | .ok s =>
    match s.expect with
    | .nothing v => .ok v
    | e => .error (.at (State.complaint e) cs.length)

/-! ## Messages -/

def Complaint.words : Complaint → String
  | .value => "Expecting value"
  | .name => "Expecting property name enclosed in double quotes"
  | .colon => "Expecting ':' delimiter"
  | .comma => "Expecting ',' delimiter"
  | .extra => "Extra data"
  | .openString => "Unterminated string starting at"
  | .escape => "Invalid \\escape"
  | .unicodeEscape => "Invalid \\uXXXX escape"
  | .controlCharacter => "Invalid control character at"
  | .byteOrderMark => "Unexpected UTF-8 BOM (decode using utf-8-sig)"

def Complaint.message (c : Complaint) (text : List Char) (position : Nat) : String :=
  let before := text.take position
  let line := before.count '\n' + 1
  let column := (before.reverse.takeWhile (· != '\n')).length + 1
  c.words ++ ": line " ++ toString line ++ " column " ++ toString column ++
    " (char " ++ toString position ++ ")"

end Scaffold.Json
