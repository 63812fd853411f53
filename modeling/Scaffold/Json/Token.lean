import Scaffold.Value.Basic
import Scaffold.Text.Split

/-!
# JSON tokens

A text is cut into tokens with their positions. What is no token, or a
malformed string, becomes a token too, so that the reader decides which of two
faults comes first.
-/

namespace Scaffold.Json

inductive Complaint where
  | value
  | name
  | colon
  | comma
  | extra
  | openString
  | escape
  | unicodeEscape
  | controlCharacter
  | byteOrderMark

inductive Fault where
  | at (complaint : Complaint) (position : Nat)
  /-- A whole number with more digits than are read. -/
  | tooLong (digits : Nat)

inductive Token where
  | openObject
  | closeObject
  | openArray
  | closeArray
  | colon
  | comma
  | text (s : String)
  | scalar (v : Value)
  | broken (fault : Fault)
  | unknown

/-! ## Strings -/

def hexValue (c : Char) : Option Nat :=
  if Decimal.isDigit c then some (c.toNat - '0'.toNat)
  else if 'a' ≤ c ∧ c ≤ 'f' then some (c.toNat - 'a'.toNat + 10)
  else if 'A' ≤ c ∧ c ≤ 'F' then some (c.toNat - 'A'.toNat + 10)
  else none

def hex4 : List Char → Option Nat
  | [a, b, c, d] => do
    return ((((← hexValue a) * 16 + (← hexValue b)) * 16) + (← hexValue c)) * 16 + (← hexValue d)
  | _ => none

def simpleEscape : Char → Option Char
  | '"' => some '"'
  | '\\' => some '\\'
  | '/' => some '/'
  | 'b' => some (Char.ofNat 8)
  | 'f' => some (Char.ofNat 12)
  | 'n' => some '\n'
  | 'r' => some '\r'
  | 't' => some '\t'
  | _ => none

def isHighSurrogate (n : Nat) : Bool := 0xD800 ≤ n && n < 0xDC00
def isLowSurrogate (n : Nat) : Bool := 0xDC00 ≤ n && n < 0xE000

/-- A character of its own; half a surrogate pair stands for the replacement character. -/
def unitChar (n : Nat) : Char :=
  if isHighSurrogate n || isLowSurrogate n then Char.ofNat 0xFFFD else Char.ofNat n

/-- One escape after its backslash at `position`: the character and the count of characters used,
or the fault. The text must go on after a numeric escape. -/
def scanEscape (start position : Nat) (cs : List Char) : Except Fault (Char × Nat) :=
  match cs with
  | [] => .error (.at .openString start)
  | 'u' :: r =>
    match hex4 (r.take 4), r.drop 4 with
    | none, _ | _, [] => .error (.at .unicodeEscape (position + 1))
    | some n, rest =>
      -- two halves that follow one another are one character, if the text goes on
      if isHighSurrogate n && rest.take 2 = ['\\', 'u'] && 6 < rest.length then
        match hex4 ((rest.drop 2).take 4) with
        | none => .error (.at .unicodeEscape (position + 7))
        | some m =>
          if isLowSurrogate m then
            .ok (Char.ofNat (0x10000 + (n - 0xD800) * 0x400 + (m - 0xDC00)), 11)
          else .ok (unitChar n, 5)
      else .ok (unitChar n, 5)
  | c :: _ =>
    match simpleEscape c with
    | some d => .ok (d, 1)
    | none => .error (.at .escape position)

/-- The characters of a string after its opening quote, last first, and the position after the
closing quote. The first `skip` characters belong to an escape that has been read. -/
def scanString (start skip position : Nat) (read : List Char) :
    List Char → Except Fault (List Char × Nat)
  | [] => .error (.at .openString start)
  | c :: r =>
    match skip with
    | k + 1 => scanString start k (position + 1) read r
    | 0 =>
      if c = '"' then .ok (read, position + 1)
      else if c = '\\' then
        match scanEscape start position r with
        | .error e => .error e
        | .ok (d, n) => scanString start n (position + 1) (d :: read) r
      else if c.toNat < 32 then .error (.at .controlCharacter position)
      else scanString start 0 (position + 1) (c :: read) r

/-! ## Numbers and words -/

def scanFraction (cs : List Char) : List Char × List Char :=
  match cs with
  | '.' :: r =>
    let ds := r.takeWhile Decimal.isDigit
    if ds.isEmpty then ([], cs) else (ds, r.drop ds.length)
  | _ => ([], cs)

/-- A number at the front of a text, and how many characters it has. -/
def scanNumber (cs : List Char) : Option (Token × Nat) :=
  let (negative, r) := match cs with
    | '-' :: r => (true, r)
    | r => (false, r)
  let whole := match r with
    | '0' :: _ => ['0']
    | r => r.takeWhile Decimal.isDigit
  if whole.isEmpty then none
  else
    let afterWhole := r.drop whole.length
    let (fraction, afterFraction) := scanFraction afterWhole
    let (exponent, rest) := Decimal.spanExponent afterFraction
    let count := cs.length - rest.length
    -- with neither a fraction nor an exponent it is a whole number
    if fraction.isEmpty && rest.length = afterWhole.length then
      if Decimal.digitLimit < whole.length then some (.broken (.tooLong whole.length), count)
      else
        let n : Int := Decimal.ofDigits 10 whole
        some (.scalar (.int (if negative then -n else n)), count)
    else some (.scalar (.real (Decimal.round negative (Decimal.assemble whole fraction exponent))),
      count)

def words : List (List Char × Value) := [
  ("null".toList, .null), ("true".toList, .bool true), ("false".toList, .bool false),
  ("NaN".toList, .real .nan), ("Infinity".toList, .real .infinity),
  ("-Infinity".toList, .real Binary64.infinity.negate)]

def scanToken (position : Nat) (cs : List Char) : Token × Nat :=
  match cs with
  | '{' :: _ => (.openObject, 1)
  | '}' :: _ => (.closeObject, 1)
  | '[' :: _ => (.openArray, 1)
  | ']' :: _ => (.closeArray, 1)
  | ':' :: _ => (.colon, 1)
  | ',' :: _ => (.comma, 1)
  | '"' :: r =>
    match scanString position 0 (position + 1) [] r with
    | .ok (read, stop) => (.text (String.ofList read.reverse), stop - position)
    | .error fault => (.broken fault, 1)
  | cs =>
    match words.find? (fun w => w.1.isPrefixOf cs) with
    | some w => (.scalar w.2, w.1.length)
    | none => (scanNumber cs).getD (.unknown, 1)

def isSpace (c : Char) : Bool := c = ' ' || c = '\t' || c = '\n' || c = '\r'

/-- The tokens of a text from a position on; the first `skip` characters belong to a token that
has been read. -/
def tokens (skip position : Nat) : List Char → List (Nat × Token)
  | [] => []
  | c :: r =>
    match skip with
    | k + 1 => tokens k (position + 1) r
    | 0 =>
      if isSpace c then tokens 0 (position + 1) r
      else
        let (token, count) := scanToken position (c :: r)
        (position, token) :: tokens (count - 1) (position + 1) r

end Scaffold.Json
