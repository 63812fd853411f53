import Scaffold.Text.Case
import Scaffold.Text.Characters
import Scaffold.Text.Split
import Scaffold.Value.Basic
import Scaffold.Yaml.Kind
import Scaffold.Yaml.Token

/-!
# The values of YAML scalars

A scalar of a known kind is read by the rules of that kind, whether the kind
was found by its form or named by a tag.
-/

namespace Scaffold.Yaml

def withoutGaps (cs : List Char) : List Char := cs.filter (· ≠ '_')

/-- A sign in front, true for minus; there has to be something. -/
def takeSign : List Char → Except Fault (Bool × List Char)
  | [] => .error .emptyNumber
  | '-' :: r => .ok (true, r)
  | '+' :: r => .ok (false, r)
  | r => .ok (false, r)

/-! ## Whole numbers -/

def baseLetter (base : Nat) : Option Char :=
  if base = 2 then some 'b' else if base = 8 then some 'o' else if base = 16 then some 'x' else none

/-- The digits of a number in a base, behind a zero and the letter of the base if they are there. -/
def baseDigits (base : Nat) (cs : List Char) : List Char :=
  match baseLetter base, cs with
  | some letter, '0' :: c :: r => if c.toLower = letter then r else cs
  | _, cs => cs

def isDigitOf (base : Nat) (c : Char) : Bool :=
  (Decimal.isDigit c || ('a' ≤ c && c ≤ 'z') || ('A' ≤ c && c ≤ 'Z')) && Decimal.digitValue c < base

def readInteger (base : Nat) (cs : List Char) : Except Fault Int :=
  let (negative, r) := Decimal.spanSign (Text.numberText cs)
  let (digits, rest) := (baseDigits base r).span (isDigitOf base)
  if base = 10 && Decimal.digitLimit < digits.length then .error (.longInteger digits.length)
  else if digits.isEmpty || !rest.isEmpty then .error (.noInteger base (String.ofList cs))
  else
    let n : Int := Decimal.ofDigits base digits
    .ok (if negative then -n else n)

/-- A whole number: binary, hexadecimal, octal, to the base sixty or decimal, by how it begins. -/
def integer (text : List Char) : Except Fault Int := do
  let (negative, r) ← takeSign (withoutGaps text)
  let n ← match r with
    | ['0'] => pure 0
    | '0' :: 'b' :: digits => readInteger 2 digits
    | '0' :: 'x' :: digits => readInteger 16 digits
    | [] => throw .emptyNumber
    | '0' :: _ => readInteger 8 r
    | _ =>
      if r.contains ':' then do
        let places ← (Text.split ':' r).mapM (readInteger 10)
        pure (places.foldl (fun n d => n * 60 + d) 0)
      else readInteger 10 r
  return if negative then -n else n

/-! ## Doubles -/

def readReal (cs : List Char) : Except Fault Binary64 :=
  match Decimal.readDouble (Text.numberText cs) with
  | some x => .ok x
  | none => .error (.noReal (String.ofList cs))

def sumSixties (sum : Binary64) (base : Int) : List Binary64 → Binary64
  | [] => sum
  | d :: ds => sumSixties (sum.add (d.mul (.ofInt base))) (base * 60) ds

def real (text : List Char) : Except Fault Binary64 := do
  let (negative, r) ← takeSign (Text.lower (String.ofList (withoutGaps text))).toList
  let x ←
    if r = ".inf".toList then pure .infinity
    else if r = ".nan".toList then return .nan
    else if r.contains ':' then do
      let places ← (Text.split ':' r).mapM readReal
      pure (sumSixties .zero 1 places.reverse)
    else readReal r
  return if negative then x.negate else x

/-! ## Dates and moments -/

structure Written where
  year : Nat
  month : Nat
  day : Nat
  clock : Option (Nat × Nat × Nat)
  fraction : List Char
  /-- The distance from UTC in minutes. -/
  zone : Option Int

def takeNumber (cs : List Char) : Nat × List Char :=
  let (digits, rest) := cs.span Decimal.isDigit
  (Decimal.ofDigits 10 digits, rest)

def takeZone (cs : List Char) : Option Int :=
  match cs.dropWhile fun c => c = ' ' || c = '\t' with
  | 'Z' :: _ => some 0
  | sign :: rest =>
    let (hours, rest) := takeNumber rest
    let (minutes, _) := takeNumber (rest.drop 1)
    let n : Int := hours * 60 + minutes
    some (if sign = '-' then -n else n)
  | [] => none

def takeMoment (text : List Char) : Written :=
  let (year, r) := takeNumber text
  let (month, r) := takeNumber (r.drop 1)
  let (day, r) := takeNumber (r.drop 1)
  if r.isEmpty then ⟨year, month, day, none, [], none⟩
  else
    let r := r.dropWhile fun c => c = ' ' || c = '\t' || c = 'T' || c = 't'
    let (hour, r) := takeNumber r
    let (minute, r) := takeNumber (r.drop 1)
    let (second, r) := takeNumber (r.drop 1)
    let (fraction, r) := match r with
      | '.' :: r => r.span Decimal.isDigit
      | r => ([], r)
    ⟨year, month, day, some (hour, minute, second), fraction, takeZone r⟩

/-- The longest distance from UTC is less than a day, in minutes. -/
def dayMinutes : Nat := 1440

def Written.value (w : Written) : Except Fault Value := do
  match w.clock with
  | none => return .date (← (Date.ofNumbers w.year w.month w.day).mapError .date)
  | some (hour, minute, second) =>
    if let some z := w.zone then
      if dayMinutes ≤ z.natAbs then throw (.clock (.offset z))
    let d ← (Date.ofNumbers w.year w.month w.day).mapError .date
    if 24 ≤ hour then throw (.clock .hour)
    if 60 ≤ minute then throw (.clock .minute)
    if 60 ≤ second then throw (.clock .second)
    let digits := w.fraction.take 6
    let micros := Decimal.ofDigits 10 digits * Nat.pow 10 (6 - digits.length)
    return .moment ⟨d, hour, minute, second, micros, w.zone.map (· * 60000000)⟩

def isMomentText (text : List Char) : Bool :=
  (Text.Pattern.accepts (.either Kind.looseDay Kind.dayAndTime)) text

def moment (text : List Char) : Except Fault Value :=
  if isMomentText text then (takeMoment text).value else .error .noMoment

/-! ## Bytes -/

def sextet? (c : Char) : Option Nat :=
  if 'A' ≤ c ∧ c ≤ 'Z' then some (c.toNat - 'A'.toNat)
  else if 'a' ≤ c ∧ c ≤ 'z' then some (c.toNat - 'a'.toNat + 26)
  else if '0' ≤ c ∧ c ≤ '9' then some (c.toNat - '0'.toNat + 52)
  else if c = '+' then some 62
  else if c = '/' then some 63
  else none

/-- The base-64 digits of a group read so far, and the fill signs behind them. -/
structure Group64 where
  digits : List Nat
  fill : Nat

def groupBytes (digits : List Nat) : List UInt8 :=
  match digits with
  | [a, b] => [UInt8.ofNat (a * 4 + b / 16)]
  | [a, b, c] => [UInt8.ofNat (a * 4 + b / 16), UInt8.ofNat (b % 16 * 16 + c / 4)]
  | [a, b, c, d] => [UInt8.ofNat (a * 4 + b / 16), UInt8.ofNat (b % 16 * 16 + c / 4),
      UInt8.ofNat (c % 4 * 64 + d)]
  | _ => []

/-- Base-64 text; what is no digit is passed over, and a group that is filled up ends it. -/
def bytes64 (g : Group64) : List Char → Except Fault (List UInt8)
  | [] => if g.digits.isEmpty then .ok [] else .error .malformed
  | ch :: rest =>
    if ch = '=' then
      let fill := g.fill + 1
      -- a fill sign before the second digit of a group is passed over
      if 2 ≤ g.digits.length then
        if 4 ≤ g.digits.length + fill then .ok (groupBytes g.digits)
        else bytes64 { g with fill } rest
      else bytes64 g rest
    else match sextet? ch with
      | none => bytes64 g rest
      | some d =>
        let digits := g.digits ++ [d]
        if digits.length = 4 then do
          return groupBytes digits ++ (← bytes64 ⟨[], 0⟩ rest)
        else bytes64 ⟨digits, 0⟩ rest

def bytes (text : List Char) : Except Fault (List UInt8) :=
  if text.all (·.toNat < 128) then bytes64 ⟨[], 0⟩ text else .error .malformed

/-! ## All kinds -/

def trueWords : List String := ["yes", "true", "on"]
def falseWords : List String := ["no", "false", "off"]

def truth (text : String) : Except Fault Bool :=
  let word := Text.lower text
  if trueWords.contains word then .ok true
  else if falseWords.contains word then .ok false
  else .error (.noTruth word)

def scalarValue (kind : Kind) (text : String) : Except Fault Value :=
  match kind with
  | .null => .ok .null
  | .truth => .bool <$> truth text
  | .integer => .int <$> integer text.toList
  | .real => .real <$> real text.toList
  | .moment => moment text.toList
  | .bytes => .bytes <$> bytes text.toList
  | .text => .ok (.text text)
  | _ => .error .malformed

end Scaffold.Yaml
