import Scaffold.Text.Printable

/-!
# Quoted text

Two written forms of a text: the literal of a generated module, which takes the
quote that needs no escape where it can, and the JSON string.
-/

namespace Scaffold.Text

def hex (width n : Nat) : List Char :=
  let ds := Nat.toDigits 16 n
  List.replicate (width - ds.length) '0' ++ ds

/-! ## Literals -/

/-- Single quotes, unless the text holds one and no double quote. -/
def literalQuote (cs : List Char) : Char :=
  if cs.contains '\'' && !cs.contains '"' then '"' else '\''

/-- The letter behind the backslash, where there is one for a character. -/
def escapeLetter? (quote c : Char) : Option Char :=
  if c = quote ∨ c = '\\' then some c
  else if c = '\n' then some 'n'
  else if c = '\r' then some 'r'
  else if c = '\t' then some 't'
  else none

def literalChar (quote c : Char) : List Char :=
  match escapeLetter? quote c with
  | some letter => ['\\', letter]
  | none =>
    if isPrintable c then [c]
    else if c.toNat < 0x100 then '\\' :: 'x' :: hex 2 c.toNat
    else if c.toNat < 0x10000 then '\\' :: 'u' :: hex 4 c.toNat
    else '\\' :: 'U' :: hex 8 c.toNat

def literalChars (cs : List Char) : List Char :=
  let quote := literalQuote cs
  quote :: cs.flatMap (literalChar quote) ++ [quote]

def literal (s : String) : String := String.ofList (literalChars s.toList)

def literalByte (quote : Char) (b : UInt8) : List Char :=
  match escapeLetter? quote (Char.ofNat b.toNat) with
  | some letter => ['\\', letter]
  | none =>
    if 32 ≤ b.toNat ∧ b.toNat < 127 then [Char.ofNat b.toNat]
    else '\\' :: 'x' :: hex 2 b.toNat

def bytesLiteral (bs : List UInt8) : String :=
  let quote := literalQuote (bs.map fun b => Char.ofNat b.toNat)
  String.ofList ('b' :: quote :: bs.flatMap (literalByte quote) ++ [quote])

/-! ## JSON strings -/

def jsonChar (c : Char) : List Char :=
  if c = '"' then ['\\', '"']
  else if c = '\\' then ['\\', '\\']
  else if c = '\n' then ['\\', 'n']
  else if c = '\r' then ['\\', 'r']
  else if c = '\t' then ['\\', 't']
  else if c.toNat = 8 then ['\\', 'b']
  else if c.toNat = 12 then ['\\', 'f']
  else if c.toNat < 32 then '\\' :: 'u' :: hex 4 c.toNat
  else [c]

/-- Delete and the characters beyond ASCII as the escapes of their UTF-16 units. -/
def jsonAsciiChar (c : Char) : List Char :=
  let n := c.toNat
  if n < 127 then jsonChar c
  else if n < 0x10000 then '\\' :: 'u' :: hex 4 n
  else
    let m := n - 0x10000
    '\\' :: 'u' :: hex 4 (0xD800 + m / 0x400) ++ '\\' :: 'u' :: hex 4 (0xDC00 + m % 0x400)

def jsonStringChars (cs : List Char) : List Char := '"' :: cs.flatMap jsonChar ++ ['"']

def jsonString (s : String) : String := String.ofList (jsonStringChars s.toList)

def jsonAsciiString (s : String) : String :=
  String.ofList ('"' :: s.toList.flatMap jsonAsciiChar ++ ['"'])

end Scaffold.Text
