/-!
# Kinds of characters

A set of code points is the increasing list of those at which membership
changes, starting from "not a member". Each script has its ten decimal digits in
a row from zero, so that a run of digits starts with a zero.
-/

namespace Scaffold

abbrev CodeSet := List Nat

namespace CodeSet

def contains (s : CodeSet) (c : Char) : Bool := s.countP (· ≤ c.toNat) % 2 = 1

end CodeSet

namespace Text

/-! ## Blanks -/

/-- White space of any script, the four information separators among it. -/
def isBlank (c : Char) : Bool :=
  let n := c.toNat
  (9 ≤ n && n ≤ 13) || (28 ≤ n && n ≤ 32) || n = 0x85 || n = 0xA0 || n = 0x1680 ||
    (0x2000 ≤ n && n ≤ 0x200A) || n = 0x2028 || n = 0x2029 || n = 0x202F || n = 0x205F || n = 0x3000

def isLineBreak (c : Char) : Bool :=
  let n := c.toNat
  (10 ≤ n && n ≤ 13) || (28 ≤ n && n ≤ 30) || n = 0x85 || n = 0x2028 || n = 0x2029

/-! ## Digits -/

def decimalDigits : CodeSet := [
  48, 58, 1632, 1642, 1776, 1786, 1984, 1994, 2406, 2416, 2534, 2544, 2662, 2672, 2790, 2800,
  2918, 2928, 3046, 3056, 3174, 3184, 3302, 3312, 3430, 3440, 3558, 3568, 3664, 3674, 3792, 3802,
  3872, 3882, 4160, 4170, 4240, 4250, 6112, 6122, 6160, 6170, 6470, 6480, 6608, 6618, 6784, 6794,
  6800, 6810, 6992, 7002, 7088, 7098, 7232, 7242, 7248, 7258, 42528, 42538, 43216, 43226, 43264,
  43274, 43472, 43482, 43504, 43514, 43600, 43610, 44016, 44026, 65296, 65306, 66720, 66730,
  68912, 68922, 69734, 69744, 69872, 69882, 69942, 69952, 70096, 70106, 70384, 70394, 70736,
  70746, 70864, 70874, 71248, 71258, 71360, 71370, 71472, 71482, 71904, 71914, 72016, 72026,
  72784, 72794, 73040, 73050, 73120, 73130, 92768, 92778, 92864, 92874, 93008, 93018, 120782,
  120832, 123200, 123210, 123632, 123642, 125264, 125274, 130032, 130042]

def isDecimalDigit (c : Char) : Bool := decimalDigits.contains c

def digitOf? (c : Char) : Option Nat :=
  let marks := decimalDigits.takeWhile (· ≤ c.toNat)
  if marks.length % 2 = 1 then marks.getLast?.map fun first => (c.toNat - first) % 10 else none

/-- A digit of any script as a plain digit, and a blank beyond ASCII as a space. -/
def plainDigit (c : Char) : Char :=
  if c.toNat < 128 then c
  else if isBlank c then ' '
  else match digitOf? c with
    | some d => Char.ofNat ('0'.toNat + d)
    | none => c

def isPlainBlank (c : Char) : Bool := c = ' ' || (9 ≤ c.toNat && c.toNat ≤ 13)

def numberText (cs : List Char) : List Char :=
  let r := (cs.map plainDigit).dropWhile isPlainBlank
  (r.reverse.dropWhile isPlainBlank).reverse

end Text

end Scaffold
