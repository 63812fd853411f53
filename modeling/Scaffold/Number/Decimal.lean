import Scaffold.Number.Binary64

/-!
# Decimal text of numbers

Reading rounds a decimal to the nearest double. Writing takes the fewest
digits that read back, of two such decimals the nearer one, and lays them out
by a `NumberStyle`.
-/

namespace Scaffold

/-- The number `digits * 10 ^ exponent`. -/
structure Decimal where
  digits : Nat
  exponent : Int
  deriving DecidableEq

namespace Decimal

/-! ## Digits -/

def digitsOf (n : Nat) : List Char := Nat.toDigits 10 n

/-- The value of a digit in bases up to 36, letters in either case. -/
def digitValue (c : Char) : Nat :=
  if '0' ≤ c ∧ c ≤ '9' then c.toNat - '0'.toNat
  else if 'a' ≤ c ∧ c ≤ 'z' then c.toNat - 'a'.toNat + 10
  else if 'A' ≤ c ∧ c ≤ 'Z' then c.toNat - 'A'.toNat + 10
  else 0

def ofDigits (base : Nat) (ds : List Char) : Nat :=
  ds.foldl (fun n c => n * base + digitValue c) 0

def isDigit (c : Char) : Bool := '0' ≤ c && c ≤ '9'

/-- The count of decimal digits beyond which a whole number is not read. -/
def digitLimit : Nat := 4300

def tooLongMessage (digits : Nat) : String :=
  "Exceeds the limit (" ++ toString digitLimit ++
    " digits) for integer string conversion: value has " ++ toString digits ++
    " digits; use sys.set_int_max_str_digits() to increase the limit"

/-! ## Doubles -/

/-- The double nearest to a decimal. Beyond four hundred places the answer is settled without
the power of ten. -/
def round (negative : Bool) (d : Decimal) : Binary64 :=
  let top := (digitsOf d.digits).length + d.exponent
  if d.digits = 0 then .signedZero negative
  else if 400 < top then .signed negative (Fin.last Binary64.topRank)
  else if top < -400 then .signedZero negative
  else if 0 ≤ d.exponent then
    .nearest negative (d.digits * Nat.pow 10 d.exponent.toNat * Binary64.unit) 1
  else
    .nearest negative (d.digits * Binary64.unit) (Nat.pow 10 (-d.exponent).toNat)

def normalize (fuel : Nat) (d : Decimal) : Decimal :=
  match fuel with
  | 0 => d
  | fuel + 1 => if d.digits ≠ 0 ∧ d.digits % 10 = 0
      then normalize fuel ⟨d.digits / 10, d.exponent + 1⟩ else d

/-- The place of the decimal point before the first digit of a positive rank. -/
def point (rank : Nat) : Int :=
  (digitsOf (Binary64.units rank * Nat.pow 10 330 / Binary64.unit)).length - 330

/-- The better of a rank's two neighbours with a given number of digits, if one reads back. -/
def candidate (rank count : Nat) : Option Decimal :=
  let exponent := point rank - count
  let num := if 0 ≤ exponent then Binary64.units rank
    else Binary64.units rank * Nat.pow 10 (-exponent).toNat
  let den := if 0 ≤ exponent then Binary64.unit * Nat.pow 10 exponent.toNat else Binary64.unit
  let low : Decimal := ⟨num / den, exponent⟩
  let high : Decimal := ⟨num / den + 1, exponent⟩
  let readsBack (d : Decimal) : Bool :=
    match round false d with
    | .signed _ r => r.val == rank
    | .nan => false
  -- the nearer of the two is tried first
  let nearer := if Binary64.roundHalfEven num den = num / den then [low, high] else [high, low]
  (nearer.find? readsBack).map (normalize 20)

def exact (rank : Nat) : Decimal :=
  normalize 1100 ⟨Binary64.units rank * Nat.pow 5 1074, -1074⟩

/-- The shortest decimal that reads back as a positive finite rank. -/
def shortest (rank : Nat) : Decimal :=
  ((List.range 17).findSome? fun n => candidate rank (n + 1)).getD (exact rank)

end Decimal

/-! ## Layout -/

/-- Where positional notation ends, how an exponent is written, and the words for what has no
digits. -/
structure NumberStyle where
  leastPoint : Int
  mostPoint : Int
  plusSign : Bool
  exponentWidth : Nat
  notANumber : String
  infinite : String
  negativeInfinite : String

namespace NumberStyle

/-- A double in a module literal: positional from `0.0001` to below `1e16`. -/
def literal : NumberStyle := ⟨-3, 16, true, 2, "nan", "inf", "-inf"⟩

def json : NumberStyle := ⟨-3, 16, true, 2, "NaN", "Infinity", "-Infinity"⟩

def settings : NumberStyle := ⟨-4, 16, false, 1, "null", "null", "null"⟩

def zeros (n : Nat) : List Char := List.replicate n '0'

def exponentText (style : NumberStyle) (e : Int) : List Char :=
  let ds := Decimal.digitsOf e.natAbs
  let sign := if e < 0 then ['-'] else if style.plusSign then ['+'] else []
  'e' :: sign ++ zeros (style.exponentWidth - ds.length) ++ ds

def layout (style : NumberStyle) (d : Decimal) : List Char :=
  let ds := Decimal.digitsOf d.digits
  let point := d.exponent + ds.length
  if style.leastPoint ≤ point ∧ point ≤ style.mostPoint then
    if point ≤ 0 then '0' :: '.' :: zeros (-point).toNat ++ ds
    else if ds.length ≤ point.toNat then ds ++ zeros (point.toNat - ds.length) ++ ['.', '0']
    else ds.take point.toNat ++ '.' :: ds.drop point.toNat
  else
    -- a single digit has no point behind it
    let mantissa := match ds with
      | d :: e :: r => d :: '.' :: e :: r
      | short => short
    mantissa ++ style.exponentText (point - 1)

def render (style : NumberStyle) : Binary64 → String
  | .nan => style.notANumber
  | .signed s r =>
    if r.val = Binary64.topRank then if s then style.negativeInfinite else style.infinite
    else
      let body := if r.val = 0 then ['0', '.', '0'] else style.layout (Decimal.shortest r.val)
      String.ofList (if s then '-' :: body else body)

end NumberStyle

/-! ## Reading -/

namespace Decimal

def spanGrouped : List Char → List Char × List Char
  | '_' :: c :: r =>
    if isDigit c then
      let (ds, rest) := spanGrouped r
      (c :: ds, rest)
    else ([], '_' :: c :: r)
  | c :: r =>
    if isDigit c then
      let (ds, rest) := spanGrouped r
      (c :: ds, rest)
    else ([], c :: r)
  | [] => ([], [])

/-- An optional sign, true for minus. -/
def spanSign : List Char → Bool × List Char
  | '-' :: r => (true, r)
  | '+' :: r => (false, r)
  | r => (false, r)

def spanExponent (cs : List Char) : Int × List Char :=
  match cs with
  | c :: r =>
    if c = 'e' ∨ c = 'E' then
      let (negative, r') := spanSign r
      match r'.head?.map isDigit, spanGrouped r' with
      | some true, (ds, rest) =>
        let n : Int := ofDigits 10 ds
        (if negative then -n else n, rest)
      | _, _ => (0, cs)
    else (0, cs)
  | [] => (0, [])

def assemble (whole fraction : List Char) (exponent : Int) : Decimal :=
  ⟨ofDigits 10 (whole ++ fraction), exponent - fraction.length⟩

def readPlain (cs : List Char) : Option Decimal :=
  let startsBadly := match cs with
    | '_' :: _ => true
    | _ => false
  if startsBadly then none else
  let (whole, r) := spanGrouped cs
  let (fraction, r) := match r with
    | '.' :: '_' :: r => ([], '.' :: '_' :: r)
    | '.' :: r => spanGrouped r
    | r => ([], r)
  if whole.isEmpty && fraction.isEmpty then none
  else match spanExponent r with
    | (e, []) => some (assemble whole fraction e)
    | _ => none

def readDouble (cs : List Char) : Option Binary64 :=
  let (negative, r) := spanSign cs
  let word := String.ofList (r.map Char.toLower)
  if word = "nan" then some .nan
  else if word = "inf" ∨ word = "infinity" then
    some (.signed negative (Fin.last Binary64.topRank))
  else (readPlain r).map (round negative)

end Decimal

end Scaffold
