/-!
# Binary64 numbers

The doubles from zero upwards are numbered in increasing order, so a double is
a sign and a rank. Ranks are read as whole numbers of units, a unit being the
least positive double `2 ^ -1074`, and every operation rounds an exact
quotient of units to the nearest rank.
-/

namespace Scaffold

namespace Binary64

/-- The rank of infinity: the finite doubles have all smaller ranks. -/
def topRank : Nat := 2047 * Nat.pow 2 52

end Binary64

inductive Binary64 where
  | nan
  | signed (negative : Bool) (rank : Fin (Binary64.topRank + 1))
  deriving DecidableEq

namespace Binary64

/-! ## Ranks and units -/

/-- How often the spacing of doubles has doubled below a rank. -/
def shift (rank : Nat) : Nat := rank / Nat.pow 2 52 - 1

/-- The magnitude of a rank in units. -/
def units (rank : Nat) : Nat := (rank - shift rank * Nat.pow 2 52) * Nat.pow 2 (shift rank)

def unit : Nat := Nat.pow 2 1074

/-- The whole number nearest to a quotient, a half going to the even neighbour. -/
def roundHalfEven (num den : Nat) : Nat :=
  let q := num / den
  let twice := 2 * (num % den)
  if twice < den then q
  else if den < twice then q + 1
  else if q % 2 = 0 then q else q + 1

def nearestRank (num den : Nat) : Nat :=
  let s := Nat.log2 (num / den) - 52
  min topRank (s * Nat.pow 2 52 + roundHalfEven num (den * Nat.pow 2 s))

def nearest (negative : Bool) (num den : Nat) : Binary64 :=
  .signed negative ⟨nearestRank num den, Nat.lt_succ_of_le (Nat.min_le_left ..)⟩

def signedZero (negative : Bool) : Binary64 := .signed negative 0
def zero : Binary64 := signedZero false
def infinity : Binary64 := .signed false (Fin.last topRank)

def negate : Binary64 → Binary64
  | .nan => .nan
  | .signed s r => .signed (!s) r

def isFinite : Binary64 → Bool
  | .nan => false
  | .signed _ r => r.val < topRank

def isZero : Binary64 → Bool
  | .nan => false
  | .signed _ r => r.val = 0

/-- The value in units, infinity counting as the power of two that follows the finite doubles. -/
def signedUnits : Bool → Nat → Int
  | false, rank => units rank
  | true, rank => -(units rank : Int)

/-! ## Whole numbers and order -/

def ofInt (n : Int) : Binary64 := nearest (n < 0) (n.natAbs * unit) 1

def equalsInt (x : Binary64) (n : Int) : Bool :=
  match x with
  | .nan => false
  | .signed s r => r.val < topRank && signedUnits s r.val == n * (unit : Int)

/-- Numeric equality: the two zeros are equal, and nan differs from itself. -/
def equal : Binary64 → Binary64 → Bool
  | .signed s r, .signed s' r' => (r == r' && (s == s' || r.val == 0))
  | _, _ => false

def less : Binary64 → Binary64 → Bool
  | .signed s r, .signed s' r' => signedUnits s r.val < signedUnits s' r'.val
  | _, _ => false

def lessInt (x : Binary64) (n : Int) : Bool :=
  match x with
  | .nan => false
  | .signed s r =>
    if r.val < topRank then signedUnits s r.val < n * (unit : Int) else s

def intLess (n : Int) (x : Binary64) : Bool :=
  match x with
  | .nan => false
  | .signed s r =>
    if r.val < topRank then n * (unit : Int) < signedUnits s r.val else !s

/-! ## Arithmetic, rounded once per step -/

def add : Binary64 → Binary64 → Binary64
  | .signed s r, .signed s' r' =>
    if r.val < topRank then
      if r'.val < topRank then
        let sum := signedUnits s r.val + signedUnits s' r'.val
        if sum = 0 then .signed (s && s') 0 else nearest (sum < 0) sum.natAbs 1
      else .signed s' r'
    else if r'.val < topRank || s == s' then .signed s r
    else .nan
  | _, _ => .nan

def mul : Binary64 → Binary64 → Binary64
  | .signed s r, .signed s' r' =>
    let negative := s != s'
    if r.val < topRank && r'.val < topRank then
      nearest negative (units r.val * units r'.val) unit
    else if r.val = 0 || r'.val = 0 then .nan
    else .signed negative (Fin.last topRank)
  | _, _ => .nan

end Binary64

end Scaffold
