import Scaffold.Time.Moment

/-!
# Reading ISO 8601 texts

Dates by month or by week, times to the microsecond, offsets from UTC, each in
the basic or the extended form.
-/

namespace Scaffold.Iso

open Decimal (isDigit ofDigits)

def digits (n : Nat) (cs : List Char) : Option (Nat × List Char) :=
  let ds := cs.take n
  if ds.length = n ∧ ds.all isDigit then some (ofDigits 10 ds, cs.drop n) else none

def skip (c : Char) : List Char → Option (List Char)
  | d :: r => if c = d then some r else none
  | [] => none

def weekDate (year week day : Nat) : Option Date := do
  if week < 1 ∨ 53 < week ∨ day < 1 ∨ 7 < day then none
  let first := Date.daysBeforeYear year + 1
  let weekday := (first + 6) % 7
  if week = 53 ∧ ¬ (weekday = 3 ∨ (weekday = 2 ∧ Date.isLeap year)) then none
  let monday : Int := first - weekday + (if 3 < weekday then 7 else 0)
  let n := monday + ((week - 1) * 7 + (day - 1) : Nat)
  if n < 1 then none else Date.ofDayNumber n.toNat

/-- Whether a day follows the week. A digit may stand between date and time, so that the number
of digits decides. -/
def namesWeekday (extended : Bool) (cs : List Char) : Bool :=
  if extended then
    match cs with
    | '-' :: _ :: c :: _ => !isDigit c
    | '-' :: _ => true
    | _ => false
  else
    let n := (cs.takeWhile isDigit).length
    n = 1 || (2 ≤ n && n % 2 = 0)

def date (cs : List Char) : Option (Date × List Char) := do
  let (year, r) ← digits 4 cs
  let (extended, r) := match r with
    | '-' :: r => (true, r)
    | r => (false, r)
  match r with
  | 'W' :: r =>
    let (week, r) ← digits 2 r
    if namesWeekday extended r then
      let (day, r) ← digits 1 (if extended then r.drop 1 else r)
      return (← weekDate year week day, r)
    -- a week without a day stands for its Monday
    else return (← weekDate year week 1, r)
  | r =>
    let (month, r) ← digits 2 r
    let r ← if extended then skip '-' r else some r
    let (day, r) ← digits 2 r
    return (← (Date.ofNumbers year month day).toOption, r)

/-- The fraction of a second in microseconds; digits past the sixth are dropped. -/
def fraction : List Char → Nat × List Char
  | [] => (0, [])
  | c :: r =>
    if c = '.' ∨ c = ',' then
      let ds := r.takeWhile isDigit
      let six := ds.take 6
      (ofDigits 10 six * Nat.pow 10 (6 - six.length), r.drop ds.length)
    else (0, c :: r)

structure Clock where
  hour : Nat
  minute : Nat
  second : Nat
  microsecond : Nat

/-- Hours, minutes, seconds and a fraction, the later parts left out at will. -/
def clock (cs : List Char) : Option (Clock × List Char) := do
  let (hour, r) ← digits 2 cs
  match r with
  | ':' :: r =>
    let (minute, r) ← digits 2 r
    match r with
    | ':' :: r =>
      let (second, r) ← digits 2 r
      let (micro, r) := fraction r
      return (⟨hour, minute, second, micro⟩, r)
    | r => return (⟨hour, minute, 0, 0⟩, r)
  | r =>
    -- without colons each further pair of digits may be missing
    match digits 2 r with
    | none => return (⟨hour, 0, 0, 0⟩, r)
    | some (minute, r) =>
      match digits 2 r with
      | none => return (⟨hour, minute, 0, 0⟩, r)
      | some (second, r) =>
        let (micro, r) := fraction r
        return (⟨hour, minute, second, micro⟩, r)

def Clock.inDay (c : Clock) : Bool := c.hour < 24 && c.minute < 60 && c.second < 60

def Clock.microseconds (c : Clock) : Nat :=
  ((c.hour * 60 + c.minute) * 60 + c.second) * 1000000 + c.microsecond

/-- The distance from UTC, in microseconds and less than a day; the empty text is none, and
less than a second is no distance. -/
def offset : List Char → Option (Option Int)
  | [] => some none
  | ['Z'] => some (some 0)
  | c :: r =>
    if c = '+' ∨ c = '-' then do
      let (k, rest) ← clock r
      let n : Int := if k.microseconds < 1000000 then 0 else k.microseconds
      if !rest.isEmpty || 24 * 3600 * 1000000 ≤ n then none
      return some (if c = '-' then -n else n)
    else none

/-- A moment: a date alone is its midnight; any character may stand between date and time. -/
def moment (s : String) : Option Moment := do
  let (d, r) ← date s.toList
  match r with
  | [] => return ⟨d, 0, 0, 0, 0, none⟩
  | _ :: r =>
    let (c, r) ← clock r
    if !c.inDay then none
    return ⟨d, c.hour, c.minute, c.second, c.microsecond, ← offset r⟩

def day (s : String) : Option Date := do
  let (d, r) ← date s.toList
  if r.isEmpty then return d else none

end Scaffold.Iso
