import Scaffold.Number.Decimal

/-!
# Dates and moments

Calendar dates of the years 1 to 9999, and times of day on them with or
without a distance from UTC, down to microseconds.
-/

namespace Scaffold

structure Date where
  year : Nat
  month : Nat
  day : Nat
  deriving DecidableEq

structure Moment where
  date : Date
  hour : Nat
  minute : Nat
  second : Nat
  microsecond : Nat
  /-- The distance from UTC in microseconds, for a moment that has one. -/
  offset : Option Int
  deriving DecidableEq

namespace Date

def isLeap (y : Nat) : Bool := y % 4 = 0 && (y % 100 != 0 || y % 400 = 0)

def daysIn (year month : Nat) : Nat :=
  match month with
  | 2 => if isLeap year then 29 else 28
  | 4 | 6 | 9 | 11 => 30
  | _ => 31

inductive Fault where
  | year (n : Nat)
  | month
  | day

def Fault.message : Fault → String
  | .year n => "year " ++ toString n ++ " is out of range"
  | .month => "month must be in 1..12"
  | .day => "day is out of range for month"

def ofNumbers (year month day : Nat) : Except Fault Date :=
  if year < 1 ∨ 9999 < year then .error (.year year)
  else if month < 1 ∨ 12 < month then .error .month
  else if day < 1 ∨ daysIn year month < day then .error .day
  else .ok ⟨year, month, day⟩

/-- Days before the first of January of a year, counted from year 1. -/
def daysBeforeYear (year : Nat) : Nat :=
  let y := year - 1
  y * 365 + y / 4 - y / 100 + y / 400

def daysBeforeMonth (year month : Nat) : Nat :=
  (List.range (month - 1)).foldl (fun n m => n + daysIn year (m + 1)) 0

def dayNumber (d : Date) : Nat := daysBeforeYear d.year + daysBeforeMonth d.year d.month + d.day

def ofDayNumber (n : Nat) : Option Date := do
  let year ← (List.range 9999).reverse.find? fun y => daysBeforeYear (y + 1) < n
  let inYear := n - daysBeforeYear (year + 1)
  let month ← (List.range 12).reverse.find? fun m => daysBeforeMonth (year + 1) (m + 1) < inYear
  (ofNumbers (year + 1) (month + 1) (inYear - daysBeforeMonth (year + 1) (month + 1))).toOption

end Date

def padded (width n : Nat) : String :=
  let ds := Decimal.digitsOf n
  String.ofList (List.replicate (width - ds.length) '0' ++ ds)

/-! ## Printing -/

def Date.iso (d : Date) : String := padded 4 d.year ++ "-" ++ padded 2 d.month ++ "-" ++ padded 2 d.day

namespace Moment

/-- Hours and minutes from UTC, with seconds and their fraction only where there are some. -/
def offsetText (offset : Int) : String :=
  let n := offset.natAbs
  let seconds := n / 1000000
  let fraction := n % 1000000
  (if offset < 0 then "-" else "+") ++ padded 2 (seconds / 3600) ++ ":" ++
    padded 2 (seconds / 60 % 60) ++
    (if seconds % 60 = 0 ∧ fraction = 0 then "" else ":" ++ padded 2 (seconds % 60)) ++
    (if fraction = 0 then "" else "." ++ padded 6 fraction)

def isoWith (separator : String) (t : Moment) : String :=
  t.date.iso ++ separator ++ padded 2 t.hour ++ ":" ++ padded 2 t.minute ++ ":" ++
    padded 2 t.second ++
    (if t.microsecond = 0 then "" else "." ++ padded 6 t.microsecond) ++
    (match t.offset with
      | some o => offsetText o
      | none => "")

def iso (t : Moment) : String := isoWith "T" t

def wholeSeconds (t : Moment) : Moment := { t with microsecond := 0 }

/-- Microseconds since the beginning of year 1, by the moment's own clock. -/
def clock (t : Moment) : Int :=
  ((((t.date.dayNumber * 24 + t.hour) * 60 + t.minute) * 60 + t.second) * 1000000 +
    t.microsecond : Nat)

def unixDay : Nat := 719163

/-- The moment in UTC at a number of microseconds since 1970 began; past the year 9999 it stays the
last day. -/
def ofUnix (microseconds : Nat) : Moment where
  date := (Date.ofDayNumber (unixDay + microseconds / 86400000000)).getD ⟨9999, 12, 31⟩
  hour := microseconds / 3600000000 % 24
  minute := microseconds / 60000000 % 60
  second := microseconds / 1000000 % 60
  microsecond := microseconds % 1000000
  offset := some 0

/-- Two moments are equal when both lack an offset and show the same clock, or both have one and
fall together. -/
def equal (a b : Moment) : Bool :=
  match a.offset, b.offset with
  | none, none => a.clock == b.clock
  | some x, some y => a.clock - x == b.clock - y
  | _, _ => false

/-- The calls that rebuild a date, a duration, an offset and a moment in a generated module. -/
def dateCall (d : Date) : String :=
  "datetime.date(" ++ toString d.year ++ ", " ++ toString d.month ++ ", " ++ toString d.day ++ ")"

def durationCall (microseconds : Int) : String :=
  let dayLength : Int := 86400 * 1000000
  let days := Int.fdiv microseconds dayLength
  let rest := (Int.fmod microseconds dayLength).toNat
  let seconds := rest / 1000000
  let micros := rest % 1000000
  let parts := (if days = 0 then [] else ["days=" ++ toString days]) ++
    (if seconds = 0 then [] else ["seconds=" ++ toString seconds]) ++
    (if micros = 0 then [] else ["microseconds=" ++ toString micros])
  "datetime.timedelta(" ++ ", ".intercalate parts ++ ")"

def offsetCall (offset : Int) : String :=
  if offset = 0 then "datetime.timezone.utc"
  else "datetime.timezone(" ++ durationCall offset ++ ")"

def call (t : Moment) : String :=
  let d := t.date
  let small := if t.microsecond ≠ 0 then [t.second, t.microsecond]
    else if t.second ≠ 0 then [t.second] else []
  let numbers := [d.year, d.month, d.day, t.hour, t.minute] ++ small
  "datetime.datetime(" ++ ", ".intercalate (numbers.map toString) ++
    (match t.offset with
      | some o => ", tzinfo=" ++ offsetCall o
      | none => "") ++ ")"

end Moment

end Scaffold
