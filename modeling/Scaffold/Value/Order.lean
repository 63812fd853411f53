import Scaffold.Value.Basic

/-!
# Order of values

Numbers, texts, bytes, dates and moments are ordered each among themselves,
lists and tuples by their first difference. Sorting stops at the first two
values it compares that have no order.
-/

namespace Scaffold

inductive OrderFault where
  | types (left right : String)
  /-- A moment with an offset and one without. -/
  | offsets
  | dayAndMoment

def OrderFault.message : OrderFault → String
  | .types left right =>
    "'<' not supported between instances of '" ++ left ++ "' and '" ++ right ++ "'"
  | .offsets => "can't compare offset-naive and offset-aware datetimes"
  | .dayAndMoment => "can't compare datetime.datetime to datetime.date"

namespace Value

mutual

def less : Value → Value → Except OrderFault Bool
  | .text a, .text b => .ok (a < b)
  | .bytes a, .bytes b => .ok (a.map UInt8.toNat < b.map UInt8.toNat)
  | .date a, .date b => .ok (a.dayNumber < b.dayNumber)
  | .moment a, .moment b =>
    match a.offset, b.offset with
    | none, none => .ok (a.clock < b.clock)
    | some x, some y => .ok (a.clock - x < b.clock - y)
    | _, _ => .error .offsets
  | .date _, .moment _ | .moment _, .date _ => .error .dayAndMoment
  | .list xs, .list ys => lessItems xs ys
  | .tuple xs, .tuple ys => lessItems xs ys
  | v, w =>
    match v.number?, w.number? with
    | some a, some b => .ok (a.less b)
    | _, _ => .error (.types v.typeName w.typeName)
termination_by structural v => v

def lessItems : List Value → List Value → Except OrderFault Bool
  | _, [] => .ok false
  | [], _ :: _ => .ok true
  | x :: xs, y :: ys => if equal x y then lessItems xs ys else less x y
termination_by structural xs => xs

end

/-- An order on any values at all: what cannot be compared goes by the name of its type. -/
def before (a b : Value) : Bool :=
  match less a b with
  | .ok r => r
  | .error _ => a.typeName < b.typeName

def arrange {α : Type} (key : α → Value) (xs : List α) : List α :=
  xs.mergeSort fun a b => !before (key b) (key a)

/-! ## Sorting what may have no order -/

section

variable {α : Type} (key : α → Value)

/-- Splits a list where it stops to go one way, up or strictly down, from its last item so far.
The run is given backwards. -/
def splitRun (down : Bool) (last : α) (run : List α) :
    List α → Except OrderFault (List α × List α)
  | [] => .ok (last :: run, [])
  | x :: xs => do
    if (← less (key x) (key last)) = down then splitRun down x (last :: run) xs
    else return (last :: run, x :: xs)

def headRun : List α → Except OrderFault (List α × List α)
  | x :: y :: xs => do
    let down ← less (key y) (key x)
    let (run, rest) ← splitRun key down y [x] xs
    -- the run is given backwards, so one that went down is in order already
    return (if down then run else run.reverse, rest)
  | xs => .ok (xs, [])

/-- The place of a key among sorted items, after its equals, found by halving. -/
def placeOf (k : Value) (sorted : List α) (low high : Nat) : Except OrderFault Nat := do
  if low < high then
    let middle := low + (high - low) / 2
    match sorted[middle]? with
    | none => return low
    | some x =>
      if ← less k (key x) then placeOf k sorted low middle
      else placeOf k sorted (middle + 1) high
  else return low
termination_by high - low

def insertSorted (sorted : List α) (x : α) : Except OrderFault (List α) :=
  return sorted.insertIdx (← placeOf key (key x) sorted 0 sorted.length) x

/-- Keeps the run at the head and puts each further item in its place. -/
def sortBy (xs : List α) : Except OrderFault (List α) := do
  let (run, rest) ← headRun key xs
  rest.foldlM (insertSorted key) run

end

end Value

end Scaffold
