import Scaffold.Value.Order
import Scaffold.Text.Quoted

/-!
# Values as literals

The one-line literal of a value in a generated module, and its plain text,
which differs from the literal for texts, dates and moments.
-/

namespace Scaffold.Value

def inBraces (body : String) : String := "\x7b" ++ body ++ "\x7d"

def intText (n : Int) : String :=
  String.ofList (if n < 0 then '-' :: Decimal.digitsOf n.natAbs else Decimal.digitsOf n.natAbs)

/-- The order in which the members of a set are written: numbers ascend, others stand as they
came. -/
def setOrder {α : Type} (key : α → Value) (xs : List α) : List α :=
  if xs.all fun x => (key x).number?.isSome then arrange key xs else xs

mutual

def literal : Value → String
  | .null => "None"
  | .missing => "MISSING"
  | .bool b => if b then "True" else "False"
  | .int n => intText n
  | .real x => NumberStyle.literal.render x
  | .text s => Text.literal s
  | .bytes bs => Text.bytesLiteral bs
  | .date d => Moment.dateCall d
  | .moment t => t.call
  | .list xs => "[" ++ ", ".intercalate (literalItems xs) ++ "]"
  | .tuple [x] => "(" ++ literal x ++ ",)"
  | .tuple xs => "(" ++ ", ".intercalate (literalItems xs) ++ ")"
  | .set [] => "set()"
  | .set xs =>
    let written := setOrder Prod.fst (xs.zip (literalItems xs))
    inBraces (", ".intercalate (written.map Prod.snd))
  | .map es => inBraces (", ".intercalate (literalEntries es))

def literalItems : List Value → List String
  | [] => []
  | x :: xs => literal x :: literalItems xs

def literalEntries : Entries → List String
  | [] => []
  | (k, v) :: es => (literal k ++ ": " ++ literal v) :: literalEntries es

end

def plain : Value → String
  | .text s => s
  | .date d => d.iso
  | .moment t => t.isoWith " "
  | v => literal v

end Scaffold.Value
