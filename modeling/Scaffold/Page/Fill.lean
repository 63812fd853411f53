import Scaffold.Page.Filter

/-!
# Filling templates
-/

namespace Scaffold

/-- The names that a template sees, the innermost first, and whether the innermost repeated part
is filled for the last time. -/
structure Scope where
  names : List (String × Value)
  last : Bool

namespace Scope

def ofEntries (es : Entries) : Scope :=
  ⟨es.filterMap fun e => e.1.text?.map fun k => (k, e.2), false⟩

def bind (s : Scope) (n : String) (v : Value) (last : Bool) : Scope :=
  ⟨(n, v) :: s.names, last⟩

end Scope

/-- A value, or the fault that asking for it raises. -/
inductive Found where
  | value (v : Value)
  | undefined (fault : FillFault)

namespace Found

def get : Found → Except FillFault Value
  | .value v => .ok v
  | .undefined fault => .error fault

end Found

namespace Expr

def objectName (v : Value) : String :=
  match v with
  | .null => "None"
  | .missing => Value.missingClass ++ " object"
  | v => v.typeName ++ " object"

def part (v : Value) (n : String) : Found :=
  match v.field? n with
  | some w => .value w
  | none => .undefined (.undefinedAttribute (objectName v) n)

mutual

def eval (s : Scope) : Expr → Except FillFault Found
  | .name n =>
    match s.names.lookup n with
    | some v => .ok (.value v)
    | none => .ok (.undefined (.undefinedName n))
  | .attr e n => do return part (← (← eval s e).get) n
  | .constant c => .ok (.value (.text c))
  | .concat parts => do return .value (.text (String.join (← evalParts s parts)))
  | .choose e yes no => do
    let v ← (← eval s e).get
    return .value (.text (if v.truth then yes else no))
  | .filtered f e => do
    match ← eval s e with
    | .value v => return .value (← f.apply v)
    | .undefined fault => return .value (← f.applyUndefined fault)

def evalParts (s : Scope) : List Expr → Except FillFault (List String)
  | [] => .ok []
  | e :: es => do
    let v ← (← eval s e).get
    return v.plain :: (← evalParts s es)

end

def value (s : Scope) (e : Expr) : Except FillFault Value := do (← eval s e).get

end Expr

def Condition.eval (s : Scope) : Condition → Except FillFault Bool
  | .holds e => do return (← e.value s).truth
  | .equals e t => do return (← e.value s).equal (.text t)
  | .isTrue e => do
    match ← e.eval s with
    | .value (.bool b) => return b
    | _ => return false
  | .notLast => .ok !s.last

/-- Lines set further in by a width; a line that is empty stays empty, unless it is the first. -/
def indentLines (width : Nat) (s : String) : String :=
  let margin := String.ofList (List.replicate width ' ')
  match Text.lines (s ++ "\n") with
  | [] => margin
  | first :: rest =>
    "\n".intercalate ((margin ++ first) ::
      rest.map fun l => if l.isEmpty then l else margin ++ l)

namespace Node

def fillEach (fillBody : Scope → Except FillFault String) (s : Scope) (item : String) :
    List Value → Except FillFault String
  | [] => .ok ""
  | x :: xs => do
    let first ← fillBody (s.bind item x xs.isEmpty)
    return first ++ (← fillEach fillBody s item xs)

mutual

def fill (s : Scope) : Node → Except FillFault String
  | .text t => .ok t
  | .put e => do return (← e.value s).plain
  | .each item of body => do
    let v ← of.value s
    match v.elements? with
    | some xs => fillEach (fun s' => fillAll s' body) s item xs
    | none => throw (.notIterable v.typeName)
  | .branch condition yes no => do
    if ← condition.eval s then fillAll s yes else fillAll s no
  | .indented width body => do return indentLines width (← fillAll s body)

def fillAll (s : Scope) : List Node → Except FillFault String
  | [] => .ok ""
  | n :: ns => do
    let first ← fill s n
    return first ++ (← fillAll s ns)

end

end Node

def Template.fill (t : Template) (es : Entries) : Except FillFault String :=
  Node.fillAll (Scope.ofEntries es) t

end Scaffold
