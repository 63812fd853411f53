import Scaffold.Schema.Basic

/-!
# Holding a value against a schema

A walk carries the path of the value in hand and the issues found so far, and
goes on after a complaint. Arrays, records and objects are accepted when no
issue came in while they were walked; a union walks each alternative on a fork
of its own and reports the alternative with the most issues.
-/

namespace Scaffold

structure Context where
  path : Path
  issues : List Issue

namespace Context

def empty : Context := ⟨[], []⟩

def push (c : Context) (key : Value) : Context := { c with path := c.path ++ [key] }
def pop (c : Context) : Context := { c with path := c.path.dropLast }
def reportAt (c : Context) (message : String) (path : Path) : Context :=
  { c with issues := c.issues ++ [⟨message, path⟩] }

def report (c : Context) (message : String) : Context := c.reportAt message c.path

def fork (c : Context) : Context := ⟨c.path, []⟩
def addIssues (c : Context) (issues : List Issue) : Context :=
  { c with issues := c.issues ++ issues }

end Context

/-- What is taken over from an accepted value; none for a rejected one. -/
abbrev Verdict := Option Value

abbrev Walked (α : Type) := Except SchemaFault α × Context

abbrev Walker := Value → Context → Walked Verdict

namespace Schema

def accept (v : Value) (c : Context) : Walked Verdict := (.ok (some v), c)
def reject (message : String) (c : Context) : Walked Verdict := (.ok none, c.report message)

def andThen {α β : Type} (w : Walked α) (next : α → Context → Walked β) : Walked β :=
  match w with
  | (.ok a, c) => next a c
  | (.error e, c) => (.error e, c)

/-- What has been gathered, accepted when no issue came in since there were `start`. -/
def settle (start : Nat) (gathered : Value) (c : Context) : Walked Verdict :=
  if start < c.issues.length then (.ok none, c) else accept gathered c

def walkItems (walk : Walker) (index : Nat) : List Value → Context → Walked (List Value)
  | [], c => (.ok [], c)
  | x :: xs, c =>
    andThen (walk x (c.push (.int index))) fun r c =>
      andThen (walkItems walk (index + 1) xs c.pop) fun out c => (.ok (r.toList ++ out), c)

def walkEntries (walkKey walkValue : Walker) (out : Entries) :
    Entries → Context → Walked Entries
  | [], c => (.ok out, c)
  | (k, v) :: es, c =>
    andThen (walkKey k (c.push k)) fun key c =>
      andThen (walkValue v c) fun value c =>
        match key, value with
        | some k', some v' =>
          if k'.isHashable then walkEntries walkKey walkValue (Entries.put out k' v') es c.pop
          else (.error (.unhashable k'.unhashableType), c.pop)
        | _, _ => walkEntries walkKey walkValue out es c.pop

def refine : List Refinement → Value → Context → Walked Verdict
  | [], v, c => accept v c
  | .undefined :: _, _, c => (.error .undefined, c)
  | .minLength minimum message :: rest, v, c =>
    match v.length? with
    | none => (.error (.noLength v.typeName), c)
    | some n => if (n : Int) < minimum then reject message c else refine rest v c

def walkLiteral (expected v : Value) (c : Context) : Walked Verdict :=
  if v.sameType expected && v.equal expected then accept expected c
  else match expected.json with
    | .ok written => reject ("Expected " ++ written) c
    | .error fault => (.error (.noText fault), c)

/-- The issues of a union none of whose alternatives accepts, given the longest list they came up
with. -/
def rejectUnion (best : List Issue) (c : Context) : Walked Verdict :=
  if best.isEmpty then reject "Value does not match any union variant" c
  else (.ok none, c.addIssues best)

mutual

def walk : Schema → Value → Context → Walked Verdict
  | .text, v, c => if v.isText then accept v c else reject "Expected a string" c
  | .truth, v, c =>
    match v with
    | .bool b => accept (.bool b) c
    | _ => reject "Expected a boolean" c
  | .anything, v, c => accept v c
  | .literal expected, v, c => walkLiteral expected v c
  | .array item, v, c =>
    match v.items? with
    | none => reject "Expected an array" c
    | some xs =>
      andThen (walkItems (walk item) 0 xs c) fun out c' => settle c.issues.length (.list out) c'
  | .record key value, v, c =>
    match v.entries? with
    | none => reject "Expected an object" c
    | some es =>
      andThen (walkEntries (walk key) (walk value) [] es c) fun out c' =>
        settle c.issues.length (.map out) c'
  | .object shape, v, c =>
    match v.entries? with
    | none => reject "Expected an object" c
    | some es =>
      andThen (walkShape shape es c) fun out c' => settle c.issues.length (.map out) c'
  | .union alternatives, v, c => walkAlternatives alternatives v [] c
  | .optional inner, v, c =>
    match v with
    | .missing => accept .missing c
    | v => walk inner v c
  | .refined inner refinements, v, c =>
    andThen (walk inner v c) fun r c =>
      match r with
      | some w => refine refinements w c
      | none => (.ok none, c)
  | .undefined, _, c => (.error .undefined, c)

def walkShape : List (String × Schema) → Entries → Context → Walked Entries
  | [], _, c => (.ok [], c)
  | (key, schema) :: shape, es, c =>
    match Entries.getText? es key with
    | none =>
      walkShape shape es
        (if schema.isOptional then c
          else c.reportAt "Missing required property" (c.path ++ [.text key]))
    | some v =>
      andThen (walk schema v (c.push (.text key))) fun r c =>
        andThen (walkShape shape es c.pop) fun out c =>
          (.ok ((r.map fun w => (Value.text key, w)).toList ++ out), c)

/-- The first alternative that accepts; `best` is the longest list of issues so far. -/
def walkAlternatives : List Schema → Value → List Issue → Context → Walked Verdict
  | [], _, best, c => rejectUnion best c
  | schema :: rest, v, best, c =>
    match walk schema v c.fork with
    | (.error e, _) => (.error e, c)
    | (.ok (some w), _) => accept w c
    | (.ok none, forked) =>
      walkAlternatives rest v
        (if best.length < forked.issues.length then forked.issues else best) c

end

def check (schema : Schema) (v : Value) : Except SchemaFault (Except (List Issue) Value) :=
  match schema.walk v .empty with
  | (.error e, _) => .error e
  | (.ok (some w), _) => .ok (.ok w)
  | (.ok none, c) => .ok (.error c.issues)

end Schema

end Scaffold
