import Scaffold.Text.Characters
import Scaffold.Text.Split

/-!
# Command-line arguments

Arguments are a command with its options. An option may be cut short as long
as it is the only one that begins so, and its value is the next argument or
follows an equals sign. What is no option and has no place makes the command
line unusable, but a wish for help before the first error is granted.
-/

namespace Scaffold

inductive Command where
  | setup (manifest outDir : Option String) (force : Bool) (skip : String)
  | validate (manifest : Option String)

/-- Why arguments make no command. -/
inductive Stop where
  | help
  | unusable
  deriving DecidableEq

def Stop.status : Stop → Nat
  | .help => 0
  | .unusable => 2

namespace Arguments

inductive Switch where
  | help
  | manifest
  | outDir
  | force
  | skip
  deriving DecidableEq

def Switch.takesValue : Switch → Bool
  | .help | .force => false
  | .manifest | .outDir | .skip => true

abbrev Spellings := List (List Char × Switch)

def spell (ss : List (String × Switch)) : Spellings := ss.map fun s => (s.1.toList, s.2)

def outer : Spellings := spell [("-h", .help), ("--help", .help)]

def ofValidate : Spellings := outer ++ spell [("--manifest", .manifest)]

def ofSetup : Spellings :=
  ofValidate ++ spell [("--out-dir", .outDir), ("--force", .force), ("--skip", .skip)]

/-- A value within the argument of a switch: behind an equals sign, or right behind its letter. -/
inductive Inline where
  | none
  | signed (value : List Char)
  | attached (value : List Char)

def Inline.ofSigned (value : Option (List Char)) : Inline :=
  match value with
  | some v => .signed v
  | .none => .none

/-- What an argument is by its own form. -/
inductive Argument where
  | operand
  | separator
  | switch (s : Switch) (inline : Inline)
  | unknown

/-! ## Forms of arguments -/

/-- Whether a text is a negative number, which is an operand. -/
def isNegativeNumber (cs : List Char) : Bool :=
  match cs with
  | '-' :: r =>
    let (whole, rest) := r.span Text.isDecimalDigit
    match rest with
    | [] => !whole.isEmpty
    | '.' :: fraction => !fraction.isEmpty && fraction.all Text.isDecimalDigit
    | _ => false
  | _ => false

/-- What stands before the first equals sign, and behind it if there is one. -/
def cutValue (cs : List Char) : List Char × Option (List Char) :=
  match cs.span (· ≠ '=') with
  | (name, _ :: value) => (name, some value)
  | (name, []) => (name, none)

def candidates (known : Spellings) (cs : List Char) : List Argument :=
  match cs with
  | '-' :: '-' :: _ =>
    let (name, value) := cutValue cs
    (known.filter fun k => name.isPrefixOf k.1).map fun k => .switch k.2 (.ofSigned value)
  | _ =>
    known.filterMap fun k =>
      if k.1 = cs.take 2 then some (.switch k.2 (.attached (cs.drop 2)))
      else if cs.isPrefixOf k.1 then some (.switch k.2 .none)
      else none

def classify (known : Spellings) (cs : List Char) : Except Stop Argument :=
  if cs = ['-', '-'] then .ok .separator
  else if cs.head? ≠ some '-' ∨ cs = ['-'] then .ok .operand
  else
    let (name, value) := cutValue cs
    match known.lookup cs, value.bind fun v => (known.lookup name).map (·, v) with
    | some s, _ => .ok (.switch s .none)
    | none, some (s, v) => .ok (.switch s (.signed v))
    | none, none =>
      match candidates known cs with
      | [a] => .ok a
      | _ :: _ :: _ => .error .unusable
      -- a negative number, or a text with a blank in it, is no switch
      | [] => .ok (if isNegativeNumber cs || cs.contains ' ' then .operand else .unknown)

/-- Classifies arguments; behind a separator all are operands. -/
def classifyAll (known : Spellings) : List (List Char) → Except Stop (List (Argument × List Char))
  | [] => .ok []
  | a :: rest => do
    match ← classify known a with
    | .separator => return (.separator, a) :: rest.map (.operand, ·)
    | k => return (k, a) :: (← classifyAll known rest)

/-! ## Options of a command -/

structure Options where
  manifest : Option (List Char)
  outDir : Option (List Char)
  force : Bool
  skip : List Char
  /-- Whether there are arguments without a place. -/
  extra : Bool

namespace Options

def none : Options := ⟨.none, .none, false, [], false⟩

def putValue (o : Options) (s : Switch) (v : List Char) : Options :=
  match s with
  | .manifest => { o with manifest := some v }
  | .outDir => { o with outDir := some v }
  | .skip => { o with skip := v }
  | .help | .force => o

end Options

/-- Whether the letters right behind a one-letter switch without a value may stand there. They are
switches too, up to the first that is unknown, which is passed over; no hyphen may come up, and no
equals sign behind a switch. -/
def isGroup (known : Spellings) : List Char → Bool
  | [] => true
  | c :: rest =>
    c ≠ '-' && ((known.lookup ['-', c]).isNone || (rest.head? ≠ some '=' && isGroup known rest))

/-- Whether a switch without a value may bear what stands within its argument. -/
def Inline.isHarmless (known : Spellings) : Inline → Bool
  | .none => true
  | .signed _ => false
  | .attached letters => isGroup known letters

def readOptions (known : Spellings) (o : Options) :
    List (Argument × List Char) → Except Stop Options
  | [] => .ok o
  | (.operand, _) :: rest | (.separator, _) :: rest | (.unknown, _) :: rest =>
    readOptions known { o with extra := true } rest
  | (.switch s inline, _) :: rest =>
    if s.takesValue then
      match inline, rest with
      | .signed v, rest | .attached v, rest => readOptions known (o.putValue s v) rest
      | .none, (.operand, v) :: rest => readOptions known (o.putValue s v) rest
      | .none, _ => .error .unusable
    else if !inline.isHarmless known then .error .unusable
    else match s with
      | .help => .error .help
      | _ => readOptions known { o with force := true } rest

def optionsOf (known : Spellings) (args : List (List Char)) : Except Stop Options := do
  readOptions known .none (← classifyAll known args)

/-! ## Commands -/

def text? (v : Option (List Char)) : Option String := v.map String.ofList

def ofName (name : List Char) (args : List (List Char)) : Except Stop (Options × Command) := do
  if name = "setup".toList then
    let o ← optionsOf ofSetup args
    return (o, .setup (text? o.manifest) (text? o.outDir) o.force (String.ofList o.skip))
  else if name = "validate".toList then
    let o ← optionsOf ofValidate args
    return (o, .validate (text? o.manifest))
  else throw .unusable

/-- The command among arguments, with whether any before it had no place. -/
def readCommand (extra : Bool) : List (List Char) → Except Stop Command
  | [] => .error .unusable
  | a :: rest => do
    match ← classify outer a with
    | .operand =>
      let (o, command) ← ofName a rest
      if extra || o.extra then throw .unusable
      return command
    | .separator => throw .unusable
    | .unknown => readCommand true rest
    | .switch _ inline => throw (if inline.isHarmless outer then .help else .unusable)

def read (args : List String) : Except Stop Command := readCommand false (args.map String.toList)

end Arguments

end Scaffold
