import Mathlib.Data.List.Forall2
import Mathlib.Data.List.MinMax
import Scaffold.Schema.Walk

/-!
# What a schema means

Apart from any context, a schema relates the values it accepts to what is
taken over from them (`Conforms`), and gives every other value a list of
issues whose paths start at that value (`issues`). `output?` computes the
relation (`output?_eq_some_iff`).
-/

namespace Scaffold

/-! ## Refinements and issues -/

def Refinement.holds : Refinement → Value → Bool
  | .minLength minimum _, w => w.length?.any fun n : Nat => minimum ≤ n
  | .undefined, _ => false

def Refinement.message : Refinement → String
  | .minLength _ message => message
  | .undefined => ""

namespace Issue

def here (message : String) : List Issue := [⟨message, []⟩]

/-- An issue with a part of a value, as an issue with the whole: the part is found at `path`. -/
def below (path : Path) (i : Issue) : Issue := { i with path := path ++ i.path }

@[simp] theorem below_nil : below [] = id := by
  funext i
  simp [below]

def ofItems (found : Value → List Issue) (index : Nat) : List Value → List Issue
  | [] => []
  | x :: xs => (found x).map (below [.int index]) ++ ofItems found (index + 1) xs

def ofEntries (foundKey foundValue : Value → List Issue) (es : Entries) : List Issue :=
  es.flatMap fun e => (foundKey e.1 ++ foundValue e.2).map (below [e.1])

def ofRefinements (refinements : List Refinement) (w : Value) : List Issue :=
  match refinements.find? (!·.holds w) with
  | some r => here r.message
  | none => []

/-- The earliest of the longest lists. -/
def longest (lists : List (List Issue)) : List Issue := (lists.argmax List.length).getD []

def ofAlternatives (lists : List (List Issue)) : List Issue :=
  if (longest lists).isEmpty then here "Value does not match any union variant" else longest lists

end Issue

namespace Schema

/-! ## Induction -/

/-- Induction on schemas, with the hypothesis for every property of an object
and every alternative of a union. -/
@[elab_as_elim, induction_eliminator]
theorem inductionOn {motive : Schema → Prop} (text : motive .text) (truth : motive .truth)
    (anything : motive .anything) (literal : ∀ expected, motive (.literal expected))
    (array : ∀ item, motive item → motive (.array item))
    (record : ∀ key value, motive key → motive value → motive (.record key value))
    (object : ∀ shape, (∀ p ∈ shape, motive p.2) → motive (.object shape))
    (union : ∀ alternatives, (∀ s ∈ alternatives, motive s) → motive (.union alternatives))
    (optional : ∀ inner, motive inner → motive (.optional inner))
    (refined : ∀ inner refinements, motive inner → motive (.refined inner refinements))
    (undefined : motive .undefined) (schema : Schema) : motive schema :=
  @Schema.rec motive (fun shape => ∀ p ∈ shape, motive p.2)
    (fun alternatives => ∀ s ∈ alternatives, motive s) (fun p => motive p.2)
    text truth anything literal array record object union optional refined undefined
    (by simp) (fun _ _ head tail => List.forall_mem_cons.mpr ⟨head, tail⟩)
    (by simp) (fun _ _ head tail => List.forall_mem_cons.mpr ⟨head, tail⟩)
    (fun _ _ h => h) schema

/-! ## Acceptance -/

def outputPair? (outKey outValue : Value → Option Value) (e : Value × Value) :
    Option (Value × Value) :=
  (outKey e.1).bind fun k => (outValue e.2).map fun w => (k, w)

mutual

/-- `schema.Conforms v w`: the schema accepts `v`, and `w` is taken over from it. -/
def Conforms : Schema → Value → Value → Prop
  | .text, v, w => v.isText ∧ w = v
  | .truth, v, w => (∃ b, v = .bool b) ∧ w = v
  | .anything, v, w => w = v
  | .literal expected, v, w => v.sameType expected ∧ v.equal expected ∧ w = expected
  | .array item, v, w =>
    ∃ xs ys, v.items? = some xs ∧ List.Forall₂ (Conforms item) xs ys ∧ w = .list ys
  | .record key value, v, w =>
    ∃ es fs, v.entries? = some es ∧
      List.Forall₂ (fun e f => Conforms key e.1 f.1 ∧ Conforms value e.2 f.2) es fs ∧
      w = .map (Entries.ofList fs)
  | .object shape, v, w => ∃ es fs, v.entries? = some es ∧ ConformsShape shape es fs ∧ w = .map fs
  | .union alternatives, v, w => ConformsFirst alternatives v w
  | .optional inner, v, w => (v = .missing ∧ w = .missing) ∨ (v ≠ .missing ∧ Conforms inner v w)
  | .refined inner refinements, v, w => Conforms inner v w ∧ ∀ r ∈ refinements, r.holds w
  | .undefined, _, _ => False

/-- The declared properties that are there conform, in the order of their declaration, and only
optional ones are not there. -/
def ConformsShape : List (String × Schema) → Entries → Entries → Prop
  | [], _, fs => fs = []
  | (key, schema) :: shape, es, fs =>
    match es.getText? key with
    | none => schema.isOptional ∧ ConformsShape shape es fs
    | some v => ∃ w rest, Conforms schema v w ∧ ConformsShape shape es rest ∧
        fs = (.text key, w) :: rest

/-- The first alternative that accepts the value is the one it conforms to. -/
def ConformsFirst : List Schema → Value → Value → Prop
  | [], _, _ => False
  | schema :: rest, v, w =>
    Conforms schema v w ∨ (¬ ∃ w', Conforms schema v w') ∧ ConformsFirst rest v w

end

mutual

def output? : Schema → Value → Option Value
  | .text, v => if v.isText then some v else none
  | .truth, v =>
    match v with
    | .bool b => some (.bool b)
    | _ => none
  | .anything, v => some v
  | .literal expected, v => if v.sameType expected && v.equal expected then some expected else none
  | .array item, v => v.items?.bind fun xs => (xs.mapM (output? item)).map .list
  | .record key value, v =>
    v.entries?.bind fun es =>
      (es.mapM (outputPair? (output? key) (output? value))).map fun fs => .map (Entries.ofList fs)
  | .object shape, v => v.entries?.bind fun es => (outputShape? shape es).map .map
  | .union alternatives, v => outputFirst? alternatives v
  | .optional inner, v =>
    match v with
    | .missing => some .missing
    | v => output? inner v
  | .refined inner refinements, v => (output? inner v).filter fun w => refinements.all (·.holds w)
  | .undefined, _ => none

def outputShape? : List (String × Schema) → Entries → Option Entries
  | [], _ => some []
  | (key, schema) :: shape, es =>
    match es.getText? key with
    | none => if schema.isOptional then outputShape? shape es else none
    | some v =>
      (output? schema v).bind fun w => (outputShape? shape es).map fun fs => (.text key, w) :: fs

def outputFirst? : List Schema → Value → Option Value
  | [], _ => none
  | schema :: rest, v => (output? schema v).or (outputFirst? rest v)

end

/-! ## Rejection -/

mutual

def issues : Schema → Value → List Issue
  | .text, v => if v.isText then [] else Issue.here "Expected a string"
  | .truth, v =>
    match v with
    | .bool _ => []
    | _ => Issue.here "Expected a boolean"
  | .anything, _ => []
  | .literal expected, v =>
    if v.sameType expected && v.equal expected then []
    else match expected.json with
      | .ok written => Issue.here ("Expected " ++ written)
      | .error _ => []
  | .array item, v =>
    match v.items? with
    | none => Issue.here "Expected an array"
    | some xs => Issue.ofItems (issues item) 0 xs
  | .record key value, v =>
    match v.entries? with
    | none => Issue.here "Expected an object"
    | some es => Issue.ofEntries (issues key) (issues value) es
  | .object shape, v =>
    match v.entries? with
    | none => Issue.here "Expected an object"
    | some es => issuesShape shape es
  | .union alternatives, v =>
    if (outputFirst? alternatives v).isSome then []
    else Issue.ofAlternatives (issuesEach alternatives v)
  | .optional inner, v =>
    match v with
    | .missing => []
    | v => issues inner v
  | .refined inner refinements, v =>
    match output? inner v with
    | none => issues inner v
    | some w => Issue.ofRefinements refinements w
  | .undefined, _ => []

def issuesShape : List (String × Schema) → Entries → List Issue
  | [], _ => []
  | (key, schema) :: shape, es =>
    (match es.getText? key with
      | none => if schema.isOptional then [] else [⟨"Missing required property", [.text key]⟩]
      | some v => (issues schema v).map (Issue.below [.text key])) ++ issuesShape shape es

def issuesEach : List Schema → Value → List (List Issue)
  | [], _ => []
  | schema :: rest, v => issues schema v :: issuesEach rest v

end

/-! ## The computed output is the relation's -/

theorem mapM_eq_some_iff {α β : Type} {f : α → Option β} : ∀ {xs : List α} {ys : List β},
    xs.mapM f = some ys ↔ List.Forall₂ (fun x y => f x = some y) xs ys
  | [], ys => by
    simp [eq_comm]
  | x :: xs, ys => by
    simp only [List.mapM_cons, Option.bind_eq_bind, Option.bind_eq_some_iff, Option.pure_def,
      Option.some.injEq, mapM_eq_some_iff, List.forall₂_cons_left_iff]
    constructor
    · intro h
      obtain ⟨y, hy, ys, hys, rfl⟩ := h
      exact ⟨y, ys, hy, hys, rfl⟩
    · intro h
      obtain ⟨y, ys, hy, hys, rfl⟩ := h
      exact ⟨y, hy, ys, hys, rfl⟩

theorem outputShape?_eq_some_iff : ∀ {shape : List (String × Schema)} {es fs : Entries},
    (∀ p ∈ shape, ∀ v w, p.2.output? v = some w ↔ p.2.Conforms v w) →
      (outputShape? shape es = some fs ↔ ConformsShape shape es fs)
  | [], es, fs, _ => by
    simp [outputShape?, ConformsShape, eq_comm]
  | (key, schema) :: shape, es, fs, h => by
    have hs := h (key, schema) List.mem_cons_self
    have ih := @outputShape?_eq_some_iff shape es
    have hrest := fun fs => @ih fs fun p hp => h p (List.mem_cons_of_mem _ hp)
    simp only [outputShape?, ConformsShape]
    cases es.getText? key with
    | none =>
      by_cases ho : schema.isOptional <;> simp [ho, hrest]
    | some v =>
      simp only [Option.bind_eq_some_iff, Option.map_eq_some_iff, hs, hrest]
      constructor
      · intro h
        obtain ⟨w, hw, rest, hrest, rfl⟩ := h
        exact ⟨w, rest, hw, hrest, rfl⟩
      · intro h
        obtain ⟨w, rest, hw, hrest, rfl⟩ := h
        exact ⟨w, hw, rest, hrest, rfl⟩

theorem outputFirst?_eq_some_iff : ∀ {alternatives : List Schema} {v w : Value},
    (∀ s ∈ alternatives, ∀ v w, s.output? v = some w ↔ s.Conforms v w) →
      (outputFirst? alternatives v = some w ↔ ConformsFirst alternatives v w)
  | [], v, w, _ => by
    simp [outputFirst?, ConformsFirst]
  | schema :: rest, v, w, h => by
    have hs := h schema List.mem_cons_self v
    have ih := @outputFirst?_eq_some_iff rest v w fun s hs => h s (List.mem_cons_of_mem _ hs)
    simp only [outputFirst?, ConformsFirst, Option.or_eq_some_iff, ih, ← hs,
      Option.eq_none_iff_forall_ne_some, not_exists, ne_eq]

theorem output?_eq_some_iff {schema : Schema} : ∀ {v w : Value},
    schema.output? v = some w ↔ schema.Conforms v w := by
  induction schema with
  | text =>
    intro v w
    simp [output?, Conforms, @eq_comm _ w]
  | truth =>
    intro v w
    cases v <;> simp [output?, Conforms, @eq_comm _ w]
  | anything =>
    intro v w
    simp [output?, Conforms, @eq_comm _ w]
  | literal expected =>
    intro v w
    simp [output?, Conforms, @eq_comm _ w, and_assoc]
  | array item ih =>
    intro v w
    simp only [output?, Conforms, Option.bind_eq_some_iff, Option.map_eq_some_iff,
      mapM_eq_some_iff, ih]
    constructor
    · intro h
      obtain ⟨xs, hxs, ys, hys, rfl⟩ := h
      exact ⟨xs, ys, hxs, hys, rfl⟩
    · intro h
      obtain ⟨xs, ys, hxs, hys, rfl⟩ := h
      exact ⟨xs, hxs, ys, hys, rfl⟩
  | record key value hkey hvalue =>
    intro v w
    -- an entry conforms when its key and its value do
    have pair : ∀ (e f : Value × Value), outputPair? key.output? value.output? e = some f ↔
        key.Conforms e.1 f.1 ∧ value.Conforms e.2 f.2 := by
      intro e f
      obtain ⟨k, w⟩ := f
      simp [outputPair?, Option.bind_eq_some_iff, Option.map_eq_some_iff, ← hkey, ← hvalue]
    simp only [output?, Conforms, Option.bind_eq_some_iff, Option.map_eq_some_iff,
      mapM_eq_some_iff, pair]
    constructor
    · intro h
      obtain ⟨es, hes, fs, hfs, rfl⟩ := h
      exact ⟨es, fs, hes, hfs, rfl⟩
    · intro h
      obtain ⟨es, fs, hes, hfs, rfl⟩ := h
      exact ⟨es, hes, fs, hfs, rfl⟩
  | object shape ih =>
    intro v w
    have hshape := fun es fs => @outputShape?_eq_some_iff shape es fs fun p hp _ _ => ih p hp
    simp only [output?, Conforms, Option.bind_eq_some_iff, Option.map_eq_some_iff, hshape]
    constructor
    · intro h
      obtain ⟨es, hes, fs, hfs, rfl⟩ := h
      exact ⟨es, fs, hes, hfs, rfl⟩
    · intro h
      obtain ⟨es, fs, hes, hfs, rfl⟩ := h
      exact ⟨es, hes, fs, hfs, rfl⟩
  | union alternatives ih =>
    intro v w
    exact outputFirst?_eq_some_iff fun s hs _ _ => ih s hs
  | optional inner ih =>
    intro v w
    cases v <;> simp [output?, Conforms, ih, @eq_comm _ w]
  | refined inner refinements ih =>
    intro v w
    simp [output?, Conforms, Option.filter_eq_some_iff, ih]
  | undefined => simp [output?, Conforms]

end Schema

end Scaffold
