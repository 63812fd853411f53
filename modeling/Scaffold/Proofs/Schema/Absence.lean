import Scaffold.Proofs.Value.Entries
import Scaffold.Schema.Walk

/-!
# Values that are not there

A schema for what may be absent lets the missing value through, and then its
refinements are applied to it. The missing value has no length, so the first of
them ends the walk (`Schema.walk_missing`); without refinements the missing
value is accepted (`Schema.missing_accepted_iff`).
-/

namespace Scaffold

/-- What comes of a refinement of the missing value. -/
def Refinement.missingFault : Refinement → SchemaFault
  | .minLength _ _ => .noLength Value.missing.typeName
  | .undefined => .undefined

namespace Schema

def refinements : Schema → List Refinement
  | .refined inner rs => inner.refinements ++ rs
  | _ => []

/-! ## The missing value -/

theorem refine_append (rs rs' : List Refinement) (v : Value) (c : Context) :
    refine (rs ++ rs') v c = andThen (refine rs v c) fun r c =>
      match r with
      | some w => refine rs' w c
      | none => (.ok none, c) := by
  induction rs with
  | nil => rfl
  | cons r rs ih =>
    cases r with
    | undefined => rfl
    | minLength minimum message =>
      simp only [List.cons_append, refine]
      cases v.length? with
      | none => rfl
      | some n =>
        by_cases hshort : (n : Int) < minimum
        · simp only [hshort, if_true]
          rfl
        · simp only [hshort, if_false, ih]

theorem refine_missing (rs : List Refinement) (c : Context) : refine rs .missing c =
    match rs.head? with
    | none => accept .missing c
    | some r => (.error r.missingFault, c) := by
  cases rs with
  | nil => rfl
  | cons r rs => cases r <;> rfl

theorem walk_missing : ∀ {s : Schema}, s.isOptional → ∀ c, s.walk .missing c = refine s.refinements .missing c
  | .optional _, _, _ => rfl
  | .refined inner rs, h, c => by
    have ih : inner.walk .missing c = refine inner.refinements .missing c := walk_missing (s := inner) h c
    rw [refinements, refine_append, ← ih]
    rfl

variable {s : Schema}

theorem walk_missing_of_plain (h : s.isOptional) (hplain : s.refinements = []) (c : Context) :
    s.walk .missing c = accept .missing c := by
  rw [walk_missing h, hplain]
  rfl

theorem walk_missing_of_refined (h : s.isOptional) (hrefined : s.refinements ≠ []) :
    ∃ fault, ∀ c, s.walk .missing c = (.error fault, c) := by
  obtain ⟨r, rs, hcons⟩ := List.exists_cons_of_ne_nil hrefined
  refine ⟨r.missingFault, fun c => ?_⟩
  rw [walk_missing h, hcons, refine_missing]
  rfl

/-! ## Properties of objects -/

theorem andThen_ok {α β : Type} (a : α) (c : Context) (f : α → Context → Walked β) :
    andThen (.ok a, c) f = f a c := rfl

theorem andThen_assoc {α β γ : Type} (w : Walked α) (f : α → Context → Walked β) (g : β → Context → Walked γ) :
    andThen (andThen w f) g = andThen w fun a c => andThen (f a c) g := by
  obtain ⟨e | a, c⟩ := w <;> rfl

theorem walkShape_append (shape shape' : List (String × Schema)) (es : Entries) (c : Context) :
    walkShape (shape ++ shape') es c = andThen (walkShape shape es c) fun out c =>
      andThen (walkShape shape' es c) fun out' c => (.ok (out ++ out'), c) := by
  induction shape generalizing c with
  | nil =>
    change _ = andThen (walkShape shape' es c) fun out' c => (.ok out', c)
    generalize hwalk : walkShape shape' es c = w
    obtain ⟨e | out, c'⟩ := w
    · exact hwalk
    · exact hwalk
  | cons p shape ih =>
    obtain ⟨key, schema⟩ := p
    rw [List.cons_append, walkShape, walkShape]
    cases es.getText? key with
    | none => exact ih _
    | some v =>
      simp only [ih, andThen_assoc, andThen_ok, List.append_assoc]

variable {key : String} {es : Entries} {before after : List (String × Schema)}

theorem check_object_congr {rest rest' : List (String × Schema)}
    (h : ∀ c, walkShape rest es c = walkShape rest' es c) :
    (object (before ++ rest)).check (.map es) = (object (before ++ rest')).check (.map es) := by
  have hshape (c : Context) : walkShape (before ++ rest) es c = walkShape (before ++ rest') es c := by
    simp only [walkShape_append, h]
  simp only [check, walk, Value.entries?, hshape]

theorem check_object_absent (h : s.isOptional) (hkey : es.getText? key = none) :
    (object (before ++ (key, s) :: after)).check (.map es) = (object (before ++ after)).check (.map es) := by
  refine check_object_congr fun c => ?_
  simp only [walkShape, hkey, h, if_true]

theorem check_object_missing (h : s.isOptional) (hplain : s.refinements = []) (hkey : es.getText? key = some .missing) :
    (object (before ++ (key, s) :: after)).check (.map es) =
      (object (before ++ (key, anything) :: after)).check (.map es) := by
  refine check_object_congr fun c => ?_
  simp only [walkShape, hkey, walk_missing_of_plain h hplain]
  rfl

theorem check_object_refined (h : s.isOptional) (hrefined : s.refinements ≠ [])
    (hkey : es.getText? key = some .missing) :
    ∃ fault, (object (before ++ (key, s) :: after)).check (.map es) = .error fault := by
  obtain ⟨fault, hfault⟩ := walk_missing_of_refined h hrefined
  have hproperty (c : Context) : walkShape ((key, s) :: after) es c = (.error fault, c.push (.text key)) := by
    simp only [walkShape, hkey, hfault]
    rfl
  simp only [check, walk, Value.entries?, walkShape_append, hproperty]
  obtain ⟨e | out, c⟩ := walkShape before es .empty
  · exact ⟨e, rfl⟩
  · exact ⟨fault, rfl⟩

/-- A schema for what may be absent accepts the missing value if it has no refinements, and otherwise
ends in a fault. So an object can do without the property in every mapping; where the mapping holds
the missing value, it is accepted like anything, or the walk of the object ends in a fault. -/
theorem missing_accepted_iff (h : s.isOptional) :
    (s.check .missing = .ok (.ok .missing) ↔ s.refinements = []) ∧
    (s.refinements ≠ [] → ∃ fault, s.check .missing = .error fault) ∧
    ∀ (before after : List (String × Schema)) (key : String) (es : Entries),
      (es.getText? key = none →
        (object (before ++ (key, s) :: after)).check (.map es) = (object (before ++ after)).check (.map es)) ∧
      (es.getText? key = some .missing →
        (s.refinements = [] → (object (before ++ (key, s) :: after)).check (.map es) =
          (object (before ++ (key, anything) :: after)).check (.map es)) ∧
        (s.refinements ≠ [] →
          ∃ fault, (object (before ++ (key, s) :: after)).check (.map es) = .error fault)) := by
  have hfault (hrefined : s.refinements ≠ []) : ∃ fault, s.check .missing = .error fault := by
    obtain ⟨fault, hwalk⟩ := walk_missing_of_refined h hrefined
    exact ⟨fault, by rw [check, hwalk]⟩
  refine ⟨⟨fun haccepts => ?_, fun hplain => ?_⟩, hfault, fun before after key es => ⟨fun hkey => ?_, fun hkey => ?_⟩⟩
  · by_cases hrefined : s.refinements = []
    · exact hrefined
    obtain ⟨fault, hcheck⟩ := hfault hrefined
    rw [hcheck] at haccepts
    cases haccepts
  · rw [check, walk_missing_of_plain h hplain]
    rfl
  · exact check_object_absent h hkey
  · exact ⟨fun hplain => check_object_missing h hplain hkey, fun hrefined => check_object_refined h hrefined hkey⟩

/-- A text that may be absent, with one refinement behind a second mark of absence. -/
theorem missing_accepted_iff_nested :
    let plain := optional (refined (optional text) [.minItems 1])
    let refinedTwice := refined (optional (refined text [.minItems 1])) [.minItems 2]
    (plain.isOptional ∧ refinedTwice.isOptional) ∧
    plain.check .missing = .ok (.ok .missing) ∧
    (∃ fault, refinedTwice.check .missing = .error fault) ∧
    (object [("a", plain)]).check (.map []) = (object []).check (.map []) := by
  intro plain refinedTwice
  obtain ⟨haccepted, -, hobjects⟩ := missing_accepted_iff (s := plain) rfl
  obtain ⟨-, hfault, -⟩ := missing_accepted_iff (s := refinedTwice) rfl
  exact ⟨⟨rfl, rfl⟩, haccepted.mpr rfl, hfault (List.cons_ne_nil _ _), (hobjects [] [] "a" []).1 rfl⟩

/-- A refined text that may be absent: the missing value, in hand or in an object, ends the walk. -/
theorem missing_has_no_length :
    let name := refined (optional text) [.minItems 1]
    name.isOptional ∧
    name.check .missing = .error (.noLength "_Missing") ∧
    (object [("name", name)]).check (.map [(.text "name", .missing)]) = .error (.noLength "_Missing") ∧
    (object [("name", name)]).check (.map []) = .ok (.ok (.map [])) :=
  ⟨rfl, rfl, rfl, rfl⟩

end Schema

end Scaffold
