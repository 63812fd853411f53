import Scaffold.Proofs.Schema.Meaning
import Scaffold.Proofs.Value.Entries

/-!
# The outputs of object schemas

What an object schema takes over holds, under each declared key, what that
key's schema takes over from the value under it, and nothing else.
-/

namespace Scaffold.Schema

theorem getText?_outputShape : ∀ {shape : List (String × Schema)} {es fs : Entries},
    outputShape? shape es = some fs → ∀ key, fs.getText? key =
      (shape.lookup key).bind fun schema => (es.getText? key).bind schema.output?
  | [], es, fs, h, key => by
    simp only [outputShape?, Option.some.injEq] at h
    simp [← h]
  | (key', schema) :: shape, es, fs, h, key => by
    rw [List.lookup_cons]
    by_cases hk : key = key'
    · subst hk
      simp only [BEq.rfl, Option.bind_some]
      cases hget : es.getText? key with
      | none =>
        simp only [outputShape?, hget] at h
        split at h
        · rw [getText?_outputShape h, hget]
          simp
        · cases h
      | some v =>
        simp only [outputShape?, hget, Option.bind_eq_some_iff, Option.map_eq_some_iff] at h
        obtain ⟨w, hw, rest, -, rfl⟩ := h
        simp [Entries.getText?_cons_text, hw]
    · simp only [beq_false_of_ne hk]
      cases hget : es.getText? key' with
      | none =>
        simp only [outputShape?, hget] at h
        split at h
        · exact getText?_outputShape h key
        · cases h
      | some v =>
        simp only [outputShape?, hget, Option.bind_eq_some_iff, Option.map_eq_some_iff] at h
        obtain ⟨w, -, rest, hrest, rfl⟩ := h
        rw [Entries.getText?_cons_text, if_neg (Ne.symm hk)]
        exact getText?_outputShape hrest key

def admits (schema : Schema) : Option Value → Bool
  | none => schema.isOptional
  | some v => (schema.output? v).isSome

theorem outputShape?_isSome_iff : ∀ {shape : List (String × Schema)} {es : Entries},
    (outputShape? shape es).isSome ↔ ∀ p ∈ shape, p.2.admits (es.getText? p.1)
  | [], es => by
    simp [outputShape?]
  | (key, schema) :: shape, es => by
    rw [List.forall_mem_cons, ← outputShape?_isSome_iff]
    cases hget : es.getText? key with
    | none =>
      by_cases ho : schema.isOptional <;> simp [outputShape?, hget, admits, ho]
    | some v =>
      cases ho : schema.output? v <;> simp [outputShape?, hget, admits, ho]

theorem admits_of_outputShape? {shape : List (String × Schema)} {es fs : Entries} {key : String}
    {schema : Schema} (h : outputShape? shape es = some fs) (hk : shape.lookup key = some schema) :
    schema.admits (es.getText? key) := by
  obtain ⟨before, rest, rfl, -⟩ := List.lookup_eq_some_iff.mp hk
  have hall := outputShape?_isSome_iff.mp (Option.isSome_of_eq_some h)
  exact hall (key, schema) (by simp)

theorem getText?_required {shape : List (String × Schema)} {es fs : Entries} {key : String}
    {schema : Schema} (h : outputShape? shape es = some fs) (hk : shape.lookup key = some schema)
    (ho : schema.isOptional = false) :
    ∃ v w, es.getText? key = some v ∧ schema.output? v = some w ∧ fs.getText? key = some w := by
  have hadmits := admits_of_outputShape? h hk
  have hget := getText?_outputShape h key
  rw [hk, Option.bind_some] at hget
  cases hv : es.getText? key with
  | none =>
    rw [hv, admits, ho] at hadmits
    cases hadmits
  | some v =>
    rw [hv] at hadmits hget
    obtain ⟨w, hw⟩ := Option.isSome_iff_exists.mp hadmits
    exact ⟨v, w, rfl, hw, hget.trans hw⟩

theorem output?_optional {inner : Schema} {v : Value} (h : v ≠ .missing) :
    (optional inner).output? v = inner.output? v := by
  cases v <;> first | rfl | exact absurd rfl h

theorem output?_object_eq_some_iff {shape : List (String × Schema)} {v w : Value} :
    (object shape).output? v = some w ↔
      ∃ es fs, v = .map es ∧ outputShape? shape es = some fs ∧ w = .map fs := by
  rw [output?]
  simp only [Option.bind_eq_some_iff, Option.map_eq_some_iff, Value.entries?_eq_some_iff]
  constructor
  · intro h
    obtain ⟨es, hv, fs, hfs, rfl⟩ := h
    exact ⟨es, fs, hv, hfs, rfl⟩
  · intro h
    obtain ⟨es, fs, hv, hfs, rfl⟩ := h
    exact ⟨es, hv, fs, hfs, rfl⟩

end Scaffold.Schema
