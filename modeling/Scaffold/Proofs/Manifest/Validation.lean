import Scaffold.Manifest.Validation
import Scaffold.Proofs.Manifest.Kept
import Scaffold.Proofs.Manifest.Typed
import Scaffold.Proofs.Schema.Totality

/-!
# Validation accepts the well-formed values

The walk of the manifest schema comes to an end on every value, so validation
is the computed output of the schema, read as a manifest whose names fit
(`Manifest.validate_eq_ok_iff`). Without the mark of a missing value, what is
not a well-formed manifest is reported as such and never as anything else.
-/

namespace Scaffold

namespace Schema

/-! ## The walk of the manifest schema -/

theorem total_nonEmptyText : Total nonEmptyText.walk := by
  refine total_minLength total_text (fun {v w} h => ?_) 1 _
  cases v <;> cases h
  rfl

theorem total_literals {α : Type} (name : α → String) (as : List α) :
    Total (union (as.map fun a => literal (.text (name a)))).walk := by
  refine total_union fun s hs => ?_
  obtain ⟨a, -, rfl⟩ := List.mem_map.mp hs
  exact total_literal rfl

theorem total_textMap : Total (record text anything).walk := by
  refine total_record total_text total_anything fun {v w} h => ?_
  cases v <;> cases h
  rfl

theorem total_nonEmptyArray {item : Schema} (hi : Total item.walk) (message : String) :
    Total (refined (array item) [.minLength 1 message]).walk := by
  refine total_minLength (total_array hi) (fun {v w} h => ?_) 1 message
  simp only [output?, Option.bind_eq_some_iff, Option.map_eq_some_iff] at h
  obtain ⟨xs, -, ys, -, rfl⟩ := h
  rfl

theorem total_relation : Total relation.walk := by
  refine total_object ?_
  simp only [List.forall_mem_cons]
  exact ⟨total_nonEmptyText, total_optional total_nonEmptyText, total_literals _ _, List.forall_mem_nil _⟩

theorem total_fieldAttributes : ∀ p ∈ fieldAttributes, Total p.2.walk := by
  simp only [fieldAttributes, List.forall_mem_cons]
  exact ⟨total_optional total_nonEmptyText, total_optional total_truth, total_optional total_truth,
    total_optional total_truth, total_optional total_anything, List.forall_mem_nil _⟩

theorem total_relationField : Total relationField.walk := by
  refine total_object ?_
  simp only [List.cons_append, List.nil_append, List.forall_mem_cons]
  exact ⟨total_nonEmptyText, total_literal rfl, total_relation, total_fieldAttributes⟩

theorem total_scalarField : Total scalarField.walk := by
  refine total_object ?_
  simp only [List.cons_append, List.nil_append, List.forall_mem_cons]
  exact ⟨total_nonEmptyText, total_literals _ _, total_fieldAttributes⟩

theorem total_field : Total field.walk := by
  refine total_union ?_
  simp only [List.forall_mem_cons]
  exact ⟨total_relationField, total_scalarField, List.forall_mem_nil _⟩

theorem total_entity : Total entity.walk := by
  refine total_object ?_
  simp only [List.forall_mem_cons]
  exact ⟨total_nonEmptyText, total_optional total_nonEmptyText, total_nonEmptyArray total_field _,
    List.forall_mem_nil _⟩

theorem total_manifest : Total manifest.walk := by
  refine total_object ?_
  simp only [List.forall_mem_cons]
  exact ⟨total_nonEmptyText, total_nonEmptyText, total_nonEmptyText, total_optional total_textMap,
    total_nonEmptyArray total_entity _, total_optional total_textMap, List.forall_mem_nil _⟩

end Schema

namespace Manifest

/-! ## Validation -/

theorem validate_of_rejected {raw : Value} (h : Schema.manifest.output? raw = none) :
    validate raw = .error (.invalid (.schema (Schema.manifest.issues raw))) := by
  rw [validate, Schema.check_eq Schema.total_manifest, h]

section
variable {raw taken : Value} {m : Manifest} (h : Schema.manifest.output? raw = some taken)
include h

theorem validate_of_unread {issues : List TypeIssue} (hread : Manifest.ofValue taken = .error issues) :
    validate raw = .error (.types issues) := by
  simp only [validate, Schema.check_eq Schema.total_manifest, h, hread]

theorem validate_of_misnamed {fault : NameFault} (hread : Manifest.ofValue taken = .ok m)
    (hfault : m.nameFault? = some fault) : validate raw = .error (.invalid (.names fault)) := by
  simp only [validate, Schema.check_eq Schema.total_manifest, h, hread, hfault]

theorem validate_of_named (hread : Manifest.ofValue taken = .ok m) (hnone : m.nameFault? = none) :
    validate raw = .ok m := by
  simp only [validate, Schema.check_eq Schema.total_manifest, h, hread, hnone]

end

/-- Validation returns a manifest exactly when the value gives it and its names fit. -/
theorem validate_eq_ok_iff {raw : Value} {m : Manifest} :
    validate raw = .ok m ↔ Manifest.GivenBy raw m ∧ m.NamesFit := by
  rw [← nameFault?_eq_none_iff]
  constructor
  · intro hm
    cases h : Schema.manifest.output? raw with
    | none =>
      rw [validate_of_rejected h] at hm
      cases hm
    | some taken =>
      cases hread : Manifest.ofValue taken with
      | error issues =>
        rw [validate_of_unread h hread] at hm
        cases hm
      | ok m' =>
        cases hfault : m'.nameFault? with
        | none =>
          rw [validate_of_named h hread hfault] at hm
          cases hm
          exact ⟨(Reads.manifest.reads h).mp hread, hfault⟩
        | some fault =>
          rw [validate_of_misnamed h hread hfault] at hm
          cases hm
  · intro hm
    obtain ⟨taken, h⟩ := Option.isSome_iff_exists.mp (Reads.manifest.accepted hm.1)
    exact validate_of_named h ((Reads.manifest.reads h).mpr hm.1) hm.2

theorem validate_cases {raw : Value} (hp : raw.isPresent) :
    (∃ m, validate raw = .ok m) ∨ ∃ e, e.issues ≠ [] ∧ validate raw = .error (.invalid e) := by
  cases h : Schema.manifest.output? raw with
  | none =>
    refine Or.inr ⟨_, ?_, validate_of_rejected h⟩
    obtain ⟨r, c, hw⟩ := Schema.total_manifest raw .empty
    obtain ⟨-, -, hsilent⟩ := Schema.walk_agrees Schema.manifest hw
    rw [h] at hsilent
    exact List.isEmpty_eq_false_iff.mp hsilent.symm
  | some taken =>
    obtain ⟨m, hm⟩ := Reads.manifest.given hp (Option.isSome_of_eq_some h)
    have hread := (Reads.manifest.reads h).mpr hm
    cases hfault : m.nameFault? with
    | none => exact Or.inl ⟨m, validate_of_named h hread hfault⟩
    | some fault =>
      exact Or.inr ⟨.names fault, List.cons_ne_nil _ _, validate_of_misnamed h hread hfault⟩

/-- **Acceptance.** Validation returns a manifest exactly for the well-formed values; the manifest
is written as what is kept of the value, and any other value is reported as invalid. -/
theorem validate_accepts_wellFormed {raw : Value} (hp : raw.isPresent) :
    ((∃ m, validate raw = .ok m) ↔ Manifest.WellFormed raw) ∧
      (∀ m, validate raw = .ok m → m.toValue = Manifest.kept raw) ∧
      (¬ Manifest.WellFormed raw → ∃ e, e.issues ≠ [] ∧ validate raw = .error (.invalid e)) := by
  have accepted : (∃ m, validate raw = .ok m) ↔ Manifest.WellFormed raw := by
    rw [wellFormed_iff]
    exact exists_congr fun m => validate_eq_ok_iff
  refine ⟨accepted, fun m hm => ?_, fun hraw => ?_⟩
  · exact (validate_eq_ok_iff.mp hm).1.kept_eq.symm
  · rcases validate_cases hp with hm | he
    · exact absurd (accepted.mp hm) hraw
    · exact he

/-- A relation among two entities; the note is not kept. -/
theorem validate_accepts_library :
    let book : Value := .ofFields [("name", .text "Book"), ("fields", .tuple [
      .ofFields [("name", .text "title"), ("kind", .text "string"), ("required", .bool true)],
      .ofFields [("name", .text "author"), ("kind", .text "relation"), ("note", .int 3),
        ("relation", .ofFields [("entity", .text "Author"), ("type", .text "one")])]])]
    let author : Value := .ofFields [("name", .text "Author"), ("fields", .list [
      .ofFields [("name", .text "name"), ("kind", .text "string"), ("default", .null)]])]
    let raw : Value := .ofFields [("id", .text "library"), ("name", .text "Library"),
      ("version", .text "1"), ("entities", .list [book, author])]
    Manifest.WellFormed raw ∧ ∃ m, validate raw = .ok m ∧ m.toValue = Manifest.kept raw := by
  intro book author raw
  obtain ⟨m, hm⟩ : ∃ m, validate raw = .ok m := ⟨_, rfl⟩
  have h := @validate_accepts_wellFormed raw rfl
  exact ⟨h.1.mp ⟨m, hm⟩, m, hm, h.2.1 m hm⟩

end Manifest

end Scaffold
