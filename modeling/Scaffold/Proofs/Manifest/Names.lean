import Mathlib.Data.List.Nodup
import Scaffold.Manifest.Names

/-!
# Names that fit together

The search for a first fault finds none exactly when entity names are
distinct, field names are distinct within each entity, and every relation
names an entity, before or behind its own.
-/

namespace Scaffold.Manifest

/-- Names that are distinct where they have to be, and targets that exist. -/
structure NamesFit (m : Manifest) : Prop where
  entities : (m.entities.map (·.name)).Nodup
  fields : ∀ e ∈ m.entities, (e.fields.map (·.name)).Nodup
  targets : ∀ e ∈ m.entities, ∀ f ∈ e.fields, ∀ r, f.relation? = some r →
    r.relation.entity ∈ m.entities.map (·.name)

/-- To be new behind one name more is to be new and unlike that name. -/
theorem new_append_iff {α : Type} {name : α → String} {xs : List α} {before : List String}
    {n : String} : (∀ x ∈ xs, name x ∉ before ++ [n]) ↔
      (∀ x ∈ xs, name x ∉ before) ∧ n ∉ xs.map name := by
  simp only [List.mem_append, List.mem_singleton, not_or, List.mem_map, not_exists, not_and]
  exact ⟨fun h => ⟨fun x hx => (h x hx).1, fun x hx => (h x hx).2⟩,
    fun h x hx => ⟨h.1 x hx, h.2 x hx⟩⟩

theorem idxOf?_cases (n : String) (before : List String) :
    (before.idxOf? n = none ∧ n ∉ before) ∨ ∃ i, before.idxOf? n = some i ∧ n ∈ before := by
  cases h : before.idxOf? n with
  | none => exact Or.inl ⟨rfl, List.idxOf?_eq_none_iff.mp h⟩
  | some i =>
    refine Or.inr ⟨i, rfl, ?_⟩
    by_contra hout
    rw [List.idxOf?_eq_none_iff.mpr hout] at h
    cases h

theorem fieldFault_eq_none_iff {known : List String} {entity : Nat} :
    ∀ {fields : List Field} {before : List String},
      fieldFault known entity before fields = none ↔
        (∀ f ∈ fields, f.name ∉ before) ∧ (fields.map (·.name)).Nodup ∧
          ∀ f ∈ fields, ∀ r, f.relation? = some r → r.relation.entity ∈ known
  | [], before => by
    simp [fieldFault]
  | f :: fields, before => by
    have ih := @fieldFault_eq_none_iff known entity fields (before ++ [f.name])
    unfold fieldFault
    rcases idxOf?_cases f.name before with ⟨hidx, hout⟩ | ⟨i, hidx, hin⟩
    · have hrest : fieldFault known entity (before ++ [f.name]) fields = none ↔
          (∀ g ∈ f :: fields, g.name ∉ before) ∧ ((f :: fields).map (·.name)).Nodup ∧
            ∀ g ∈ fields, ∀ r, g.relation? = some r → r.relation.entity ∈ known := by
        rw [ih, new_append_iff, List.map_cons, List.nodup_cons, List.forall_mem_cons]
        tauto
      cases hr : f.relation? with
      | none => simp [hidx, hrest, hr]
      | some r =>
        by_cases hk : r.relation.entity ∈ known
        · simp [hidx, hrest, hr, hk]
        · simp [hidx, hr, hk]
    · simp [hidx, hin]

theorem entityFault_eq_none_iff {known : List String} :
    ∀ {entities : List Entity} {before : List String},
      entityFault known before entities = none ↔
        (∀ e ∈ entities, e.name ∉ before) ∧ (entities.map (·.name)).Nodup ∧
          ∀ e ∈ entities, (e.fields.map (·.name)).Nodup ∧
            ∀ f ∈ e.fields, ∀ r, f.relation? = some r → r.relation.entity ∈ known
  | [], before => by
    simp [entityFault]
  | e :: entities, before => by
    have ih := @entityFault_eq_none_iff known entities (before ++ [e.name])
    unfold entityFault
    rcases idxOf?_cases e.name before with ⟨hidx, hout⟩ | ⟨i, hidx, hin⟩
    · have hfields := @fieldFault_eq_none_iff known before.length e.fields []
      cases hf : fieldFault known before.length [] e.fields with
      | some fault =>
        rw [hf] at hfields
        have hbad : ¬ ((e.fields.map (·.name)).Nodup ∧
            ∀ f ∈ e.fields, ∀ r, f.relation? = some r → r.relation.entity ∈ known) :=
          fun h => by simpa using hfields.mpr ⟨by simp, h⟩
        simp only [hidx, reduceCtorEq, false_iff, List.forall_mem_cons]
        exact fun h => hbad h.2.2.1
      | none =>
        obtain ⟨-, hgood⟩ := hfields.mp hf
        simp only [hidx]
        rw [ih, new_append_iff, List.map_cons, List.nodup_cons, List.forall_mem_cons,
          List.forall_mem_cons]
        tauto
    · simp [hidx, hin]

theorem nameFault?_eq_none_iff {m : Manifest} : m.nameFault? = none ↔ m.NamesFit := by
  unfold nameFault?
  rw [entityFault_eq_none_iff]
  constructor
  · intro h
    obtain ⟨-, hn, he⟩ := h
    exact ⟨hn, fun e h => (he e h).1, fun e h => (he e h).2⟩
  · intro h
    obtain ⟨hn, hf, ht⟩ := h
    exact ⟨by simp, hn, fun e h => ⟨hf e h, ht e h⟩⟩

end Scaffold.Manifest
