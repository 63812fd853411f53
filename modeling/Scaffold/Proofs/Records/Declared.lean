import Scaffold.Proofs.Value.Writable
import Scaffold.Records.Mapped
import Scaffold.Sql.Migration

/-!
# Columns of declared fields

All that can fail about the column of a field, in a migration and in a mapped
class, is the literal of its default. It is taken apart here from the rest
(`Sql.Column.ofField_eq`, `Mapped.Attribute.ofField_eq`).
-/

namespace Scaffold

namespace Sql

def defaultConstraints (f : ScalarField) : Except JsonFault (List Constraint) :=
  match f.default with
  | some v => (literal v).map fun d => [.default d]
  | none => .ok []

theorem Column.ofField_eq (e : Entity) (f : ScalarField) : Column.ofField e f =
    if e.isPrimaryKey f then .ok ⟨f.name, .ofKind f.kind, [.primaryKey]⟩
    else (defaultConstraints f).map fun defaults =>
      ⟨f.name, .ofKind f.kind, (if f.isRequired && !f.isNullable then [.notNull] else []) ++
        (if f.isUnique then [.unique] else []) ++ defaults⟩ := by
  unfold ofField defaultConstraints
  by_cases hkey : e.isPrimaryKey f
  · rw [if_pos hkey, if_pos hkey]; rfl
  rw [if_neg hkey, if_neg hkey]
  cases f.default with
  | none => rfl
  | some v => simp only; cases literal v <;> rfl

theorem notMem_defaultConstraints {f : ScalarField} {defaults : List Constraint}
    (h : defaultConstraints f = .ok defaults) {c : Constraint} (hc : ∀ d, c ≠ .default d) :
    c ∉ defaults := by
  unfold defaultConstraints at h
  split at h
  · obtain ⟨d, -, rfl⟩ := map_eq_ok.mp h
    simpa using hc d
  · cases h
    simp

end Sql

namespace Mapped

def serverDefaults (f : ScalarField) : Except JsonFault (List Option) :=
  match f.default with
  | some v =>
    if hasServerDefault f.kind then
      (Sql.literal v).map fun d => [.serverDefault (Text.literal d)]
    else .ok []
  | none => .ok []

theorem Attribute.ofField_eq (e : Entity) (f : ScalarField) : Attribute.ofField e f =
    if e.isPrimaryKey f then
      .ok ⟨f.name, valueType f.kind, false, Text.literal f.name, storedType f.kind, [.primaryKey]⟩
    else (serverDefaults f).map fun defaults =>
      ⟨f.name, valueType f.kind, !f.isRequired || f.isNullable, Text.literal f.name, storedType f.kind,
        [.nullable (!f.isRequired || f.isNullable)] ++ (if f.isUnique then [.unique] else []) ++
          defaults⟩ := by
  unfold ofField serverDefaults
  by_cases hkey : e.isPrimaryKey f
  · rw [if_pos hkey, if_pos hkey]; rfl
  rw [if_neg hkey, if_neg hkey]
  cases f.default with
  | none => rfl
  | some v =>
    by_cases hserver : hasServerDefault f.kind
    · simp only [if_pos hserver]; cases Sql.literal v <;> rfl
    · simp only [if_neg hserver]; rfl

theorem eq_serverDefault_of_mem {f : ScalarField} {defaults : List Option}
    (h : serverDefaults f = .ok defaults) {o : Option} (ho : o ∈ defaults) :
    ∃ d, o = .serverDefault (Text.literal d) ∧ Sql.defaultConstraints f = .ok [.default d] := by
  unfold serverDefaults at h
  unfold Sql.defaultConstraints
  split at h
  · split at h
    · obtain ⟨d, hd, rfl⟩ := map_eq_ok.mp h
      exact ⟨d, List.mem_singleton.mp ho, by simp only [hd]; rfl⟩
    · cases h
      cases ho
  · cases h
    cases ho

theorem notMem_serverDefaults {f : ScalarField} {defaults : List Option}
    (h : serverDefaults f = .ok defaults) {o : Option} (ho : ∀ l, o ≠ .serverDefault l) :
    o ∉ defaults := by
  intro hmem
  obtain ⟨d, rfl, -⟩ := eq_serverDefault_of_mem h hmem
  exact ho _ rfl

end Mapped

end Scaffold
