import Scaffold.Manifest.Overrides
import Scaffold.Proofs.Value.Writable
import Scaffold.Proofs.Manifest.Keys

/-!
# Manifests that differ in relations and settings only

Two manifests are alike when they name the same application and the same
entities, with the same tables and the same scalar fields in the same order;
relation fields may stand anywhere between these, and the free-form settings
may be any. Keys, columns and writable fields of alike entities are the same.
-/

namespace Scaffold

structure Entity.Alike (e e' : Entity) : Prop where
  name : e.name = e'.name
  table : e.table.toOption = e'.table.toOption
  scalarFields : e.scalarFields = e'.scalarFields

structure Manifest.Alike (m m' : Manifest) : Prop where
  id : m.id = m'.id
  name : m.name = m'.name
  version : m.version = m'.version
  entities : List.Forall₂ Entity.Alike m.entities m'.entities

namespace Entity

theorem tableName_eq (e : Entity) : e.tableName =
    match e.table.toOption with
    | some t => if t.isEmpty then Text.lower e.name else t
    | none => Text.lower e.name := by
  unfold tableName
  cases e.table <;> rfl

namespace Alike

variable {e e' : Entity}

theorem refl (e : Entity) : e.Alike e := ⟨rfl, rfl, rfl⟩

theorem tableName (h : e.Alike e') : e.tableName = e'.tableName := by
  rw [tableName_eq, tableName_eq, h.table, h.name]

theorem pageName (h : e.Alike e') : e.pageName = e'.pageName := by
  rw [Entity.pageName, h.name, Entity.pageName]

theorem routeSegment (h : e.Alike e') : e.routeSegment = e'.routeSegment := by
  rw [Entity.routeSegment, h.pageName, Entity.routeSegment]

theorem primaryKey (h : e.Alike e') : e.primaryKey = e'.primaryKey := by
  rw [primaryKey_eq, primaryKey_eq, h.scalarFields]

theorem keyField? (h : e.Alike e') : e.keyField? = e'.keyField? := by
  rw [Entity.keyField?, h.scalarFields, Entity.keyField?]

theorem isPrimaryKey (h : e.Alike e') : e.isPrimaryKey = e'.isPrimaryKey := by
  funext f
  rw [Entity.isPrimaryKey, h.keyField?, Entity.isPrimaryKey]

theorem needsSyntheticKey (h : e.Alike e') : e.needsSyntheticKey = e'.needsSyntheticKey := by
  rw [Entity.needsSyntheticKey, h.keyField?, Entity.needsSyntheticKey]

theorem serverAssignsKey (h : e.Alike e') : e.serverAssignsKey = e'.serverAssignsKey := by
  rw [Entity.serverAssignsKey, h.keyField?, Entity.serverAssignsKey]

theorem addedTimestamps (h : e.Alike e') : e.addedTimestamps = e'.addedTimestamps := by
  rw [Entity.addedTimestamps, h.scalarFields, Entity.addedTimestamps]

theorem writableFields (h : e.Alike e') : e.writableFields = e'.writableFields := by
  rw [Entity.writableFields, h.serverAssignsKey, h.scalarFields, h.isPrimaryKey, Entity.writableFields]

end Alike

end Entity

namespace Manifest

theorem Alike.sourceBanner {m m' : Manifest} (h : m.Alike m') : m.sourceBanner = m'.sourceBanner := by
  unfold Manifest.sourceBanner
  rw [h.id, h.name, h.version]

theorem Alike.map_entities {α : Type} {m m' : Manifest} (h : m.Alike m') {make : Entity → α}
    (hmake : ∀ {e e' : Entity}, e.Alike e' → make e = make e') :
    m.entities.map make = m'.entities.map make := by
  have hall := h.entities
  generalize m.entities = es, m'.entities = es' at hall ⊢
  induction hall with
  | nil => rfl
  | cons he _ ih => rw [List.map_cons, List.map_cons, hmake he, ih]

theorem Alike.mapM_entities {ε α : Type} {m m' : Manifest} (h : m.Alike m') {make : Entity → Except ε α}
    (hmake : ∀ {e e' : Entity}, e.Alike e' → make e = make e') :
    m.entities.mapM make = m'.entities.mapM make := by
  have heq := congrArg (List.mapM fun r => r) (h.map_entities hmake)
  simpa only [List.mapM_map, Function.comp_def] using heq

theorem Alike.flatMap_entities {α : Type} {m m' : Manifest} (h : m.Alike m') {make : Entity → List α}
    (hmake : ∀ {e e' : Entity}, e.Alike e' → make e = make e') :
    m.entities.flatMap make = m'.entities.flatMap make := by
  rw [List.flatMap_def, List.flatMap_def, h.map_entities hmake]

/-- Overrides are written into the settings. -/
theorem alike_of_merge {m merged : Manifest} {overrides : Value} (h : m.merge overrides = .ok merged) :
    m.Alike merged := by
  have entities : List.Forall₂ Entity.Alike m.entities m.entities :=
    List.forall₂_same.mpr fun e _ => .refl e
  unfold merge at h
  split at h
  · cases h
    exact ⟨rfl, rfl, rfl, entities⟩
  · cases overrides with
    | map os =>
      cases hput : (m.generators.toOption.getD []).putOverrides os with
      | error fault => simp [hput, Except.map] at h
      | ok es =>
        simp only [hput, Except.map, Except.ok.injEq] at h
        subst h
        exact ⟨rfl, rfl, rfl, entities⟩
    | _ => cases h

end Manifest

end Scaffold
