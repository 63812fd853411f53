import Scaffold.Proofs.Manifest.Names
import Scaffold.Proofs.Value.Parts

/-!
# Well-formed values

A value is a well-formed manifest by what is found under its keys
(`Manifest.WellFormed`). What such a value holds is a typed manifest
(`Manifest.GivenBy`): the two predicates on values meet in
`Manifest.wellFormed_iff`.
-/

namespace Scaffold

/-! ## Well-formed manifests -/

structure Relation.WellFormed (v : Value) : Prop where
  entity : v.Has "entity" Value.IsName
  field : v.MayHave "field" Value.IsName
  type : v.Has "type" fun w => w = .text "one" ∨ w = .text "many"

structure Field.WellFormed (v : Value) : Prop where
  name : v.Has "name" Value.IsName
  description : v.MayHave "description" Value.IsName
  required : v.MayHave "required" Value.IsFlag
  unique : v.MayHave "unique" Value.IsFlag
  nullable : v.MayHave "nullable" Value.IsFlag
  kind : (v.Has "kind" fun w => ∃ k : ScalarKind, w = .text k.name) ∨
    (v.Has "kind" fun w => w = .text "relation") ∧ v.Has "relation" Relation.WellFormed

structure Entity.WellFormed (v : Value) : Prop where
  name : v.Has "name" Value.IsName
  table : v.MayHave "table" Value.IsName
  fields : v.Has "fields" (Value.IsListOf Field.WellFormed)

structure Manifest.Shaped (v : Value) : Prop where
  id : v.Has "id" Value.IsName
  name : v.Has "name" Value.IsName
  version : v.Has "version" Value.IsName
  generators : v.MayHave "generators" Value.IsTextMap
  entities : v.Has "entities" (Value.IsListOf Entity.WellFormed)
  relations : v.MayHave "relations" Value.IsTextMap

structure Manifest.WellFormed (v : Value) : Prop extends Manifest.Shaped v where
  entityNames : (v.partNames "entities").Nodup
  fieldNames : ∀ e ∈ v.parts "entities", (e.partNames "fields").Nodup
  targets : ∀ e ∈ v.parts "entities", ∀ f ∈ e.parts "fields",
    f.field? "kind" = some (.text "relation") →
      (f.field? "relation").bind (·.field? "entity") ∈ v.partNames "entities"

/-! ## Values that give typed manifests -/

structure Relation.GivenBy (v : Value) (r : Relation) : Prop where
  entity : v.Gives "entity" Value.GivesName r.entity
  field : v.GivesAttribute "field" Value.GivesName r.field
  type : v.Gives "type" (Value.GivesChoice Cardinality.name) r.type

structure FieldInfo.GivenBy (v : Value) (i : FieldInfo) : Prop where
  name : v.Gives "name" Value.GivesName i.name
  description : v.GivesAttribute "description" Value.GivesName i.description
  required : v.GivesAttribute "required" Value.GivesFlag i.required
  unique : v.GivesAttribute "unique" Value.GivesFlag i.unique
  nullable : v.GivesAttribute "nullable" Value.GivesFlag i.nullable
  default : i.default = v.field? "default"

structure ScalarField.GivenBy (v : Value) (f : ScalarField) : Prop where
  info : f.toFieldInfo.GivenBy v
  kind : v.Gives "kind" (Value.GivesChoice ScalarKind.name) f.kind

structure RelationField.GivenBy (v : Value) (f : RelationField) : Prop where
  info : f.toFieldInfo.GivenBy v
  kind : v.field? "kind" = some (.text relationKindName)
  relation : v.Gives "relation" Relation.GivenBy f.relation

inductive Field.GivenBy (v : Value) : Field → Prop where
  | scalar {f : ScalarField} (h : f.GivenBy v) : GivenBy v (.scalar f)
  | relation {f : RelationField} (h : f.GivenBy v) : GivenBy v (.relation f)

structure Entity.GivenBy (v : Value) (e : Entity) : Prop where
  name : v.Gives "name" Value.GivesName e.name
  table : v.GivesAttribute "table" Value.GivesName e.table
  fields : v.Gives "fields" (Value.GivesList Field.GivenBy) e.fields

structure Manifest.GivenBy (v : Value) (m : Manifest) : Prop where
  id : v.Gives "id" Value.GivesName m.id
  name : v.Gives "name" Value.GivesName m.name
  version : v.Gives "version" Value.GivesName m.version
  generators : v.GivesAttribute "generators" Value.GivesTextMap m.generators
  entities : v.Gives "entities" (Value.GivesList Entity.GivenBy) m.entities
  relations : v.GivesAttribute "relations" Value.GivesTextMap m.relations

/-! ## What a shaped value gives -/

theorem Relation.wellFormed_iff (v : Value) : Relation.WellFormed v ↔ ∃ r, Relation.GivenBy v r := by
  have type (w : Value) : (w = .text "one" ∨ w = .text "many") ↔ ∃ c, w.GivesChoice Cardinality.name c := by
    constructor
    · intro h
      rcases h with h | h
      · exact ⟨.one, h⟩
      · exact ⟨.many, h⟩
    · intro h
      obtain ⟨c, h⟩ := h
      cases c with
      | one => exact Or.inl h
      | many => exact Or.inr h
  constructor
  · intro h
    obtain ⟨he, hf, ht⟩ := h
    obtain ⟨e, he⟩ := (Value.has_iff Value.isName_iff).mp he
    obtain ⟨f, hf⟩ := (Value.mayHave_iff Value.isName_iff).mp hf
    obtain ⟨t, ht⟩ := (Value.has_iff type).mp ht
    exact ⟨⟨e, f, t⟩, he, hf, ht⟩
  · intro h
    obtain ⟨r, he, hf, ht⟩ := h
    exact ⟨(Value.has_iff Value.isName_iff).mpr ⟨_, he⟩,
      (Value.mayHave_iff Value.isName_iff).mpr ⟨_, hf⟩, (Value.has_iff type).mpr ⟨_, ht⟩⟩

theorem Field.wellFormed_iff (v : Value) : Field.WellFormed v ↔ ∃ f, Field.GivenBy v f := by
  have scalar (w : Value) : (∃ k : ScalarKind, w = .text k.name) ↔ ∃ k, w.GivesChoice ScalarKind.name k := Iff.rfl
  constructor
  · intro h
    obtain ⟨hn, hd, hr, hu, hl, hk⟩ := h
    obtain ⟨n, hn⟩ := (Value.has_iff Value.isName_iff).mp hn
    obtain ⟨d, hd⟩ := (Value.mayHave_iff Value.isName_iff).mp hd
    obtain ⟨r, hr⟩ := (Value.mayHave_iff Value.isFlag_iff).mp hr
    obtain ⟨u, hu⟩ := (Value.mayHave_iff Value.isFlag_iff).mp hu
    obtain ⟨l, hl⟩ := (Value.mayHave_iff Value.isFlag_iff).mp hl
    have info : FieldInfo.GivenBy v ⟨n, d, r, u, l, v.field? "default"⟩ := ⟨hn, hd, hr, hu, hl, rfl⟩
    rcases hk with hk | ⟨⟨w, hw, rfl⟩, ht⟩
    · obtain ⟨k, hk⟩ := (Value.has_iff scalar).mp hk
      exact ⟨.scalar ⟨_, k⟩, .scalar ⟨info, hk⟩⟩
    · obtain ⟨t, ht⟩ := (Value.has_iff Relation.wellFormed_iff).mp ht
      exact ⟨.relation ⟨_, t⟩, .relation ⟨info, hw, ht⟩⟩
  · intro h
    obtain ⟨f, hf⟩ := h
    have wellFormed {i : FieldInfo} (h : FieldInfo.GivenBy v i) (hk) : Field.WellFormed v :=
      ⟨(Value.has_iff Value.isName_iff).mpr ⟨_, h.name⟩,
        (Value.mayHave_iff Value.isName_iff).mpr ⟨_, h.description⟩,
        (Value.mayHave_iff Value.isFlag_iff).mpr ⟨_, h.required⟩,
        (Value.mayHave_iff Value.isFlag_iff).mpr ⟨_, h.unique⟩,
        (Value.mayHave_iff Value.isFlag_iff).mpr ⟨_, h.nullable⟩, hk⟩
    cases hf with
    | scalar h => exact wellFormed h.info (Or.inl ((Value.has_iff scalar).mpr ⟨_, h.kind⟩))
    | relation h =>
      exact wellFormed h.info
        (Or.inr ⟨⟨_, h.kind, rfl⟩, (Value.has_iff Relation.wellFormed_iff).mpr ⟨_, h.relation⟩⟩)

theorem Entity.wellFormed_iff (v : Value) : Entity.WellFormed v ↔ ∃ e, Entity.GivenBy v e := by
  have fields := Value.isListOf_iff Field.wellFormed_iff
  constructor
  · intro h
    obtain ⟨hn, ht, hf⟩ := h
    obtain ⟨n, hn⟩ := (Value.has_iff Value.isName_iff).mp hn
    obtain ⟨t, ht⟩ := (Value.mayHave_iff Value.isName_iff).mp ht
    obtain ⟨f, hf⟩ := (Value.has_iff fields).mp hf
    exact ⟨⟨n, t, f⟩, hn, ht, hf⟩
  · intro h
    obtain ⟨e, hn, ht, hf⟩ := h
    exact ⟨(Value.has_iff Value.isName_iff).mpr ⟨_, hn⟩,
      (Value.mayHave_iff Value.isName_iff).mpr ⟨_, ht⟩, (Value.has_iff fields).mpr ⟨_, hf⟩⟩

theorem Manifest.shaped_iff (v : Value) : Manifest.Shaped v ↔ ∃ m, Manifest.GivenBy v m := by
  have entities := Value.isListOf_iff Entity.wellFormed_iff
  constructor
  · intro h
    obtain ⟨hi, hn, hv, hg, he, hr⟩ := h
    obtain ⟨i, hi⟩ := (Value.has_iff Value.isName_iff).mp hi
    obtain ⟨n, hn⟩ := (Value.has_iff Value.isName_iff).mp hn
    obtain ⟨w, hv⟩ := (Value.has_iff Value.isName_iff).mp hv
    obtain ⟨g, hg⟩ := (Value.mayHave_iff Value.isTextMap_iff).mp hg
    obtain ⟨e, he⟩ := (Value.has_iff entities).mp he
    obtain ⟨r, hr⟩ := (Value.mayHave_iff Value.isTextMap_iff).mp hr
    exact ⟨⟨i, n, w, g, e, r⟩, hi, hn, hv, hg, he, hr⟩
  · intro h
    obtain ⟨m, hi, hn, hv, hg, he, hr⟩ := h
    exact ⟨(Value.has_iff Value.isName_iff).mpr ⟨_, hi⟩, (Value.has_iff Value.isName_iff).mpr ⟨_, hn⟩,
      (Value.has_iff Value.isName_iff).mpr ⟨_, hv⟩,
      (Value.mayHave_iff Value.isTextMap_iff).mpr ⟨_, hg⟩, (Value.has_iff entities).mpr ⟨_, he⟩,
      (Value.mayHave_iff Value.isTextMap_iff).mpr ⟨_, hr⟩⟩

/-! ## Names in a value and in the manifest it gives -/

theorem ScalarKind.name_ne_relation (k : ScalarKind) : k.name ≠ relationKindName := by
  cases k <;> decide

/-- The target that a field's value names is the target of the field it gives. -/
theorem Field.GivenBy.target_iff {v : Value} {f : Field} (h : Field.GivenBy v f)
    {names : List String} :
    (v.field? "kind" = some (.text "relation") →
        (v.field? "relation").bind (·.field? "entity") ∈ names.map fun s => some (Value.text s)) ↔
      ∀ r, f.relation? = some r → r.relation.entity ∈ names := by
  cases h with
  | @scalar f h =>
    obtain ⟨w, hw, rfl⟩ := h.kind
    have := f.kind.name_ne_relation
    simp [hw, Field.relation?, show f.kind.name ≠ "relation" from this]
  | @relation f h =>
    obtain ⟨w, hw, ⟨e, he, rfl, -⟩, -, -⟩ := h.relation
    have hk : v.field? "kind" = some (.text "relation") := h.kind
    simp [hk, hw, he, Field.relation?]

theorem Field.GivenBy.name {v : Value} {f : Field} (h : Field.GivenBy v f) :
    v.Gives "name" Value.GivesName f.name := by
  cases h with
  | scalar h => exact h.info.name
  | relation h => exact h.info.name

theorem Manifest.GivenBy.namesFit_iff {v : Value} {m : Manifest} (h : Manifest.GivenBy v m) :
    m.NamesFit ↔ (v.partNames "entities").Nodup ∧
      (∀ e ∈ v.parts "entities", (e.partNames "fields").Nodup) ∧
      ∀ e ∈ v.parts "entities", ∀ f ∈ e.parts "fields", f.field? "kind" = some (.text "relation") →
        (f.field? "relation").bind (·.field? "entity") ∈ v.partNames "entities" := by
  have hparts := Value.parts_of_gives h.entities
  have hnames := @Value.partNames_of_gives _ Entity.GivenBy (·.name) (fun _ _ he => he.name) v _ _ h.entities
  have fields : (∀ e ∈ v.parts "entities", (e.partNames "fields").Nodup) ↔
      ∀ e ∈ m.entities, (e.fields.map (·.name)).Nodup :=
    forall_mem_iff_of_forall₂ hparts fun _ _ he => by
      rw [@Value.partNames_of_gives _ Field.GivenBy (·.name) (fun _ _ hf => hf.name) _ _ _ he.fields,
        Value.nodup_partNames_iff]
  have targets : (∀ e ∈ v.parts "entities", ∀ f ∈ e.parts "fields",
      f.field? "kind" = some (.text "relation") →
        (f.field? "relation").bind (·.field? "entity") ∈ v.partNames "entities") ↔
      ∀ e ∈ m.entities, ∀ f ∈ e.fields, ∀ r, f.relation? = some r →
        r.relation.entity ∈ m.entities.map (·.name) :=
    forall_mem_iff_of_forall₂ hparts fun _ _ he =>
      forall_mem_iff_of_forall₂ (Value.parts_of_gives he.fields) fun _ _ hf => by
        rw [hnames]
        exact hf.target_iff
  rw [fields, targets, hnames, Value.nodup_partNames_iff]
  exact ⟨fun ⟨he, hf, ht⟩ => ⟨he, hf, ht⟩, fun ⟨he, hf, ht⟩ => ⟨he, hf, ht⟩⟩

/-- A value is a well-formed manifest exactly when it gives a manifest whose names fit. -/
theorem Manifest.wellFormed_iff (v : Value) :
    Manifest.WellFormed v ↔ ∃ m, Manifest.GivenBy v m ∧ m.NamesFit := by
  constructor
  · intro h
    obtain ⟨hs, he, hf, ht⟩ := h
    obtain ⟨m, hm⟩ := (Manifest.shaped_iff v).mp hs
    exact ⟨m, hm, hm.namesFit_iff.mpr ⟨he, hf, ht⟩⟩
  · intro h
    obtain ⟨m, hm, hn⟩ := h
    obtain ⟨he, hf, ht⟩ := hm.namesFit_iff.mp hn
    exact ⟨(Manifest.shaped_iff v).mpr ⟨m, hm⟩, he, hf, ht⟩

end Scaffold
