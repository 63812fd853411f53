import Scaffold.Proofs.Manifest.Reads
import Scaffold.Proofs.Manifest.WellFormed

/-!
# The manifest schema and the typed reading of manifests

The schema of each part of a manifest agrees with the reading of that part on
what a value gives, from relations up to whole manifests (`Reads.manifest`).
-/

namespace Scaffold

open Coerced

/-! ## Typed readings by their parts -/

theorem Relation.ofEntries_eq_ok_iff {es : Entries} {r : Relation} :
    Relation.ofEntries es = .ok r ↔
      es.need "entity" Value.asText = .ok r.entity ∧
      es.wantAttribute "field" Value.asText = .ok r.field ∧
      es.need "type" (Value.asChoice Cardinality.ofName?) = .ok r.type := by
  simp only [Relation.ofEntries, map_eq_ok_iff, both_eq_ok_iff]
  constructor
  · intro h
    obtain ⟨_, h, rfl⟩ := h
    exact h
  · intro h
    exact ⟨(_, _, _), h, rfl⟩

theorem FieldInfo.ofEntries_eq_ok_iff {es : Entries} {i : FieldInfo} :
    FieldInfo.ofEntries es = .ok i ↔
      (es.need "name" Value.asText = .ok i.name ∧
      es.wantAttribute "description" Value.asText = .ok i.description ∧
      es.wantAttribute "required" Value.asTruth = .ok i.required ∧
      es.wantAttribute "unique" Value.asTruth = .ok i.unique ∧
      es.wantAttribute "nullable" Value.asTruth = .ok i.nullable) ∧
      i.default = es.getText? "default" := by
  simp only [FieldInfo.ofEntries, map_eq_ok_iff, both_eq_ok_iff]
  constructor
  · intro h
    obtain ⟨_, h, rfl⟩ := h
    exact ⟨h, rfl⟩
  · intro h
    obtain ⟨h, hd⟩ := h
    refine ⟨(_, _, _, _, _), h, ?_⟩
    rw [← hd]

theorem Entity.ofEntries_eq_ok_iff {es : Entries} {e : Entity} :
    Entity.ofEntries es = .ok e ↔
      es.need "name" Value.asText = .ok e.name ∧
      es.wantAttribute "table" Value.asText = .ok e.table ∧
      es.need "fields" (Value.asList .tuple (Value.asModel .tagged Field.ofEntries)) =
        .ok e.fields := by
  simp only [Entity.ofEntries, map_eq_ok_iff, both_eq_ok_iff]
  constructor
  · intro h
    obtain ⟨_, h, rfl⟩ := h
    exact h
  · intro h
    exact ⟨(_, _, _), h, rfl⟩

theorem Manifest.ofEntries_eq_ok_iff {es : Entries} {m : Manifest} :
    Manifest.ofEntries es = .ok m ↔
      es.need "id" Value.asText = .ok m.id ∧
      es.need "name" Value.asText = .ok m.name ∧
      es.need "version" Value.asText = .ok m.version ∧
      es.wantAttribute "generators" Value.asTextMap = .ok m.generators ∧
      es.need "entities" (Value.asList .tuple (Value.asModel .model Entity.ofEntries)) =
        .ok m.entities ∧
      es.wantAttribute "relations" Value.asTextMap = .ok m.relations := by
  simp only [Manifest.ofEntries, map_eq_ok_iff, both_eq_ok_iff]
  constructor
  · intro h
    obtain ⟨_, h, rfl⟩ := h
    exact h
  · intro h
    exact ⟨(_, _, _, _, _, _), h, rfl⟩

/-! ## Relations -/

theorem Cardinality.ofName?_eq_some_iff (s : String) (c : Cardinality) :
    Cardinality.ofName? s = some c ↔ c.name = s := by
  constructor
  · intro h
    simpa using List.find?_some h
  · intro h
    subst h
    cases c <;> rfl

namespace Reads

theorem cardinality : Reads Schema.cardinality (Value.asChoice Cardinality.ofName?)
    (Value.GivesChoice Cardinality.name) := by
  refine choice (fun c => ?_) Cardinality.ofName?_eq_some_iff
  cases c <;> simp [Cardinality.all]

theorem relation : Reads Schema.relation (Value.asModel .model Relation.ofEntries)
    Relation.GivenBy := by
  refine object ?_ ?_ ?_ ?_
  · intro es fs r hfs
    rw [Relation.ofEntries_eq_ok_iff, name.need_iff hfs rfl, name.wantAttribute_iff .name hfs rfl,
      cardinality.need_iff hfs rfl]
    exact ⟨fun ⟨he, hf, ht⟩ => ⟨he, hf, ht⟩, fun ⟨he, hf, ht⟩ => ⟨he, hf, ht⟩⟩
  · intro v r h
    exact Value.Gives.mapping h.entity
  · intro es r h
    simp only [List.forall_mem_cons]
    exact ⟨name.admits h.entity, name.admits_optional h.field, cardinality.admits h.type, List.forall_mem_nil _⟩
  · intro es hp h
    simp only [List.forall_mem_cons] at h
    obtain ⟨he, hf, ht, -⟩ := h
    obtain ⟨e, he⟩ := name.gives_of_admits rfl hp he
    obtain ⟨f, hf⟩ := name.givesAttribute_of_admits hp hf
    obtain ⟨t, ht⟩ := cardinality.gives_of_admits rfl hp ht
    exact ⟨⟨e, f, t⟩, he, hf, ht⟩

end Reads

/-! ## Fields -/

def Schema.info : List (String × Schema) := ("name", nonEmptyText) :: fieldAttributes

theorem ScalarKind.ofName?_eq_some_iff (s : String) (k : ScalarKind) :
    ScalarKind.ofName? s = some k ↔ k.name = s := by
  constructor
  · intro h
    simpa using List.find?_some h
  · intro h
    subst h
    cases k <;> rfl

theorem ScalarKind.name_injective {k l : ScalarKind} (h : k.name = l.name) : k = l :=
  Option.some.inj (((ScalarKind.ofName?_eq_some_iff _ k).mpr h).symm.trans
    ((ScalarKind.ofName?_eq_some_iff _ l).mpr rfl))

theorem Field.ofEntries_scalar {es : Entries} {k : ScalarKind} {f : Field}
    (h : es.getText? "kind" = some (.text k.name)) :
    Field.ofEntries es = .ok f ↔
      ∃ i, FieldInfo.ofEntries es = .ok i ∧ f = .scalar ⟨i, k⟩ := by
  have hk := (ScalarKind.ofName?_eq_some_iff k.name k).mpr rfl
  simp only [Field.ofEntries, h, if_neg k.name_ne_relation, hk, under_eq_ok_iff, map_eq_ok_iff,
    @eq_comm _ f]

theorem Field.ofEntries_relation {es : Entries} {f : Field}
    (h : es.getText? "kind" = some (.text relationKindName)) :
    Field.ofEntries es = .ok f ↔
      ∃ i r, FieldInfo.ofEntries es = .ok i ∧
        es.need "relation" (Value.asModel .model Relation.ofEntries) = .ok r ∧
        f = .relation ⟨i, r⟩ := by
  simp only [Field.ofEntries, h, if_true, under_eq_ok_iff, map_eq_ok_iff, both_eq_ok_iff,
    @eq_comm _ f, Prod.exists, and_assoc]

namespace Reads

theorem info_iff {shape : List (String × Schema)} {es fs : Entries} {i : FieldInfo}
    (hfs : Schema.outputShape? shape es = some fs)
    (hs : ∀ q ∈ Schema.info, shape.lookup q.1 = some q.2) :
    FieldInfo.ofEntries fs = .ok i ↔ FieldInfo.GivenBy (.map es) i := by
  simp only [Schema.info, Schema.fieldAttributes, List.forall_mem_cons] at hs
  obtain ⟨hn, hd, hr, hu, hl, hdef, -⟩ := hs
  have hdefault : fs.getText? "default" = es.getText? "default" := by
    rw [Schema.getText?_outputShape hfs, hdef, Option.bind_some]
    cases es.getText? "default" with
    | none => rfl
    | some v => cases v <;> rfl
  rw [FieldInfo.ofEntries_eq_ok_iff, name.need_iff hfs hn, name.wantAttribute_iff .name hfs hd,
    flag.wantAttribute_iff .flag hfs hr, flag.wantAttribute_iff .flag hfs hu,
    flag.wantAttribute_iff .flag hfs hl, hdefault]
  constructor
  · intro h
    obtain ⟨⟨hn, hd, hr, hu, hl⟩, hi⟩ := h
    exact ⟨hn, hd, hr, hu, hl, hi⟩
  · intro h
    obtain ⟨hn, hd, hr, hu, hl, hi⟩ := h
    exact ⟨⟨hn, hd, hr, hu, hl⟩, hi⟩

theorem info_admits {es : Entries} {i : FieldInfo} (h : FieldInfo.GivenBy (.map es) i) :
    ∀ q ∈ Schema.info, q.2.admits (es.getText? q.1) := by
  have hdefault : (Schema.optional .anything).admits (es.getText? "default") := by
    cases es.getText? "default" with
    | none => rfl
    | some v => cases v <;> rfl
  simp only [Schema.info, Schema.fieldAttributes, List.forall_mem_cons]
  exact ⟨name.admits h.name, name.admits_optional h.description, flag.admits_optional h.required,
    flag.admits_optional h.unique, flag.admits_optional h.nullable, hdefault, List.forall_mem_nil _⟩

theorem info_of_admits {es : Entries} (hp : (Value.map es).isPresent)
    (h : ∀ q ∈ Schema.info, q.2.admits (es.getText? q.1)) : ∃ i, FieldInfo.GivenBy (.map es) i := by
  simp only [Schema.info, Schema.fieldAttributes, List.forall_mem_cons] at h
  obtain ⟨hn, hd, hr, hu, hl, -, -⟩ := h
  obtain ⟨n, hn⟩ := name.gives_of_admits rfl hp hn
  obtain ⟨d, hd⟩ := name.givesAttribute_of_admits hp hd
  obtain ⟨r, hr⟩ := flag.givesAttribute_of_admits hp hr
  obtain ⟨u, hu⟩ := flag.givesAttribute_of_admits hp hu
  obtain ⟨l, hl⟩ := flag.givesAttribute_of_admits hp hl
  exact ⟨⟨n, d, r, u, l, es.getText? "default"⟩, hn, hd, hr, hu, hl, rfl⟩

theorem scalarKind : Reads Schema.scalarKind (Value.asChoice ScalarKind.ofName?)
    (Value.GivesChoice ScalarKind.name) := by
  refine choice (fun k => ?_) ScalarKind.ofName?_eq_some_iff
  cases k <;> simp [ScalarKind.all]

theorem scalarField : Reads Schema.scalarField (Value.asModel .tagged Field.ofEntries)
    fun v f => ∃ s, f = .scalar s ∧ s.GivenBy v := by
  refine object ?_ ?_ ?_ ?_
  · intro es fs f hfs
    have hinfo {i} := @info_iff _ es fs i hfs (by
      simp only [Schema.info, Schema.fieldAttributes, List.forall_mem_cons]
      exact ⟨rfl, rfl, rfl, rfl, rfl, rfl, List.forall_mem_nil _⟩)
    obtain ⟨v, w, hv, hw, hkind⟩ := @Schema.getText?_required _ es fs "kind" _ hfs rfl rfl
    obtain ⟨rfl, k, -, rfl⟩ := Schema.outputFirst?_literals.mp hw
    rw [Field.ofEntries_scalar hkind]
    constructor
    · intro h
      obtain ⟨i, hi, rfl⟩ := h
      exact ⟨_, rfl, hinfo.mp hi, _, hv, rfl⟩
    · intro h
      obtain ⟨s, rfl, hi, w, hw, hk⟩ := h
      rw [Value.field?_map, hv, Option.some.injEq] at hw
      have hks : k = s.kind := ScalarKind.name_injective (Value.text.inj (hw.trans hk))
      exact ⟨_, hinfo.mpr hi, by rw [hks]⟩
  · intro v f h
    obtain ⟨s, -, h⟩ := h
    exact Value.Gives.mapping h.kind
  · intro es f h
    obtain ⟨s, -, h⟩ := h
    have hinfo := info_admits h.info
    rw [Schema.info, List.forall_mem_cons] at hinfo
    simp only [List.cons_append, List.nil_append, List.forall_mem_cons]
    exact ⟨hinfo.1, scalarKind.admits h.kind, hinfo.2⟩
  · intro es hp h
    simp only [List.cons_append, List.nil_append, List.forall_mem_cons] at h
    obtain ⟨hn, hk, hinfo⟩ := h
    obtain ⟨i, hi⟩ := info_of_admits hp (List.forall_mem_cons.mpr ⟨hn, hinfo⟩)
    obtain ⟨k, hk⟩ := scalarKind.gives_of_admits rfl hp hk
    exact ⟨_, ⟨i, k⟩, rfl, hi, hk⟩

theorem relationField : Reads Schema.relationField (Value.asModel .tagged Field.ofEntries)
    fun v f => ∃ r, f = .relation r ∧ r.GivenBy v := by
  refine object ?_ ?_ ?_ ?_
  · intro es fs f hfs
    have hinfo {i} := @info_iff _ es fs i hfs (by
      simp only [Schema.info, Schema.fieldAttributes, List.forall_mem_cons]
      exact ⟨rfl, rfl, rfl, rfl, rfl, rfl, List.forall_mem_nil _⟩)
    have htarget {r} := @need_iff _ _ _ _ _ es fs "relation" relation hfs rfl r
    obtain ⟨v, w, hv, hw, hkind⟩ := @Schema.getText?_required _ es fs "kind" _ hfs rfl rfl
    obtain ⟨rfl, rfl⟩ := Schema.output?_literal_text.mp hw
    rw [Field.ofEntries_relation hkind]
    constructor
    · intro h
      obtain ⟨i, r, hi, hr, rfl⟩ := h
      exact ⟨_, rfl, hinfo.mp hi, hv, htarget.mp hr⟩
    · intro h
      obtain ⟨r, rfl, hi, -, hr⟩ := h
      exact ⟨_, _, hinfo.mpr hi, htarget.mpr hr, rfl⟩
  · intro v f h
    obtain ⟨r, -, h⟩ := h
    exact Value.Gives.mapping h.relation
  · intro es f h
    obtain ⟨r, -, h⟩ := h
    have hinfo := info_admits h.info
    have hkind := Schema.admits_literal_text.mpr (Value.field?_map.symm.trans h.kind)
    rw [Schema.info, List.forall_mem_cons] at hinfo
    simp only [List.cons_append, List.nil_append, List.forall_mem_cons]
    exact ⟨hinfo.1, hkind, relation.admits h.relation, hinfo.2⟩
  · intro es hp h
    simp only [List.cons_append, List.nil_append, List.forall_mem_cons] at h
    obtain ⟨hn, hk, ht, hinfo⟩ := h
    obtain ⟨i, hi⟩ := info_of_admits hp (List.forall_mem_cons.mpr ⟨hn, hinfo⟩)
    obtain ⟨r, hr⟩ := relation.gives_of_admits rfl hp ht
    exact ⟨_, ⟨i, r⟩, rfl, hi, Schema.admits_literal_text.mp hk, hr⟩

/-- The kind of a scalar field is not the one that the schema of relation fields asks for. -/
theorem output?_relationField_of_scalar {v : Value} {f : ScalarField} (h : f.GivenBy v) :
    Schema.relationField.output? v = none := by
  rw [Option.eq_none_iff_forall_ne_some]
  intro w hw
  obtain ⟨es, fs, rfl, hfs, -⟩ := Schema.output?_object_eq_some_iff.mp hw
  have hadmits := @Schema.admits_of_outputShape? _ es fs "kind" _ hfs rfl
  have hkind := Schema.admits_literal_text.mp hadmits
  obtain ⟨k, hk, rfl⟩ := h.kind
  have heq := Option.some.inj (hk.symm.trans hkind)
  exact f.kind.name_ne_relation (Value.text.inj heq)

theorem field : Reads Schema.field (Value.asModel .tagged Field.ofEntries) Field.GivenBy := by
  have hcases : Field.GivenBy = fun v f =>
      (∃ r, f = .relation r ∧ r.GivenBy v) ∨ ∃ s, f = .scalar s ∧ s.GivenBy v := by
    funext v f
    apply propext
    constructor
    · intro h
      rcases h with h | h
      · exact Or.inr ⟨_, rfl, h⟩
      · exact Or.inl ⟨_, rfl, h⟩
    · intro h
      rcases h with ⟨r, rfl, h⟩ | ⟨s, rfl, h⟩
      · exact .relation h
      · exact .scalar h
  rw [hcases]
  refine relationField.either scalarField ?_
  intro v _ h
  obtain ⟨s, rfl, h⟩ := h
  exact output?_relationField_of_scalar h

theorem entity : Reads Schema.entity (Value.asModel .model Entity.ofEntries) Entity.GivenBy := by
  have fields := field.list .tuple "Expected at least one field"
  refine object ?_ ?_ ?_ ?_
  · intro es fs e hfs
    rw [Entity.ofEntries_eq_ok_iff, name.need_iff hfs rfl, name.wantAttribute_iff .name hfs rfl,
      fields.need_iff hfs rfl]
    exact ⟨fun ⟨hn, ht, hf⟩ => ⟨hn, ht, hf⟩, fun ⟨hn, ht, hf⟩ => ⟨hn, ht, hf⟩⟩
  · intro v e h
    exact Value.Gives.mapping h.name
  · intro es e h
    simp only [List.forall_mem_cons]
    exact ⟨name.admits h.name, name.admits_optional h.table, fields.admits h.fields, List.forall_mem_nil _⟩
  · intro es hp h
    simp only [List.forall_mem_cons] at h
    obtain ⟨hn, ht, hf, -⟩ := h
    obtain ⟨n, hn⟩ := name.gives_of_admits rfl hp hn
    obtain ⟨t, ht⟩ := name.givesAttribute_of_admits hp ht
    obtain ⟨f, hf⟩ := fields.gives_of_admits rfl hp hf
    exact ⟨⟨n, t, f⟩, hn, ht, hf⟩

theorem manifest : Reads Schema.manifest Manifest.ofValue Manifest.GivenBy := by
  have entities := entity.list .tuple "Expected at least one entity"
  refine object ?_ ?_ ?_ ?_
  · intro es fs m hfs
    rw [Manifest.ofEntries_eq_ok_iff, name.need_iff hfs rfl, name.need_iff hfs rfl,
      name.need_iff hfs rfl, textMap.wantAttribute_iff .textMap hfs rfl, entities.need_iff hfs rfl,
      textMap.wantAttribute_iff .textMap hfs rfl]
    exact ⟨fun ⟨hi, hn, hv, hg, he, hr⟩ => ⟨hi, hn, hv, hg, he, hr⟩,
      fun ⟨hi, hn, hv, hg, he, hr⟩ => ⟨hi, hn, hv, hg, he, hr⟩⟩
  · intro v m h
    exact Value.Gives.mapping h.id
  · intro es m h
    simp only [List.forall_mem_cons]
    exact ⟨name.admits h.id, name.admits h.name, name.admits h.version,
      textMap.admits_optional h.generators, entities.admits h.entities,
      textMap.admits_optional h.relations, List.forall_mem_nil _⟩
  · intro es hp h
    simp only [List.forall_mem_cons] at h
    obtain ⟨hi, hn, hv, hg, he, hr, -⟩ := h
    obtain ⟨i, hi⟩ := name.gives_of_admits rfl hp hi
    obtain ⟨n, hn⟩ := name.gives_of_admits rfl hp hn
    obtain ⟨w, hv⟩ := name.gives_of_admits rfl hp hv
    obtain ⟨g, hg⟩ := textMap.givesAttribute_of_admits hp hg
    obtain ⟨e, he⟩ := entities.gives_of_admits rfl hp he
    obtain ⟨r, hr⟩ := textMap.givesAttribute_of_admits hp hr
    exact ⟨⟨i, n, w, g, e, r⟩, hi, hn, hv, hg, he, hr⟩

end Reads

end Scaffold
