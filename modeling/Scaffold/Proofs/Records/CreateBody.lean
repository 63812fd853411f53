import Scaffold.Manifest.Validation
import Scaffold.Proofs.Generation.Defaults
import Scaffold.Proofs.Manifest.Faults
import Scaffold.Records.Body

/-!
# The body of a create request, described twice

A JSON Schema document and a class say what a client has to send for a new
record. Both list the writable fields. The schema requires each field that is
required, and the class each of these that may not be null, so the two agree
exactly where no writable field is both (`RequestBodies.create_bodies_agree_iff`).
-/

namespace Scaffold

/-! ## Attributes of classes -/

namespace Body

variable {f : ScalarField}

theorem Attribute.default_ofField_eq_none_iff :
    (Attribute.ofField false f).default = none ↔ f.isRequired ∧ f.isNullable = false := by
  unfold ofField
  cases hr : f.isRequired <;> cases hn : f.isNullable <;> simp

theorem Attribute.isNone_default_ofField :
    (Attribute.ofField false f).default.isNone = (f.isRequired && !f.isNullable) := by
  rw [Bool.eq_iff_iff, Option.isNone_iff_eq_none, default_ofField_eq_none_iff]
  simp

theorem moduleText_eq (m : Manifest) : ∃ head, moduleText m = "\n".intercalate
    (head ++ (m.entities.flatMap classes).flatMap (fun c => "" :: "" :: c.lines) ++ [""]) := by
  unfold moduleText
  exact ⟨_, rfl⟩

theorem map_name (partly : Bool) (fs : List ScalarField) :
    (fs.map (Attribute.ofField partly)).map (·.name) = fs.map fun f => f.name := List.map_map

theorem map_name_required (fs : List ScalarField) :
    ((fs.map (Attribute.ofField false)).filter (·.default.isNone)).map (·.name) =
      (fs.filter fun f => f.isRequired && !f.isNullable).map fun f => f.name := by
  induction fs with
  | nil => rfl
  | cons f fs ih =>
    rw [List.map_cons, List.filter_cons, List.filter_cons, Attribute.isNone_default_ofField]
    split
    · rw [List.map_cons, List.map_cons, ih]
      rfl
    · exact ih

end Body

/-! ## Schemas of bodies -/

namespace RequestBodies

theorem field?_keyed {α : Type} {key : α → String} {value : α → Value} {xs : List α} {x : α}
    (h : (xs.map key).Nodup) (hx : x ∈ xs) : (keyed key value xs).field? (key x) = some (value x) := by
  obtain ⟨before, after, rfl⟩ := List.append_of_mem hx
  have hbefore : ∀ p ∈ before.map fun y => (key y, value y), key x != p.1 := by
    intro p hp
    obtain ⟨y, hy, rfl⟩ := List.mem_map.mp hp
    rw [List.map_append, List.nodup_append] at h
    have hne : key y ≠ key x := h.2.2 (key y) (List.mem_map_of_mem hy) (key x) (by simp)
    simpa using hne.symm
  rw [keyed_eq_map h, Value.field?_ofFields, List.lookup_eq_some_iff]
  exact ⟨_, _, by rw [List.map_append, List.map_cons], hbefore⟩

variable {fields : List ScalarField}

theorem properties_body (partly : Bool) (h : (fields.map fun f => f.name).Nodup) :
    ((body partly fields).field? "properties").bind Value.elements? =
      some ((fields.map fun f => f.name).map .text) := by
  have hproperties : (body partly fields).field? "properties" = some (keyed (·.name) property fields) := by
    unfold body
    rw [Value.field?_ofFields]
    rfl
  rw [hproperties, Option.bind_some, keyed_eq_map h, Value.ofFields, Value.elements?, List.map_map,
    List.map_map, List.map_map]
  rfl

theorem parts_required (fields : List ScalarField) : (body false fields).parts "required" =
    ((fields.filter (·.isRequired)).map fun f => f.name).map .text := by
  have hrequired : (body false fields).field? "required" =
      if (fields.filter (·.isRequired)).isEmpty then none
      else some (.ofTexts ((fields.filter (·.isRequired)).map fun f => f.name)) := by
    unfold body
    rw [Value.field?_ofFields]
    cases fields.filter (·.isRequired) with
    | nil => rfl
    | cons f fs => rfl
  unfold Value.parts
  rw [hrequired]
  cases fields.filter (·.isRequired) with
  | nil => rfl
  | cons f fs => rfl

theorem at?_create {m : Manifest} {e : Entity} (h : (m.entities.map (·.name)).Nodup) (he : e ∈ m.entities) :
    (document m).at? [.text "entities", .text e.name, .text "create"] =
      some (body false e.writableFields) := by
  have hentities : (document m).field? "entities" = some (keyed (·.name) entityBodies m.entities) := by
    rw [document, Value.field?_ofFields]
    rfl
  have hcreate : (entityBodies e).field? "create" = some (body false e.writableFields) := by
    rw [entityBodies, Value.field?_ofFields]
    rfl
  rw [Value.at?_field hentities, Value.at?_field (field?_keyed h he), Value.at?_field hcreate, Value.at?]

/-- The two lists of what has to be sent differ by the required fields that may be null. -/
theorem required_eq_iff (h : (fields.map fun f => f.name).Nodup) :
    ((fields.filter (·.isRequired)).map fun f => f.name) =
        ((fields.filter fun f => f.isRequired && !f.isNullable).map fun f => f.name) ↔
      ∀ f ∈ fields, f.isRequired → f.isNullable = false := by
  constructor
  · intro heq f hf hrequired
    have hmem : f.name ∈ (fields.filter (·.isRequired)).map fun f => f.name :=
      List.mem_map_of_mem (List.mem_filter.mpr ⟨hf, hrequired⟩)
    rw [heq] at hmem
    obtain ⟨g, hg, hname⟩ := List.mem_map.mp hmem
    obtain ⟨hg, hboth⟩ := List.mem_filter.mp hg
    obtain rfl : g = f := List.inj_on_of_nodup_map h hg hf hname
    simpa [hrequired] using hboth
  · intro hnone
    have hfilter : fields.filter (·.isRequired) =
        fields.filter fun f => f.isRequired && !f.isNullable := by
      refine List.filter_congr fun f hf => ?_
      cases hrequired : f.isRequired with
      | false => rfl
      | true => rw [hnone f hf hrequired]; rfl
    rw [hfilter]

/-- **Create bodies.** For each entity of a valid manifest the schema of a create request lists
exactly the attributes of the class, which are the writable fields. It requires the required ones;
the class has no default for those of them that may not be null. So both ask for the same names
exactly when no writable field is required and may be null. -/
theorem create_bodies_agree_iff {raw : Value} {m : Manifest} (h : Manifest.validate raw = .ok m)
    {e : Entity} (he : e ∈ m.entities) :
    ∃ head read create update schema, Body.moduleText m = "\n".intercalate (head ++
        (m.entities.flatMap Body.classes).flatMap (fun c => "" :: "" :: c.lines) ++ [""]) ∧
      text m = ((document m).writeJson .document 0).map (· ++ "\n") ∧
      Body.classes e = [read, create, update] ∧ create.name = "Create" ++ e.name ++ "Schema" ∧
      (document m).at? [.text "entities", .text e.name, .text "create"] = some schema ∧
      (schema.field? "properties").bind Value.elements? =
        some ((create.attributes.map (·.name)).map .text) ∧
      (create.attributes.map (·.name)).Nodup ∧
      List.Forall₂ (fun f a => a.name = f.name ∧
          (.text f.name ∈ schema.parts "required" ↔ f.isRequired) ∧
          (a.default = none ↔ f.isRequired ∧ f.isNullable = false))
        e.writableFields create.attributes ∧
      (schema.parts "required" =
          ((create.attributes.filter (·.default.isNone)).map (·.name)).map .text ↔
        ∀ f ∈ e.writableFields, f.isRequired → f.isNullable = false) := by
  obtain ⟨-, hfit⟩ := Manifest.validate_eq_ok_iff.mp h
  have hnames : (e.writableFields.map fun f => f.name).Nodup :=
    (hfit.fields e he).sublist e.writableNames_sublist
  obtain ⟨head, hmodule⟩ := Body.moduleText_eq m
  refine ⟨head, _, _, _, _, hmodule, rfl, rfl, rfl, at?_create hfit.entities he, ?properties, ?names,
    ?fields, ?required⟩
  case properties =>
    rw [properties_body false hnames, Body.map_name]
  case names =>
    rw [Body.map_name]
    exact hnames
  case fields =>
    rw [List.forall₂_map_right_iff, List.forall₂_same]
    intro f hf
    refine ⟨rfl, ?_, Body.Attribute.default_ofField_eq_none_iff⟩
    rw [parts_required, List.mem_map_of_injective fun _ _ => Value.text.inj, List.mem_map]
    constructor
    · rintro ⟨g, hg, hname⟩
      obtain ⟨hg, hrequired⟩ := List.mem_filter.mp hg
      -- a name stands for one field
      obtain rfl : g = f := List.inj_on_of_nodup_map hnames hg hf hname
      exact hrequired
    · intro hrequired
      exact ⟨f, List.mem_filter.mpr ⟨hf, hrequired⟩, rfl⟩
  case required =>
    rw [parts_required, Body.map_name_required, List.map_inj_right fun _ _ => Value.text.inj]
    exact required_eq_iff hnames

/-- A required field, one that may be null, and a required key that the application makes up. -/
theorem create_bodies_agree_shop :
    let field (name kind : String) (flags : List (String × Value)) : Value :=
      .ofFields ([("name", .text name), ("kind", .text kind)] ++ flags)
    let fields : List Value := [field "id" "uuid" [("required", .bool true)],
      field "title" "string" [("required", .bool true)],
      field "note" "string" [("required", .bool false), ("nullable", .bool true)]]
    let raw : Value := .ofFields [("id", .text "shop"), ("name", .text "Shop"), ("version", .text "1"),
      ("entities", .list [.ofFields [("name", .text "Item"), ("fields", .list fields)]])]
    ∃ m e, Manifest.validate raw = .ok m ∧ e ∈ m.entities ∧
      e.writableFields.map (fun f => f.name) = ["title", "note"] ∧
      ∃ read create update schema, Body.classes e = [read, create, update] ∧
        (document m).at? [.text "entities", .text "Item", .text "create"] = some schema ∧
        schema.parts "required" =
          ((create.attributes.filter (·.default.isNone)).map (·.name)).map .text := by
  intro field fields raw
  obtain ⟨m, hm, e, he, hname, hwritable, hagree⟩ : ∃ m, Manifest.validate raw = .ok m ∧
      ∃ e, e ∈ m.entities ∧ e.name = "Item" ∧
        e.writableFields.map (fun f => f.name) = ["title", "note"] ∧
        ∀ f ∈ e.writableFields, f.isRequired → f.isNullable = false :=
    ⟨_, rfl, _, List.mem_singleton.mpr rfl, rfl, rfl, by decide⟩
  obtain ⟨-, read, create, update, schema, -, -, hclasses, -, hschema, -, -, -, hiff⟩ :=
    create_bodies_agree_iff hm he
  exact ⟨m, e, hm, he, hwritable, read, create, update, schema, hclasses, hname ▸ hschema, hiff.mpr hagree⟩

/-- A field that is required and may be null has to be sent by the schema, and not by the class. -/
theorem create_schema_requires_nullable :
    let note : Value := .ofFields [("name", .text "note"), ("kind", .text "string"),
      ("required", .bool true), ("nullable", .bool true)]
    let raw : Value := .ofFields [("id", .text "shop"), ("name", .text "Shop"), ("version", .text "1"),
      ("entities", .list [.ofFields [("name", .text "Item"), ("fields", .list [note])]])]
    ∃ m e read create update schema, Manifest.validate raw = .ok m ∧ e ∈ m.entities ∧
      Body.classes e = [read, create, update] ∧
      (document m).at? [.text "entities", .text e.name, .text "create"] = some schema ∧
      schema.parts "required" = [.text "note"] ∧
      create.attributes.filter (·.default.isNone) = [] :=
  ⟨_, _, _, _, _, _, rfl, List.mem_singleton.mpr rfl, rfl, rfl, rfl, rfl⟩

end RequestBodies

end Scaffold
