import Scaffold.Generation
import Scaffold.Proofs.Manifest.Keys
import Scaffold.Proofs.Manifest.Names
import Scaffold.Proofs.Records.Declared

/-!
# Defaults that can be written

Mapped classes, migrations and request bodies write defaults as JSON, the
first two without leniency. Each is written exactly when all defaults in it
have JSON text (`Mapped.isOk_moduleText_iff`, `Sql.isOk_migrationText_iff`,
`RequestBodies.isOk_text_iff`).
-/

namespace Scaffold

def ScalarField.hasJson (lenient : Bool) (f : ScalarField) : Bool := f.default.all (·.hasJson lenient)

/-! ## Columns -/

namespace Mapped

theorem isOk_serverDefaults (f : ScalarField) :
    (serverDefaults f).isOk = (!hasServerDefault f.kind || f.hasJson false) := by
  unfold serverDefaults ScalarField.hasJson
  cases f.default with
  | none => simp
  | some v =>
    cases hasServerDefault f.kind with
    | false => rfl
    | true => simpa using Sql.isOk_literal v

theorem isOk_ofField (e : Entity) (f : ScalarField) : (Attribute.ofField e f).isOk =
    (e.isPrimaryKey f || !hasServerDefault f.kind || f.hasJson false) := by
  rw [Attribute.ofField_eq]
  cases e.isPrimaryKey f with
  | true => rfl
  | false => rw [if_neg Bool.false_ne_true, isOk_map, isOk_serverDefaults, Bool.false_or]

theorem isOk_ofEntity (e : Entity) :
    (Class.ofEntity e).isOk = e.scalarFields.all fun f => (Attribute.ofField e f).isOk := by
  rw [Class.ofEntity, isOk_bind_pure, isOk_mapM]

theorem isOk_moduleText_iff {m : Manifest} : (moduleText m).isOk ↔
    ∀ e ∈ m.entities, ∀ f ∈ e.scalarFields, e.isPrimaryKey f = false → hasServerDefault f.kind →
      f.hasJson false := by
  have h : (moduleText m).isOk = m.entities.all fun e =>
      e.scalarFields.all fun f => (Attribute.ofField e f).isOk := by
    rw [moduleText, isOk_bind_pure, classes, isOk_mapM]
    simp only [isOk_ofEntity]
  rw [h]
  simp only [isOk_ofField, List.all_eq_true, Bool.or_eq_true, Bool.not_eq_true']
  refine forall₄_congr fun e _ f _ => ?_
  cases e.isPrimaryKey f <;> cases hasServerDefault f.kind <;> simp

end Mapped

namespace Sql

theorem isOk_defaultConstraints (f : ScalarField) : (defaultConstraints f).isOk = f.hasJson false := by
  unfold defaultConstraints ScalarField.hasJson
  cases f.default with
  | none => rfl
  | some v => rw [isOk_map, isOk_literal, Option.all_some]

theorem isOk_ofField (e : Entity) (f : ScalarField) :
    (Column.ofField e f).isOk = (e.isPrimaryKey f || f.hasJson false) := by
  rw [Column.ofField_eq]
  cases e.isPrimaryKey f with
  | true => rfl
  | false => rw [if_neg Bool.false_ne_true, isOk_map, isOk_defaultConstraints, Bool.false_or]

theorem isOk_createStatements (e : Entity) :
    (createStatements e).isOk = e.scalarFields.all fun f => (Column.ofField e f).isOk := by
  rw [createStatements, isOk_bind_pure, columns, isOk_bind_pure, isOk_mapM]

theorem isOk_migrationText_iff {m : Manifest} {t : Moment} : (migrationText m t).isOk ↔
    ∀ e ∈ m.entities, ∀ f ∈ e.scalarFields, e.isPrimaryKey f = false → f.hasJson false := by
  have h : (migrationText m t).isOk = m.entities.all fun e =>
      e.scalarFields.all fun f => (Column.ofField e f).isOk := by
    rw [migrationText, isOk_bind_pure, migration, isOk_mapM]
    simp only [isOk_createStatements]
  rw [h]
  simp only [isOk_ofField, List.all_eq_true, Bool.or_eq_true]
  refine forall₄_congr fun e _ f _ => ?_
  cases e.isPrimaryKey f <;> simp

end Sql

/-! ## Request bodies -/

namespace RequestBodies

theorem keyed_eq_map {α : Type} {key : α → String} {value : α → Value} {xs : List α}
    (h : (xs.map key).Nodup) : keyed key value xs = .ofFields (xs.map fun x => (key x, value x)) := by
  rw [keyed, Entries.ofList, Entries.foldl_put_of_distinct (Entries.distinct_of_nodup h), List.nil_append,
    Value.ofFields, List.map_map]
  rfl

theorem hasJson_keyed {α : Type} {key : α → String} {value : α → Value} {xs : List α} (lenient : Bool)
    (h : (xs.map key).Nodup) :
    (keyed key value xs).hasJson lenient = xs.all fun x => (value x).hasJson lenient := by
  rw [keyed_eq_map h, Value.hasJson_ofFields, List.all_map]
  rfl

theorem hasJson_property (lenient : Bool) (f : ScalarField) :
    (property f).hasJson lenient = f.hasJson lenient := by
  unfold property ScalarField.hasJson
  rw [Value.hasJson_ofFields, List.all_append, List.all_append]
  have type : (if f.isNullable then orNull (propertyType f.kind) else propertyType f.kind).all
      (fun p => p.2.hasJson lenient) = true := by
    cases f.isNullable <;> cases f.kind <;> rfl
  rw [type, Bool.true_and]
  cases f.description.toOption with
  | none => cases f.default <;> simp
  | some d =>
    dsimp only
    split <;> cases f.default <;> simp [Value.hasJson]

theorem hasJson_body (lenient partly : Bool) {fields : List ScalarField}
    (h : (fields.map fun f => f.name).Nodup) :
    (body partly fields).hasJson lenient = fields.all fun f => f.hasJson lenient := by
  have required (ss : List String) :
      (if ss.isEmpty then [] else [("required", Value.ofTexts ss)]).all
        (fun p => p.2.hasJson lenient) = true := by
    split
    · rfl
    · simp [Value.ofTexts, Value.hasJson, Value.haveJson_eq_all]
  have properties : (keyed (·.name) property fields).hasJson lenient =
      fields.all fun f => (property f).hasJson lenient := hasJson_keyed lenient h
  unfold body
  rw [Value.hasJson_ofFields, List.all_append, required]
  simp [properties, hasJson_property, Value.hasJson]

theorem hasJson_entityBodies (lenient : Bool) {e : Entity} (h : (e.fields.map (·.name)).Nodup) :
    (entityBodies e).hasJson lenient = e.writableFields.all fun f => f.hasJson lenient := by
  have hnames := h.sublist e.writableNames_sublist
  rw [entityBodies, Value.hasJson_ofFields]
  simp [hasJson_body lenient _ hnames]

theorem isOk_text_iff {m : Manifest} (hm : m.NamesFit) : (text m).isOk ↔
    ∀ e ∈ m.entities, ∀ f ∈ e.writableFields, f.hasJson true := by
  have entities : (keyed (·.name) entityBodies m.entities).hasJson true =
      m.entities.all fun e => (entityBodies e).hasJson true := hasJson_keyed true hm.entities
  rw [text, isOk_map, Value.isOk_writeJson rfl 0 (document m), document, Value.hasJson_ofFields]
  simp only [JsonStyle.document, List.all_cons, List.all_nil, Value.hasJson, entities, Bool.true_and,
    Bool.and_true, List.all_eq_true]
  refine forall₂_congr fun e he => ?_
  rw [hasJson_entityBodies true (hm.fields e he), List.all_eq_true]

end RequestBodies

end Scaffold
