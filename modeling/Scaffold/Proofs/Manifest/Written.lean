import Scaffold.Manifest.Value
import Scaffold.Proofs.Manifest.Typed

/-!
# Manifests read off their written values

Each attribute of a manifest stands under its own key in the written value. So
what a written value gives is the manifest that was written
(`Manifest.eq_of_givenBy_toValue`), and a manifest that some value gives is
given by its own written value too (`Manifest.GivenBy.written`).
-/

namespace Scaffold

/-! ## Lookups in written values -/

def Attribute.value? {α : Type} (write : α → Value) : Attribute α → Option Value
  | .unset => none
  | .null => some .null
  | .set a => some (write a)

theorem Attribute.lookup_entry {α : Type} (a : Attribute α) (write : α → Value) (name key : String) :
    (a.entry name write).lookup key = if key = name then a.value? write else none := by
  by_cases h : key = name
  · cases a <;> simp [entry, value?, h]
  · cases a <;> simp [entry, h, List.lookup_cons, beq_false_of_ne h]

/-! ## What a written value gives -/

section
variable {α : Type} {p : Value → α → Prop} {v v' : Value} {key : String} {write : α → Value}

theorem Value.eq_of_gives {w : Value} {a b : α} (hv : v.field? key = some w) (hp : ∀ b, p w b → b = a)
    (h : v.Gives key p b) : b = a := by
  obtain ⟨w', hw, hb⟩ := h
  rw [hv, Option.some.injEq] at hw
  exact hp b (hw ▸ hb)

theorem Value.eq_of_givesAttribute {a b : Attribute α} (hv : v.field? key = a.value? write)
    (hp : ∀ x, a = .set x → ∀ y, p (write x) y → y = x) (hnull : ∀ y, ¬ p .null y)
    (h : v.GivesAttribute key p b) : b = a := by
  cases b with
  | null => exact h.elim
  | unset =>
    have hnone : a.value? write = none := hv.symm.trans h
    cases a with
    | unset => rfl
    | null => cases hnone
    | set x => cases hnone
  | set y =>
    obtain ⟨w, hw, hy⟩ := h
    rw [hv] at hw
    cases a with
    | unset => cases hw
    | null =>
      cases hw
      exact absurd hy (hnull y)
    | set x =>
      cases hw
      rw [hp x rfl y hy]

theorem Value.Gives.written {w : Value} {a : α} (h : v'.Gives key p a) (hv : v.field? key = some w)
    (hp : ∀ w', p w' a → p w a) : v.Gives key p a := by
  obtain ⟨w', -, ha⟩ := h
  exact ⟨w, hv, hp w' ha⟩

theorem Value.GivesAttribute.written {a : Attribute α} (h : v'.GivesAttribute key p a)
    (hv : v.field? key = a.value? write) (hp : ∀ w a, p w a → p (write a) a) :
    v.GivesAttribute key p a := by
  cases a with
  | unset => exact hv
  | null => exact h.elim
  | set a => exact Value.Gives.written h hv fun w => hp w a

theorem Value.eq_of_givesList {as bs : List α} (hp : ∀ a b, p (write a) b → b = a)
    (h : Value.GivesList p (.list (as.map write)) bs) : bs = as := by
  obtain ⟨xs, hxs, hbs, -⟩ := h
  cases hxs
  induction as generalizing bs with
  | nil =>
    cases hbs
    rfl
  | cons a as ih =>
    cases hbs with
    | cons hb hbs => rw [hp a _ hb, ih hbs]

theorem Value.GivesList.written {as : List α} (h : Value.GivesList p v' as)
    (hp : ∀ w a, p w a → p (write a) a) : Value.GivesList p (.list (as.map write)) as := by
  obtain ⟨xs, -, has, hne⟩ := h
  refine ⟨_, rfl, ?_, hne⟩
  clear hne
  induction has with
  | nil => exact .nil
  | cons ha _ ih => exact .cons (hp _ _ ha) ih

end

theorem Value.GivesName.eq {s t : String} (h : (Value.text s).GivesName t) : t = s :=
  (Value.text.inj h.1).symm

theorem Value.GivesFlag.eq {a b : Bool} (h : (Value.bool a).GivesFlag b) : b = a := (Value.bool.inj h).symm

theorem Value.eq_of_givesChoice {α : Type} {name : α → String} {v : Value} {key : String} {a b : α}
    (hname : ∀ a b, name a = name b → a = b) (hv : v.field? key = some (.text (name a)))
    (h : v.Gives key (Value.GivesChoice name) b) : b = a := by
  obtain ⟨w, hw, hb⟩ := h
  rw [hv, Option.some.injEq] at hw
  exact hname b a (Value.text.inj (hb.symm.trans hw.symm))

theorem Value.GivesTextMap.eq {es fs : Entries} (hes : es.Distinct) (h : (Value.map es).GivesTextMap fs) :
    fs = es := by
  obtain ⟨gs, hgs, -, rfl⟩ := h
  cases hgs
  exact Entries.foldl_put_of_distinct hes

theorem Value.GivesName.written (w : Value) (s : String) (h : w.GivesName s) : (Value.text s).GivesName s :=
  ⟨rfl, h.2⟩

theorem Value.GivesFlag.written (w : Value) (b : Bool) (_ : w.GivesFlag b) : (Value.bool b).GivesFlag b := rfl

theorem Value.GivesChoice.written {α : Type} {name : α → String} {v : Value} {key : String} {a : α}
    (hv : v.field? key = some (.text (name a))) : v.Gives key (Value.GivesChoice name) a :=
  ⟨_, hv, rfl⟩

theorem Value.GivesTextMap.written (w : Value) (es : Entries) (h : w.GivesTextMap es) :
    (Value.map es).GivesTextMap es := by
  obtain ⟨fs, -, hfs, rfl⟩ := h
  refine ⟨_, rfl, fun e he => ?_, (Entries.ofList_ofList fs).symm⟩
  obtain ⟨f, hf, hk⟩ := Entries.key_of_mem_ofList he
  rw [hk]
  exact hfs f hf

/-! ## Relations and fields -/

theorem Relation.field?_toValue (r : Relation) :
    r.toValue.field? "entity" = some (.text r.entity) ∧
      r.toValue.field? "field" = r.field.value? .text ∧
      r.toValue.field? "type" = some (.text r.type.name) := by
  simp [toValue, Value.field?_ofFields, List.lookup_append, Attribute.lookup_entry, List.lookup_cons]

theorem Cardinality.name_injective {c d : Cardinality} (h : c.name = d.name) : c = d := by
  cases c <;> cases d <;> simp_all [Cardinality.name]

theorem Relation.eq_of_givenBy_toValue {r s : Relation} (h : Relation.GivenBy r.toValue s) : s = r := by
  obtain ⟨he, hf, ht⟩ := r.field?_toValue
  have entity := Value.eq_of_gives he (fun _ => Value.GivesName.eq) h.entity
  have field := Value.eq_of_givesAttribute hf (fun _ _ _ => Value.GivesName.eq) (by simp [Value.GivesName]) h.field
  have type := Value.eq_of_givesChoice (fun _ _ => Cardinality.name_injective) ht h.type
  cases r
  cases s
  simp_all

theorem Relation.GivenBy.written {v : Value} {r : Relation} (h : Relation.GivenBy v r) :
    Relation.GivenBy r.toValue r := by
  obtain ⟨he, hf, ht⟩ := r.field?_toValue
  exact ⟨h.entity.written he fun w => Value.GivesName.written w _, h.field.written hf Value.GivesName.written,
    Value.GivesChoice.written ht⟩

theorem Field.field?_toValue (f : Field) :
    f.toValue.field? "name" = some (.text f.info.name) ∧
      f.toValue.field? "description" = f.info.description.value? .text ∧
      f.toValue.field? "required" = f.info.required.value? .bool ∧
      f.toValue.field? "unique" = f.info.unique.value? .bool ∧
      f.toValue.field? "nullable" = f.info.nullable.value? .bool ∧
      f.toValue.field? "default" = f.info.default ∧
      f.toValue.field? "kind" = some (.text f.kindName) ∧
      f.toValue.field? "relation" = f.relation?.map (·.relation.toValue) := by
  rw [toValue]
  simp only [Value.field?_ofFields, entries, FieldInfo.entries, List.lookup_append,
    Attribute.lookup_entry]
  cases f <;> cases hd : (Field.info _).default <;> simp [List.lookup_cons, relation?]

theorem Field.eq_info_of_givenBy_toValue {f : Field} {i : FieldInfo} (h : FieldInfo.GivenBy f.toValue i) :
    i = f.info := by
  obtain ⟨hn, hd, hr, hu, hl, hv, -, -⟩ := f.field?_toValue
  have notName (y : String) : ¬ Value.GivesName .null y := by simp [Value.GivesName]
  have notFlag (y : Bool) : ¬ Value.GivesFlag .null y := by simp [Value.GivesFlag]
  have name := Value.eq_of_gives hn (fun _ => Value.GivesName.eq) h.name
  have description := Value.eq_of_givesAttribute hd (fun _ _ _ => Value.GivesName.eq) notName h.description
  have required := Value.eq_of_givesAttribute hr (fun _ _ _ => Value.GivesFlag.eq) notFlag h.required
  have unique := Value.eq_of_givesAttribute hu (fun _ _ _ => Value.GivesFlag.eq) notFlag h.unique
  have nullable := Value.eq_of_givesAttribute hl (fun _ _ _ => Value.GivesFlag.eq) notFlag h.nullable
  have default := h.default.trans hv
  cases i
  simp_all

theorem FieldInfo.GivenBy.written {v : Value} (f : Field) (h : FieldInfo.GivenBy v f.info) :
    FieldInfo.GivenBy f.toValue f.info := by
  obtain ⟨hn, hd, hr, hu, hl, hv, -, -⟩ := f.field?_toValue
  exact ⟨h.name.written hn fun w => Value.GivesName.written w _, h.description.written hd Value.GivesName.written,
    h.required.written hr Value.GivesFlag.written, h.unique.written hu Value.GivesFlag.written,
    h.nullable.written hl Value.GivesFlag.written, hv.symm⟩

theorem Field.eq_of_givenBy_toValue {f g : Field} (h : Field.GivenBy f.toValue g) : g = f := by
  obtain ⟨-, -, -, -, -, -, hk, ht⟩ := f.field?_toValue
  cases h with
  | @scalar g h =>
    have info := Field.eq_info_of_givenBy_toValue h.info
    obtain ⟨w, hw, hkind⟩ := h.kind
    have hname : f.kindName = g.kind.name :=
      Value.text.inj (Option.some.inj (hk.symm.trans (hw.trans (congrArg some hkind))))
    cases f with
    | relation f => exact absurd hname.symm g.kind.name_ne_relation
    | scalar f =>
      have kind := ScalarKind.name_injective hname
      cases f
      cases g
      simp_all [Field.info]
  | @relation g h =>
    have info := Field.eq_info_of_givenBy_toValue h.info
    have hname : f.kindName = relationKindName := Value.text.inj (Option.some.inj (hk.symm.trans h.kind))
    cases f with
    | scalar f => exact absurd hname f.kind.name_ne_relation
    | relation f =>
      have target := Value.eq_of_gives ht (fun _ => Relation.eq_of_givenBy_toValue) h.relation
      cases f
      cases g
      simp_all [Field.info]

theorem Field.GivenBy.written {v : Value} {f : Field} (h : Field.GivenBy v f) :
    Field.GivenBy f.toValue f := by
  obtain ⟨-, -, -, -, -, -, hk, ht⟩ := f.field?_toValue
  cases h with
  | @scalar f h => exact .scalar ⟨FieldInfo.GivenBy.written (.scalar f) h.info, Value.GivesChoice.written hk⟩
  | @relation f h =>
    exact .relation ⟨FieldInfo.GivenBy.written (.relation f) h.info, hk,
      h.relation.written ht fun _ => Relation.GivenBy.written⟩

/-! ## Entities and manifests -/

theorem Entity.field?_toValue (e : Entity) :
    e.toValue.field? "name" = some (.text e.name) ∧
      e.toValue.field? "table" = e.table.value? .text ∧
      e.toValue.field? "fields" = some (.list (e.fields.map Field.toValue)) := by
  simp [toValue, Value.field?_ofFields, List.lookup_append, Attribute.lookup_entry, List.lookup_cons]

theorem Entity.eq_of_givenBy_toValue {e e' : Entity} (h : Entity.GivenBy e.toValue e') : e' = e := by
  obtain ⟨hn, ht, hf⟩ := e.field?_toValue
  have name := Value.eq_of_gives hn (fun _ => Value.GivesName.eq) h.name
  have table := Value.eq_of_givesAttribute ht (fun _ _ _ => Value.GivesName.eq) (by simp [Value.GivesName]) h.table
  have fields := Value.eq_of_gives hf
    (fun _ => Value.eq_of_givesList fun _ _ => Field.eq_of_givenBy_toValue) h.fields
  cases e
  cases e'
  simp_all

theorem Entity.GivenBy.written {v : Value} {e : Entity} (h : Entity.GivenBy v e) :
    Entity.GivenBy e.toValue e := by
  obtain ⟨hn, ht, hf⟩ := e.field?_toValue
  exact ⟨h.name.written hn fun w => Value.GivesName.written w _, h.table.written ht Value.GivesName.written,
    h.fields.written hf fun _ hw => hw.written fun _ _ => Field.GivenBy.written⟩

theorem Manifest.field?_toValue (m : Manifest) :
    m.toValue.field? "id" = some (.text m.id) ∧
      m.toValue.field? "name" = some (.text m.name) ∧
      m.toValue.field? "version" = some (.text m.version) ∧
      m.toValue.field? "generators" = m.generators.value? .map ∧
      m.toValue.field? "entities" = some (.list (m.entities.map Entity.toValue)) ∧
      m.toValue.field? "relations" = m.relations.value? .map := by
  simp [toValue, entries, Value.field?_ofFields, List.lookup_append, Attribute.lookup_entry,
    List.lookup_cons]

/-- Free-form settings are mappings: no key of theirs is there twice. -/
structure Manifest.Proper (m : Manifest) : Prop where
  generators : ∀ es, m.generators = .set es → es.Distinct
  relations : ∀ es, m.relations = .set es → es.Distinct

theorem Manifest.eq_of_givenBy_toValue {m r : Manifest} (hm : m.Proper) (h : Manifest.GivenBy m.toValue r) :
    r = m := by
  obtain ⟨hi, hn, hv, hg, he, hr⟩ := m.field?_toValue
  have notMap (y : Entries) : ¬ Value.GivesTextMap .null y := by simp [Value.GivesTextMap]
  have id := Value.eq_of_gives hi (fun _ => Value.GivesName.eq) h.id
  have name := Value.eq_of_gives hn (fun _ => Value.GivesName.eq) h.name
  have version := Value.eq_of_gives hv (fun _ => Value.GivesName.eq) h.version
  have generators := Value.eq_of_givesAttribute hg
    (fun es hes _ => Value.GivesTextMap.eq (hm.generators es hes)) notMap h.generators
  have entities := Value.eq_of_gives he
    (fun _ => Value.eq_of_givesList fun _ _ => Entity.eq_of_givenBy_toValue) h.entities
  have relations := Value.eq_of_givesAttribute hr
    (fun es hes _ => Value.GivesTextMap.eq (hm.relations es hes)) notMap h.relations
  cases m
  cases r
  simp_all

theorem Manifest.GivenBy.written {v : Value} {m : Manifest} (h : Manifest.GivenBy v m) :
    Manifest.GivenBy m.toValue m := by
  obtain ⟨hi, hn, hv, hg, he, hr⟩ := m.field?_toValue
  exact ⟨h.id.written hi fun w => Value.GivesName.written w _,
    h.name.written hn fun w => Value.GivesName.written w _,
    h.version.written hv fun w => Value.GivesName.written w _,
    h.generators.written hg Value.GivesTextMap.written,
    h.entities.written he fun _ hw => hw.written fun _ _ => Entity.GivenBy.written,
    h.relations.written hr Value.GivesTextMap.written⟩

end Scaffold
