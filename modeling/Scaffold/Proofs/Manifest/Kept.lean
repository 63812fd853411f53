import Scaffold.Manifest.Value
import Scaffold.Proofs.Manifest.WellFormed

/-!
# What is kept of a manifest's value

A manifest is written with what was under the declared keys of its value, in
the order of their declaration, and with nothing else (`Manifest.kept`): no
attribute is lost on the way through the typed manifest, and none is added.
-/

namespace Scaffold

namespace Value

/-- What is under the keys of `parts`, in their order, each written by its own function. -/
def keptFields (v : Value) (parts : List (String × (Value → Value))) : List (String × Value) :=
  parts.filterMap fun part => (v.field? part.1).map fun w => (part.1, part.2 w)

def keep (v : Value) (parts : List (String × (Value → Value))) : Value := .ofFields (v.keptFields parts)

def unchanged (keys : List String) : List (String × (Value → Value)) := keys.map fun key => (key, id)

def keepItems (keep : Value → Value) (v : Value) : Value := .list ((v.items?.getD []).map keep)

def keepMap (v : Value) : Value := .map (Entries.ofList (v.entries?.getD []))

end Value

def Relation.kept (v : Value) : Value := v.keep (Value.unchanged ["entity", "field", "type"])

/-- The relation of a field is kept when the field is of the kind that has one. -/
def Field.kept (v : Value) : Value :=
  v.keep (Value.unchanged ["name", "description", "required", "unique", "nullable", "default"] ++
    ("kind", id) ::
      if (v.field? "kind").bind Value.text? = some relationKindName then [("relation", Relation.kept)]
      else [])

def Entity.kept (v : Value) : Value :=
  v.keep (Value.unchanged ["name", "table"] ++ [("fields", Value.keepItems Field.kept)])

def Manifest.kept (v : Value) : Value :=
  v.keep (Value.unchanged ["id", "name", "version"] ++ [("generators", Value.keepMap),
    ("entities", Value.keepItems Entity.kept), ("relations", Value.keepMap)])

/-! ## Kept parts -/

namespace Value

section
variable {α : Type} {p : Value → α → Prop} {v w : Value} {key : String} {f : Value → Value}
  {parts : List (String × (Value → Value))}

theorem keptFields_of_none (h : v.field? key = none) :
    v.keptFields ((key, f) :: parts) = v.keptFields parts := by
  rw [keptFields, List.filterMap_cons, h]
  rfl

theorem keptFields_of_some (h : v.field? key = some w) :
    v.keptFields ((key, f) :: parts) = (key, f w) :: v.keptFields parts := by
  rw [keptFields, List.filterMap_cons, h]
  rfl

theorem keptFields_of_gives {a : α} {write : α → Value} (h : v.Gives key p a)
    (hf : ∀ {w a}, p w a → f w = write a) :
    v.keptFields ((key, f) :: parts) = (key, write a) :: v.keptFields parts := by
  obtain ⟨w, hw, ha⟩ := h
  rw [keptFields_of_some hw, hf ha]

theorem keptFields_of_givesAttribute {a : Attribute α} {write : α → Value}
    (h : v.GivesAttribute key p a) (hf : ∀ {w a}, p w a → f w = write a) :
    v.keptFields ((key, f) :: parts) = a.entry key write ++ v.keptFields parts := by
  cases a with
  | unset => exact keptFields_of_none h
  | null => exact h.elim
  | set a => exact keptFields_of_gives h hf

theorem keepItems_of_gives {as : List α} {write : α → Value} (h : GivesList p v as)
    (hf : ∀ {w a}, p w a → f w = write a) : keepItems f v = .list (as.map write) := by
  obtain ⟨xs, hxs, has, -⟩ := h
  rw [keepItems, hxs, Option.getD_some]
  congr 1
  clear hxs
  induction has with
  | nil => rfl
  | cons hx _ ih => rw [List.map_cons, List.map_cons, hf hx, ih]

end

theorem keepMap_of_gives {v : Value} {es : Entries} (h : v.GivesTextMap es) : keepMap v = .map es := by
  obtain ⟨fs, rfl, -, rfl⟩ := h
  rfl

theorem GivesName.kept {v : Value} {s : String} (h : v.GivesName s) : id v = .text s := h.1

theorem GivesChoice.kept {α : Type} {name : α → String} {v : Value} {a : α}
    (h : v.GivesChoice name a) : id v = .text (name a) := h

theorem GivesFlag.kept {v : Value} {b : Bool} (h : v.GivesFlag b) : id v = .bool b := h

end Value

/-! ## Written manifests -/

theorem Relation.GivenBy.kept_eq {v : Value} {r : Relation} (h : Relation.GivenBy v r) :
    Relation.kept v = r.toValue := by
  unfold Relation.kept Relation.toValue Value.keep
  simp only [Value.unchanged, List.map_cons, List.map_nil]
  rw [Value.keptFields_of_gives h.entity Value.GivesName.kept,
    Value.keptFields_of_givesAttribute h.field Value.GivesName.kept,
    Value.keptFields_of_gives h.type Value.GivesChoice.kept]
  rfl

theorem FieldInfo.GivenBy.keptFields_eq {v : Value} {i : FieldInfo} (h : FieldInfo.GivenBy v i)
    (parts : List (String × (Value → Value))) :
    v.keptFields (Value.unchanged ["name", "description", "required", "unique", "nullable", "default"] ++
      parts) = i.entries ++ v.keptFields parts := by
  simp only [Value.unchanged, List.map_cons, List.map_nil, List.cons_append, List.nil_append]
  rw [Value.keptFields_of_gives h.name Value.GivesName.kept,
    Value.keptFields_of_givesAttribute h.description Value.GivesName.kept,
    Value.keptFields_of_givesAttribute h.required Value.GivesFlag.kept,
    Value.keptFields_of_givesAttribute h.unique Value.GivesFlag.kept,
    Value.keptFields_of_givesAttribute h.nullable Value.GivesFlag.kept]
  unfold FieldInfo.entries
  rw [h.default]
  cases hd : v.field? "default" with
  | none =>
    rw [Value.keptFields_of_none hd]
    simp
  | some w =>
    rw [Value.keptFields_of_some hd]
    simp

theorem Field.GivenBy.kept_eq {v : Value} {f : Field} (h : Field.GivenBy v f) :
    Field.kept v = f.toValue := by
  unfold Field.kept Field.toValue Field.entries Value.keep
  cases h with
  | @scalar f h =>
    obtain ⟨w, hw, rfl⟩ := h.kind
    have hkind : (v.field? "kind").bind Value.text? ≠ some relationKindName := by
      rw [hw]
      exact fun heq => f.kind.name_ne_relation (Option.some.inj heq)
    rw [if_neg hkind, h.info.keptFields_eq, Value.keptFields_of_some hw]
    simp [Field.info, Field.kindName, Field.relation?, Value.keptFields]
  | @relation f h =>
    have hkind : (v.field? "kind").bind Value.text? = some relationKindName := by
      rw [h.kind]
      rfl
    rw [if_pos hkind, h.info.keptFields_eq, Value.keptFields_of_some h.kind,
      Value.keptFields_of_gives h.relation Relation.GivenBy.kept_eq]
    simp [Field.info, Field.kindName, Field.relation?, Value.keptFields]

theorem Entity.GivenBy.kept_eq {v : Value} {e : Entity} (h : Entity.GivenBy v e) :
    Entity.kept v = e.toValue := by
  have fields {w fs} (hw : Value.GivesList Field.GivenBy w fs) :
      Value.keepItems Field.kept w = .list (fs.map Field.toValue) :=
    Value.keepItems_of_gives hw Field.GivenBy.kept_eq
  unfold Entity.kept Entity.toValue Value.keep
  simp only [Value.unchanged, List.map_cons, List.map_nil, List.cons_append, List.nil_append]
  rw [Value.keptFields_of_gives h.name Value.GivesName.kept,
    Value.keptFields_of_givesAttribute h.table Value.GivesName.kept,
    Value.keptFields_of_gives h.fields fields]
  rfl

theorem Manifest.GivenBy.kept_eq {v : Value} {m : Manifest} (h : Manifest.GivenBy v m) :
    Manifest.kept v = m.toValue := by
  have entities {w es} (hw : Value.GivesList Entity.GivenBy w es) :
      Value.keepItems Entity.kept w = .list (es.map Entity.toValue) :=
    Value.keepItems_of_gives hw Entity.GivenBy.kept_eq
  unfold Manifest.kept Manifest.toValue Manifest.entries Value.keep
  simp only [Value.unchanged, List.map_cons, List.map_nil, List.cons_append, List.nil_append]
  rw [Value.keptFields_of_gives h.id Value.GivesName.kept,
    Value.keptFields_of_gives h.name Value.GivesName.kept,
    Value.keptFields_of_gives h.version Value.GivesName.kept,
    Value.keptFields_of_givesAttribute h.generators Value.keepMap_of_gives,
    Value.keptFields_of_gives h.entities entities,
    Value.keptFields_of_givesAttribute h.relations Value.keepMap_of_gives]
  simp [Value.keptFields]

end Scaffold
