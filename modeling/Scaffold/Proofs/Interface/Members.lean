import Scaffold.Interface.Types
import Scaffold.Proofs.Records.CreateBody

/-!
# Interfaces and the classes behind them

An interface has a member for each scalar field, and two timestamps whether or
not fields have their names. The input for a new record is what is left when
the key that the application makes up and the timestamps are omitted. So
members are distinct, and the input has the attributes of the class that
creates a record, as long as no field has the name of such a timestamp
(`Interface.members_match_classes`).
-/

namespace Scaffold.Interface

def timestampMemberNames : List String := timestampMembers.map (·.name)

def memberNames (e : Entity) : List String := (Declaration.ofEntity e).members.map (·.name)

def inputKeys (e : Entity) : List String := (memberNames e).filter (· ∉ omittedNames e)

variable {e : Entity}

theorem memberNames_eq (e : Entity) :
    memberNames e = e.scalarFields.map (fun f => f.name) ++ timestampMemberNames := by
  have hfields : (e.scalarFields.map Member.ofField).map (·.name) = e.scalarFields.map fun f => f.name :=
    List.map_map
  rw [memberNames, Declaration.ofEntity, List.map_append, hfields, timestampMemberNames]

theorem nodup_memberNames_iff (h : (e.fields.map (·.name)).Nodup) :
    (memberNames e).Nodup ↔ ∀ f ∈ e.scalarFields, f.name ∉ timestampMemberNames := by
  have hscalars : (e.scalarFields.map fun f => f.name).Nodup := h.sublist e.scalarNames_sublist
  have htimestamps : timestampMemberNames.Nodup := by decide
  rw [memberNames_eq, List.nodup_append]
  constructor
  · rintro ⟨-, -, hapart⟩ f hf hmem
    exact hapart f.name (List.mem_map_of_mem hf) f.name hmem rfl
  · intro hapart
    refine ⟨hscalars, htimestamps, fun n hn n' hn' heq => ?_⟩
    obtain ⟨f, hf, rfl⟩ := List.mem_map.mp hn
    exact hapart f hf (heq ▸ hn')

/-! ## The input for a new record -/

theorem map_name_writableFields (e : Entity) : e.writableFields.map (fun f => f.name) =
    if e.serverAssignsKey then (e.scalarFields.map fun f => f.name).filter (· ≠ e.primaryKey)
    else e.scalarFields.map fun f => f.name := by
  rw [Entity.writableFields_eq]
  split
  · rw [List.filter_map]
    rfl
  · rfl

/-- What is omitted takes away the key that a client does not write, and the timestamps. -/
theorem inputKeys_eq (e : Entity) : inputKeys e =
    (e.writableFields.map fun f => f.name).filter (· ∉ timestampMemberNames) := by
  have homitted : omittedNames e =
      (if e.serverAssignsKey then [e.primaryKey] else []) ++ timestampMemberNames := rfl
  have htimestamps : timestampMemberNames.filter (· ∉ omittedNames e) = [] := by
    rw [List.filter_eq_nil_iff, homitted]
    intro n hn
    simp [hn]
  rw [inputKeys, memberNames_eq, List.filter_append, htimestamps, List.append_nil, homitted,
    map_name_writableFields]
  split
  · rw [List.filter_filter]
    refine List.filter_congr fun n _ => ?_
    simp [not_or, and_comm]
  · rfl

theorem inputKeys_eq_writable_iff : inputKeys e = e.writableFields.map (fun f => f.name) ↔
    ∀ f ∈ e.writableFields, f.name ∉ timestampMemberNames := by
  rw [inputKeys_eq, List.filter_eq_self]
  simp

/-! ## Members and attributes -/

theorem optional_ofField_iff (f : ScalarField) :
    (Member.ofField f).optional ↔ (Body.Attribute.ofField false f).default.isSome := by
  rw [← Option.not_isNone, Body.Attribute.isNone_default_ofField]
  simp [Member.ofField]

/-- **Members.** An interface has the attributes of the class that reads a record, optional where
they have a default, and the timestamps behind them. Its members are distinct exactly when no scalar
field has the name of a timestamp. The input for a new record has the attributes of the class that
creates one, without those that have the name of a timestamp. -/
theorem members_match_classes {raw : Value} {m : Manifest} (h : Manifest.validate raw = .ok m)
    {e : Entity} (he : e ∈ m.entities) :
    ∃ declared read create update inputLine updateLine, Body.classes e = [read, create, update] ∧
      read.name = e.name ++ "Schema" ∧ create.name = "Create" ++ e.name ++ "Schema" ∧
      entityText e = "\n".intercalate ((Declaration.ofEntity e).lines ++ ["", inputLine, updateLine]) ∧
      inputLine = "export type Create" ++ e.name ++ "Input = Omit<" ++ e.name ++ ", " ++
        alternatives (omittedNames e) ++ ">;" ∧
      (Declaration.ofEntity e).members = declared ++ timestampMembers ∧
      List.Forall₂ (fun member a => member.name = a.name ∧ (member.optional ↔ a.default.isSome))
        declared read.attributes ∧
      ((memberNames e).Nodup ↔ ∀ f ∈ e.scalarFields, f.name ∉ timestampMemberNames) ∧
      create.attributes.map (·.name) = e.writableFields.map (fun f => f.name) ∧
      inputKeys e = (create.attributes.map (·.name)).filter (· ∉ timestampMemberNames) ∧
      (inputKeys e = create.attributes.map (·.name) ↔
        ∀ f ∈ e.writableFields, f.name ∉ timestampMemberNames) := by
  obtain ⟨-, hfit⟩ := Manifest.validate_eq_ok_iff.mp h
  refine ⟨_, _, _, _, _, _, rfl, rfl, rfl, rfl, rfl, rfl, ?members, nodup_memberNames_iff (hfit.fields e he),
    Body.map_name false e.writableFields, ?keys, ?exact⟩
  case members =>
    rw [List.forall₂_map_left_iff, List.forall₂_map_right_iff, List.forall₂_same]
    exact fun f _ => ⟨rfl, optional_ofField_iff f⟩
  case keys =>
    rw [Body.map_name]
    exact inputKeys_eq e
  case exact =>
    rw [Body.map_name]
    exact inputKeys_eq_writable_iff

/-- A key that the application makes up, a relation with the name of a timestamp, and fields with
each choice of flags. -/
theorem members_match_classes_task :
    let field (name kind : String) (attributes : List (String × Value)) : Value :=
      .ofFields ([("name", .text name), ("kind", .text kind)] ++ attributes)
    let fields : List Value := [field "ref" "uuid" [],
      field "createdAt" "relation" [("relation", .ofFields [("entity", .text "Task"), ("type", .text "one")])],
      field "title" "string" [("required", .bool true)],
      field "due" "date" [("required", .bool true), ("nullable", .bool true)]]
    let raw : Value := .ofFields [("id", .text "todo"), ("name", .text "Todo"), ("version", .text "1"),
      ("entities", .list [.ofFields [("name", .text "Task"), ("fields", .list fields)]])]
    ∃ m e read create update, Manifest.validate raw = .ok m ∧ e ∈ m.entities ∧
      Body.classes e = [read, create, update] ∧
      memberNames e = ["ref", "title", "due", "createdAt", "updatedAt"] ∧ (memberNames e).Nodup ∧
      inputKeys e = create.attributes.map (·.name) ∧ inputKeys e = ["title", "due"] := by
  intro field fields raw
  obtain ⟨m, hm, e, he, hmembers, hkeys, hscalars, hwritable⟩ : ∃ m, Manifest.validate raw = .ok m ∧
      ∃ e, e ∈ m.entities ∧ memberNames e = ["ref", "title", "due", "createdAt", "updatedAt"] ∧
        inputKeys e = ["title", "due"] ∧
        (∀ f ∈ e.scalarFields, f.name ∉ timestampMemberNames) ∧
        ∀ f ∈ e.writableFields, f.name ∉ timestampMemberNames :=
    ⟨_, rfl, _, List.mem_singleton.mpr rfl, by decide, by decide, by decide, by decide⟩
  obtain ⟨-, read, create, update, -, -, hclasses, -, -, -, -, -, -, hnodup, -, -, hexact⟩ :=
    members_match_classes hm he
  exact ⟨m, e, read, create, update, hm, he, hclasses, hmembers, hnodup.mpr hscalars,
    hexact.mpr hwritable, hkeys⟩

/-- A field with the name of a timestamp is a member twice, and the input for a new record is
without it, though the class that creates a record needs it. -/
theorem members_repeat_timestamp :
    let field (name kind : String) : Value :=
      .ofFields [("name", .text name), ("kind", .text kind), ("required", .bool true)]
    let raw : Value := .ofFields [("id", .text "todo"), ("name", .text "Todo"), ("version", .text "1"),
      ("entities", .list [.ofFields [("name", .text "Task"),
        ("fields", .list [field "title" "string", field "createdAt" "date"])]])]
    ∃ m e read create update, Manifest.validate raw = .ok m ∧ e ∈ m.entities ∧
      Body.classes e = [read, create, update] ∧
      memberNames e = ["title", "createdAt", "createdAt", "updatedAt"] ∧ inputKeys e = ["title"] ∧
      (create.attributes.filter (·.default.isNone)).map (·.name) = ["title", "createdAt"] :=
  ⟨_, _, _, _, _, rfl, List.mem_singleton.mpr rfl, rfl, by decide, by decide, by decide⟩

end Scaffold.Interface
