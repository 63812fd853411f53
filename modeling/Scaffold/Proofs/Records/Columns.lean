import Scaffold.Manifest.Validation
import Scaffold.Proofs.Generation.Alike
import Scaffold.Proofs.Generation.Defaults
import Scaffold.Proofs.Records.Lines
import Scaffold.Proofs.Sql.Database
import Scaffold.Proofs.Text.Literals

/-!
# One table, described twice

A migration describes a table in its statements and the mapped classes describe
it in theirs. Both have the same columns with the same properties
(`migration_agrees_with_classes`), whatever attributes the fields have, and the
lines of both say so.
-/

namespace Scaffold

/-! ## One column -/

/-- A column of a table and an attribute of its class that say the same. -/
structure SameColumn (col : Sql.Column) (a : Mapped.Attribute) : Prop where
  name : a.name = col.name
  column : Text.readLiteral a.column = some col.name
  key : .primaryKey ∈ col.constraints ↔ .primaryKey ∈ a.options
  nullable : .primaryKey ∉ col.constraints →
    (.notNull ∈ col.constraints ↔ .nullable false ∈ a.options)
  optional : .primaryKey ∉ col.constraints → (.notNull ∈ col.constraints ↔ a.optional = false)
  unique : .unique ∈ col.constraints ↔ .unique ∈ a.options
  /-- The literal of a server's default reads as the text of the one default that the column has. -/
  default : ∀ l, .serverDefault l ∈ a.options →
    ∃ d, Text.readLiteral l = some d ∧ ∀ d', .default d' ∈ col.constraints ↔ d' = d
  /-- What is in the lists is what the lines say. -/
  clauses : ∀ k, col.Says k ↔ k ∈ col.constraints
  arguments : ∀ o, a.Says o ↔ o ∈ a.options
  annotation : (a.name ++ ": Mapped[Optional[").toList <+: a.render.toList ↔ a.optional = true

namespace SameColumn

theorem key_of_literal {name type column : String} (h : Text.readLiteral column = some name)
    (htype : ∃ c ∈ type.toList.head?, c ≠ 'O') (storage : Sql.ColumnType) (columnType : String) :
    SameColumn ⟨name, storage, [.primaryKey]⟩ ⟨name, type, false, column, columnType, [.primaryKey]⟩ where
  name := rfl
  column := h
  key := by simp
  nullable := by simp
  optional := by simp
  unique := by simp
  default := by simp
  clauses _ := Sql.Column.says_iff (Wording.ordered_singleton _)
  arguments _ := Mapped.Attribute.says_iff (Wording.ordered_singleton _)
  annotation := Mapped.Attribute.optional_iff htype

theorem timestamp {name : String} (h : name ∈ timestampNames) :
    SameColumn (Sql.timestampColumn name) (Mapped.timestamp name) where
  name := rfl
  column := by
    have : ∀ n ∈ timestampNames, Text.readLiteral (Mapped.timestamp n).column = some n := by decide
    exact this name h
  key := by simp [Sql.timestampColumn, Mapped.timestamp]
  nullable := by simp [Sql.timestampColumn, Mapped.timestamp]
  optional := by simp [Sql.timestampColumn, Mapped.timestamp]
  unique := by simp [Sql.timestampColumn, Mapped.timestamp]
  default l hl := by
    obtain rfl : l = "\"CURRENT_TIMESTAMP\"" := by simpa [Mapped.timestamp] using hl
    exact ⟨"CURRENT_TIMESTAMP", by decide, by simp [Sql.timestampColumn]⟩
  clauses _ := Sql.Column.says_iff (Wording.ordered_singleton _)
  arguments _ := Mapped.Attribute.says_iff (Wording.ordered_singleton _)
  annotation := Mapped.Attribute.optional_iff (Mapped.head_valueType .string)

theorem of_defaults {f : ScalarField} {defaults : List Sql.Constraint} {options : List Mapped.Option}
    (hdefaults : Sql.defaultConstraints f = .ok defaults) (hoptions : Mapped.serverDefaults f = .ok options) :
    SameColumn
      ⟨f.name, .ofKind f.kind, (if f.isRequired && !f.isNullable then [.notNull] else []) ++
        (if f.isUnique then [.unique] else []) ++ defaults⟩
      ⟨f.name, Mapped.valueType f.kind, !f.isRequired || f.isNullable, Text.literal f.name,
        Mapped.storedType f.kind, [.nullable (!f.isRequired || f.isNullable)] ++
          (if f.isUnique then [.unique] else []) ++ options⟩ := by
  -- nothing but a default stands among the defaults, so each property is settled in front of them
  have hconstraint {c : Sql.Constraint} : (∀ d, c ≠ .default d) → c ∉ defaults :=
    Sql.notMem_defaultConstraints hdefaults
  have hoption {o : Mapped.Option} : (∀ l, o ≠ .serverDefault l) → o ∉ options :=
    Mapped.notMem_serverDefaults hoptions
  refine ⟨rfl, Text.readLiteral_literal _, ?key, ?nullable, ?optional, ?unique, ?default,
    fun _ => Sql.Column.says_iff ?clauses, fun _ => Mapped.Attribute.says_iff ?arguments,
    Mapped.Attribute.optional_iff (Mapped.head_valueType f.kind)⟩
  case key => simp [hconstraint, hoption]
  case nullable => simp [hconstraint, hoption]
  case optional => simp [hconstraint]
  case unique => simp [hconstraint, hoption]
  case default =>
    intro l hl
    have hmem : .serverDefault l ∈ options := by simpa using hl
    obtain ⟨d, heq, hd⟩ := Mapped.eq_serverDefault_of_mem hoptions hmem
    cases heq
    rw [hdefaults] at hd
    cases hd
    exact ⟨d, Text.readLiteral_literal d, fun d' => by simp⟩
  case clauses =>
    refine Wording.ordered_append (fun k hk => ?_) (Sql.ordered_defaultConstraints hdefaults)
    cases k with
    | default => simp at hk
    | _ => rfl
  case arguments =>
    refine Wording.ordered_append (fun o ho => ?_) (Mapped.ordered_serverDefaults hoptions)
    cases o with
    | serverDefault => simp at ho
    | _ => rfl

/-- Where the migration has a literal for a default, so has the class, if it needs one. -/
theorem exists_serverDefaults {f : ScalarField} {defaults : List Sql.Constraint}
    (h : Sql.defaultConstraints f = .ok defaults) : ∃ options, Mapped.serverDefaults f = .ok options := by
  have hjson : f.hasJson false := by rw [← Sql.isOk_defaultConstraints, h]; rfl
  rw [← isOk_iff, Mapped.isOk_serverDefaults, hjson, Bool.or_true]

theorem ofField {e : Entity} {f : ScalarField} {col : Sql.Column} (h : Sql.Column.ofField e f = .ok col) :
    ∃ a, Mapped.Attribute.ofField e f = .ok a ∧ SameColumn col a := by
  rw [Sql.Column.ofField_eq] at h
  rw [Mapped.Attribute.ofField_eq]
  by_cases hkey : e.isPrimaryKey f
  · rw [if_pos hkey] at h ⊢
    cases h
    exact ⟨_, rfl, key_of_literal (Text.readLiteral_literal _) (Mapped.head_valueType f.kind) _ _⟩
  · rw [if_neg hkey] at h ⊢
    obtain ⟨defaults, hdefaults, rfl⟩ := map_eq_ok.mp h
    obtain ⟨options, hoptions⟩ := exists_serverDefaults hdefaults
    rw [hoptions]
    exact ⟨_, rfl, of_defaults hdefaults hoptions⟩

end SameColumn

/-! ## Names and keys -/

def Sql.Column.mark (col : Sql.Column) : String × Bool :=
  (col.name, decide (.primaryKey ∈ col.constraints))

def Mapped.Attribute.mark (a : Mapped.Attribute) : String × Bool :=
  (a.name, decide (.primaryKey ∈ a.options))

theorem Sql.Column.mark_of_ofField {e : Entity} {f : ScalarField} {col : Sql.Column}
    (h : Sql.Column.ofField e f = .ok col) : col.mark = (f.name, e.isPrimaryKey f) := by
  rw [ofField_eq] at h
  by_cases hkey : e.isPrimaryKey f
  · rw [if_pos hkey] at h
    cases h
    simp [mark, hkey]
  · rw [if_neg hkey] at h
    obtain ⟨defaults, hdefaults, rfl⟩ := map_eq_ok.mp h
    simp [mark, hkey, notMem_defaultConstraints hdefaults]

theorem Mapped.Attribute.mark_of_ofField {e : Entity} {f : ScalarField} {a : Mapped.Attribute}
    (h : Mapped.Attribute.ofField e f = .ok a) : a.mark = (f.name, e.isPrimaryKey f) := by
  rw [ofField_eq] at h
  by_cases hkey : e.isPrimaryKey f
  · rw [if_pos hkey] at h
    cases h
    simp [mark, hkey]
  · rw [if_neg hkey] at h
    obtain ⟨options, hoptions, rfl⟩ := map_eq_ok.mp h
    simp [mark, hkey, notMem_serverDefaults hoptions]

namespace Entity

def columnNames (e : Entity) : List String :=
  (if e.needsSyntheticKey then ["id"] else []) ++ e.scalarFields.map (·.name) ++ e.addedTimestamps

def columnMarks (e : Entity) : List (String × Bool) :=
  (if e.needsSyntheticKey then [("id", true)] else []) ++
    e.scalarFields.map (fun f => (f.name, e.isPrimaryKey f)) ++ e.addedTimestamps.map (·, false)

theorem map_fst_columnMarks (e : Entity) : e.columnMarks.map Prod.fst = e.columnNames := by
  unfold columnMarks columnNames
  cases e.needsSyntheticKey <;> simp [Function.comp_def]

end Entity

theorem map_mark_columns {e : Entity} {cs : List Sql.Column} (h : Sql.columns e = .ok cs) :
    cs.map Sql.Column.mark = e.columnMarks := by
  obtain ⟨declared, hdeclared, rfl⟩ := bind_pure_eq_ok.mp h
  have hmarks := map_eq_of_mapM Sql.Column.mark_of_ofField hdeclared
  rw [List.map_append, List.map_append, hmarks, List.map_map, Entity.columnMarks]
  cases e.needsSyntheticKey <;> rfl

theorem map_name_columns {e : Entity} {cs : List Sql.Column} (h : Sql.columns e = .ok cs) :
    cs.map (·.name) = e.columnNames := by
  rw [← e.map_fst_columnMarks, ← map_mark_columns h, List.map_map]
  rfl

theorem map_mark_attributes {e : Entity} {c : Mapped.Class} (h : Mapped.Class.ofEntity e = .ok c) :
    c.attributes.map Mapped.Attribute.mark = e.columnMarks := by
  obtain ⟨declared, hdeclared, rfl⟩ := bind_pure_eq_ok.mp h
  have hmarks := map_eq_of_mapM Mapped.Attribute.mark_of_ofField hdeclared
  rw [List.map_append, List.map_append, hmarks, List.map_map, Entity.columnMarks]
  cases e.needsSyntheticKey <;> rfl

theorem map_name_attributes {e : Entity} {c : Mapped.Class} (h : Mapped.Class.ofEntity e = .ok c) :
    c.attributes.map (·.name) = e.columnNames := by
  rw [← e.map_fst_columnMarks, ← map_mark_attributes h, List.map_map]
  rfl

/-! ## Whole tables -/

theorem exists_mappedClass {e : Entity} {cs : List Sql.Column} (h : Sql.columns e = .ok cs) :
    ∃ c, Mapped.Class.ofEntity e = .ok c ∧ List.Forall₂ SameColumn cs c.attributes := by
  obtain ⟨declared, hdeclared, rfl⟩ := bind_pure_eq_ok.mp h
  obtain ⟨attributes, hattributes, hall⟩ := forall₂_mapM SameColumn.ofField hdeclared
  refine ⟨_, by rw [Mapped.Class.ofEntity, hattributes]; rfl, ?_⟩
  refine List.rel_append (List.rel_append ?_ hall) ?_
  · cases e.needsSyntheticKey
    · exact .nil
    · exact .cons (SameColumn.key_of_literal (by decide) (Mapped.head_valueType .id) _ _) .nil
  · rw [List.forall₂_map_left_iff, List.forall₂_map_right_iff, List.forall₂_same]
    exact fun n hn => SameColumn.timestamp (List.mem_of_mem_filter hn)

theorem Mapped.Class.name_of_ofEntity {e : Entity} {c : Mapped.Class} (h : Mapped.Class.ofEntity e = .ok c) :
    c.name = e.name ∧ c.table = e.tableName := by
  obtain ⟨declared, -, rfl⟩ := bind_pure_eq_ok.mp h
  exact ⟨rfl, rfl⟩

theorem Mapped.moduleText_eq_ok {m : Manifest} {code : String} :
    Mapped.moduleText m = .ok code ↔ ∃ cs, Mapped.classes m = .ok cs ∧ code = Mapped.source m cs :=
  bind_pure_eq_ok

theorem Mapped.source_eq (m : Manifest) (cs : List Mapped.Class) :
    ∃ head, Mapped.source m cs = "\n".intercalate (head ++ ["class Base(DeclarativeBase):", "    pass"] ++
      cs.flatMap (fun c => "" :: "" :: c.lines) ++ [""]) := by
  unfold source
  exact ⟨[_, _, _, _, _, _, _, _, _, _, _, _, _], rfl⟩

/-- Statements and a class that describe the table of an entity alike. -/
structure SameTable (e : Entity) (statements : List Sql.Statement) (c : Mapped.Class) : Prop where
  columns : ∃ cs, statements = .createTable e.tableName cs ::
      (Sql.indexedFields e).map (fun f => .createUniqueIndex (Sql.indexName e f) e.tableName f.name) ∧
    statements.flatMap Sql.Statement.lines = [
      "CREATE TABLE IF NOT EXISTS " ++ e.tableName ++ " (",
      ",\n".intercalate (cs.map fun col => "  " ++ col.render),
      ");"] ++ (Sql.indexedFields e).map (fun f => "CREATE UNIQUE INDEX IF NOT EXISTS " ++ Sql.indexName e f ++
        " ON " ++ e.tableName ++ " (" ++ f.name ++ ");") ∧
    cs.map (·.name) = e.columnNames ∧ c.attributes.map (·.name) = e.columnNames ∧
    List.Forall₂ SameColumn cs c.attributes
  name : c.name = e.name
  table : ∃ l, c.lines = ["class " ++ e.name ++ "(Base):", "    __tablename__ = " ++ l, ""] ++
      c.attributes.map (fun a => "    " ++ a.render) ∧
    Text.readLiteral l = some e.tableName
  /-- Relation fields, wherever they stand, add nothing to either. -/
  relations : ∀ e', e.Alike e' →
    Sql.createStatements e' = .ok statements ∧ Mapped.Class.ofEntity e' = .ok c

theorem SameTable.of_ok {e : Entity} {statements : List Sql.Statement} {c : Mapped.Class}
    (hstatements : Sql.createStatements e = .ok statements) (hc : Mapped.Class.ofEntity e = .ok c) :
    SameTable e statements c := by
  obtain ⟨cs, hcs, hlist⟩ := Sql.createStatements_eq_ok hstatements
  obtain ⟨c', hc', hall⟩ := exists_mappedClass hcs
  obtain rfl : c = c' := Except.ok.inj (hc.symm.trans hc')
  obtain ⟨hname, htable⟩ := Mapped.Class.name_of_ofEntity hc
  refine ⟨⟨cs, hlist, ?_, map_name_columns hcs, map_name_attributes hc, hall⟩, hname,
    ⟨Text.literal e.tableName, ?_, Text.readLiteral_literal _⟩, fun e' he' => ?_⟩
  · rw [hlist, List.flatMap_cons, List.flatMap_map]
    exact congrArg (_ ++ ·) List.map_eq_flatMap.symm
  · rw [Mapped.Class.lines, hname, htable]
  · rw [← he'.createStatements, ← he'.mappedClass]
    exact ⟨hstatements, hc⟩

/-- Where the statements of all entities can be written, so can their classes. -/
theorem exists_mappedClasses {m : Manifest} {groups : List (List Sql.Statement)}
    (h : Sql.migration m = .ok groups) : ∃ classes, Mapped.classes m = .ok classes := by
  have hclass {e : Entity} {g : List Sql.Statement} (hg : Sql.createStatements e = .ok g) :
      ∃ c, Mapped.Class.ofEntity e = .ok c ∧ True := by
    obtain ⟨cs, hcs, -⟩ := Sql.createStatements_eq_ok hg
    obtain ⟨c, hc, -⟩ := exists_mappedClass hcs
    exact ⟨c, hc, trivial⟩
  obtain ⟨classes, hclasses, -⟩ := forall₂_mapM hclass h
  exact ⟨classes, hclasses⟩

/-- **Migration and classes describe the same tables.** Where a migration is written, so are the
mapped classes. For each entity in turn there is one group of statements and one class, with the
same table, the same columns in the same order, and for each column the same key, the same
properties and the same default, so far as the class leaves it to the database. The lines of a
column and of its attribute have the words for these and no others. -/
theorem migration_agrees_with_classes {m : Manifest} {t : Moment} {sql : String}
    (h : Sql.migrationText m t = .ok sql) :
    ∃ groups classes code, Sql.migration m = .ok groups ∧ Mapped.classes m = .ok classes ∧
      sql = Sql.script m t groups ∧ Mapped.moduleText m = .ok code ∧ code = Mapped.source m classes ∧
      groups.length = m.entities.length ∧ classes.length = m.entities.length ∧
      ∀ (i : Nat) (e : Entity), m.entities[i]? = some e →
        ∃ g c, groups[i]? = some g ∧ classes[i]? = some c ∧ SameTable e g c := by
  obtain ⟨groups, hgroups, rfl⟩ := Sql.migrationText_eq_ok.mp h
  obtain ⟨classes, hclasses⟩ := exists_mappedClasses hgroups
  have hmodule := Mapped.moduleText_eq_ok.mpr ⟨classes, hclasses, rfl⟩
  refine ⟨groups, classes, _, hgroups, hclasses, rfl, hmodule, rfl, ?_, ?_, fun i e he => ?_⟩
  · exact (forall₂_of_mapM_eq_ok hgroups).length_eq.symm
  · exact (forall₂_of_mapM_eq_ok hclasses).length_eq.symm
  · obtain ⟨g, hg, hstatements⟩ := getElem?_of_mapM hgroups he
    obtain ⟨c, hc, hofEntity⟩ := getElem?_of_mapM hclasses he
    exact ⟨g, c, hg, hc, .of_ok hstatements hofEntity⟩

/-- A default with quotes of both kinds and a line break, a required column that may be null, a
timestamp of the entity's own, and a relation field with the name of the key that is added. -/
theorem migration_agrees_with_classes_shop :
    let field (name kind : String) (attributes : List (String × Value)) : Value :=
      .ofFields ([("name", .text name), ("kind", .text kind)] ++ attributes)
    let fields : List Value := [
      field "id" "relation" [("unique", .bool true),
        ("relation", .ofFields [("entity", .text "Item"), ("type", .text "one")])],
      field "title" "string" [("required", .bool true), ("unique", .bool true),
        ("default", .text "it's \"new\"\n")],
      field "active" "boolean" [("required", .bool true), ("nullable", .bool true), ("default", .bool true)],
      field "created_at" "date" [("nullable", .bool false), ("default", .text "now")]]
    let raw : Value := .ofFields [("id", .text "shop"), ("name", .text "Shop"), ("version", .text "1"),
      ("entities", .list [.ofFields [("name", .text "Item"), ("fields", .list fields)]])]
    ∃ m sql code e g c, Manifest.validate raw = .ok m ∧
      Sql.migrationText m ⟨⟨2024, 1, 1⟩, 0, 0, 0, 0, none⟩ = .ok sql ∧ Mapped.moduleText m = .ok code ∧
      m.entities[0]? = some e ∧ e.columnNames = ["id", "title", "active", "created_at", "updated_at"] ∧
      SameTable e g c := by
  intro field fields raw
  obtain ⟨m, hm, e, he, hnames, sql, hsql⟩ : ∃ m, Manifest.validate raw = .ok m ∧
      ∃ e, m.entities[0]? = some e ∧
        e.columnNames = ["id", "title", "active", "created_at", "updated_at"] ∧
        ∃ sql, Sql.migrationText m ⟨⟨2024, 1, 1⟩, 0, 0, 0, 0, none⟩ = .ok sql :=
    ⟨_, rfl, _, rfl, by decide, _, rfl⟩
  obtain ⟨_, _, code, -, -, -, hmodule, -, -, -, hsame⟩ := migration_agrees_with_classes hsql
  obtain ⟨g, c, -, -, htable⟩ := hsame 0 e he
  exact ⟨m, sql, code, e, g, c, hm, hsql, hmodule, he, hnames, htable⟩

end Scaffold
