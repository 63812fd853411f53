import Scaffold.Proofs.Manifest.Validation
import Scaffold.Proofs.Records.Key

/-!
# Column names as SQLite compares them

SQLite takes two names for one when they differ in the case of ASCII letters
only. The columns of a table have distinct names, but distinct in this way they
are only if no two declared fields are alike, and none is like a column that is
added to them (`Sql.columns_apart_iff`).
-/

namespace Scaffold

namespace Sql

/-- A name without regard to the case of ASCII letters. -/
def foldName (s : String) : String := String.ofList (s.toList.map Char.toLower)

theorem foldName_timestamp : ∀ {n : String}, n ∈ timestampNames → foldName n = n := by
  decide

end Sql

/-! ## Columns apart -/

/-- No column of an entity's table has the name of another one. -/
structure Entity.ColumnsApart (e : Entity) : Prop where
  fields : (e.scalarFields.map fun f => Sql.foldName f.name).Nodup
  /-- A key is not added where a field is called `id` in other letters. -/
  key : e.needsSyntheticKey → ∀ f ∈ e.scalarFields, Sql.foldName f.name ≠ "id"
  /-- A field that is called like a timestamp is spelled like it. -/
  timestamps : ∀ f ∈ e.scalarFields, Sql.foldName f.name ∈ timestampNames → f.name ∈ timestampNames

namespace Entity

variable {e : Entity}

theorem map_foldName_addedTimestamps (e : Entity) :
    e.addedTimestamps.map Sql.foldName = e.addedTimestamps := by
  refine (List.map_congr_left fun n hn => ?_).trans (List.map_id _)
  exact Sql.foldName_timestamp (mem_addedTimestamps.mp hn).1

theorem map_foldName_columnNames (e : Entity) : e.columnNames.map Sql.foldName =
    (if e.needsSyntheticKey then ["id"] else []) ++ (e.scalarFields.map fun f => Sql.foldName f.name) ++
      e.addedTimestamps := by
  have hkey : (if e.needsSyntheticKey then ["id"] else []).map Sql.foldName =
      if e.needsSyntheticKey then ["id"] else [] := by
    cases e.needsSyntheticKey <;> decide
  rw [columnNames, List.map_append, List.map_append, hkey, map_foldName_addedTimestamps, List.map_map]
  rfl

theorem columnsApart_of_nodup (h : (e.columnNames.map Sql.foldName).Nodup) : e.ColumnsApart := by
  rw [map_foldName_columnNames, List.nodup_append, List.nodup_append] at h
  obtain ⟨⟨-, hfields, hkey⟩, -, hadded⟩ := h
  refine ⟨hfields, fun hsynthetic f hf hid => ?_, fun f hf hfold => ?_⟩
  · have hmem : "id" ∈ if e.needsSyntheticKey then ["id"] else [] := by simp [hsynthetic]
    exact hkey "id" hmem _ (List.mem_map_of_mem hf) hid.symm
  · -- the timestamp is not added, so it is a field, and no other field has its name
    by_contra hother
    have hnot : Sql.foldName f.name ∉ e.addedTimestamps := fun hmem =>
      hadded _ (List.mem_append_right _ (List.mem_map_of_mem hf)) _ hmem rfl
    have hdeclared : ∃ g ∈ e.scalarFields, g.name = Sql.foldName f.name := by
      simpa [mem_addedTimestamps, hfold] using hnot
    obtain ⟨g, hg, hname⟩ := hdeclared
    have hgf : Sql.foldName g.name = Sql.foldName f.name := by
      rw [hname, Sql.foldName_timestamp hfold]
    obtain rfl : g = f := List.inj_on_of_nodup_map hfields hg hf hgf
    exact hother (hname ▸ hfold)

theorem nodup_of_columnsApart (h : e.ColumnsApart) : (e.columnNames.map Sql.foldName).Nodup := by
  have hadded : e.addedTimestamps.Nodup := List.Nodup.filter _ (by decide)
  have hkey : (if e.needsSyntheticKey then ["id"] else []).Nodup := by
    cases e.needsSyntheticKey <;> decide
  rw [map_foldName_columnNames, List.nodup_append, List.nodup_append]
  refine ⟨⟨hkey, h.fields, fun n hn n' hn' heq => ?_⟩, hadded, fun n hn n' hn' heq => ?_⟩
  · obtain ⟨f, hf, rfl⟩ := List.mem_map.mp hn'
    by_cases hsynthetic : e.needsSyntheticKey
    · rw [if_pos hsynthetic, List.mem_singleton] at hn
      exact h.key hsynthetic f hf (heq.symm.trans hn)
    · rw [if_neg hsynthetic] at hn
      cases hn
  · obtain ⟨htimestamp, hundeclared⟩ := mem_addedTimestamps.mp hn'
    subst heq
    rcases List.mem_append.mp hn with hn | hn
    -- an added key does not have the name of a timestamp
    · have hid : n = "id" := by
        split at hn
        · exact List.mem_singleton.mp hn
        · cases hn
      subst hid
      exact absurd htimestamp (by decide)
    · obtain ⟨f, hf, rfl⟩ := List.mem_map.mp hn
      have hspelled := Sql.foldName_timestamp (h.timestamps f hf htimestamp)
      exact hundeclared f hf hspelled.symm

theorem nodup_foldName_columnNames_iff :
    (e.columnNames.map Sql.foldName).Nodup ↔ e.ColumnsApart :=
  ⟨columnsApart_of_nodup, nodup_of_columnsApart⟩

end Entity

/-! ## Statements that are refused -/

namespace Sql

/-- A table with two columns of one name, which is refused. -/
def Statement.RepeatsColumn : Statement → Prop
  | .createTable _ cs => ¬ (cs.map fun c => foldName c.name).Nodup
  | _ => False

theorem map_foldName_columns {e : Entity} {cs : List Column} (h : columns e = .ok cs) :
    (cs.map fun c => foldName c.name) = e.columnNames.map foldName := by
  rw [← map_name_columns h, List.map_map]
  rfl

/-- Of the statements of an entity only the one that makes its table can be refused. -/
theorem forall_not_repeatsColumn_iff {e : Entity} {ss : List Statement} (h : createStatements e = .ok ss) :
    (∀ s ∈ ss, ¬ s.RepeatsColumn) ↔ e.ColumnsApart := by
  obtain ⟨cs, hcs, rfl⟩ := createStatements_eq_ok h
  have hindexes : ∀ s ∈ (indexedFields e).map fun f =>
      Statement.createUniqueIndex (indexName e f) e.tableName f.name, ¬ s.RepeatsColumn := by
    intro s hs
    obtain ⟨f, -, rfl⟩ := List.mem_map.mp hs
    exact id
  rw [← Entity.nodup_foldName_columnNames_iff, ← map_foldName_columns hcs, List.forall_mem_cons,
    Statement.RepeatsColumn, not_not]
  exact and_iff_left hindexes

/-- **Columns.** Each table of a written migration has columns of distinct names. They are distinct
without regard to the case of letters exactly when the entity's columns are apart, and so no
statement is refused for a repeated column exactly when those of all entities are. -/
theorem columns_apart_iff {raw : Value} {m : Manifest} (h : Manifest.validate raw = .ok m) {t : Moment}
    {text : String} (htext : migrationText m t = .ok text) :
    ∃ groups, migration m = .ok groups ∧
      text = script m t groups ∧
      (∀ (i : Nat) (e : Entity), m.entities[i]? = some e →
        ∃ cs indexes, groups[i]? = some (.createTable e.tableName cs :: indexes) ∧
          cs.map (·.name) = (if e.needsSyntheticKey then ["id"] else []) ++
            e.scalarFields.map (fun f => f.name) ++ e.addedTimestamps ∧
          (cs.map (·.name)).Nodup ∧
          ((cs.map fun c => foldName c.name).Nodup ↔ e.ColumnsApart)) ∧
      ((∀ s ∈ groups.flatten, ¬ s.RepeatsColumn) ↔ ∀ e ∈ m.entities, e.ColumnsApart) := by
  obtain ⟨-, hfit⟩ := Manifest.validate_eq_ok_iff.mp h
  obtain ⟨groups, hgroups, rfl⟩ := migrationText_eq_ok.mp htext
  refine ⟨groups, hgroups, rfl, fun i e he => ?_, ?_⟩
  · obtain ⟨g, hg, hstatements⟩ := getElem?_of_mapM hgroups he
    obtain ⟨cs, hcs, rfl⟩ := createStatements_eq_ok hstatements
    refine ⟨cs, _, hg, map_name_columns hcs, ?_, ?_⟩
    · rw [map_name_columns hcs]
      exact Entity.nodup_columnNames (hfit.fields e (List.mem_of_getElem? he))
    · rw [map_foldName_columns hcs]
      exact Entity.nodup_foldName_columnNames_iff
  · rw [forall_mem_iff_of_forall₂ (forall₂_of_mapM_eq_ok hgroups)
      fun _ _ h => (forall_not_repeatsColumn_iff h).symm]
    simp only [List.mem_flatten, forall_exists_index, and_imp]
    exact ⟨fun hall g hg s hs => hall s g hg hs, fun hall s g hg hs => hall g hg s hs⟩

/-- Fields with the names of a key and of a timestamp, and two names that share letters. -/
theorem columns_apart_shop :
    let field (name kind : String) : Value := .ofFields [("name", .text name), ("kind", .text kind)]
    let raw : Value := .ofFields [("id", .text "shop"), ("name", .text "Shop"), ("version", .text "1"),
      ("entities", .list [
        .ofFields [("name", .text "Item"), ("fields", .list [field "id" "string", field "created_at" "date"])],
        .ofFields [("name", .text "Order"), ("fields", .list [field "Total" "number", field "totals" "json"])]])]
    ∃ m groups, Manifest.validate raw = .ok m ∧ migration m = .ok groups ∧
      m.entities.map (·.columnNames) =
        [["id", "created_at", "updated_at"], ["id", "Total", "totals", "created_at", "updated_at"]] ∧
      ∀ s ∈ groups.flatten, ¬ s.RepeatsColumn := by
  intro field raw
  obtain ⟨m, hm, text, htext, hnames, hfolded⟩ : ∃ m, Manifest.validate raw = .ok m ∧
      ∃ text, migrationText m ⟨⟨2024, 1, 1⟩, 0, 0, 0, 0, none⟩ = .ok text ∧
        m.entities.map (·.columnNames) =
          [["id", "created_at", "updated_at"], ["id", "Total", "totals", "created_at", "updated_at"]] ∧
        ∀ e ∈ m.entities, (e.columnNames.map foldName).Nodup :=
    ⟨_, rfl, _, rfl, by decide, by decide⟩
  obtain ⟨groups, hgroups, -, -, hiff⟩ := columns_apart_iff hm htext
  refine ⟨m, groups, hm, hgroups, hnames, hiff.mpr fun e he => ?_⟩
  exact Entity.columnsApart_of_nodup (hfolded e he)

/-- A key is added beside a field that SQLite takes for it. -/
theorem columns_repeat_key :
    let raw : Value := .ofFields [("id", .text "shop"), ("name", .text "Shop"), ("version", .text "1"),
      ("entities", .list [.ofFields [("name", .text "Item"),
        ("fields", .list [.ofFields [("name", .text "ID"), ("kind", .text "string")]])]])]
    ∃ m cs, Manifest.validate raw = .ok m ∧ migration m = .ok [[.createTable "item" cs]] ∧
      cs.map (·.name) = ["id", "ID", "created_at", "updated_at"] ∧
      (Statement.createTable "item" cs).RepeatsColumn :=
  ⟨_, _, rfl, rfl, by decide, by unfold Statement.RepeatsColumn; decide⟩

end Sql

end Scaffold
