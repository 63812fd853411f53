import Scaffold.Manifest.Validation
import Scaffold.Proofs.Sql.Database

/-!
# Rollbacks undo migrations

A rollback takes a database back to where it was before the migration, and a
migration that is run again changes nothing. Tables are dropped in reverse
order; an index is dropped behind its table exactly when two entities share
that table and the earlier one has the index
(`rollback_undoes_migration`).
-/

namespace Scaffold.Sql

/-! ## What stands before what -/

section
variable {α β : Type} {a b : β}

theorem pair_sublist_cons_iff {x : β} {xs : List β} :
    [a, b].Sublist (x :: xs) ↔ [a, b].Sublist xs ∨ (a = x ∧ b ∈ xs) := by
  rw [List.sublist_cons_iff]
  refine or_congr Iff.rfl ⟨?_, ?_⟩
  · rintro ⟨r, heq, hr⟩
    cases heq
    exact ⟨rfl, List.singleton_sublist.mp hr⟩
  · rintro ⟨rfl, hb⟩
    exact ⟨[b], rfl, List.singleton_sublist.mpr hb⟩

theorem pair_sublist_append_iff {xs ys : List β} :
    [a, b].Sublist (xs ++ ys) ↔ [a, b].Sublist xs ∨ (a ∈ xs ∧ b ∈ ys) ∨ [a, b].Sublist ys := by
  induction xs with
  | nil => simp
  | cons x xs ih =>
    rw [List.cons_append, pair_sublist_cons_iff, pair_sublist_cons_iff, ih, List.mem_append, List.mem_cons]
    grind

theorem pair_sublist_flatMap_iff {g : α → List β} {xs : List α} :
    [a, b].Sublist (xs.flatMap g) ↔
      (∃ x ∈ xs, [a, b].Sublist (g x)) ∨ ∃ x y, [x, y].Sublist xs ∧ a ∈ g x ∧ b ∈ g y := by
  induction xs with
  | nil => simp
  | cons x xs ih =>
    simp only [List.flatMap_cons, pair_sublist_append_iff, ih, pair_sublist_cons_iff, List.mem_flatMap,
      List.mem_cons]
    grind

end

/-! ## Tables and indexes that are dropped -/

def Statement.createdTable? : Statement → Option String
  | .createTable t _ => some t
  | _ => none

def Statement.droppedTable? : Statement → Option String
  | .dropTable t => some t
  | _ => none

theorem createdTables_eq {e : Entity} {ss : List Statement} (h : createStatements e = .ok ss) :
    ss.filterMap Statement.createdTable? = [e.tableName] := by
  obtain ⟨cs, -, rfl⟩ := createStatements_eq_ok h
  simp [Statement.createdTable?, List.filterMap_map]

theorem droppedTables_eq (e : Entity) :
    (dropStatements e).filterMap Statement.droppedTable? = [e.tableName] := by
  simp [dropStatements, Statement.droppedTable?, List.filterMap_map]

theorem createdTables_flatten {es : List Entity} {groups : List (List Statement)}
    (h : es.mapM createStatements = .ok groups) :
    groups.flatten.filterMap Statement.createdTable? = tableNames es := by
  rw [List.filterMap_flatten, map_eq_of_mapM createdTables_eq h, ← List.flatMap_def]
  exact List.flatMap_pure_eq_map _ es

theorem droppedTables_flatMap (es : List Entity) :
    (es.flatMap dropStatements).filterMap Statement.droppedTable? = tableNames es := by
  induction es with
  | nil => rfl
  | cons e es ih =>
    rw [List.flatMap_cons, List.filterMap_append, droppedTables_eq, ih]; rfl

theorem dropTable_mem_iff {e : Entity} {t : String} :
    .dropTable t ∈ dropStatements e ↔ e.tableName = t := by
  simp [dropStatements, eq_comm]

theorem dropIndex_mem_iff {e : Entity} {i : String} :
    .dropIndex i ∈ dropStatements e ↔ i ∈ indexNames e := by
  simp [dropStatements, indexNames]

/-- In the statements of one entity the table comes last. -/
theorem not_dropTable_before_dropIndex (e : Entity) (t i : String) :
    ¬ [.dropTable t, .dropIndex i].Sublist (dropStatements e) := by
  intro h
  rcases pair_sublist_append_iff.mp h with h | ⟨-, h⟩ | h
  · have hmem := h.subset List.mem_cons_self
    simp at hmem
  · simp at h
  · simpa using h.length_le

theorem dropTable_before_dropIndex_iff {es : List Entity} {t i : String} :
    [.dropTable t, .dropIndex i].Sublist (es.reverse.flatMap dropStatements) ↔
      ∃ e e', [e, e'].Sublist es ∧ i ∈ indexNames e ∧ e'.tableName = t := by
  have hrev (e e' : Entity) : [e', e].Sublist es.reverse ↔ [e, e'].Sublist es := by
    rw [← List.reverse_sublist, List.reverse_reverse]; rfl
  simp only [pair_sublist_flatMap_iff, not_dropTable_before_dropIndex, dropTable_mem_iff,
    dropIndex_mem_iff, hrev]
  grind

theorem exists_first_before {e' : Entity} {i t : String} : ∀ {es : List Entity},
    firstTable? es i = some t → (∃ e, [e, e'].Sublist es ∧ i ∈ indexNames e) →
      ∃ e, [e, e'].Sublist es ∧ i ∈ indexNames e ∧ e.tableName = t
  | [], h, _ => by cases h
  | e₀ :: es, h, ⟨e, hsub, hi⟩ => by
    rw [firstTable?_cons] at h
    rw [pair_sublist_cons_iff] at hsub
    by_cases h₀ : i ∈ indexNames e₀
    · rw [if_pos h₀, Option.some.injEq] at h
      have he' : e' ∈ es := hsub.elim (fun hsub => hsub.subset (by simp)) And.right
      exact ⟨e₀, pair_sublist_cons_iff.mpr (Or.inr ⟨rfl, he'⟩), h₀, h⟩
    · rw [if_neg h₀] at h
      have hsub : [e, e'].Sublist es := hsub.resolve_right fun heq => h₀ (heq.1 ▸ hi)
      obtain ⟨e₁, hsub₁, h₁⟩ := exists_first_before h ⟨e, hsub, hi⟩
      exact ⟨e₁, pair_sublist_cons_iff.mpr (Or.inl hsub₁), h₁⟩

/-! ## Migration and rollback -/

/-- A rollback drops an index behind its table for one reason: of two entities with this table, the
earlier one has the index. -/
theorem drops_behind_table_iff {d : Database} {es : List Entity} (hd : d.HoldsNone es) {t : String} :
    (∃ i, (d.withEntities es).tableOf? i = some t ∧
        [.dropTable t, .dropIndex i].Sublist (es.reverse.flatMap dropStatements)) ↔
      ∃ e e', [e, e'].Sublist es ∧ e.tableName = t ∧ e'.tableName = t ∧
        ∃ f ∈ indexedFields e, (d.withEntities es).tableOf? (indexName e f) = some t := by
  simp only [dropTable_before_dropIndex_iff]
  constructor
  · rintro ⟨i, ht, e, e', hsub, hi, he'⟩
    have hmem : e ∈ es := hsub.subset List.mem_cons_self
    have hfirst : firstTable? es i = some t := by
      simpa [Database.withEntities, hd.tableOf? ⟨e, hmem, hi⟩] using ht
    obtain ⟨e₁, hsub₁, hi₁, he₁⟩ := exists_first_before hfirst ⟨e, hsub, hi⟩
    obtain ⟨f, hf, rfl⟩ := List.mem_map.mp hi₁
    exact ⟨e₁, e', hsub₁, he₁, he', f, hf, ht⟩
  · rintro ⟨e, e', hsub, -, he', f, hf, ht⟩
    exact ⟨indexName e f, ht, e, e', hsub, List.mem_map_of_mem hf, he'⟩

/-- **Rollback.** A migration carried out and rolled back leaves a database as it was, if nothing in
it had a name of the manifest; carried out twice it makes what it makes once. Its rollback drops the
tables in reverse order, and an index behind its table only where two entities share that table. -/
theorem rollback_undoes_migration {m : Manifest} {t : Moment} {text : String}
    (h : migrationText m t = .ok text) :
    ∃ groups, migration m = .ok groups ∧
      text = script m t groups ∧
      (∀ d : Database, d.HoldsNone m.entities →
        ∃ d', d.run groups.flatten = some d' ∧ d'.run (rollback m) = some d ∧
          ∀ table, (∃ i, d'.tableOf? i = some table ∧
              [.dropTable table, .dropIndex i].Sublist (rollback m)) ↔
            ∃ e e', [e, e'].Sublist m.entities ∧ e.tableName = table ∧ e'.tableName = table ∧
              ∃ f ∈ indexedFields e, d'.tableOf? (indexName e f) = some table) ∧
      (∀ d : Database, ∃ d', d.run groups.flatten = some d' ∧ d'.run groups.flatten = some d') ∧
      (rollback m).filterMap Statement.droppedTable? =
        (groups.flatten.filterMap Statement.createdTable?).reverse := by
  obtain ⟨groups, hgroups, rfl⟩ := migrationText_eq_ok.mp h
  have hrun := Database.run_creates hgroups
  refine ⟨groups, hgroups, rfl, fun d hd => ?_, fun d => ?_, ?_⟩
  · refine ⟨d.withEntities m.entities, hrun d, ?_, fun table => drops_behind_table_iff hd⟩
    rw [rollback, Database.run_drops,
      Database.withoutEntities_congr (fun e => List.mem_reverse), Database.withoutEntities_withEntities hd]
  · refine ⟨d.withEntities m.entities, hrun d, ?_⟩
    rw [hrun, Database.withEntities_withEntities]
  · rw [rollback, droppedTables_flatMap, createdTables_flatten hgroups, tableNames, tableNames,
      List.map_reverse]

/-- Two indexes of one name, made for the tables of two entities: the first table has the index, and
the rollback leaves nothing behind. -/
theorem rollback_undoes_migration_shop :
    let entity (name field : String) : Value := .ofFields [("name", .text name), ("fields", .list [
      .ofFields [("name", .text field), ("kind", .text "string"), ("unique", .bool true)]])]
    let raw : Value := .ofFields [("id", .text "shop"), ("name", .text "Shop"), ("version", .text "1"),
      ("entities", .list [entity "item" "tag_code", entity "item_tag" "code"])]
    ∃ m groups d, Manifest.validate raw = .ok m ∧ migration m = .ok groups ∧
      Database.empty.run groups.flatten = some d ∧ d.tableOf? "idx_item_tag_code" = some "item" ∧
      d.run (rollback m) = some .empty := by
  intro entity raw
  obtain ⟨m, hm, text, htext, hfirst⟩ : ∃ m, Manifest.validate raw = .ok m ∧
      ∃ text, migrationText m ⟨⟨2024, 1, 1⟩, 0, 0, 0, 0, none⟩ = .ok text ∧
        firstTable? m.entities "idx_item_tag_code" = some "item" := ⟨_, rfl, _, rfl, by decide⟩
  obtain ⟨groups, hgroups, -, hback, -⟩ := rollback_undoes_migration htext
  obtain ⟨d, hd, hundo, -⟩ := hback .empty (fun e _ => ⟨by simp [Database.empty], fun _ _ => rfl⟩)
  refine ⟨m, groups, d, hm, hgroups, hd, ?_, hundo⟩
  rw [Database.run_creates hgroups, Option.some.injEq] at hd
  subst hd
  exact hfirst

/-- Two entities with one table and one between them. The rollback drops the table with the later
entity, before the other table, which was made later, and before the index of the earlier entity. -/
theorem rollback_drops_index_behind_table :
    let entity (name table : String) (fields : List Value) : Value := .ofFields [
      ("name", .text name), ("table", .text table), ("fields", .list fields)]
    let code (name : String) : Value := .ofFields [
      ("name", .text name), ("kind", .text "string"), ("unique", .bool true)]
    let total : Value := .ofFields [("name", .text "total"), ("kind", .text "number")]
    let raw : Value := .ofFields [("id", .text "shop"), ("name", .text "Shop"), ("version", .text "1"),
      ("entities", .list [entity "Customer" "people" [code "email"], entity "Order" "orders" [total],
        entity "Supplier" "people" [code "code"]])]
    ∃ m groups d, Manifest.validate raw = .ok m ∧ migration m = .ok groups ∧
      Database.empty.run groups.flatten = some d ∧ d.tableOf? "idx_people_email" = some "people" ∧
      rollback m = [.dropIndex "idx_people_code", .dropTable "people", .dropTable "orders",
        .dropIndex "idx_people_email", .dropTable "people"] ∧
      (Database.empty.run (groups.flatten.take 1)).map (·.tables) = some {"people"} ∧
      (d.run ((rollback m).take 2)).map (·.tables) = some {"orders"} :=
  ⟨_, _, _, rfl, rfl, rfl, by decide, by decide, by decide, by decide⟩

end Scaffold.Sql
