import Mathlib.Data.List.Pairwise
import Scaffold.Proofs.Manifest.Validation
import Scaffold.Proofs.Sql.Idle

/-!
# Names of indexes

The name of an index joins those of its table and of its field by an
underscore, which may be part of either. So two entities with tables of their
own can have one name for two indexes, of which the second is never made, and
the rollback of one entity then drops the index of the other one
(`Sql.indexes_apart_iff`).
-/

namespace Scaffold

namespace Sql

/-! ## Joined names -/

/-- Two names that are joined from two each: the parts are the same, or the first part of one goes on
where that of the other one ends. -/
theorem joined_eq_joined_iff {a b c d : String} : a ++ "_" ++ b = c ++ "_" ++ d ↔
    (a = c ∧ b = d) ∨ (∃ s, c = a ++ "_" ++ s ∧ b = s ++ "_" ++ d) ∨
      ∃ s, a = c ++ "_" ++ s ∧ d = s ++ "_" ++ b := by
  have hchars (x y : String) : (x ++ "_" ++ y).toList = x.toList ++ '_' :: y.toList := by
    simp [String.toList_append]
  constructor
  · intro h
    rw [← String.toList_inj, hchars, hchars, List.append_eq_append_iff] at h
    rcases h with ⟨w, hc, hb⟩ | ⟨w, ha, hd⟩
    · cases w with
      | nil => exact Or.inl (by simp_all [← String.toList_inj])
      | cons x w =>
        rw [List.cons_append, List.cons.injEq] at hb
        obtain ⟨rfl, hb⟩ := hb
        refine Or.inr (Or.inl ⟨String.ofList w, ?_, ?_⟩) <;> rw [← String.toList_inj, hchars] <;> simp_all
    · cases w with
      | nil => exact Or.inl (by simp_all [← String.toList_inj])
      | cons x w =>
        rw [List.cons_append, List.cons.injEq] at hd
        obtain ⟨rfl, hd⟩ := hd
        refine Or.inr (Or.inr ⟨String.ofList w, ?_, ?_⟩) <;> rw [← String.toList_inj, hchars] <;> simp_all
  · rintro (⟨rfl, rfl⟩ | ⟨s, rfl, rfl⟩ | ⟨s, rfl, rfl⟩) <;> simp only [String.append_assoc]

theorem ne_joined (a s : String) : a ≠ a ++ "_" ++ s := by
  intro h
  have hlength := congrArg (·.toList.length) h
  simp [String.toList_append] at hlength

def KeepsJoins (spell : String → String) : Prop :=
  ∀ a b, spell (a ++ "_" ++ b) = spell a ++ "_" ++ spell b

theorem keepsJoins_id : KeepsJoins id := fun _ _ => rfl

theorem foldName_append (a b : String) : foldName (a ++ b) = foldName a ++ foldName b := by
  simp [foldName]

theorem keepsJoins_foldName : KeepsJoins foldName := by
  intro a b
  rw [foldName_append, foldName_append]
  rfl

end Sql

/-! ## Entities with one name for two indexes -/

/-- The table of one entity begins with that of the other one and an underscore, and what is left of it
begins a field of the other one that goes on, behind an underscore, like a field of the first. -/
def Entity.SharesIndex (spell : String → String) (e e' : Entity) : Prop :=
  ∃ f ∈ Sql.indexedFields e, ∃ f' ∈ Sql.indexedFields e', ∃ s,
    spell e'.tableName = spell e.tableName ++ "_" ++ s ∧ spell f.name = s ++ "_" ++ spell f'.name

namespace Sql

section
variable {spell : String → String} (hspell : KeepsJoins spell)
include hspell

theorem spell_indexName (e : Entity) (f : ScalarField) :
    spell (indexName e f) = spell "idx" ++ "_" ++ (spell e.tableName ++ "_" ++ spell f.name) := by
  have hname : indexName e f = "idx" ++ "_" ++ (e.tableName ++ "_" ++ f.name) := by
    simp only [indexName, String.append_assoc]
    rfl
  rw [hname, hspell, hspell]

theorem spell_indexName_eq_iff {e e' : Entity} {f f' : ScalarField} :
    spell (indexName e f) = spell (indexName e' f') ↔
      spell e.tableName ++ "_" ++ spell f.name = spell e'.tableName ++ "_" ++ spell f'.name := by
  rw [spell_indexName hspell, spell_indexName hspell]
  exact String.append_right_inj _

omit hspell in
theorem not_sharesIndex_self (e : Entity) : ¬ e.SharesIndex spell e := by
  rintro ⟨f, -, f', -, s, htable, -⟩
  exact ne_joined _ _ htable

theorem disjoint_indexNames_iff {e e' : Entity} (htables : spell e.tableName ≠ spell e'.tableName) :
    ((indexNames e).map spell).Disjoint ((indexNames e').map spell) ↔
      ¬ e.SharesIndex spell e' ∧ ¬ e'.SharesIndex spell e := by
  rw [← not_or]
  constructor
  · rintro hdisjoint (⟨f, hf, f', hf', s, htable, hfield⟩ | ⟨f', hf', f, hf, s, htable, hfield⟩)
    all_goals
      refine hdisjoint (List.mem_map_of_mem (List.mem_map_of_mem hf))
        ((spell_indexName_eq_iff hspell).mpr ?_ ▸ List.mem_map_of_mem (List.mem_map_of_mem hf'))
      rw [htable, hfield]
      simp only [String.append_assoc]
  · intro hshares i hi hi'
    simp only [indexNames, List.map_map, List.mem_map, Function.comp_apply] at hi hi'
    obtain ⟨f, hf, rfl⟩ := hi
    obtain ⟨f', hf', heq⟩ := hi'
    rcases joined_eq_joined_iff.mp ((spell_indexName_eq_iff hspell).mp heq.symm) with
      ⟨htable, -⟩ | ⟨s, htable, hfield⟩ | ⟨s, htable, hfield⟩
    · exact htables htable
    · exact hshares (Or.inl ⟨f, hf, f', hf', s, htable, hfield⟩)
    · exact hshares (Or.inr ⟨f', hf', f, hf, s, htable, hfield⟩)

theorem nodup_spell_indexNames_iff (e : Entity) : ((indexNames e).map spell).Nodup ↔
    ((indexedFields e).map fun f => spell f.name).Nodup := by
  have hnames : (indexNames e).map spell = ((indexedFields e).map fun f => spell f.name).map
      fun s => spell "idx" ++ "_" ++ (spell e.tableName ++ "_" ++ s) := by
    rw [indexNames, List.map_map, List.map_map]
    exact List.map_congr_left fun f _ => spell_indexName hspell e f
  rw [hnames]
  refine List.nodup_map_iff fun s s' heq => ?_
  simpa only [String.append_right_inj] using heq

/-- Under distinct tables the names of indexes are distinct exactly when those of the fields of each
entity are, and no two entities share one. -/
theorem nodup_indexNames_iff {es : List Entity} (htables : (es.map fun e => spell e.tableName).Nodup) :
    ((es.flatMap indexNames).map spell).Nodup ↔
      (∀ e ∈ es, ((indexedFields e).map fun f => spell f.name).Nodup) ∧
        ∀ e ∈ es, ∀ e' ∈ es, ¬ e.SharesIndex spell e' := by
  have htables : es.Pairwise fun e e' => spell e.tableName ≠ spell e'.tableName := List.pairwise_map.mp htables
  rw [List.map_flatMap, List.nodup_flatMap]
  refine and_congr (forall₂_congr fun e _ => nodup_spell_indexNames_iff hspell e) ⟨fun h => ?_, fun h => ?_⟩
  · let Apart : Entity → Entity → Prop := fun e e' => ¬ e.SharesIndex spell e' ∧ ¬ e'.SharesIndex spell e
    have hsymm : Std.Symm Apart := ⟨fun _ _ hapart => hapart.symm⟩
    have hpairs : es.Pairwise Apart :=
      (htables.and h).imp fun ⟨ht, hdisjoint⟩ => (disjoint_indexNames_iff hspell ht).mp hdisjoint
    intro e he e' he'
    refine (hpairs.forall_of_forall (fun x _ => ?_) he he').1
    exact ⟨not_sharesIndex_self x, not_sharesIndex_self x⟩
  · refine htables.imp_of_mem fun he he' ht => ?_
    exact (disjoint_indexNames_iff hspell ht).mpr ⟨h _ he _ he', h _ he' _ he⟩

end

/-! ## Indexes in a database -/

theorem lookup_eq_some_of_unique {i t : String} : ∀ {ps : List (String × String)}, (i, t) ∈ ps →
    (∀ p ∈ ps, p.1 = i → p.2 = t) → ps.lookup i = some t
  | (j, u) :: ps, hmem, hunique => by
    obtain ⟨hhead, htail⟩ := List.forall_mem_cons.mp hunique
    by_cases hj : j = i
    · obtain rfl := hhead hj
      simp [hj]
    · have hmem : (i, t) ∈ ps := by
        rcases List.mem_cons.mp hmem with heq | hmem
        · exact absurd (Prod.mk.inj heq).1.symm hj
        · exact hmem
      rw [List.lookup_cons, beq_false_of_ne (Ne.symm hj)]
      exact lookup_eq_some_of_unique hmem htail

namespace Database

theorem tableOf?_of_execute {d d' : Database} {s : Statement} (h : d.execute s = some d')
    (hs : s.isDrop = false) (i : String) :
    d'.tableOf? i = (d.tableOf? i).or (s.createdIndex?.toList.lookup i) := by
  cases s with
  | createTable t cs =>
    cases h
    simp [addTable, Statement.createdIndex?]
  | createUniqueIndex j t c =>
    rw [execute] at h
    split at h
    · cases h
      by_cases hj : i = j
      · simp [addIndex, Statement.createdIndex?, hj]
      · simp [addIndex, Statement.createdIndex?, List.lookup_cons, hj, beq_false_of_ne hj]
    · cases h
  | dropIndex j => cases hs
  | dropTable t => cases hs

/-- Behind a run that drops nothing an index has the table that it had, or else the one it is first
made for. -/
theorem tableOf?_of_run : ∀ {ss : List Statement} {d d' : Database}, d.run ss = some d' →
    (∀ s ∈ ss, s.isDrop = false) → ∀ i,
      d'.tableOf? i = (d.tableOf? i).or ((ss.filterMap Statement.createdIndex?).lookup i)
  | [], d, d', h, _, i => by
    cases h
    simp
  | s :: ss, d, d', h, hkeeps, i => by
    rw [run_cons, Option.bind_eq_some_iff] at h
    obtain ⟨d₁, hd₁, h⟩ := h
    obtain ⟨hs, hss⟩ := List.forall_mem_cons.mp hkeeps
    rw [tableOf?_of_run h hss, tableOf?_of_execute hd₁ hs, Option.or_assoc, List.filterMap_cons]
    cases s.createdIndex? <;> simp [← List.lookup_append]

theorem run_of_isDrop : ∀ {ss : List Statement} (d : Database), (∀ s ∈ ss, s.isDrop) →
    ∃ d', d.run ss = some d' ∧ ∀ i,
      d'.tableOf? i = (d.tableOf? i).filter fun t => .dropIndex i ∉ ss ∧ .dropTable t ∉ ss
  | [], d, _ => ⟨d, rfl, fun i => by cases d.tableOf? i <;> simp [Option.filter]⟩
  | s :: ss, d, hdrops => by
    obtain ⟨hs, hss⟩ := List.forall_mem_cons.mp hdrops
    cases s with
    | createTable t cs => cases hs
    | createUniqueIndex j t c => cases hs
    | dropIndex j =>
      obtain ⟨d', hd', hleft⟩ := run_of_isDrop (d.dropIndex j) hss
      refine ⟨d', hd', fun i => ?_⟩
      rw [hleft]
      by_cases hi : i = j
      · subst hi
        simp [dropIndex]
      · cases h : d.tableOf? i <;> simp [dropIndex, h, hi]
    | dropTable t =>
      obtain ⟨d', hd', hleft⟩ := run_of_isDrop (d.dropTable t) hss
      refine ⟨d', hd', fun i => ?_⟩
      rw [hleft]
      cases h : d.tableOf? i with
      | none => simp [dropTable, h]
      | some u => by_cases hu : u = t <;> simp [dropTable, h, hu, Option.filter]

end Database

/-! ## Indexes of a migration -/

def indexes (es : List Entity) : List (String × String) :=
  es.flatMap fun e => (indexNames e).map (·, e.tableName)

theorem map_fst_indexes (es : List Entity) : (indexes es).map Prod.fst = es.flatMap indexNames := by
  rw [indexes, List.map_flatMap]
  simp only [List.map_map, Function.comp_def, List.map_id']

theorem mem_indexes_iff {es : List Entity} {i t : String} :
    (i, t) ∈ indexes es ↔ ∃ e ∈ es, i ∈ indexNames e ∧ e.tableName = t := by
  simp [indexes]

theorem createdIndexes_eq {e : Entity} {ss : List Statement} (h : createStatements e = .ok ss) :
    ss.filterMap Statement.createdIndex? = (indexNames e).map (·, e.tableName) := by
  obtain ⟨cs, -, rfl⟩ := createStatements_eq_ok h
  rw [List.filterMap_cons, List.filterMap_map, indexNames, List.map_map]
  exact congrFun List.filterMap_eq_map (indexedFields e)

theorem createdIndexes_flatten {es : List Entity} {groups : List (List Statement)}
    (h : es.mapM createStatements = .ok groups) :
    groups.flatten.filterMap Statement.createdIndex? = indexes es := by
  rw [List.filterMap_flatten, map_eq_of_mapM createdIndexes_eq h, ← List.flatMap_def]
  rfl

/-- Run on a database without tables, a migration finds no index there exactly when no two indexes
have one name, whatever the case of its letters. -/
theorem migration_makes_indexes_iff {m : Manifest} {groups : List (List Statement)}
    (h : migration m = .ok groups) :
    (∀ i t c, ¬ Database.empty.Idle (groups.flatten.map Statement.folded) (.createUniqueIndex i t c)) ↔
      ((m.entities.flatMap indexNames).map foldName).Nodup := by
  obtain ⟨d, hd⟩ := Database.run_migration_folded h .empty
  have hidle := Database.madeIndexes.forall_not_idle_iff hd (isDrop_migration h)
  have hindexes : (groups.flatten.map Statement.folded).filterMap Database.madeIndexes.name? =
      (m.entities.flatMap indexNames).map foldName := by
    rw [Database.madeIndexes, ← List.map_filterMap, createdIndexes_folded, createdIndexes_flatten h,
      ← map_fst_indexes, List.map_map, List.map_map]
    rfl
  rw [hindexes] at hidle
  refine Iff.trans ⟨fun h s i hs => ?_, fun h i t c => h _ i rfl⟩
    (hidle.trans (and_iff_left fun i _ => by simp [Database.madeIndexes, Database.empty]))
  obtain ⟨⟨j, t⟩, hmade, -⟩ := Option.map_eq_some_iff.mp hs
  obtain ⟨c, rfl⟩ := Statement.createdIndex?_eq_some_iff.mp hmade
  exact h j t c

/-! ## Rollback of one entity -/

theorem tableOf?_of_migration {m : Manifest} {groups : List (List Statement)} (h : migration m = .ok groups)
    {d : Database} (hd : Database.empty.run (groups.flatten.map Statement.folded) = some d) (i : String) :
    d.tableOf? i = ((indexes m.entities).map (Prod.map foldName foldName)).lookup i := by
  rw [Database.tableOf?_of_run hd (isDrop_migration h), createdIndexes_folded, createdIndexes_flatten h]
  rfl

theorem dropIndex_folded_mem_iff {e : Entity} {i : String} :
    .dropIndex i ∈ (dropStatements e).map Statement.folded ↔ i ∈ (indexNames e).map foldName := by
  simp [dropStatements, indexNames, Statement.folded]

theorem dropTable_folded_mem_iff {e : Entity} {t : String} :
    .dropTable t ∈ (dropStatements e).map Statement.folded ↔ foldName e.tableName = t := by
  simp [dropStatements, Statement.folded, eq_comm]

theorem isDrop_dropStatements (e : Entity) : ∀ s ∈ (dropStatements e).map Statement.folded, s.isDrop := by
  intro s hs
  obtain ⟨s', hs', rfl⟩ := List.mem_map.mp hs
  rcases List.mem_append.mp hs' with hs' | hs'
  · obtain ⟨f, -, rfl⟩ := List.mem_map.mp hs'
    rfl
  · cases List.mem_singleton.mp hs'
    rfl

namespace Database

/-- To roll one of two entities back leaves the indexes of the other one, each with its table. -/
def KeepsIndexes (d : Database) (e e' : Entity) : Prop :=
  ∃ d', d.run ((dropStatements e).map Statement.folded) = some d' ∧
    ∀ i ∈ indexNames e', d'.tableOf? (foldName i) = some (foldName e'.tableName)

theorem keepsIndexes_iff (d : Database) {e e' : Entity}
    (htables : foldName e.tableName ≠ foldName e'.tableName) : d.KeepsIndexes e e' ↔
      (∀ i ∈ indexNames e', d.tableOf? (foldName i) = some (foldName e'.tableName)) ∧
        ((indexNames e).map foldName).Disjoint ((indexNames e').map foldName) := by
  obtain ⟨d', hd', hleft⟩ := run_of_isDrop d (isDrop_dropStatements e)
  simp only [dropIndex_folded_mem_iff, dropTable_folded_mem_iff] at hleft
  have hone (i : String) : d'.tableOf? i = some (foldName e'.tableName) ↔
      d.tableOf? i = some (foldName e'.tableName) ∧ i ∉ (indexNames e).map foldName := by
    rw [hleft, Option.filter_eq_some_iff]
    simp [htables]
  unfold KeepsIndexes
  simp only [hd', Option.some.injEq, exists_eq_left', hone]
  refine forall₂_and.trans (and_congr_right fun _ => ⟨fun h i hi hi' => ?_, fun h i hi hi' => ?_⟩)
  · obtain ⟨j, hj, rfl⟩ := List.mem_map.mp hi'
    exact h j hj hi
  · exact h hi' (List.mem_map_of_mem hi)

end Database

/-- Under distinct tables each entity can be rolled back without the others exactly when no two of
them share an index. -/
theorem keepsIndexes_iff_not_sharesIndex {m : Manifest} {groups : List (List Statement)}
    (h : migration m = .ok groups) {d : Database}
    (hd : Database.empty.run (groups.flatten.map Statement.folded) = some d)
    (htables : (m.entities.map fun e => foldName e.tableName).Nodup) :
    (∀ e ∈ m.entities, ∀ e' ∈ m.entities, e ≠ e' → d.KeepsIndexes e e') ↔
      ∀ e ∈ m.entities, ∀ e' ∈ m.entities, ¬ e.SharesIndex foldName e' := by
  have htable {e e' : Entity} (he : e ∈ m.entities) (he' : e' ∈ m.entities) (hne : e ≠ e') :
      foldName e.tableName ≠ foldName e'.tableName := fun heq => hne (List.inj_on_of_nodup_map htables he he' heq)
  constructor
  · intro hkeeps e he e' he' hshares
    have hne : e ≠ e' := fun heq => not_sharesIndex_self e' (heq ▸ hshares)
    obtain ⟨-, hdisjoint⟩ := (d.keepsIndexes_iff (htable he he' hne)).mp (hkeeps e he e' he' hne)
    exact ((disjoint_indexNames_iff keepsJoins_foldName (htable he he' hne)).mp hdisjoint).1 hshares
  · intro hnone e he e' he' hne
    have hdisjoint {e₁ e₂ : Entity} (h₁ : e₁ ∈ m.entities) (h₂ : e₂ ∈ m.entities) (hne : e₁ ≠ e₂) :
        ((indexNames e₁).map foldName).Disjoint ((indexNames e₂).map foldName) :=
      (disjoint_indexNames_iff keepsJoins_foldName (htable h₁ h₂ hne)).mpr
        ⟨hnone e₁ h₁ e₂ h₂, hnone e₂ h₂ e₁ h₁⟩
    refine (d.keepsIndexes_iff (htable he he' hne)).mpr ⟨fun i hi => ?_, hdisjoint he he' hne⟩
    rw [tableOf?_of_migration h hd]
    have hmade := mem_indexes_iff.mpr ⟨e', he', hi, rfl⟩
    refine lookup_eq_some_of_unique (List.mem_map.mpr ⟨(i, e'.tableName), hmade, rfl⟩) ?_
    -- whatever has an index of this name is that entity
    rintro p hp hname
    obtain ⟨⟨j, t⟩, hjt, rfl⟩ := List.mem_map.mp hp
    obtain ⟨e₁, he₁, hj, rfl⟩ := mem_indexes_iff.mp hjt
    by_contra htables'
    have hne : e₁ ≠ e' := fun heq => htables' (heq ▸ rfl)
    refine hdisjoint he₁ he' hne (List.mem_map_of_mem hj) ?_
    rw [show foldName j = foldName i from hname]
    exact List.mem_map_of_mem hi

/-- **Indexes.** A migration makes the indexes of the entities in turn. Under distinct tables their
names are distinct exactly when no two entities share one. Where the tables stay distinct whatever
the case of letters, each index is made, and not found there, exactly when no entity has two fields
that are alike in this way and none shares an index with another one; to roll one entity back leaves
the indexes of the others exactly when none shares one. -/
theorem indexes_apart_iff {raw : Value} {m : Manifest} (h : Manifest.validate raw = .ok m) {t : Moment}
    {text : String} (htext : migrationText m t = .ok text) (htables : (m.entities.map (·.tableName)).Nodup) :
    ∃ groups, migration m = .ok groups ∧
      text = script m t groups ∧
      groups.flatten.filterMap Statement.createdIndex? =
        m.entities.flatMap (fun e => (indexNames e).map (·, e.tableName)) ∧
      (((groups.flatten.filterMap Statement.createdIndex?).map Prod.fst).Nodup ↔
        ∀ e ∈ m.entities, ∀ e' ∈ m.entities, ¬ e.SharesIndex id e') ∧
      ((m.entities.map fun e => foldName e.tableName).Nodup →
        ((∀ i table c, ¬ Database.empty.Idle (groups.flatten.map Statement.folded)
            (.createUniqueIndex i table c)) ↔
          (∀ e ∈ m.entities, ((indexedFields e).map fun f => foldName f.name).Nodup) ∧
            ∀ e ∈ m.entities, ∀ e' ∈ m.entities, ¬ e.SharesIndex foldName e') ∧
        ∃ d, Database.empty.run (groups.flatten.map Statement.folded) = some d ∧
          ((∀ e ∈ m.entities, ∀ e' ∈ m.entities, e ≠ e' → d.KeepsIndexes e e') ↔
            ∀ e ∈ m.entities, ∀ e' ∈ m.entities, ¬ e.SharesIndex foldName e')) := by
  obtain ⟨-, hfit⟩ := Manifest.validate_eq_ok_iff.mp h
  obtain ⟨groups, hgroups, rfl⟩ := migrationText_eq_ok.mp htext
  have hfields : ∀ e ∈ m.entities, ((indexedFields e).map fun f => f.name).Nodup := fun e he =>
    (hfit.fields e he).sublist ((List.filter_sublist.map _).trans e.scalarNames_sublist)
  refine ⟨groups, hgroups, rfl, createdIndexes_flatten hgroups, ?_, fun hfolded => ⟨?_, ?_⟩⟩
  · have hnames : ((m.entities.flatMap indexNames).map id).Nodup ↔ _ :=
      nodup_indexNames_iff keepsJoins_id htables
    rw [List.map_id] at hnames
    rw [createdIndexes_flatten hgroups, map_fst_indexes, hnames]
    exact and_iff_right hfields
  · rw [migration_makes_indexes_iff hgroups, nodup_indexNames_iff keepsJoins_foldName hfolded]
  · obtain ⟨d, hd⟩ := Database.run_migration_folded hgroups .empty
    exact ⟨d, hd, keepsIndexes_iff_not_sharesIndex hgroups hd hfolded⟩

/-- One table that begins like another one, and fields that make up for no difference. -/
theorem indexes_apart_shop :
    let entity (name field : String) : Value := .ofFields [("name", .text name), ("fields", .list [
      .ofFields [("name", .text field), ("kind", .text "string"), ("unique", .bool true)]])]
    let raw : Value := .ofFields [("id", .text "shop"), ("name", .text "Shop"), ("version", .text "1"),
      ("entities", .list [entity "item" "tag", entity "item_tag" "code"])]
    ∃ m groups d, Manifest.validate raw = .ok m ∧ migration m = .ok groups ∧
      groups.flatten.filterMap Statement.createdIndex? =
        [("idx_item_tag", "item"), ("idx_item_tag_code", "item_tag")] ∧
      Database.empty.run (groups.flatten.map Statement.folded) = some d ∧
      (∀ i table c, ¬ Database.empty.Idle (groups.flatten.map Statement.folded)
        (.createUniqueIndex i table c)) ∧
      ∀ e ∈ m.entities, ∀ e' ∈ m.entities, e ≠ e' → d.KeepsIndexes e e' := by
  intro entity raw
  obtain ⟨m, hm, text, htext, htables, hfolded, hindexes, hnames⟩ : ∃ m, Manifest.validate raw = .ok m ∧
      ∃ text, migrationText m ⟨⟨2024, 1, 1⟩, 0, 0, 0, 0, none⟩ = .ok text ∧
        (m.entities.map (·.tableName)).Nodup ∧ (m.entities.map fun e => foldName e.tableName).Nodup ∧
        m.entities.flatMap (fun e => (indexNames e).map (·, e.tableName)) =
          [("idx_item_tag", "item"), ("idx_item_tag_code", "item_tag")] ∧
        ((m.entities.flatMap indexNames).map foldName).Nodup :=
    ⟨_, rfl, _, rfl, by decide, by decide, by decide, by decide⟩
  obtain ⟨groups, hgroups, -, hcreated, -, hdatabase⟩ := indexes_apart_iff hm htext htables
  obtain ⟨hidle, d, hd, hkeeps⟩ := hdatabase hfolded
  have hapart := (nodup_indexNames_iff keepsJoins_foldName hfolded).mp hnames
  exact ⟨m, groups, d, hm, hgroups, hcreated.trans hindexes, hd, hidle.mpr hapart, hkeeps.mpr hapart.2⟩

/-- Two indexes of one name on tables of two names: the second one is never made, and to roll its
entity back drops the first. -/
theorem entities_share_index :
    let entity (name field : String) : Value := .ofFields [("name", .text name), ("fields", .list [
      .ofFields [("name", .text field), ("kind", .text "string"), ("unique", .bool true)]])]
    let raw : Value := .ofFields [("id", .text "shop"), ("name", .text "Shop"), ("version", .text "1"),
      ("entities", .list [entity "item" "tag_code", entity "item_tag" "code"])]
    ∃ m groups d tag, Manifest.validate raw = .ok m ∧ migration m = .ok groups ∧
      m.entities.map (·.tableName) = ["item", "item_tag"] ∧
      groups.flatten.filterMap Statement.createdIndex? =
        [("idx_item_tag_code", "item"), ("idx_item_tag_code", "item_tag")] ∧
      Database.empty.Idle groups.flatten (.createUniqueIndex "idx_item_tag_code" "item_tag" "code") ∧
      Database.empty.run groups.flatten = some d ∧ d.tableOf? "idx_item_tag_code" = some "item" ∧
      m.entities[1]? = some tag ∧
      (d.run (dropStatements tag)).map (·.tableOf? "idx_item_tag_code") = some none :=
  ⟨_, _, _, _, rfl, rfl, by decide, by decide,
    ⟨[_, _, _], [], _, rfl, rfl,
      (Database.execute_createUniqueIndex_eq_self_iff (by decide)).mpr (by decide)⟩,
    rfl, by decide, rfl, by decide⟩

end Sql

end Scaffold
