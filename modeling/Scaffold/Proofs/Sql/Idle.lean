import Scaffold.Proofs.Sql.ColumnNames
import Scaffold.Proofs.Sql.Rollback

/-!
# Statements that find what they make

A table is made unless there is one of its name, and so is an index. Such a
statement does nothing in a run exactly when its name was there before the run
or is made twice in it (`Database.Made.forall_not_idle_iff`).
-/

namespace Scaffold.Sql

/-! ## Kinds of statements -/

def Statement.folded : Statement → Statement
  | .createTable t cs => .createTable (foldName t) (cs.map fun c => { c with name := foldName c.name })
  | .createUniqueIndex i t c => .createUniqueIndex (foldName i) (foldName t) (foldName c)
  | .dropIndex i => .dropIndex (foldName i)
  | .dropTable t => .dropTable (foldName t)

def Statement.createdIndex? : Statement → Option (String × String)
  | .createUniqueIndex i t _ => some (i, t)
  | _ => none

def Statement.isDrop : Statement → Bool
  | .dropIndex _ | .dropTable _ => true
  | _ => false

theorem Statement.createdTable?_folded (s : Statement) :
    s.folded.createdTable? = s.createdTable?.map foldName := by
  cases s <;> rfl

theorem Statement.createdIndex?_folded (s : Statement) :
    s.folded.createdIndex? = s.createdIndex?.map (Prod.map foldName foldName) := by
  cases s <;> rfl

theorem Statement.createdTable?_eq_some_iff {s : Statement} {t : String} :
    s.createdTable? = some t ↔ ∃ cs, s = .createTable t cs := by
  cases s <;> simp [createdTable?, eq_comm]

theorem Statement.createdIndex?_eq_some_iff {s : Statement} {i t : String} :
    s.createdIndex? = some (i, t) ↔ ∃ c, s = .createUniqueIndex i t c := by
  cases s <;> simp [createdIndex?, eq_comm]

theorem createdTables_folded (ss : List Statement) :
    (ss.map Statement.folded).filterMap Statement.createdTable? =
      (ss.filterMap Statement.createdTable?).map foldName := by
  rw [List.filterMap_map, List.map_filterMap]
  exact List.filterMap_congr fun s _ => s.createdTable?_folded

theorem createdIndexes_folded (ss : List Statement) :
    (ss.map Statement.folded).filterMap Statement.createdIndex? =
      (ss.filterMap Statement.createdIndex?).map (Prod.map foldName foldName) := by
  rw [List.filterMap_map, List.map_filterMap]
  exact List.filterMap_congr fun s _ => s.createdIndex?_folded

namespace Database

/-- A statement comes up in a run that leaves the database as it is. -/
def Idle (d : Database) (ss : List Statement) (s : Statement) : Prop :=
  ∃ before after d', ss = before ++ s :: after ∧ d.run before = some d' ∧ d'.execute s = some d'

theorem idle_cons_iff {d : Database} {s s' : Statement} {ss : List Statement} :
    d.Idle (s :: ss) s' ↔ (s = s' ∧ d.execute s = some d) ∨ ∃ d', d.execute s = some d' ∧ d'.Idle ss s' := by
  constructor
  · rintro ⟨before, after, d', hsplit, hrun, hidle⟩
    cases before with
    | nil =>
      cases hsplit
      cases hrun
      exact Or.inl ⟨rfl, hidle⟩
    | cons _ before =>
      cases hsplit
      rw [run_cons, Option.bind_eq_some_iff] at hrun
      obtain ⟨d₁, hd₁, hrun⟩ := hrun
      exact Or.inr ⟨d₁, hd₁, before, after, d', rfl, hrun, hidle⟩
  · rintro (⟨rfl, hidle⟩ | ⟨d₁, hd₁, before, after, d', rfl, hrun, hidle⟩)
    · exact ⟨[], ss, d, rfl, rfl, hidle⟩
    · refine ⟨s :: before, after, d', rfl, ?_, hidle⟩
      rw [run_cons, hd₁, Option.bind_some, hrun]

/-! ## Names that are made once -/

/-- A kind of things that statements make, each under a name, where there is none of that name. -/
structure Made where
  name? : Statement → Option String
  Holds : Database → String → Prop
  grows : ∀ {d d' : Database} {s : Statement}, d.execute s = some d' → s.isDrop = false →
    ∀ n, Holds d' n ↔ name? s = some n ∨ Holds d n
  idle : ∀ {d d' : Database} {s : Statement} {n : String}, d.execute s = some d' → name? s = some n →
    (d.execute s = some d ↔ Holds d n)

namespace Made

variable (made : Made)

theorem forall_not_idle_cons_iff {d d' : Database} {s : Statement} {ss : List Statement}
    (h : d.execute s = some d') : (∀ s' n, made.name? s' = some n → ¬ d.Idle (s :: ss) s') ↔
      (∀ n, made.name? s = some n → ¬ made.Holds d n) ∧
        ∀ s' n, made.name? s' = some n → ¬ d'.Idle ss s' := by
  constructor
  · intro hnone
    refine ⟨fun n hn hold => ?_, fun s' n hn hidle => hnone s' n hn (idle_cons_iff.mpr (Or.inr ⟨d', h, hidle⟩))⟩
    exact hnone s n hn (idle_cons_iff.mpr (Or.inl ⟨rfl, (made.idle h hn).mpr hold⟩))
  · rintro ⟨hfirst, hrest⟩ s' n hn hidle
    rcases idle_cons_iff.mp hidle with ⟨rfl, hself⟩ | ⟨d₁, hd₁, hidle⟩
    · exact hfirst n hn ((made.idle h hn).mp hself)
    · cases h.symm.trans hd₁
      exact hrest s' n hn hidle

theorem forall_not_idle_iff : ∀ {ss : List Statement} {d d' : Database}, d.run ss = some d' →
    (∀ s ∈ ss, s.isDrop = false) →
      ((∀ s n, made.name? s = some n → ¬ d.Idle ss s) ↔ (ss.filterMap made.name?).Nodup ∧
        ∀ n ∈ ss.filterMap made.name?, ¬ made.Holds d n)
  | [], d, _, _, _ => by
    simp [Idle]
  | s :: ss, d, d', hrun, hkeeps => by
    rw [run_cons, Option.bind_eq_some_iff] at hrun
    obtain ⟨d₁, hd₁, hrun⟩ := hrun
    obtain ⟨hs, hss⟩ := List.forall_mem_cons.mp hkeeps
    have hgrows := made.grows hd₁ hs
    rw [made.forall_not_idle_cons_iff hd₁, forall_not_idle_iff hrun hss, List.filterMap_cons]
    cases hmade : made.name? s with
    | none => simp only [hgrows, hmade, reduceCtorEq, false_or, false_imp_iff, forall_const, true_and]
    | some n =>
      simp only [hgrows, hmade, Option.some.injEq, not_or, List.nodup_cons, List.forall_mem_cons]
      -- that the rest makes other names says the same as that it does not make this one
      grind

end Made

/-! ## Tables and indexes -/

theorem execute_createTable_eq_self_iff {d : Database} {t : String} {cs : List Column} :
    d.execute (.createTable t cs) = some d ↔ t ∈ d.tables := by
  rw [execute, Option.some.injEq]
  constructor
  · intro h
    rw [← h]
    exact Finset.mem_insert_self t d.tables
  · intro h
    ext1
    · exact Finset.insert_eq_of_mem h
    · rfl

theorem addIndex_eq_self_iff {d : Database} {i t : String} (ht : t ∈ d.tables) :
    d.addIndex i t ht = d ↔ (d.tableOf? i).isSome := by
  constructor
  · intro h
    rw [← h]
    simp [addIndex]
  · intro h
    ext1
    · rfl
    · funext j
      by_cases hj : j = i
      · subst hj
        obtain ⟨u, hu⟩ := Option.isSome_iff_exists.mp h
        simp [addIndex, hu]
      · simp [addIndex, hj]

theorem execute_createUniqueIndex_eq_self_iff {d : Database} {i t c : String} (ht : t ∈ d.tables) :
    d.execute (.createUniqueIndex i t c) = some d ↔ (d.tableOf? i).isSome := by
  rw [execute, dif_pos ht, Option.some.injEq]
  exact addIndex_eq_self_iff ht

def madeTables : Made where
  name? := Statement.createdTable?
  Holds d t := t ∈ d.tables
  grows {d d' s} h hkeeps n := by
    cases s with
    | createTable u cs =>
      cases h
      simp [addTable, Statement.createdTable?, eq_comm]
    | createUniqueIndex i u c =>
      rw [execute] at h
      split at h
      · cases h
        simp [addIndex, Statement.createdTable?]
      · cases h
    | dropIndex i => cases hkeeps
    | dropTable u => cases hkeeps
  idle {d d' s n} h hn := by
    obtain ⟨cs, rfl⟩ := Statement.createdTable?_eq_some_iff.mp hn
    exact execute_createTable_eq_self_iff

def madeIndexes : Made where
  name? s := s.createdIndex?.map Prod.fst
  Holds d i := (d.tableOf? i).isSome
  grows {d d' s} h hkeeps n := by
    cases s with
    | createTable u cs =>
      cases h
      simp [addTable, Statement.createdIndex?]
    | createUniqueIndex i u c =>
      rw [execute] at h
      split at h
      · cases h
        by_cases hi : i = n
        · subst hi
          simp [addIndex, Statement.createdIndex?]
        · simp [addIndex, Statement.createdIndex?, hi, Ne.symm hi]
      · cases h
    | dropIndex i => cases hkeeps
    | dropTable u => cases hkeeps
  idle {d d' s n} h hn := by
    obtain ⟨⟨i, t⟩, hs, rfl⟩ := Option.map_eq_some_iff.mp hn
    obtain ⟨c, rfl⟩ := Statement.createdIndex?_eq_some_iff.mp hs
    rw [execute] at h
    split at h
    · exact execute_createUniqueIndex_eq_self_iff ‹_›
    · cases h

/-! ## Migrations without regard to case -/

theorem run_folded {e : Entity} {ss : List Statement} (h : createStatements e = .ok ss) (d : Database) :
    ∃ d', d.run (ss.map Statement.folded) = some d' := by
  obtain ⟨cs, -, rfl⟩ := createStatements_eq_ok h
  have ht : foldName e.tableName ∈ (d.addTable (foldName e.tableName)).tables := Finset.mem_insert_self _ _
  obtain ⟨d', hrun, -⟩ := run_createIndexes ht (fun f => foldName (indexName e f))
    (fun f => foldName f.name) (indexedFields e)
  refine ⟨d', ?_⟩
  rw [List.map_cons, List.map_map, Statement.folded, run_cons, execute, Option.bind_some]
  exact hrun

theorem run_migration_folded : ∀ {es : List Entity} {groups : List (List Statement)},
    es.mapM createStatements = .ok groups → ∀ d : Database,
      ∃ d', d.run (groups.flatten.map Statement.folded) = some d'
  | [], _, h, d => by
    cases h
    exact ⟨d, rfl⟩
  | e :: es, groups, h, d => by
    rw [List.mapM_cons] at h
    obtain ⟨ss, hss, h⟩ := bind_eq_ok.mp h
    obtain ⟨rest, hrest, rfl⟩ := bind_pure_eq_ok.mp h
    obtain ⟨d₁, hd₁⟩ := run_folded hss d
    obtain ⟨d₂, hd₂⟩ := run_migration_folded hrest d₁
    refine ⟨d₂, ?_⟩
    rw [List.flatten_cons, List.map_append, run_append, hd₁, Option.bind_some, hd₂]

end Database

theorem isDrop_folded {e : Entity} {ss : List Statement} (h : createStatements e = .ok ss) :
    ∀ s ∈ ss, s.folded.isDrop = false := by
  obtain ⟨cs, -, rfl⟩ := createStatements_eq_ok h
  refine List.forall_mem_cons.mpr ⟨rfl, fun s hs => ?_⟩
  obtain ⟨f, -, rfl⟩ := List.mem_map.mp hs
  rfl

theorem isDrop_migration {m : Manifest} {groups : List (List Statement)} (h : migration m = .ok groups) :
    ∀ s ∈ groups.flatten.map Statement.folded, s.isDrop = false := by
  have hgroups : ∀ g ∈ groups, ∀ s ∈ g, s.folded.isDrop = false :=
    (forall_mem_iff_of_forall₂ (forall₂_of_mapM_eq_ok h)
      fun _ _ hg => iff_of_true trivial (isDrop_folded hg)).mp fun _ _ => trivial
  intro s hs
  obtain ⟨s', hs', rfl⟩ := List.mem_map.mp hs
  obtain ⟨g, hg, hs'⟩ := List.mem_flatten.mp hs'
  exact hgroups g hg s' hs'

/-- Run on a database without tables, a migration finds no table there exactly when no two entities
have one table, whatever the case of its letters. -/
theorem migration_not_idle_iff {m : Manifest} {groups : List (List Statement)} (h : migration m = .ok groups) :
    (∀ t cs, ¬ Database.empty.Idle (groups.flatten.map Statement.folded) (.createTable t cs)) ↔
      (m.entities.map fun e => foldName e.tableName).Nodup := by
  obtain ⟨d, hd⟩ := Database.run_migration_folded h .empty
  have hidle := Database.madeTables.forall_not_idle_iff hd (isDrop_migration h)
  have htables : (groups.flatten.map Statement.folded).filterMap Database.madeTables.name? =
      m.entities.map fun e => foldName e.tableName := by
    rw [Database.madeTables, createdTables_folded, createdTables_flatten h, tableNames, List.map_map]
    rfl
  rw [htables] at hidle
  refine Iff.trans ⟨fun h s t hs => ?_, fun h t cs => h _ t rfl⟩
    (hidle.trans (and_iff_left fun t _ => Finset.notMem_empty t))
  obtain ⟨cs, rfl⟩ := Statement.createdTable?_eq_some_iff.mp hs
  exact h t cs

end Scaffold.Sql
