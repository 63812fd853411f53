import Mathlib.Data.Finset.Basic
import Scaffold.Proofs.Value.Writable
import Scaffold.Sql.Migration

/-!
# What statements do to a database

Of a database only the names count: its tables, and its indexes with the table
of each. A migration puts the names of a manifest next to those that are there
(`Database.run_creates`), whatever they are, and its rollback takes them away
(`Database.run_drops`).
-/

namespace Scaffold.Sql

@[ext]
structure Database where
  tables : Finset String
  /-- The table of an index. -/
  tableOf? : String → Option String
  attached : ∀ {i t}, tableOf? i = some t → t ∈ tables

namespace Database

def empty : Database := ⟨∅, fun _ => none, fun h => by cases h⟩

/-! ## Statements -/

def addTable (d : Database) (t : String) : Database where
  tables := insert t d.tables
  tableOf? := d.tableOf?
  attached h := Finset.mem_insert_of_mem (d.attached h)

/-- An index that is there stays with its table. -/
def addIndex (d : Database) (i t : String) (ht : t ∈ d.tables) : Database where
  tables := d.tables
  tableOf? j := (d.tableOf? j).or (if j = i then some t else none)
  attached {j s} h := by
    rcases Option.or_eq_some_iff.mp h with h | ⟨-, h⟩
    · exact d.attached h
    · split at h <;> simp_all

def dropIndex (d : Database) (i : String) : Database where
  tables := d.tables
  tableOf? j := if j = i then none else d.tableOf? j
  attached h := by
    split at h
    · cases h
    · exact d.attached h

/-- A table goes with its indexes. -/
def dropTable (d : Database) (t : String) : Database where
  tables := d.tables.erase t
  tableOf? j := (d.tableOf? j).filter (· ≠ t)
  attached h := by
    obtain ⟨h, hne⟩ := Option.filter_eq_some_iff.mp h
    exact Finset.mem_erase.mpr ⟨by simpa using hne, d.attached h⟩

/-- A statement carried out; an index of a table that does not exist is refused. -/
def execute (d : Database) : Statement → Option Database
  | .createTable t _ => some (d.addTable t)
  | .createUniqueIndex i t _ => if ht : t ∈ d.tables then some (d.addIndex i t ht) else none
  | .dropIndex i => some (d.dropIndex i)
  | .dropTable t => some (d.dropTable t)

def run (d : Database) (ss : List Statement) : Option Database := ss.foldlM execute d

variable (d : Database)

@[simp] theorem run_nil : d.run [] = some d := rfl

@[simp] theorem run_cons (s : Statement) (ss : List Statement) :
    d.run (s :: ss) = (d.execute s).bind (·.run ss) :=
  List.foldlM_cons

theorem run_append (ss ss' : List Statement) : d.run (ss ++ ss') = (d.run ss).bind (·.run ss') :=
  List.foldlM_append

end Database

/-! ## Names of entities -/

def tableNames (es : List Entity) : List String := es.map (·.tableName)

def indexNames (e : Entity) : List String := (indexedFields e).map (indexName e)

def firstTable? (es : List Entity) (i : String) : Option String :=
  (es.find? fun e => i ∈ indexNames e).map (·.tableName)

@[simp] theorem firstTable?_nil (i : String) : firstTable? [] i = none := rfl

@[simp] theorem firstTable?_cons (e : Entity) (es : List Entity) (i : String) :
    firstTable? (e :: es) i = if i ∈ indexNames e then some e.tableName else firstTable? es i := by
  by_cases h : i ∈ indexNames e <;> simp [firstTable?, h]

theorem firstTable?_eq_none_iff {es : List Entity} {i : String} :
    firstTable? es i = none ↔ ∀ e ∈ es, i ∉ indexNames e := by
  simp [firstTable?]

theorem mem_tableNames_of_firstTable? {es : List Entity} {i t : String} (h : firstTable? es i = some t) :
    t ∈ tableNames es := by
  obtain ⟨e, he, rfl⟩ := Option.map_eq_some_iff.mp h
  exact List.mem_map_of_mem (List.mem_of_find?_eq_some he)

theorem migrationText_eq_ok {m : Manifest} {t : Moment} {text : String} :
    migrationText m t = .ok text ↔ ∃ groups, migration m = .ok groups ∧ text = script m t groups :=
  bind_pure_eq_ok

theorem createStatements_eq_ok {e : Entity} {ss : List Statement} (h : createStatements e = .ok ss) :
    ∃ cs, columns e = .ok cs ∧ ss = .createTable e.tableName cs ::
      (indexedFields e).map fun f => .createUniqueIndex (indexName e f) e.tableName f.name := by
  obtain ⟨cs, hcs, rfl⟩ := bind_pure_eq_ok.mp h
  exact ⟨cs, hcs, rfl⟩

namespace Database

/-! ## Names made -/

/-- The names of entities next to those that are there. An index that is made twice belongs to the
first table. -/
def withEntities (d : Database) (es : List Entity) : Database where
  tables := d.tables ∪ (tableNames es).toFinset
  tableOf? i := (d.tableOf? i).or (firstTable? es i)
  attached h := by
    rcases Option.or_eq_some_iff.mp h with h | ⟨-, h⟩
    · exact Finset.mem_union_left _ (d.attached h)
    · exact Finset.mem_union_right _ (List.mem_toFinset.mpr (mem_tableNames_of_firstTable? h))

theorem withEntities_nil (d : Database) : d.withEntities [] = d := by
  ext <;> simp [withEntities, tableNames]

theorem withEntities_cons (d : Database) (e : Entity) (es : List Entity) :
    d.withEntities (e :: es) = (d.withEntities [e]).withEntities es := by
  ext i
  · simp [withEntities, tableNames]
  · by_cases h : i ∈ indexNames e <;> simp [withEntities, h]

theorem run_createIndexes {d : Database} {t : String} (ht : t ∈ d.tables)
    (name column : ScalarField → String) : ∀ fs : List ScalarField, ∃ d' : Database,
      d.run (fs.map fun f => .createUniqueIndex (name f) t (column f)) = some d' ∧ d'.tables = d.tables ∧
        ∀ i, d'.tableOf? i = (d.tableOf? i).or (if i ∈ fs.map name then some t else none)
  | [] => ⟨d, rfl, rfl, by simp⟩
  | f :: fs => by
    obtain ⟨d', hrun, htables, hindexes⟩ :=
      run_createIndexes (d := d.addIndex (name f) t ht) ht name column fs
    refine ⟨d', ?_, htables, fun i => ?_⟩
    · simpa [execute, ht] using hrun
    · rw [hindexes]
      by_cases h : i = name f <;> simp [addIndex, h]

theorem run_createStatements {e : Entity} {ss : List Statement} (h : createStatements e = .ok ss)
    (d : Database) : d.run ss = some (d.withEntities [e]) := by
  obtain ⟨cs, -, rfl⟩ := createStatements_eq_ok h
  have ht : e.tableName ∈ (d.addTable e.tableName).tables := Finset.mem_insert_self _ _
  obtain ⟨d', hrun, htables, hindexes⟩ := run_createIndexes ht (indexName e) (·.name) (indexedFields e)
  have heq : d' = d.withEntities [e] := by
    ext i
    · simp [htables, addTable, withEntities, tableNames, or_comm]
    · simp [hindexes, addTable, withEntities, indexNames]
  rw [run_cons, execute, Option.bind_some, hrun, heq]

theorem run_creates : ∀ {es : List Entity} {groups : List (List Statement)},
    es.mapM createStatements = .ok groups → ∀ d : Database,
      d.run groups.flatten = some (d.withEntities es)
  | [], _, h, d => by
    cases h
    rw [withEntities_nil]; rfl
  | e :: es, groups, h, d => by
    rw [List.mapM_cons] at h
    obtain ⟨ss, hss, h⟩ := bind_eq_ok.mp h
    obtain ⟨rest, hrest, rfl⟩ := bind_pure_eq_ok.mp h
    rw [List.flatten_cons, run_append, run_createStatements hss, Option.bind_some, run_creates hrest,
      ← withEntities_cons]

/-! ## Names taken away -/

def withoutEntities (d : Database) (es : List Entity) : Database where
  tables := d.tables.filter (· ∉ tableNames es)
  tableOf? i := if ∃ e ∈ es, i ∈ indexNames e then none else (d.tableOf? i).filter (· ∉ tableNames es)
  attached h := by
    split at h
    · cases h
    · obtain ⟨h, hnot⟩ := Option.filter_eq_some_iff.mp h
      exact Finset.mem_filter.mpr ⟨d.attached h, by simpa using hnot⟩

theorem withoutEntities_congr {es es' : List Entity} (h : ∀ e, e ∈ es ↔ e ∈ es') (d : Database) :
    d.withoutEntities es = d.withoutEntities es' := by
  simp [withoutEntities, tableNames, h]

theorem withoutEntities_cons (d : Database) (e : Entity) (es : List Entity) :
    d.withoutEntities (e :: es) = (d.withoutEntities [e]).withoutEntities es := by
  ext i
  · simp [withoutEntities, tableNames]; tauto
  · by_cases h : i ∈ indexNames e
    · simp [withoutEntities, h]
    · simp [withoutEntities, h, tableNames]

theorem run_dropIndexes (name : ScalarField → String) : ∀ (fs : List ScalarField) (d : Database),
    ∃ d' : Database, d.run (fs.map fun f => .dropIndex (name f)) = some d' ∧ d'.tables = d.tables ∧
      ∀ i, d'.tableOf? i = if i ∈ fs.map name then none else d.tableOf? i
  | [], d => ⟨d, rfl, rfl, by simp⟩
  | f :: fs, d => by
    obtain ⟨d', hrun, htables, hindexes⟩ := run_dropIndexes name fs (d.dropIndex (name f))
    refine ⟨d', ?_, htables, fun i => ?_⟩
    · simpa [execute] using hrun
    · rw [hindexes]
      by_cases h : i = name f <;> simp [dropIndex, h]

theorem run_dropStatements (e : Entity) (d : Database) :
    d.run (dropStatements e) = some (d.withoutEntities [e]) := by
  obtain ⟨d', hrun, htables, hindexes⟩ := run_dropIndexes (indexName e) (indexedFields e) d
  have heq : d'.dropTable e.tableName = d.withoutEntities [e] := by
    ext i
    · simp [dropTable, htables, withoutEntities, tableNames, and_comm]
    · simp [dropTable, hindexes, withoutEntities, tableNames, indexNames, and_assoc]
  rw [dropStatements, run_append, hrun, Option.bind_some, run_cons, execute, Option.bind_some, run_nil, heq]

theorem run_drops : ∀ (es : List Entity) (d : Database),
    d.run (es.flatMap dropStatements) = some (d.withoutEntities es)
  | [], d => by
    have h : d.withoutEntities [] = d := by
      ext <;> simp [withoutEntities, tableNames]
    rw [h]; rfl
  | e :: es, d => by
    rw [List.flatMap_cons, run_append, run_dropStatements, Option.bind_some, run_drops,
      ← withoutEntities_cons]

/-! ## There and back -/

def HoldsNone (d : Database) (es : List Entity) : Prop :=
  ∀ e ∈ es, e.tableName ∉ d.tables ∧ ∀ f ∈ indexedFields e, d.tableOf? (indexName e f) = none

theorem HoldsNone.tableOf? {d : Database} {es : List Entity} (h : d.HoldsNone es) {i : String}
    (hi : ∃ e ∈ es, i ∈ indexNames e) : d.tableOf? i = none := by
  obtain ⟨e, he, hi⟩ := hi
  obtain ⟨f, hf, rfl⟩ := List.mem_map.mp hi
  exact (h e he).2 f hf

theorem HoldsNone.notMem_tableNames {d : Database} {es : List Entity} (h : d.HoldsNone es) {t : String}
    (ht : t ∈ d.tables) : t ∉ tableNames es := by
  intro hmem
  obtain ⟨e, he, rfl⟩ := List.mem_map.mp hmem
  exact (h e he).1 ht

theorem withoutEntities_withEntities {d : Database} {es : List Entity} (h : d.HoldsNone es) :
    (d.withEntities es).withoutEntities es = d := by
  ext1
  · ext t
    simp only [withoutEntities, withEntities, Finset.mem_filter, Finset.mem_union, List.mem_toFinset]
    have := fun ht => h.notMem_tableNames (t := t) ht
    tauto
  · funext i
    by_cases hi : ∃ e ∈ es, i ∈ indexNames e
    · simp [withoutEntities, hi, h.tableOf? hi]
    · have hfirst : firstTable? es i = none := firstTable?_eq_none_iff.mpr fun e he hmem => hi ⟨e, he, hmem⟩
      simp only [withoutEntities, withEntities, hi, hfirst, if_false, Option.or_none]
      -- the table of an index is there, so it has none of the names
      cases ht : d.tableOf? i with
      | none => rfl
      | some t => simp [h.notMem_tableNames (d.attached ht)]

theorem withEntities_withEntities (d : Database) (es : List Entity) :
    (d.withEntities es).withEntities es = d.withEntities es := by
  ext i
  · simp [withEntities]
  · cases h : firstTable? es i <;> simp [withEntities, h]

end Database

end Scaffold.Sql
