import Scaffold.Manifest.Keys
import Scaffold.Sql.Statement

/-!
# Migrations

A migration makes a table for each entity and a unique index for each unique
field, relations apart; its rollback drops them in reverse order of entities.
-/

namespace Scaffold

namespace Moment

/-- Year, month, day, hour, minute and second in digits; years before 1000 have fewer of them. -/
def version (t : Moment) : String :=
  toString t.date.year ++ padded 2 t.date.month ++ padded 2 t.date.day ++ padded 2 t.hour ++
    padded 2 t.minute ++ padded 2 t.second

end Moment

namespace Sql

def ColumnType.ofKind : ScalarKind → ColumnType
  | .number => .real
  | .boolean => .integer
  | .id | .uuid | .string | .date | .json => .text

def syntheticKey : Column := ⟨"id", .text, [.primaryKey]⟩

def timestampColumn (name : String) : Column := ⟨name, .text, [.default "CURRENT_TIMESTAMP"]⟩

def Column.ofField (e : Entity) (f : ScalarField) : Except JsonFault Column := do
  let type := ColumnType.ofKind f.kind
  if e.isPrimaryKey f then return ⟨f.name, type, [.primaryKey]⟩
  let default ← match f.default with
    | some v => do pure [Constraint.default (← literal v)]
    | none => pure []
  return ⟨f.name, type,
    (if f.isRequired && !f.isNullable then [.notNull] else []) ++
      (if f.isUnique then [.unique] else []) ++ default⟩

def columns (e : Entity) : Except JsonFault (List Column) := do
  let declared ← e.scalarFields.mapM (Column.ofField e)
  return (if e.needsSyntheticKey then [syntheticKey] else []) ++ declared ++
    e.addedTimestamps.map timestampColumn

def indexedFields (e : Entity) : List ScalarField :=
  e.scalarFields.filter fun f => f.isUnique && !e.isPrimaryKey f

def indexName (e : Entity) (f : ScalarField) : String := "idx_" ++ e.tableName ++ "_" ++ f.name

def createStatements (e : Entity) : Except JsonFault (List Statement) := do
  return .createTable e.tableName (← columns e) ::
    (indexedFields e).map fun f => .createUniqueIndex (indexName e f) e.tableName f.name

def dropStatements (e : Entity) : List Statement :=
  (indexedFields e).map (fun f => .dropIndex (indexName e f)) ++ [.dropTable e.tableName]

def header (m : Manifest) (t : Moment) (suffix : String) : List String := [
  "-- Migration: " ++ t.version ++ "_" ++ suffix,
  "-- Manifest: " ++ m.id ++ " v" ++ m.version,
  "-- Timestamp: " ++ t.iso]

def migration (m : Manifest) : Except JsonFault (List (List Statement)) :=
  m.entities.mapM createStatements

def rollback (m : Manifest) : List Statement := m.entities.reverse.flatMap dropStatements

def joinLines (lines : List String) : String := "\n".intercalate lines

def script (m : Manifest) (t : Moment) (groups : List (List Statement)) : String :=
  joinLines (header m t "init" ++ groups.flatMap (fun g => "" :: g.flatMap Statement.lines) ++ [""])

def migrationText (m : Manifest) (t : Moment) : Except JsonFault String := do
  return script m t (← migration m)

def rollbackText (m : Manifest) (t : Moment) : String :=
  joinLines (header m t "rollback" ++ [""] ++ (rollback m).flatMap Statement.lines ++ [""])

end Sql

end Scaffold
