import Scaffold.Manifest.Basic
import Scaffold.Schema.Basic

/-!
# The schema of manifests
-/

namespace Scaffold.Schema

def nonEmptyText : Schema := .refined .text [.minLength 1 "Expected a non-empty string"]

def cardinality : Schema := .union (Cardinality.all.map fun c => .literal (.text c.name))

def relation : Schema := .object [
  ("entity", nonEmptyText),
  ("field", .optional nonEmptyText),
  ("type", cardinality)]

def scalarKind : Schema := .union (ScalarKind.all.map fun k => .literal (.text k.name))

def fieldAttributes : List (String × Schema) := [
  ("description", .optional nonEmptyText),
  ("required", .optional .truth),
  ("unique", .optional .truth),
  ("nullable", .optional .truth),
  ("default", .optional .anything)]

def scalarField : Schema := .object ([
  ("name", nonEmptyText),
  ("kind", scalarKind)] ++ fieldAttributes)

def relationField : Schema := .object ([
  ("name", nonEmptyText),
  ("kind", .literal (.text relationKindName)),
  ("relation", relation)] ++ fieldAttributes)

/-- The relation comes first: it is the one reported when both have equally many issues. -/
def field : Schema := .union [relationField, scalarField]

def entity : Schema := .object [
  ("name", nonEmptyText),
  ("table", .optional nonEmptyText),
  ("fields", .refined (.array field) [.minLength 1 "Expected at least one field"])]

def manifest : Schema := .object [
  ("id", nonEmptyText),
  ("name", nonEmptyText),
  ("version", nonEmptyText),
  ("generators", .optional (.record .text .anything)),
  ("entities", .refined (.array entity) [.minLength 1 "Expected at least one entity"]),
  ("relations", .optional (.record .text .anything))]

end Scaffold.Schema
