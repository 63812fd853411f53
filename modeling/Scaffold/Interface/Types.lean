import Scaffold.Manifest.Keys

/-!
# Interfaces of entities

The interfaces that a client of the application works with: one for each
entity, the input types derived from it, and one for its list queries.
-/

namespace Scaffold.Interface

structure Member where
  name : String
  optional : Bool
  type : String

structure Declaration where
  name : String
  members : List Member

def memberType : ScalarKind → String
  | .id | .uuid | .string => "string"
  | .number => "number"
  | .boolean => "boolean"
  | .date => "Date"
  | .json => "unknown"

def Member.ofField (f : ScalarField) : Member :=
  ⟨f.name, !f.isRequired || f.isNullable, memberType f.kind⟩

def timestampMembers : List Member := [⟨"createdAt", true, "Date"⟩, ⟨"updatedAt", true, "Date"⟩]

def Declaration.ofEntity (e : Entity) : Declaration :=
  ⟨e.name, e.scalarFields.map Member.ofField ++ timestampMembers⟩

def Member.render (m : Member) : String :=
  m.name ++ (if m.optional then "?" else "") ++ ": " ++ m.type ++ ";"

def Declaration.lines (d : Declaration) : List String :=
  ["export interface " ++ d.name ++ " \x7b"] ++ (d.members.map fun m => "  " ++ m.render) ++
    ["\x7d"]

def inQuotes (s : String) : String := "'" ++ s ++ "'"

def alternatives (ss : List String) : String := " | ".intercalate (ss.map inQuotes)

def omittedNames (e : Entity) : List String :=
  (if e.serverAssignsKey then [e.primaryKey] else []) ++ timestampMembers.map (·.name)

def entityText (e : Entity) : String :=
  let inputs := [
    "",
    "export type Create" ++ e.name ++ "Input = Omit<" ++ e.name ++ ", " ++
      alternatives (omittedNames e) ++ ">;",
    "export type Update" ++ e.name ++ "Input = Partial<Create" ++ e.name ++ "Input>;"]
  "\n".intercalate ((Declaration.ofEntity e).lines ++ inputs)

def sortableNames (e : Entity) : List String :=
  e.scalarFields.map (·.name) ++ timestampMembers.map (·.name)

def queryDeclaration (e : Entity) : Declaration :=
  ⟨"List" ++ e.name ++ "Query", [
    ⟨"page", true, "number"⟩,
    ⟨"limit", true, "number"⟩,
    ⟨"sortBy", true, alternatives (sortableNames e)⟩,
    ⟨"order", true, alternatives ["asc", "desc"]⟩]⟩

def envelope : String := "\n".intercalate [
  "export interface ApiResponse<T> \x7b",
  "  data: T;",
  "  meta?: \x7b",
  "    total?: number;",
  "    page?: number;",
  "    limit?: number;",
  "  \x7d;",
  "  error?: string;",
  "\x7d",
  "",
  "export interface ApiError \x7b",
  "  error: string;",
  "  code?: string;",
  "  details?: unknown;",
  "\x7d"]

def joinParts (parts : List String) : String := "\n\n".intercalate parts

def typesText (m : Manifest) : String :=
  joinParts (m.entities.map entityText) ++ "\n\n" ++
    joinParts (m.entities.map fun e => "\n".intercalate (queryDeclaration e).lines) ++ "\n\n" ++
    envelope ++ "\n"

end Scaffold.Interface
