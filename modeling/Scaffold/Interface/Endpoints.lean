import Scaffold.Interface.Types

/-!
# Interfaces of endpoints

The requests and responses of the five endpoints of each entity.
-/

namespace Scaffold.Interface

def endpointLines (n : String) : List String := [
  "// " ++ n ++ " API endpoints",
  "export interface Get" ++ n ++ "Request \x7b",
  "  id: string;",
  "\x7d",
  "",
  "export interface Get" ++ n ++ "Response \x7b",
  "  data: " ++ n ++ ";",
  "\x7d",
  "",
  "export interface List" ++ n ++ "Request extends List" ++ n ++ "Query \x7b\x7d",
  "",
  "export interface List" ++ n ++ "Response \x7b",
  "  data: " ++ n ++ "[];",
  "  meta: \x7b",
  "    total: number;",
  "    page: number;",
  "    limit: number;",
  "  \x7d;",
  "\x7d",
  "",
  "export interface Create" ++ n ++ "Request \x7b",
  "  data: Create" ++ n ++ "Input;",
  "\x7d",
  "",
  "export interface Create" ++ n ++ "Response \x7b",
  "  data: " ++ n ++ ";",
  "\x7d",
  "",
  "export interface Update" ++ n ++ "Request \x7b",
  "  id: string;",
  "  data: Update" ++ n ++ "Input;",
  "\x7d",
  "",
  "export interface Update" ++ n ++ "Response \x7b",
  "  data: " ++ n ++ ";",
  "\x7d",
  "",
  "export interface Delete" ++ n ++ "Request \x7b",
  "  id: string;",
  "\x7d",
  "",
  "export interface Delete" ++ n ++ "Response \x7b",
  "  data: \x7b deleted: boolean \x7d;",
  "\x7d"]

def endpointsText (m : Manifest) : String :=
  joinParts (m.entities.map fun e => "\n".intercalate (endpointLines e.name)) ++ "\n"

end Scaffold.Interface
