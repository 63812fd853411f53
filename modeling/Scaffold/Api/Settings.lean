import Scaffold.Manifest.Keys
import Scaffold.Manifest.Value
import Scaffold.Page.ConfigModule
import Scaffold.Page.Fill
import Scaffold.Value.Layout

/-!
# The settings module

The manifest as a literal, and where each entity is found.
-/

namespace Scaffold.AppSettings

def entityContext (e : Entity) : Value := .ofFields [
  ("name", .text e.name),
  ("table", .text e.tableName),
  ("primary_key", .text e.primaryKey),
  ("route", .text ("/api/" ++ e.routeSegment))]

def manifestLiteral (m : Manifest) : String :=
  Value.layoutMapping (m.entries.map fun e => (.text e.1, e.2))

def context (m : Manifest) : Entries := [
  (.text "banner", .text m.sourceBanner),
  (.text "manifest_literal", .text (manifestLiteral m)),
  (.text "entities", .list (m.entities.map entityContext))]

def text (m : Manifest) : Except FillFault String := Page.configModule.fill (context m)

end Scaffold.AppSettings
