import Scaffold.Admin.Pages
import Scaffold.Page.AdminIndex
import Scaffold.Page.AdminScript
import Scaffold.Page.AdminStyle

/-!
# Admin assets

The entrance to the admin pages with its script and style, as files and packed
into a module.
-/

namespace Scaffold.Admin

def contentTypes : List (String × String) := [
  (".html", "text/html; charset=utf-8"),
  (".css", "text/css; charset=utf-8"),
  (".js", "text/javascript; charset=utf-8")]

def contentType (path : String) : String :=
  match contentTypes.find? fun t => t.1.toList.isSuffixOf path.toList with
  | some t => t.2
  | none => "application/octet-stream"

def assetsContext (m : Manifest) : Entries := [
  (.text "manifest_name", .text m.name),
  (.text "entities", .list (m.entities.map fun e => .ofFields [
    ("name", .text e.name),
    ("plural", .text e.routeSegment)]))]

def assets (m : Manifest) : Except FillFault TextFiles := do
  let c := assetsContext m
  return [
    ("admin/index.html", ← Page.adminIndex.fill c),
    ("admin/admin.js", ← Page.adminScript.fill c),
    ("admin/styles.css", ← Page.adminStyle.fill c)]

def assetLines (path body : String) : List String := [
  "    " ++ Text.literal ("/" ++ path) ++ ": \x7b",
  "        'content_type': " ++ Text.literal (contentType path) ++ ",",
  "        'body': " ++ Text.literal body ++ ",",
  "    \x7d,"]

def assetsModule (m : Manifest) : Except FillFault String := do
  let files ← assets m
  return "\n".intercalate (["\"\"\"Admin static assets.", "", m.sourceBanner, "\"\"\"", "",
    "ADMIN_ASSETS = \x7b"] ++ files.flatMap (fun f => assetLines f.1 f.2) ++ ["\x7d", ""])

end Scaffold.Admin
