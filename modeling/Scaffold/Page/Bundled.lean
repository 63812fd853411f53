import Scaffold.Page.ListPage
import Scaffold.Page.Components
import Scaffold.Page.NewPage
import Scaffold.Page.DetailPage
import Scaffold.Page.AdminIndex
import Scaffold.Page.AdminScript
import Scaffold.Page.AdminStyle
import Scaffold.Page.RouterModule
import Scaffold.Page.ConfigModule
import Scaffold.Page.ApiDocs
import Scaffold.Text.Split

/-!
# The bundled templates and their names
-/

namespace Scaffold.Page

def bundled : List (String × Template) := [
  ("admin/admin.js.j2", adminScript),
  ("admin/index.html.j2", adminIndex),
  ("admin/styles.css.j2", adminStyle),
  ("admin_pages/detail.html.j2", detailPage),
  ("admin_pages/form.html.j2", formPart),
  ("admin_pages/list.html.j2", listPage),
  ("admin_pages/new.html.j2", newPage),
  ("admin_pages/table.html.j2", tablePart),
  ("api_docs.md.j2", apiDocs),
  ("app_config.py.j2", configModule),
  ("routes.py.j2", routerModule)]

def names : List String := bundled.map Prod.fst

/-! ## Lists of names -/

/-- Whether a file is a template: `j2` stands behind the last dot of its path. -/
def isTemplateName (name : String) : Bool :=
  Text.afterLast? '.' name.toList = some "j2".toList

def templateNames (files : List String) : List String :=
  (files.eraseDups.filter isTemplateName).mergeSort fun a b => !(b < a)

/-- The names in a folder; slashes at the end of its name do not count, and no folder means all. -/
def inFolder (folder : String) (names : List String) : List String :=
  if folder.isEmpty then names
  else
    let lead := Text.dropTrailing '/' folder.toList ++ ['/']
    names.filter fun n => lead.isPrefixOf n.toList

end Scaffold.Page
