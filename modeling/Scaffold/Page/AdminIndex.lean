import Scaffold.Page.Template

/-!
# The entrance to the admin pages
-/

namespace Scaffold.Page

def adminIndex : Template := [
  .lines [
    "<!doctype html>",
    "<html lang=\"en\">",
    "  <head>",
    "    <meta charset=\"utf-8\" />",
    "    <meta name=\"viewport\" content=\"width=device-width, initial-scale=1\" />"],
  .text "    <title>", .escaped (.name "manifest_name"), .text " Admin</title>\n",
  .lines [
    "    <link rel=\"stylesheet\" href=\"/admin/styles.css\" />",
    "  </head>",
    "  <body>",
    "    <header>"],
  .text "      <h1>", .escaped (.name "manifest_name"), .text " Admin</h1>\n",
  .lines [
    "      <nav>",
    "        <ul>"],
  .each "entity" (.name "entities") [
    .text "          <li><a href=\"#/", .escaped (.entity "plural"), .text "\">",
    .escaped (.entity "name"), .text "</a></li>\n"],
  .lines [
    "        </ul>",
    "      </nav>",
    "      <p class=\"meta\">API: <code>/api/*</code> &bull; Docs: <a href=\"/docs\">/docs</a></p>",
    "    </header>",
    "",
    "    <main>",
    "      <div id=\"app\"></div>",
    "    </main>",
    "",
    "    <script type=\"module\" src=\"/admin/admin.js\"></script>",
    "  </body>",
    "</html>"]]

end Scaffold.Page
