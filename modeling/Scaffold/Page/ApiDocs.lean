import Scaffold.Page.Template

/-!
# The list of endpoints
-/

namespace Scaffold.Page

def apiDocs : Template := [
  .lines [
    "# API Documentation",
    ""],
  .text "Generated from ", .put (.name "manifest_name"), .text " v",
  .put (.name "manifest_version"), .text "\n",
  .text "\n",
  .each "entity" (.name "entities") [
    .text "## ", .put (.entity "name"), .text "\n",
    .lines [
      "",
      "### Endpoints",
      ""],
    .text "- `GET /api/", .put (.entity "plural"), .text "` - List all ", .put (.entity "name"),
    .text "s\n",
    .text "- `POST /api/", .put (.entity "plural"), .text "` - Create a new ",
    .put (.entity "name"), .text "\n",
    .text "- `GET /api/", .put (.entity "plural"), .text "/\x7bid\x7d` - Get a ",
    .put (.entity "name"), .text " by ID\n",
    .text "- `PATCH /api/", .put (.entity "plural"), .text "/\x7bid\x7d` - Update a ",
    .put (.entity "name"), .text "\n",
    .text "- `DELETE /api/", .put (.entity "plural"), .text "/\x7bid\x7d` - Delete a ",
    .put (.entity "name"), .text "\n",
    .when (.holds (.entity "fields")) [
      .lines [
        "",
        "### Fields",
        "",
        "| name | kind | required |",
        "|------|------|----------|"],
      .each "field" (.entity "fields") [
        .text "| `", .put (.field "name"), .text "` | ", .put (.field "kind"), .text " | ",
        .put (.choose (.field "required") "yes" "no"), .text " |\n"]],
    .when .notLast [
      .text "\n"]]]

end Scaffold.Page
