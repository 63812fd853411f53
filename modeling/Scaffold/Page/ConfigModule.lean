import Scaffold.Page.Template

/-!
# The module with the settings of the application
-/

namespace Scaffold.Page

def configModule : Template := [
  .lines [
    "\"\"\"Application configuration.",
    ""],
  .put (.name "banner"), .text "\n",
  .lines [
    "\"\"\"",
    "",
    "from __future__ import annotations",
    "",
    "from typing import Any",
    ""],
  .text "MANIFEST: dict[str, Any] = ", .put (.name "manifest_literal"), .text "\n",
  .lines [
    "",
    "APP_CONFIG: dict[str, Any] = \x7b",
    "    \"id\": MANIFEST[\"id\"],",
    "    \"name\": MANIFEST[\"name\"],",
    "    \"version\": MANIFEST[\"version\"],",
    "    \"openapi\": \x7b",
    "        \"title\": MANIFEST[\"name\"],",
    "        \"version\": MANIFEST[\"version\"],",
    "    \x7d,",
    "    \"entities\": ["],
  .each "entity" (.name "entities") [
    .text "        \x7b\n",
    .text "            \"name\": ", .literal (.entity "name"), .text ",\n",
    .text "            \"table\": ", .literal (.entity "table"), .text ",\n",
    .text "            \"primary_key\": ", .literal (.entity "primary_key"), .text ",\n",
    .text "            \"route\": ", .literal (.entity "route"), .text ",\n",
    .text "        \x7d,\n"],
  .lines [
    "    ],",
    "\x7d"]]

end Scaffold.Page
