import Scaffold.Page.Template

/-!
# The page that lists the records of an entity
-/

namespace Scaffold.Page

def listPage : Template := [
  .lines [
    "<!doctype html>",
    "<html lang=\"en\">",
    "  <head>",
    "    <meta charset=\"utf-8\" />"],
  .text "    <title>", .escaped (.entity "name"), .text "s</title>\n",
  .lines [
    "    <link rel=\"stylesheet\" href=\"/admin/styles.css\" />",
    "  </head>",
    "  <body>",
    "    <div class=\"container\">",
    "      <div class=\"header\">"],
  .text "        <h1>", .escaped (.entity "name"), .text "s</h1>\n",
  .lines [
    "        <a href=\"new.html\" class=\"btn btn-primary\">Create New</a>",
    "      </div>",
    "",
    "      <p id=\"status\">Loading...</p>",
    "      <table class=\"table\" hidden>",
    "        <thead>",
    "          <tr>"],
  .each "column" (.entity "columns") [
    .text "            <th>", .escaped (.name "column"), .text "</th>\n"],
  .lines [
    "            <th>Actions</th>",
    "          </tr>",
    "        </thead>",
    "        <tbody></tbody>",
    "      </table>",
    "",
    "      <div class=\"pagination\">",
    "        <button id=\"prev\">Previous</button>",
    "        <span id=\"page-label\"></span>",
    "        <button id=\"next\">Next</button>",
    "      </div>",
    "    </div>",
    "",
    "    <script type=\"module\">"],
  .text "      const endpoint = ", .scriptString (.concat [.constant "/api/", .entity "plural"]),
  .text ";\n",
  .text "      const columns = ", .script (.entity "columns"), .text ";\n",
  .text "      const primaryKey = ", .scriptString (.entity "primary_key"), .text ";\n",
  .lines [
    "      const limit = 10;",
    "      let page = 1;",
    "      let total = 0;",
    "",
    "      const status = document.getElementById('status');",
    "      const table = document.querySelector('table');",
    "      const tbody = table.querySelector('tbody');",
    "",
    "      function cell(text) \x7b",
    "        const td = document.createElement('td');",
    "        td.textContent = text === undefined || text === null ? '' : String(text);",
    "        return td;",
    "      \x7d",
    "",
    "      async function loadItems() \x7b",
    "        status.textContent = 'Loading...';",
    "        try \x7b",
    "          const response = await fetch(`$\x7bendpoint\x7d?page=$\x7bpage\x7d&limit=$\x7blimit\x7d`);",
    "          const payload = await response.json();",
    "          total = payload.meta.total;",
    "          tbody.replaceChildren();",
    "          for (const item of payload.data) \x7b",
    "            const row = document.createElement('tr');",
    "            for (const column of columns) row.appendChild(cell(item[column]));",
    "            const actions = document.createElement('td');",
    "            const view = document.createElement('a');",
    "            view.href = `detail.html?id=$\x7bencodeURIComponent(item[primaryKey])\x7d`;",
    "            view.textContent = 'View';",
    "            const remove = document.createElement('button');",
    "            remove.textContent = 'Delete';",
    "            remove.addEventListener('click', () => deleteItem(item[primaryKey]));",
    "            actions.append(view, remove);",
    "            row.appendChild(actions);",
    "            tbody.appendChild(row);",
    "          \x7d",
    "          table.hidden = payload.data.length === 0;"],
  .text "          status.textContent = payload.data.length === 0 ? ",
  .scriptString (.concat [.constant "No ", .entity "lower", .constant "s found."]),
  .text " : '';\n",
  .lines [
    "          document.getElementById('page-label').textContent = `Page $\x7bpage\x7d of " ++
      "$\x7bMath.max(1, Math.ceil(total / limit))\x7d`;",
    "        \x7d catch (error) \x7b"],
  .text "          status.textContent = ",
  .scriptString (.concat [.constant "Failed to load ", .entity "lower", .constant "s"]),
  .text ";\n",
  .lines [
    "        \x7d",
    "      \x7d",
    "",
    "      async function deleteItem(id) \x7b"],
  .text "        if (!confirm(",
  .scriptString (.concat [.constant "Are you sure you want to delete this ", .entity "lower", .constant "?"]),
  .text ")) return;\n",
  .lines [
    "        await fetch(`$\x7bendpoint\x7d/$\x7bencodeURIComponent(id)\x7d`, \x7b method: 'DELETE' \x7d);",
    "        await loadItems();",
    "      \x7d",
    "",
    "      document.getElementById('prev').addEventListener('click', () => \x7b",
    "        if (page > 1) \x7b page -= 1; loadItems(); \x7d",
    "      \x7d);",
    "      document.getElementById('next').addEventListener('click', () => \x7b",
    "        if (page < Math.ceil(total / limit)) \x7b page += 1; loadItems(); \x7d",
    "      \x7d);",
    "",
    "      loadItems();",
    "    </script>",
    "  </body>",
    "</html>"]]

end Scaffold.Page
