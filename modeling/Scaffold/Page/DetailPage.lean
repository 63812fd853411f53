import Scaffold.Page.Template

/-!
# The page that shows and changes a record of an entity
-/

namespace Scaffold.Page

def detailPage : Template := [
  .lines [
    "<!doctype html>",
    "<html lang=\"en\">",
    "  <head>",
    "    <meta charset=\"utf-8\" />"],
  .text "    <title>", .escaped (.entity "name"), .text " Details</title>\n",
  .lines [
    "    <link rel=\"stylesheet\" href=\"/admin/styles.css\" />",
    "  </head>",
    "  <body>",
    "    <div class=\"container\">",
    "      <div class=\"header\">"],
  .text "        <h1>", .escaped (.entity "name"), .text " Details</h1>\n",
  .lines [
    "        <div class=\"actions\">",
    "          <button id=\"edit\" class=\"btn btn-primary\">Edit</button>",
    "          <button id=\"save\" class=\"btn btn-primary\" hidden>Save</button>",
    "          <button id=\"delete\" class=\"btn btn-danger\">Delete</button>",
    "        </div>",
    "      </div>",
    "",
    "      <div class=\"error\" id=\"error\" hidden></div>",
    "      <p id=\"status\">Loading...</p>",
    "",
    "      <div class=\"details\" hidden>"],
  .each "field" (.entity "detail_fields") [
    .text "        <div class=\"field\">\n",
    .text "          <label>", .escaped (.field "name"), .text "</label>\n",
    .text "          <span data-field=\"", .escaped (.field "name"), .text "\"></span>\n",
    .when (.holds (.field "editable")) [
      .branch (.equals (.field "input") "checkbox") [
        .text "          <input type=\"checkbox\" name=\"", .escaped (.field "name"),
        .text "\" data-kind=\"", .put (.field "kind"), .text "\" hidden />\n"] [
        .branch (.equals (.field "input") "textarea") [
          .text "          <textarea name=\"", .escaped (.field "name"), .text "\" data-kind=\"",
          .put (.field "kind"), .text "\" hidden></textarea>\n"] [
          .text "          <input type=\"", .put (.field "input"), .text "\" name=\"",
          .escaped (.field "name"), .text "\" data-kind=\"", .put (.field "kind"),
          .text "\" hidden />\n"]]],
    .text "        </div>\n"],
  .lines [
    "      </div>",
    "    </div>",
    "",
    "    <script type=\"module\">"],
  .text "      const endpoint = ", .scriptString (.concat [.constant "/api/", .entity "plural"]),
  .text ";\n",
  .lines [
    "      const id = new URLSearchParams(location.search).get('id');",
    "      const details = document.querySelector('.details');",
    "      const status = document.getElementById('status');",
    "      const error = document.getElementById('error');",
    "      let item = null;",
    "",
    "      function showError(message) \x7b",
    "        error.textContent = message;",
    "        error.hidden = false;",
    "      \x7d",
    "",
    "      function render() \x7b",
    "        for (const span of details.querySelectorAll('[data-field]')) \x7b",
    "          const value = item[span.dataset.field];",
    "          span.textContent = value === undefined || value === null ? '' : typeof value === " ++
      "'object' ? JSON.stringify(value) : String(value);",
    "        \x7d",
    "        for (const input of details.querySelectorAll('[data-kind]')) \x7b",
    "          const value = item[input.name];",
    "          if (input.dataset.kind === 'boolean') input.checked = Boolean(value);",
    "          else if (input.dataset.kind === 'json') input.value = value === undefined || " ++
      "value === null ? '' : JSON.stringify(value);",
    "          else input.value = value === undefined || value === null ? '' : String(value);",
    "        \x7d",
    "      \x7d",
    "",
    "      function setEditing(editing) \x7b",
    "        for (const span of details.querySelectorAll('[data-field]')) \x7b",
    "          const hasInput = details.querySelector(`[name=\"$\x7bspan.dataset.field\x7d\"]`) !== null;",
    "          span.hidden = editing && hasInput;",
    "        \x7d",
    "        for (const input of details.querySelectorAll('[data-kind]')) input.hidden = !editing;",
    "        document.getElementById('edit').hidden = editing;",
    "        document.getElementById('save').hidden = !editing;",
    "      \x7d",
    "",
    "      async function loadItem() \x7b",
    "        try \x7b",
    "          const response = await fetch(`$\x7bendpoint\x7d/$\x7bencodeURIComponent(id)\x7d`);",
    "          if (!response.ok) throw new Error('Item not found');",
    "          item = (await response.json()).data;",
    "          status.hidden = true;",
    "          details.hidden = false;",
    "          render();",
    "        \x7d catch (err) \x7b"],
  .text "          status.textContent = err instanceof Error ? err.message : ",
  .scriptString (.concat [.constant "Failed to load ", .entity "lower"]), .text ";\n",
  .lines [
    "        \x7d",
    "      \x7d",
    "",
    "      async function save() \x7b",
    "        const body = \x7b\x7d;",
    "        for (const input of details.querySelectorAll('[data-kind]')) \x7b",
    "          const kind = input.dataset.kind;",
    "          if (kind === 'boolean') body[input.name] = input.checked;",
    "          else if (input.value === '') continue;",
    "          else if (kind === 'number') body[input.name] = Number(input.value);",
    "          else if (kind === 'json') body[input.name] = JSON.parse(input.value);",
    "          else body[input.name] = input.value;",
    "        \x7d",
    "        try \x7b",
    "          const response = await fetch(`$\x7bendpoint\x7d/$\x7bencodeURIComponent(id)\x7d`, \x7b",
    "            method: 'PATCH',",
    "            headers: \x7b 'Content-Type': 'application/json' \x7d,",
    "            body: JSON.stringify(body),",
    "          \x7d);"],
  .text "          if (!response.ok) throw new Error(",
  .scriptString (.concat [.constant "Failed to update ", .entity "lower"]), .text ");\n",
  .lines [
    "          setEditing(false);",
    "          await loadItem();",
    "        \x7d catch (err) \x7b",
    "          showError(err instanceof Error ? err.message : 'An error occurred');",
    "        \x7d",
    "      \x7d",
    "",
    "      async function remove() \x7b"],
  .text "        if (!confirm(",
  .scriptString (.concat [.constant "Are you sure you want to delete this ", .entity "lower", .constant "?"]),
  .text ")) return;\n",
  .lines [
    "        await fetch(`$\x7bendpoint\x7d/$\x7bencodeURIComponent(id)\x7d`, \x7b method: 'DELETE' \x7d);",
    "        location.href = 'index.html';",
    "      \x7d",
    "",
    "      document.getElementById('edit').addEventListener('click', () => setEditing(true));",
    "      document.getElementById('save').addEventListener('click', save);",
    "      document.getElementById('delete').addEventListener('click', remove);",
    "",
    "      loadItem();",
    "    </script>",
    "  </body>",
    "</html>"]]

end Scaffold.Page
