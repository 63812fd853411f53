import Scaffold.Page.Components

/-!
# The page that creates a record of an entity
-/

namespace Scaffold.Page

def newPage : Template := [
  .lines [
    "<!doctype html>",
    "<html lang=\"en\">",
    "  <head>",
    "    <meta charset=\"utf-8\" />"],
  .text "    <title>Create New ", .escaped (.entity "name"), .text "</title>\n",
  .lines [
    "    <link rel=\"stylesheet\" href=\"/admin/styles.css\" />",
    "  </head>",
    "  <body>",
    "    <div class=\"container\">"],
  .text "      <h1>Create New ", .escaped (.entity "name"), .text "</h1>\n",
  .text "\n",
  .indented 6 formPart,
  .lines [
    "",
    "      <div class=\"error\" id=\"error\" hidden></div>",
    "      <div class=\"actions\">"],
  .text "        <button type=\"submit\" form=\"", .put (.entity "lower"),
  .text "-form\" class=\"btn btn-primary\">Create</button>\n",
  .lines [
    "        <a href=\"index.html\" class=\"btn btn-secondary\">Cancel</a>",
    "      </div>",
    "    </div>",
    "",
    "    <script type=\"module\">"],
  .text "      const endpoint = ", .scriptString (.concat [.constant "/api/", .entity "plural"]),
  .text ";\n",
  .text "      const primaryKey = ", .scriptString (.entity "primary_key"), .text ";\n",
  .text "      const form = document.getElementById(",
  .scriptString (.concat [.entity "lower", .constant "-form"]), .text ");\n",
  .lines [
    "      const error = document.getElementById('error');",
    "",
    "      function readValue(input) \x7b",
    "        const kind = input.dataset.kind;",
    "        if (kind === 'boolean') return input.checked;",
    "        if (input.value === '') return undefined;",
    "        if (kind === 'number') return Number(input.value);",
    "        if (kind === 'json') return JSON.parse(input.value);",
    "        return input.value;",
    "      \x7d",
    "",
    "      form.addEventListener('submit', async (event) => \x7b",
    "        event.preventDefault();",
    "        error.hidden = true;",
    "        const body = \x7b\x7d;",
    "        for (const input of form.querySelectorAll('[data-kind]')) \x7b",
    "          const value = readValue(input);",
    "          if (value !== undefined) body[input.name] = value;",
    "        \x7d",
    "        try \x7b",
    "          const response = await fetch(endpoint, \x7b",
    "            method: 'POST',",
    "            headers: \x7b 'Content-Type': 'application/json' \x7d,",
    "            body: JSON.stringify(body),",
    "          \x7d);"],
  .text "          if (!response.ok) throw new Error(",
  .scriptString (.concat [.constant "Failed to create ", .entity "lower"]), .text ");\n",
  .lines [
    "          const payload = await response.json();",
    "          location.href = `detail.html?id=$\x7bencodeURIComponent(payload.data[primaryKey])\x7d`;",
    "        \x7d catch (err) \x7b",
    "          error.textContent = err instanceof Error ? err.message : 'An error occurred';",
    "          error.hidden = false;",
    "        \x7d",
    "      \x7d);",
    "    </script>",
    "  </body>",
    "</html>"]]

end Scaffold.Page
