import Scaffold.Page.Template

/-!
# The script of the entrance to the admin pages
-/

namespace Scaffold.Page

def adminScript : Template := [
  .text "const entities = [\n",
  .each "entity" (.name "entities") [
    .text "  \x7b name: ", .scriptString (.entity "name"), .text ", plural: ",
    .scriptString (.entity "plural"), .text " \x7d,\n"],
  .lines [
    "];",
    "",
    "const app = document.getElementById('app');",
    "",
    "function escapeHtml(text) \x7b",
    "  return String(text)",
    "    .replaceAll('&', '&amp;')",
    "    .replaceAll('<', '&lt;')",
    "    .replaceAll('>', '&gt;')",
    "    .replaceAll('\"', '&quot;')",
    "    .replaceAll(\"'\", '&#39;');",
    "\x7d",
    "",
    "function setHtml(html) \x7b",
    "  if (!app) return;",
    "  app.innerHTML = html;",
    "\x7d",
    "",
    "function renderHome() \x7b",
    "  setHtml(",
    "    '<div class=\"panel\">' +",
    "      '<h2>Overview</h2>' +",
    "      '<p>Pick an entity from the nav to inspect data via the generated CRUD API.</p>' +",
    "      '</div>',",
    "  );",
    "\x7d",
    "",
    "async function renderEntity(plural) \x7b",
    "  const res = await fetch('/api/' + plural);",
    "  const payload = await res.json();",
    "",
    "  setHtml(",
    "    '<div class=\"panel\">' +",
    "      '<h2>' + escapeHtml(plural) + '</h2>' +",
    "      '<p>GET <code>/api/' + escapeHtml(plural) + '</code></p>' +",
    "      '<pre>' + escapeHtml(JSON.stringify(payload, null, 2)) + '</pre>' +",
    "      '</div>',",
    "  );",
    "\x7d",
    "",
    "function route() \x7b",
    "  const hash = location.hash.replace(/^#\\/?/, '');",
    "  if (!hash) return renderHome();",
    "",
    "  const match = entities.find((e) => e.plural === hash);",
    "  if (!match) return renderHome();",
    "",
    "  void renderEntity(match.plural);",
    "\x7d",
    "",
    "window.addEventListener('hashchange', route);",
    "route();"]]

end Scaffold.Page
