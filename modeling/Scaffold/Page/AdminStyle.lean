import Scaffold.Page.Template

/-!
# The style of the admin pages
-/

namespace Scaffold.Page

def adminStyle : Template := [
  .lines [
    ":root \x7b",
    "  --bg: #0b1220;",
    "  --panel: #0f1a30;",
    "  --text: #e6eefc;",
    "  --muted: #9fb2d6;",
    "  --border: #203253;",
    "  --accent: #5aa7ff;",
    "  --danger: #ff6b6b;",
    "\x7d",
    "",
    "* \x7b",
    "  box-sizing: border-box;",
    "\x7d",
    "",
    "body \x7b",
    "  margin: 0;",
    "  font-family: ui-sans-serif, system-ui, -apple-system, Segoe UI, Roboto, Helvetica, Arial, sans-serif;",
    "  background: var(--bg);",
    "  color: var(--text);",
    "\x7d",
    "",
    "header \x7b",
    "  padding: 24px;",
    "  border-bottom: 1px solid var(--border);",
    "  background: var(--panel);",
    "\x7d",
    "",
    "header h1 \x7b",
    "  margin: 0 0 12px;",
    "  font-size: 20px;",
    "\x7d",
    "",
    "nav ul \x7b",
    "  margin: 0;",
    "  padding: 0;",
    "  display: flex;",
    "  flex-wrap: wrap;",
    "  gap: 12px;",
    "  list-style: none;",
    "\x7d",
    "",
    "nav a \x7b",
    "  color: var(--accent);",
    "  text-decoration: none;",
    "\x7d",
    "",
    ".meta \x7b",
    "  margin: 12px 0 0;",
    "  color: var(--muted);",
    "\x7d",
    "",
    "main,",
    ".container \x7b",
    "  padding: 24px;",
    "\x7d",
    "",
    ".header \x7b",
    "  display: flex;",
    "  align-items: center;",
    "  justify-content: space-between;",
    "\x7d",
    "",
    ".panel \x7b",
    "  border: 1px solid var(--border);",
    "  border-radius: 10px;",
    "  background: var(--panel);",
    "  padding: 16px;",
    "\x7d",
    "",
    "table \x7b",
    "  width: 100%;",
    "  border-collapse: collapse;",
    "  margin-top: 12px;",
    "\x7d",
    "",
    "th, td \x7b",
    "  padding: 8px;",
    "  border-bottom: 1px solid var(--border);",
    "  text-align: left;",
    "\x7d",
    "",
    ".form-field,",
    ".field \x7b",
    "  display: flex;",
    "  flex-direction: column;",
    "  gap: 4px;",
    "  margin-bottom: 12px;",
    "\x7d",
    "",
    ".btn \x7b",
    "  display: inline-block;",
    "  padding: 6px 12px;",
    "  border: 1px solid var(--border);",
    "  border-radius: 6px;",
    "  background: transparent;",
    "  color: var(--text);",
    "  text-decoration: none;",
    "  cursor: pointer;",
    "\x7d",
    "",
    ".btn-primary \x7b",
    "  border-color: var(--accent);",
    "  color: var(--accent);",
    "\x7d",
    "",
    ".btn-danger,",
    ".error \x7b",
    "  border-color: var(--danger);",
    "  color: var(--danger);",
    "\x7d",
    "",
    "code \x7b",
    "  background: rgba(255, 255, 255, 0.06);",
    "  padding: 2px 6px;",
    "  border-radius: 6px;",
    "\x7d"]]

end Scaffold.Page
