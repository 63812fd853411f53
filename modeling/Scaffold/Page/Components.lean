import Scaffold.Page.Template

/-!
# The form and the table of an entity

The form is also part of the page that creates a record.
-/

namespace Scaffold.Page

def formPart : Template := [
  .text "<form id=\"", .put (.entity "lower"), .text "-form\" class=\"form-component\">\n",
  .each "field" (.entity "form_fields") [
    .text "  <div class=\"form-field\">\n",
    .text "    <label for=\"", .escaped (.field "name"), .text "\">", .escaped (.field "name"),
    .text "</label>\n",
    .branch (.equals (.field "input") "checkbox") [
      .text "    <input type=\"checkbox\" id=\"", .escaped (.field "name"), .text "\" name=\"",
      .escaped (.field "name"), .text "\" data-kind=\"", .put (.field "kind"), .text "\"",
      .when (.isTrue (.field "default")) [
        .text " checked"],
      .text " />\n"] [
      .branch (.equals (.field "input") "textarea") [
        .text "    <textarea id=\"", .escaped (.field "name"), .text "\" name=\"",
        .escaped (.field "name"), .text "\" data-kind=\"", .put (.field "kind"), .text "\"",
        .when (.holds (.field "required")) [
          .text " required"],
        .text "></textarea>\n"] [
        .text "    <input type=\"", .put (.field "input"), .text "\" id=\"",
        .escaped (.field "name"), .text "\" name=\"", .escaped (.field "name"),
        .text "\" data-kind=\"", .put (.field "kind"), .text "\"",
        .when (.holds (.field "required")) [
          .text " required"],
        .text " />\n"]],
    .text "  </div>\n"],
  .text "</form>\n"]

def tablePart : Template := [
  .text "<table id=\"", .put (.entity "lower"),
  .text "-table\" class=\"table table-component\">\n",
  .lines [
    "  <thead>",
    "    <tr>"],
  .each "column" (.entity "columns") [
    .text "      <th>", .escaped (.name "column"), .text "</th>\n"],
  .lines [
    "    </tr>",
    "  </thead>",
    "  <tbody></tbody>",
    "</table>"]]

end Scaffold.Page
