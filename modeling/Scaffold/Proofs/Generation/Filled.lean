import Scaffold.Generation
import Scaffold.Proofs.Page.Shapes

/-!
# Pages that are always filled

Every template that a run fills agrees with the values it is filled with, so
routers, settings and assets are written for every manifest, and pages for
every entity, unless the page name of an earlier entity stands in their way.
-/

namespace Scaffold

/-! ## Shapes of contexts -/

namespace Shape

theorem fits_texts (ss : List String) : (Shape.list .text).Fits (.ofTexts ss) := by
  rw [Shape.Fits]
  refine ⟨_, rfl, fun x hx => ?_⟩
  obtain ⟨s, -, rfl⟩ := List.mem_map.mp hx
  exact ⟨s, rfl⟩

theorem fits_list {α : Type} {item : Shape} {write : α → Value} (h : ∀ a, item.Fits (write a))
    (as : List α) : (Shape.list item).Fits (.list (as.map write)) := by
  rw [Shape.Fits]
  refine ⟨_, rfl, fun x hx => ?_⟩
  obtain ⟨a, -, rfl⟩ := List.mem_map.mp hx
  exact h a

end Shape

/-! ## Routers and settings -/

namespace Routes

def entityShape : Shape := .record [("name", .text), ("var", .text), ("plural", .text),
  ("primary_key", .text), ("key_type", .text), ("assigns_key", .any), ("touches_updated_at", .any)]

def shapes : Shapes := [("banner", .text), ("entities", .list entityShape)]

theorem fits_entityContext (e : Entity) : entityShape.Fits (entityContext e) :=
  ⟨⟨_, rfl, _, rfl⟩, ⟨_, rfl, _, rfl⟩, ⟨_, rfl, _, rfl⟩, ⟨_, rfl, _, rfl⟩, ⟨_, rfl, _, rfl⟩,
    ⟨_, rfl, trivial⟩, ⟨_, rfl, trivial⟩, trivial⟩

theorem isOk_text (m : Manifest) : (text m).isOk := by
  have checks : Node.allCheck shapes Page.routerModule := by decide
  refine Template.isOk_fill checks ⟨⟨_, rfl, _, rfl⟩, ⟨_, rfl, ?_⟩, trivial⟩
  exact Shape.fits_list fits_entityContext m.entities

end Routes

namespace AppSettings

def entityShape : Shape :=
  .record [("name", .text), ("table", .text), ("primary_key", .text), ("route", .text)]

def shapes : Shapes :=
  [("banner", .text), ("manifest_literal", .text), ("entities", .list entityShape)]

theorem fits_entityContext (e : Entity) : entityShape.Fits (entityContext e) :=
  ⟨⟨_, rfl, _, rfl⟩, ⟨_, rfl, _, rfl⟩, ⟨_, rfl, _, rfl⟩, ⟨_, rfl, _, rfl⟩, trivial⟩

theorem isOk_text (m : Manifest) : (text m).isOk := by
  have checks : Node.allCheck shapes Page.configModule := by decide
  refine Template.isOk_fill checks ⟨⟨_, rfl, _, rfl⟩, ⟨_, rfl, _, rfl⟩, ⟨_, rfl, ?_⟩, trivial⟩
  exact Shape.fits_list fits_entityContext m.entities

end AppSettings

/-! ## Admin pages and assets -/

namespace Admin

def assetShapes : Shapes := [("manifest_name", .text),
  ("entities", .list (.record [("name", .text), ("plural", .text)]))]

theorem fits_assetsContext (m : Manifest) : (Shape.record assetShapes).Fits (.map (assetsContext m)) := by
  refine ⟨⟨_, rfl, _, rfl⟩, ⟨_, rfl, ?_⟩, trivial⟩
  refine Shape.fits_list (fun e => ?_) m.entities
  exact ⟨⟨.text e.name, rfl, _, rfl⟩, ⟨.text e.routeSegment, rfl, _, rfl⟩, trivial⟩

theorem isOk_assets (m : Manifest) : (assets m).isOk := by
  have index : Node.allCheck assetShapes Page.adminIndex := by decide
  have script : Node.allCheck assetShapes Page.adminScript := by decide
  have style : Node.allCheck assetShapes Page.adminStyle := by decide
  obtain ⟨a, ha⟩ := isOk_iff.mp (Template.isOk_fill index (fits_assetsContext m))
  obtain ⟨b, hb⟩ := isOk_iff.mp (Template.isOk_fill script (fits_assetsContext m))
  obtain ⟨c, hc⟩ := isOk_iff.mp (Template.isOk_fill style (fits_assetsContext m))
  simp only [assets, ha, hb, hc]
  rfl

theorem isOk_assetsModule (m : Manifest) : (assetsModule m).isOk := by
  rw [assetsModule, isOk_bind_pure]
  exact isOk_assets m

/-- The shape of a field in forms and pages. A default may be any value: it is only asked whether
it is true. -/
def fieldShape : Shape := .record [("name", .text), ("kind", .text), ("input", .text),
  ("required", .any), ("default", .any), ("editable", .any)]

def entityShape : Shape := .record [("name", .text), ("lower", .text), ("plural", .text),
  ("primary_key", .text), ("columns", .list .text), ("form_fields", .list fieldShape),
  ("detail_fields", .list fieldShape)]

def shapes : Shapes := [("entity", entityShape)]

theorem fits_fieldContext (editable : Bool) (f : ScalarField) :
    fieldShape.Fits (fieldContext editable f) :=
  ⟨⟨_, rfl, _, rfl⟩, ⟨_, rfl, _, rfl⟩, ⟨_, rfl, _, rfl⟩, ⟨_, rfl, trivial⟩, ⟨_, rfl, trivial⟩,
    ⟨_, rfl, trivial⟩, trivial⟩

theorem fits_context (e : Entity) : (Shape.record shapes).Fits (.map (context e)) := by
  have entity : entityShape.Fits (entityContext e) :=
    ⟨⟨_, rfl, _, rfl⟩, ⟨_, rfl, _, rfl⟩, ⟨_, rfl, _, rfl⟩, ⟨_, rfl, _, rfl⟩,
      ⟨_, rfl, Shape.fits_texts _⟩,
      ⟨_, rfl, Shape.fits_list (fits_fieldContext true) _⟩,
      ⟨_, rfl, Shape.fits_list (fun f => fits_fieldContext _ f) _⟩, trivial⟩
  exact ⟨⟨_, rfl, entity⟩, trivial⟩

theorem isOk_entityRoutes (e : Entity) : (entityRoutes e).isOk := by
  have list : Node.allCheck shapes Page.listPage := by decide
  have new : Node.allCheck shapes Page.newPage := by decide
  have detail : Node.allCheck shapes Page.detailPage := by decide
  obtain ⟨a, ha⟩ := isOk_iff.mp (Template.isOk_fill list (fits_context e))
  obtain ⟨b, hb⟩ := isOk_iff.mp (Template.isOk_fill new (fits_context e))
  obtain ⟨c, hc⟩ := isOk_iff.mp (Template.isOk_fill detail (fits_context e))
  simp only [entityRoutes, ha, hb, hc]
  rfl

theorem isOk_entityComponents (e : Entity) : (entityComponents e).isOk := by
  have form : Node.allCheck shapes Page.formPart := by decide
  have table : Node.allCheck shapes Page.tablePart := by decide
  obtain ⟨a, ha⟩ := isOk_iff.mp (Template.isOk_fill form (fits_context e))
  obtain ⟨b, hb⟩ := isOk_iff.mp (Template.isOk_fill table (fits_context e))
  simp only [entityComponents, ha, hb]
  rfl

theorem addPages_cons_eq (owners : List (String × String)) (pages : Pages) (e : Entity)
    (rest : List Entity) :
    addPages owners pages (e :: rest) =
      match owners.lookup e.pageName with
      | some other => .error (.conflict e.name other)
      | none =>
        match entityRoutes e, entityComponents e with
        | .ok routes, .ok components =>
          addPages (owners ++ [(e.pageName, e.name)])
            ⟨pages.routes.putAll routes, pages.components.putAll components⟩ rest
        | .error fault, _ | _, .error fault => .error (.fill fault) := by
  rfl

theorem addPages_cons (owners : List (String × String)) (pages : Pages) (e : Entity)
    (rest : List Entity) :
    (∃ other, (e.pageName, other) ∈ owners ∧
        addPages owners pages (e :: rest) = .error (.conflict e.name other)) ∨
      (e.pageName ∉ owners.map Prod.fst ∧ ∃ pages', addPages owners pages (e :: rest) =
        addPages (owners ++ [(e.pageName, e.name)]) pages' rest) := by
  obtain ⟨routes, hroutes⟩ := isOk_iff.mp (isOk_entityRoutes e)
  obtain ⟨components, hcomponents⟩ := isOk_iff.mp (isOk_entityComponents e)
  rw [addPages_cons_eq, hroutes, hcomponents]
  cases h : owners.lookup e.pageName with
  | some other =>
    obtain ⟨before, behind, rfl, -⟩ := List.lookup_eq_some_iff.mp h
    exact Or.inl ⟨other, by simp, rfl⟩
  | none =>
    refine Or.inr ⟨?_, _, rfl⟩
    intro hmem
    obtain ⟨p, hp, hpage⟩ := List.mem_map.mp hmem
    have := List.lookup_eq_none_iff.mp h p hp
    simp [hpage] at this

end Admin

end Scaffold
