import Scaffold.Proofs.Generation.Artifacts

/-!
# Pages of their own

Unless their pages are refused, entities have three pages and two parts each,
filled in for them and under paths that nothing else is written to, whatever
their names are made of (`Admin.pages_refused_or_complete`).
-/

namespace Scaffold.Admin

def pageTemplates : List (String × Template) :=
  [("/index.html", Page.listPage), ("/new.html", Page.newPage), ("/detail.html", Page.detailPage)]

def partTemplates : List (String × Template) := [("-form.html", Page.formPart), ("-table.html", Page.tablePart)]

/-- An entity has each template filled in for it, under its name in lower case. -/
def Filled (templates : List (String × Template)) (e : Entity) (files : TextFiles) : Prop :=
  ∀ t ∈ templates, ∃ text, t.2.fill (context e) = .ok text ∧ (Text.lower e.name ++ t.1, text) ∈ files

theorem filled_of_entityRoutes {e : Entity} {files : TextFiles} (h : entityRoutes e = .ok files) :
    Filled pageTemplates e files := by
  obtain ⟨list, hlist, h⟩ := bind_eq_ok.mp h
  obtain ⟨new, hnew, h⟩ := bind_eq_ok.mp h
  obtain ⟨detail, hdetail, rfl⟩ := bind_pure_eq_ok.mp h
  simp only [Filled, pageTemplates, List.forall_mem_cons]
  exact ⟨⟨list, hlist, by simp [Entity.pageName]⟩, ⟨new, hnew, by simp [Entity.pageName]⟩,
    ⟨detail, hdetail, by simp [Entity.pageName]⟩, List.forall_mem_nil _⟩

theorem filled_of_entityComponents {e : Entity} {files : TextFiles} (h : entityComponents e = .ok files) :
    Filled partTemplates e files := by
  obtain ⟨form, hform, h⟩ := bind_eq_ok.mp h
  obtain ⟨table, htable, rfl⟩ := bind_pure_eq_ok.mp h
  simp only [Filled, partTemplates, List.forall_mem_cons]
  exact ⟨⟨form, hform, by simp [Entity.pageName]⟩, ⟨table, htable, by simp [Entity.pageName]⟩, List.forall_mem_nil _⟩

theorem filled_flatten {es : List Entity} {templates : List (String × Template)}
    {write : Entity → Except FillFault TextFiles} {lists : List TextFiles} (h : es.mapM write = .ok lists)
    (hwrite : ∀ {e files}, write e = .ok files → Filled templates e files) :
    ∀ e ∈ es, Filled templates e lists.flatten := by
  intro e he t ht
  obtain ⟨files, hfiles, hfill⟩ := exists_ok_of_mem h he
  obtain ⟨text, htext, hmem⟩ := hwrite hfill t ht
  exact ⟨text, htext, List.mem_flatten.mpr ⟨files, hfiles, hmem⟩⟩

/-- Three pages and two parts for each entity, and nothing else. -/
structure Complete (m : Manifest) (pages : Pages) : Prop where
  routes_length : pages.routes.length = 3 * m.entities.length
  components_length : pages.components.length = 2 * m.entities.length
  routes_distinct : (pages.routes.map Prod.fst).Nodup
  components_distinct : (pages.components.map Prod.fst).Nodup
  routes : ∀ e ∈ m.entities, Filled pageTemplates e pages.routes
  components : ∀ e ∈ m.entities, Filled partTemplates e pages.components

theorem complete_of_pages {m : Manifest} {pages : Pages} (h : Admin.pages m = .ok pages) : Complete m pages := by
  have hnames : (m.entities.map (·.pageName)).Nodup := isOk_pages_iff.mp (isOk_iff.mpr ⟨pages, h⟩)
  have hpages : EndingsApart pageEndings := by decide
  have hparts : EndingsApart partEndings := by decide
  obtain ⟨hroutes, hcomponents, -⟩ := pages_eq_ok h
  constructor
  · have hlength := congrArg List.length hroutes
    simpa [List.length_flatMap, Function.comp_def, pageEndings, Nat.mul_comm] using hlength
  · have hlength := congrArg List.length hcomponents
    simpa [List.length_flatMap, Function.comp_def, partEndings, Nat.mul_comm] using hlength
  · rw [hroutes]
    exact hpages.nodup_flatMap (by decide) hnames
  · rw [hcomponents]
    exact hparts.nodup_flatMap (by decide) hnames
  · obtain ⟨routes, -, hmap, -, rfl⟩ := pages_eq_flatten h
    exact filled_flatten hmap filled_of_entityRoutes
  · obtain ⟨-, components, -, hmap, rfl⟩ := pages_eq_flatten h
    exact filled_flatten hmap filled_of_entityComponents

/-- **Pages are refused or complete.** Refused exactly when two entities have the same name in lower case,
and then for the first entity whose lower-case name occurs before it. -/
theorem pages_refused_or_complete (m : Manifest) :
    ((∃ name other, pages m = .error (.conflict name other)) ↔ ¬ (lowerNames m.entities).Nodup) ∧
      (∀ name other, pages m = .error (.conflict name other) ↔
        ∃ e d, Conflict m.entities e d ∧ name = e.name ∧ other = d.name) ∧
      ((lowerNames m.entities).Nodup ↔ ∃ pages, Admin.pages m = .ok pages ∧ Complete m pages) := by
  have hok : (∃ pages, Admin.pages m = .ok pages) ↔ (lowerNames m.entities).Nodup := isOk_iff.symm.trans isOk_pages_iff
  refine ⟨?_, fun name other => ?_, ?_⟩
  · constructor
    · rintro ⟨name, other, h⟩ hnames
      obtain ⟨pages, hpages⟩ := hok.mpr hnames
      cases h.symm.trans hpages
    · intro hnames
      obtain ⟨e, d, hconflict⟩ := exists_conflict hnames
      exact ⟨e.name, d.name, pages_of_conflict hconflict⟩
  · simp only [pages_eq_error_iff, PageFault.conflict.injEq]
  · rw [← hok]
    exact exists_congr fun pages => ⟨fun h => ⟨h, complete_of_pages h⟩, And.left⟩

end Scaffold.Admin
