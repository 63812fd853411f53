import Mathlib.Algebra.BigOperators.Group.List.Basic
import Scaffold.Proofs.Admin.Names

/-!
# Markup in admin pages

Names stand in pages as entities, in scripts, and in places where they are
shown as they are. How many tags a page opens comes from the kinds of the
fields and from the names in the last two, and these decide which names can add
markup (`Admin.markup_iff`).
-/

namespace Scaffold.Admin

/-! ## Tags that templates open -/

/-- How many tags the list page opens for scalar fields of these kinds, whatever the names. -/
def listOpenings (kinds : List ScalarKind) : Nat :=
  Node.ownOpenings Page.listPage + 2 * min columnLimit kinds.length

def tableOpenings (kinds : List ScalarKind) : Nat :=
  Node.ownOpenings Page.tablePart + 2 * min columnLimit kinds.length

/-- A form has an input for each field but the first one that identifies. -/
def formOpenings (kinds : List ScalarKind) : Nat :=
  Node.ownOpenings Page.formPart + ((kinds.eraseP (·.isIdentity)).map (4 + inputOpenings ·)).sum

def newOpenings (kinds : List ScalarKind) : Nat := Node.ownOpenings Page.newPage + formOpenings kinds

def detailOpenings (kinds : List ScalarKind) : Nat :=
  Node.ownOpenings Page.detailPage + (6 * kinds.length +
    ((kinds.eraseP (·.isIdentity)).map inputOpenings).sum)

/-! ## Tags that names open -/

theorem length_shownColumns (e : Entity) :
    (shownColumns e).length = min columnLimit (e.scalarFields.map (·.kind)).length := by
  simp [shownColumns]

theorem openings_inputType (k : ScalarKind) : Put.openings (inputTypePuts k) = 0 := by
  cases k <;> rfl

theorem openings_kindName (k : ScalarKind) : Text.openings k.name = 0 := by
  cases k <;> rfl

theorem openings_flatMap_zero {α : Type} {puts : α → List Put} (h : ∀ a, Put.openings (puts a) = 0)
    (as : List α) : Put.openings (as.flatMap puts) = 0 := by
  induction as with
  | nil => rfl
  | cons a as ih => rw [List.flatMap_cons, Put.openings_append, h, ih]

theorem openings_formFieldPuts (f : ScalarField) : Put.openings (formFieldPuts f) = 0 := by
  simp [formFieldPuts, openings_inputType, openings_kindName]

theorem openings_detailFieldPuts (e : Entity) (f : ScalarField) :
    Put.openings (detailFieldPuts e f) = 0 := by
  unfold detailFieldPuts
  split <;> simp [openings_inputType, openings_kindName]

theorem openings_formPuts (e : Entity) : Put.openings (formPuts e) = Text.openings e.pageName := by
  rw [formPuts, Put.openings_cons, openings_flatMap_zero openings_formFieldPuts]
  rfl

theorem openings_tablePuts (e : Entity) : Put.openings (tablePuts e) = Text.openings e.pageName := by
  rw [tablePuts, Put.openings_cons, Put.openings_map_escaped]
  rfl

theorem openings_listPuts (e : Entity) : Put.openings (listPuts e) =
    4 * Text.openings e.pageName + Text.openings e.primaryKey := by
  have hconst : Text.openings "/api/" = 0 ∧ Text.openings "s" = 0 ∧ Text.openings "No " = 0 ∧
      Text.openings "s found." = 0 ∧ Text.openings "Failed to load " = 0 ∧
      Text.openings "Are you sure you want to delete this " = 0 ∧ Text.openings "?" = 0 := by decide
  simp only [listPuts, Entity.routeSegment, Put.openings_cons, Put.openings_append, Put.openings_map_escaped,
    Put.openings_escaped, Put.openings_inScript, Put.openings_asData, Put.openings_nil, Text.openings_append,
    hconst]
  omega

theorem openings_newPuts (e : Entity) : Put.openings (newPuts e) =
    5 * Text.openings e.pageName + Text.openings e.primaryKey := by
  have hconst : Text.openings "/api/" = 0 ∧ Text.openings "s" = 0 ∧ Text.openings "-form" = 0 ∧
      Text.openings "Failed to create " = 0 := by decide
  simp only [newPuts, Entity.routeSegment, Put.openings_cons, Put.openings_append, openings_formPuts,
    Put.openings_escaped, Put.openings_inScript, Put.openings_asIs, Put.openings_nil, Text.openings_append,
    hconst]
  omega

theorem openings_detailPuts (e : Entity) : Put.openings (detailPuts e) = 4 * Text.openings e.pageName := by
  have hconst : Text.openings "/api/" = 0 ∧ Text.openings "s" = 0 ∧ Text.openings "Failed to load " = 0 ∧
      Text.openings "Failed to update " = 0 ∧
      Text.openings "Are you sure you want to delete this " = 0 ∧ Text.openings "?" = 0 := by decide
  simp only [detailPuts, Entity.routeSegment, Put.openings_cons, Put.openings_append,
    openings_flatMap_zero (openings_detailFieldPuts e), Put.openings_escaped, Put.openings_inScript,
    Put.openings_nil, Text.openings_append, hconst]
  omega

/-! ## Names that add no markup -/

theorem guarded_kindName (k : ScalarKind) : (Put.asIs k.name).Guarded := by
  cases k <;> exact Put.guarded_asIs_iff.mpr (by decide)

theorem guarded_inputTypePuts (k : ScalarKind) : ∀ p ∈ inputTypePuts k, p.Guarded := by
  cases k with
  | boolean | json => exact fun p hp => absurd hp List.not_mem_nil
  | id | uuid | string | number | date =>
    exact List.forall_mem_singleton.mpr (Put.guarded_asIs_iff.mpr (by decide))

theorem guarded_map_escaped (ss : List String) : ∀ p ∈ ss.map Put.escaped, p.Guarded :=
  List.forall_mem_map.mpr fun s _ => Put.guarded_escaped s

theorem guarded_formFieldPuts (f : ScalarField) : ∀ p ∈ formFieldPuts f, p.Guarded := by
  simpa [formFieldPuts, or_imp, forall_and, Put.guarded_escaped, guarded_kindName] using
    guarded_inputTypePuts f.kind

theorem guarded_detailFieldPuts (e : Entity) (f : ScalarField) : ∀ p ∈ detailFieldPuts e f, p.Guarded := by
  unfold detailFieldPuts
  split
  · simpa [or_imp, forall_and, Put.guarded_escaped, guarded_kindName] using guarded_inputTypePuts f.kind
  · simp [Put.guarded_escaped]

theorem guarded_formPuts_iff {e : Entity} : (∀ p ∈ formPuts e, p.Guarded) ↔
    ∀ c ∈ e.pageName.toList, c ∉ Text.markupChars := by
  rw [formPuts, List.forall_mem_cons, Put.guarded_asIs_iff, and_iff_left]
  exact List.forall_mem_flatMap.mpr fun f _ => guarded_formFieldPuts f

theorem guarded_tablePuts_iff {e : Entity} : (∀ p ∈ tablePuts e, p.Guarded) ↔
    ∀ c ∈ e.pageName.toList, c ∉ Text.markupChars := by
  rw [tablePuts, List.forall_mem_cons, Put.guarded_asIs_iff, and_iff_left]
  exact guarded_map_escaped (shownColumns e)

theorem notClosing_of_plain {s : String} (h : ∀ c ∈ s.toList, c ∉ Text.markupChars) :
    ¬ ['<', '/'] <:+: s.toList :=
  fun hclosing => h '<' (hclosing.subset List.mem_cons_self) (by decide)

theorem guarded_endpoint_iff {e : Entity} : (Put.inScript ("/api/" ++ e.routeSegment)).Guarded ↔
    ¬ ['<', '/'] <:+: e.pageName.toList := by
  rw [Entity.routeSegment, ← String.append_assoc]
  exact Put.guarded_inScript_around (by decide) (by decide)

theorem guarded_listPuts_iff {e : Entity} : (∀ p ∈ listPuts e, p.Guarded) ↔
    ¬ ['<', '/'] <:+: e.pageName.toList ∧ ¬ ['<', '/'] <:+: e.primaryKey.toList := by
  have hnone : (Put.inScript ("No " ++ e.pageName ++ "s found.")).Guarded ↔ _ :=
    Put.guarded_inScript_around (by decide) (by decide)
  have hfailed : (Put.inScript ("Failed to load " ++ e.pageName ++ "s")).Guarded ↔ _ :=
    Put.guarded_inScript_around (by decide) (by decide)
  have hsure : (Put.inScript ("Are you sure you want to delete this " ++ e.pageName ++ "?")).Guarded ↔ _ :=
    Put.guarded_inScript_around (by decide) (by decide)
  have hcolumns := iff_true_intro (guarded_map_escaped (shownColumns e))
  simp only [listPuts, List.forall_mem_cons, List.forall_mem_append, Put.guarded_escaped, Put.guarded_asData,
    guarded_endpoint_iff, Put.guarded_inScript_iff (s := e.primaryKey), hcolumns, hnone, hfailed, hsure,
    List.not_mem_nil, false_implies, implies_true, true_and, and_true]
  exact ⟨fun h => ⟨h.1, h.2.1⟩, fun h => ⟨h.1, h.2, h.1, h.1, h.1⟩⟩

theorem guarded_newPuts_iff {e : Entity} : (∀ p ∈ newPuts e, p.Guarded) ↔
    (∀ c ∈ e.pageName.toList, c ∉ Text.markupChars) ∧ ¬ ['<', '/'] <:+: e.primaryKey.toList := by
  have hform : (Put.inScript (e.pageName ++ "-form")).Guarded ↔ _ :=
    Put.guarded_inScript_after (by decide)
  have hfailed : (Put.inScript ("Failed to create " ++ e.pageName)).Guarded ↔ _ :=
    Put.guarded_inScript_before (by decide)
  simp only [newPuts, List.forall_mem_cons, List.forall_mem_append, Put.guarded_escaped, guarded_formPuts_iff,
    Put.guarded_asIs_iff, guarded_endpoint_iff, Put.guarded_inScript_iff (s := e.primaryKey), hform, hfailed,
    List.not_mem_nil, false_implies, implies_true, true_and, and_true]
  exact ⟨fun h => ⟨h.1, h.2.2.2.1⟩,
    fun h =>
    ⟨h.1, h.1, notClosing_of_plain h.1, h.2, notClosing_of_plain h.1, notClosing_of_plain h.1⟩⟩

theorem guarded_detailPuts_iff {e : Entity} : (∀ p ∈ detailPuts e, p.Guarded) ↔
    ¬ ['<', '/'] <:+: e.pageName.toList := by
  have hload : (Put.inScript ("Failed to load " ++ e.pageName)).Guarded ↔ _ :=
    Put.guarded_inScript_before (by decide)
  have hupdate : (Put.inScript ("Failed to update " ++ e.pageName)).Guarded ↔ _ :=
    Put.guarded_inScript_before (by decide)
  have hsure : (Put.inScript ("Are you sure you want to delete this " ++ e.pageName ++ "?")).Guarded ↔ _ :=
    Put.guarded_inScript_around (by decide) (by decide)
  have hfields : (∀ p ∈ e.scalarFields.flatMap (detailFieldPuts e), p.Guarded) ↔ True :=
    iff_true_intro (List.forall_mem_flatMap.mpr fun f _ => guarded_detailFieldPuts e f)
  simp only [detailPuts, List.forall_mem_cons, List.forall_mem_append, Put.guarded_escaped,
    guarded_endpoint_iff, hfields, hload, hupdate, hsure, List.not_mem_nil, false_implies, implies_true,
    true_and, and_true, and_self]

/-! ## Files -/

structure Files where
  list : String
  new : String
  detail : String
  form : String
  table : String
deriving Inhabited

namespace Files

def routes (e : Entity) (fs : Files) : TextFiles := [
  (e.pageName ++ "/index.html", fs.list),
  (e.pageName ++ "/new.html", fs.new),
  (e.pageName ++ "/detail.html", fs.detail)]

def components (e : Entity) (fs : Files) : TextFiles := [
  (e.pageName ++ "-form.html", fs.form),
  (e.pageName ++ "-table.html", fs.table)]

end Files

/-- A text is filled from a template with these values, which can add markup only if the names are
not safe, and opens so many tags for the kinds of the fields and so many for the names. -/
structure Marked (e : Entity) (t : Template) (text : String) (ps : List Put) (own named : Nat)
    (safe : Prop) : Prop where
  filled : ∃ n, Node.writeAll (scope e) t = .ok ⟨text, ps, n⟩
  guarded : (∀ p ∈ ps, p.Guarded) ↔ safe
  openings : Text.openings text = own + named

theorem Marked.openings_of_plain {e : Entity} {t : Template} {text : String} {ps : List Put}
    {own named : Nat} {safe : Prop} (h : Marked e t text ps own named safe) (hnamed : named = 0) :
    Text.openings text = own := by
  rw [h.openings, hnamed, Nat.add_zero]

theorem exists_marked {e : Entity} {t : Template} {ps : List Put} {own named : Nat} {safe : Prop}
    (hputs : Node.Puts (scope e) t ps own) (hopenings : Put.openings ps = named)
    (hguarded : (∀ p ∈ ps, p.Guarded) ↔ safe) :
    ∃ text, t.fill (context e) = .ok text ∧ Marked e t text ps own named safe := by
  obtain ⟨text, hwrite⟩ := hputs
  obtain ⟨hfill, hcounted⟩ := Node.fillAll_of_writeAll t hwrite
  exact ⟨text, hfill, ⟨own, hwrite⟩, hguarded, hcounted.trans (congrArg (own + ·) hopenings)⟩

/-- The list page adds no markup for the names exactly when neither the page name nor the key has what
begins the end of an element, the detail page when the page name has none. What is shown as it is in
the form and the table, and so in the page for new records, must have no character with a meaning. -/
structure Files.Marked (e : Entity) (fs : Files) : Prop where
  list : Admin.Marked e Page.listPage fs.list (listPuts e) (listOpenings (e.scalarFields.map (·.kind)))
    (4 * Text.openings e.pageName + Text.openings e.primaryKey)
    (¬ ['<', '/'] <:+: e.pageName.toList ∧ ¬ ['<', '/'] <:+: e.primaryKey.toList)
  new : Admin.Marked e Page.newPage fs.new (newPuts e) (newOpenings (e.scalarFields.map (·.kind)))
    (5 * Text.openings e.pageName + Text.openings e.primaryKey)
    ((∀ c ∈ e.pageName.toList, c ∉ Text.markupChars) ∧ ¬ ['<', '/'] <:+: e.primaryKey.toList)
  detail : Admin.Marked e Page.detailPage fs.detail (detailPuts e)
    (detailOpenings (e.scalarFields.map (·.kind))) (4 * Text.openings e.pageName)
    (¬ ['<', '/'] <:+: e.pageName.toList)
  form : Admin.Marked e Page.formPart fs.form (formPuts e) (formOpenings (e.scalarFields.map (·.kind)))
    (Text.openings e.pageName) (∀ c ∈ e.pageName.toList, c ∉ Text.markupChars)
  table : Admin.Marked e Page.tablePart fs.table (tablePuts e)
    (tableOpenings (e.scalarFields.map (·.kind))) (Text.openings e.pageName)
    (∀ c ∈ e.pageName.toList, c ∉ Text.markupChars)

variable {e : Entity}

theorem sum_formInputs (h : (e.fields.map (·.name)).Nodup) :
    (e.writableFields.map fun f => 4 + inputOpenings f.kind).sum =
      (((e.scalarFields.map (·.kind)).eraseP (·.isIdentity)).map (4 + inputOpenings ·)).sum := by
  rw [← writableKinds_eq h, List.map_map]
  rfl

theorem sum_detailInputs (h : (e.fields.map (·.name)).Nodup) : (e.scalarFields.map fun f => 6 +
      if (e.writableFields.map (·.name)).contains f.name then inputOpenings f.kind else 0).sum =
    6 * (e.scalarFields.map (·.kind)).length +
      (((e.scalarFields.map (·.kind)).eraseP (·.isIdentity)).map inputOpenings).sum := by
  rw [List.sum_map_add, sum_writable_eq h, List.map_const', List.sum_replicate_nat, List.length_map,
    Nat.mul_comm]

theorem exists_files (h : (e.fields.map (·.name)).Nodup) : ∃ fs : Files,
    entityRoutes e = .ok (fs.routes e) ∧ entityComponents e = .ok (fs.components e) ∧ fs.Marked e := by
  obtain ⟨list, hlist, hlistMarked⟩ :=
    exists_marked (puts_listPage e) (openings_listPuts e) guarded_listPuts_iff
  obtain ⟨new, hnew, hnewMarked⟩ :=
    exists_marked (puts_newPage e) (openings_newPuts e) guarded_newPuts_iff
  obtain ⟨detail, hdetail, hdetailMarked⟩ :=
    exists_marked (puts_detailPage e) (openings_detailPuts e) guarded_detailPuts_iff
  obtain ⟨form, hform, hformMarked⟩ :=
    exists_marked (puts_formPart e) (openings_formPuts e) guarded_formPuts_iff
  obtain ⟨table, htable, htableMarked⟩ :=
    exists_marked (puts_tablePart e) (openings_tablePuts e) guarded_tablePuts_iff
  rw [length_shownColumns] at hlistMarked htableMarked
  rw [sum_formInputs h] at hnewMarked hformMarked
  rw [sum_detailInputs h] at hdetailMarked
  refine ⟨⟨list, new, detail, form, table⟩, ?_, ?_, hlistMarked, hnewMarked, hdetailMarked, hformMarked,
    htableMarked⟩
  · rw [entityRoutes, hlist, hnew, hdetail]
    rfl
  · rw [entityComponents, hform, htable]
    rfl

theorem exists_marked_pages {m : Manifest} {pages : Pages}
    (h : ∀ e ∈ m.entities, (e.fields.map (·.name)).Nodup) (hpages : Admin.pages m = .ok pages) :
    ∃ files : Entity → Files,
      pages.routes = m.entities.flatMap (fun e => (files e).routes e) ∧
      pages.components = m.entities.flatMap (fun e => (files e).components e) ∧
      ∀ e ∈ m.entities, (files e).Marked e := by
  have hfiles : ∀ e ∈ m.entities, ∃ fs : Files, entityRoutes e = .ok (fs.routes e) ∧
      entityComponents e = .ok (fs.components e) ∧ fs.Marked e := fun e he => exists_files (h e he)
  choose! files hroutes hcomponents hmarked using hfiles
  obtain ⟨routes, components, hroutesAll, hcomponentsAll, rfl⟩ := pages_eq_flatten hpages
  rw [mapM_eq_ok_map hroutes] at hroutesAll
  rw [mapM_eq_ok_map hcomponents] at hcomponentsAll
  cases hroutesAll
  cases hcomponentsAll
  exact ⟨files, (List.flatMap_def ..).symm, (List.flatMap_def ..).symm, hmarked⟩

theorem Files.Marked.form_begins {fs : Files} (h : fs.Marked e) :
    ∃ rest, fs.form = "<form id=\"" ++ e.pageName ++ rest := by
  obtain ⟨_, hfilled⟩ := h.form.filled
  have hform : Node.fillAll (scope e) Page.formPart = .ok fs.form := (Node.fillAll_of_writeAll _ hfilled).1
  obtain ⟨before, behind, hbefore, hbehind, heq⟩ := Node.fillAll_cons_eq_ok.mp hform
  obtain ⟨name, rest, hname, -, heq'⟩ := Node.fillAll_cons_eq_ok.mp hbehind
  cases hbefore
  cases hname
  exact ⟨rest, by rw [← heq, ← heq', String.append_assoc]; rfl⟩

def puts (e : Entity) : List Put := listPuts e ++ newPuts e ++ detailPuts e ++ formPuts e ++ tablePuts e

theorem guarded_puts_iff : (∀ p ∈ puts e, p.Guarded) ↔
    (∀ c ∈ e.pageName.toList, c ∉ Text.markupChars) ∧ ¬ ['<', '/'] <:+: e.primaryKey.toList := by
  simp only [puts, List.forall_mem_append, guarded_listPuts_iff, guarded_newPuts_iff, guarded_detailPuts_iff,
    guarded_formPuts_iff, guarded_tablePuts_iff]
  exact ⟨fun h => h.1.1.1.2, fun h =>
    ⟨⟨⟨⟨⟨notClosing_of_plain h.1, h.2⟩, h⟩, notClosing_of_plain h.1⟩, h.1⟩, h.1⟩⟩

/-- **Names and markup.** The pages and parts of the entities stand one behind the other, and what each
is filled from is known. The names add no markup to any of them exactly when no page name has a
character with a meaning in HTML and no key has a `</`. Apart from the kinds of the fields, how many
tags a file opens depends on the page name and the key. -/
theorem markup_iff {raw : Value} {m : Manifest} {pages : Pages} (h : Manifest.validate raw = .ok m)
    (hpages : Admin.pages m = .ok pages) :
    (∃ files : Entity → Files,
      pages.routes = m.entities.flatMap (fun e => (files e).routes e) ∧
      pages.components = m.entities.flatMap (fun e => (files e).components e) ∧
      ∀ e ∈ m.entities, (files e).Marked e) ∧
    ((∀ e ∈ m.entities, ∀ p ∈ puts e, p.Guarded) ↔ ∀ e ∈ m.entities,
      (∀ c ∈ e.pageName.toList, c ∉ Text.markupChars) ∧ ¬ ['<', '/'] <:+: e.primaryKey.toList) := by
  obtain ⟨-, hnames⟩ := Manifest.validate_eq_ok_iff.mp h
  exact ⟨exists_marked_pages hnames.fields hpages, forall₂_congr fun _ _ => guarded_puts_iff⟩

/-- A field with markup in its name, which opens no tag more than another one. -/
theorem markup_shop :
    let entity (name field : String) : Value := .ofFields [("name", .text name),
      ("fields", .list [.ofFields [("name", .text field), ("kind", .text "string")]])]
    let raw : Value := .ofFields [("id", .text "shop"), ("name", .text "Shop"), ("version", .text "1"),
      ("entities", .list [entity "Item" "code", entity "Order" "</b>"])]
    ∃ m pages, Manifest.validate raw = .ok m ∧ Admin.pages m = .ok pages ∧
      (∀ e ∈ m.entities, ∀ p ∈ puts e, p.Guarded) ∧ ∀ e ∈ m.entities, ∃ list,
        (e.pageName ++ "/index.html", list) ∈ pages.routes ∧
        Text.openings list = listOpenings [.string] := by
  intro entity raw
  obtain ⟨m, hm, hok, hplain, hkinds⟩ : ∃ m, Manifest.validate raw = .ok m ∧ (Admin.pages m).isOk ∧
      (∀ e ∈ m.entities, (∀ c ∈ e.pageName.toList, c ∉ Text.markupChars) ∧
        ¬ ['<', '/'] <:+: e.primaryKey.toList) ∧
      ∀ e ∈ m.entities, e.scalarFields.map (·.kind) = [.string] ∧ Text.openings e.pageName = 0 ∧
        Text.openings e.primaryKey = 0 :=
    ⟨_, rfl, isOk_pages_iff.mpr (by decide), by decide, by decide⟩
  obtain ⟨pages, hpages⟩ := isOk_iff.mp hok
  obtain ⟨⟨files, hroutes, -, hmarked⟩, hguarded⟩ := markup_iff hm hpages
  refine ⟨m, pages, hm, hpages, hguarded.mpr hplain, fun e he => ⟨(files e).list, ?_, ?_⟩⟩
  · rw [hroutes]
    exact List.mem_flatMap.mpr ⟨e, he, List.mem_cons_self⟩
  · obtain ⟨hkind, hname, hkey⟩ := hkinds e he
    rw [(hmarked e he).list.openings_of_plain (by rw [hname, hkey]), hkind]

/-- Of two entities with one field of the same kind, one has a form with a tag more, which its name
puts there. -/
theorem name_opens_tag :
    let entity (name : String) : Value := .ofFields [("name", .text name),
      ("fields", .list [.ofFields [("name", .text "code"), ("kind", .text "string")]])]
    let raw : Value := .ofFields [("id", .text "shop"), ("name", .text "Shop"), ("version", .text "1"),
      ("entities", .list [entity "Item", entity "a\"><b>"])]
    ∃ m pages form rest, Manifest.validate raw = .ok m ∧ Admin.pages m = .ok pages ∧
      ("item-form.html", form) ∈ pages.components ∧
      ("a\"><b>-form.html", "<form id=\"a\"><b>" ++ rest) ∈ pages.components ∧
      Text.openings ("<form id=\"a\"><b>" ++ rest) = Text.openings form + 1 := by
  intro entity raw
  obtain ⟨m, item, tag, hm, hok, hfields, hmitem, hmtag, hnames, hkinds, hkinds', hitem, htag⟩ :
      ∃ m item tag, Manifest.validate raw = .ok m ∧ (Admin.pages m).isOk ∧
      (∀ e ∈ m.entities, (e.fields.map (·.name)).Nodup) ∧ item ∈ m.entities ∧ tag ∈ m.entities ∧
      item.pageName = "item" ∧ item.scalarFields.map (·.kind) = [.string] ∧
      tag.scalarFields.map (·.kind) = [.string] ∧ Text.openings "item" = 0 ∧ tag.pageName = "a\"><b>" :=
    ⟨_, _, _, rfl, isOk_pages_iff.mpr (by decide), by decide, .head _, .tail _ (.head _), rfl, rfl, rfl,
      by decide, rfl⟩
  have htagOpenings : Text.openings "a\"><b>" = 1 := by decide
  obtain ⟨pages, hpages⟩ := isOk_iff.mp hok
  obtain ⟨files, -, hcomponents, hmarked⟩ := exists_marked_pages hfields hpages
  obtain ⟨rest, hrest⟩ := (hmarked tag hmtag).form_begins
  have hbegin : "<form id=\"" ++ "a\"><b>" = "<form id=\"a\"><b>" := rfl
  rw [htag, hbegin] at hrest
  have hmem (e : Entity) (he : e ∈ m.entities) :
      (e.pageName ++ "-form.html", (files e).form) ∈ pages.components := by
    rw [hcomponents]
    exact List.mem_flatMap.mpr ⟨e, he, List.mem_cons_self⟩
  have hitemForm := hmem item hmitem
  have htagForm := hmem tag hmtag
  rw [hnames] at hitemForm
  rw [htag, hrest] at htagForm
  refine ⟨m, pages, (files item).form, rest, hm, hpages, hitemForm, htagForm, ?_⟩
  -- forms with fields of the same kinds differ by what their names open
  have hcount := (hmarked tag hmtag).form.openings
  rw [hrest, htag, htagOpenings, hkinds', ← hkinds] at hcount
  rw [hcount, (hmarked item hmitem).form.openings_of_plain (by rw [hnames, hitem])]

end Scaffold.Admin
