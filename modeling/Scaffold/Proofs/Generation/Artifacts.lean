import Scaffold.Proofs.Admin.Conflicts

/-!
# The pieces of the admin group

A run that does not skip the admin group has the pages and parts of each
entity one after the other, none written over another (`Admin.pages_eq_ok`),
and a run that skips it has none (`Manifest.generateAll_admin`).
-/

namespace Scaffold

/-! ## Texts by path -/

/-- What is put under keys of its own stands one behind the other. -/
theorem foldl_put_of_nodup {κ : Type} {put : List (κ × String) → κ → String → List (κ × String)}
    (hput : ∀ {files : List (κ × String)} {key : κ} (text : String), key ∉ files.map Prod.fst →
      put files key text = files ++ [(key, text)]) :
    ∀ {more files : List (κ × String)}, ((files ++ more).map Prod.fst).Nodup →
      more.foldl (fun fs f => put fs f.1 f.2) files = files ++ more
  | [], files, _ => (List.append_nil files).symm
  | f :: more, files, h => by
    have hnew : f.1 ∉ files.map Prod.fst := by
      rw [List.map_append, List.nodup_append] at h
      exact fun hmem => h.2.2 f.1 hmem f.1 List.mem_cons_self rfl
    have hsplit : files ++ f :: more = files ++ [f] ++ more := by simp
    rw [List.foldl_cons, hput f.2 hnew, hsplit]
    exact foldl_put_of_nodup hput (hsplit ▸ h)

namespace TextFiles

theorem put_of_notMem {path : String} : ∀ {files : TextFiles} (text : String),
    path ∉ files.map Prod.fst → files.put path text = files ++ [(path, text)]
  | [], _, _ => rfl
  | (p, t) :: files, text, h => by
    rw [List.map_cons, List.mem_cons, not_or] at h
    rw [put, if_neg (Ne.symm h.1), put_of_notMem text h.2]
    rfl

theorem putAll_of_nodup {more files : TextFiles} (h : ((files ++ more).map Prod.fst).Nodup) :
    files.putAll more = files ++ more :=
  foldl_put_of_nodup put_of_notMem h

theorem putAll_append (files more rest : TextFiles) :
    files.putAll (more ++ rest) = (files.putAll more).putAll rest :=
  List.foldl_append

end TextFiles

/-! ## Names that end in different ways -/

def EndingsApart (endings : List String) : Prop :=
  ∀ x ∈ endings, ∀ y ∈ endings, x.toList <:+ y.toList → x = y

instance (endings : List String) : Decidable (EndingsApart endings) :=
  inferInstanceAs (Decidable (∀ x ∈ endings, ∀ y ∈ endings, x.toList <:+ y.toList → x = y))

theorem EndingsApart.eq_of_append {endings : List String} (h : EndingsApart endings) {a b x y : String}
    (hx : x ∈ endings) (hy : y ∈ endings) (heq : a ++ x = b ++ y) : a = b ∧ x = y := by
  have hlist : a.toList ++ x.toList = b.toList ++ y.toList := by
    rw [← String.toList_append, ← String.toList_append, heq]
  have hxy : x = y := by
    rcases List.suffix_or_suffix_of_suffix (List.suffix_append a.toList x.toList)
      (hlist ▸ List.suffix_append b.toList y.toList) with hxy | hyx
    · exact h x hx y hy hxy
    · exact (h y hy x hx hyx).symm
  subst hxy
  exact ⟨String.toList_injective (List.append_cancel_right hlist), rfl⟩

/-- So what a name begins with can be told from the whole name, in every folder. -/
theorem EndingsApart.place_inj {endings : List String} (h : EndingsApart endings)
    {a b : List String × String} {x y : String} (hx : x ∈ endings) (hy : y ∈ endings)
    (heq : a.1 ++ [a.2 ++ x] = b.1 ++ [b.2 ++ y]) : a = b ∧ x = y := by
  obtain ⟨hfolder, hname⟩ := List.append_inj' heq rfl
  obtain ⟨hstem, hending⟩ := h.eq_of_append hx hy (List.singleton_inj.mp hname)
  exact ⟨Prod.ext hfolder hstem, hending⟩

theorem EndingsApart.nodup_flatMap {endings : List String} (h : EndingsApart endings)
    (hendings : endings.Nodup) {names : List String} (hnames : names.Nodup) :
    (names.flatMap fun n => endings.map (n ++ ·)).Nodup := by
  rw [List.nodup_flatMap]
  refine ⟨fun n _ => ?_, ?_⟩
  · refine hendings.map_on fun x hx y hy heq => (h.eq_of_append hx hy heq).2
  · refine hnames.imp fun {n n'} hne => ?_
    intro s hs hs'
    obtain ⟨x, hx, rfl⟩ := List.mem_map.mp hs
    obtain ⟨y, hy, heq⟩ := List.mem_map.mp hs'
    exact hne (h.eq_of_append hy hx heq).1.symm

/-! ## Pages and parts -/

namespace Admin

def pageEndings : List String := ["/index.html", "/new.html", "/detail.html"]

def partEndings : List String := ["-form.html", "-table.html"]

theorem fill_ne_empty {first : String} {rest : Template} {es : Entries} {s : String} (hfirst : first ≠ "")
    (h : Template.fill (.text first :: rest) es = .ok s) : s ≠ "" := by
  obtain ⟨start, hstart, h⟩ := bind_eq_ok.mp h
  obtain ⟨more, -, h⟩ := bind_eq_ok.mp h
  cases hstart
  cases h
  intro hempty
  have hlist := congrArg String.toList hempty
  rw [String.toList_append, String.toList_empty, List.append_eq_nil_iff] at hlist
  exact hfirst (String.toList_injective hlist.1)

theorem entityRoutes_eq_ok {e : Entity} {files : TextFiles} (h : entityRoutes e = .ok files) :
    files.map Prod.fst = pageEndings.map (e.pageName ++ ·) ∧
      ∃ text, text ≠ "" ∧ (e.pageName ++ "/index.html", text) ∈ files := by
  obtain ⟨list, hlist, h⟩ := bind_eq_ok.mp h
  obtain ⟨new, -, h⟩ := bind_eq_ok.mp h
  obtain ⟨detail, -, rfl⟩ := bind_pure_eq_ok.mp h
  exact ⟨rfl, list, fill_ne_empty (by decide) hlist, List.mem_cons_self⟩

theorem entityComponents_eq_ok {e : Entity} {files : TextFiles} (h : entityComponents e = .ok files) :
    files.map Prod.fst = partEndings.map (e.pageName ++ ·) ∧
      ∃ text, text ≠ "" ∧ (e.pageName ++ "-form.html", text) ∈ files := by
  obtain ⟨form, hform, h⟩ := bind_eq_ok.mp h
  obtain ⟨table, -, rfl⟩ := bind_pure_eq_ok.mp h
  exact ⟨rfl, form, fill_ne_empty (by decide) hform, List.mem_cons_self⟩

theorem addPages_eq_ok : ∀ {es : List Entity} {owners : List (String × String)} {pages result : Pages},
    addPages owners pages es = .ok result → ∃ routes components,
      es.mapM entityRoutes = .ok routes ∧ es.mapM entityComponents = .ok components ∧
      result = ⟨pages.routes.putAll routes.flatten, pages.components.putAll components.flatten⟩
  | [], _, _, _, h => by
    cases h
    exact ⟨[], [], rfl, rfl, rfl⟩
  | e :: es, owners, pages, result, h => by
    rw [addPages_cons_eq] at h
    cases hother : owners.lookup e.pageName with
    | some other => simp [hother] at h
    | none =>
      obtain ⟨routes, hroutes⟩ := isOk_iff.mp (isOk_entityRoutes e)
      obtain ⟨components, hcomponents⟩ := isOk_iff.mp (isOk_entityComponents e)
      simp only [hother, hroutes, hcomponents] at h
      obtain ⟨rs, cs, hrs, hcs, rfl⟩ := addPages_eq_ok h
      refine ⟨routes :: rs, components :: cs, ?_, ?_, ?_⟩
      · rw [List.mapM_cons, hroutes, hrs]; rfl
      · rw [List.mapM_cons, hcomponents, hcs]; rfl
      · rw [List.flatten_cons, List.flatten_cons, TextFiles.putAll_append, TextFiles.putAll_append]

theorem keys_of_mapM {write : Entity → Except FillFault TextFiles} {endings : List String}
    (hwrite : ∀ e files, write e = .ok files → files.map Prod.fst = endings.map (e.pageName ++ ·))
    {es : List Entity} {lists : List TextFiles} (h : es.mapM write = .ok lists) :
    lists.flatten.map Prod.fst = (es.map (·.pageName)).flatMap fun n => endings.map (n ++ ·) := by
  rw [List.map_flatten, map_eq_of_mapM (fun hfiles => hwrite _ _ hfiles) h, List.flatMap_map,
    List.flatMap_def]

theorem pages_eq_flatten {m : Manifest} {pages : Pages} (h : Admin.pages m = .ok pages) :
    ∃ routes components, m.entities.mapM entityRoutes = .ok routes ∧
      m.entities.mapM entityComponents = .ok components ∧ pages = ⟨routes.flatten, components.flatten⟩ := by
  have hnames : (m.entities.map (·.pageName)).Nodup := isOk_pages_iff.mp (isOk_iff.mpr ⟨pages, h⟩)
  obtain ⟨routes, components, hroutes, hcomponents, rfl⟩ := addPages_eq_ok h
  have hpages : EndingsApart pageEndings := by decide
  have hparts : EndingsApart partEndings := by decide
  have hroutesNodup := hpages.nodup_flatMap (by decide) hnames
  have hpartsNodup := hparts.nodup_flatMap (by decide) hnames
  rw [← keys_of_mapM (fun e files h => (entityRoutes_eq_ok h).1) hroutes] at hroutesNodup
  rw [← keys_of_mapM (fun e files h => (entityComponents_eq_ok h).1) hcomponents] at hpartsNodup
  exact ⟨routes, components, hroutes, hcomponents, congrArg₂ Pages.mk
    (TextFiles.putAll_of_nodup hroutesNodup) (TextFiles.putAll_of_nodup hpartsNodup)⟩

theorem pages_eq_ok {m : Manifest} {pages : Pages} (h : Admin.pages m = .ok pages) :
    pages.routes.map Prod.fst = ((m.entities.map (·.pageName)).flatMap fun n => pageEndings.map (n ++ ·)) ∧
      pages.components.map Prod.fst =
        ((m.entities.map (·.pageName)).flatMap fun n => partEndings.map (n ++ ·)) ∧
      ∀ e ∈ m.entities, (∃ text, text ≠ "" ∧ (e.pageName ++ "/index.html", text) ∈ pages.routes) ∧
        ∃ text, text ≠ "" ∧ (e.pageName ++ "-form.html", text) ∈ pages.components := by
  obtain ⟨routes, components, hroutes, hcomponents, rfl⟩ := pages_eq_flatten h
  refine ⟨keys_of_mapM (fun e files h => (entityRoutes_eq_ok h).1) hroutes,
    keys_of_mapM (fun e files h => (entityComponents_eq_ok h).1) hcomponents, fun e he => ⟨?_, ?_⟩⟩
  · obtain ⟨files, hmem, hfiles⟩ := exists_ok_of_mem hroutes he
    obtain ⟨-, text, htext, hin⟩ := entityRoutes_eq_ok hfiles
    exact ⟨text, htext, List.mem_flatten.mpr ⟨files, hmem, hin⟩⟩
  · obtain ⟨files, hmem, hfiles⟩ := exists_ok_of_mem hcomponents he
    obtain ⟨-, text, htext, hin⟩ := entityComponents_eq_ok hfiles
    exact ⟨text, htext, List.mem_flatten.mpr ⟨files, hmem, hin⟩⟩

theorem assets_eq_ok {m : Manifest} {files : TextFiles} (h : assets m = .ok files) :
    files.map Prod.fst = ["admin/index.html", "admin/admin.js", "admin/styles.css"] ∧
      ∃ text, text ≠ "" ∧ ("admin/index.html", text) ∈ files := by
  obtain ⟨index, hindex, h⟩ := bind_eq_ok.mp h
  obtain ⟨script, -, h⟩ := bind_eq_ok.mp h
  obtain ⟨style, -, rfl⟩ := bind_pure_eq_ok.mp h
  exact ⟨rfl, index, fill_ne_empty (by decide) hindex, List.mem_cons_self⟩

end Admin

/-! ## The admin group of a run -/

namespace Group

variable {m : Manifest} {t : Moment} {ps : List Piece}

theorem put_of_run_admin (h : Group.admin.run m t = .ok ps) (o : Output) :
    Admin.pages m = .ok (ps.foldl Output.put o).admin ∧
      Admin.assets m = .ok (ps.foldl Output.put o).adminAssets := by
  obtain ⟨pages, hpages, h⟩ := bind_eq_ok.mp h
  obtain ⟨assets, hassets, h⟩ := bind_eq_ok.mp h
  obtain ⟨packed, -, rfl⟩ := bind_pure_eq_ok.mp h
  exact ⟨mapError_eq_ok.mp hpages, mapError_eq_ok.mp hassets⟩

theorem put_of_run_other {g : Group} (hg : g ≠ .admin) (h : g.run m t = .ok ps) (o : Output) :
    (ps.foldl Output.put o).admin = o.admin ∧ (ps.foldl Output.put o).adminAssets = o.adminAssets := by
  cases g with
  | schema =>
    obtain ⟨s, -, rfl⟩ := bind_pure_eq_ok.mp h
    exact ⟨rfl, rfl⟩
  | types =>
    cases h
    exact ⟨rfl, rfl⟩
  | routes =>
    obtain ⟨s, -, h⟩ := bind_eq_ok.mp h
    obtain ⟨bodies, -, rfl⟩ := bind_pure_eq_ok.mp h
    exact ⟨rfl, rfl⟩
  | config =>
    obtain ⟨s, -, rfl⟩ := bind_pure_eq_ok.mp h
    exact ⟨rfl, rfl⟩
  | migrations =>
    obtain ⟨s, -, rfl⟩ := bind_pure_eq_ok.mp h
    exact ⟨rfl, rfl⟩
  | admin => exact absurd rfl hg

end Group

namespace Manifest

variable {m : Manifest} {t : Moment}

/-- What the admin group adds to the output is not touched by the groups behind it. -/
theorem foldlM_run_admin : ∀ {gs : List Group} {o o' : Output},
    gs.foldlM (fun o g => do return (← g.run m t).foldl Output.put o) o = .ok o' →
      if Group.admin ∈ gs then Admin.pages m = .ok o'.admin ∧ Admin.assets m = .ok o'.adminAssets
      else o'.admin = o.admin ∧ o'.adminAssets = o.adminAssets
  | [], o, o', h => by
    cases h
    exact ⟨rfl, rfl⟩
  | g :: gs, o, o', h => by
    rw [List.foldlM_cons] at h
    obtain ⟨mid, hmid, h⟩ := bind_eq_ok.mp h
    obtain ⟨ps, hrun, rfl⟩ := bind_pure_eq_ok.mp hmid
    have hrest := foldlM_run_admin h
    by_cases hmem : Group.admin ∈ gs
    · rw [if_pos hmem] at hrest
      rw [if_pos (List.mem_cons_of_mem g hmem)]
      exact hrest
    · rw [if_neg hmem] at hrest
      by_cases hg : g = .admin
      · subst hg
        rw [if_pos List.mem_cons_self, hrest.1, hrest.2]
        exact Group.put_of_run_admin hrun o
      · rw [if_neg (by simp [hmem, Ne.symm hg]), hrest.1, hrest.2]
        exact Group.put_of_run_other hg hrun o

theorem generateAll_admin {skip : List String} {o : Output} (h : m.generateAll skip t = .ok o) :
    if "admin" ∈ skip then o.admin = .empty ∧ o.adminAssets = []
    else Admin.pages m = .ok o.admin ∧ Admin.assets m = .ok o.adminAssets := by
  have hrun := foldlM_run_admin (o := .empty) h
  have hasked : Group.admin ∈ (Group.all.filter fun g => !skip.contains g.name) ↔ "admin" ∉ skip := by
    simp [Group.all, Group.name]
  by_cases hskip : "admin" ∈ skip
  · rw [if_neg (fun hmem => hasked.mp hmem hskip)] at hrun
    rw [if_pos hskip]
    exact hrun
  · rw [if_pos (hasked.mpr hskip)] at hrun
    rw [if_neg hskip]
    exact hrun

end Manifest

end Scaffold
