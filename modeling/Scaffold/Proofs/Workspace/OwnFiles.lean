import Scaffold.Proofs.Files.Segments
import Scaffold.Proofs.Generation.Completion
import Scaffold.Proofs.Workspace.Planned

/-!
# A file of its own for each artifact

The names of entities go into the paths of their admin pages as they are. No
artifact takes the place of another one exactly when the page folders of two
entities are two places, their forms are too, and no page folder is that of
the entrance to the pages (`Manifest.ownFiles_iff`). All other files are apart
by the ends of their names, whatever the names of the entities are.
-/

namespace Scaffold

namespace Output

/-! ## Paths -/

def moduleFiles : List String := ["models.py", "schemas.py", "types.ts", "routes.py",
  "request_schemas.json", "app_config.py", "admin_assets.py"]

def assetFiles : List String := ["index.html", "admin.js", "styles.css"]

def pageFiles : List String := ["index.html", "new.html", "detail.html"]

def adminFiles : List String := ["index.html", "admin.js", "styles.css", "new.html", "detail.html"]

def sqlEndings : List String := ["_init.sql", "_rollback.sql"]

def textEndings : List String := moduleFiles ++ adminFiles ++ Admin.partEndings ++ sqlEndings

def fileEndings : List String := "__init__.py" :: textEndings

theorem fileEndings_apart : EndingsApart fileEndings := by decide +kernel

theorem fileEndings_nodup : fileEndings.Nodup := by decide +kernel

theorem fileEndings_valid : ∀ x ∈ fileEndings, '/' ∉ x.toList ∧ 2 < x.toList.length := by decide +kernel

/-- What is left of the admin group: some assets, and the pages and parts of the given names. -/
structure HasPages (o : Output) (assets names : List String) : Prop where
  assets : o.adminAssets.map Prod.fst = assets.map ("admin/" ++ ·)
  routes : o.admin.routes.map Prod.fst = names.flatMap fun n => Admin.pageEndings.map (n ++ ·)
  components : o.admin.components.map Prod.fst = names.flatMap fun n => Admin.partEndings.map (n ++ ·)
  shown : ∀ n ∈ names, (∃ text, text ≠ "" ∧ (n ++ "/index.html", text) ∈ o.admin.routes) ∧
    (∃ text, text ≠ "" ∧ (n ++ "-form.html", text) ∈ o.admin.components) ∧
      ∃ text, text ≠ "" ∧ ("admin/index.html", text) ∈ o.adminAssets

abbrev PathGroup := String × List String

/-- Assets and pages have an ending in common, so that their places have to tell them apart. -/
def adminGroups (assets names : List String) : List PathGroup :=
  ("admin/", assets) :: names.map fun n => ("admin/pages/" ++ n ++ "/", pageFiles)

def partGroups (names : List String) : List PathGroup :=
  names.map fun n => ("admin/components/" ++ n, Admin.partEndings)

def pathGroups (t : Moment) (assets names : List String) : List PathGroup :=
  [("", moduleFiles)] ++ adminGroups assets names ++ partGroups names ++
    [("migrations/" ++ t.version, sqlEndings)]

variable {o : Output} {folder : FilePath} {t : Moment} {here : Location} {assets names : List String}

theorem paths_below {files : TextFiles} {endings endings' : List String} {between : String}
    (hfiles : files.map Prod.fst = names.flatMap fun n => endings.map (n ++ ·))
    (hendings : endings = endings'.map (between ++ ·)) (folder : String) :
    (files.map fun f => (folder ++ f.1, f.2)).map Prod.fst =
      names.flatMap fun n => endings'.map (folder ++ n ++ between ++ ·) := by
  have hkeys : (files.map fun f => (folder ++ f.1, f.2)).map Prod.fst =
      (files.map Prod.fst).map (folder ++ ·) := by simp
  rw [hkeys, hfiles, hendings, List.map_flatMap]
  refine List.flatMap_congr fun n _ => ?_
  simp [String.append_assoc]

theorem paths_texts (h : o.HasPages assets names) :
    (o.texts t).map Prod.fst = (pathGroups t assets names).flatMap fun g => g.2.map (g.1 ++ ·) := by
  have hpage : Admin.pageEndings = pageFiles.map ("/" ++ ·) := rfl
  have hpart : Admin.partEndings = Admin.partEndings.map ("" ++ ·) := by simp
  unfold texts pathGroups adminGroups partGroups
  simp only [List.map_append, List.flatMap_append, List.flatMap_cons, List.flatMap_map, h.assets,
    paths_below h.routes hpage, paths_below h.components hpart, String.append_empty]
  simp [moduleFiles, sqlEndings]

/-! ## Places -/

def pageFolder (folder : FilePath) (name : String) : FilePath := folder.append ("admin/pages/" ++ name)

def formFile (folder : FilePath) (name : String) : FilePath :=
  folder.append ("admin/components/" ++ name ++ "-form.html")

/-- No two page names lead to one place, and none leads to the entrance. -/
structure PagesApart (names : List String) (folder : FilePath) (here : Location) : Prop where
  pages : ∀ n ∈ names, ∀ n' ∈ names,
    (pageFolder folder n).resolve here = (pageFolder folder n').resolve here → n = n'
  forms : ∀ n ∈ names, ∀ n' ∈ names,
    (formFile folder n).resolve here = (formFile folder n').resolve here → n = n'
  entrance : ∀ n ∈ names, (pageFolder folder n).resolve here ≠ (folder.append "admin").resolve here

namespace PathGroup

structure Fits (endings : List String) (g : PathGroup) : Prop where
  head : g.1.toList.head? ≠ some '/'
  nodup : g.2.Nodup
  known : g.2 ⊆ endings

def Apart (folder : FilePath) (here : Location) (g g' : PathGroup) : Prop :=
  FilePath.stemPlace folder here g.1 = FilePath.stemPlace folder here g'.1 → g.2.Disjoint g'.2

variable {gs gs' : List PathGroup} {endings endings' : List String}

theorem Fits.mono {g : PathGroup} (h : Fits endings g) (hendings : endings ⊆ endings') : Fits endings' g :=
  ⟨h.head, h.nodup, List.Subset.trans h.known hendings⟩

theorem fits_append (h : ∀ g ∈ gs, Fits endings g) (h' : ∀ g ∈ gs', Fits endings' g) :
    ∀ g ∈ gs ++ gs', Fits (endings ++ endings') g := by
  intro g hg
  rcases List.mem_append.mp hg with hg | hg
  · exact (h g hg).mono (List.subset_append_left _ _)
  · exact (h' g hg).mono (List.subset_append_right _ _)

theorem pairwise_append (h : ∀ g ∈ gs, Fits endings g) (h' : ∀ g ∈ gs', Fits endings' g)
    (hendings : (endings ++ endings').Nodup) :
    (gs ++ gs').Pairwise (Apart folder here) ↔
      gs.Pairwise (Apart folder here) ∧ gs'.Pairwise (Apart folder here) := by
  rw [List.pairwise_append, ← and_assoc, and_iff_left]
  intro g hg g' hg' _
  have hdisjoint := List.disjoint_of_nodup_append hendings
  exact List.disjoint_of_subset_left (h g hg).known (List.disjoint_of_subset_right (h' g' hg').known hdisjoint)

theorem resolve_path {g : PathGroup} {x : String} (hg : Fits fileEndings g) (hx : x ∈ g.2) :
    (folder.append (g.1 ++ x)).resolve here =
      (FilePath.stemPlace folder here g.1).1 ++ [(FilePath.stemPlace folder here g.1).2 ++ x] := by
  obtain ⟨hslash, hlong⟩ := fileEndings_valid x (hg.known hx)
  exact FilePath.resolve_ending hg.head hslash hlong here

theorem place_inj {g g' : PathGroup} {x y : String} (hg : Fits fileEndings g) (hg' : Fits fileEndings g')
    (hx : x ∈ g.2) (hy : y ∈ g'.2)
    (heq : (folder.append (g.1 ++ x)).resolve here = (folder.append (g'.1 ++ y)).resolve here) :
    FilePath.stemPlace folder here g.1 = FilePath.stemPlace folder here g'.1 ∧ x = y := by
  rw [resolve_path hg hx, resolve_path hg' hy] at heq
  exact fileEndings_apart.place_inj (hg.known hx) (hg'.known hy) heq

theorem nodup_places (h : ∀ g ∈ gs, Fits fileEndings g) (hapart : gs.Pairwise (Apart folder here)) :
    ((gs.flatMap fun g => g.2.map (g.1 ++ ·)).map fun p => (folder.append p).resolve here).Nodup := by
  rw [List.map_flatMap, List.nodup_flatMap]
  constructor
  · intro g hg
    rw [List.map_map]
    exact (h g hg).nodup.map_on fun x hx y hy heq => (place_inj (h g hg) (h g hg) hx hy heq).2
  · refine hapart.imp_of_mem fun {g g'} hg hg' hdisjoint l hl hl' => ?_
    simp only [List.map_map, List.mem_map, Function.comp_apply] at hl hl'
    obtain ⟨x, hx, rfl⟩ := hl
    obtain ⟨y, hy, heq⟩ := hl'
    obtain ⟨hplace, rfl⟩ := place_inj (h g' hg') (h g hg) hy hx heq
    exact hdisjoint hplace.symm hx hy

end PathGroup

/-! ## Pages apart -/

theorem fits_adminGroups (hassets : assets.Sublist assetFiles) (names : List String) :
    ∀ g ∈ adminGroups assets names, PathGroup.Fits adminFiles g := by
  have hnodup : assetFiles.Nodup ∧ pageFiles.Nodup := by decide +kernel
  have hknown : assetFiles ⊆ adminFiles ∧ pageFiles ⊆ adminFiles := by decide +kernel
  intro g hg
  rcases List.mem_cons.mp hg with rfl | hg
  · exact ⟨by simp, hnodup.1.sublist hassets, List.Subset.trans hassets.subset hknown.1⟩
  · obtain ⟨n, -, rfl⟩ := List.mem_map.mp hg
    exact ⟨by simp, hnodup.2, hknown.2⟩

theorem fits_partGroups (names : List String) :
    ∀ g ∈ partGroups names, PathGroup.Fits Admin.partEndings g := by
  have hnodup : Admin.partEndings.Nodup := by decide +kernel
  intro g hg
  obtain ⟨n, -, rfl⟩ := List.mem_map.mp hg
  exact ⟨by simp, hnodup, fun x hx => hx⟩

theorem fits_singleton (stem : String) {endings : List String} (hhead : stem.toList.head? ≠ some '/')
    (hnodup : endings.Nodup) : ∀ g ∈ [((stem, endings) : PathGroup)], PathGroup.Fits endings g := by
  intro g hg
  rw [List.mem_singleton.mp hg]
  exact ⟨hhead, hnodup, fun x hx => hx⟩

theorem pathGroups_fit_and_apart (hassets : assets.Sublist assetFiles) (names : List String) (t : Moment)
    (folder : FilePath) (here : Location) :
    (∀ g ∈ pathGroups t assets names, PathGroup.Fits textEndings g) ∧
      ((pathGroups t assets names).Pairwise (PathGroup.Apart folder here) ↔
        (adminGroups assets names).Pairwise (PathGroup.Apart folder here) ∧
          (partGroups names).Pairwise (PathGroup.Apart folder here)) := by
  have hall : textEndings.Nodup := fileEndings_nodup.of_cons
  have hrest : (moduleFiles ++ adminFiles ++ Admin.partEndings).Nodup := hall.of_append_left
  have hfirst : (moduleFiles ++ adminFiles).Nodup := hrest.of_append_left
  have hmodules := fits_singleton "" (by simp) hfirst.of_append_left
  have hadmin := fits_adminGroups hassets names
  have hparts := fits_partGroups names
  have hsql := fits_singleton ("migrations/" ++ t.version) (by simp) hall.of_append_right
  -- each block is put behind those before it, which have no ending of the block
  have hmodulesAdmin := PathGroup.fits_append hmodules hadmin
  have hmodulesAdminParts := PathGroup.fits_append hmodulesAdmin hparts
  refine ⟨PathGroup.fits_append hmodulesAdminParts hsql, ?_⟩
  rw [pathGroups, PathGroup.pairwise_append hmodulesAdminParts hsql hall,
    PathGroup.pairwise_append hmodulesAdmin hparts hrest, PathGroup.pairwise_append hmodules hadmin hfirst]
  simp

theorem stemPlace_page (folder : FilePath) (here : Location) (n : String) :
    FilePath.stemPlace folder here ("admin/pages/" ++ n ++ "/") = ((pageFolder folder n).resolve here, "") :=
  FilePath.stemPlace_slash (by simp) here

theorem stemPlace_entrance (folder : FilePath) (here : Location) :
    FilePath.stemPlace folder here "admin/" = ((folder.append "admin").resolve here, "") :=
  FilePath.stemPlace_slash (by decide : "admin".toList.head? ≠ some '/') here

theorem resolve_formFile (folder : FilePath) (here : Location) (n : String) :
    (formFile folder n).resolve here = (FilePath.stemPlace folder here ("admin/components/" ++ n)).1 ++
      [(FilePath.stemPlace folder here ("admin/components/" ++ n)).2 ++ "-form.html"] :=
  FilePath.resolve_ending (by simp) (by decide) (by decide) here

theorem resolve_listPage (folder : FilePath) (here : Location) (n : String) :
    (folder.append ("admin/pages/" ++ (n ++ "/index.html"))).resolve here =
      (pageFolder folder n).resolve here ++ ["index.html"] := by
  have hpath : "admin/pages/" ++ (n ++ "/index.html") = "admin/pages/" ++ n ++ "/" ++ "index.html" := by
    simp [String.append_assoc]
  rw [hpath, FilePath.resolve_ending (by simp) (by decide) (by decide) here, stemPlace_page,
    String.empty_append]

theorem resolve_entrance (folder : FilePath) (here : Location) :
    (folder.append "admin/index.html").resolve here = (folder.append "admin").resolve here ++ ["index.html"] := by
  have hpath : "admin/index.html" = "admin/" ++ "index.html" := by decide
  rw [hpath, FilePath.resolve_ending (by decide) (by decide) (by decide) here, stemPlace_entrance,
    String.empty_append]

theorem adminGroups_apart (hnames : names.Nodup) (h : PagesApart names folder here) :
    (adminGroups assets names).Pairwise (PathGroup.Apart folder here) := by
  rw [adminGroups, List.pairwise_cons, List.pairwise_map]
  constructor
  · intro g hg hplace
    obtain ⟨n, hn, rfl⟩ := List.mem_map.mp hg
    rw [stemPlace_entrance, stemPlace_page] at hplace
    exact absurd (congrArg Prod.fst hplace).symm (h.entrance n hn)
  · refine hnames.imp_of_mem fun {n n'} hn hn' hne hplace => ?_
    rw [stemPlace_page, stemPlace_page] at hplace
    exact absurd (h.pages n hn n' hn' (congrArg Prod.fst hplace)) hne

theorem partGroups_apart (hnames : names.Nodup) (h : PagesApart names folder here) :
    (partGroups names).Pairwise (PathGroup.Apart folder here) := by
  rw [partGroups, List.pairwise_map]
  refine hnames.imp_of_mem fun {n n'} hn hn' hne hplace => ?_
  refine absurd (h.forms n hn n' hn' ?_) hne
  rw [resolve_formFile, resolve_formFile, hplace]

/-! ## Own files -/

theorem places_entries (o : Output) (folder : FilePath) (t : Moment) (here : Location) :
    ((o.entries folder t).map (·.1.resolve here)).Sublist
      (((o.texts t).map Prod.fst).map fun p => (folder.append p).resolve here) := by
  rw [entries, List.map_map, List.map_map]
  exact List.filter_sublist.map _

theorem mark_notMem (h : o.HasPages assets names) (hassets : assets.Sublist assetFiles) :
    (folder.append "__init__.py").resolve here ∉ (o.entries folder t).map (·.1.resolve here) := by
  intro hmark
  have hmem := (places_entries o folder t here).subset hmark
  rw [paths_texts h, List.map_flatMap, List.mem_flatMap] at hmem
  obtain ⟨g, hg, hmem⟩ := hmem
  rw [List.map_map] at hmem
  obtain ⟨x, hx, heq⟩ := List.mem_map.mp hmem
  have hfit := (pathGroups_fit_and_apart hassets names t folder here).1 g hg
  have hmarkFit : PathGroup.Fits fileEndings ("", ["__init__.py"]) :=
    ⟨by simp, List.nodup_singleton _, by simp [fileEndings]⟩
  obtain ⟨-, rfl⟩ := PathGroup.place_inj (hfit.mono (List.subset_cons_self _ _)) hmarkFit hx
    List.mem_cons_self heq
  exact (List.nodup_cons.mp fileEndings_nodup).1 (hfit.known hx)

/-- Two texts that are not empty and in one place have one path. -/
theorem path_eq_of_place {p q text text' : String}
    (hnodup : ((o.entries folder t).map (·.1.resolve here)).Nodup) (hp : (p, text) ∈ o.texts t)
    (hq : (q, text') ∈ o.texts t) (hne : text ≠ "") (hne' : text' ≠ "")
    (hplace : (folder.append p).resolve here = (folder.append q).resolve here) : p = q := by
  rw [entries, List.map_map] at hnodup
  have hp' : (p, text) ∈ (o.texts t).filter (·.2 ≠ "") := List.mem_filter.mpr ⟨hp, decide_eq_true hne⟩
  have hq' : (q, text') ∈ (o.texts t).filter (·.2 ≠ "") := List.mem_filter.mpr ⟨hq, decide_eq_true hne'⟩
  exact congrArg Prod.fst (List.inj_on_of_nodup_map hnodup hp' hq' hplace)

section
variable {path text : String}

theorem asset_mem_texts (h : (path, text) ∈ o.adminAssets) : (path, text) ∈ o.texts t := by
  simp only [texts, List.mem_append]
  exact Or.inl (Or.inl (Or.inl (Or.inr h)))

theorem page_mem_texts (h : (path, text) ∈ o.admin.routes) : ("admin/pages/" ++ path, text) ∈ o.texts t := by
  simp only [texts, List.mem_append]
  exact Or.inl (Or.inl (Or.inr (List.mem_map.mpr ⟨_, h, rfl⟩)))

theorem part_mem_texts (h : (path, text) ∈ o.admin.components) :
    ("admin/components/" ++ path, text) ∈ o.texts t := by
  simp only [texts, List.mem_append]
  exact Or.inl (Or.inr (List.mem_map.mpr ⟨_, h, rfl⟩))

end

theorem pagesApart_of_nodup (h : o.HasPages assets names)
    (hnodup : ((o.entries folder t).map (·.1.resolve here)).Nodup) : PagesApart names folder here := by
  have hlist (n : String) (hn : n ∈ names) : ∃ text, text ≠ "" ∧
      ("admin/pages/" ++ (n ++ "/index.html"), text) ∈ o.texts t := by
    obtain ⟨⟨text, hne, hmem⟩, -, -⟩ := h.shown n hn
    exact ⟨text, hne, page_mem_texts hmem⟩
  have hform (n : String) (hn : n ∈ names) : ∃ text, text ≠ "" ∧
      ("admin/components/" ++ (n ++ "-form.html"), text) ∈ o.texts t := by
    obtain ⟨-, ⟨text, hne, hmem⟩, -⟩ := h.shown n hn
    exact ⟨text, hne, part_mem_texts hmem⟩
  refine ⟨fun n hn n' hn' hplace => ?_, fun n hn n' hn' hplace => ?_, fun n hn hplace => ?_⟩
  · obtain ⟨text, hne, hmem⟩ := hlist n hn
    obtain ⟨text', hne', hmem'⟩ := hlist n' hn'
    have := path_eq_of_place hnodup hmem hmem' hne hne' (by
      rw [resolve_listPage, resolve_listPage, hplace])
    simpa using this
  · obtain ⟨text, hne, hmem⟩ := hform n hn
    obtain ⟨text', hne', hmem'⟩ := hform n' hn'
    have := path_eq_of_place hnodup hmem hmem' hne hne' (by
      rw [← String.append_assoc, ← String.append_assoc]
      exact hplace)
    simpa using this
  · -- the list page would be in the place of the entrance
    obtain ⟨text, hne, hmem⟩ := hlist n hn
    obtain ⟨-, -, text', hne', hmem'⟩ := h.shown n hn
    have := path_eq_of_place (q := "admin/index.html") hnodup hmem (asset_mem_texts hmem') hne hne' (by
      rw [resolve_listPage, resolve_entrance, hplace])
    have hlist := congrArg String.toList this
    simp at hlist

theorem ownFiles_iff_pagesApart (h : o.HasPages assets names) (hassets : assets.Sublist assetFiles)
    (hnames : names.Nodup) : o.OwnFiles folder t here ↔ PagesApart names folder here := by
  rw [ownFiles_iff_nodup (mark_notMem h hassets)]
  refine ⟨pagesApart_of_nodup h, fun hapart => ?_⟩
  obtain ⟨hfit, hgroups⟩ := pathGroups_fit_and_apart hassets names t folder here
  have hplaces := PathGroup.nodup_places (fun g hg => (hfit g hg).mono (List.subset_cons_self _ _))
    (hgroups.mpr ⟨adminGroups_apart hnames hapart, partGroups_apart hnames hapart⟩)
  rw [← paths_texts h] at hplaces
  exact hplaces.sublist (places_entries o folder t here)

/-! ## Ordinary names -/

theorem toList_slash (folder n : String) : (folder ++ "/" ++ n).toList = folder.toList ++ '/' :: n.toList := by
  simp [String.toList_append]

theorem resolve_pageFolder {n : String} (hup : ".." ∉ FilePath.readSegments n.toList) (folder : FilePath)
    (here : Location) : (pageFolder folder n).resolve here =
      folder.resolve here ++ (["admin", "pages"] ++ FilePath.readSegments n.toList) := by
  have hsegments : FilePath.readSegments ("admin/pages/" ++ n).toList =
      ["admin", "pages"] ++ FilePath.readSegments n.toList := by
    have hfolder : "admin/pages/" = "admin/pages" ++ "/" := by decide
    have hadmin : FilePath.readSegments "admin/pages".toList = ["admin", "pages"] := by decide +kernel
    rw [hfolder, toList_slash, FilePath.readSegments_slash, hadmin]
  rw [pageFolder, FilePath.resolve_append (by simp), hsegments, Location.follow_of_notMem (by simpa using hup)]

theorem stemPlace_form {n : String} (hup : ".." ∉ FilePath.foldersOf n.toList) (folder : FilePath)
    (here : Location) : FilePath.stemPlace folder here ("admin/components/" ++ n) =
      (folder.resolve here ++ (["admin", "components"] ++ FilePath.foldersOf n.toList),
        String.ofList (FilePath.lastOf n.toList)) := by
  have hfolder : "admin/components/" = "admin/components" ++ "/" := by decide
  have hadmin : FilePath.readSegments "admin/components".toList = ["admin", "components"] := by decide +kernel
  have hfolders : FilePath.foldersOf ("admin/components/" ++ n).toList =
      ["admin", "components"] ++ FilePath.foldersOf n.toList := by
    rw [hfolder, toList_slash, FilePath.foldersOf_slash, hadmin]
  have hlast : FilePath.lastOf ("admin/components/" ++ n).toList = FilePath.lastOf n.toList := by
    rw [hfolder, toList_slash, FilePath.lastOf_slash]
  rw [FilePath.stemPlace, hfolders, hlast, Location.follow_of_notMem (by simpa using hup)]

theorem pagesApart_of_segments (hup : ∀ n ∈ names, ".." ∉ FilePath.readSegments n.toList)
    (hinj : ∀ n ∈ names, ∀ n' ∈ names,
      FilePath.readSegments n.toList = FilePath.readSegments n'.toList → n = n')
    (folder : FilePath) (here : Location) : PagesApart names folder here := by
  refine ⟨fun n hn n' hn' hplace => ?_, fun n hn n' hn' hplace => ?_, fun n hn hplace => ?_⟩
  · rw [resolve_pageFolder (hup n hn), resolve_pageFolder (hup n' hn'), List.append_cancel_left_eq,
      List.append_cancel_left_eq] at hplace
    exact hinj n hn n' hn' hplace
  · -- a form stands beside the pages, so its name begins with the last segment of the page name
    have hfolders (n : String) (hn : n ∈ names) : ".." ∉ FilePath.foldersOf n.toList := by
      intro hmem
      refine hup n hn ?_
      rw [FilePath.readSegments_eq]
      exact List.mem_append_left _ hmem
    have hending : "-form.html" ∈ fileEndings := by decide
    rw [resolve_formFile, resolve_formFile] at hplace
    obtain ⟨hstem, -⟩ := fileEndings_apart.place_inj hending hending hplace
    rw [stemPlace_form (hfolders n hn), stemPlace_form (hfolders n' hn'), Prod.mk.injEq,
      List.append_cancel_left_eq, List.append_cancel_left_eq, String.ofList_inj] at hstem
    refine hinj n hn n' hn' ?_
    rw [FilePath.readSegments_eq, FilePath.readSegments_eq n'.toList, hstem.1, hstem.2]
  · have hadmin : ".." ∉ FilePath.readSegments "admin".toList := by decide
    have hentrance : (folder.append "admin").resolve here = folder.resolve here ++ ["admin"] := by
      rw [FilePath.resolve_append (by decide), Location.follow_of_notMem hadmin]
      rfl
    rw [resolve_pageFolder (hup n hn), hentrance, List.append_cancel_left_eq] at hplace
    simp at hplace

end Output

/-! ## Runs -/

namespace Manifest

variable {m : Manifest} {o : Output} {skip : List String} {t : Moment}

theorem hasPages_of_generateAll (h : m.generateAll skip t = .ok o) :
    if "admin" ∈ skip then o.HasPages [] [] else
      o.HasPages Output.assetFiles (m.entities.map (·.pageName)) ∧ (m.entities.map (·.pageName)).Nodup := by
  have hadmin := generateAll_admin h
  by_cases hskip : "admin" ∈ skip
  · rw [if_pos hskip] at hadmin ⊢
    obtain ⟨hpages, hassets⟩ := hadmin
    refine ⟨?_, ?_, ?_, fun n hn => absurd hn List.not_mem_nil⟩
    · rw [hassets]; rfl
    · rw [hpages]; rfl
    · rw [hpages]; rfl
  · rw [if_neg hskip] at hadmin ⊢
    obtain ⟨hpages, hassets⟩ := hadmin
    obtain ⟨hkeys, text, htext, hentrance⟩ := Admin.assets_eq_ok hassets
    obtain ⟨hroutes, hcomponents, hshown⟩ := Admin.pages_eq_ok hpages
    refine ⟨⟨hkeys, hroutes, hcomponents, fun n hn => ?_⟩, Admin.isOk_pages_iff.mp (isOk_iff.mpr ⟨_, hpages⟩)⟩
    obtain ⟨e, he, rfl⟩ := List.mem_map.mp hn
    exact ⟨(hshown e he).1, (hshown e he).2, text, htext, hentrance⟩

theorem exists_generateAll {raw : Value} (h : validate raw = .ok m) (hraw : raw.hasJson false)
    (hpages : (m.entities.map (·.pageName)).Nodup) (skip : List String) (t : Moment) :
    ∃ o, m.generateAll skip t = .ok o := by
  obtain ⟨hgiven, hnames⟩ := validate_eq_ok_iff.mp h
  rcases foldlM_run_cases (Group.run m t) (fun o ps => ps.foldl Output.put o)
    (Group.all.filter fun g => !skip.contains g.name) Output.empty with
    ⟨o, ho, -⟩ | ⟨-, g, -, fault, -, -, hfault, -⟩
  · exact ⟨o, ho⟩
  · have houtcome := Group.outcome_run hnames t g
    rw [hfault] at houtcome
    cases houtcome with
    | unwritable hw => exact absurd (writes_of_hasJson hraw hgiven g) hw
    | conflict _ he hother hne hlower =>
      exact absurd (congrArg Entity.name (List.inj_on_of_nodup_map hpages he hother hlower)) hne

/-- **Own files.** Each artifact of a run has a file of its own exactly when the admin group is
skipped, or its pages are apart. -/
theorem ownFiles_iff (h : m.generateAll skip t = .ok o) (folder : FilePath) (here : Location) :
    o.OwnFiles folder t here ↔
      "admin" ∈ skip ∨ Output.PagesApart (m.entities.map (·.pageName)) folder here := by
  have hhas := hasPages_of_generateAll h
  by_cases hskip : "admin" ∈ skip
  · rw [if_pos hskip] at hhas
    rw [Output.ownFiles_iff_pagesApart hhas (List.nil_sublist _) List.nodup_nil]
    refine iff_of_true ⟨?_, ?_, ?_⟩ (Or.inl hskip) <;> exact fun n hn => absurd hn List.not_mem_nil
  · rw [if_neg hskip] at hhas
    rw [Output.ownFiles_iff_pagesApart hhas.1 (List.Sublist.refl _) hhas.2, or_iff_right hskip]

def ofNames (names : List String) : Value :=
  let title : Value := .ofFields [("name", .text "title"), ("kind", .text "string")]
  .ofFields [("id", .text "shop"), ("name", .text "Shop"), ("version", .text "1"),
    ("entities", .list (names.map fun n => .ofFields [("name", .text n), ("fields", .list [title])]))]

theorem ownFiles_of_plain_names :
    ∃ m, validate (ofNames ["Item", "a/b"]) = .ok m ∧ ∀ t, ∃ o, m.generateAll [] t = .ok o ∧
      ∀ folder here, o.OwnFiles folder t here := by
  obtain ⟨m, hm, hnames⟩ : ∃ m, validate (ofNames ["Item", "a/b"]) = .ok m ∧
      (m.entities.map (·.pageName)) = ["item", "a/b"] := ⟨_, rfl, rfl⟩
  refine ⟨m, hm, fun t => ?_⟩
  obtain ⟨o, ho⟩ := exists_generateAll hm rfl (by rw [hnames]; decide) [] t
  refine ⟨o, ho, fun folder here => (ownFiles_iff ho folder here).mpr (Or.inr ?_)⟩
  rw [hnames]
  exact Output.pagesApart_of_segments (by decide +kernel) (by decide +kernel) folder here

/-- The list page of an entity whose name leads upwards is in the place of the entrance. -/
theorem not_ownFiles_of_parent_name :
    let newYear : Moment := ⟨⟨2024, 1, 1⟩, 0, 0, 0, 0, some 0⟩
    ∃ m, validate (ofNames [".."]) = .ok m ∧ ∃ o, m.generateAll [] newYear = .ok o ∧
      ¬ o.OwnFiles (.ofText "/out") newYear [] := by
  intro newYear
  obtain ⟨m, hm, hnames⟩ : ∃ m, validate (ofNames [".."]) = .ok m ∧
      (m.entities.map (·.pageName)) = [".."] := ⟨_, rfl, rfl⟩
  obtain ⟨o, ho⟩ := exists_generateAll hm rfl (by rw [hnames]; decide) [] newYear
  refine ⟨m, hm, o, ho, fun hown => ?_⟩
  have hhas := hasPages_of_generateAll ho
  rw [if_neg List.not_mem_nil, hnames] at hhas
  have hapart := (Output.ownFiles_iff_pagesApart hhas.1 (List.Sublist.refl _) hhas.2).mp hown
  exact hapart.entrance ".." List.mem_cons_self (by decide)

end Manifest

end Scaffold
