import Scaffold.Proofs.Files.Orderly
import Scaffold.Proofs.Generation.Targets
import Scaffold.Proofs.Workspace.OwnFiles

/-!
# Plans with more groups skipped

To skip more groups takes the files of these groups out of the plan, and the
mark of a package with the last module. All that is left is planned as before
(`Manifest.plan_of_more_skipped`): the files of two groups end differently, so
no group writes over the files of another.
-/

namespace Scaffold

/-! ## Groups of texts -/

namespace Group

def planned : List Group := [.schema, .types, .routes, .config, .admin, .migrations]

theorem mem_planned (g : Group) : g ∈ planned := by cases g <;> decide

def endings : Group → List String
  | .schema => ["models.py", "schemas.py"]
  | .types => ["types.ts"]
  | .routes => ["routes.py", "request_schemas.json"]
  | .config => ["app_config.py"]
  | .admin => "admin_assets.py" :: (Output.adminFiles ++ Admin.partEndings)
  | .migrations => Output.sqlEndings

theorem endings_known (g : Group) : g.endings ⊆ Output.fileEndings := by
  cases g <;> decide +kernel

theorem endings_apart {g g' : Group} (h : g ≠ g') : g.endings.Disjoint g'.endings := by
  have hall : ∀ g ∈ all, ∀ g' ∈ all, g ≠ g' → ∀ x ∈ g.endings, x ∉ g'.endings := by decide +kernel
  exact fun x hx hx' => hall g (mem_all g) g' (mem_all g') h x hx hx'

end Group

namespace Output

def textsOf (o : Output) (t : Moment) : Group → TextFiles
  | .schema => [("models.py", o.schema), ("schemas.py", o.validationSchemas)]
  | .types => [("types.ts", o.allTypes)]
  | .routes => [("routes.py", o.routes), ("request_schemas.json", o.requestSchemas)]
  | .config => [("app_config.py", o.config)]
  | .admin => [("admin_assets.py", o.adminAssetsModule)] ++ o.adminAssets ++
      o.admin.routes.map (fun f => ("admin/pages/" ++ f.1, f.2)) ++
      o.admin.components.map (fun f => ("admin/components/" ++ f.1, f.2))
  | .migrations => [("migrations/" ++ t.version ++ "_init.sql", o.migrations),
      ("migrations/" ++ t.version ++ "_rollback.sql", o.rollback)]

variable {o o' : Output} {t : Moment} {folder : FilePath} {assets names : List String}

theorem texts_eq_flatMap (o : Output) (t : Moment) : o.texts t = Group.planned.flatMap (o.textsOf t) := by
  simp [texts, Group.planned, textsOf]

theorem textsOf_congr {g : Group} (h : ∀ p ∈ o.pieces, p.key ∈ g.keys → p ∈ o'.pieces) :
    o.textsOf t g = o'.textsOf t g := by
  cases g <;> simp [pieces, Group.keys, Piece.key] at h <;> simp [textsOf, allTypes, h]

theorem textsOf_eq_of_pieces {g : Group} {ps : List Piece} (hkeys : ps.map Piece.key = g.keys)
    (h : ∀ p ∈ o.pieces, p.key ∈ g.keys → p ∈ ps) (h' : ∀ p ∈ o'.pieces, p.key ∈ g.keys → p ∈ ps) :
    o.textsOf t g = o'.textsOf t g := by
  have hnodup : (ps.map Piece.key).Nodup := by
    rw [hkeys]
    simpa using Group.nodup_keys (List.nodup_singleton g)
  refine textsOf_congr fun p hp hkey => ?_
  have hmem : p.key ∈ o'.pieces.map Piece.key := keys_pieces o' ▸ key_mem p
  obtain ⟨q, hq, heq⟩ := List.mem_map.mp hmem
  rwa [List.inj_on_of_nodup_map hnodup (h p hp hkey) (h' q hq (heq ▸ hkey)) heq.symm]

theorem textsOf_empty (t : Moment) (g : Group) : ∀ f ∈ empty.textsOf t g, f.2 = "" := by
  cases g <;> simp [textsOf, allTypes, empty, Admin.Pages.empty]

/-! ## Paths of groups -/

def pathGroupsOf (t : Moment) (assets names : List String) : Group → List PathGroup
  | .admin => ("", ["admin_assets.py"]) :: (adminGroups assets names ++ partGroups names)
  | .migrations => [("migrations/" ++ t.version, sqlEndings)]
  | g => [("", g.endings)]

theorem fits_pathGroupsOf (hassets : assets.Sublist assetFiles) (t : Moment) (names : List String) (g : Group) :
    ∀ pg ∈ pathGroupsOf t assets names g, PathGroup.Fits g.endings pg := by
  have hnodup : ∀ g ∈ Group.all, g.endings.Nodup := by decide +kernel
  cases g with
  | admin =>
    have hassetsModule := fits_singleton "" (by simp) (List.nodup_singleton "admin_assets.py")
    exact PathGroup.fits_append hassetsModule
      (PathGroup.fits_append (fits_adminGroups hassets names) (fits_partGroups names))
  | migrations => exact fits_singleton ("migrations/" ++ t.version) (by simp) (hnodup .migrations (Group.mem_all _))
  | schema => exact fits_singleton "" (by simp) (hnodup .schema (Group.mem_all _))
  | types => exact fits_singleton "" (by simp) (hnodup .types (Group.mem_all _))
  | routes => exact fits_singleton "" (by simp) (hnodup .routes (Group.mem_all _))
  | config => exact fits_singleton "" (by simp) (hnodup .config (Group.mem_all _))

theorem paths_textsOf (h : o.HasPages assets names) (g : Group) : (o.textsOf t g).map Prod.fst =
    (pathGroupsOf t assets names g).flatMap fun pg => pg.2.map (pg.1 ++ ·) := by
  cases g with
  | admin =>
    have hpage : Admin.pageEndings = pageFiles.map ("/" ++ ·) := rfl
    have hpart : Admin.partEndings = Admin.partEndings.map ("" ++ ·) := by simp
    unfold textsOf pathGroupsOf adminGroups partGroups
    simp only [List.map_append, List.flatMap_append, List.flatMap_cons, List.flatMap_map, h.assets,
      paths_below h.routes hpage, paths_below h.components hpart, String.append_empty]
    simp
  | schema | types | routes | config | migrations =>
    simp [textsOf, pathGroupsOf, Group.endings, sqlEndings]

theorem paths_apart (h : o.HasPages assets names) (hassets : assets.Sublist assetFiles) {g g' : Group}
    (hne : g ≠ g') {f f' : String × String} (hf : f ∈ o.textsOf t g) (hf' : f' ∈ o.textsOf t g') :
    folder.append f.1 ≠ folder.append f'.1 := by
  intro hpath
  have hends {g : Group} {f : String × String} (hf : f ∈ o.textsOf t g) :
      ∃ pg : PathGroup, PathGroup.Fits g.endings pg ∧ ∃ x ∈ pg.2, f.1 = pg.1 ++ x := by
    have hmem := List.mem_map_of_mem (f := Prod.fst) hf
    rw [paths_textsOf h, List.mem_flatMap] at hmem
    obtain ⟨pg, hpg, hmem⟩ := hmem
    obtain ⟨x, hx, heq⟩ := List.mem_map.mp hmem
    exact ⟨pg, fits_pathGroupsOf hassets t names g pg hpg, x, hx, heq.symm⟩
  obtain ⟨pg, hfits, x, hx, hfx⟩ := hends hf
  obtain ⟨pg', hfits', y, hy, hfy⟩ := hends hf'
  rw [hfx, hfy] at hpath
  have hplace := congrArg (FilePath.resolve []) hpath
  obtain ⟨-, rfl⟩ := PathGroup.place_inj (hfits.mono (Group.endings_known g))
    (hfits'.mono (Group.endings_known g')) hx hy hplace
  exact Group.endings_apart hne (hfits.known hx) (hfits'.known hy)

/-! ## Plans of groups -/

def entriesOf (o : Output) (folder : FilePath) (t : Moment) (g : Group) : FilePlan :=
  ((o.textsOf t g).filter (·.2 ≠ "")).map fun f => (folder.append f.1, f.2)

theorem mem_paths_entriesOf {g : Group} {p : FilePath} : p ∈ (o.entriesOf folder t g).map Prod.fst ↔
    ∃ f ∈ o.textsOf t g, f.2 ≠ "" ∧ folder.append f.1 = p := by
  unfold entriesOf
  simp [and_assoc]

theorem entries_eq_flatMap (o : Output) (folder : FilePath) (t : Moment) :
    o.entries folder t = Group.planned.flatMap (o.entriesOf folder t) := by
  rw [entries, texts_eq_flatMap, List.filter_flatMap, List.map_flatMap]
  rfl

theorem mem_paths_entries {p : FilePath} : p ∈ (o.entries folder t).map Prod.fst ↔
    ∃ g : Group, ∃ f ∈ o.textsOf t g, f.2 ≠ "" ∧ folder.append f.1 = p := by
  rw [entries_eq_flatMap, List.map_flatMap, List.mem_flatMap]
  simp [mem_paths_entriesOf, Group.mem_planned]

def hasModules (plan : FilePlan) : Bool := plan.paths.any (·.suffix = ".py")

theorem suffix_mark (folder : FilePath) : (folder.append "__init__.py").suffix = ".py" := by
  have hsegments := (FilePath.append_segment (by decide : isSegment "__init__.py") folder).2
  have hsuffix : FilePath.suffixOf "__init__.py".toList = ".py".toList := by decide +kernel
  rw [FilePath.suffix, FilePath.name, hsegments, List.getLast?_concat, Option.getD_some, hsuffix, String.ofList_toList]

theorem mark_fresh (h : o.HasPages assets names) (hassets : assets.Sublist assetFiles) :
    folder.append "__init__.py" ∉ (o.entries folder t).map Prod.fst := by
  have hplace : (folder.append "__init__.py").resolve [] ∉ (o.entries folder t).map (·.1.resolve []) :=
    mark_notMem h hassets
  intro hmem
  obtain ⟨e, he, hpath⟩ := List.mem_map.mp hmem
  exact hplace (List.mem_map.mpr ⟨e, he, congrArg (FilePath.resolve []) hpath⟩)

theorem plan_eq (hfresh : folder.append "__init__.py" ∉ (o.entries folder t).map Prod.fst) :
    o.plan folder t = FilePlan.putAll [] (o.entries folder t) ++
      if hasModules (FilePlan.putAll [] (o.entries folder t)) then [(folder.append "__init__.py", packageMark)]
      else [] := by
  have hput : folder.append "__init__.py" ∉ (FilePlan.putAll [] (o.entries folder t)).map Prod.fst :=
    fun hp => hfresh (FilePlan.mem_paths_putAll.mp hp)
  change (if hasModules (FilePlan.putAll [] (o.entries folder t)) then _ else _) = _
  by_cases hmodules : hasModules (FilePlan.putAll [] (o.entries folder t))
  · rw [if_pos hmodules, if_pos hmodules]
    exact FilePlan.put_of_notMem packageMark hput
  · rw [if_neg hmodules, if_neg hmodules, List.append_nil]
    rfl

theorem nodup_paths_plan (o : Output) (folder : FilePath) (t : Moment) : (o.plan folder t).paths.Nodup := by
  have hfiles : ((FilePlan.putAll [] (o.entries folder t)).map Prod.fst).Nodup :=
    FilePlan.nodup_paths_putAll List.nodup_nil
  rcases o.plan_eq_or folder t with hplan | hplan
  · rw [hplan]
    exact hfiles
  · rw [hplan]
    exact FilePlan.nodup_paths_put packageMark hfiles

/-- The mark is a module itself, but there is none without another module. -/
theorem hasModules_plan (hfresh : folder.append "__init__.py" ∉ (o.entries folder t).map Prod.fst) :
    hasModules (o.plan folder t) = hasModules (FilePlan.putAll [] (o.entries folder t)) := by
  have hplan := plan_eq hfresh
  by_cases hmodules : hasModules (FilePlan.putAll [] (o.entries folder t))
  · rw [if_pos hmodules] at hplan
    rw [hplan, hmodules]
    simp [hasModules, FilePlan.paths, suffix_mark]
  · rw [if_neg hmodules, List.append_nil] at hplan
    rw [hplan]

theorem mem_paths_plan (hfresh : folder.append "__init__.py" ∉ (o.entries folder t).map Prod.fst) {p : FilePath} :
    p ∈ (o.plan folder t).paths ↔ p ∈ (o.entries folder t).map Prod.fst ∨
      p = folder.append "__init__.py" ∧ hasModules (o.plan folder t) := by
  have hfiles : p ∈ (FilePlan.putAll [] (o.entries folder t)).map Prod.fst ↔
      p ∈ (o.entries folder t).map Prod.fst := FilePlan.mem_paths_putAll
  rw [hasModules_plan hfresh, FilePlan.paths, plan_eq hfresh, List.map_append, List.mem_append, hfiles]
  by_cases hmodules : hasModules (FilePlan.putAll [] (o.entries folder t)) <;> simp [hmodules]

/-- One output has the texts of another one but for some groups, whose texts are empty. -/
structure Leaves (o o' : Output) (t : Moment) (skipped : Group → Prop) : Prop where
  kept : ∀ g, ¬ skipped g → o'.textsOf t g = o.textsOf t g
  gone : ∀ g, skipped g → ∀ f ∈ o'.textsOf t g, f.2 = ""

namespace Leaves
variable {skipped : Group → Prop}

theorem entriesOf_kept (h : Leaves o o' t skipped) {g : Group} (hg : ¬ skipped g) :
    o'.entriesOf folder t g = o.entriesOf folder t g := by
  rw [entriesOf, h.kept g hg, entriesOf]

theorem entriesOf_gone (h : Leaves o o' t skipped) {g : Group} (hg : skipped g) :
    o'.entriesOf folder t g = [] := by
  have hnone : (o'.textsOf t g).filter (·.2 ≠ "") = [] :=
    List.filter_eq_nil_iff.mpr fun f hf => by simp [h.gone g hg f hf]
  rw [entriesOf, hnone, List.map_nil]

section
variable (h : Leaves o o' t skipped) (hpages : o.HasPages assets names) (hassets : assets.Sublist assetFiles)
include h hpages hassets

theorem path_gone {g : Group} (hg : skipped g) {f : String × String} (hf : f ∈ o.textsOf t g) :
    folder.append f.1 ∉ (o'.entries folder t).map Prod.fst := by
  intro hleft
  obtain ⟨g', f', hf', hne', hpath⟩ := mem_paths_entries.mp hleft
  have hg' : ¬ skipped g' := fun hg' => hne' (h.gone g' hg' f' hf')
  rw [h.kept g' hg'] at hf'
  have hother : g ≠ g' := fun heq => hg' (heq ▸ hg)
  exact paths_apart hpages hassets hother hf hf' hpath.symm

theorem entries_eq_filter : o'.entries folder t =
    (o.entries folder t).filter fun e => decide (e.1 ∈ (o'.entries folder t).map Prod.fst) := by
  refine (entries_eq_flatMap o' folder t).trans ?_
  rw [entries_eq_flatMap o, List.filter_flatMap]
  refine List.flatMap_congr fun g _ => ?_
  by_cases hg : skipped g
  · rw [h.entriesOf_gone hg]
    refine (List.filter_eq_nil_iff.mpr fun e he hleft => ?_).symm
    obtain ⟨f, hf, -, hpath⟩ := mem_paths_entriesOf.mp (List.mem_map_of_mem he)
    exact h.path_gone hpages hassets hg hf (hpath ▸ of_decide_eq_true hleft)
  · rw [h.entriesOf_kept hg]
    refine (List.filter_eq_self.mpr fun e he => decide_eq_true ?_).symm
    obtain ⟨f, hf, hne, hpath⟩ := mem_paths_entriesOf.mp (List.mem_map_of_mem he)
    exact mem_paths_entries.mpr ⟨g, f, by rwa [h.kept g hg], hne, hpath⟩

theorem entries_sublist : (o'.entries folder t).Sublist (o.entries folder t) := by
  rw [h.entries_eq_filter hpages hassets]
  exact List.filter_sublist

theorem mark_fresh_left : folder.append "__init__.py" ∉ (o'.entries folder t).map Prod.fst :=
  fun hmem => mark_fresh hpages hassets (((h.entries_sublist hpages hassets).map Prod.fst).subset hmem)

/-- So the plan has a part of the files, each with its text, and no mark without a module. -/
theorem plan_sublist : (o'.plan folder t).Sublist (o.plan folder t) := by
  have hfiles : (FilePlan.putAll [] (o'.entries folder t)).Sublist (FilePlan.putAll [] (o.entries folder t)) := by
    have hfilter := FilePlan.filter_putAll (fun p => decide (p ∈ (o'.entries folder t).map Prod.fst))
      (o.entries folder t) []
    rw [List.filter_nil, ← h.entries_eq_filter hpages hassets] at hfilter
    rw [← hfilter]
    exact List.filter_sublist
  rw [plan_eq (mark_fresh hpages hassets), plan_eq (h.mark_fresh_left hpages hassets)]
  refine hfiles.append ?_
  by_cases hmodules : hasModules (FilePlan.putAll [] (o'.entries folder t))
  · have hmodules' : hasModules (FilePlan.putAll [] (o.entries folder t)) := by
      obtain ⟨p, hp, hsuffix⟩ := List.any_eq_true.mp hmodules
      exact List.any_eq_true.mpr ⟨p, (hfiles.map Prod.fst).subset hp, hsuffix⟩
    rw [if_pos hmodules, if_pos hmodules']
  · rw [if_neg hmodules]
    exact List.nil_sublist _

/-- A path that is planned no more is one of a skipped group, or that of the mark and there was a module
but is none any more. -/
theorem mem_plan_only_iff (p : FilePath) :
    p ∈ (o.plan folder t).paths ∧ p ∉ (o'.plan folder t).paths ↔
      (∃ g, skipped g ∧ ∃ f ∈ o.textsOf t g, f.2 ≠ "" ∧ folder.append f.1 = p) ∨
        p = folder.append "__init__.py" ∧ hasModules (o.plan folder t) ∧ ¬ hasModules (o'.plan folder t) := by
  have hfresh : folder.append "__init__.py" ∉ (o.entries folder t).map Prod.fst := mark_fresh hpages hassets
  have hfresh' : folder.append "__init__.py" ∉ (o'.entries folder t).map Prod.fst :=
    h.mark_fresh_left hpages hassets
  rw [mem_paths_plan hfresh, mem_paths_plan hfresh', not_or]
  constructor
  · rintro ⟨hp | ⟨rfl, hmodules⟩, hnotFile, hnotMark⟩
    · left
      obtain ⟨g, f, hf, hne, hpath⟩ := mem_paths_entries.mp hp
      by_cases hg : skipped g
      · exact ⟨g, hg, f, hf, hne, hpath⟩
      · rw [← h.kept g hg] at hf
        exact absurd (mem_paths_entries.mpr ⟨g, f, hf, hne, hpath⟩) hnotFile
    · exact Or.inr ⟨rfl, hmodules, fun hmodules' => hnotMark ⟨rfl, hmodules'⟩⟩
  · rintro (⟨g, hg, f, hf, hne, hpath⟩ | ⟨rfl, hmodules, hnone⟩)
    · have hp : p ∈ (o.entries folder t).map Prod.fst := mem_paths_entries.mpr ⟨g, f, hf, hne, hpath⟩
      refine ⟨Or.inl hp, fun hp' => ?_, fun hmark => hfresh (hmark.1 ▸ hp)⟩
      exact h.path_gone hpages hassets hg hf (hpath ▸ hp')
    · exact ⟨Or.inr ⟨rfl, hmodules⟩, hfresh', fun hmark => hnone hmark.2⟩

end

end Leaves

end Output

/-! ## Runs that skip more -/

namespace Manifest

variable {m : Manifest} {t : Moment} {skip : List String} {o : Output}

theorem isOk_generateAll_iff : (m.generateAll skip t).isOk ↔ ∀ g : Group, g.name ∉ skip → (g.run m t).isOk := by
  unfold generateAll
  constructor
  · intro hok g hg
    by_contra hnot
    obtain ⟨fault, hfault⟩ := foldlM_error (fun o ps => ps.foldl Output.put o) Output.empty
      fun hall => hnot (hall g (name_notMem_iff.mpr hg))
    rw [hfault] at hok
    cases hok
  · intro hall
    have hmade : ∀ g ∈ Group.all.filter (fun g => !skip.contains g.name),
        g.run m t = .ok ((g.run m t).toOption.getD []) := by
      intro g hg
      obtain ⟨ps, hps⟩ := isOk_iff.mp (hall g (name_notMem_iff.mp hg))
      rw [hps]
      rfl
    rw [foldlM_ok _ _ hmade]
    rfl

/-- An output has the pieces of the groups that were not skipped, and empty ones of the others. -/
theorem pieces_of_generateAll (h : m.generateAll skip t = .ok o) (g : Group) :
    (g.name ∉ skip → ∃ ps, g.run m t = .ok ps ∧ ∀ p ∈ o.pieces, p.key ∈ g.keys → p ∈ ps) ∧
      (g.name ∈ skip → ∀ p ∈ o.pieces, p.key ∈ g.keys → p ∈ Output.empty.pieces) := by
  let asked := Group.all.filter fun g => !skip.contains g.name
  let made (g : Group) : List Piece := (g.run m t).toOption.getD []
  have hmade : ∀ g ∈ asked, g.run m t = .ok (made g) := by
    intro g hg
    obtain ⟨ps, hps⟩ := isOk_iff.mp (isOk_generateAll_iff.mp (isOk_iff.mpr ⟨o, h⟩) g (name_notMem_iff.mp hg))
    simp [made, hps, Except.toOption]
  have ho : o = (asked.flatMap made).foldl Output.put Output.empty := by
    unfold generateAll at h
    rw [foldlM_ok _ _ hmade, ← List.foldl_flatMap] at h
    exact (Except.ok.inj h).symm
  have hkeys : ∀ g ∈ asked, (made g).map Piece.key = g.keys := fun g hg => Group.keys_of_run (hmade g hg)
  -- what is made under a key of a group is made by that group
  have hown {p : Piece} (hkey : p.key ∈ g.keys) (hp : p ∈ asked.flatMap made) : g ∈ asked ∧ p ∈ made g := by
    obtain ⟨g', hg', hp⟩ := List.mem_flatMap.mp hp
    have hkey' : p.key ∈ g'.keys := hkeys g' hg' ▸ List.mem_map_of_mem hp
    by_cases heq : g = g'
    · exact heq ▸ ⟨hg', hp⟩
    · exact absurd hkey' (Group.keys_apart heq hkey)
  constructor
  · intro hg
    have hg : g ∈ asked := name_notMem_iff.mpr hg
    refine ⟨made g, hmade g hg, fun p hp hkey => ?_⟩
    rw [ho] at hp
    rcases Output.mem_pieces_foldl_put hp with hp | ⟨-, hnot⟩
    · exact (hown hkey hp).2
    · rw [map_key_flatMap hkeys] at hnot
      exact absurd (List.mem_flatMap.mpr ⟨g, hg, hkey⟩) hnot
  · intro hg p hp hkey
    rw [ho] at hp
    rcases Output.mem_pieces_foldl_put hp with hp | ⟨hp, -⟩
    · exact absurd hg (name_notMem_iff.mp (hown hkey hp).1)
    · exact hp

theorem leaves_of_generateAll {skip' : List String} {o' : Output} (hskip : skip ⊆ skip')
    (h : m.generateAll skip t = .ok o) (h' : m.generateAll skip' t = .ok o') :
    Output.Leaves o o' t fun g => g.name ∈ skip' := by
  constructor
  · intro g hg
    obtain ⟨ps, hps, hp⟩ := (pieces_of_generateAll h g).1 fun hmem => hg (hskip hmem)
    obtain ⟨ps', hps', hp'⟩ := (pieces_of_generateAll h' g).1 hg
    cases hps.symm.trans hps'
    exact Output.textsOf_eq_of_pieces (Group.keys_of_run hps) hp' hp
  · intro g hg f hf
    rw [Output.textsOf_congr ((pieces_of_generateAll h' g).2 hg)] at hf
    exact Output.textsOf_empty t g f hf

theorem exists_hasPages (h : m.generateAll skip t = .ok o) :
    ∃ assets names, o.HasPages assets names ∧ assets.Sublist Output.assetFiles := by
  have hhas := hasPages_of_generateAll h
  by_cases hadmin : "admin" ∈ skip
  · rw [if_pos hadmin] at hhas
    exact ⟨[], [], hhas, List.nil_sublist _⟩
  · rw [if_neg hadmin] at hhas
    exact ⟨_, _, hhas.1, List.Sublist.refl _⟩

/-- **Skipping.** A run that skips more groups succeeds too. Its plan has a part of the files, in their order
and each with its text; what is left out are the files of the groups that are skipped in addition, and the
mark of a package when no module is left. -/
theorem plan_of_more_skipped {skip' : List String} (hskip : skip ⊆ skip') (h : m.generateAll skip t = .ok o)
    (folder : FilePath) :
    ∃ o', m.generateAll skip' t = .ok o' ∧
      (o.plan folder t).paths.Nodup ∧ (o'.plan folder t).Sublist (o.plan folder t) ∧
      ∀ p, p ∈ (o.plan folder t).paths ∧ p ∉ (o'.plan folder t).paths ↔
        (∃ g : Group, g.name ∈ skip' ∧ g.name ∉ skip ∧
          ∃ f ∈ o.textsOf t g, f.2 ≠ "" ∧ folder.append f.1 = p) ∨
        p = folder.append "__init__.py" ∧ Output.hasModules (o.plan folder t) ∧
          ¬ Output.hasModules (o'.plan folder t) := by
  have hok : (m.generateAll skip' t).isOk := by
    have hall := isOk_generateAll_iff.mp (isOk_iff.mpr ⟨o, h⟩)
    exact isOk_generateAll_iff.mpr fun g hg => hall g fun hmem => hg (hskip hmem)
  obtain ⟨o', h'⟩ := isOk_iff.mp hok
  obtain ⟨assets, names, hpages, hassets⟩ := exists_hasPages h
  have hleaves := leaves_of_generateAll hskip h h'
  refine ⟨o', h', o.nodup_paths_plan folder t, hleaves.plan_sublist hpages hassets, fun p => ?_⟩
  rw [hleaves.mem_plan_only_iff hpages hassets]
  refine or_congr_left (exists_congr fun g => and_congr_right fun _ => ?_)
  refine ⟨fun ⟨f, hf, hne, hpath⟩ => ⟨fun hg => hne ?_, f, hf, hne, hpath⟩, And.right⟩
  rw [Output.textsOf_congr ((pieces_of_generateAll h g).2 hg)] at hf
  exact Output.textsOf_empty t g f hf

/-- Without the last two groups that make modules, their folder is no package. -/
theorem plan_of_more_skipped_shop :
    let newYear : Moment := ⟨⟨2024, 1, 1⟩, 0, 0, 0, 0, some 0⟩
    let folder := FilePath.ofText "out"
    let skip := ["admin", "config"]
    let skip' := ["config", "schema", "admin", "routes"]
    ∃ m, validate (ofNames ["Item"]) = .ok m ∧ skip ⊆ skip' ∧
      ∃ o, m.generateAll skip newYear = .ok o ∧ ∃ o', m.generateAll skip' newYear = .ok o' ∧
        (o'.plan folder newYear).Sublist (o.plan folder newYear) ∧
        folder.append "__init__.py" ∈ (o.plan folder newYear).paths ∧
        folder.append "__init__.py" ∉ (o'.plan folder newYear).paths := by
  intro newYear folder skip skip'
  have hskip : skip ⊆ skip' := by decide
  obtain ⟨m, hm, o, ho, hmodules, hnone⟩ : ∃ m ∈ (validate (ofNames ["Item"])).toOption,
      ∃ o ∈ (m.generateAll skip newYear).toOption, Output.hasModules (o.plan folder newYear) ∧
        ∀ o' ∈ (m.generateAll skip' newYear).toOption, ¬ Output.hasModules (o'.plan folder newYear) := by
    decide +kernel
  rw [mem_toOption] at hm ho
  obtain ⟨o', ho', -, hpart, honly⟩ := plan_of_more_skipped hskip ho folder
  have hmark := (honly (folder.append "__init__.py")).mpr
    (Or.inr ⟨rfl, hmodules, hnone o' (mem_toOption.mpr ho')⟩)
  exact ⟨m, hm, hskip, o, ho, o', ho', hpart, hmark⟩

end Manifest

end Scaffold
