import Scaffold.Generation
import Scaffold.Proofs.Generation.Filled
import Scaffold.Proofs.Manifest.Alike

/-!
# What relations and settings have no part in

Manifests that are alike give the same pieces, the settings module apart, or
the same fault (`Manifest.generateAll_withoutConfig`).
-/

namespace Scaffold

/-! ## One entity -/

namespace Entity.Alike

variable {e e' : Entity}

theorem mappedClass (h : e.Alike e') : Mapped.Class.ofEntity e = Mapped.Class.ofEntity e' := by
  have hfield : Mapped.Attribute.ofField e = Mapped.Attribute.ofField e' := by
    funext f
    unfold Mapped.Attribute.ofField
    rw [h.isPrimaryKey]
  unfold Mapped.Class.ofEntity
  rw [hfield, h.scalarFields, h.name, h.tableName, h.needsSyntheticKey, h.addedTimestamps]

theorem columns (h : e.Alike e') : Sql.columns e = Sql.columns e' := by
  have hfield : Sql.Column.ofField e = Sql.Column.ofField e' := by
    funext f
    unfold Sql.Column.ofField
    rw [h.isPrimaryKey]
  unfold Sql.columns
  rw [hfield, h.scalarFields, h.needsSyntheticKey, h.addedTimestamps]

theorem indexedFields (h : e.Alike e') : Sql.indexedFields e = Sql.indexedFields e' := by
  unfold Sql.indexedFields
  rw [h.scalarFields, h.isPrimaryKey]

theorem indexName (h : e.Alike e') : Sql.indexName e = Sql.indexName e' := by
  funext f
  unfold Sql.indexName
  rw [h.tableName]

theorem createStatements (h : e.Alike e') : Sql.createStatements e = Sql.createStatements e' := by
  unfold Sql.createStatements
  rw [h.columns, h.tableName, h.indexedFields, h.indexName]

theorem dropStatements (h : e.Alike e') : Sql.dropStatements e = Sql.dropStatements e' := by
  unfold Sql.dropStatements
  rw [h.tableName, h.indexedFields, h.indexName]

theorem bodyClasses (h : e.Alike e') : Body.classes e = Body.classes e' := by
  unfold Body.classes
  rw [h.name, h.scalarFields, h.writableFields]

theorem entityText (h : e.Alike e') : Interface.entityText e = Interface.entityText e' := by
  have hmembers : Interface.Declaration.ofEntity e = Interface.Declaration.ofEntity e' := by
    unfold Interface.Declaration.ofEntity
    rw [h.name, h.scalarFields]
  have homitted : Interface.omittedNames e = Interface.omittedNames e' := by
    unfold Interface.omittedNames
    rw [h.serverAssignsKey, h.primaryKey]
  unfold Interface.entityText
  rw [hmembers, homitted, h.name]

theorem queryDeclaration (h : e.Alike e') :
    Interface.queryDeclaration e = Interface.queryDeclaration e' := by
  unfold Interface.queryDeclaration Interface.sortableNames
  rw [h.name, h.scalarFields]

theorem routesContext (h : e.Alike e') : Routes.entityContext e = Routes.entityContext e' := by
  unfold Routes.entityContext Routes.keyType
  rw [h.name, h.pageName, h.routeSegment, h.primaryKey, h.keyField?, h.serverAssignsKey, h.addedTimestamps]

theorem entityBodies (h : e.Alike e') :
    RequestBodies.entityBodies e = RequestBodies.entityBodies e' := by
  unfold RequestBodies.entityBodies
  rw [h.writableFields]

theorem adminContext (h : e.Alike e') : Admin.context e = Admin.context e' := by
  unfold Admin.context Admin.entityContext
  rw [h.name, h.pageName, h.routeSegment, h.primaryKey, h.scalarFields, h.writableFields]

theorem entityRoutes (h : e.Alike e') : Admin.entityRoutes e = Admin.entityRoutes e' := by
  unfold Admin.entityRoutes
  rw [h.adminContext, h.pageName]

theorem entityComponents (h : e.Alike e') : Admin.entityComponents e = Admin.entityComponents e' := by
  unfold Admin.entityComponents
  rw [h.adminContext, h.pageName]

end Entity.Alike

/-! ## One piece -/

namespace Admin

theorem addPages_alike {es es' : List Entity} (h : List.Forall₂ Entity.Alike es es')
    (owners : List (String × String)) (pages : Pages) :
    addPages owners pages es = addPages owners pages es' := by
  induction h generalizing owners pages with
  | nil => rfl
  | cons he _ ih =>
    simp only [addPages_cons_eq, he.pageName, he.name, he.entityRoutes, he.entityComponents, ih]

end Admin

namespace Manifest.Alike

variable {m m' : Manifest}

theorem mappedText (h : m.Alike m') : Mapped.moduleText m = Mapped.moduleText m' := by
  unfold Mapped.moduleText Mapped.source Mapped.classes
  rw [h.mapM_entities Entity.Alike.mappedClass, h.sourceBanner]

theorem bodyText (h : m.Alike m') : Body.moduleText m = Body.moduleText m' := by
  unfold Body.moduleText
  rw [h.flatMap_entities Entity.Alike.bodyClasses, h.sourceBanner]

theorem typesText (h : m.Alike m') : Interface.typesText m = Interface.typesText m' := by
  unfold Interface.typesText
  rw [h.map_entities Entity.Alike.entityText,
    h.map_entities fun he => congrArg (fun d => "\n".intercalate d.lines) he.queryDeclaration]

theorem endpointsText (h : m.Alike m') : Interface.endpointsText m = Interface.endpointsText m' := by
  unfold Interface.endpointsText
  rw [h.map_entities fun he => congrArg (fun n => "\n".intercalate (Interface.endpointLines n)) he.name]

theorem routesText (h : m.Alike m') : Routes.text m = Routes.text m' := by
  unfold Routes.text Routes.context
  rw [h.map_entities Entity.Alike.routesContext, h.sourceBanner]

theorem requestBodies (h : m.Alike m') : RequestBodies.text m = RequestBodies.text m' := by
  have hentry {e e' : Entity} (he : e.Alike e') :
      (Value.text e.name, RequestBodies.entityBodies e) =
        (Value.text e'.name, RequestBodies.entityBodies e') := by
    rw [he.name, he.entityBodies]
  unfold RequestBodies.text RequestBodies.document RequestBodies.keyed
  rw [h.map_entities hentry, h.name]

theorem migrationText (h : m.Alike m') (t : Moment) : Sql.migrationText m t = Sql.migrationText m' t := by
  unfold Sql.migrationText Sql.migration Sql.script Sql.header
  rw [h.mapM_entities Entity.Alike.createStatements, h.id, h.version]

theorem rollbackText (h : m.Alike m') (t : Moment) : Sql.rollbackText m t = Sql.rollbackText m' t := by
  have hrollback : Sql.rollback m = Sql.rollback m' := by
    unfold Sql.rollback
    rw [List.flatMap_def, List.flatMap_def, List.map_reverse, List.map_reverse,
      h.map_entities Entity.Alike.dropStatements]
  unfold Sql.rollbackText Sql.header
  rw [hrollback, h.id, h.version]

theorem adminPages (h : m.Alike m') : Admin.pages m = Admin.pages m' :=
  Admin.addPages_alike h.entities [] .empty

theorem adminAssets (h : m.Alike m') : Admin.assets m = Admin.assets m' := by
  have hentry {e e' : Entity} (he : e.Alike e') :
      Value.ofFields [("name", .text e.name), ("plural", .text e.routeSegment)] =
        Value.ofFields [("name", .text e'.name), ("plural", .text e'.routeSegment)] := by
    rw [he.name, he.routeSegment]
  unfold Admin.assets Admin.assetsContext
  rw [h.map_entities hentry, h.name]

theorem adminAssetsModule (h : m.Alike m') : Admin.assetsModule m = Admin.assetsModule m' := by
  unfold Admin.assetsModule
  rw [h.adminAssets, h.sourceBanner]

end Manifest.Alike

/-! ## Whole runs -/

def Output.withoutConfig (o : Output) : Output := { o with config := "" }

theorem Output.withoutConfig_put {o o' : Output} (h : o.withoutConfig = o'.withoutConfig) (p : Piece) :
    (o.put p).withoutConfig = (o'.put p).withoutConfig := by
  unfold withoutConfig at h ⊢
  simp only [Output.mk.injEq] at h
  cases p <;> simp [put, h]

theorem Output.withoutConfig_putAll {o o' : Output} (h : o.withoutConfig = o'.withoutConfig)
    (ps : List Piece) : (ps.foldl put o).withoutConfig = (ps.foldl put o').withoutConfig := by
  induction ps generalizing o o' with
  | nil => exact h
  | cons p ps ih => exact ih (withoutConfig_put h p)

theorem Group.run_alike {m m' : Manifest} (h : m.Alike m') (t : Moment) {g : Group} (hg : g ≠ .config) :
    g.run m t = g.run m' t := by
  cases g with
  | schema => simp only [run, h.mappedText, h.bodyText]
  | types => simp only [run, h.typesText, h.endpointsText]
  | routes => simp only [run, h.routesText, h.requestBodies]
  | config => exact absurd rfl hg
  | migrations => simp only [run, h.migrationText, h.rollbackText]
  | admin => simp only [run, h.adminPages, h.adminAssets, h.adminAssetsModule]

theorem Group.step_alike {m m' : Manifest} (h : m.Alike m') (t : Moment) (g : Group) {o o' : Output}
    (ho : o.withoutConfig = o'.withoutConfig) :
    (∃ fault, g.run m t = .error fault ∧ g.run m' t = .error fault) ∨
      ∃ ps ps', g.run m t = .ok ps ∧ g.run m' t = .ok ps' ∧
        (ps.foldl Output.put o).withoutConfig = (ps'.foldl Output.put o').withoutConfig := by
  by_cases hg : g = .config
  · -- the settings modules differ, but both are always written
    subst hg
    obtain ⟨s, hs⟩ := isOk_iff.mp (AppSettings.isOk_text m)
    obtain ⟨s', hs'⟩ := isOk_iff.mp (AppSettings.isOk_text m')
    refine Or.inr ⟨[.config s], [.config s'], ?_, ?_, ho⟩
    · simp only [run, hs]; rfl
    · simp only [run, hs']; rfl
  · rw [run_alike h t hg]
    cases hr : g.run m' t with
    | error fault => exact Or.inl ⟨fault, rfl, rfl⟩
    | ok ps => exact Or.inr ⟨ps, ps, rfl, rfl, Output.withoutConfig_putAll ho ps⟩

theorem foldlM_run_alike {m m' : Manifest} (h : m.Alike m') (t : Moment) :
    ∀ (gs : List Group) {o o' : Output}, o.withoutConfig = o'.withoutConfig →
      (gs.foldlM (fun o g => do return (← Group.run m t g).foldl Output.put o) o).map
          Output.withoutConfig =
        (gs.foldlM (fun o g => do return (← Group.run m' t g).foldl Output.put o) o').map
          Output.withoutConfig
  | [], _, _, ho => congrArg Except.ok ho
  | g :: gs, _, _, ho => by
    rw [List.foldlM_cons, List.foldlM_cons]
    rcases g.step_alike h t ho with ⟨fault, hr, hr'⟩ | ⟨ps, ps', hr, hr', hput⟩
    · rw [hr, hr']; rfl
    · rw [hr, hr']
      exact foldlM_run_alike h t gs hput

namespace Manifest

/-- **Relations and settings have no part in what is generated.** Manifests that are alike give the
same pieces, the settings module apart, or end with the same fault; so do a manifest and what
overrides make of it. -/
theorem generateAll_withoutConfig (m : Manifest) (skip : List String) (t : Moment) :
    (∀ m', m.Alike m' → (m.generateAll skip t).map Output.withoutConfig =
      (m'.generateAll skip t).map Output.withoutConfig) ∧
    ∀ overrides merged, m.merge overrides = .ok merged →
      (m.generateAll skip t).map Output.withoutConfig =
        (merged.generateAll skip t).map Output.withoutConfig :=
  ⟨fun _ h => foldlM_run_alike h t _ rfl,
    fun _ _ h => foldlM_run_alike (alike_of_merge h) t _ rfl⟩

/-- A relation field named `id`, set in front of the one column, makes no difference. -/
theorem generateAll_withoutConfig_shop :
    let title : Field := .scalar ⟨⟨"title", .unset, .set true, .unset, .unset, none⟩, .string⟩
    let owner : Field := .relation ⟨⟨"id", .unset, .unset, .set true, .unset, none⟩, "User", .unset, .one⟩
    let m : Manifest := ⟨"shop", "Shop", "1", .unset, [⟨"Item", .unset, [title]⟩], .unset⟩
    let m' : Manifest := ⟨"shop", "Shop", "1", .set [(.text "theme", .text "dark")],
      [⟨"Item", .null, [owner, title]⟩], .set [(.text "owner", .text "User")]⟩
    let t : Moment := ⟨⟨2024, 1, 1⟩, 0, 0, 0, 0, none⟩
    m.Alike m' ∧ (∃ merged, m.merge (.ofFields [("theme", .text "dark")]) = .ok merged ∧
      (m.generateAll ["admin"] t).map Output.withoutConfig =
        (merged.generateAll ["admin"] t).map Output.withoutConfig) ∧
      (m.generateAll ["admin"] t).map Output.withoutConfig =
        (m'.generateAll ["admin"] t).map Output.withoutConfig := by
  intro title owner m m' t
  have halike : m.Alike m' := ⟨rfl, rfl, rfl, .cons ⟨rfl, rfl, rfl⟩ .nil⟩
  have hrun := generateAll_withoutConfig m ["admin"] t
  exact ⟨halike, ⟨_, rfl, hrun.2 (.ofFields [("theme", .text "dark")]) _ rfl⟩, hrun.1 m' halike⟩

end Manifest

end Scaffold
