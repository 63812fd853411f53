import Scaffold.Proofs.Admin.Conflicts
import Scaffold.Proofs.Manifest.Validation
import Scaffold.Proofs.Page.Parts
import Scaffold.Proofs.Records.Columns
import Scaffold.Proofs.Sql.Idle

/-!
# Entities kept apart

The entities of a valid manifest have distinct names, but they are generated
under other names. A table may have a name that is set for it, and routers and
addresses are named in lower case. So two entities can share a table, which the
second one then finds there, or the name and the address of a router
(`Manifest.entities_apart_iff`).
-/

namespace Scaffold

/-! ## Routers by name -/

namespace Routes

def routerName (e : Entity) : String := e.pageName ++ "_router"

def routerStart (e : Entity) : String :=
  "\n\ndef " ++ routerName e ++ "(get_session: Callable[..., Any]) -> APIRouter:\n" ++
    "    \"\"\"CRUD endpoints for " ++ e.name ++ " under ``/" ++ e.routeSegment ++ "``.\"\"\"\n" ++
    "    router = APIRouter(prefix=\"/" ++ e.routeSegment ++ "\", tags=["

def mountLine (e : Entity) : String :=
  "    router.include_router(" ++ routerName e ++ "(get_session))\n"

section
variable {s : Scope} {e : Entity} (h : s.names.lookup "entity" = some (entityContext e))
include h

theorem router_starts {t : String} (ht : Node.fillAll s Page.router = .ok t) :
    ∃ rest, t = routerStart e ++ rest := by
  have hname : (Expr.entity "name").value s = .ok (.text e.name) := Expr.value_entity h rfl
  have hvar : (Expr.entity "var").value s = .ok (.text e.pageName) := Expr.value_entity h rfl
  have hplural : (Expr.entity "plural").value s = .ok (.text e.routeSegment) := Expr.value_entity h rfl
  have hstart : Node.fillAll s (Page.router.take 12) = .ok (routerStart e) := by
    have hdef : "\n\ndef " = String.join (["", ""].map (· ++ "\n")) ++ "def " := by decide
    have hliteral : "_router(get_session: Callable[..., Any]) -> APIRouter:\n" =
        "_router" ++ "(get_session: Callable[..., Any]) -> APIRouter:\n" := by decide
    refine (Node.fillAll_text <| Node.fillAll_text <| Node.fillAll_put hvar <| Node.fillAll_text <|
      Node.fillAll_text <| Node.fillAll_put hname <| Node.fillAll_text <| Node.fillAll_put hplural <|
      Node.fillAll_text <| Node.fillAll_text <| Node.fillAll_put hplural <|
      Node.fillAll_text rfl).trans ?_
    rw [hliteral]
    unfold routerStart routerName
    simp only [hdef, String.append_assoc, String.append_empty]
  rw [← List.take_append_drop 12 Page.router] at ht
  obtain ⟨start, rest, hstart', -, rfl⟩ := Node.fillAll_append_eq_ok.mp ht
  cases hstart.symm.trans hstart'
  exact ⟨rest, rfl⟩

theorem fillAll_mount : Node.fillAll s [.text "    router.include_router(", .put (.entity "var"),
    .text "_router(get_session))\n"] = .ok (mountLine e) := by
  have hvar : (Expr.entity "var").value s = .ok (.text e.pageName) := Expr.value_entity h rfl
  have hliteral : "_router(get_session))\n" = "_router" ++ "(get_session))\n" := by decide
  rw [Node.fillAll_text (Node.fillAll_put hvar (Node.fillAll_text rfl)), hliteral]
  unfold mountLine routerName
  simp only [String.append_assoc, String.append_empty]

end

theorem text_eq (m : Manifest) : ∃ head routers mounting,
    text m = .ok (head ++ String.join routers ++ mounting ++ String.join (m.entities.map mountLine) ++
      "    return router\n") ∧
    List.Forall₂ (fun e r => ∃ rest, r = routerStart e ++ rest) m.entities routers := by
  obtain ⟨t, ht⟩ := isOk_iff.mp (isOk_text m)
  have hentities : (Expr.name "entities").value (.ofEntries (context m)) =
      .ok (.list (m.entities.map entityContext)) := rfl
  have hsplit := ht
  -- the template loops over the entities twice, first for the routers and then for the mounts
  rw [text, Template.fill, ← List.take_append_drop 4 Page.routerModule] at hsplit
  obtain ⟨head, t₁, -, h₁, rfl⟩ := Node.fillAll_append_eq_ok.mp hsplit
  obtain ⟨_, t₂, hrouters, h₂, rfl⟩ := Node.fillAll_cons_eq_ok.mp h₁
  obtain ⟨mounting, t₃, -, h₃, rfl⟩ := Node.fillAll_cons_eq_ok.mp h₂
  obtain ⟨_, t₄, hmounts, h₄, rfl⟩ := Node.fillAll_cons_eq_ok.mp h₃
  cases h₄
  obtain ⟨routers, rfl, hrouters'⟩ := Node.fill_each_eq_ok hentities hrouters
  obtain ⟨mounts, rfl, hmounts'⟩ := Node.fill_each_eq_ok hentities hmounts
  rw [List.forall₂_map_left_iff] at hrouters' hmounts'
  have hlines : List.Forall₂ (· = ·) (m.entities.map mountLine) mounts := by
    rw [List.forall₂_map_left_iff]
    exact hmounts'.imp fun e part ⟨_, hpart⟩ => Except.ok.inj ((fillAll_mount rfl).symm.trans hpart)
  rw [List.forall₂_eq_eq_eq] at hlines
  refine ⟨head, routers, mounting, ?_, hrouters'.imp fun e part ⟨_, hpart⟩ => router_starts rfl hpart⟩
  rw [ht, hlines]
  simp only [String.append_assoc, String.append_empty]

end Routes


/-! ## Names that entities share -/

namespace Entity

/-- The table that is set for an entity, or else its name in lower case, is that of another one. -/
def SharesTable (e e' : Entity) : Prop :=
  match e.table.toOption, e'.table.toOption with
  | some t, some t' => t = t'
  | some t, none => t = Text.lower e'.name
  | none, some t' => Text.lower e.name = t'
  | none, none => Text.lower e.name = Text.lower e'.name

def TableNamed (e : Entity) : Prop := ∀ t, e.table.toOption = some t → t ≠ ""

theorem GivenBy.tableNamed {v : Value} {e : Entity} (h : Entity.GivenBy v e) : e.TableNamed := by
  intro t ht
  have htable := h.table
  cases hset : e.table with
  | unset | null =>
    rw [hset] at ht
    cases ht
  | set t' =>
    rw [hset] at ht htable
    cases ht
    obtain ⟨_, -, -, hne⟩ := htable
    exact hne

theorem tableName_of_none {e : Entity} (h : e.table.toOption = none) : e.tableName = Text.lower e.name := by
  rw [tableName_eq, h]

theorem TableNamed.tableName {e : Entity} (h : e.TableNamed) {t : String} (ht : e.table.toOption = some t) :
    e.tableName = t := by
  have hne : ¬ t.isEmpty := by simpa using h t ht
  rw [tableName_eq, ht]
  exact if_neg hne

theorem TableNamed.tableName_eq_iff {e e' : Entity} (h : e.TableNamed) (h' : e'.TableNamed) :
    e.tableName = e'.tableName ↔ e.SharesTable e' := by
  unfold SharesTable
  cases ht : e.table.toOption with
  | some t =>
    cases ht' : e'.table.toOption with
    | some t' => rw [h.tableName ht, h'.tableName ht']
    | none => rw [h.tableName ht, tableName_of_none ht']
  | none =>
    cases ht' : e'.table.toOption with
    | some t' => rw [tableName_of_none ht, h'.tableName ht']
    | none => rw [tableName_of_none ht, tableName_of_none ht']

end Entity

namespace Manifest

theorem GivenBy.tablesNamed {v : Value} {m : Manifest} (h : Manifest.GivenBy v m) :
    ∀ e ∈ m.entities, e.TableNamed :=
  (forall_mem_iff_of_forall₂ (Value.parts_of_gives h.entities)
    fun _ _ he => iff_of_true trivial he.tableNamed).mp fun _ _ => trivial

theorem nodup_tableName_iff {es : List Entity} (h : ∀ e ∈ es, e.TableNamed) :
    (es.map (·.tableName)).Nodup ↔ es.Pairwise fun e e' => ¬ e.SharesTable e' := by
  rw [List.Nodup, List.pairwise_map]
  exact List.Pairwise.iff_of_mem fun he he' => not_congr ((h _ he).tableName_eq_iff (h _ he'))

theorem nodup_map_append_iff {α : Type} {f : α → String} (ending : String) {xs : List α} :
    (xs.map fun x => f x ++ ending).Nodup ↔ (xs.map f).Nodup := by
  have hinj : Function.Injective (· ++ ending) := fun _ _ => (String.append_left_inj ending).mp
  rw [← List.nodup_map_iff hinj (l := xs.map f), List.map_map]
  rfl

/-- **Entities apart.** The tables of the migration and of the mapped classes are those of the
entities in turn. They are distinct exactly when no two entities share one, and when they stay so
whatever the case of their letters, and only then, no table is found there by the statement that
makes it. There is one router for each entity; their names, their addresses and the pages are
distinct exactly when the names of the entities are so in lower case. -/
theorem entities_apart_iff {raw : Value} {m : Manifest} (h : validate raw = .ok m) :
    (m.entities.map (·.name)).Nodup ∧
    (∀ t sql, Sql.migrationText m t = .ok sql → ∃ groups classes,
      Sql.migration m = .ok groups ∧ Mapped.classes m = .ok classes ∧ sql = Sql.script m t groups ∧
      Mapped.moduleText m = .ok (Mapped.source m classes) ∧
      groups.flatten.filterMap Sql.Statement.createdTable? = m.entities.map (·.tableName) ∧
      classes.map (·.table) = m.entities.map (·.tableName) ∧
      ((∀ table cs, ¬ Sql.Database.empty.Idle (groups.flatten.map Sql.Statement.folded)
          (.createTable table cs)) ↔
        (m.entities.map fun e => Sql.foldName e.tableName).Nodup)) ∧
    ((m.entities.map (·.tableName)).Nodup ↔ m.entities.Pairwise fun e e' => ¬ e.SharesTable e') ∧
    (∃ head routers mounting, Routes.text m = .ok (head ++ String.join routers ++ mounting ++
        String.join (m.entities.map Routes.mountLine) ++ "    return router\n") ∧
      List.Forall₂ (fun e r => ∃ rest, r = Routes.routerStart e ++ rest) m.entities routers) ∧
    ((m.entities.map Routes.routerName).Nodup ↔ (m.entities.map fun e => Text.lower e.name).Nodup) ∧
    ((m.entities.map (·.routeSegment)).Nodup ↔ (m.entities.map fun e => Text.lower e.name).Nodup) ∧
    ((Admin.pages m).isOk ↔ (m.entities.map fun e => Text.lower e.name).Nodup) := by
  obtain ⟨hgiven, hnames⟩ := validate_eq_ok_iff.mp h
  refine ⟨hnames.entities, fun t sql hsql => ?tables, nodup_tableName_iff hgiven.tablesNamed, Routes.text_eq m,
    nodup_map_append_iff "_router", nodup_map_append_iff "s", Admin.isOk_pages_iff⟩
  obtain ⟨groups, hgroups, rfl⟩ := Sql.migrationText_eq_ok.mp hsql
  obtain ⟨classes, hclasses⟩ := exists_mappedClasses hgroups
  have hmodule := Mapped.moduleText_eq_ok.mpr ⟨classes, hclasses, rfl⟩
  refine ⟨groups, classes, hgroups, hclasses, rfl, hmodule, Sql.createdTables_flatten hgroups, ?_,
    Sql.migration_not_idle_iff hgroups⟩
  exact map_eq_of_mapM (fun hc => (Mapped.Class.name_of_ofEntity hc).2) hclasses

/-- Tables by the name of an entity and by one that is set, and names of which one begins the other. -/
theorem entities_apart_shop :
    let entity (attributes : List (String × Value)) : Value := .ofFields (attributes ++ [("fields",
      .list [.ofFields [("name", .text "code"), ("kind", .text "string"), ("unique", .bool true)]])])
    let raw : Value := .ofFields [("id", .text "shop"), ("name", .text "Shop"), ("version", .text "1"),
      ("entities", .list [entity [("name", .text "User")],
        entity [("name", .text "Account"), ("table", .text "people")], entity [("name", .text "Users")]])]
    ∃ m groups, validate raw = .ok m ∧ Sql.migration m = .ok groups ∧
      groups.flatten.filterMap Sql.Statement.createdTable? = ["user", "people", "users"] ∧
      (∀ table cs, ¬ Sql.Database.empty.Idle (groups.flatten.map Sql.Statement.folded)
        (.createTable table cs)) ∧
      (m.entities.map Routes.routerName).Nodup ∧ (m.entities.map (·.routeSegment)).Nodup := by
  intro entity raw
  obtain ⟨m, hm, sql, hsql, htables, hfolded, hlower⟩ : ∃ m, validate raw = .ok m ∧
      ∃ sql, Sql.migrationText m ⟨⟨2024, 1, 1⟩, 0, 0, 0, 0, none⟩ = .ok sql ∧
        m.entities.map (·.tableName) = ["user", "people", "users"] ∧
        (m.entities.map fun e => Sql.foldName e.tableName) = ["user", "people", "users"] ∧
        (m.entities.map fun e => Text.lower e.name) = ["user", "account", "users"] :=
    ⟨_, rfl, _, rfl, by decide, by decide, by decide⟩
  obtain ⟨-, hmigration, -, -, hrouters, hsegments, -⟩ := entities_apart_iff hm
  obtain ⟨groups, -, hgroups, -, -, -, hcreated, -, hidle⟩ := hmigration _ sql hsql
  rw [htables] at hcreated
  rw [hlower] at hrouters hsegments
  rw [hfolded] at hidle
  exact ⟨m, groups, hm, hgroups, hcreated, hidle.mpr (by decide), hrouters.mpr (by decide),
    hsegments.mpr (by decide)⟩

/-- Two names that differ in case only: the table of the second entity is found there, and its router
has the name and the address of the first one. -/
theorem entities_share_names :
    let entity (name field : String) : Value := .ofFields [("name", .text name),
      ("fields", .list [.ofFields [("name", .text field), ("kind", .text "string")]])]
    let raw : Value := .ofFields [("id", .text "shop"), ("name", .text "Shop"), ("version", .text "1"),
      ("entities", .list [entity "User" "email", entity "user" "name"])]
    ∃ m groups cs, validate raw = .ok m ∧ Sql.migration m = .ok groups ∧
      m.entities.map (·.tableName) = ["user", "user"] ∧
      m.entities.map (·.routeSegment) = ["users", "users"] ∧
      m.entities.map Routes.routerName = ["user_router", "user_router"] ∧
      cs.map (·.name) = ["id", "name", "created_at", "updated_at"] ∧
      Sql.Database.empty.Idle groups.flatten (.createTable "user" cs) :=
  ⟨_, _, _, rfl, rfl, by decide, by decide, by decide, by decide, [_], [], _, rfl, rfl,
    Sql.Database.execute_createTable_eq_self_iff.mpr (by decide)⟩

end Manifest

end Scaffold
