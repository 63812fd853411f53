import Scaffold.Proofs.Admin.Conflicts
import Scaffold.Proofs.Generation.Defaults
import Scaffold.Proofs.Manifest.Validation

/-!
# Runs that come to an end

A run of a valid manifest fails for two reasons only. A group that writes
defaults as JSON meets one that has no JSON text, such as a date, or two
entities have names that differ only in case and would share admin pages
(`Manifest.generateAll_outcome`).
-/

namespace Scaffold

namespace Group

/-- Whether a group writes the default of a field as JSON, and if it does, whether leniently. -/
def writesJson (e : Entity) (f : ScalarField) : Group → Option Bool
  | .schema => if !e.isPrimaryKey f && Mapped.hasServerDefault f.kind then some false else none
  | .routes => if e.serverAssignsKey && e.isPrimaryKey f then none else some true
  | .migrations => if e.isPrimaryKey f then none else some false
  | .types | .config | .admin => none

def Writes (m : Manifest) (g : Group) : Prop :=
  ∀ e ∈ m.entities, ∀ f ∈ e.scalarFields, ∀ lenient, g.writesJson e f = some lenient → f.hasJson lenient

theorem mem_all (g : Group) : g ∈ all := by cases g <;> decide

/-! ## One group -/

theorem writes_schema_iff {m : Manifest} : Writes m .schema ↔ (Mapped.moduleText m).isOk := by
  rw [Mapped.isOk_moduleText_iff]
  refine forall₄_congr fun e _ f _ => ?_
  simp only [writesJson]
  cases e.isPrimaryKey f <;> cases Mapped.hasServerDefault f.kind <;> simp

theorem writes_migrations_iff {m : Manifest} {t : Moment} :
    Writes m .migrations ↔ (Sql.migrationText m t).isOk := by
  rw [Sql.isOk_migrationText_iff]
  refine forall₄_congr fun e _ f _ => ?_
  simp only [writesJson]
  cases e.isPrimaryKey f <;> simp

theorem writes_routes_iff {m : Manifest} (hm : m.NamesFit) :
    Writes m .routes ↔ (RequestBodies.text m).isOk := by
  rw [RequestBodies.isOk_text_iff hm]
  refine forall₂_congr fun e _ => ?_
  unfold Entity.writableFields
  simp only [writesJson]
  cases e.serverAssignsKey with
  | false => simp
  | true =>
    simp only [Bool.true_and, if_true, List.mem_filter, Bool.not_eq_true', and_imp]
    refine forall₂_congr fun f _ => ?_
    cases e.isPrimaryKey f <;> simp

theorem writes_of_forall_eq_none {m : Manifest} {g : Group} (h : ∀ e f, g.writesJson e f = none) :
    g.Writes m := by
  intro e _ f _ lenient hl
  rw [h e f] at hl
  cases hl

/-- What becomes of a group: it is written, a default stops it, or two entities stop it. -/
inductive Outcome (m : Manifest) (g : Group) : Except GenerationFault (List Piece) → Prop
  | written {ps : List Piece} (hw : g.Writes m)
      (hadmin : g = .admin → (m.entities.map fun e => Text.lower e.name).Nodup) : Outcome m g (.ok ps)
  | unwritable {fault : JsonFault} (hw : ¬ g.Writes m) : Outcome m g (.error (.noJson fault))
  | conflict {e other : Entity} (hg : g = .admin) (he : e ∈ m.entities) (hother : other ∈ m.entities)
      (hne : e.name ≠ other.name) (hlower : Text.lower e.name = Text.lower other.name) :
      Outcome m g (.error (.conflict e.name other.name))

namespace Outcome

variable {m : Manifest} {g : Group}

theorem of_isOk {r : Except GenerationFault (List Piece)} (h : Outcome m g r) (hr : r.isOk) :
    g.Writes m ∧ (g = .admin → (m.entities.map fun e => Text.lower e.name).Nodup) := by
  cases h with
  | written hw hadmin => exact ⟨hw, hadmin⟩
  | unwritable | conflict => cases hr

theorem of_text {text : Except JsonFault String} (hiff : g.Writes m ↔ text.isOk) (hg : g ≠ .admin)
    (pieces : String → List Piece) :
    Outcome m g (text.mapError .noJson >>= fun s => pure (pieces s)) := by
  cases text with
  | ok s => exact .written (hiff.mpr rfl) fun h => absurd h hg
  | error fault => exact .unwritable fun hw => by simpa using hiff.mp hw

theorem of_noDefaults (hnone : ∀ e f, g.writesJson e f = none) (hg : g ≠ .admin) (ps : List Piece) :
    Outcome m g (.ok ps) :=
  .written (writes_of_forall_eq_none hnone) fun h => absurd h hg

end Outcome

theorem outcome_run {m : Manifest} (hm : m.NamesFit) (t : Moment) (g : Group) :
    Outcome m g (g.run m t) := by
  cases g with
  | schema => exact .of_text writes_schema_iff (by decide) fun s => [.schema s, _]
  | types => exact .of_noDefaults (fun _ _ => rfl) (by decide) _
  | routes =>
    obtain ⟨routers, hrouters⟩ := isOk_iff.mp (Routes.isOk_text m)
    unfold run
    rw [hrouters]
    exact .of_text (writes_routes_iff hm) (by decide) fun s => [.routes routers, .requestSchemas s]
  | config =>
    obtain ⟨settings, hsettings⟩ := isOk_iff.mp (AppSettings.isOk_text m)
    unfold run
    rw [hsettings]
    exact .of_noDefaults (fun _ _ => rfl) (by decide) _
  | migrations => exact .of_text writes_migrations_iff (by decide) fun s => [.migrations s, _]
  | admin =>
    obtain ⟨assets, hassets⟩ := isOk_iff.mp (Admin.isOk_assets m)
    obtain ⟨packed, hpacked⟩ := isOk_iff.mp (Admin.isOk_assetsModule m)
    unfold run
    rw [hassets, hpacked]
    cases h : Admin.pages m with
    | ok pages =>
      have hdistinct := Admin.isOk_pages_iff.mp (by rw [h]; rfl)
      exact .written (writes_of_forall_eq_none fun _ _ => rfl) fun _ => hdistinct
    | error fault =>
      obtain ⟨e, he, other, hother, rfl, hne, hlower⟩ := Admin.pages_eq_error hm.entities h
      exact .conflict rfl he hother hne hlower

end Group

/-! ## All groups -/

/-- A fold whose steps all succeed succeeds, and any other ends with its first failing step. -/
theorem foldlM_run_cases {ε α β γ : Type} (run : α → Except ε γ) (put : β → γ → β) :
    ∀ (xs : List α) (b : β),
      (∃ b', xs.foldlM (fun b x => do return put b (← run x)) b = .ok b' ∧ ∀ x ∈ xs, (run x).isOk) ∨
        ∃ before x behind fault, xs = before ++ x :: behind ∧ (∀ y ∈ before, (run y).isOk) ∧
          run x = .error fault ∧ xs.foldlM (fun b x => do return put b (← run x)) b = .error fault
  | [], b => Or.inl ⟨b, rfl, List.forall_mem_nil _⟩
  | x :: xs, b => by
    rw [List.foldlM_cons]
    cases h : run x with
    | error fault => exact Or.inr ⟨[], x, xs, fault, rfl, List.forall_mem_nil _, h, rfl⟩
    | ok c =>
      have hx : (run x).isOk := by rw [h]; rfl
      rcases foldlM_run_cases run put xs (put b c) with
        ⟨b', hb', hall⟩ | ⟨before, y, behind, fault, rfl, hbefore, hy, hfault⟩
      · exact Or.inl ⟨b', hb', List.forall_mem_cons.mpr ⟨hx, hall⟩⟩
      · exact Or.inr ⟨x :: before, y, behind, fault, rfl, List.forall_mem_cons.mpr ⟨hx, hbefore⟩, hy,
          hfault⟩

/-! ## Values with JSON text -/

theorem Value.exists_of_givesList {α : Type} {p : Value → α → Prop} {lenient : Bool} {v : Value}
    {key : String} {as : List α} (hv : v.hasJson lenient) (h : v.Gives key (Value.GivesList p) as) :
    ∀ a ∈ as, ∃ w, w.hasJson lenient ∧ p w a := by
  obtain ⟨w, hw, xs, hxs, hall, -⟩ := h
  have hitems := Value.hasJson_items (Value.hasJson_field hv hw) hxs
  clear hxs
  induction hall with
  | nil => exact List.forall_mem_nil _
  | @cons x a _ _ ha _ ih =>
    obtain ⟨hx, hrest⟩ := List.forall_mem_cons.mp hitems
    exact List.forall_mem_cons.mpr ⟨⟨x, hx, ha⟩, ih hrest⟩

theorem Entity.scalar_mem_fields {e : Entity} {f : ScalarField} (h : f ∈ e.scalarFields) :
    .scalar f ∈ e.fields := by
  obtain ⟨g, hg, hf⟩ := List.mem_filterMap.mp h
  cases g with
  | scalar g =>
    cases hf
    exact hg
  | relation g => cases hf

namespace Manifest

theorem writes_of_hasJson {raw : Value} {m : Manifest} (hraw : raw.hasJson false)
    (h : Manifest.GivenBy raw m) (g : Group) : g.Writes m := by
  intro e he f hf lenient _
  obtain ⟨v, hv, hentity⟩ := Value.exists_of_givesList hraw h.entities e he
  obtain ⟨w, hw, hfield⟩ := Value.exists_of_givesList hv hentity.fields _ (Entity.scalar_mem_fields hf)
  cases hfield with
  | scalar hfield =>
    unfold ScalarField.hasJson
    cases hdefault : f.default with
    | none => rfl
    | some d =>
      have hd : w.field? "default" = some d := hfield.info.default.symm.trans hdefault
      exact Value.hasJson_of_strict lenient d (Value.hasJson_field hw hd)

/-! ## The whole run -/

theorem name_notMem_iff {skip : List String} {g : Group} :
    g ∈ (Group.all.filter fun g => !skip.contains g.name) ↔ g.name ∉ skip := by
  simp [Group.mem_all]

/-- Nothing comes behind the admin group. -/
theorem admin_last {skip : List String} {before behind : List Group}
    (h : (Group.all.filter fun g => !skip.contains g.name) = before ++ .admin :: behind) :
    behind = [] := by
  have hall : Group.all.Pairwise fun g _ => g ≠ .admin := by decide
  have hasked := hall.sublist (List.filter_sublist (p := fun g => !skip.contains g.name))
  rw [h] at hasked
  have hbehind := (List.pairwise_cons.mp (List.pairwise_append.mp hasked).2.1).1
  exact List.eq_nil_iff_forall_not_mem.mpr fun g hg => hbehind g hg rfl

/-- **Completion.** A run of a valid manifest returns its output when all defaults that the groups
asked for write as JSON have JSON text, and no two entities would share admin pages that are asked
for. Of these two reasons to fail, a default comes first. All is well with the defaults of a
manifest that is read from a value without dates, bytes, sets and keys of their kind. -/
theorem generateAll_outcome {raw : Value} {m : Manifest} (h : validate raw = .ok m)
    (skip : List String) (t : Moment) :
    (raw.hasJson false → ∀ g : Group, g.Writes m) ∧
      ((∃ o, m.generateAll skip t = .ok o) ↔
        (∀ g : Group, g.name ∉ skip → g.Writes m) ∧
          ("admin" ∉ skip → (m.entities.map fun e => Text.lower e.name).Nodup)) ∧
      ∀ fault, m.generateAll skip t = .error fault →
        ((∃ g : Group, g.name ∉ skip ∧ ¬ g.Writes m) ∧ ∃ noJson, fault = .noJson noJson) ∨
          ((∀ g : Group, g.name ∉ skip → g.Writes m) ∧ "admin" ∉ skip ∧
            ∃ e ∈ m.entities, ∃ other ∈ m.entities, e.name ≠ other.name ∧
              Text.lower e.name = Text.lower other.name ∧ fault = .conflict e.name other.name) := by
  obtain ⟨hgiven, hnames⟩ := validate_eq_ok_iff.mp h
  refine ⟨fun hraw => writes_of_hasJson hraw hgiven, ?_⟩
  have hrun := foldlM_run_cases (Group.run m t) (fun o ps => ps.foldl Output.put o)
    (Group.all.filter fun g => !skip.contains g.name) Output.empty
  change (∃ o, m.generateAll skip t = .ok o ∧ _) ∨
    (∃ before x behind fault, _ ∧ _ ∧ _ ∧ m.generateAll skip t = .error fault) at hrun
  rcases hrun with ⟨o, ho, hall⟩ | ⟨before, g, behind, fault, hasked, hbefore, hg, hfault⟩
  · rw [ho]
    refine ⟨iff_of_true ⟨o, rfl⟩ ⟨fun g hg => ?_, fun hskip => ?_⟩, fun fault hfault => by cases hfault⟩
    · exact ((Group.outcome_run hnames t g).of_isOk (hall g (name_notMem_iff.mpr hg))).1
    · have hadmin := hall .admin (name_notMem_iff.mpr hskip)
      exact ((Group.outcome_run hnames t .admin).of_isOk hadmin).2 rfl
  · have hskip : g.name ∉ skip := name_notMem_iff.mp (hasked ▸ by simp)
    have houtcome := Group.outcome_run hnames t g
    rw [hg] at houtcome
    have hnone : ¬ ∃ o, m.generateAll skip t = .ok o := by
      rintro ⟨o, ho⟩
      rw [hfault] at ho
      cases ho
    cases houtcome with
    | unwritable hw =>
      refine ⟨iff_of_false hnone fun hall => hw (hall.1 g hskip), fun fault' hfault' => ?_⟩
      cases hfault.symm.trans hfault'
      exact Or.inl ⟨⟨g, hskip, hw⟩, _, rfl⟩
    | @conflict e other hadmin he hother hne hlower =>
      subst hadmin
      -- the groups before have succeeded, and there are none behind
      have hwrites (g : Group) (hg : g.name ∉ skip) : g.Writes m := by
        have hmem := name_notMem_iff.mpr hg
        rw [hasked, admin_last hasked, List.mem_append, List.mem_singleton] at hmem
        rcases hmem with hmem | rfl
        · exact ((Group.outcome_run hnames t g).of_isOk (hbefore g hmem)).1
        · exact Group.writes_of_forall_eq_none fun _ _ => rfl
      have hdistinct : ¬ (m.entities.map fun e => Text.lower e.name).Nodup := fun hnodup =>
        hne (congrArg Entity.name (List.inj_on_of_nodup_map hnodup he hother hlower))
      refine ⟨iff_of_false hnone fun hall => hdistinct (hall.2 hskip), fun fault' hfault' => ?_⟩
      cases hfault.symm.trans hfault'
      exact Or.inr ⟨hwrites, hskip, e, he, other, hother, hne, hlower, rfl⟩

/-- Entities whose names differ only in case, with a date as a text: without the admin group there
is nothing to stop the run. -/
theorem generateAll_outcome_shop :
    let since : Value := .ofFields [("name", .text "since"), ("kind", .text "date"),
      ("default", .text "2024-01-01")]
    let entity (name : String) : Value := .ofFields [("name", .text name), ("fields", .list [since])]
    let raw : Value := .ofFields [("id", .text "shop"), ("name", .text "Shop"), ("version", .text "1"),
      ("entities", .list [entity "Item", entity "item"])]
    ∃ m, validate raw = .ok m ∧ ∀ t, (∃ o, m.generateAll ["admin"] t = .ok o) ∧
      ¬ ∃ o, m.generateAll [] t = .ok o := by
  intro since entity raw
  obtain ⟨m, hm, hlower⟩ : ∃ m, validate raw = .ok m ∧
      (m.entities.map fun e => Text.lower e.name) = ["item", "item"] := ⟨_, rfl, rfl⟩
  refine ⟨m, hm, fun t => ⟨?_, fun hok => ?_⟩⟩
  · obtain ⟨writes, complete, -⟩ := generateAll_outcome hm ["admin"] t
    exact complete.mpr ⟨fun g _ => writes rfl g, fun hskip => absurd List.mem_cons_self hskip⟩
  · have hdistinct := ((generateAll_outcome hm [] t).2.1.mp hok).2 (by simp)
    rw [hlower] at hdistinct
    exact absurd hdistinct (by decide)

/-- A default that is a date stops the migrations of a valid manifest. -/
theorem generateAll_of_date :
    let since : Value := .ofFields [("name", .text "since"), ("kind", .text "date"),
      ("default", .date ⟨2024, 1, 1⟩)]
    let raw : Value := .ofFields [("id", .text "shop"), ("name", .text "Shop"), ("version", .text "1"),
      ("entities", .list [.ofFields [("name", .text "Item"), ("fields", .list [since])]])]
    ∃ m, validate raw = .ok m ∧ ∀ t, m.generateAll ["schema", "types", "routes", "config", "admin"] t =
      .error (.noJson (.noText "date")) :=
  ⟨_, rfl, fun _ => rfl⟩

end Manifest

end Scaffold
