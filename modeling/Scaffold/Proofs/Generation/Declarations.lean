import Mathlib.Data.List.Nodup
import Mathlib.Data.List.Perm.Lattice
import Scaffold.Interface.Endpoints
import Scaffold.Proofs.Manifest.Validation
import Scaffold.Proofs.Records.Columns
import Scaffold.Proofs.Records.CreateBody

/-!
# Names that modules declare

A module declares names that are made from those of the entities, by what is
put before and behind them. Such names are distinct from each other, but the
name of an entity can itself look like one that is made from another entity's,
or like one that the module has for all of them
(`Manifest.declarations_apart_iff`).
-/

namespace Scaffold

/-! ## Decorated names -/

structure Decoration where
  before : String
  behind : String
  deriving DecidableEq

namespace Decoration

def on (d : Decoration) (n : String) : String := d.before ++ n ++ d.behind

theorem toList_on (d : Decoration) (n : String) :
    (d.on n).toList = d.before.toList ++ n.toList ++ d.behind.toList := by
  rw [on, String.toList_append, String.toList_append]

/-- No two of these begin or end alike without being alike there. -/
structure Unmixed (ds : List Decoration) : Prop where
  nodup : ds.Nodup
  before : ∀ d ∈ ds, ∀ d' ∈ ds, d.before.toList <+: d'.before.toList → d.before = d'.before
  behind : ∀ d ∈ ds, ∀ d' ∈ ds, d.behind.toList <:+ d'.behind.toList → d.behind = d'.behind

variable {ds : List Decoration} (hds : Unmixed ds)
include hds

theorem Unmixed.on_inj {d d' : Decoration} (hd : d ∈ ds) (hd' : d' ∈ ds) {n n' : String}
    (h : d.on n = d'.on n') : d = d' ∧ n = n' := by
  have hlist : d.before.toList ++ n.toList ++ d.behind.toList =
      d'.before.toList ++ n'.toList ++ d'.behind.toList := by
    rw [← toList_on, ← toList_on, h]
  have hbefore : d.before = d'.before := by
    have hprefix : d.before.toList <+: d'.before.toList ++ (n'.toList ++ d'.behind.toList) :=
      ⟨n.toList ++ d.behind.toList, by rw [← List.append_assoc, hlist, List.append_assoc]⟩
    rcases List.prefix_or_prefix_of_prefix hprefix (List.prefix_append _ _) with hp | hp
    · exact hds.before d hd d' hd' hp
    · exact (hds.before d' hd' d hd hp).symm
  have hbehind : d.behind = d'.behind := by
    have hsuffix : d.behind.toList <:+ d'.before.toList ++ n'.toList ++ d'.behind.toList :=
      ⟨d.before.toList ++ n.toList, hlist⟩
    rcases List.suffix_or_suffix_of_suffix hsuffix (List.suffix_append _ _) with hs | hs
    · exact hds.behind d hd d' hd' hs
    · exact (hds.behind d' hd' d hd hs).symm
  rw [hbefore, hbehind, List.append_left_inj, List.append_right_inj, String.toList_inj] at hlist
  cases d
  cases d'
  simp_all

theorem Unmixed.nodup_names {names : List String} (hnames : names.Nodup) :
    (names.flatMap fun n => ds.map (·.on n)).Nodup := by
  refine List.nodup_flatMap.mpr ⟨fun n _ => ?_, hnames.imp fun hne s hs hs' => ?_⟩
  · exact hds.nodup.map_on fun d hd d' hd' h => (hds.on_inj hd hd' h).1
  · obtain ⟨d, hd, rfl⟩ := List.mem_map.mp hs
    obtain ⟨d', hd', h⟩ := List.mem_map.mp hs'
    exact hne (hds.on_inj hd' hd h).2.symm

/-- Names that are fixed, one for each entity, and those made from it, are distinct exactly when no
name of an entity is one of the others. -/
theorem Unmixed.nodup_declared_iff {fixed names : List String} {main : String → String}
    (hmain : Function.Injective main) (hnames : names.Nodup) (hfixed : fixed.Nodup)
    (hapart : ∀ s ∈ fixed, ∀ d ∈ ds, ¬ d.before.toList <+: s.toList) :
    (fixed ++ names.map main ++ names.flatMap fun n => ds.map (·.on n)).Nodup ↔
      ∀ n ∈ names, main n ∉ fixed ∧ ∀ n' ∈ names, ∀ d ∈ ds, main n ≠ d.on n' := by
  have hothers : ∀ s ∈ fixed, s ∉ names.flatMap fun n => ds.map (·.on n) := by
    rintro s hs hmem
    obtain ⟨n, -, hmem⟩ := List.mem_flatMap.mp hmem
    obtain ⟨d, hd, rfl⟩ := List.mem_map.mp hmem
    refine hapart _ hs d hd ⟨n.toList ++ d.behind.toList, ?_⟩
    rw [toList_on, List.append_assoc]
  rw [List.nodup_append, List.nodup_append]
  constructor
  · rintro ⟨⟨-, -, hfirst⟩, -, hrest⟩ n hn
    refine ⟨fun hmem => hfirst _ hmem _ (List.mem_map_of_mem hn) rfl, fun n' hn' d hd => ?_⟩
    exact hrest _ (List.mem_append_right _ (List.mem_map_of_mem hn)) _
      (List.mem_flatMap.mpr ⟨n', hn', List.mem_map_of_mem hd⟩)
  · intro h
    refine ⟨⟨hfixed, hnames.map hmain, fun s hs s' hs' heq => ?_⟩, hds.nodup_names hnames,
      fun s hs s' hs' heq => ?_⟩
    · obtain ⟨n, hn, rfl⟩ := List.mem_map.mp hs'
      exact (h n hn).1 (heq ▸ hs)
    · rcases List.mem_append.mp hs with hs | hs
      · exact hothers s hs (heq ▸ hs')
      · obtain ⟨n, hn, rfl⟩ := List.mem_map.mp hs
        obtain ⟨n', hn', hs'⟩ := List.mem_flatMap.mp hs'
        obtain ⟨d, hd, rfl⟩ := List.mem_map.mp hs'
        exact (h n hn).2 n' hn' d hd heq

end Decoration

/-! ## Classes -/

namespace Body

def decorations : List Decoration := [⟨"Create", "Schema"⟩, ⟨"Update", "Schema"⟩]

theorem unmixed_decorations : Decoration.Unmixed decorations :=
  ⟨by decide, by decide, by decide⟩

theorem map_name_classes (es : List Entity) : (es.flatMap classes).map (·.name) =
    es.flatMap fun e => (e.name ++ "Schema") :: decorations.map (·.on e.name) := by
  rw [List.map_flatMap]
  rfl

theorem nodup_classNames_iff {es : List Entity} (h : (es.map (·.name)).Nodup) :
    ((es.flatMap classes).map (·.name)).Nodup ↔
      ∀ e ∈ es, ∀ e' ∈ es, e.name ≠ "Create" ++ e'.name ∧ e.name ≠ "Update" ++ e'.name := by
  have hmain : Function.Injective (· ++ "Schema") := fun _ _ => (String.append_left_inj "Schema").mp
  have hperm : (([] : List String) ++ (es.map (·.name)).map (· ++ "Schema") ++ (es.map (·.name)).flatMap fun n =>
      decorations.map (·.on n)).Perm ((es.flatMap classes).map (·.name)) := by
    rw [map_name_classes, List.nil_append, List.map_map, List.flatMap_map]
    exact es.map_append_flatMap_perm _ _
  rw [← hperm.nodup_iff, unmixed_decorations.nodup_declared_iff hmain h List.nodup_nil (by simp)]
  simp [decorations, Decoration.on, String.append_left_inj]

end Body

namespace Mapped

theorem nodup_classNames_iff {m : Manifest} {cs : List Class} (h : classes m = .ok cs)
    (hnames : (m.entities.map (·.name)).Nodup) :
    ("Base" :: cs.map (·.name)).Nodup ↔ ∀ e ∈ m.entities, e.name ≠ "Base" := by
  rw [map_eq_of_mapM (fun hc => (Class.name_of_ofEntity hc).1) h, List.nodup_cons, and_iff_left hnames]
  simp

end Mapped

/-! ## Interfaces and types -/

namespace Interface

structure Exported where
  comment : List String
  keyword : String
  name : String
  /-- What is left of the line with the name. -/
  behind : String
  body : List String

def Exported.lines (x : Exported) : List String :=
  x.comment ++ ("export " ++ x.keyword ++ " " ++ x.name ++ x.behind) :: x.body

def Declaration.exported (d : Declaration) : Exported :=
  ⟨[], "interface", d.name, " \x7b", (d.members.map fun m => "  " ++ m.render) ++ ["\x7d"]⟩

def exportedInputs (e : Entity) : List Exported := [
  ⟨[], "type", "Create" ++ e.name ++ "Input",
    " = Omit<" ++ e.name ++ ", " ++ alternatives (omittedNames e) ++ ">;", []⟩,
  ⟨[], "type", "Update" ++ e.name ++ "Input", " = Partial<Create" ++ e.name ++ "Input>;", []⟩]

def exportedEnvelope : List Exported := [
  ⟨[], "interface", "ApiResponse", "<T> \x7b", ["  data: T;", "  meta?: \x7b", "    total?: number;",
    "    page?: number;", "    limit?: number;", "  \x7d;", "  error?: string;", "\x7d"]⟩,
  ⟨[], "interface", "ApiError", " \x7b",
    ["  error: string;", "  code?: string;", "  details?: unknown;", "\x7d"]⟩]

def exportedEndpoints (n : String) : List Exported :=
  let data := "  data: " ++ n ++ ";"
  [⟨["// " ++ n ++ " API endpoints"], "interface", "Get" ++ n ++ "Request", " \x7b", ["  id: string;", "\x7d"]⟩,
    ⟨[], "interface", "Get" ++ n ++ "Response", " \x7b", [data, "\x7d"]⟩,
    ⟨[], "interface", "List" ++ n ++ "Request", " extends List" ++ n ++ "Query \x7b\x7d", []⟩,
    ⟨[], "interface", "List" ++ n ++ "Response", " \x7b", ["  data: " ++ n ++ "[];", "  meta: \x7b",
      "    total: number;", "    page: number;", "    limit: number;", "  \x7d;", "\x7d"]⟩,
    ⟨[], "interface", "Create" ++ n ++ "Request", " \x7b", ["  data: Create" ++ n ++ "Input;", "\x7d"]⟩,
    ⟨[], "interface", "Create" ++ n ++ "Response", " \x7b", [data, "\x7d"]⟩,
    ⟨[], "interface", "Update" ++ n ++ "Request", " \x7b",
      ["  id: string;", "  data: Update" ++ n ++ "Input;", "\x7d"]⟩,
    ⟨[], "interface", "Update" ++ n ++ "Response", " \x7b", [data, "\x7d"]⟩,
    ⟨[], "interface", "Delete" ++ n ++ "Request", " \x7b", ["  id: string;", "\x7d"]⟩,
    ⟨[], "interface", "Delete" ++ n ++ "Response", " \x7b", ["  data: \x7b deleted: boolean \x7d;", "\x7d"]⟩]

def typeParts (m : Manifest) : List (List Exported) :=
  m.entities.flatMap (fun e => [[(Declaration.ofEntity e).exported], exportedInputs e]) ++
    m.entities.map (fun e => [(queryDeclaration e).exported]) ++ exportedEnvelope.map ([·])

def endpointParts (m : Manifest) : List (List Exported) :=
  m.entities.flatMap fun e => (exportedEndpoints e.name).map ([·])

def exportedText (parts : List (List Exported)) : String :=
  joinParts (parts.map fun xs => "\n".intercalate (xs.flatMap Exported.lines))

theorem exportedText_append {ps qs : List (List Exported)} (hp : ps ≠ []) (hq : qs ≠ []) :
    exportedText (ps ++ qs) = exportedText ps ++ "\n\n" ++ exportedText qs := by
  rw [exportedText, List.map_append, joinParts, String.intercalate_append_of_ne_nil]
  · rfl
  · simpa using hp
  · simpa using hq

theorem exportedText_flatMap {α : Type} {g : α → List (List Exported)} (hg : ∀ x, g x ≠ []) :
    ∀ xs : List α, exportedText (xs.flatMap g) = joinParts (xs.map fun x => exportedText (g x))
  | [] => rfl
  | [x] => by simp [joinParts]
  | x :: y :: xs => by
    have hne : (y :: xs).flatMap g ≠ [] := by simp [hg]
    rw [List.flatMap_cons, exportedText_append (hg x) hne, exportedText_flatMap hg (y :: xs), joinParts,
      joinParts, List.map_cons (l := y :: xs), String.intercalate_cons_of_ne_nil (by simp)]

theorem lines_exported (d : Declaration) : d.exported.lines = d.lines := by
  simp [Exported.lines, Declaration.exported, Declaration.lines]

theorem intercalate_blank {ls ls' : List String} (h : ls ≠ []) (h' : ls' ≠ []) :
    "\n".intercalate (ls ++ "" :: ls') = joinParts ["\n".intercalate ls, "\n".intercalate ls'] := by
  have hbreaks : "\n\n" = "\n" ++ "\n" := by decide
  rw [String.intercalate_append_of_ne_nil h (List.cons_ne_nil _ _), String.intercalate_cons_of_ne_nil h', joinParts,
    String.intercalate_cons_cons, String.intercalate_singleton, hbreaks, String.empty_append]
  simp only [String.append_assoc]

theorem entityText_eq (e : Entity) :
    entityText e = exportedText [[(Declaration.ofEntity e).exported], exportedInputs e] := by
  have hlines : (Declaration.ofEntity e).lines ≠ [] := by simp [Declaration.lines]
  have hinputs : (exportedInputs e).flatMap Exported.lines ≠ [] := by simp [exportedInputs, Exported.lines]
  rw [exportedText, List.map_cons, List.map_cons, List.map_nil, List.flatMap_singleton, lines_exported,
    ← intercalate_blank hlines hinputs]
  simp [entityText, exportedInputs, Exported.lines, ← String.toList_inj]

theorem endpointLines_eq (n : String) :
    "\n".intercalate (endpointLines n) = exportedText ((exportedEndpoints n).map ([·])) := by
  simp only [exportedText, joinParts, exportedEndpoints, endpointLines, Exported.lines, List.map_cons,
    List.map_nil, List.flatMap_singleton, List.nil_append, List.cons_append, String.intercalate_cons_cons,
    String.intercalate_singleton, ← String.toList_inj, String.toList_append, List.append_assoc]
  simp

theorem envelope_eq : envelope = exportedText (exportedEnvelope.map ([·])) := by
  rfl

theorem typesText_eq {m : Manifest} (h : m.entities ≠ []) :
    typesText m = exportedText (typeParts m) ++ "\n" := by
  have hne {α : Type} {g : Entity → List α} (hg : ∀ e, g e ≠ []) : m.entities.flatMap g ≠ [] := by
    obtain ⟨e, es, hes⟩ := List.exists_cons_of_ne_nil h
    simp [hes, hg]
  have hentities : exportedText (m.entities.flatMap fun e =>
      [[(Declaration.ofEntity e).exported], exportedInputs e]) = joinParts (m.entities.map entityText) := by
    rw [exportedText_flatMap fun _ => List.cons_ne_nil _ _]
    simp only [← entityText_eq]
  have hqueries : exportedText (m.entities.map fun e => [(queryDeclaration e).exported]) =
      joinParts (m.entities.map fun e => "\n".intercalate (queryDeclaration e).lines) := by
    simp only [exportedText, List.map_map, Function.comp_def, List.flatMap_singleton, lines_exported]
  rw [typeParts, exportedText_append _ (by decide), exportedText_append (hne fun _ => List.cons_ne_nil _ _),
    hentities, hqueries, ← envelope_eq]
  · rfl
  · simpa using h
  · exact List.append_ne_nil_of_left_ne_nil (hne fun _ => List.cons_ne_nil _ _) _

theorem endpointsText_eq (m : Manifest) : endpointsText m = exportedText (endpointParts m) ++ "\n" := by
  rw [endpointParts, exportedText_flatMap (by simp [exportedEndpoints])]
  simp only [← endpointLines_eq]
  rfl

/-! ## Names of interfaces and types -/

def inputDecorations : List Decoration := [⟨"Create", "Input"⟩, ⟨"Update", "Input"⟩]

def endpointDecorations : List Decoration :=
  ["Get", "List", "Create", "Update", "Delete"].flatMap fun s => [⟨s, "Request"⟩, ⟨s, "Response"⟩]

def decorations : List Decoration := inputDecorations ++ ⟨"List", "Query"⟩ :: endpointDecorations

def envelopeNames : List String := ["ApiResponse", "ApiError"]

def exportedNames (m : Manifest) : List String :=
  (typeParts m ++ endpointParts m).flatMap fun xs => xs.map (·.name)

theorem unmixed_decorations : Decoration.Unmixed decorations :=
  ⟨by decide, by decide, by decide⟩

theorem exportedNames_eq (m : Manifest) : exportedNames m =
    m.entities.flatMap (fun e => e.name :: inputDecorations.map (·.on e.name)) ++
      m.entities.map (fun e => (Decoration.mk "List" "Query").on e.name) ++ envelopeNames ++
      m.entities.flatMap fun e => endpointDecorations.map (·.on e.name) := by
  rw [exportedNames, List.flatMap_append, typeParts, List.flatMap_append, List.flatMap_append, endpointParts,
    List.flatMap_assoc, List.flatMap_assoc]
  simp only [List.flatMap_map, ← List.flatMap_pure_eq_map (f := fun e : Entity => Decoration.on _ _)]
  rfl

theorem perm_exportedNames (m : Manifest) :
    (envelopeNames ++ (m.entities.map (·.name)).map id ++ (m.entities.map (·.name)).flatMap fun n =>
      decorations.map (·.on n)).Perm (exportedNames m) := by
  have hentities := m.entities.map_append_flatMap_perm (·.name) fun e => inputDecorations.map (·.on e.name)
  have hdecorated := m.entities.flatMap_append_perm (fun e => inputDecorations.map (·.on e.name))
    fun e => (Decoration.mk "List" "Query").on e.name :: endpointDecorations.map (·.on e.name)
  have hqueries := m.entities.map_append_flatMap_perm (fun e => (Decoration.mk "List" "Query").on e.name)
    fun e => endpointDecorations.map (·.on e.name)
  have hall : (fun e : Entity => decorations.map (·.on e.name)) = fun e =>
      inputDecorations.map (·.on e.name) ++
        ((Decoration.mk "List" "Query").on e.name :: endpointDecorations.map (·.on e.name)) := rfl
  rw [exportedNames_eq, List.map_id, List.flatMap_map, hall, List.perm_iff_count]
  intro s
  have hentities := hentities.count_eq s
  have hdecorated := hdecorated.count_eq s
  have hqueries := hqueries.count_eq s
  simp only [List.count_append] at hentities hdecorated hqueries ⊢
  omega

theorem nodup_exportedNames_iff {m : Manifest} (h : (m.entities.map (·.name)).Nodup) :
    (exportedNames m).Nodup ↔ ∀ e ∈ m.entities, e.name ∉ envelopeNames ∧
      ∀ e' ∈ m.entities, ∀ d ∈ decorations, e.name ≠ d.on e'.name := by
  rw [← (perm_exportedNames m).nodup_iff,
    unmixed_decorations.nodup_declared_iff Function.injective_id h (by decide) (by decide)]
  simp

end Interface

/-! ## Modules -/

namespace Manifest

/-- **Declarations.** Of the classes that check bodies, three for each entity, no two have one name
exactly when no entity is called like another one behind `Create` or `Update`. Next to `Base` the
mapped classes have names of their own exactly when no entity is called so. The interfaces and types
in the two texts for a client have names of their own exactly when no entity is called like one that
is made from an entity, or like one of the two that belong to none. -/
theorem declarations_apart_iff {raw : Value} {m : Manifest} (h : validate raw = .ok m) :
    (∃ head, Body.moduleText m = "\n".intercalate
      (head ++ (m.entities.flatMap Body.classes).flatMap (fun c => "" :: "" :: c.lines) ++ [""])) ∧
    (m.entities.flatMap Body.classes).map (·.name) = m.entities.flatMap (fun e =>
      [e.name ++ "Schema", "Create" ++ e.name ++ "Schema", "Update" ++ e.name ++ "Schema"]) ∧
    (((m.entities.flatMap Body.classes).map (·.name)).Nodup ↔ ∀ e ∈ m.entities, ∀ e' ∈ m.entities,
      e.name ≠ "Create" ++ e'.name ∧ e.name ≠ "Update" ++ e'.name) ∧
    (∀ text, Mapped.moduleText m = .ok text → ∃ head classes, Mapped.classes m = .ok classes ∧
      text = "\n".intercalate (head ++ ["class Base(DeclarativeBase):", "    pass"] ++
        classes.flatMap (fun c => "" :: "" :: c.lines) ++ [""]) ∧
      classes.map (·.name) = m.entities.map (·.name) ∧
      (("Base" :: classes.map (·.name)).Nodup ↔ ∀ e ∈ m.entities, e.name ≠ "Base")) ∧
    Interface.typesText m = Interface.exportedText (Interface.typeParts m) ++ "\n" ∧
    Interface.endpointsText m = Interface.exportedText (Interface.endpointParts m) ++ "\n" ∧
    ((Interface.exportedNames m).Nodup ↔ ∀ e ∈ m.entities, e.name ∉ ["ApiResponse", "ApiError"] ∧
      ∀ e' ∈ m.entities, ∀ d ∈ Interface.decorations, e.name ≠ d.before ++ e'.name ++ d.behind) := by
  obtain ⟨hgiven, hnames⟩ := validate_eq_ok_iff.mp h
  obtain ⟨-, -, -, -, -, hentities⟩ := hgiven.entities
  refine ⟨Body.moduleText_eq m, Body.map_name_classes m.entities, Body.nodup_classNames_iff hnames.entities,
    fun text htext => ?_, Interface.typesText_eq hentities, Interface.endpointsText_eq m,
    Interface.nodup_exportedNames_iff hnames.entities⟩
  obtain ⟨classes, hclasses, rfl⟩ := Mapped.moduleText_eq_ok.mp htext
  obtain ⟨head, hsource⟩ := Mapped.source_eq m classes
  refine ⟨head, classes, hclasses, hsource, ?_,
    Mapped.nodup_classNames_iff hclasses hnames.entities⟩
  exact map_eq_of_mapM (fun hc => (Mapped.Class.name_of_ofEntity hc).1) hclasses

/-- Names that begin like one that is made, and one that is made from no entity here. -/
theorem declarations_apart_shop :
    let entity (name : String) : Value := .ofFields [("name", .text name),
      ("fields", .list [.ofFields [("name", .text "code"), ("kind", .text "string")]])]
    let raw : Value := .ofFields [("id", .text "shop"), ("name", .text "Shop"), ("version", .text "1"),
      ("entities", .list [entity "Item", entity "CreateItems", entity "GetOrderRequest"])]
    ∃ m classes, validate raw = .ok m ∧ Mapped.classes m = .ok classes ∧
      ((m.entities.flatMap Body.classes).map (·.name)).Nodup ∧ ("Base" :: classes.map (·.name)).Nodup ∧
      (Interface.exportedNames m).Nodup := by
  intro entity raw
  obtain ⟨m, hm, text, htext, hbodies, hbase, hexported⟩ : ∃ m, validate raw = .ok m ∧
      ∃ text, Mapped.moduleText m = .ok text ∧
        (∀ e ∈ m.entities, ∀ e' ∈ m.entities, e.name ≠ "Create" ++ e'.name ∧ e.name ≠ "Update" ++ e'.name) ∧
        (∀ e ∈ m.entities, e.name ≠ "Base") ∧
        ∀ e ∈ m.entities, e.name ∉ ["ApiResponse", "ApiError"] ∧ ∀ e' ∈ m.entities,
          ∀ d ∈ Interface.decorations, e.name ≠ d.before ++ e'.name ++ d.behind :=
    ⟨_, rfl, _, rfl, by decide, by decide, by decide⟩
  obtain ⟨-, -, hbodies', hmapped, -, -, hexported'⟩ := declarations_apart_iff hm
  obtain ⟨head, classes, hclasses, -, -, hbase'⟩ := hmapped text htext
  exact ⟨m, classes, hm, hclasses, hbodies'.mpr hbodies, hbase'.mpr hbase, hexported'.mpr hexported⟩

/-- An entity called like the class that creates another one, one called like the class behind all
others, and one called like the interface of errors. -/
theorem entities_share_declarations :
    let entity (name : String) : Value := .ofFields [("name", .text name),
      ("fields", .list [.ofFields [("name", .text "code"), ("kind", .text "string")]])]
    let raw : Value := .ofFields [("id", .text "shop"), ("name", .text "Shop"), ("version", .text "1"),
      ("entities", .list [entity "User", entity "CreateUser", entity "Base", entity "ApiError"])]
    ∃ m classes, validate raw = .ok m ∧ Mapped.classes m = .ok classes ∧
      ¬ ((m.entities.flatMap Body.classes).map (·.name)).Nodup ∧
      ¬ ("Base" :: classes.map (·.name)).Nodup ∧ ¬ (Interface.exportedNames m).Nodup :=
  ⟨_, _, rfl, rfl, by decide, by decide, by decide⟩

end Manifest

end Scaffold
