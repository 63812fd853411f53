import Scaffold.Proofs.Manifest.Names
import Scaffold.Proofs.Manifest.Validation
import Scaffold.Proofs.Manifest.Written

/-!
# The first name that does not fit

The violations of a manifest have an order: by entity, and at an entity by turn.
Its own name comes first, then for each field the name and the target of a
relation. The fault that is found is the first violation, and its path leads to
the name in question (`Manifest.nameFault?_spec`).
-/

namespace Scaffold

/-! ## Following a path -/

namespace Value

def part? (v k : Value) : Option Value :=
  match v with
  | .map es => Entries.get? es k
  | _ =>
    match k with
    | .int (.ofNat i) => v.items?.bind (·[i]?)
    | _ => none

def at? (v : Value) : Path → Option Value
  | [] => some v
  | k :: path => (v.part? k).bind (at? · path)

theorem at?_field {v w : Value} {key : String} {path : Path} (h : v.field? key = some w) :
    v.at? (.text key :: path) = w.at? path := by
  cases v with
  | map es =>
    have hpart : (Value.map es).part? (.text key) = some w := h
    rw [at?, hpart, Option.bind_some]
  | _ => cases h

theorem at?_item {xs : List Value} {i : Nat} {w : Value} {path : Path} (h : xs[i]? = some w) :
    (Value.list xs).at? (.int i :: path) = w.at? path := by
  have hpart : (Value.list xs).part? (.int i) = some w := h
  rw [at?, hpart, Option.bind_some]

end Value

theorem Manifest.at?_entity {m : Manifest} {i : Nat} {e : Entity} {path : Path}
    (h : m.entities[i]? = some e) :
    m.toValue.at? (.text "entities" :: .int i :: path) = e.toValue.at? path := by
  obtain ⟨-, -, -, -, hentities, -⟩ := m.field?_toValue
  rw [Value.at?_field hentities, Value.at?_item (by rw [List.getElem?_map, h, Option.map_some])]

theorem Entity.at?_name (e : Entity) : e.toValue.at? [.text "name"] = some (.text e.name) :=
  Value.at?_field e.field?_toValue.1

theorem Entity.at?_field {e : Entity} {i : Nat} {f : Field} {path : Path} (h : e.fields[i]? = some f) :
    e.toValue.at? (.text "fields" :: .int i :: path) = f.toValue.at? path := by
  obtain ⟨-, -, hfields⟩ := e.field?_toValue
  rw [Value.at?_field hfields, Value.at?_item (by rw [List.getElem?_map, h, Option.map_some])]

theorem Field.at?_name (f : Field) : f.toValue.at? [.text "name"] = some (.text f.name) :=
  Value.at?_field f.field?_toValue.1

theorem Field.at?_target {f : Field} {r : RelationField} (h : f.relation? = some r) :
    f.toValue.at? [.text "relation", .text "entity"] = some (.text r.relation.entity) := by
  obtain ⟨-, -, -, -, -, -, -, hrelation⟩ := f.field?_toValue
  rw [h, Option.map_some] at hrelation
  rw [Value.at?_field hrelation]
  exact Value.at?_field r.relation.field?_toValue.1

theorem Manifest.at?_entityName {m : Manifest} {i : Nat} {n : String}
    (h : (m.entities.map (·.name))[i]? = some n) :
    m.toValue.at? [.text "entities", .int i, .text "name"] = some (.text n) := by
  rw [List.getElem?_map, Option.map_eq_some_iff] at h
  obtain ⟨e, he, rfl⟩ := h
  rw [at?_entity he, e.at?_name]

theorem Manifest.at?_fieldName {m : Manifest} {i k : Nat} {e : Entity} {n : String}
    (he : m.entities[i]? = some e) (h : (e.fields.map (·.name))[k]? = some n) :
    m.toValue.at? [.text "entities", .int i, .text "fields", .int k, .text "name"] = some (.text n) := by
  rw [List.getElem?_map, Option.map_eq_some_iff] at h
  obtain ⟨f, hf, rfl⟩ := h
  rw [at?_entity he, Entity.at?_field hf, f.at?_name]

/-! ## Violations -/

/-- Position `i` has the name `n` that position `p`, the first to have it, has already. -/
structure Repeats (names : List String) (n : String) (i p : Nat) : Prop where
  here : names[i]? = some n
  earlier : names[p]? = some n
  before : p < i
  first : ∀ q < p, names[q]? ≠ some n

namespace Repeats

variable {names before rest : List String} {n n' : String} {i p p' : Nat}

theorem unique (h : Repeats names n i p) (h' : Repeats names n' i p') : n = n' ∧ p = p' := by
  obtain rfl : n = n' := Option.some.inj (h.here.symm.trans h'.here)
  refine ⟨rfl, ?_⟩
  rcases Nat.lt_trichotomy p p' with hlt | heq | hlt
  · exact absurd h.earlier (h'.first p hlt)
  · exact heq
  · exact absurd h'.earlier (h.first p' hlt)

theorem not_nodup (h : Repeats names n i p) : ¬ names.Nodup := fun hnodup => by
  have hp : p < names.length := (List.getElem?_eq_some_iff.mp h.earlier).1
  have hne := (List.nodup_iff_getElem?_ne_getElem?.mp hnodup) p i h.before
    (List.getElem?_eq_some_iff.mp h.here).1
  exact hne (h.earlier.trans h.here.symm)

theorem of_idxOf? (h : before.idxOf? n = some p) : Repeats (before ++ n :: rest) n before.length p := by
  obtain ⟨hp, hn, hfirst⟩ := List.idxOf?_eq_some_iff.mp h
  refine ⟨by simp, ?_, hp, fun q hq => ?_⟩
  · rw [List.getElem?_append_left hp, List.getElem?_eq_getElem hp, hn]
  · have hlt := hq.trans hp
    rw [List.getElem?_append_left hlt, List.getElem?_eq_getElem hlt, ne_eq, Option.some.injEq]
    exact hfirst q hq

theorem not_of_notMem (h : n ∉ before) : ¬ Repeats (before ++ n :: rest) n' before.length p := by
  intro hr
  have hn : n = n' := by simpa using hr.here
  have hp := hr.earlier
  rw [List.getElem?_append_left hr.before] at hp
  exact h (hn ▸ List.mem_of_getElem? hp)

end Repeats

namespace NameFault

def name : NameFault → String
  | .duplicateEntity name _ _ => name
  | .duplicateField name _ _ _ => name
  | .unknownTarget target _ _ => target

def earlier? : NameFault → Option Path
  | .duplicateEntity _ _ p => some [.text "entities", .int p, .text "name"]
  | .duplicateField _ e _ p => some [.text "entities", .int e, .text "fields", .int p, .text "name"]
  | .unknownTarget .. => none

end NameFault

/-- The violations among the fields of the entity at `e`, each with its turn, its code and the way to
what is wrong. -/
inductive Field.Violates (known : List String) (e : Nat) (fields : List Field) :
    NameFault → (turn : Nat) → (code : String) → Path → Prop
  | repeated {n : String} {i p : Nat} (h : Repeats (fields.map (·.name)) n i p) :
      Violates known e fields (.duplicateField n e i p) (2 * i + 1) "duplicate_field_name"
        [.text "entities", .int e, .text "fields", .int i, .text "name"]
  | target {i : Nat} {f : Field} {r : RelationField} (hf : fields[i]? = some f)
      (hr : f.relation? = some r) (hout : r.relation.entity ∉ known) :
      Violates known e fields (.unknownTarget r.relation.entity e i) (2 * i + 2)
        "unknown_relation_target"
        [.text "entities", .int e, .text "fields", .int i, .text "relation", .text "entity"]

/-- The violations in a manifest, each with its entity, its turn there, its code and the way to what
is wrong. -/
inductive Manifest.Violates (m : Manifest) :
    NameFault → (entity : Nat) → (turn : Nat) → (code : String) → Path → Prop
  | repeated {n : String} {i p : Nat} (h : Repeats (m.entities.map (·.name)) n i p) :
      Violates m (.duplicateEntity n i p) i 0 "duplicate_entity_name"
        [.text "entities", .int i, .text "name"]
  | inEntity {e turn : Nat} {entity : Entity} {fault : NameFault} {code : String} {path : Path}
      (he : m.entities[e]? = some entity)
      (h : Field.Violates (m.entities.map (·.name)) e entity.fields fault turn code path) :
      Violates m fault e turn code path

theorem Manifest.NamesFit.not_iff {m : Manifest} : ¬ m.NamesFit ↔
    ¬ (m.entities.map (·.name)).Nodup ∨ (∃ e ∈ m.entities, ¬ (e.fields.map (·.name)).Nodup) ∨
      ∃ e ∈ m.entities, ∃ f ∈ e.fields, ∃ r, f.relation? = some r ∧
        r.relation.entity ∉ m.entities.map (·.name) := by
  have hfit : m.NamesFit ↔ _ ∧ _ ∧ _ := ⟨fun h => ⟨h.entities, h.fields, h.targets⟩,
    fun h => ⟨h.1, h.2.1, h.2.2⟩⟩
  rw [hfit]
  simp only [not_and_or, not_forall, exists_prop]

/-! ## The search among fields -/

namespace Field.Violates

variable {known : List String} {e turn : Nat} {fields : List Field} {fault fault' : NameFault}
  {code code' : String} {path path' : Path}

theorem unique (h : Violates known e fields fault turn code path)
    (h' : Violates known e fields fault' turn code' path') : fault = fault' := by
  generalize hturn : turn = turn' at h'
  cases h with
  | @repeated n i p h =>
    cases h' with
    | @repeated n' i' p' h' =>
      obtain rfl : i = i' := by omega
      obtain ⟨rfl, rfl⟩ := h.unique h'
      rfl
    | target => omega
  | @target i f r hf hr =>
    cases h' with
    | repeated => omega
    | @target i' f' r' hf' hr' =>
      obtain rfl : i = i' := by omega
      obtain rfl := Option.some.inj (hf.symm.trans hf')
      obtain rfl := Option.some.inj (hr.symm.trans hr')
      rfl

def NoneBefore (known : List String) (e : Nat) (fields : List Field) (t : Nat) : Prop :=
  ∀ fault turn code path, Violates known e fields fault turn code path → t ≤ turn

theorem noneBefore_one : NoneBefore known e fields 1 := by
  intro fault turn code path h
  cases h <;> omega

variable {before rest : List Field} {f : Field} {k : Nat}

theorem NoneBefore.pass_name (h : NoneBefore known e (before ++ f :: rest) (2 * before.length + 1))
    (hnew : f.name ∉ before.map (·.name)) :
    NoneBefore known e (before ++ f :: rest) (2 * before.length + 2) := by
  intro fault turn code path hv
  have hturn := h fault turn code path hv
  cases hv with
  | @repeated n i p hr =>
    have hne : i ≠ before.length := by
      rintro rfl
      rw [List.map_append, List.map_cons] at hr
      rw [← List.length_map (·.name)] at hr
      exact Repeats.not_of_notMem hnew hr
    omega
  | target => omega

theorem NoneBefore.pass_target (h : NoneBefore known e fields (2 * k + 2)) (hf : fields[k]? = some f)
    (hknown : ∀ r, f.relation? = some r → r.relation.entity ∈ known) :
    NoneBefore known e fields (2 * k + 3) := by
  intro fault turn code path hv
  have hturn := h fault turn code path hv
  cases hv with
  | repeated => omega
  | @target i g r hg hr hout =>
    have hne : i ≠ k := by
      rintro rfl
      obtain rfl := Option.some.inj (hf.symm.trans hg)
      exact hout (hknown r hr)
    omega

theorem of_fieldFault : ∀ (rest before : List Field),
    NoneBefore known e (before ++ rest) (2 * before.length + 1) →
    Manifest.fieldFault known e (before.map (·.name)) rest = some fault →
      ∃ turn code path, Violates known e (before ++ rest) fault turn code path ∧
        NoneBefore known e (before ++ rest) turn
  | [], _, _, h => by cases h
  | f :: rest, before, hclear, h => by
    have hf : (before ++ f :: rest)[before.length]? = some f := by simp
    unfold Manifest.fieldFault at h
    rw [List.length_map] at h
    rcases Manifest.idxOf?_cases f.name (before.map (·.name)) with ⟨hidx, hnew⟩ | ⟨p, hidx, -⟩
    -- the name's turn goes by; if the target's turn does too, the search is one field further
    · have hnamed := hclear.pass_name hnew
      have next (hknown : ∀ r, f.relation? = some r → r.relation.entity ∈ known)
          (h : Manifest.fieldFault known e (before.map (·.name) ++ [f.name]) rest = some fault) :
          ∃ turn code path, Violates known e (before ++ f :: rest) fault turn code path ∧
            NoneBefore known e (before ++ f :: rest) turn := by
        have hpassed := hnamed.pass_target hf hknown
        rw [List.append_cons] at hpassed ⊢
        refine of_fieldFault rest (before ++ [f]) ?_ ?_
        · rwa [List.length_append, List.length_singleton]
        · rwa [List.map_append]
      cases hr : f.relation? with
      | none =>
        simp only [hidx, hr] at h
        exact next (by simp [hr]) h
      | some r =>
        simp only [hidx, hr] at h
        by_cases hknown : r.relation.entity ∈ known
        · rw [if_pos (List.contains_iff_mem.mpr hknown)] at h
          exact next (fun r' hr' => by rw [hr, Option.some.injEq] at hr'; rwa [← hr']) h
        · rw [if_neg (by simpa using hknown), Option.some.injEq] at h
          subst h
          exact ⟨_, _, _, .target hf hr hknown, hnamed⟩
    · simp only [hidx, Option.some.injEq] at h
      subst h
      refine ⟨_, _, _, .repeated ?_, hclear⟩
      have hrepeats : Repeats (before.map (·.name) ++ (f :: rest).map (·.name)) f.name _ p :=
        Repeats.of_idxOf? hidx
      rwa [List.length_map, ← List.map_append] at hrepeats

theorem fieldFault_ne_none (h : Violates known e fields fault turn code path) :
    Manifest.fieldFault known e [] fields ≠ none := by
  intro hnone
  obtain ⟨-, hnodup, hknown⟩ := Manifest.fieldFault_eq_none_iff.mp hnone
  cases h with
  | repeated h => exact h.not_nodup hnodup
  | target hf hr hout => exact hout (hknown _ (List.mem_of_getElem? hf) _ hr)

end Field.Violates

/-! ## The search among entities -/

namespace Manifest

variable {m : Manifest} {fault fault' : NameFault} {e turn : Nat} {code code' : String}
  {path path' : Path}

namespace Violates

theorem reported (h : m.Violates fault e turn code path) :
    (InvalidManifest.names fault).code = code ∧ fault.issue.path = path := by
  rcases h with _ | ⟨-, ⟨⟩⟩ <;> exact ⟨rfl, rfl⟩

theorem unique (h : m.Violates fault e turn code path) (h' : m.Violates fault' e turn code' path') :
    fault = fault' := by
  generalize hturn : turn = turn' at h'
  cases h with
  | @repeated n i p h =>
    cases h' with
    | repeated h' =>
      obtain ⟨rfl, rfl⟩ := h.unique h'
      rfl
    | inEntity _ h' =>
      have := Field.Violates.noneBefore_one _ _ _ _ h'
      omega
  | inEntity he h =>
    subst hturn
    cases h' with
    | repeated =>
      have := Field.Violates.noneBefore_one _ _ _ _ h
      omega
    | inEntity he' h' =>
      obtain rfl := Option.some.inj (he.symm.trans he')
      exact h.unique h'

def NoneBefore (m : Manifest) (e t : Nat) : Prop :=
  ∀ fault entity turn code path, m.Violates fault entity turn code path →
    e < entity ∨ e = entity ∧ t ≤ turn

variable {before rest : List Entity} {entity : Entity}

theorem NoneBefore.pass_name (h : NoneBefore m before.length 0) (hm : m.entities = before ++ entity :: rest)
    (hnew : entity.name ∉ before.map (·.name)) : NoneBefore m before.length 1 := by
  intro fault e turn code path hv
  have hturn := h fault e turn code path hv
  cases hv with
  | @repeated n _ p hr =>
    have hne : e ≠ before.length := by
      rintro rfl
      rw [hm, List.map_append, List.map_cons] at hr
      rw [← List.length_map (·.name)] at hr
      exact Repeats.not_of_notMem hnew hr
    omega
  | inEntity he hv =>
    have := Field.Violates.noneBefore_one _ _ _ _ hv
    omega

theorem NoneBefore.within_fields {t : Nat} (h : NoneBefore m e 1) (he : m.entities[e]? = some entity)
    (hfields : Field.Violates.NoneBefore (m.entities.map (·.name)) e entity.fields t) :
    NoneBefore m e t := by
  intro fault e' turn code path hv
  have hturn := h fault e' turn code path hv
  cases hv with
  | repeated => omega
  | @inEntity _ _ entity' _ _ _ he' hv =>
    rcases hturn with hlt | ⟨rfl, -⟩
    · exact Or.inl hlt
    · obtain rfl := Option.some.inj (he.symm.trans he')
      exact Or.inr ⟨rfl, hfields _ _ _ _ hv⟩

theorem NoneBefore.pass_fields (h : NoneBefore m e 1) (he : m.entities[e]? = some entity)
    (hnone : fieldFault (m.entities.map (·.name)) e [] entity.fields = none) :
    NoneBefore m (e + 1) 0 := by
  intro fault e' turn code path hv
  have hturn := h fault e' turn code path hv
  cases hv with
  | repeated => omega
  | @inEntity _ _ entity' _ _ _ he' hv =>
    have hne : e ≠ e' := by
      rintro rfl
      obtain rfl := Option.some.inj (he.symm.trans he')
      exact hv.fieldFault_ne_none hnone
    omega

theorem of_entityFault : ∀ (rest before : List Entity), m.entities = before ++ rest →
    NoneBefore m before.length 0 →
    entityFault (m.entities.map (·.name)) (before.map (·.name)) rest = some fault →
      ∃ e turn code path, m.Violates fault e turn code path ∧ NoneBefore m e turn
  | [], _, _, _, h => by cases h
  | entity :: rest, before, hm, hclear, h => by
    have he : m.entities[before.length]? = some entity := by simp [hm]
    unfold entityFault at h
    rw [List.length_map] at h
    rcases idxOf?_cases entity.name (before.map (·.name)) with ⟨hidx, hnew⟩ | ⟨p, hidx, -⟩
    -- with the entity's own turn gone by, all its fields are searched before the next entity
    · have hnamed := hclear.pass_name hm hnew
      cases hfault : fieldFault (m.entities.map (·.name)) before.length [] entity.fields with
      | some found =>
        simp only [hidx, hfault, Option.some.injEq] at h
        subst h
        obtain ⟨turn, code, path, hv, hfirst⟩ :=
          Field.Violates.of_fieldFault entity.fields [] Field.Violates.noneBefore_one hfault
        exact ⟨_, turn, code, path, .inEntity he hv, hnamed.within_fields he hfirst⟩
      | none =>
        simp only [hidx, hfault] at h
        refine of_entityFault rest (before ++ [entity]) (by simp [hm]) ?_ ?_
        · rw [List.length_append, List.length_singleton]
          exact hnamed.pass_fields he hfault
        · rwa [List.map_append]
    · simp only [hidx, Option.some.injEq] at h
      subst h
      refine ⟨_, _, _, _, .repeated (p := p) ?_, hclear⟩
      have hrepeats : Repeats (before.map (·.name) ++ (entity :: rest).map (·.name)) entity.name _ p :=
        Repeats.of_idxOf? hidx
      rwa [List.length_map, ← List.map_append, ← hm] at hrepeats

end Violates

/-! ## The fault that is found -/

theorem violates_of_nameFault? (h : m.nameFault? = some fault) :
    ∃ e turn code path, m.Violates fault e turn code path ∧ Violates.NoneBefore m e turn := by
  have hstart : Violates.NoneBefore m 0 0 := fun _ e turn _ _ _ => by omega
  exact Violates.of_entityFault m.entities [] rfl hstart h

theorem Violates.at?_path (h : m.Violates fault e turn code path) :
    m.toValue.at? path = some (.text fault.name) := by
  cases h with
  | repeated h => exact at?_entityName h.here
  | inEntity he h =>
    cases h with
    | repeated h => exact at?_fieldName he h.here
    | target hf hr => rw [at?_entity he, Entity.at?_field hf, Field.at?_target hr, NameFault.name]

theorem Violates.at?_earlier {earlier : Path} (h : m.Violates fault e turn code path)
    (hearlier : fault.earlier? = some earlier) : m.toValue.at? earlier = some (.text fault.name) := by
  cases h with
  | repeated h =>
    cases hearlier
    exact at?_entityName h.earlier
  | inEntity he h =>
    cases h with
    | repeated h =>
      cases hearlier
      exact at?_fieldName he h.earlier
    | target => cases hearlier

end Manifest

theorem Report.keyText_nat (n : Nat) : keyText (.int n) = "[" ++ toString n ++ "]" := rfl

theorem NameFault.message_of_earlier? {fault : NameFault} {earlier : Path}
    (h : fault.earlier? = some earlier) : ∃ start,
      fault.message = start ++ " (already used at " ++ Report.pathText earlier ++ ")" := by
  have entities : Report.keyText (.text "entities") = ".entities" := rfl
  have fields : Report.keyText (.text "fields") = ".fields" := rfl
  have name : Report.keyText (.text "name") = ".name" := rfl
  -- the message is cut where the text of the path has its keys
  have opening : " (already used at $.entities[" = " (already used at " ++ "$" ++ ".entities" ++ "[" := rfl
  have closing : "].name)" = "]" ++ ".name" ++ ")" := rfl
  cases fault with
  | duplicateEntity n i p =>
    cases h
    refine ⟨"Duplicate entity name " ++ Text.jsonString n, ?_⟩
    change "Duplicate entity name " ++ Text.jsonString n ++ " (already used at $.entities[" ++
      toString p ++ "].name)" = _
    simp only [Report.pathText, List.foldl, Report.keyText_nat, entities, name, opening, closing,
      String.append_assoc]
  | duplicateField n e i p =>
    cases h
    have middle : "].fields[" = "]" ++ ".fields" ++ "[" := rfl
    refine ⟨"Duplicate field name " ++ Text.jsonString n, ?_⟩
    change "Duplicate field name " ++ Text.jsonString n ++ " (already used at $.entities[" ++
      toString e ++ "].fields[" ++ toString p ++ "].name)" = _
    simp only [Report.pathText, List.foldl, Report.keyText_nat, entities, fields, name, opening, middle,
      closing, String.append_assoc]
  | unknownTarget => cases h

namespace Manifest

theorem validate_schemaViolation_iff {raw : Value} :
    (∃ e, validate raw = .error (.invalid e) ∧ e.code = "schema_violation") ↔
      ∃ issues, Schema.manifest.check raw = .ok (.error issues) := by
  cases h : Schema.manifest.output? raw with
  | none =>
    rw [validate_of_rejected h, Schema.check_eq Schema.total_manifest, h]
    exact ⟨fun _ => ⟨_, rfl⟩, fun _ => ⟨_, rfl, rfl⟩⟩
  | some taken =>
    have hcheck : ¬ ∃ issues, Schema.manifest.check raw = .ok (.error issues) := by
      simp [Schema.check_eq Schema.total_manifest, h]
    refine iff_of_false ?_ hcheck
    rintro ⟨e, he, hcode⟩
    cases hread : Manifest.ofValue taken with
    | error issues =>
      rw [validate_of_unread h hread] at he
      cases he
    | ok m =>
      cases hfault : m.nameFault? with
      | none =>
        rw [validate_of_named h hread hfault] at he
        cases he
      | some fault =>
        rw [validate_of_misnamed h hread hfault] at he
        cases he
        cases fault <;> simp [InvalidManifest.code] at hcode

/-- **Names.** A fault is found exactly when the names do not fit. It is the first of all violations
and is the one issue that is reported, under the violation's code and at the name in question; a
message about a repeated name quotes the first place of that name. What the schema does not take
over is reported by the schema alone. -/
theorem nameFault?_spec :
    (∀ m : Manifest, m.nameFault?.isSome ↔ ¬ (m.entities.map (·.name)).Nodup ∨
        (∃ e ∈ m.entities, ¬ (e.fields.map (·.name)).Nodup) ∨
        ∃ e ∈ m.entities, ∃ f ∈ e.fields, ∃ r, f.relation? = some r ∧
          r.relation.entity ∉ m.entities.map (·.name)) ∧
      (∀ (m : Manifest) fault, m.nameFault? = some fault → ∃ entity turn issue,
        (InvalidManifest.names fault).issues = [issue] ∧
          m.Violates fault entity turn (InvalidManifest.names fault).code issue.path ∧
          (∀ other entity' turn' code path, m.Violates other entity' turn' code path →
            other = fault ∨ entity < entity' ∨ entity = entity' ∧ turn < turn') ∧
          m.toValue.at? issue.path = some (.text fault.name) ∧
          ∀ earlier, fault.earlier? = some earlier →
            m.toValue.at? earlier = some (.text fault.name) ∧
              ∃ start, issue.message = start ++ " (already used at " ++ Report.pathText earlier ++ ")") ∧
      ∀ raw, (∃ e, validate raw = .error (.invalid e) ∧ e.code = "schema_violation") ↔
        ∃ issues, Schema.manifest.check raw = .ok (.error issues) := by
  refine ⟨fun m => ?_, fun m fault h => ?_, fun raw => validate_schemaViolation_iff⟩
  · rw [Option.isSome_iff_ne_none, ne_eq, nameFault?_eq_none_iff, NamesFit.not_iff]
  · obtain ⟨e, turn, code, path, hv, hfirst⟩ := violates_of_nameFault? h
    obtain ⟨hcode, hpath⟩ := hv.reported
    refine ⟨e, turn, fault.issue, rfl, ?_, fun other e' turn' code' path' hother => ?_, ?_,
      fun earlier hearlier => ⟨hv.at?_earlier hearlier, fault.message_of_earlier? hearlier⟩⟩
    · rw [hcode]
      exact hpath ▸ hv
    · rcases hfirst other e' turn' code' path' hother with hlt | ⟨rfl, hle⟩
      · exact Or.inr (Or.inl hlt)
      -- no two violations have the same turn
      · rcases Nat.lt_or_eq_of_le hle with hlt | rfl
        · exact Or.inr (Or.inr ⟨rfl, hlt⟩)
        · exact Or.inl (hother.unique hv)
    · exact hpath ▸ hv.at?_path

/-- The second entity's target comes behind it; its repeated field is found before the name of the
third entity, and a value without entities is wrong by the schema. -/
theorem nameFault?_spec_mixed :
    let info (name : String) : FieldInfo := ⟨name, .unset, .unset, .unset, .unset, none⟩
    let text (name : String) : Field := .scalar ⟨info name, .string⟩
    let owner : Field := .relation ⟨info "owner", ⟨"User", .unset, .one⟩⟩
    let lost : Field := .relation ⟨info "lost", ⟨"Nobody", .unset, .many⟩⟩
    let m : Manifest := ⟨"id", "name", "1", .unset, [⟨"Note", .unset, [text "a"]⟩,
      ⟨"Task", .unset, [owner, text "b", text "a", text "b", lost]⟩, ⟨"Note", .unset, []⟩,
      ⟨"User", .unset, []⟩], .unset⟩
    let fault : NameFault := .duplicateField "b" 1 3 1
    let raw : Value := .ofFields [("id", .text "")]
    m.nameFault? = some fault ∧
      (∃ issue, (InvalidManifest.names fault).issues = [issue] ∧
        m.Violates fault 1 7 "duplicate_field_name" issue.path ∧
        ∀ other e turn code path, m.Violates other e turn code path →
          other = fault ∨ 1 < e ∨ 1 = e ∧ 7 < turn) ∧
      ∃ e, validate raw = .error (.invalid e) ∧ e.code = "schema_violation" := by
  intro info text owner lost m fault raw
  have hfault : m.nameFault? = some fault := rfl
  obtain ⟨e, turn, issue, hissue, hv, hfirst, -, -⟩ := nameFault?_spec.2.1 m fault hfault
  obtain ⟨rfl, rfl⟩ : e = 1 ∧ turn = 7 := by
    change m.Violates (.duplicateField "b" 1 3 1) e turn _ issue.path at hv
    generalize issue.path = path at hv
    cases hv with
    | inEntity _ h =>
      cases h
      exact ⟨rfl, rfl⟩
  exact ⟨hfault, ⟨issue, hissue, hv, hfirst⟩, (nameFault?_spec.2.2 raw).mpr ⟨_, rfl⟩⟩

end Manifest

end Scaffold
