import Scaffold.Proofs.Manifest.Validation
import Scaffold.Proofs.Schema.Places

/-!
# The issues of a rejected field

A field that is neither a relation nor a scalar field is reported by the
alternative with more issues. The two share all attributes but two, and the
kind of a scalar field comes up with one issue at most; so the scalar
alternative has more only for the relation kind with a relation that is
accepted, where the other one has no issue but those of the shared attributes
(`Schema.check_field_rejected`).
-/

namespace Scaffold

namespace Issue

theorem ofAlternatives_pair {found other : List Issue} (h : found ≠ []) :
    ofAlternatives [found, other] = if found.length < other.length then other else found := by
  have hlongest : longest [found, other] = if found.length < other.length then other else found := by
    have hconcat := longest_concat [found] other
    rwa [show longest [found] = found from rfl] at hconcat
  have hne : (if found.length < other.length then other else found) ≠ [] := by
    split
    · rename_i hlt
      exact List.ne_nil_of_length_pos (Nat.lt_of_le_of_lt (Nat.zero_le _) hlt)
    · exact h
  rw [ofAlternatives, hlongest, if_neg (by simpa using hne)]

theorem length_ofAlternatives_le {lists : List (List Issue)} (h : ∀ list ∈ lists, list.length ≤ 1) :
    (ofAlternatives lists).length ≤ 1 := by
  unfold ofAlternatives
  split
  · exact Nat.le_refl 1
  · unfold longest
    cases hbest : lists.argmax List.length with
    | none => exact Nat.zero_le 1
    | some best => exact h best (List.argmax_mem hbest)

end Issue

namespace Schema

/-! ## Issues of single properties -/

theorem issues_eq_nil_iff {schema : Schema} (ht : Total schema.walk) (v : Value) :
    schema.issues v = [] ↔ (schema.output? v).isSome := by
  obtain ⟨r, c, h⟩ := ht v .empty
  rw [(walk_agrees schema h).2.2, List.isEmpty_iff]

theorem check_eq_error_iff {schema : Schema} (ht : Total schema.walk) {v : Value} {found : List Issue} :
    schema.check v = .ok (.error found) ↔ schema.output? v = none ∧ schema.issues v = found := by
  rw [check_eq ht]
  cases schema.output? v <;> simp

theorem check_eq_ok_iff {schema : Schema} (ht : Total schema.walk) {v taken : Value} :
    schema.check v = .ok (.ok taken) ↔ schema.output? v = some taken := by
  rw [check_eq ht]
  cases schema.output? v <;> simp

theorem issuesShape_append (es : Entries) : ∀ shape shape' : List (String × Schema),
    issuesShape (shape ++ shape') es = issuesShape shape es ++ issuesShape shape' es
  | [], _ => rfl
  | (key, schema) :: shape, shape' => by
    rw [List.cons_append, issuesShape, issuesShape_append es shape shape', issuesShape, List.append_assoc]

/-- What a property comes up with on its own is found among the issues of every object that has it. -/
theorem issues_object_sublist {p : String × Schema} {shape : List (String × Schema)} (h : p ∈ shape) (v : Value) :
    ((object [p]).issues v).Sublist ((object shape).issues v) := by
  rw [issues, issues]
  cases v.entries? with
  | none => exact List.Sublist.refl _
  | some es =>
    obtain ⟨before, behind, rfl⟩ := List.append_of_mem h
    change (issuesShape [p] es).Sublist (issuesShape (before ++ ([p] ++ behind)) es)
    rw [issuesShape_append, issuesShape_append]
    exact (List.sublist_append_left _ _).trans (List.sublist_append_right _ _)

theorem issuesShape_singleton_eq_nil_iff {key : String} {schema : Schema} (ht : Total schema.walk) (es : Entries) :
    issuesShape [(key, schema)] es = [] ↔ schema.admits (es.getText? key) := by
  simp only [issuesShape, List.append_nil]
  cases es.getText? key with
  | none => cases ho : schema.isOptional <;> simp [admits, ho]
  | some v => simp [admits, issues_eq_nil_iff ht]

/-! ## Kinds and relations -/

theorem length_issues_literal_le (expected v : Value) : ((literal expected).issues v).length ≤ 1 := by
  rw [issues]
  split
  · exact Nat.zero_le 1
  · split
    · exact Nat.le_refl 1
    · exact Nat.zero_le 1

theorem length_issues_scalarKind_le (v : Value) : (scalarKind.issues v).length ≤ 1 := by
  rw [scalarKind, issues]
  split
  · exact Nat.zero_le 1
  · refine Issue.length_ofAlternatives_le fun list hlist => ?_
    rw [issuesEach_eq_map, List.map_map] at hlist
    obtain ⟨k, -, rfl⟩ := List.mem_map.mp hlist
    exact length_issues_literal_le _ v

theorem length_issuesShape_kind_le (es : Entries) : (issuesShape [("kind", scalarKind)] es).length ≤ 1 := by
  simp only [issuesShape, List.append_nil]
  cases es.getText? "kind" with
  | none => exact Nat.le_refl 1
  | some v =>
    rw [List.length_map]
    exact length_issues_scalarKind_le v

theorem total_scalarKind : Total scalarKind.walk := total_literals _ _

theorem not_admits_scalarKind_relation : ¬ scalarKind.admits (some (.text relationKindName)) := by decide

def HasAcceptedRelation (v : Value) : Prop :=
  v.field? "kind" = some (.text relationKindName) ∧
    ∃ w taken, v.field? "relation" = some w ∧ relation.check w = .ok (.ok taken)

theorem hasAcceptedRelation_map_iff (es : Entries) : HasAcceptedRelation (.map es) ↔
    issuesShape [("kind", .literal (.text relationKindName))] es = [] ∧
      issuesShape [("relation", relation)] es = [] := by
  rw [issuesShape_singleton_eq_nil_iff (total_literal rfl), issuesShape_singleton_eq_nil_iff total_relation,
    admits_literal_text, HasAcceptedRelation]
  refine and_congr Iff.rfl ?_
  simp only [Value.field?_map, check_eq_ok_iff total_relation]
  cases es.getText? "relation" with
  | none => simp [admits, relation, isOptional]
  | some w => simp [admits, Option.isSome_iff_exists]

/-! ## The alternative that is reported -/

theorem issues_relationField (es : Entries) : relationField.issues (.map es) =
    issuesShape [("name", nonEmptyText)] es ++ issuesShape [("kind", .literal (.text relationKindName))] es ++
      issuesShape [("relation", relation)] es ++ issuesShape fieldAttributes es := by
  simp only [← issuesShape_append]
  rfl

theorem issues_scalarField (es : Entries) : scalarField.issues (.map es) =
    issuesShape [("name", nonEmptyText)] es ++ issuesShape [("kind", scalarKind)] es ++
      issuesShape fieldAttributes es := by
  simp only [← issuesShape_append]
  rfl

/-- The scalar alternative comes up with more issues exactly when the other one has nothing to say on
kind and relation. -/
theorem length_issues_lt_iff (v : Value) :
    (relationField.issues v).length < (scalarField.issues v).length ↔ HasAcceptedRelation v := by
  cases v with
  | map es =>
    have hkind := length_issuesShape_kind_le es
    rw [hasAcceptedRelation_map_iff, issues_relationField, issues_scalarField]
    simp only [List.length_append, ← List.length_eq_zero_iff]
    constructor
    · intro h
      omega
    · intro h
      have hrelation := (issuesShape_singleton_eq_nil_iff (total_literal rfl) es).mp (List.length_eq_zero_iff.mp h.1)
      have hpos : issuesShape [("kind", scalarKind)] es ≠ [] := by
        rw [ne_eq, issuesShape_singleton_eq_nil_iff total_scalarKind, admits_literal_text.mp hrelation]
        exact not_admits_scalarKind_relation
      have := List.length_pos_of_ne_nil hpos
      omega
  | _ => exact iff_of_false (Nat.lt_irrefl 1) fun h => by cases h.1

theorem rejected_of_field {v : Value} (h : field.output? v = none) :
    relationField.output? v = none ∧ scalarField.output? v = none := by
  have hboth : (relationField.output? v).or ((scalarField.output? v).or none) = none := h
  simpa using hboth

theorem issues_field {v : Value} (h : field.output? v = none) : field.issues v =
    if (relationField.issues v).length < (scalarField.issues v).length then scalarField.issues v
    else relationField.issues v := by
  have hne : relationField.issues v ≠ [] := by
    rw [ne_eq, issues_eq_nil_iff total_relationField, (rejected_of_field h).1]
    decide
  have hnone : (outputFirst? [relationField, scalarField] v).isSome = false := by
    rw [Option.isSome_eq_false_iff, Option.isNone_iff_eq_none]
    exact h
  rw [field, issues, hnone, if_neg Bool.false_ne_true]
  exact Issue.ofAlternatives_pair hne

theorem total_info : ∀ p ∈ info, Total (object [p]).walk := by
  intro p hp
  refine total_object (List.forall_mem_singleton.mpr ?_)
  rcases List.mem_cons.mp hp with rfl | hp
  · exact total_nonEmptyText
  · exact total_fieldAttributes p hp

theorem issues_info_sublist {p : String × Schema} (hp : p ∈ info) (v : Value) :
    ((object [p]).issues v).Sublist (relationField.issues v) ∧
      ((object [p]).issues v).Sublist (scalarField.issues v) := by
  rcases List.mem_cons.mp hp with rfl | hp
  · exact ⟨issues_object_sublist List.mem_cons_self v, issues_object_sublist List.mem_cons_self v⟩
  · exact ⟨issues_object_sublist (List.mem_append_right _ hp) v,
      issues_object_sublist (List.mem_append_right _ hp) v⟩

theorem total_relationProperty : Total (object [("relation", relation)]).walk := by
  refine total_object (List.forall_mem_singleton.mpr ?_)
  exact total_relation

/-- An accepted relation comes up with nothing, so that there is no issue to lose. -/
theorem not_hasAcceptedRelation {v : Value} (h : (object [("relation", relation)]).output? v = none) :
    ¬ HasAcceptedRelation v := by
  intro ha
  cases v with
  | map es =>
    have hnil : (object [("relation", relation)]).issues (.map es) = [] := ((hasAcceptedRelation_map_iff es).mp ha).2
    rw [issues_eq_nil_iff total_relationProperty, h] at hnil
    cases hnil
  | _ => cases ha.1

/-- **Rejected fields.** A rejected field is reported as a scalar field if it is of the relation kind with
an accepted relation, and as a relation field otherwise. No issue that an attribute comes up with on its
own is lost, be it one that all fields may have or the relation, which a field of any kind may have. -/
theorem check_field_rejected {v : Value} {found : List Issue} (h : field.check v = .ok (.error found)) :
    (HasAcceptedRelation v → scalarField.check v = .ok (.error found)) ∧
      (¬ HasAcceptedRelation v → relationField.check v = .ok (.error found)) ∧
      (∀ p ∈ info, ∀ own, (object [p]).check v = .ok (.error own) → own.Sublist found) ∧
      ∀ own, (object [("relation", relation)]).check v = .ok (.error own) → own.Sublist found := by
  obtain ⟨hout, hfound⟩ := (check_eq_error_iff total_field).mp h
  obtain ⟨hrelation, hscalar⟩ := rejected_of_field hout
  rw [issues_field hout] at hfound
  have scalar (ha : HasAcceptedRelation v) : scalarField.issues v = found := by
    rw [← hfound, if_pos ((length_issues_lt_iff v).mpr ha)]
  have relational (ha : ¬ HasAcceptedRelation v) : relationField.issues v = found := by
    rw [← hfound, if_neg fun hlt => ha ((length_issues_lt_iff v).mp hlt)]
  refine ⟨fun ha => (check_eq_error_iff total_scalarField).mpr ⟨hscalar, scalar ha⟩,
    fun ha => (check_eq_error_iff total_relationField).mpr ⟨hrelation, relational ha⟩, ?_, ?_⟩
  · intro p hp own hown
    obtain ⟨-, rfl⟩ := (check_eq_error_iff (total_info p hp)).mp hown
    by_cases ha : HasAcceptedRelation v
    · exact scalar ha ▸ (issues_info_sublist hp v).2
    · exact relational ha ▸ (issues_info_sublist hp v).1
  · intro own hown
    obtain ⟨hnone, rfl⟩ := (check_eq_error_iff total_relationProperty).mp hown
    rw [← relational (not_hasAcceptedRelation hnone)]
    exact issues_object_sublist (by simp) v

/-- A relation field with a flag that is none and three faults in its relation. -/
theorem check_field_rejected_relation :
    let target : Value := .ofFields [("entity", .text ""), ("field", .int 3), ("type", .text "some")]
    let v : Value := .ofFields [("name", .text "owner"), ("kind", .text "relation"), ("unique", .text "yes"),
      ("relation", target)]
    ∃ found, field.check v = .ok (.error found) ∧ relationField.check v = .ok (.error found) ∧
      [(⟨"Expected a boolean", [.text "unique"]⟩ : Issue)].Sublist found ∧
      [(⟨"Expected a non-empty string", [.text "relation", .text "entity"]⟩ : Issue),
        ⟨"Expected a string", [.text "relation", .text "field"]⟩,
        ⟨"Expected \"one\"", [.text "relation", .text "type"]⟩].Sublist found := by
  intro target v
  obtain ⟨found, h⟩ : ∃ found, field.check v = .ok (.error found) := ⟨_, rfl⟩
  obtain ⟨-, relational, attributes, target⟩ := check_field_rejected h
  refine ⟨found, h, relational ?_, attributes ("unique", .optional .truth) (by simp [info, fieldAttributes]) _ rfl,
    target _ rfl⟩
  rintro ⟨-, w, taken, hw, htaken⟩
  cases hw
  cases htaken

end Schema

end Scaffold
