import Scaffold.Proofs.Schema.Simulation
import Scaffold.Proofs.Value.Entries

/-!
# Where issues point

The path of an issue leads from the value in hand to the part the issue is
about (`Issue.PointsInto`). A record holds its keys against a schema too, and
what is wrong inside a key is reported under that key: there the path goes on
in the key and not in the value. Only a schema that looks into keys has such
issues (`check_issues_pointInto`).
-/

namespace Scaffold

inductive Value.Holds : Value → Value → Value → Prop
  | entry {es : Entries} {k x : Value} (h : (k, x) ∈ es) : Holds (.map es) k x
  | item {v x : Value} {xs : List Value} {i : Nat} (hv : v.items? = some xs) (hx : xs[i]? = some x) :
      Holds v (.int i) x

namespace Issue

/-- Every key of the path is found where the keys before it lead, save a last one that is reported
as missing. With `intoKeys`, the path may go on inside a key of a mapping. The messages in `own`
may be about a part that is there, whatever they say. -/
inductive PointsInto (intoKeys : Prop) (own : List String) : Value → Path → String → Prop
  | here {v : Value} {message : String} (h : message = "Missing required property" → message ∈ own) :
      PointsInto intoKeys own v [] message
  | absent {es : Entries} {key : String} (h : es.getText? key = none) :
      PointsInto intoKeys own (.map es) [.text key] "Missing required property"
  | held {v k x : Value} {path : Path} {message : String} (h : v.Holds k x)
      (hx : PointsInto intoKeys own x path message) : PointsInto intoKeys own v (k :: path) message
  | inKey {es : Entries} {k x : Value} {path : Path} {message : String} (hi : intoKeys)
      (h : (k, x) ∈ es) (hp : path ≠ []) (hk : PointsInto intoKeys own k path message) :
      PointsInto intoKeys own (.map es) (k :: path) message

theorem path_of_mem_here {message : String} {i : Issue} (hi : i ∈ here message) : i.path = [] := by
  rw [here, List.mem_singleton] at hi
  rw [hi]

theorem expected_ne_missing (written : String) : "Expected " ++ written ≠ "Missing required property" := by
  intro h
  have := congrArg String.toList h
  simp at this

namespace PointsInto

variable {intoKeys intoKeys' : Prop} {own own' : List String} {v : Value} {path : Path} {message : String}

theorem mono (h : PointsInto intoKeys own v path message) (hi : intoKeys → intoKeys')
    (hs : own ⊆ own') : PointsInto intoKeys' own' v path message := by
  induction h with
  | here h => exact .here fun hm => hs (h hm)
  | absent h => exact .absent h
  | held h _ ih => exact .held h ih
  | inKey hk h hp _ ih => exact .inKey (hi hk) h hp ih

theorem of_mem_here {i : Issue} (hm : message ≠ "Missing required property") (hi : i ∈ Issue.here message) :
    PointsInto intoKeys own v i.path i.message := by
  rw [Issue.here, List.mem_singleton] at hi
  subst hi
  exact .here fun h => absurd h hm

theorem of_key {es : Entries} {k x : Value} (he : (k, x) ∈ es)
    (h : PointsInto intoKeys own k path message) (hp : path ≠ [] → intoKeys')
    (hi : intoKeys → intoKeys') (hs : own ⊆ own') :
    PointsInto intoKeys' own' (.map es) (k :: path) message := by
  cases path with
  | nil =>
    cases h with
    | here hm => exact .held (.entry he) (.here fun h => hs (hm h))
  | cons key rest =>
    have hne := List.cons_ne_nil key rest
    exact .inKey (hp hne) he hne (h.mono hi hs)

end PointsInto

/-! ## Issues of parts -/

theorem mem_ofItems {found : Value → List Issue} {i : Issue} : ∀ {xs : List Value} {index : Nat},
    i ∈ ofItems found index xs →
      ∃ j x, xs[j]? = some x ∧ ∃ i' ∈ found x, i = below [.int (index + j : Nat)] i'
  | [], _, h => by
    simp [ofItems] at h
  | x :: xs, index, h => by
    rw [ofItems, List.mem_append, List.mem_map] at h
    rcases h with ⟨i', hi', rfl⟩ | h
    · exact ⟨0, x, rfl, i', hi', rfl⟩
    · obtain ⟨j, y, hy, i', hi', rfl⟩ := mem_ofItems h
      refine ⟨j + 1, y, hy, i', hi', ?_⟩
      rw [show index + 1 + j = index + (j + 1) by omega]

theorem mem_ofEntries {foundKey foundValue : Value → List Issue} {es : Entries} {i : Issue}
    (h : i ∈ ofEntries foundKey foundValue es) :
    ∃ k x, (k, x) ∈ es ∧ ∃ i', (i' ∈ foundKey k ∨ i' ∈ foundValue x) ∧ i = below [k] i' := by
  simp only [ofEntries, List.mem_flatMap, List.mem_map, List.mem_append] at h
  obtain ⟨⟨k, x⟩, he, i', hi', rfl⟩ := h
  exact ⟨k, x, he, i', hi', rfl⟩

theorem mem_ofAlternatives {lists : List (List Issue)} {i : Issue} (h : i ∈ ofAlternatives lists) :
    i ∈ here "Value does not match any union variant" ∨ ∃ list ∈ lists, i ∈ list := by
  unfold ofAlternatives at h
  split at h
  · exact Or.inl h
  · unfold longest at h
    cases hbest : lists.argmax List.length with
    | none =>
      rw [hbest] at h
      cases h
    | some best =>
      rw [hbest] at h
      exact Or.inr ⟨best, List.argmax_mem hbest, h⟩

theorem mem_ofRefinements {refinements : List Refinement} {w : Value} {i : Issue}
    (h : i ∈ ofRefinements refinements w) : ∃ r ∈ refinements, i ∈ here r.message := by
  unfold ofRefinements at h
  split at h
  · rename_i r hr
    exact ⟨r, List.mem_of_find?_eq_some hr, h⟩
  · cases h

end Issue

namespace Schema

theorem mem_issuesShape {i : Issue} {es : Entries} : ∀ {shape : List (String × Schema)},
    i ∈ issuesShape shape es → ∃ p ∈ shape,
      es.getText? p.1 = none ∧ i = ⟨"Missing required property", [.text p.1]⟩ ∨
        ∃ v, es.getText? p.1 = some v ∧ ∃ i' ∈ p.2.issues v, i = Issue.below [.text p.1] i'
  | [], h => by
    cases h
  | (key, schema) :: shape, h => by
    rw [issuesShape, List.mem_append] at h
    rcases h with h | h
    · refine ⟨(key, schema), List.mem_cons_self, ?_⟩
      split at h
      · rename_i hget
        split at h
        · cases h
        · exact Or.inl ⟨hget, List.mem_singleton.mp h⟩
      · rename_i v hget
        obtain ⟨i', hi', rfl⟩ := List.mem_map.mp h
        exact Or.inr ⟨v, hget, i', hi', rfl⟩
    · obtain ⟨p, hp, h⟩ := mem_issuesShape h
      exact ⟨p, List.mem_cons_of_mem _ hp, h⟩

theorem issuesEach_eq_map (v : Value) : ∀ (alternatives : List Schema),
    issuesEach alternatives v = alternatives.map (·.issues v)
  | [] => rfl
  | schema :: rest => by rw [issuesEach, issuesEach_eq_map v rest, List.map_cons]

/-! ## Parts of a schema -/

mutual

def parts : Schema → List Schema
  | .array item => .array item :: parts item
  | .record key value => .record key value :: (parts key ++ parts value)
  | .object shape => .object shape :: partsOfShape shape
  | .union alternatives => .union alternatives :: partsOfEach alternatives
  | .optional inner => .optional inner :: parts inner
  | .refined inner refinements => .refined inner refinements :: parts inner
  | schema => [schema]

def partsOfShape : List (String × Schema) → List Schema
  | [] => []
  | (_, schema) :: shape => parts schema ++ partsOfShape shape

def partsOfEach : List Schema → List Schema
  | [] => []
  | schema :: rest => parts schema ++ partsOfEach rest

end

def isContainer : Schema → Bool
  | .array _ | .record _ _ | .object _ => true
  | _ => false

def isLeaf : Schema → Bool
  | .text | .truth | .anything | .literal _ | .undefined => true
  | _ => false

def messages (schema : Schema) : List String :=
  schema.parts.flatMap fun
    | .refined _ refinements => refinements.map Refinement.message
    | _ => []

/-- Whether some record in a schema is about the parts of its keys. -/
def looksIntoKeys (schema : Schema) : Bool :=
  schema.parts.any fun
    | .record key _ => key.parts.any isContainer
    | _ => false

theorem parts_subset_shape {p : String × Schema} : ∀ {shape : List (String × Schema)}, p ∈ shape →
    p.2.parts ⊆ partsOfShape shape
  | q :: shape, h => by
    obtain ⟨key, schema⟩ := q
    rw [partsOfShape]
    rcases List.mem_cons.mp h with rfl | h
    · exact List.subset_append_left _ _
    · exact List.subset_append_of_subset_right _ (parts_subset_shape h)

theorem parts_subset_each {s : Schema} : ∀ {alternatives : List Schema}, s ∈ alternatives →
    s.parts ⊆ partsOfEach alternatives
  | schema :: rest, h => by
    rw [partsOfEach]
    rcases List.mem_cons.mp h with rfl | h
    · exact List.subset_append_left _ _
    · exact List.subset_append_of_subset_right _ (parts_subset_each h)

theorem messages_subset {s t : Schema} (h : s.parts ⊆ t.parts) : s.messages ⊆ t.messages := by
  intro message hm
  obtain ⟨part, hp, hm⟩ := List.mem_flatMap.mp hm
  exact List.mem_flatMap.mpr ⟨part, h hp, hm⟩

theorem looksIntoKeys_mono {s t : Schema} (h : s.parts ⊆ t.parts) (hs : s.looksIntoKeys) :
    t.looksIntoKeys := by
  obtain ⟨part, hp, hk⟩ := List.any_eq_true.mp hs
  exact List.any_eq_true.mpr ⟨part, h hp, hk⟩

theorem self_mem_parts (schema : Schema) : schema ∈ schema.parts := by
  cases schema <;> simp [parts]

/-! ## Issues point into the value -/

theorem mem_issues_of_leaf {schema : Schema} (hs : schema.isLeaf) {v : Value} {i : Issue}
    (hi : i ∈ schema.issues v) :
    ∃ message, message ≠ "Missing required property" ∧ i ∈ Issue.here message := by
  cases schema with
  | text =>
    simp only [issues] at hi
    split at hi
    · cases hi
    · exact ⟨_, by decide, hi⟩
  | truth =>
    simp only [issues] at hi
    split at hi
    · cases hi
    · exact ⟨_, by decide, hi⟩
  | literal expected =>
    simp only [issues] at hi
    split at hi
    · cases hi
    · split at hi
      · exact ⟨_, Issue.expected_ne_missing _, hi⟩
      · cases hi
  | anything | undefined => cases hi
  | array | record | object | union | optional | refined => cases hs

/-- A schema with no part about the parts of a value has no issue with one. -/
theorem path_eq_nil {schema : Schema} (h : ∀ p ∈ schema.parts, p.isContainer = false) {v : Value}
    {i : Issue} (hi : i ∈ schema.issues v) : i.path = [] := by
  -- only a container puts keys in front of a path, and the schema is one of its own parts
  have hself := h schema (self_mem_parts schema)
  induction schema with
  | text | truth | anything | literal | undefined =>
    obtain ⟨_, -, hi⟩ := mem_issues_of_leaf rfl hi
    exact Issue.path_of_mem_here hi
  | union alternatives ih =>
    simp only [issues] at hi
    split at hi
    · cases hi
    · rcases Issue.mem_ofAlternatives hi with hi | ⟨list, hl, hi⟩
      · exact Issue.path_of_mem_here hi
      · rw [issuesEach_eq_map] at hl
        obtain ⟨s, hs, rfl⟩ := List.mem_map.mp hl
        have hparts : ∀ p ∈ s.parts, p.isContainer = false := fun p hp =>
          h p (List.mem_cons_of_mem _ (parts_subset_each hs hp))
        exact ih s hs hparts hi (hparts s (self_mem_parts s))
  | optional inner ih =>
    have hparts : ∀ p ∈ inner.parts, p.isContainer = false := fun p hp => h p (List.mem_cons_of_mem _ hp)
    simp only [issues] at hi
    split at hi
    · cases hi
    · exact ih hparts hi (hparts inner (self_mem_parts inner))
  | refined inner refinements ih =>
    have hparts : ∀ p ∈ inner.parts, p.isContainer = false := fun p hp => h p (List.mem_cons_of_mem _ hp)
    simp only [issues] at hi
    split at hi
    · exact ih hparts hi (hparts inner (self_mem_parts inner))
    · obtain ⟨r, -, hi⟩ := Issue.mem_ofRefinements hi
      exact Issue.path_of_mem_here hi
  | array | record | object => cases hself

/-- Every issue points into the value, and only those of a schema that looks into keys may point
into a key. -/
theorem issues_pointInto (schema : Schema) : ∀ {v : Value} {i : Issue}, i ∈ schema.issues v →
    Issue.PointsInto schema.looksIntoKeys schema.messages v i.path i.message := by
  induction schema with
  | text | truth | anything | literal | undefined =>
    intro v i hi
    obtain ⟨_, hm, hi⟩ := mem_issues_of_leaf rfl hi
    exact .of_mem_here hm hi
  | array item ih =>
    intro v i hi
    have hparts : item.parts ⊆ (array item).parts := List.subset_cons_self _ _
    simp only [issues] at hi
    split at hi
    · exact .of_mem_here (by decide) hi
    · rename_i xs hv
      obtain ⟨j, x, hx, i', hi', rfl⟩ := Issue.mem_ofItems hi
      rw [Nat.zero_add]
      exact .held (.item hv hx) ((ih hi').mono (looksIntoKeys_mono hparts) (messages_subset hparts))
  | record key value hkey hvalue =>
    intro v i hi
    have hparts : key.parts ++ value.parts ⊆ (record key value).parts := List.subset_cons_self _ _
    have hkeys := (List.append_subset.mp hparts).1
    have hvalues := (List.append_subset.mp hparts).2
    simp only [issues] at hi
    split at hi
    · exact .of_mem_here (by decide) hi
    · rename_i es hv
      rw [Value.entries?_eq_some_iff] at hv
      subst hv
      obtain ⟨k, x, he, i', hi', rfl⟩ := Issue.mem_ofEntries hi
      rcases hi' with hi' | hi'
      · refine (hkey hi').of_key he (fun hp => ?_) (looksIntoKeys_mono hkeys) (messages_subset hkeys)
        -- with an issue inside a key, the key's schema has a part about parts
        by_contra hnone
        refine hp (path_eq_nil (fun p hp => ?_) hi')
        rw [Bool.eq_false_iff]
        intro hc
        exact hnone (List.any_eq_true.mpr ⟨_, self_mem_parts _, List.any_eq_true.mpr ⟨p, hp, hc⟩⟩)
      · exact .held (.entry he)
          ((hvalue hi').mono (looksIntoKeys_mono hvalues) (messages_subset hvalues))
  | object shape ih =>
    intro v i hi
    simp only [issues] at hi
    split at hi
    · exact .of_mem_here (by decide) hi
    · rename_i es hv
      rw [Value.entries?_eq_some_iff] at hv
      subst hv
      obtain ⟨p, hp, ⟨hget, rfl⟩ | ⟨x, hget, i', hi', rfl⟩⟩ := mem_issuesShape hi
      · exact .absent hget
      · have hparts : p.2.parts ⊆ (object shape).parts :=
          List.subset_cons_of_subset _ (parts_subset_shape hp)
        exact .held (.entry (Entries.mem_text_of_getText? hget))
          ((ih p hp hi').mono (looksIntoKeys_mono hparts) (messages_subset hparts))
  | union alternatives ih =>
    intro v i hi
    simp only [issues] at hi
    split at hi
    · cases hi
    · rcases Issue.mem_ofAlternatives hi with hi | ⟨list, hl, hi⟩
      · exact .of_mem_here (by decide) hi
      · rw [issuesEach_eq_map] at hl
        obtain ⟨s, hs, rfl⟩ := List.mem_map.mp hl
        have hparts : s.parts ⊆ (union alternatives).parts :=
          List.subset_cons_of_subset _ (parts_subset_each hs)
        exact (ih s hs hi).mono (looksIntoKeys_mono hparts) (messages_subset hparts)
  | optional inner ih =>
    intro v i hi
    have hparts : inner.parts ⊆ (optional inner).parts := List.subset_cons_self _ _
    simp only [issues] at hi
    split at hi
    · cases hi
    · exact (ih hi).mono (looksIntoKeys_mono hparts) (messages_subset hparts)
  | refined inner refinements ih =>
    intro v i hi
    have hparts : inner.parts ⊆ (refined inner refinements).parts := List.subset_cons_self _ _
    simp only [issues] at hi
    split at hi
    · exact (ih hi).mono (looksIntoKeys_mono hparts) (messages_subset hparts)
    · obtain ⟨r, hr, hi⟩ := Issue.mem_ofRefinements hi
      rw [Issue.here, List.mem_singleton] at hi
      subst hi
      refine .here fun _ => List.mem_flatMap.mpr ⟨_, self_mem_parts _, ?_⟩
      exact List.mem_map_of_mem hr

/-- **Places.** The path of every issue that a check reports leads into the value, unless it ends
with the property that is missing; and it goes into no key, unless the schema does. -/
theorem check_issues_pointInto {schema : Schema} {v : Value} {issues : List Issue}
    (h : schema.check v = .ok (.error issues)) : ∀ i ∈ issues,
      Issue.PointsInto schema.looksIntoKeys schema.messages v i.path i.message := by
  intro i hi
  unfold check at h
  split at h
  · cases h
  · cases h
  · rename_i c hw
    simp only [Except.ok.injEq, Except.error.injEq] at h
    have hissues := (walk_adds_issues hw).2
    rw [h, Context.empty, Issue.below_nil, List.map_id, List.nil_append] at hissues
    rw [hissues] at hi
    exact issues_pointInto schema hi

/-- Parts of one of two alternatives, a property missing in an entry, and a key and what is under
it. -/
theorem check_issues_pointInto_nested :
    let schema := object [("a", .union [.literal (.text "x"), .array .truth]),
      ("m", .record .text (.object [("k", .text)]))]
    let v := Value.map [(.text "a", .list [.int 1, .bool true, .null]),
      (.text "m", .map [(.text "p", .map []), (.int 3, .map [(.text "k", .null)])])]
    let issues : List Issue := [⟨"Expected a boolean", [.text "a", .int 0]⟩,
      ⟨"Expected a boolean", [.text "a", .int 2]⟩,
      ⟨"Missing required property", [.text "m", .text "p", .text "k"]⟩,
      ⟨"Expected a string", [.text "m", .int 3]⟩,
      ⟨"Expected a string", [.text "m", .int 3, .text "k"]⟩]
    schema.check v = .ok (.error issues) ∧ ¬ schema.looksIntoKeys ∧ schema.messages = [] ∧
      ∀ i ∈ issues, Issue.PointsInto schema.looksIntoKeys schema.messages v i.path i.message := by
  intro schema v issues
  have h : schema.check v = .ok (.error issues) := rfl
  exact ⟨h, Bool.false_ne_true, rfl, check_issues_pointInto h⟩

/-- What is wrong inside a key leads to nothing: the path asks for a part of what is under it. -/
theorem check_points_into_key :
    let v := Value.map [(.tuple [.int 1], .int 5)]
    (record (array text) anything).check v =
        .ok (.error [⟨"Expected a string", [.tuple [.int 1], .int 0]⟩]) ∧
      ¬ Issue.PointsInto False [] v [.tuple [.int 1], .int 0] "Expected a string" := by
  refine ⟨rfl, fun h => ?_⟩
  cases h with
  | inKey hi => exact hi
  | held h hx =>
    cases h with
    | entry he =>
      obtain ⟨-, rfl⟩ := Prod.mk.inj (List.mem_singleton.mp he)
      cases hx with
      | held h =>
        cases h with
        | item hv => cases hv

end Schema

end Scaffold
