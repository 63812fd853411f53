import Scaffold.Proofs.Schema.Meaning

/-!
# Walks follow the meaning

A walk that comes to an end gives the output its schema means, restores the
path and adds exactly the schema's issues below it (`walk_agrees`). Containers
judge by the growth of the list and unions by the verdict, so the induction
carries a third fact: a value is accepted exactly when it has no issues.
-/

namespace Scaffold

namespace Context

def add (c : Context) (found : List Issue) : Context := c.addIssues (found.map (Issue.below c.path))

@[simp] theorem add_issues (c : Context) (found : List Issue) :
    (c.add found).issues = c.issues ++ found.map (Issue.below c.path) := rfl

@[simp] theorem add_nil (c : Context) : c.add [] = c := by
  simp [add, addIssues]

theorem add_add (c : Context) (found more : List Issue) :
    (c.add found).add more = c.add (found ++ more) := by
  simp [add, addIssues]

theorem report_eq (c : Context) (message : String) : c.report message = c.add (Issue.here message) := by
  simp [report, reportAt, add, addIssues, Issue.here, Issue.below]

theorem reportAt_key (c : Context) (message : String) (key : Value) :
    c.reportAt message (c.path ++ [key]) = c.add [⟨message, [key]⟩] := by
  simp [reportAt, add, addIssues, Issue.below]

theorem pop_add_push (c : Context) (key : Value) (found : List Issue) :
    ((c.push key).add found).pop = c.add (found.map (Issue.below [key])) := by
  simp [push, pop, add, addIssues, Issue.below]

end Context

namespace Schema

/-! ## Steps of a walk -/

theorem andThen_eq_ok {α β : Type} {w : Walked α} {next : α → Context → Walked β} {b : β}
    {c' : Context} (h : andThen w next = (.ok b, c')) :
    ∃ a c, w = (.ok a, c) ∧ next a c = (.ok b, c') := by
  obtain ⟨r, c⟩ := w
  cases r with
  | ok a => exact ⟨a, c, rfl, h⟩
  | error e => simp [andThen] at h

/-- The walk of a schema agrees with an output and with issues that are found without a context. -/
def Agrees (walk : Walker) (out : Value → Option Value) (found : Value → List Issue) : Prop :=
  ∀ ⦃v c r c'⦄, walk v c = (.ok r, c') →
    r = out v ∧ c' = c.add (found v) ∧ (out v).isSome = (found v).isEmpty

theorem accept_eq_ok {w : Value} {c c' : Context} {r : Verdict} (h : accept w c = (.ok r, c')) :
    r = some w ∧ c' = c := by
  simp only [accept, Prod.mk.injEq, Except.ok.injEq] at h
  exact ⟨h.1.symm, h.2.symm⟩

theorem reject_eq_ok {message : String} {c c' : Context} {r : Verdict}
    (h : reject message c = (.ok r, c')) : r = none ∧ c' = c.add (Issue.here message) := by
  simp only [reject, Prod.mk.injEq, Except.ok.injEq, Context.report_eq] at h
  exact ⟨h.1.symm, h.2.symm⟩

/-- A container is accepted when its walk found nothing. -/
theorem settle_eq_ok {gathered : Value} {found : List Issue} {c c' : Context} {r : Verdict}
    (h : settle c.issues.length gathered (c.add found) = (.ok r, c')) :
    r = (if found.isEmpty then some gathered else none) ∧ c' = c.add found := by
  unfold settle at h
  split at h
  · rename_i hlt
    have hne : found.isEmpty = false := by
      cases found <;> simp at hlt ⊢
    simp only [Prod.mk.injEq, Except.ok.injEq] at h
    simp [hne, ← h.1, ← h.2]
  · rename_i hlt
    have he : found.isEmpty = true := by
      cases found <;> simp at hlt ⊢
    obtain ⟨rfl, rfl⟩ := accept_eq_ok h
    simp [he]

/-! ## Lists, mappings and unions -/

section
variable {walk : Walker} {out : Value → Option Value} {found : Value → List Issue}

theorem walkItems_eq_ok (hw : Agrees walk out found) : ∀ {xs : List Value} {index : Nat}
    {c c' : Context} {ys : List Value}, walkItems walk index xs c = (.ok ys, c') →
      c' = c.add (Issue.ofItems found index xs) ∧
        xs.mapM out = if (Issue.ofItems found index xs).isEmpty then some ys else none
  | [], index, c, c', ys, h => by
    simp only [walkItems, Prod.mk.injEq, Except.ok.injEq] at h
    simp [Issue.ofItems, ← h.1, ← h.2]
  | x :: xs, index, c, c', ys, h => by
    simp only [walkItems] at h
    obtain ⟨r, c₁, h₁, h⟩ := andThen_eq_ok h
    obtain ⟨rfl, rfl, hx⟩ := hw h₁
    rw [Context.pop_add_push] at h
    obtain ⟨ys', c₂, h₂, h⟩ := andThen_eq_ok h
    obtain ⟨rfl, hxs⟩ := walkItems_eq_ok hw h₂
    simp only [Prod.mk.injEq, Except.ok.injEq] at h
    obtain ⟨rfl, rfl⟩ := h
    refine ⟨Context.add_add .., ?_⟩
    simp only [List.mapM_cons, hxs, Issue.ofItems]
    -- an item has an output exactly when it has no issues
    cases ho : out x with
    | none => simp [ho] at hx; simp [hx]
    | some y =>
      have : found x = [] := by simpa [ho] using hx
      simp only [this, List.map_nil, List.nil_append]
      split <;> simp

theorem walkEntries_eq_ok {walk' : Walker} {out' : Value → Option Value}
    {found' : Value → List Issue} (hk : Agrees walk out found) (hv : Agrees walk' out' found') :
    ∀ {es start fs : Entries} {c c' : Context},
      walkEntries walk walk' start es c = (.ok fs, c') →
        c' = c.add (Issue.ofEntries found found' es) ∧
          (es.mapM (outputPair? out out')).map start.putAll =
            if (Issue.ofEntries found found' es).isEmpty then some fs else none
  | [], start, fs, c, c', h => by
    simp only [walkEntries, Prod.mk.injEq, Except.ok.injEq] at h
    simp [Issue.ofEntries, Entries.putAll, ← h.1, ← h.2]
  | (k, v) :: es, start, fs, c, c', h => by
    simp only [walkEntries] at h
    obtain ⟨rk, c₁, h₁, h⟩ := andThen_eq_ok h
    obtain ⟨rfl, rfl, hk'⟩ := hk h₁
    obtain ⟨rv, c₂, h₂, h⟩ := andThen_eq_ok h
    obtain ⟨rfl, rfl, hv'⟩ := hv h₂
    rw [Context.add_add, Context.pop_add_push] at h
    have hcons : Issue.ofEntries found found' ((k, v) :: es) =
        (found k ++ found' v).map (Issue.below [k]) ++ Issue.ofEntries found found' es := by
      simp [Issue.ofEntries]
    rw [hcons, ← Context.add_add]
    simp only [List.mapM_cons, outputPair?]
    cases ho : out k with
    | none =>
      simp only [ho] at h hk'
      obtain ⟨rfl, hes⟩ := walkEntries_eq_ok hk hv h
      have : found k ≠ [] := by simpa using hk'
      simp [this]
    | some k' =>
      cases ho' : out' v with
      | none =>
        simp only [ho, ho'] at h hv'
        obtain ⟨rfl, hes⟩ := walkEntries_eq_ok hk hv h
        have : found' v ≠ [] := by simpa using hv'
        simp [this]
      | some v' =>
        simp only [ho, ho'] at h hk' hv'
        -- a key that is not hashable ends the walk
        split at h
        · obtain ⟨rfl, hes⟩ := walkEntries_eq_ok hk hv h
          have hk₀ : found k = [] := by simpa using hk'
          have hv₀ : found' v = [] := by simpa using hv'
          simp only [hk₀, hv₀, List.append_nil, List.map_nil, List.nil_append, Context.add_nil,
            true_and, ← hes]
          cases es.mapM (outputPair? out out') <;> simp [Entries.putAll]
        · simp at h

end

theorem walkShape_eq_ok : ∀ {shape : List (String × Schema)} {es fs : Entries} {c c' : Context},
    (∀ p ∈ shape, Agrees p.2.walk p.2.output? p.2.issues) →
      walkShape shape es c = (.ok fs, c') →
        c' = c.add (issuesShape shape es) ∧
          outputShape? shape es = if (issuesShape shape es).isEmpty then some fs else none
  | [], es, fs, c, c', _, h => by
    simp only [walkShape, Prod.mk.injEq, Except.ok.injEq] at h
    simp [issuesShape, outputShape?, ← h.1, ← h.2]
  | (key, schema) :: shape, es, fs, c, c', hs, h => by
    have ih := fun fs c c' => @walkShape_eq_ok shape es fs c c' fun p hp =>
      hs p (List.mem_cons_of_mem _ hp)
    cases hget : es.getText? key with
    | none =>
      simp only [walkShape, hget] at h
      simp only [issuesShape, outputShape?, hget]
      -- an absent key is an issue unless its schema is optional
      cases ho : schema.isOptional with
      | true =>
        obtain ⟨rfl, hfs⟩ := ih _ _ _ (by simpa [ho] using h)
        simp [hfs]
      | false =>
        simp only [ho, Context.reportAt_key, Bool.false_eq_true, if_false] at h
        obtain ⟨rfl, -⟩ := ih _ _ _ h
        simp [Context.add_add]
    | some v =>
      simp only [walkShape, hget] at h
      simp only [issuesShape, outputShape?, hget]
      obtain ⟨r, c₁, h₁, h⟩ := andThen_eq_ok h
      obtain ⟨rfl, rfl, hv⟩ := hs (key, schema) List.mem_cons_self h₁
      rw [Context.pop_add_push] at h
      obtain ⟨fs', c₂, h₂, h⟩ := andThen_eq_ok h
      obtain ⟨rfl, hfs⟩ := ih _ _ _ h₂
      simp only [Prod.mk.injEq, Except.ok.injEq] at h
      obtain ⟨rfl, rfl⟩ := h
      refine ⟨Context.add_add .., ?_⟩
      cases ho : schema.output? v with
      | none =>
        have : schema.issues v ≠ [] := by simpa [ho] using hv
        simp [this]
      | some w =>
        have : schema.issues v = [] := by simpa [ho] using hv
        simp only [hfs, this, List.map_nil, List.nil_append, Option.bind_some]
        split <;> simp

end Schema

/-! ## The longest list of issues -/

namespace Issue

theorem longest_concat (lists : List (List Issue)) (found : List Issue) :
    longest (lists ++ [found]) =
      if (longest lists).length < found.length then found else longest lists := by
  unfold longest
  cases hbest : lists.argmax List.length with
  | none => cases found <;> simp [List.argmax_concat, hbest]
  | some best => by_cases hlt : best.length < found.length <;> simp [List.argmax_concat, hbest, hlt]

theorem ofAlternatives_ne_nil (lists : List (List Issue)) : ofAlternatives lists ≠ [] := by
  unfold ofAlternatives
  split
  · simp [here]
  · rename_i h
    simpa using h

end Issue

namespace Schema

theorem rejectUnion_eq_ok {lists : List (List Issue)} {c c' : Context} {r : Verdict}
    (h : rejectUnion ((Issue.longest lists).map (Issue.below c.path)) c = (.ok r, c')) :
    r = none ∧ c' = c.add (Issue.ofAlternatives lists) := by
  unfold rejectUnion at h
  unfold Issue.ofAlternatives
  by_cases he : (Issue.longest lists).isEmpty
  · simp only [List.isEmpty_map, he, if_true] at h ⊢
    exact reject_eq_ok h
  · simp only [List.isEmpty_map, he, Bool.false_eq_true, if_false, Prod.mk.injEq,
      Except.ok.injEq] at h ⊢
    exact ⟨h.1.symm, h.2.symm⟩

theorem walkAlternatives_eq_ok : ∀ {alternatives : List Schema} {v : Value}
    {seen : List (List Issue)} {c c' : Context} {r : Verdict},
    (∀ s ∈ alternatives, Agrees s.walk s.output? s.issues) →
      walkAlternatives alternatives v ((Issue.longest seen).map (Issue.below c.path)) c = (.ok r, c') →
        r = outputFirst? alternatives v ∧
          c' = c.add (if (outputFirst? alternatives v).isSome then []
            else Issue.ofAlternatives (seen ++ issuesEach alternatives v))
  | [], v, seen, c, c', r, _, h => by
    obtain ⟨rfl, rfl⟩ := rejectUnion_eq_ok h
    simp [outputFirst?, issuesEach]
  | schema :: rest, v, seen, c, c', r, hs, h => by
    simp only [walkAlternatives] at h
    cases hw : schema.walk v c.fork with
    | mk result forked =>
      cases result with
      | error e => simp [hw] at h
      | ok verdict =>
        obtain ⟨rfl, rfl, -⟩ := hs schema List.mem_cons_self hw
        rw [hw] at h
        cases ho : schema.output? v with
        | some w =>
          simp only [ho] at h
          obtain ⟨rfl, rfl⟩ := accept_eq_ok h
          simp [outputFirst?, ho]
        | none =>
          -- the better of the two lists is the best of one alternative more
          have hbest : (if ((Issue.longest seen).map (Issue.below c.path)).length <
              (c.fork.add (schema.issues v)).issues.length then (c.fork.add (schema.issues v)).issues
                else (Issue.longest seen).map (Issue.below c.path)) =
              (Issue.longest (seen ++ [schema.issues v])).map (Issue.below c.path) := by
            rw [Issue.longest_concat]
            simp only [Context.fork, Context.add_issues, List.nil_append, List.length_map]
            split <;> rfl
          simp only [ho, hbest] at h
          obtain ⟨rfl, rfl⟩ := walkAlternatives_eq_ok
            (fun s hs' => hs s (List.mem_cons_of_mem _ hs')) h
          simp [outputFirst?, issuesEach, ho]

theorem refine_eq_ok : ∀ {refinements : List Refinement} {w : Value} {c c' : Context} {r : Verdict},
    refine refinements w c = (.ok r, c') →
      r = (if refinements.all (·.holds w) then some w else none) ∧
        c' = c.add (Issue.ofRefinements refinements w) ∧
        refinements.all (·.holds w) = (Issue.ofRefinements refinements w).isEmpty
  | [], w, c, c', r, h => by
    obtain ⟨rfl, rfl⟩ := accept_eq_ok h
    simp [Issue.ofRefinements]
  | .undefined :: _, w, c, c', r, h => by
    simp [refine] at h
  | .minLength minimum message :: rest, w, c, c', r, h => by
    simp only [refine] at h
    cases hl : w.length? with
    | none => simp [hl] at h
    | some n =>
      simp only [hl] at h
      by_cases hn : (n : Int) < minimum
      · have hh : (Refinement.minLength minimum message).holds w = false := by
          simp [Refinement.holds, hl, hn]
        obtain ⟨rfl, rfl⟩ := reject_eq_ok (by simpa [hn] using h)
        simp [Issue.ofRefinements, hh, Refinement.message, Issue.here]
      · have hh : (Refinement.minLength minimum message).holds w = true := by
          simpa [Refinement.holds, hl] using hn
        obtain ⟨rfl, rfl, he⟩ := refine_eq_ok (by simpa [hn] using h)
        simp only [Issue.ofRefinements, List.all_cons, hh, Bool.true_and, List.find?_cons,
          Bool.not_true] at he ⊢
        exact ⟨trivial, trivial, he⟩

theorem walkLiteral_agrees (expected : Value) :
    Agrees (walkLiteral expected) (output? (.literal expected)) (issues (.literal expected)) := by
  intro v c r c' h
  unfold walkLiteral at h
  unfold output? issues
  split at h
  · rename_i heq
    obtain ⟨rfl, rfl⟩ := accept_eq_ok h
    simp [heq]
  · rename_i hne
    cases hj : expected.json with
    | error fault => simp [hj] at h
    | ok written =>
      obtain ⟨rfl, rfl⟩ := reject_eq_ok (by simpa [hj] using h)
      simp [hne, Issue.here]

/-- Every walk that comes to an end agrees with the meaning of its schema. -/
theorem walk_agrees (schema : Schema) : Agrees schema.walk schema.output? schema.issues := by
  induction schema with
  | text =>
    intro v c r c' h
    simp only [walk] at h
    split at h
    · rename_i ht
      obtain ⟨rfl, rfl⟩ := accept_eq_ok h
      simp [output?, issues, ht]
    · rename_i ht
      obtain ⟨rfl, rfl⟩ := reject_eq_ok h
      simp [output?, issues, ht, Issue.here]
  | truth =>
    intro v c r c' h
    simp only [walk] at h
    split at h
    · obtain ⟨rfl, rfl⟩ := accept_eq_ok h
      simp [output?, issues]
    · rename_i hb
      obtain ⟨rfl, rfl⟩ := reject_eq_ok h
      cases v with
      | bool b => exact absurd rfl (hb b)
      | _ => simp [output?, issues, Issue.here]
  | anything =>
    intro v c r c' h
    obtain ⟨rfl, rfl⟩ := accept_eq_ok h
    simp [output?, issues]
  | literal expected => exact walkLiteral_agrees expected
  | array item ih =>
    intro v c r c' h
    simp only [walk] at h
    split at h
    · rename_i hv
      obtain ⟨rfl, rfl⟩ := reject_eq_ok h
      simp [output?, issues, hv, Issue.here]
    · rename_i xs hv
      obtain ⟨ys, c₁, h₁, h⟩ := andThen_eq_ok h
      obtain ⟨rfl, hys⟩ := walkItems_eq_ok ih h₁
      obtain ⟨rfl, rfl⟩ := settle_eq_ok h
      simp only [output?, issues, hv, Option.bind_some, hys, true_and]
      split <;> simp_all
  | record key value hkey hvalue =>
    intro v c r c' h
    simp only [walk] at h
    split at h
    · rename_i hv
      obtain ⟨rfl, rfl⟩ := reject_eq_ok h
      simp [output?, issues, hv, Issue.here]
    · rename_i es hv
      obtain ⟨fs, c₁, h₁, h⟩ := andThen_eq_ok h
      obtain ⟨rfl, hfs⟩ := walkEntries_eq_ok hkey hvalue h₁
      obtain ⟨rfl, rfl⟩ := settle_eq_ok h
      have hout : output? (.record key value) v =
          ((es.mapM (outputPair? key.output? value.output?)).map (Entries.putAll [])).map .map := by
        simp only [output?, hv, Option.bind_some, Option.map_map]
        rfl
      simp only [hout, hfs, issues, hv, true_and]
      split <;> simp_all
  | object shape ih =>
    intro v c r c' h
    simp only [walk] at h
    split at h
    · rename_i hv
      obtain ⟨rfl, rfl⟩ := reject_eq_ok h
      simp [output?, issues, hv, Issue.here]
    · rename_i es hv
      obtain ⟨fs, c₁, h₁, h⟩ := andThen_eq_ok h
      obtain ⟨rfl, hfs⟩ := walkShape_eq_ok ih h₁
      obtain ⟨rfl, rfl⟩ := settle_eq_ok h
      simp only [output?, issues, hv, Option.bind_some, hfs, true_and]
      split <;> simp_all
  | union alternatives ih =>
    intro v c r c' h
    obtain ⟨rfl, rfl⟩ := @walkAlternatives_eq_ok alternatives v [] c c' r ih h
    simp only [output?, issues, List.nil_append, true_and]
    split <;> simp_all [Issue.ofAlternatives_ne_nil]
  | optional inner ih =>
    intro v c r c' h
    cases v with
    | missing =>
      obtain ⟨rfl, rfl⟩ := accept_eq_ok h
      simp [output?, issues]
    | _ => exact ih h
  | refined inner refinements ih =>
    intro v c r c' h
    simp only [walk] at h
    obtain ⟨base, c₁, h₁, h⟩ := andThen_eq_ok h
    obtain ⟨rfl, rfl, hbase⟩ := ih h₁
    -- a refinement looks at nothing but an accepted value
    cases ho : inner.output? v with
    | none =>
      simp only [ho, Prod.mk.injEq, Except.ok.injEq] at h hbase
      simp [output?, issues, ho, ← h.1, ← h.2, ← hbase]
    | some w =>
      have hnil : inner.issues v = [] := by simpa [ho] using hbase
      simp only [ho, hnil, Context.add_nil] at h
      obtain ⟨rfl, rfl, hall⟩ := refine_eq_ok h
      simp only [output?, issues, ho, Option.filter_some, hall, true_and]
      split <;> simp_all
  | undefined =>
    intro v c r c' h
    simp [walk] at h

/-! ## Verdict and context of a walk -/

/-- **Acceptance.** Whatever context a walk starts in, it accepts with the outputs its schema relates
to the value, and with no others. -/
theorem walk_accepts_iff_conforms {schema : Schema} {v : Value} {c c' : Context} {r : Verdict}
    (h : schema.walk v c = (.ok r, c')) (w : Value) : r = some w ↔ schema.Conforms v w := by
  obtain ⟨rfl, -, -⟩ := walk_agrees schema h
  exact output?_eq_some_iff

theorem walk_accepts_tags :
    (object [("tags", .refined (.array (.union [.truth, .text])) [.minItems 1]),
        ("note", .optional .text)]).walk
      (.map [(.text "extra", .null), (.text "tags", .tuple [.text "a", .bool true])])
      ⟨[.text "root"], [⟨"earlier", []⟩]⟩ =
        (.ok (some (.map [(.text "tags", .list [.text "a", .bool true])])),
          ⟨[.text "root"], [⟨"earlier", []⟩]⟩) ∧
    (object [("tags", .refined (.array (.union [.truth, .text])) [.minItems 1]),
        ("note", .optional .text)]).Conforms
      (.map [(.text "extra", .null), (.text "tags", .tuple [.text "a", .bool true])])
      (.map [(.text "tags", .list [.text "a", .bool true])]) :=
  ⟨rfl, (walk_accepts_iff_conforms (c := ⟨[.text "root"], [⟨"earlier", []⟩]⟩) rfl _).mp rfl⟩

/-- **Issues.** A walk restores the path and adds the issues of schema and value, each below the
path, behind those that were there. -/
theorem walk_adds_issues {schema : Schema} {v : Value} {c c' : Context} {r : Verdict}
    (h : schema.walk v c = (.ok r, c')) :
    c'.path = c.path ∧ c'.issues = c.issues ++ (schema.issues v).map (Issue.below c.path) := by
  obtain ⟨-, rfl, -⟩ := walk_agrees schema h
  exact ⟨rfl, rfl⟩

/-- Of the two alternatives for `a`, the one with more issues is reported. -/
theorem walk_reports_closest :
    (object [("a", .union [.literal (.text "x"), .array .truth]), ("b", .text)]).walk
      (.map [(.text "a", .list [.int 1, .bool true, .int 2])])
      ⟨[.text "root"], [⟨"earlier", []⟩]⟩ =
        (.ok none, ⟨[.text "root"], [⟨"earlier", []⟩,
          ⟨"Expected a boolean", [.text "root", .text "a", .int 0]⟩,
          ⟨"Expected a boolean", [.text "root", .text "a", .int 2]⟩,
          ⟨"Missing required property", [.text "root", .text "b"]⟩]⟩) ∧
    [⟨"earlier", []⟩, ⟨"Expected a boolean", [.text "root", .text "a", .int 0]⟩,
      ⟨"Expected a boolean", [.text "root", .text "a", .int 2]⟩,
      ⟨"Missing required property", [.text "root", .text "b"]⟩] =
      [⟨"earlier", []⟩] ++ ((object [("a", .union [.literal (.text "x"), .array .truth]),
        ("b", .text)]).issues (.map [(.text "a", .list [.int 1, .bool true, .int 2])])).map
          (Issue.below [.text "root"]) := by
  refine (fun h => ⟨h, (walk_adds_issues h).2⟩) ?_
  rfl

/-- **Failure is growth.** A walk accepts exactly when it adds no issue; so a check neither fails
without an issue nor accepts after one. -/
theorem walk_accepts_iff_issues_eq (schema : Schema) (v : Value) :
    (∀ c r c', schema.walk v c = (.ok r, c') → (r.isSome ↔ c'.issues = c.issues)) ∧
      schema.check v ≠ .ok (.error []) ∧
      ∀ w, schema.check v = .ok (.ok w) → (schema.walk v .empty).2.issues = [] := by
  have growth : ∀ c r c', schema.walk v c = (.ok r, c') → (r.isSome ↔ c'.issues = c.issues) := by
    intro c r c' h
    obtain ⟨rfl, rfl, hsilent⟩ := walk_agrees schema h
    rw [hsilent, Context.add_issues, List.append_right_eq_self, List.map_eq_nil_iff, List.isEmpty_iff]
  refine ⟨growth, ?_, ?_⟩
  · intro h
    unfold check at h
    split at h
    · cases h
    · cases h
    · rename_i c' hw
      simp only [Except.ok.injEq, Except.error.injEq] at h
      have := (growth _ _ _ hw).mpr h
      simp at this
  · intro w h
    unfold check at h
    split at h
    · cases h
    · rename_i w' c' hw
      rw [hw]
      exact (growth _ _ _ hw).mp rfl
    · cases h

theorem walk_rejects_with_growth :
    (union [.array .truth, .array (.optional .text)]).walk (.tuple [.missing, .null])
      ⟨[.int 0], [⟨"earlier", [.int 7]⟩]⟩ =
        (.ok none, ⟨[.int 0], [⟨"earlier", [.int 7]⟩, ⟨"Expected a boolean", [.int 0, .int 0]⟩,
          ⟨"Expected a boolean", [.int 0, .int 1]⟩]⟩) ∧
    ¬ [(⟨"earlier", [.int 7]⟩ : Issue), ⟨"Expected a boolean", [.int 0, .int 0]⟩,
      ⟨"Expected a boolean", [.int 0, .int 1]⟩] = [⟨"earlier", [.int 7]⟩] :=
  ⟨rfl, fun h => Bool.false_ne_true (((walk_accepts_iff_issues_eq
    (union [.array .truth, .array (.optional .text)]) (.tuple [.missing, .null])).1
      ⟨[.int 0], [⟨"earlier", [.int 7]⟩]⟩ none _ rfl).mpr h)⟩

end Schema

end Scaffold
