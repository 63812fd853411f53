import Scaffold.Proofs.Schema.Simulation

/-!
# Walks that come to an end

Three things end a walk early: a schema or refinement that says nothing yet,
a refinement of a value that has no length, and a key that cannot be one or
an expected value that cannot be written. Schemas without them walk every
value to the end (`Total`), whatever the context.
-/

namespace Scaffold.Schema

/-- A walk that comes to an end on every value. -/
def Total (walk : Walker) : Prop := ∀ v c, ∃ r c', walk v c = (.ok r, c')

theorem andThen_total {α β : Type} {w : Walked α} {next : α → Context → Walked β}
    (hw : ∃ a c, w = (.ok a, c)) (hn : ∀ a c, ∃ b c', next a c = (.ok b, c')) :
    ∃ b c', andThen w next = (.ok b, c') := by
  obtain ⟨a, c, rfl⟩ := hw
  exact hn a c

theorem settle_total (start : Nat) (gathered : Value) (c : Context) :
    ∃ r c', settle start gathered c = (.ok r, c') := by
  unfold settle
  split
  · exact ⟨_, _, rfl⟩
  · exact ⟨_, _, rfl⟩

/-! ## Parts of containers -/

theorem walkItems_total {walk : Walker} (hw : Total walk) : ∀ (xs : List Value) (index : Nat)
    (c : Context), ∃ ys c', walkItems walk index xs c = (.ok ys, c')
  | [], _, c => ⟨[], c, rfl⟩
  | x :: xs, index, c => by
    refine andThen_total (hw x _) fun r c₁ => ?_
    exact andThen_total (walkItems_total hw xs (index + 1) _) fun ys c₂ => ⟨_, _, rfl⟩

theorem walkEntries_total {walkKey walkValue : Walker} (hk : Total walkKey) (hv : Total walkValue)
    (hash : ∀ {v c w c'}, walkKey v c = (.ok (some w), c') → w.isHashable) :
    ∀ (es out : Entries) (c : Context), ∃ fs c', walkEntries walkKey walkValue out es c = (.ok fs, c')
  | [], out, c => ⟨out, c, rfl⟩
  | (k, v) :: es, out, c => by
    have rest := walkEntries_total hk hv hash es
    obtain ⟨rk, c₁, h₁⟩ := hk k (c.push k)
    obtain ⟨rv, c₂, h₂⟩ := hv v c₁
    simp only [walkEntries, h₁, h₂, andThen]
    cases rk with
    | none => exact rest out _
    | some k' =>
      cases rv with
      | none => exact rest out _
      | some v' =>
        simp only [hash h₁, if_true]
        exact rest _ _

theorem walkShape_total : ∀ {shape : List (String × Schema)} (_ : ∀ p ∈ shape, Total p.2.walk)
    (es : Entries) (c : Context), ∃ fs c', walkShape shape es c = (.ok fs, c')
  | [], _, _, c => ⟨[], c, rfl⟩
  | (key, schema) :: shape, hs, es, c => by
    have rest := walkShape_total (fun p hp => hs p (List.mem_cons_of_mem _ hp)) es
    cases hget : es.getText? key with
    | none =>
      simp only [walkShape, hget]
      exact rest _
    | some v =>
      simp only [walkShape, hget]
      refine andThen_total (hs (key, schema) List.mem_cons_self v _) fun r c₁ => ?_
      exact andThen_total (rest _) fun fs c₂ => ⟨_, _, rfl⟩

theorem walkAlternatives_total : ∀ {alternatives : List Schema} (_ : ∀ s ∈ alternatives, Total s.walk)
    (v : Value) (best : List Issue) (c : Context),
    ∃ r c', walkAlternatives alternatives v best c = (.ok r, c')
  | [], _, v, best, c => by
    simp only [walkAlternatives, rejectUnion]
    split
    · exact ⟨_, _, rfl⟩
    · exact ⟨_, _, rfl⟩
  | schema :: rest, hs, v, best, c => by
    obtain ⟨r, c₁, h₁⟩ := hs schema List.mem_cons_self v c.fork
    simp only [walkAlternatives, h₁]
    cases r with
    | none => exact walkAlternatives_total (fun s hs' => hs s (List.mem_cons_of_mem _ hs')) v _ c
    | some w => exact ⟨_, _, rfl⟩

theorem refine_minLength_total {w : Value} (hl : w.length?.isSome) (minimum : Int) (message : String)
    (c : Context) : ∃ r c', refine [.minLength minimum message] w c = (.ok r, c') := by
  obtain ⟨n, hn⟩ := Option.isSome_iff_exists.mp hl
  simp only [refine, hn]
  split
  · exact ⟨_, _, rfl⟩
  · exact ⟨_, _, rfl⟩

/-! ## Schemas -/

theorem total_text : Total text.walk := by
  intro v c
  simp only [walk]
  split
  · exact ⟨_, _, rfl⟩
  · exact ⟨_, _, rfl⟩

theorem total_truth : Total truth.walk := by
  intro v c
  simp only [walk]
  split
  · exact ⟨_, _, rfl⟩
  · exact ⟨_, _, rfl⟩

theorem total_anything : Total anything.walk := fun _ _ => ⟨_, _, rfl⟩

theorem total_literal {expected : Value} {written : String} (hj : expected.json = .ok written) :
    Total (literal expected).walk := by
  intro v c
  simp only [walk, walkLiteral, hj]
  split
  · exact ⟨_, _, rfl⟩
  · exact ⟨_, _, rfl⟩

theorem total_array {item : Schema} (hi : Total item.walk) : Total (array item).walk := by
  intro v c
  simp only [walk]
  split
  · exact ⟨_, _, rfl⟩
  · exact andThen_total (walkItems_total hi _ 0 c) fun ys c' => settle_total _ _ c'

theorem total_record {key value : Schema} (hk : Total key.walk) (hv : Total value.walk)
    (hash : ∀ {v w}, key.output? v = some w → w.isHashable) : Total (record key value).walk := by
  intro v c
  simp only [walk]
  split
  · exact ⟨_, _, rfl⟩
  · refine andThen_total (walkEntries_total hk hv (fun h => ?_) _ [] c) fun fs c' => settle_total _ _ c'
    obtain ⟨hw, -, -⟩ := walk_agrees key h
    exact hash hw.symm

theorem total_object {shape : List (String × Schema)} (hs : ∀ p ∈ shape, Total p.2.walk) :
    Total (object shape).walk := by
  intro v c
  simp only [walk]
  split
  · exact ⟨_, _, rfl⟩
  · exact andThen_total (walkShape_total hs _ c) fun fs c' => settle_total _ _ c'

theorem total_union {alternatives : List Schema} (hs : ∀ s ∈ alternatives, Total s.walk) :
    Total (union alternatives).walk := fun v c => walkAlternatives_total hs v [] c

theorem total_optional {inner : Schema} (hi : Total inner.walk) : Total (optional inner).walk := by
  intro v c
  cases v with
  | missing => exact ⟨_, _, rfl⟩
  | _ => exact hi _ c

theorem total_minLength {inner : Schema} (hi : Total inner.walk)
    (hl : ∀ {v w}, inner.output? v = some w → w.length?.isSome) (minimum : Int) (message : String) :
    Total (refined inner [.minLength minimum message]).walk := by
  intro v c
  obtain ⟨r, c₁, h₁⟩ := hi v c
  simp only [walk, h₁, andThen]
  cases r with
  | none => exact ⟨_, _, rfl⟩
  | some w =>
    obtain ⟨hw, -, -⟩ := walk_agrees inner h₁
    exact refine_minLength_total (hl hw.symm) minimum message c₁

theorem check_eq {schema : Schema} (ht : Total schema.walk) (v : Value) :
    schema.check v = .ok (match schema.output? v with
      | some w => .ok w
      | none => .error (schema.issues v)) := by
  obtain ⟨r, c', h⟩ := ht v .empty
  obtain ⟨rfl, rfl, -⟩ := walk_agrees schema h
  unfold check
  rw [h]
  cases schema.output? v with
  | none => simp [Context.empty]
  | some w => rfl

end Scaffold.Schema
