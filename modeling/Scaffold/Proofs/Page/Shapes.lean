import Scaffold.Page.Fill
import Scaffold.Proofs.Value.Writable

/-!
# Templates that can be filled

Names and attributes are looked up while a template is filled, and each one
that is not there is a fault. A template whose names, attributes and filters
agree with the shapes of the values that it is filled with has none
(`Template.isOk_fill`).
-/

namespace Scaffold

/-- What a template may rely on of a value. -/
inductive Shape where
  | any
  | text
  | list (item : Shape)
  | record (fields : List (String × Shape))

namespace Shape

mutual

def Fits : Shape → Value → Prop
  | .any, _ => True
  | .text, v => ∃ s, v = .text s
  | .list item, v => ∃ xs, v = .list xs ∧ ∀ x ∈ xs, item.Fits x
  | .record fields, v => FieldsFit fields v

def FieldsFit : List (String × Shape) → Value → Prop
  | [], _ => True
  | (key, shape) :: fields, v => (∃ w, v.field? key = some w ∧ shape.Fits w) ∧ FieldsFit fields v

end

theorem FieldsFit.of_lookup {v : Value} {key : String} {shape : Shape} :
    ∀ {fields : List (String × Shape)}, FieldsFit fields v → fields.lookup key = some shape →
      ∃ w, v.field? key = some w ∧ shape.Fits w
  | (key', shape') :: fields, h, hkey => by
    rw [FieldsFit] at h
    rw [List.lookup_cons] at hkey
    split at hkey
    · rename_i heq
      rw [beq_iff_eq] at heq
      cases hkey
      exact heq ▸ h.1
    · exact h.2.of_lookup hkey

end Shape

abbrev Shapes := List (String × Shape)

def Scope.Fits (s : Scope) (shapes : Shapes) : Prop :=
  ∀ n shape, shapes.lookup n = some shape → ∃ v, s.names.lookup n = some v ∧ shape.Fits v

namespace Scope

theorem lookup_ofEntries (n : String) (es : Entries) :
    (ofEntries es).names.lookup n = (Value.map es).field? n := by
  induction es with
  | nil => rfl
  | cons e es ih =>
    obtain ⟨k, v⟩ := e
    rw [Value.field?_map] at ih ⊢
    by_cases hk : ∃ key, k = .text key
    · obtain ⟨key, rfl⟩ := hk
      rw [Entries.getText?_cons_text, ← ih]
      simp only [ofEntries, List.filterMap_cons, Value.text?, Option.map_some, List.lookup_cons]
      by_cases h : key = n
      · simp [h]
      · simp [h, beq_false_of_ne (Ne.symm h)]
    · have hne : k.equal (.text n) = false :=
        Bool.eq_false_iff.mpr fun h => hk ⟨n, Value.eq_text_of_equal h⟩
      have hnone : k.text? = none := by
        cases k with
        | text key => exact absurd ⟨key, rfl⟩ hk
        | _ => rfl
      rw [Entries.getText?, Entries.get?, List.find?_cons_of_neg (by simp [hne]), ← Entries.get?,
        ← Entries.getText?, ← ih]
      simp only [ofEntries, List.filterMap_cons, hnone, Option.map_none]

theorem fits_ofEntries {es : Entries} {shapes : Shapes} (h : (Shape.record shapes).Fits (.map es)) :
    (ofEntries es).Fits shapes := by
  intro n shape hn
  rw [Shape.Fits] at h
  rw [lookup_ofEntries]
  exact h.of_lookup hn

theorem Fits.bind {s : Scope} {shapes : Shapes} {shape : Shape} {item : String} {v : Value}
    (h : s.Fits shapes) (hv : shape.Fits v) (last : Bool) :
    (s.bind item v last).Fits ((item, shape) :: shapes) := by
  intro n shape' hn
  simp only [Scope.bind, List.lookup_cons] at hn ⊢
  split at hn
  · cases hn
    exact ⟨v, rfl, hv⟩
  · exact h n shape' hn

end Scope

/-! ## Checks of templates -/

def Filter.takes : Filter → Shape → Bool
  | .escape, _ | .scriptString, _ | .literal, _ => true
  | .script, .list .text => true
  | .pascalCase, .text | .snakeCase, .text => true
  | _, _ => false

mutual

/-- The shape of an expression's values, if it has one wherever names have the given shapes. -/
def Expr.shape? (shapes : Shapes) : Expr → Option Shape
  | .name n => shapes.lookup n
  | .attr e n =>
    match e.shape? shapes with
    | some (.record fields) => fields.lookup n
    | _ => none
  | .constant _ => some .text
  | .concat parts => if Expr.haveShapes shapes parts then some .text else none
  | .choose e _ _ => (e.shape? shapes).map fun _ => .text
  | .filtered f e => (e.shape? shapes).bind fun shape => if f.takes shape then some .text else none

def Expr.haveShapes (shapes : Shapes) : List Expr → Bool
  | [] => true
  | e :: es => (e.shape? shapes).isSome && Expr.haveShapes shapes es

end

def Condition.checks (shapes : Shapes) : Condition → Bool
  | .holds e | .equals e _ | .isTrue e => (e.shape? shapes).isSome
  | .notLast => true

mutual

/-- Whether a part of a template can be filled wherever names have the given shapes. -/
def Node.checks (shapes : Shapes) : Node → Bool
  | .text _ => true
  | .put e => (e.shape? shapes).isSome
  | .each item of body =>
    match of.shape? shapes with
    | some (.list shape) => Node.allCheck ((item, shape) :: shapes) body
    | _ => false
  | .branch condition yes no =>
    condition.checks shapes && Node.allCheck shapes yes && Node.allCheck shapes no
  | .indented _ body => Node.allCheck shapes body

def Node.allCheck (shapes : Shapes) : List Node → Bool
  | [] => true
  | n :: ns => n.checks shapes && Node.allCheck shapes ns

end

/-! ## What checks can be filled -/

theorem Filter.apply_of_takes {f : Filter} {shape : Shape} {v : Value} (hf : f.takes shape)
    (hv : shape.Fits v) : ∃ t, f.apply v = .ok (.text t) := by
  cases f with
  | escape | scriptString | literal => exact ⟨_, rfl⟩
  | script =>
    match shape, hf with
    | .list .text, _ =>
      rw [Shape.Fits] at hv
      obtain ⟨xs, rfl, hxs⟩ := hv
      obtain ⟨t, ht⟩ := isOk_iff.mp (Value.isOk_writeJson_texts .script 0
        (fun x hx => by simpa [Shape.Fits] using hxs x hx))
      exact ⟨_, by rw [Filter.apply, ht]⟩
  | pascalCase | snakeCase =>
    match shape, hf with
    | .text, _ =>
      rw [Shape.Fits] at hv
      obtain ⟨s, rfl⟩ := hv
      exact ⟨_, rfl⟩

section
variable {s : Scope} {shapes : Shapes}

mutual

theorem Expr.eval_of_shape? (hs : s.Fits shapes) : ∀ (e : Expr) {shape : Shape},
    e.shape? shapes = some shape → ∃ v, e.eval s = .ok (.value v) ∧ shape.Fits v
  | .name n, shape, h => by
    obtain ⟨v, hv, hfits⟩ := hs n shape h
    exact ⟨v, by rw [Expr.eval, hv], hfits⟩
  | .attr e n, shape, h => by
    rw [Expr.shape?] at h
    split at h
    · rename_i fields he
      obtain ⟨v, hv, hfits⟩ := Expr.eval_of_shape? hs e he
      rw [Shape.Fits] at hfits
      obtain ⟨w, hw, hwfits⟩ := hfits.of_lookup h
      refine ⟨w, ?_, hwfits⟩
      rw [Expr.eval, hv]
      exact congrArg Except.ok (by rw [Expr.part, hw])
    · cases h
  | .constant c, shape, h => by
    rw [Expr.shape?, Option.some.injEq] at h
    subst h
    exact ⟨.text c, rfl, c, rfl⟩
  | .concat parts, shape, h => by
    rw [Expr.shape?] at h
    split at h
    · rename_i hparts
      rw [Option.some.injEq] at h
      subst h
      obtain ⟨ts, hts⟩ := Expr.evalParts_of_haveShapes hs parts hparts
      exact ⟨_, by rw [Expr.eval, hts]; rfl, _, rfl⟩
    · cases h
  | .choose e yes no, shape, h => by
    rw [Expr.shape?, Option.map_eq_some_iff] at h
    obtain ⟨shape', he, rfl⟩ := h
    obtain ⟨v, hv, -⟩ := Expr.eval_of_shape? hs e he
    exact ⟨_, by rw [Expr.eval, hv]; rfl, _, rfl⟩
  | .filtered f e, shape, h => by
    rw [Expr.shape?, Option.bind_eq_some_iff] at h
    obtain ⟨shape', he, hf⟩ := h
    split at hf
    · rename_i htakes
      rw [Option.some.injEq] at hf
      subst hf
      obtain ⟨v, hv, hfits⟩ := Expr.eval_of_shape? hs e he
      obtain ⟨t, ht⟩ := Filter.apply_of_takes htakes hfits
      refine ⟨.text t, ?_, t, rfl⟩
      rw [Expr.eval, hv]
      exact congrArg (· >>= fun w => pure (Found.value w)) ht
    · cases hf

theorem Expr.evalParts_of_haveShapes (hs : s.Fits shapes) : ∀ (es : List Expr),
    Expr.haveShapes shapes es → ∃ ts, Expr.evalParts s es = .ok ts
  | [], _ => ⟨[], rfl⟩
  | e :: es, h => by
    rw [Expr.haveShapes, Bool.and_eq_true] at h
    obtain ⟨shape, he⟩ := Option.isSome_iff_exists.mp h.1
    obtain ⟨v, hv, -⟩ := Expr.eval_of_shape? hs e he
    obtain ⟨ts, hts⟩ := Expr.evalParts_of_haveShapes hs es h.2
    exact ⟨v.plain :: ts, by rw [Expr.evalParts, hv, hts]; rfl⟩

end

theorem Expr.value_of_isSome_shape? (hs : s.Fits shapes) {e : Expr} (h : (e.shape? shapes).isSome) :
    ∃ v, e.value s = .ok v := by
  obtain ⟨shape, he⟩ := Option.isSome_iff_exists.mp h
  obtain ⟨v, hv, -⟩ := Expr.eval_of_shape? hs e he
  exact ⟨v, by rw [Expr.value, hv]; rfl⟩

theorem Condition.eval_of_checks (hs : s.Fits shapes) {c : Condition} (h : c.checks shapes) :
    ∃ b, c.eval s = .ok b := by
  cases c with
  | holds e =>
    obtain ⟨v, hv⟩ := Expr.value_of_isSome_shape? hs h
    exact ⟨_, by rw [Condition.eval, hv]; rfl⟩
  | equals e t =>
    obtain ⟨v, hv⟩ := Expr.value_of_isSome_shape? hs h
    exact ⟨_, by rw [Condition.eval, hv]; rfl⟩
  | isTrue e =>
    obtain ⟨shape, he⟩ := Option.isSome_iff_exists.mp h
    obtain ⟨v, hv, -⟩ := Expr.eval_of_shape? hs e he
    rw [Condition.eval, hv]
    cases v <;> exact ⟨_, rfl⟩
  | notLast => exact ⟨_, rfl⟩

end

theorem Node.fillEach_of_body (fillBody : Scope → Except FillFault String) {s : Scope}
    {item : String} : ∀ {xs : List Value},
      (∀ x ∈ xs, ∀ last, ∃ t, fillBody (s.bind item x last) = .ok t) →
      ∃ t, Node.fillEach fillBody s item xs = .ok t
  | [], _ => ⟨"", rfl⟩
  | x :: xs, h => by
    obtain ⟨first, hfirst⟩ := h x List.mem_cons_self xs.isEmpty
    obtain ⟨rest, hrest⟩ := Node.fillEach_of_body fillBody fun y hy => h y (List.mem_cons_of_mem x hy)
    exact ⟨first ++ rest, by rw [Node.fillEach, hfirst, hrest]; rfl⟩

mutual

theorem Node.fill_of_checks : ∀ (n : Node) {s : Scope} {shapes : Shapes}, s.Fits shapes →
    n.checks shapes → ∃ t, n.fill s = .ok t
  | .text t, _, _, _, _ => ⟨t, rfl⟩
  | .put e, s, shapes, hs, h => by
    obtain ⟨v, hv⟩ := Expr.value_of_isSome_shape? hs h
    exact ⟨v.plain, by rw [Node.fill, hv]; rfl⟩
  | .each item of body, s, shapes, hs, h => by
    rw [Node.checks] at h
    split at h
    · rename_i shape he
      obtain ⟨v, hv, hfits⟩ := Expr.eval_of_shape? hs of he
      rw [Shape.Fits] at hfits
      obtain ⟨xs, rfl, hxs⟩ := hfits
      -- the shape of an item does not depend on its place
      have hbody : ∀ x ∈ xs, ∀ last, ∃ t, Node.fillAll (s.bind item x last) body = .ok t :=
        fun x hx last => Node.fillAll_of_allCheck body (hs.bind (hxs x hx) last) h
      obtain ⟨t, ht⟩ := Node.fillEach_of_body (fun s' => Node.fillAll s' body) hbody
      refine ⟨t, ?_⟩
      rw [Node.fill, Expr.value, hv]
      exact ht
    · cases h
  | .branch condition yes no, s, shapes, hs, h => by
    rw [Node.checks, Bool.and_eq_true, Bool.and_eq_true] at h
    obtain ⟨⟨hc, hyes⟩, hno⟩ := h
    obtain ⟨b, hb⟩ := Condition.eval_of_checks hs hc
    rw [Node.fill, hb]
    cases b with
    | true => exact Node.fillAll_of_allCheck yes hs hyes
    | false => exact Node.fillAll_of_allCheck no hs hno
  | .indented width body, s, shapes, hs, h => by
    rw [Node.checks] at h
    obtain ⟨t, ht⟩ := Node.fillAll_of_allCheck body hs h
    exact ⟨_, by rw [Node.fill, ht]; rfl⟩

theorem Node.fillAll_of_allCheck : ∀ (ns : List Node) {s : Scope} {shapes : Shapes},
    s.Fits shapes → Node.allCheck shapes ns → ∃ t, Node.fillAll s ns = .ok t
  | [], _, _, _, _ => ⟨"", rfl⟩
  | n :: ns, s, shapes, hs, h => by
    rw [Node.allCheck, Bool.and_eq_true] at h
    obtain ⟨first, hfirst⟩ := Node.fill_of_checks n hs h.1
    obtain ⟨rest, hrest⟩ := Node.fillAll_of_allCheck ns hs h.2
    exact ⟨first ++ rest, by rw [Node.fillAll, hfirst, hrest]; rfl⟩

end

/-- A template that checks is filled by every mapping with values of the right shapes. -/
theorem Template.isOk_fill {t : Template} {shapes : Shapes} {es : Entries}
    (ht : Node.allCheck shapes t) (hes : (Shape.record shapes).Fits (.map es)) : (t.fill es).isOk :=
  isOk_iff.mpr (Node.fillAll_of_allCheck t (Scope.fits_ofEntries hes) ht)

end Scaffold
