import Scaffold.Proofs.Page.Shapes

/-!
# Parts of filled pages

A filled template is its parts in their order, each with the text that it has
by itself in the same scope.
-/

namespace Scaffold

variable {s : Scope}

theorem Expr.value_entity {n : String} {v w : Value} (hv : s.names.lookup "entity" = some v)
    (hw : v.field? n = some w) : (Expr.entity n).value s = .ok w := by
  have hpart : Expr.part v n = .value w := by rw [Expr.part, hw]
  unfold Expr.entity Expr.value
  rw [Expr.eval, Expr.eval, hv]
  exact congrArg Found.get hpart

theorem Scope.fits_singleton {n : String} {v : Value} {shape : Shape} (hn : s.names.lookup n = some v)
    (hv : shape.Fits v) : s.Fits [(n, shape)] := by
  intro n' shape' hshape
  rw [List.lookup_cons] at hshape
  split at hshape
  · rename_i heq
    rw [beq_iff_eq] at heq
    cases hshape
    exact ⟨v, heq ▸ hn, hv⟩
  · cases hshape

namespace Node

theorem fillAll_cons_eq_ok {n : Node} {ns : List Node} {t : String} :
    fillAll s (n :: ns) = .ok t ↔ ∃ a b, n.fill s = .ok a ∧ fillAll s ns = .ok b ∧ a ++ b = t := by
  rw [fillAll]
  constructor
  · intro h
    obtain ⟨a, ha, h⟩ := bind_eq_ok.mp h
    obtain ⟨b, hb, h⟩ := bind_eq_ok.mp h
    exact ⟨a, b, ha, hb, Except.ok.inj h⟩
  · rintro ⟨a, b, ha, hb, rfl⟩
    rw [ha, hb]; rfl

theorem fillAll_text {t r : String} {ns : List Node} (h : fillAll s ns = .ok r) :
    fillAll s (.text t :: ns) = .ok (t ++ r) :=
  fillAll_cons_eq_ok.mpr ⟨t, r, rfl, h, rfl⟩

theorem fillAll_put {e : Expr} {t r : String} {ns : List Node} (he : e.value s = .ok (.text t))
    (h : fillAll s ns = .ok r) : fillAll s (.put e :: ns) = .ok (t ++ r) := by
  have hput : (Node.put e).fill s = .ok t := by
    rw [fill, he]; rfl
  exact fillAll_cons_eq_ok.mpr ⟨t, r, hput, h, rfl⟩

theorem fillAll_append {ns ns' : List Node} {a b : String} (h : fillAll s ns = .ok a)
    (h' : fillAll s ns' = .ok b) : fillAll s (ns ++ ns') = .ok (a ++ b) := by
  induction ns generalizing a with
  | nil =>
    cases h
    rw [List.nil_append, h', String.empty_append]
  | cons n ns ih =>
    obtain ⟨c, d, hc, hd, rfl⟩ := fillAll_cons_eq_ok.mp h
    exact fillAll_cons_eq_ok.mpr ⟨c, d ++ b, hc, ih hd, (String.append_assoc ..).symm⟩

theorem fillAll_append_eq_ok {ns ns' : List Node} {t : String} : fillAll s (ns ++ ns') = .ok t ↔
    ∃ a b, fillAll s ns = .ok a ∧ fillAll s ns' = .ok b ∧ a ++ b = t := by
  constructor
  · intro h
    induction ns generalizing t with
    | nil => exact ⟨"", t, rfl, h, String.empty_append⟩
    | cons n ns ih =>
      obtain ⟨c, d, hc, hd, rfl⟩ := fillAll_cons_eq_ok.mp h
      obtain ⟨a, b, ha, hb, rfl⟩ := ih hd
      exact ⟨c ++ a, b, fillAll_cons_eq_ok.mpr ⟨c, a, hc, ha, rfl⟩, hb, String.append_assoc ..⟩
  · rintro ⟨a, b, ha, hb, rfl⟩
    exact fillAll_append ha hb

/-- A repeated part is joined from the parts for each value in turn. -/
theorem fillEach_eq_ok {fillBody : Scope → Except FillFault String} {item : String} :
    ∀ {xs : List Value} {t : String}, fillEach fillBody s item xs = .ok t →
      ∃ parts, t = String.join parts ∧
        List.Forall₂ (fun x part => ∃ last, fillBody (s.bind item x last) = .ok part) xs parts
  | [], t, h => by
    cases h
    exact ⟨[], rfl, .nil⟩
  | x :: xs, t, h => by
    rw [fillEach] at h
    obtain ⟨a, ha, h⟩ := bind_eq_ok.mp h
    obtain ⟨b, hb, rfl⟩ := bind_pure_eq_ok.mp h
    obtain ⟨parts, rfl, hall⟩ := fillEach_eq_ok hb
    exact ⟨a :: parts, String.join_cons.symm, .cons ⟨_, ha⟩ hall⟩

theorem fill_each_eq_ok {item : String} {e : Expr} {body : List Node} {xs : List Value} {t : String}
    (he : e.value s = .ok (.list xs)) (h : (Node.each item e body).fill s = .ok t) :
    ∃ parts, t = String.join parts ∧
      List.Forall₂ (fun x part => ∃ last, fillAll (s.bind item x last) body = .ok part) xs parts := by
  rw [fill, he] at h
  exact fillEach_eq_ok h

end Node

end Scaffold
