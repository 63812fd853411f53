import Mathlib.Data.List.Forall2
import Scaffold.Value.Coerce

/-!
# What a typed reading establishes

Each way of putting readings together succeeds exactly when its parts do.
Faults may be gathered and moved, but none is dropped.
-/

namespace Scaffold.Coerced

variable {α β : Type}

@[simp] theorem fail_ne_ok (fault : TypeFault) (a : α) : (fail fault : Coerced α) ≠ .ok a := by
  simp [fail]

theorem map_eq_ok_iff {r : Coerced α} {f : α → β} {b : β} :
    r.map f = .ok b ↔ ∃ a, r = .ok a ∧ f a = b := by
  cases r <;> simp [Except.map]

@[simp] theorem under_eq_ok_iff {key : Value} {r : Coerced α} {a : α} :
    under key r = .ok a ↔ r = .ok a := by
  cases r <;> simp [under, Except.mapError]

theorem both_eq_ok_iff {r : Coerced α} {q : Coerced β} {p : α × β} :
    both r q = .ok p ↔ r = .ok p.1 ∧ q = .ok p.2 := by
  obtain ⟨a, b⟩ := p
  cases r <;> cases q <;> simp [both]

theorem collect_eq_ok_iff : ∀ {rs : List (Coerced α)} {xs : List α},
    collect rs = .ok xs ↔ List.Forall₂ (fun r a => r = .ok a) rs xs
  | [], xs => by
    simp [collect, eq_comm]
  | r :: rs, xs => by
    simp only [collect, map_eq_ok_iff, both_eq_ok_iff, collect_eq_ok_iff,
      List.forall₂_cons_left_iff]
    constructor
    · intro h
      obtain ⟨⟨a, ys⟩, ⟨ha, hys⟩, rfl⟩ := h
      exact ⟨a, ys, ha, hys, rfl⟩
    · intro h
      obtain ⟨a, ys, ha, hys, rfl⟩ := h
      exact ⟨(a, ys), ⟨ha, hys⟩, rfl⟩

theorem forall₂_mapIdx_under {read : Value → Coerced α} : ∀ {xs : List Value} {as : List α}
    {place : Nat → Value}, List.Forall₂ (fun r a => r = .ok a)
      (xs.mapIdx fun i x => under (place i) (read x)) as ↔
        List.Forall₂ (fun x a => read x = .ok a) xs as
  | [], as, place => by
    simp
  | x :: xs, as, place => by
    have ih := fun as => @forall₂_mapIdx_under read xs as fun i => place (i + 1)
    simp only [List.mapIdx_cons, List.forall₂_cons_left_iff, under_eq_ok_iff, ih]

theorem asList_eq_ok_iff {fault : TypeFault} {read : Value → Coerced α} {xs : List Value}
    {as : List α} :
    Value.asList fault read (.list xs) = .ok as ↔ List.Forall₂ (fun x a => read x = .ok a) xs as := by
  simp only [Value.asList, Value.asItems, collect_eq_ok_iff]
  exact forall₂_mapIdx_under

theorem need_eq_ok_iff {es : Entries} {key : String} {read : Value → Coerced α} {a : α} :
    es.need key read = .ok a ↔ ∃ v, es.getText? key = some v ∧ read v = .ok a := by
  unfold Entries.need
  cases h : es.getText? key <;> simp

theorem collect_map_eq_ok {f : α → Coerced β} {g : α → β} : ∀ {xs : List α},
    (∀ x ∈ xs, f x = .ok (g x)) → collect (xs.map f) = .ok (xs.map g)
  | [], _ => rfl
  | x :: xs, h => by
    obtain ⟨hx, hxs⟩ := List.forall_mem_cons.mp h
    rw [List.map_cons, collect, hx, collect_map_eq_ok hxs]
    rfl

theorem asTextMap_map {es : Entries} (h : ∀ e ∈ es, e.1.isText) :
    Value.asTextMap (.map es) = .ok (Entries.ofList es) := by
  have read : ∀ e ∈ es, (Value.asText e.1 |> under (.text "[key]") |> under (Value.placeKey e.1)).map
      (fun k => (Value.text k, e.2)) = .ok (id e) := by
    intro e he
    obtain ⟨k, v⟩ := e
    have hk := h (k, v) he
    cases k <;> simp only [Value.isText, Bool.false_eq_true] at hk
    rfl
  simp only [Value.asTextMap, collect_map_eq_ok read, List.map_id]
  rfl

end Scaffold.Coerced
