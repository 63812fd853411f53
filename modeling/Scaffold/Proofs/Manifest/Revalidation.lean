import Scaffold.Proofs.Manifest.Validation
import Scaffold.Proofs.Manifest.Written

/-!
# Validation is idempotent

A manifest that is validated again is unchanged or refused, and one that
validation has returned is never refused (`Manifest.revalidate_eq`).
-/

namespace Scaffold

open Coerced

/-! ## Typed readings are proper -/

theorem Value.asTextMap_distinct {v : Value} {es : Entries} (h : v.asTextMap = .ok es) : es.Distinct := by
  cases v with
  | map fs =>
    obtain ⟨gs, -, rfl⟩ := map_eq_ok_iff.mp h
    exact Entries.ofList_distinct gs
  | _ => simp [Value.asTextMap] at h

theorem Coerced.wantAttribute_eq_set {α : Type} {es : Entries} {key : String} {read : Value → Coerced α}
    {a : α} (h : es.wantAttribute key read = .ok (.set a)) : ∃ v, read v = .ok a := by
  cases hv : es.getText? key with
  | none =>
    rw [wantAttribute_of_none hv] at h
    cases h
  | some v =>
    by_cases hnull : v = .null
    · subst hnull
      simp [Entries.wantAttribute, Entries.want, hv, Value.asNullable, Attribute.ofReading, Except.map,
        under, Except.mapError] at h
    · obtain ⟨b, hb, hab⟩ := (wantAttribute_of_some hv hnull).mp h
      cases hab
      exact ⟨v, hb⟩

namespace Manifest

theorem proper_of_ofValue {v : Value} {m : Manifest} (h : Manifest.ofValue v = .ok m) : m.Proper := by
  cases v with
  | map es =>
    obtain ⟨-, -, -, hg, -, hr⟩ := Manifest.ofEntries_eq_ok_iff.mp h
    constructor
    · intro fs hfs
      rw [hfs] at hg
      obtain ⟨w, hw⟩ := wantAttribute_eq_set hg
      exact Value.asTextMap_distinct hw
    · intro fs hfs
      rw [hfs] at hr
      obtain ⟨w, hw⟩ := wantAttribute_eq_set hr
      exact Value.asTextMap_distinct hw
  | _ => simp [Manifest.ofValue, Value.asModel] at h

/-! ## Validation of what was validated -/

theorem revalidate_of_validate {raw : Value} {m : Manifest} (h : validate raw = .ok m) :
    m.revalidate = .ok m := by
  obtain ⟨hm, hnames⟩ := validate_eq_ok_iff.mp h
  exact validate_eq_ok_iff.mpr ⟨hm.written, hnames⟩

theorem iterate_revalidate (raw : Value) (n : Nat) :
    (fun result => result.bind revalidate)^[n] (validate raw) = validate raw := by
  refine Function.iterate_fixed ?_ n
  cases h : validate raw with
  | error fault => rfl
  | ok m => exact revalidate_of_validate h

/-- **Idempotence.** A manifest, however it was built, is validated to itself if at all. One that
validation returned is validated again, so that validating any number of times is validating
once. -/
theorem revalidate_eq :
    (∀ m r : Manifest, m.Proper → m.revalidate = .ok r → r.toValue = m.toValue ∧ r = m) ∧
      (∀ v m, Manifest.ofValue v = .ok m → m.Proper) ∧
      (∀ m : Manifest, m.revalidate = validate m.toValue) ∧
      (∀ raw m, validate raw = .ok m → m.revalidate = .ok m) ∧
      ∀ raw n, (fun result => result.bind revalidate)^[n] (validate raw) = validate raw := by
  refine ⟨fun m r hm h => ?_, fun v m => proper_of_ofValue, fun m => rfl, fun raw m => revalidate_of_validate,
    iterate_revalidate⟩
  have hr := eq_of_givenBy_toValue hm (validate_eq_ok_iff.mp h).1
  exact ⟨congrArg toValue hr, hr⟩

/-- Settings, a default that is null, and a note that is not kept. -/
theorem revalidate_eq_shop :
    let price : ScalarField := ⟨⟨"price", .unset, .set true, .unset, .unset, some .null⟩, .number⟩
    let m : Manifest := ⟨"shop", "Shop", "1", .set [(.text "api", .list [.int 1])],
      [⟨"Item", .set "items", [.scalar price]⟩], .unset⟩
    let raw : Value := .ofFields [("version", .text "1"), ("id", .text "shop"), ("name", .text "Shop"),
      ("generators", .ofFields [("api", .list [.int 1])]),
      ("entities", .tuple [.ofFields [("name", .text "Item"), ("note", .null), ("table", .text "items"),
        ("fields", .list [.ofFields [("kind", .text "number"), ("required", .bool true),
          ("name", .text "price"), ("default", .null)]])]])]
    validate raw = .ok m ∧ Manifest.ofValue m.toValue = .ok m ∧ m.Proper ∧ m.revalidate = .ok m ∧
      (∀ r, m.revalidate = .ok r → r.toValue = m.toValue) ∧
      ∀ n, (fun result => result.bind revalidate)^[n] (validate raw) = .ok m := by
  intro price m raw
  obtain ⟨same, proper, -, again, iterated⟩ := revalidate_eq
  have hm : validate raw = .ok m := rfl
  have hread : Manifest.ofValue m.toValue = .ok m := rfl
  exact ⟨hm, hread, proper _ m hread, again raw m hm, fun r h => (same m r (proper _ m hread) h).1,
    fun n => (iterated raw n).trans hm⟩

end Manifest

end Scaffold
