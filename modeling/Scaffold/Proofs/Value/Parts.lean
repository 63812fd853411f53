import Mathlib.Data.List.Forall2
import Mathlib.Data.List.Nodup
import Scaffold.Manifest.Basic

/-!
# Parts of a value

What is found under a key of a mapping, or in a list, may have a property
(`Has`, `MayHave`, `IsListOf`) or may give something typed (`Gives`,
`GivesAttribute`, `GivesList`). A part has the property of giving something
exactly when there is something that it gives.
-/

namespace Scaffold

/-! ## Properties of parts -/

namespace Value

def IsName (v : Value) : Prop := ∃ s, v = .text s ∧ s ≠ ""

def IsFlag (v : Value) : Prop := ∃ b, v = .bool b

def IsTextMap (v : Value) : Prop := ∃ es, v = .map es ∧ ∀ e ∈ es, e.1.isText

/-- A list or tuple with at least one item, and none without the property. -/
def IsListOf (p : Value → Prop) (v : Value) : Prop :=
  ∃ xs, v.items? = some xs ∧ xs ≠ [] ∧ ∀ x ∈ xs, p x

def Has (v : Value) (key : String) (p : Value → Prop) : Prop := ∃ w, v.field? key = some w ∧ p w

def MayHave (v : Value) (key : String) (p : Value → Prop) : Prop := ∀ w, v.field? key = some w → p w

def parts (v : Value) (key : String) : List Value := ((v.field? key).bind items?).getD []

def partNames (v : Value) (key : String) : List (Option Value) := (v.parts key).map (·.field? "name")

/-! ## What parts give -/

/-- The value under a key gives `a`. -/
def Gives {α : Type} (v : Value) (key : String) (p : Value → α → Prop) (a : α) : Prop :=
  ∃ w, v.field? key = some w ∧ p w a

/-- The attribute is set to what the value under a key gives, and unset if there is none. -/
def GivesAttribute {α : Type} (v : Value) (key : String) (p : Value → α → Prop) :
    Attribute α → Prop
  | .unset => v.field? key = none
  | .null => False
  | .set a => v.Gives key p a

def GivesList {α : Type} (p : Value → α → Prop) (v : Value) (as : List α) : Prop :=
  ∃ xs, v.items? = some xs ∧ List.Forall₂ p xs as ∧ as ≠ []

def GivesName (v : Value) (s : String) : Prop := v = .text s ∧ s ≠ ""

def GivesFlag (v : Value) (b : Bool) : Prop := v = .bool b

def GivesTextMap (v : Value) (es : Entries) : Prop :=
  ∃ fs, v = .map fs ∧ (∀ f ∈ fs, f.1.isText) ∧ es = Entries.ofList fs

def GivesChoice {α : Type} (name : α → String) (v : Value) (a : α) : Prop := v = .text (name a)

end Value

/-! ## Having something to give -/

section
variable {α : Type} {p : Value → α → Prop} {q : Value → Prop}

theorem forall₂_exists_iff (hq : ∀ w, q w ↔ ∃ a, p w a) : ∀ {xs : List Value},
    (∀ x ∈ xs, q x) ↔ ∃ as, List.Forall₂ p xs as
  | [] => by
    simp
  | x :: xs => by
    rw [List.forall_mem_cons, forall₂_exists_iff hq, hq]
    constructor
    · intro h
      obtain ⟨⟨a, ha⟩, as, has⟩ := h
      exact ⟨a :: as, .cons ha has⟩
    · intro h
      obtain ⟨as, has⟩ := h
      cases has with
      | cons ha has => exact ⟨⟨_, ha⟩, _, has⟩

theorem ne_nil_iff_of_forall₂ {xs : List Value} {as : List α} (h : List.Forall₂ p xs as) :
    xs ≠ [] ↔ as ≠ [] := by
  cases h <;> simp

theorem forall_mem_iff_of_forall₂ {β : Type} {r : β → α → Prop} {P : β → Prop} {Q : α → Prop}
    {xs : List β} {as : List α} (h : List.Forall₂ r xs as) (hr : ∀ ⦃x a⦄, r x a → (P x ↔ Q a)) :
    (∀ x ∈ xs, P x) ↔ ∀ a ∈ as, Q a := by
  induction h with
  | nil => simp
  | cons hx _ ih => rw [List.forall_mem_cons, List.forall_mem_cons, ih, hr hx]

namespace Value

theorem Gives.mapping {v : Value} {key : String} {a : α} (h : v.Gives key p a) : ∃ es, v = .map es := by
  obtain ⟨w, hw, -⟩ := h
  cases v with
  | map es => exact ⟨es, rfl⟩
  | _ => cases hw

theorem has_iff (hq : ∀ w, q w ↔ ∃ a, p w a) {v : Value} {key : String} :
    v.Has key q ↔ ∃ a, v.Gives key p a := by
  constructor
  · intro h
    obtain ⟨w, hw, h⟩ := h
    obtain ⟨a, ha⟩ := (hq w).mp h
    exact ⟨a, w, hw, ha⟩
  · intro h
    obtain ⟨a, w, hw, ha⟩ := h
    exact ⟨w, hw, (hq w).mpr ⟨a, ha⟩⟩

theorem givesAttribute_of_some {v w : Value} {key : String} {a : Attribute α} (hw : v.field? key = some w)
    (h : v.GivesAttribute key p a) : ∃ b, a = .set b ∧ p w b := by
  cases a with
  | unset =>
    rw [GivesAttribute, hw] at h
    cases h
  | null => exact h.elim
  | set b =>
    obtain ⟨w', hw', hb⟩ := h
    rw [hw, Option.some.injEq] at hw'
    exact ⟨b, rfl, hw' ▸ hb⟩

theorem mayHave_iff (hq : ∀ w, q w ↔ ∃ a, p w a) {v : Value} {key : String} :
    v.MayHave key q ↔ ∃ a, v.GivesAttribute key p a := by
  constructor
  · intro h
    cases hv : v.field? key with
    | none => exact ⟨.unset, hv⟩
    | some w =>
      obtain ⟨a, ha⟩ := (hq w).mp (h w hv)
      exact ⟨.set a, w, hv, ha⟩
  · intro h w hw
    obtain ⟨a, ha⟩ := h
    obtain ⟨b, -, hb⟩ := givesAttribute_of_some hw ha
    exact (hq w).mpr ⟨b, hb⟩

theorem isListOf_iff (hq : ∀ w, q w ↔ ∃ a, p w a) (v : Value) :
    IsListOf q v ↔ ∃ as, GivesList p v as := by
  constructor
  · intro h
    obtain ⟨xs, hxs, hne, h⟩ := h
    obtain ⟨as, has⟩ := (forall₂_exists_iff hq).mp h
    exact ⟨as, xs, hxs, has, (ne_nil_iff_of_forall₂ has).mp hne⟩
  · intro h
    obtain ⟨as, xs, hxs, has, hne⟩ := h
    exact ⟨xs, hxs, (ne_nil_iff_of_forall₂ has).mpr hne, (forall₂_exists_iff hq).mpr ⟨as, has⟩⟩

theorem isName_iff (v : Value) : v.IsName ↔ ∃ s, v.GivesName s := Iff.rfl

theorem isFlag_iff (v : Value) : v.IsFlag ↔ ∃ b, v.GivesFlag b := Iff.rfl

theorem isTextMap_iff (v : Value) : v.IsTextMap ↔ ∃ es, v.GivesTextMap es := by
  constructor
  · intro h
    obtain ⟨es, hv, h⟩ := h
    exact ⟨_, es, hv, h, rfl⟩
  · intro h
    obtain ⟨_, es, hv, h, -⟩ := h
    exact ⟨es, hv, h⟩

/-! ## Items and their names -/

theorem parts_of_gives {v : Value} {key : String} {as : List α} (h : v.Gives key (GivesList p) as) :
    List.Forall₂ p (v.parts key) as := by
  obtain ⟨w, hw, xs, hxs, has, -⟩ := h
  simp [parts, hw, hxs, has]

theorem partNames_of_gives {name : α → String}
    (hp : ∀ ⦃x a⦄, p x a → x.Gives "name" GivesName (name a))
    {v : Value} {key : String} {as : List α} (h : v.Gives key (GivesList p) as) :
    v.partNames key = (as.map name).map fun s => some (.text s) := by
  have hparts := parts_of_gives h
  unfold partNames
  generalize v.parts key = xs at hparts
  clear h
  induction hparts with
  | nil => rfl
  | cons hx _ ih =>
    obtain ⟨w, hw, rfl, -⟩ := hp hx
    rw [List.map_cons, List.map_cons, List.map_cons, hw, ih]

theorem nodup_partNames_iff {names : List String} :
    (names.map fun s => some (Value.text s)).Nodup ↔ names.Nodup :=
  List.nodup_map_iff fun a b h => by simpa using h

end Value

end

end Scaffold
