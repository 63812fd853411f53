import Mathlib.Data.List.Forall2
import Scaffold.Proofs.Value.Entries
import Scaffold.Sql.Statement

/-!
# Values that have JSON text

A value has JSON text when no date, no bytes and no set is in it, unless the
style is lenient, and when all keys in it are texts, numbers, truth values or
null (`Value.isOk_writeJson`). What is no mapping, list or the like has an SQL
literal even so (`Sql.isOk_literal`).
-/

namespace Scaffold

/-! ## Success -/

section
variable {ε α β : Type}

@[simp] theorem isOk_ok (a : α) : (Except.ok a : Except ε α).isOk = true := rfl

@[simp] theorem isOk_error (e : ε) : (Except.error e : Except ε α).isOk = false := rfl

theorem isOk_iff {x : Except ε α} : x.isOk ↔ ∃ a, x = .ok a := by
  cases x <;> simp

@[simp] theorem isOk_map (x : Except ε α) (f : α → β) : (x.map f).isOk = x.isOk := by
  cases x <;> rfl

theorem isOk_bind_pure (x : Except ε α) (f : α → β) :
    (x >>= fun a => pure (f a)).isOk = x.isOk := by
  cases x <;> rfl

theorem isOk_bind (x : Except ε α) {f : α → Except ε β} {b : Bool} (h : ∀ a, (f a).isOk = b) :
    (x >>= f).isOk = (x.isOk && b) := by
  cases x with
  | error => rfl
  | ok a => exact h a

theorem bind_eq_ok {x : Except ε α} {f : α → Except ε β} {b : β} :
    x >>= f = .ok b ↔ ∃ a, x = .ok a ∧ f a = .ok b := by
  cases x with
  | error e => exact iff_of_false (fun h => by cases h) fun ⟨a, ha, _⟩ => by cases ha
  | ok a => exact ⟨fun h => ⟨a, rfl, h⟩, fun ⟨a', ha', h⟩ => by cases ha'; exact h⟩

theorem bind_pure_eq_ok {x : Except ε α} {f : α → β} {b : β} :
    (x >>= fun a => pure (f a)) = .ok b ↔ ∃ a, x = .ok a ∧ b = f a := by
  rw [bind_eq_ok]
  exact exists_congr fun a => and_congr_right fun _ => ⟨fun h => (Except.ok.inj h).symm, fun h => congrArg _ h.symm⟩

theorem map_eq_ok {x : Except ε α} {f : α → β} {b : β} : x.map f = .ok b ↔ ∃ a, x = .ok a ∧ f a = b := by
  cases x <;> simp [Except.map]

theorem mapError_eq_ok {ε' : Type} {x : Except ε α} {g : ε → ε'} {a : α} :
    x.mapError g = .ok a ↔ x = .ok a := by
  cases x <;> simp [Except.mapError]

theorem mem_toOption {x : Except ε α} {a : α} : a ∈ x.toOption ↔ x = .ok a := by
  cases x <;> simp [Except.toOption]

theorem isOk_mapM (f : α → Except ε β) : ∀ (xs : List α), (xs.mapM f).isOk = xs.all fun x => (f x).isOk
  | [] => rfl
  | x :: xs => by
    rw [List.mapM_cons, List.all_cons, ← isOk_mapM f xs]
    exact isOk_bind _ fun _ => isOk_bind_pure _ _

theorem forall₂_of_mapM_eq_ok {f : α → Except ε β} : ∀ {xs : List α} {ys : List β},
    xs.mapM f = .ok ys → List.Forall₂ (fun x y => f x = .ok y) xs ys
  | [], ys, h => by
    cases h
    exact .nil
  | x :: xs, ys, h => by
    rw [List.mapM_cons] at h
    obtain ⟨y, hy, h⟩ := bind_eq_ok.mp h
    obtain ⟨zs, hzs, rfl⟩ := bind_pure_eq_ok.mp h
    exact .cons hy (forall₂_of_mapM_eq_ok hzs)

theorem forall₂_imp_of_mem {r s : α → β → Prop} {xs : List α} {ys : List β} (h : List.Forall₂ r xs ys)
    (hs : ∀ x ∈ xs, ∀ y, r x y → s x y) : List.Forall₂ s xs ys := by
  induction h with
  | nil => exact .nil
  | cons hx _ ih =>
    rw [List.forall_mem_cons] at hs
    exact .cons (hs.1 _ hx) (ih hs.2)

theorem forall_mem_of_forall₂ {r : α → β → Prop} {q : β → Prop} {xs : List α} {ys : List β} (h : List.Forall₂ r xs ys)
    (hq : ∀ x ∈ xs, ∀ y, r x y → q y) : ∀ y ∈ ys, q y := by
  induction h with
  | nil => exact List.forall_mem_nil q
  | cons hx _ ih =>
    rw [List.forall_mem_cons] at hq ⊢
    exact ⟨hq.1 _ hx, ih hq.2⟩

theorem getElem?_of_mapM {f : α → Except ε β} {xs : List α} {ys : List β} (h : xs.mapM f = .ok ys)
    {i : Nat} {x : α} (hx : xs[i]? = some x) : ∃ y, ys[i]? = some y ∧ f x = .ok y := by
  have hall := forall₂_of_mapM_eq_ok h
  clear h
  induction hall generalizing i with
  | nil => cases hx
  | cons hy _ ih =>
    cases i with
    | zero => cases hx; exact ⟨_, rfl, hy⟩
    | succ i => exact ih hx

theorem exists_ok_of_mem {f : α → Except ε β} {xs : List α} {ys : List β} {x : α}
    (h : xs.mapM f = .ok ys) (hx : x ∈ xs) : ∃ y ∈ ys, f x = .ok y := by
  obtain ⟨i, hi⟩ := List.getElem?_of_mem hx
  obtain ⟨y, hy, hfy⟩ := getElem?_of_mapM h hi
  exact ⟨y, List.mem_of_getElem? hy, hfy⟩

theorem mapM_eq_ok_map {f : α → Except ε β} {g : α → β} : ∀ {xs : List α},
    (∀ x ∈ xs, f x = .ok (g x)) → xs.mapM f = .ok (xs.map g)
  | [], _ => rfl
  | x :: xs, h => by
    rw [List.forall_mem_cons] at h
    rw [List.mapM_cons, h.1, mapM_eq_ok_map h.2]
    rfl

theorem map_eq_of_mapM {γ : Type} {f : α → Except ε β} {p : β → γ} {q : α → γ}
    (h : ∀ {x y}, f x = .ok y → p y = q x) {xs : List α} {ys : List β} (hys : xs.mapM f = .ok ys) :
    ys.map p = xs.map q := by
  have hall := forall₂_of_mapM_eq_ok hys
  clear hys
  induction hall with
  | nil => rfl
  | cons hy _ ih => rw [List.map_cons, List.map_cons, h hy, ih]

/-- Where one reading has a result for every element, so has another that follows it. -/
theorem forall₂_mapM {γ : Type} {f : α → Except ε β} {g : α → Except ε γ} {r : β → γ → Prop}
    (h : ∀ {x y}, f x = .ok y → ∃ z, g x = .ok z ∧ r y z) : ∀ {xs : List α} {ys : List β},
      xs.mapM f = .ok ys → ∃ zs, xs.mapM g = .ok zs ∧ List.Forall₂ r ys zs
  | [], ys, hys => by
    cases hys
    exact ⟨[], rfl, .nil⟩
  | x :: xs, ys, hys => by
    rw [List.mapM_cons] at hys
    obtain ⟨y, hy, hys⟩ := bind_eq_ok.mp hys
    obtain ⟨ys', hys', rfl⟩ := bind_pure_eq_ok.mp hys
    obtain ⟨z, hz, hyz⟩ := h hy
    obtain ⟨zs, hzs, hall⟩ := forall₂_mapM h hys'
    exact ⟨z :: zs, by rw [List.mapM_cons, hz, hzs]; rfl, .cons hyz hall⟩

end

namespace Value

/-! ## JSON text -/

def isJsonKey : Value → Bool
  | .text _ | .int _ | .bool _ | .null | .real _ => true
  | _ => false

mutual

/-- Whether a value has JSON text. In a lenient style only keys can be wrong. -/
def hasJson (lenient : Bool) : Value → Bool
  | .null | .bool _ | .int _ | .real _ | .text _ => true
  | .list xs => haveJson lenient xs
  | .tuple xs => haveJson lenient xs
  | .map es => entriesHaveJson lenient es
  | _ => lenient

def haveJson (lenient : Bool) : List Value → Bool
  | [] => true
  | x :: xs => hasJson lenient x && haveJson lenient xs

def entriesHaveJson (lenient : Bool) : Entries → Bool
  | [] => true
  | (k, v) :: es => isJsonKey k && hasJson lenient v && entriesHaveJson lenient es

end

theorem isOk_keyText (st : JsonStyle) (k : Value) : (st.keyText k).isOk = k.isJsonKey := by
  cases k <;> rfl

theorem length_writeJsonEntries (st : JsonStyle) (depth : Nat) : ∀ (es : Entries),
    (writeJsonEntries st depth es).length = es.length
  | [] => rfl
  | (k, v) :: es => by
    rw [writeJsonEntries, List.length_cons, List.length_cons, length_writeJsonEntries st depth es]

theorem isOk_writeJson_map {st : JsonStyle} (hst : st.sortKeys = false) (depth : Nat) (es : Entries) :
    (writeJson st depth (.map es)).isOk = (writeJsonEntries st (depth + 1) es).all Except.isOk := by
  have hlength : (writeJsonEntries st (depth + 1) es).length ≤ (es.map Prod.fst).length :=
    Nat.le_of_eq (by rw [length_writeJsonEntries, List.length_map])
  unfold writeJson
  simp only [hst, Bool.false_eq_true, if_false, pure_bind, List.map_snd_zip hlength, isOk_bind_pure]
  exact isOk_mapM id _

mutual

theorem isOk_writeJson {st : JsonStyle} (hst : st.sortKeys = false) (depth : Nat) : ∀ (v : Value),
    (writeJson st depth v).isOk = v.hasJson st.lenient
  | .null | .bool _ | .int _ | .real _ | .text _ => rfl
  | .list xs => by
    rw [writeJson, hasJson, ← isOk_writeJsonItems hst (depth + 1) xs]
    exact isOk_bind_pure _ _
  | .tuple xs => by
    rw [writeJson, hasJson, ← isOk_writeJsonItems hst (depth + 1) xs]
    exact isOk_bind_pure _ _
  | .map es => by
    rw [isOk_writeJson_map hst, hasJson, all_isOk_writeJsonEntries hst (depth + 1) es]
  | .missing | .bytes _ | .date _ | .moment _ | .set _ => by
    unfold writeJson hasJson
    cases st.lenient <;> rfl

theorem isOk_writeJsonItems {st : JsonStyle} (hst : st.sortKeys = false) (depth : Nat) :
    ∀ (xs : List Value), (writeJsonItems st depth xs).isOk = haveJson st.lenient xs
  | [] => rfl
  | x :: xs => by
    rw [writeJsonItems, haveJson, ← isOk_writeJson hst depth x, ← isOk_writeJsonItems hst depth xs]
    exact isOk_bind _ fun _ => isOk_bind_pure _ _

theorem all_isOk_writeJsonEntries {st : JsonStyle} (hst : st.sortKeys = false) (depth : Nat) :
    ∀ (es : Entries),
      (writeJsonEntries st depth es).all Except.isOk = entriesHaveJson st.lenient es
  | [] => rfl
  | (k, v) :: es => by
    rw [writeJsonEntries, entriesHaveJson, List.all_cons, all_isOk_writeJsonEntries hst depth es,
      ← isOk_writeJson hst depth v, ← isOk_keyText st k]
    congr 1
    exact isOk_bind _ fun _ => isOk_bind_pure _ _

end

theorem haveJson_eq_all (lenient : Bool) : ∀ (xs : List Value), haveJson lenient xs = xs.all (hasJson lenient)
  | [] => rfl
  | x :: xs => by rw [haveJson, List.all_cons, haveJson_eq_all lenient xs]

theorem entriesHaveJson_eq_all (lenient : Bool) : ∀ (es : Entries),
    entriesHaveJson lenient es = es.all fun e => e.1.isJsonKey && e.2.hasJson lenient
  | [] => rfl
  | (k, v) :: es => by rw [entriesHaveJson, List.all_cons, entriesHaveJson_eq_all lenient es]

theorem hasJson_ofFields (lenient : Bool) (fs : List (String × Value)) :
    (ofFields fs).hasJson lenient = fs.all fun f => f.2.hasJson lenient := by
  rw [ofFields, hasJson, entriesHaveJson_eq_all, List.all_map]
  rfl

theorem isOk_writeJson_texts (st : JsonStyle) (depth : Nat) {xs : List Value}
    (h : ∀ x ∈ xs, ∃ s, x = .text s) : (writeJson st depth (.list xs)).isOk := by
  rw [writeJson, isOk_bind_pure]
  induction xs with
  | nil => rfl
  | cons x xs ih =>
    obtain ⟨⟨s, rfl⟩, htail⟩ := List.forall_mem_cons.mp h
    rw [writeJsonItems, ← ih htail]
    exact isOk_bind_pure _ _

mutual

theorem hasJson_of_strict (lenient : Bool) : ∀ (v : Value), v.hasJson false → v.hasJson lenient
  | .null, _ | .bool _, _ | .int _, _ | .real _, _ | .text _, _ => rfl
  | .list xs, h => haveJson_of_strict lenient xs h
  | .tuple xs, h => haveJson_of_strict lenient xs h
  | .map es, h => entriesHaveJson_of_strict lenient es h
  | .missing, h | .bytes _, h | .date _, h | .moment _, h | .set _, h => by cases h

theorem haveJson_of_strict (lenient : Bool) : ∀ (xs : List Value), haveJson false xs → haveJson lenient xs
  | [], _ => rfl
  | x :: xs, h => by
    rw [haveJson, Bool.and_eq_true] at h ⊢
    exact ⟨hasJson_of_strict lenient x h.1, haveJson_of_strict lenient xs h.2⟩

theorem entriesHaveJson_of_strict (lenient : Bool) : ∀ (es : Entries),
    entriesHaveJson false es → entriesHaveJson lenient es
  | [], _ => rfl
  | (k, v) :: es, h => by
    rw [entriesHaveJson, Bool.and_eq_true, Bool.and_eq_true] at h ⊢
    exact ⟨⟨h.1.1, hasJson_of_strict lenient v h.1.2⟩, entriesHaveJson_of_strict lenient es h.2⟩

end

/-! ## Parts of values with JSON text -/

section
variable {lenient : Bool} {v w : Value}

theorem hasJson_field {key : String} (h : v.hasJson lenient) (hw : v.field? key = some w) :
    w.hasJson lenient := by
  cases v with
  | map es =>
    rw [hasJson, entriesHaveJson_eq_all] at h
    have := List.all_eq_true.mp h _ (Entries.mem_text_of_getText? hw)
    exact (Bool.and_eq_true _ _ ▸ this).2
  | _ => cases hw

theorem hasJson_items {xs : List Value} (h : v.hasJson lenient) (hv : v.items? = some xs) :
    ∀ x ∈ xs, x.hasJson lenient := by
  cases v with
  | list ys | tuple ys =>
    cases hv
    rw [hasJson, haveJson_eq_all] at h
    exact List.all_eq_true.mp h
  | _ => cases hv

end

end Value

theorem Sql.isOk_literal (v : Value) : (Sql.literal v).isOk = v.hasJson false := by
  have hjson : v.json.isOk = v.hasJson false := Value.isOk_writeJson rfl 0 v
  cases v with
  | null | bool | int | real | text => rfl
  | _ => exact (isOk_map _ quoted).trans hjson

end Scaffold
