import Scaffold.Manifest.Reading
import Scaffold.Manifest.Shape
import Scaffold.Proofs.Schema.Objects
import Scaffold.Proofs.Value.Coerced
import Scaffold.Proofs.Value.Parts

/-!
# Schemas and typed readings that agree

A value passes through two layers: a schema takes it over, and a typed reading
reads what was taken over. They agree (`Reads`) on what a value gives when no
accepted value is read otherwise, no value that gives something is rejected,
and no accepted value gives nothing. Only the mark of a missing value stands
outside, as it is accepted for an optional property and then not read.
-/

namespace Scaffold

open Coerced

/-- What a schema takes over is read as what the value gives. -/
structure Reads {α : Type} (schema : Schema) (read : Value → Coerced α) (gives : Value → α → Prop) :
    Prop where
  reads : ∀ {v w a}, schema.output? v = some w → (read w = .ok a ↔ gives v a)
  accepted : ∀ {v a}, gives v a → (schema.output? v).isSome
  given : ∀ {v}, v.isPresent → (schema.output? v).isSome → ∃ a, gives v a

/-- Nothing that is taken over is null, and the mark of a missing value is neither taken over nor
read. -/
structure Definite {α : Type} (schema : Schema) (read : Value → Coerced α) : Prop where
  missing : schema.output? .missing = none
  null : ∀ v, schema.output? v ≠ some .null
  unread : ∀ a, read .missing ≠ .ok a

theorem Coerced.wantAttribute_of_none {α : Type} {es : Entries} {key : String}
    {read : Value → Coerced α} (h : es.getText? key = none) :
    es.wantAttribute key read = .ok .unset := by
  simp [Entries.wantAttribute, Entries.want, h, Except.map, Attribute.ofReading]

theorem Coerced.wantAttribute_of_some {α : Type} {es : Entries} {key : String} {v : Value}
    {read : Value → Coerced α} {a : Attribute α} (h : es.getText? key = some v) (hv : v ≠ .null) :
    es.wantAttribute key read = .ok a ↔ ∃ b, read v = .ok b ∧ a = .set b := by
  have hread : Value.asNullable read v = (read v).map some := by
    cases v <;> first | rfl | exact absurd rfl hv
  simp only [Entries.wantAttribute, Entries.want, h, hread]
  cases read v with
  | error e => simp [Except.map, Coerced.under, Except.mapError]
  | ok b => simp [Except.map, Coerced.under, Except.mapError, Attribute.ofReading, eq_comm]

/-! ## Single values -/

namespace Schema

theorem output?_nonEmptyText {v w : Value} : nonEmptyText.output? v = some w ↔ w = v ∧ v.IsName := by
  simp only [nonEmptyText, output?, Option.filter_eq_some_iff, List.all_cons, List.all_nil,
    Bool.and_true, Refinement.holds]
  cases v with
  | text s =>
    have length : (1 : Int) ≤ s.length ↔ s ≠ "" := by
      rw [ne_eq, ← String.length_eq_zero_iff]
      omega
    simp only [Value.isText, if_true, Option.some.injEq, Value.IsName, Value.text.injEq,
      exists_eq_left', ← length]
    constructor
    · intro h
      obtain ⟨rfl, h⟩ := h
      exact ⟨rfl, by simpa [Value.length?] using h⟩
    · intro h
      obtain ⟨rfl, h⟩ := h
      exact ⟨rfl, by simpa [Value.length?] using h⟩
  | _ => simp [Value.isText, Value.IsName]

theorem output?_truth {v w : Value} : truth.output? v = some w ↔ w = v ∧ v.IsFlag := by
  cases v <;> simp [output?, Value.IsFlag, @eq_comm _ w]

theorem output?_literal_text {s : String} {v w : Value} :
    (literal (.text s)).output? v = some w ↔ w = v ∧ v = .text s := by
  cases v with
  | text t =>
    by_cases h : t = s
    · simp [output?, Value.sameType, Value.typeName, h, @eq_comm _ w]
    · simp [output?, h]
  | _ => simp [output?, Value.sameType, Value.typeName]

theorem admits_literal_text {s : String} {o : Option Value} :
    (literal (.text s)).admits o ↔ o = some (.text s) := by
  cases o with
  | none => simp [admits, isOptional]
  | some v => simp [admits, Option.isSome_iff_exists, output?_literal_text]

theorem outputFirst?_literals {α : Type} {name : α → String} {v w : Value} : ∀ {as : List α},
    outputFirst? (as.map fun a => literal (.text (name a))) v = some w ↔
      w = v ∧ ∃ a ∈ as, v = .text (name a)
  | [] => by
    simp [outputFirst?]
  | a :: as => by
    have hnone : (literal (.text (name a))).output? v = none ↔ v ≠ .text (name a) := by
      rw [Option.eq_none_iff_forall_ne_some]
      simp [output?_literal_text]
    simp only [List.map_cons, outputFirst?, Option.or_eq_some_iff, List.exists_mem_cons_iff,
      outputFirst?_literals, hnone, output?_literal_text]
    by_cases h : v = .text (name a) <;> simp [h]

theorem output?_record_text {v w : Value} :
    (record text anything).output? v = some w ↔
      ∃ es, v = .map es ∧ (∀ e ∈ es, e.1.isText) ∧ w = .map (Entries.ofList es) := by
  have pair : ∀ e f : Value × Value, outputPair? text.output? anything.output? e = some f ↔
      e.1.isText ∧ f = e := by
    intro e f
    obtain ⟨k, x⟩ := e
    cases k <;> simp [outputPair?, output?, Value.isText, @eq_comm _ f]
  have entries : ∀ es fs : Entries, List.Forall₂ (fun e f => e.1.isText ∧ f = e) es fs ↔
      (∀ e ∈ es, e.1.isText) ∧ fs = es := by
    intro es
    induction es with
    | nil => simp
    | cons e es ih =>
      intro fs
      simp only [List.forall₂_cons_left_iff, ih, List.forall_mem_cons]
      constructor
      · intro h
        obtain ⟨f, rest, ⟨he, rfl⟩, ⟨hes, rfl⟩, rfl⟩ := h
        exact ⟨⟨he, hes⟩, rfl⟩
      · intro h
        obtain ⟨⟨he, hes⟩, rfl⟩ := h
        exact ⟨_, _, ⟨he, rfl⟩, ⟨hes, rfl⟩, rfl⟩
  rw [output?]
  simp only [Option.bind_eq_some_iff, Option.map_eq_some_iff, mapM_eq_some_iff, pair, entries]
  constructor
  · intro h
    obtain ⟨_, hes, es, ⟨htext, rfl⟩, rfl⟩ := h
    exact ⟨es, Value.entries?_eq_some_iff.mp hes, htext, rfl⟩
  · intro h
    obtain ⟨es, rfl, htext, rfl⟩ := h
    exact ⟨es, rfl, es, ⟨htext, rfl⟩, rfl⟩

end Schema

/-! ## Readings of single values -/

namespace Reads

theorem name : Reads Schema.nonEmptyText Value.asText Value.GivesName where
  reads := by
    intro v w a h
    obtain ⟨rfl, s, rfl, hs⟩ := Schema.output?_nonEmptyText.mp h
    constructor
    · intro ha
      cases ha
      exact ⟨rfl, hs⟩
    · intro h
      obtain ⟨ha, -⟩ := h
      cases ha
      rfl
  accepted := by
    intro v a ha
    rw [Schema.output?_nonEmptyText.mpr ⟨rfl, a, ha⟩]
    rfl
  given := by
    intro v _ h
    obtain ⟨w, hw⟩ := Option.isSome_iff_exists.mp h
    exact (Schema.output?_nonEmptyText.mp hw).2

theorem flag : Reads .truth Value.asTruth Value.GivesFlag where
  reads := by
    intro v w a h
    obtain ⟨rfl, b, rfl⟩ := Schema.output?_truth.mp h
    simp [Value.asTruth, Value.GivesFlag]
  accepted := by
    intro v a h
    subst h
    rfl
  given := by
    intro v _ h
    obtain ⟨w, hw⟩ := Option.isSome_iff_exists.mp h
    exact (Schema.output?_truth.mp hw).2

theorem textMap : Reads (.record .text .anything) Value.asTextMap Value.GivesTextMap where
  reads := by
    intro v w a h
    obtain ⟨es, rfl, hes, rfl⟩ := Schema.output?_record_text.mp h
    have htext : ∀ e ∈ Entries.ofList es, e.1.isText := by
      intro e he
      obtain ⟨f, hf, hk⟩ := Entries.key_of_mem_ofList he
      rw [hk]
      exact hes f hf
    rw [asTextMap_map htext, Entries.ofList_ofList, Except.ok.injEq]
    constructor
    · intro h
      subst h
      exact ⟨es, rfl, hes, rfl⟩
    · intro h
      obtain ⟨fs, hfs, -, rfl⟩ := h
      cases hfs
      rfl
  accepted := by
    intro v a h
    obtain ⟨es, rfl, hes, -⟩ := h
    rw [Schema.output?_record_text.mpr ⟨es, rfl, hes, rfl⟩]
    rfl
  given := by
    intro v _ h
    obtain ⟨w, hw⟩ := Option.isSome_iff_exists.mp h
    obtain ⟨es, rfl, hes, -⟩ := Schema.output?_record_text.mp hw
    exact ⟨_, es, rfl, hes, rfl⟩

theorem choice {α : Type} {all : List α} {name : α → String} {ofName? : String → Option α}
    (hall : ∀ a, a ∈ all) (hname : ∀ s a, ofName? s = some a ↔ name a = s) :
    Reads (.union (all.map fun a => .literal (.text (name a)))) (Value.asChoice ofName?)
      (Value.GivesChoice name) where
  reads := by
    intro v w a h
    rw [Schema.output?] at h
    obtain ⟨rfl, b, -, rfl⟩ := Schema.outputFirst?_literals.mp h
    have hread : Value.asChoice ofName? (.text (name b)) = .ok a ↔ ofName? (name b) = some a := by
      unfold Value.asChoice
      cases h : ofName? (name b) <;> simp [h]
    rw [hread, hname, Value.GivesChoice, Value.text.injEq, eq_comm]
  accepted := by
    intro v a ha
    rw [Schema.output?, Schema.outputFirst?_literals.mpr ⟨rfl, a, hall a, ha⟩]
    rfl
  given := by
    intro v _ h
    obtain ⟨w, hw⟩ := Option.isSome_iff_exists.mp h
    rw [Schema.output?] at hw
    obtain ⟨-, a, -, ha⟩ := Schema.outputFirst?_literals.mp hw
    exact ⟨a, ha⟩

end Reads

namespace Definite

theorem name : Definite Schema.nonEmptyText Value.asText where
  missing := rfl
  null := by
    intro v h
    obtain ⟨rfl, s, hs, -⟩ := Schema.output?_nonEmptyText.mp h
    cases hs
  unread := by
    intro a h
    cases h

theorem flag : Definite .truth Value.asTruth where
  missing := rfl
  null := by
    intro v h
    obtain ⟨rfl, b, hb⟩ := Schema.output?_truth.mp h
    cases hb
  unread := by
    intro a h
    cases h

theorem textMap : Definite (.record .text .anything) Value.asTextMap where
  missing := rfl
  null := by
    intro v h
    obtain ⟨es, -, -, hes⟩ := Schema.output?_record_text.mp h
    cases hes
  unread := by
    intro a h
    cases h

end Definite

/-- Two alternatives, when what the second one gives is not taken over by the first. -/
theorem Reads.either {α : Type} {first second : Schema} {read : Value → Coerced α}
    {p q : Value → α → Prop} (hp : Reads first read p) (hq : Reads second read q)
    (hnone : ∀ {v a}, q v a → first.output? v = none) :
    Reads (.union [first, second]) read fun v a => p v a ∨ q v a where
  reads := by
    intro v w a h
    simp only [Schema.output?, Schema.outputFirst?, Option.or_none, Option.or_eq_some_iff] at h
    rcases h with h | ⟨hfirst, h⟩
    -- what the first schema takes is not of the second kind
    · have hq' : ¬ q v a := by
        intro ha
        rw [hnone ha] at h
        cases h
      rw [hp.reads h, or_iff_left hq']
    · have hp' : ¬ p v a := by
        intro ha
        have := hp.accepted ha
        rw [hfirst] at this
        cases this
      rw [hq.reads h, or_iff_right hp']
  accepted := by
    intro v a ha
    simp only [Schema.output?, Schema.outputFirst?, Option.or_none, Option.isSome_or,
      Bool.or_eq_true]
    exact ha.imp hp.accepted hq.accepted
  given := by
    intro v hv h
    simp only [Schema.output?, Schema.outputFirst?, Option.or_none, Option.isSome_or,
      Bool.or_eq_true] at h
    rcases h with h | h
    · obtain ⟨a, ha⟩ := hp.given hv h
      exact ⟨a, Or.inl ha⟩
    · obtain ⟨a, ha⟩ := hq.given hv h
      exact ⟨a, Or.inr ha⟩

/-! ## Lists -/

theorem Schema.output?_nonEmptyArray {item : Schema} {message : String} {v w : Value} :
    (refined (array item) [.minLength 1 message]).output? v = some w ↔
      ∃ xs ys, v.items? = some xs ∧ List.Forall₂ (fun x y => item.output? x = some y) xs ys ∧
        ys ≠ [] ∧ w = .list ys := by
  have length (ys : List Value) : (Refinement.minLength 1 message).holds (.list ys) ↔ ys ≠ [] := by
    cases ys with
    | nil => simp [Refinement.holds, Value.length?]
    | cons y ys =>
      simp only [Refinement.holds, Value.length?, Option.any_some, List.length_cons, decide_eq_true_eq]
      have hle : (1 : Int) ≤ (ys.length + 1 : Nat) := by omega
      exact iff_of_true hle (List.cons_ne_nil y ys)
  simp only [output?, Option.filter_eq_some_iff, Option.bind_eq_some_iff, Option.map_eq_some_iff,
    mapM_eq_some_iff, List.all_cons, List.all_nil, Bool.and_true]
  constructor
  · intro h
    obtain ⟨⟨xs, hxs, ys, hys, rfl⟩, hl⟩ := h
    exact ⟨xs, ys, hxs, hys, (length ys).mp hl, rfl⟩
  · intro h
    obtain ⟨xs, ys, hxs, hys, hne, rfl⟩ := h
    exact ⟨⟨xs, hxs, ys, hys, rfl⟩, (length ys).mpr hne⟩

section
variable {α : Type} {item : Schema} {read : Value → Coerced α} {p : Value → α → Prop}

theorem Reads.forall₂_iff (hr : Reads item read p) {xs ys : List Value}
    (hxs : List.Forall₂ (fun x y => item.output? x = some y) xs ys) : ∀ {as : List α},
    List.Forall₂ (fun y a => read y = .ok a) ys as ↔ List.Forall₂ p xs as := by
  induction hxs with
  | nil => simp
  | cons hx _ ih => simp only [List.forall₂_cons_left_iff, hr.reads hx, ih, implies_true]

theorem Reads.list (hr : Reads item read p) (fault : TypeFault) (message : String) :
    Reads (.refined (.array item) [.minLength 1 message]) (Value.asList fault read)
      (Value.GivesList p) where
  reads := by
    intro v w as h
    obtain ⟨xs, ys, hxs, hys, hne, rfl⟩ := Schema.output?_nonEmptyArray.mp h
    rw [asList_eq_ok_iff, hr.forall₂_iff hys]
    constructor
    · intro has
      exact ⟨xs, hxs, has, (ne_nil_iff_of_forall₂ has).mp ((ne_nil_iff_of_forall₂ hys).mpr hne)⟩
    · intro h
      obtain ⟨xs', hxs', has, -⟩ := h
      rw [hxs, Option.some.injEq] at hxs'
      rwa [hxs']
  accepted := by
    intro v as h
    obtain ⟨xs, hxs, has, hne⟩ := h
    have hacc : ∀ x ∈ xs, (item.output? x).isSome := by
      intro x hx
      obtain ⟨a, ha⟩ := (forall₂_exists_iff fun _ => Iff.rfl).mpr ⟨as, has⟩ x hx
      exact hr.accepted ha
    obtain ⟨ys, hys⟩ := (forall₂_exists_iff fun _ => Option.isSome_iff_exists).mp hacc
    have hne' := (ne_nil_iff_of_forall₂ hys).mp ((ne_nil_iff_of_forall₂ has).mpr hne)
    rw [Schema.output?_nonEmptyArray.mpr ⟨xs, ys, hxs, hys, hne', rfl⟩]
    rfl
  given := by
    intro v hp h
    obtain ⟨w, hw⟩ := Option.isSome_iff_exists.mp h
    obtain ⟨xs, ys, hxs, hys, hne, -⟩ := Schema.output?_nonEmptyArray.mp hw
    have hacc := (forall₂_exists_iff fun _ => Option.isSome_iff_exists).mpr ⟨ys, hys⟩
    have hgives : ∀ x ∈ xs, ∃ a, p x a := fun x hx =>
      hr.given (Value.isPresent_items hp hxs x hx) (hacc x hx)
    obtain ⟨as, has⟩ := (forall₂_exists_iff fun _ => Iff.rfl).mp hgives
    exact ⟨as, xs, hxs, has, (ne_nil_iff_of_forall₂ has).mp ((ne_nil_iff_of_forall₂ hys).mpr hne)⟩

/-! ## Properties of objects -/

variable {shape : List (String × Schema)} {es fs : Entries} {key : String}

theorem Reads.need_iff (hr : Reads item read p) (hfs : Schema.outputShape? shape es = some fs)
    (hk : shape.lookup key = some item) {a : α} :
    fs.need key read = .ok a ↔ (Value.map es).Gives key p a := by
  rw [need_eq_ok_iff, Schema.getText?_outputShape hfs, hk, Option.bind_some]
  constructor
  · intro h
    obtain ⟨w, hw, ha⟩ := h
    obtain ⟨v, hv, hw⟩ := Option.bind_eq_some_iff.mp hw
    exact ⟨v, hv, (hr.reads hw).mp ha⟩
  · intro h
    obtain ⟨v, hv, ha⟩ := h
    obtain ⟨w, hw⟩ := Option.isSome_iff_exists.mp (hr.accepted ha)
    exact ⟨w, Option.bind_eq_some_iff.mpr ⟨v, hv, hw⟩, (hr.reads hw).mpr ha⟩

theorem Reads.wantAttribute_iff (hr : Reads item read p) (hd : Definite item read)
    (hfs : Schema.outputShape? shape es = some fs) (hk : shape.lookup key = some (.optional item))
    {a : Attribute α} :
    fs.wantAttribute key read = .ok a ↔ (Value.map es).GivesAttribute key p a := by
  have hget := Schema.getText?_outputShape hfs key
  rw [hk, Option.bind_some] at hget
  cases hv : es.getText? key with
  | none =>
    rw [hv, Option.bind_none] at hget
    rw [wantAttribute_of_none hget]
    cases a <;> simp [Value.GivesAttribute, Value.Gives, Value.field?, Value.entries?, hv]
  | some v =>
    rw [hv, Option.bind_some] at hget
    have hadmits := Schema.admits_of_outputShape? hfs hk
    rw [hv] at hadmits
    obtain ⟨w, hw⟩ := Option.isSome_iff_exists.mp hadmits
    rw [hw] at hget
    -- a missing value is let through by the optional schema, but nothing can be read from it
    by_cases hm : v = .missing
    · subst hm
      cases hw
      have hnull : Value.missing ≠ .null := Value.noConfusion
      rw [wantAttribute_of_some hget hnull]
      constructor
      · intro h
        obtain ⟨b, hb, -⟩ := h
        exact absurd hb (hd.unread b)
      · intro ha
        obtain ⟨b, -, hb⟩ := Value.givesAttribute_of_some (Value.field?_map.trans hv) ha
        have := hr.accepted hb
        rw [hd.missing] at this
        cases this
    · rw [Schema.output?_optional hm] at hw
      have hnull : w ≠ .null := by
        intro h
        subst h
        exact hd.null v hw
      rw [wantAttribute_of_some hget hnull]
      constructor
      · intro h
        obtain ⟨b, hb, rfl⟩ := h
        exact ⟨v, hv, (hr.reads hw).mp hb⟩
      · intro ha
        obtain ⟨b, rfl, hb⟩ := Value.givesAttribute_of_some (Value.field?_map.trans hv) ha
        exact ⟨b, (hr.reads hw).mpr hb, rfl⟩

theorem Reads.admits (hr : Reads item read p) {a : α} (h : (Value.map es).Gives key p a) :
    item.admits (es.getText? key) := by
  obtain ⟨v, hv, ha⟩ := h
  have hv' : es.getText? key = some v := hv
  rw [hv']
  exact hr.accepted ha

theorem Reads.admits_optional (hr : Reads item read p) {a : Attribute α}
    (h : (Value.map es).GivesAttribute key p a) :
    (Schema.optional item).admits (es.getText? key) := by
  cases hv : es.getText? key with
  | none => rfl
  | some v =>
    obtain ⟨b, -, hb⟩ := Value.givesAttribute_of_some (Value.field?_map.trans hv) h
    by_cases hm : v = .missing
    · subst hm
      rfl
    · rw [Schema.admits, Schema.output?_optional hm]
      exact hr.accepted hb

theorem Reads.gives_of_admits (hr : Reads item read p) (ho : item.isOptional = false)
    (hp : (Value.map es).isPresent) (h : item.admits (es.getText? key)) :
    ∃ a, (Value.map es).Gives key p a := by
  cases hv : es.getText? key with
  | none =>
    rw [hv, Schema.admits, ho] at h
    cases h
  | some v =>
    rw [hv] at h
    obtain ⟨a, ha⟩ := hr.given (Value.isPresent_field hp (Value.field?_map.trans hv)) h
    exact ⟨a, v, hv, ha⟩

theorem Reads.givesAttribute_of_admits (hr : Reads item read p)
    (hp : (Value.map es).isPresent) (h : (Schema.optional item).admits (es.getText? key)) :
    ∃ a, (Value.map es).GivesAttribute key p a := by
  cases hv : es.getText? key with
  | none => exact ⟨.unset, hv⟩
  | some v =>
    rw [hv] at h
    have hpv := Value.isPresent_field hp (Value.field?_map.trans hv)
    have hm : v ≠ .missing := by
      intro h
      subst h
      cases hpv
    rw [Schema.admits, Schema.output?_optional hm] at h
    obtain ⟨a, ha⟩ := hr.given hpv h
    exact ⟨.set a, v, hv, ha⟩

/-- A mapping that is read property by property. -/
theorem Reads.object {fault : TypeFault} {readAll : Entries → Coerced α}
    (reads : ∀ {es fs a}, Schema.outputShape? shape es = some fs →
      (readAll fs = .ok a ↔ p (.map es) a))
    (mapping : ∀ {v a}, p v a → ∃ es, v = .map es)
    (admitted : ∀ {es : Entries} {a}, p (.map es) a → ∀ q ∈ shape, q.2.admits (es.getText? q.1))
    (given : ∀ {es : Entries}, (Value.map es).isPresent → (∀ q ∈ shape, q.2.admits (es.getText? q.1)) →
      ∃ a, p (.map es) a) :
    Reads (.object shape) (Value.asModel fault readAll) p where
  reads := by
    intro v w a h
    obtain ⟨es, fs, rfl, hfs, rfl⟩ := Schema.output?_object_eq_some_iff.mp h
    exact reads hfs
  accepted := by
    intro v a ha
    obtain ⟨es, rfl⟩ := mapping ha
    obtain ⟨fs, hfs⟩ := Option.isSome_iff_exists.mp (Schema.outputShape?_isSome_iff.mpr (admitted ha))
    rw [Schema.output?_object_eq_some_iff.mpr ⟨es, fs, rfl, hfs, rfl⟩]
    rfl
  given := by
    intro v hp h
    obtain ⟨w, hw⟩ := Option.isSome_iff_exists.mp h
    obtain ⟨es, fs, rfl, hfs, -⟩ := Schema.output?_object_eq_some_iff.mp hw
    exact given hp (Schema.outputShape?_isSome_iff.mp (Option.isSome_of_eq_some hfs))

end

end Scaffold
