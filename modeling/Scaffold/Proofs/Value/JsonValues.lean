import Mathlib.Data.List.Perm.Subperm
import Scaffold.Proofs.Value.Data
import Scaffold.Proofs.Value.Writes

/-!
# JSON values and what is equal to them

A value that JSON can hold is matched part by part (`Value.Matches`): with the
same scalars it is matched by identical values, with scalars that are equal
across types by values that are alike. Equality is likeness (`Value.equal_iff_alike`), so
it tells a JSON value from others where each of its scalars is alone in being
what it is (`Value.identical_of_alike`).
-/

namespace Scaffold

namespace Value

/-- Null, truth values, integers, finite numbers, texts, lists, and mappings with text keys. -/
inductive IsJson : Value → Prop where
  | null : IsJson .null
  | bool (b : Bool) : IsJson (.bool b)
  | int (n : Int) : IsJson (.int n)
  | real {x : Binary64} (h : x.isFinite) : IsJson (.real x)
  | text (s : String) : IsJson (.text s)
  | list {xs : List Value} (h : ∀ x ∈ xs, IsJson x) : IsJson (.list xs)
  | map {es : Entries} (hkeys : es.TextKeyed) (h : ∀ e ∈ es, IsJson e.2) : IsJson (.map es)

/-! ## Matching part by part -/

mutual

/-- Lists are matched item by item, mappings entry by entry in any order, all else by the relation. -/
def Matches (scalar : Value → Value → Prop) : Value → Value → Prop
  | .list xs, v => ∃ ys, v = .list ys ∧ MatchesItems scalar xs ys
  | .map es, v => ∃ fs, v = .map fs ∧ MatchesEntries scalar es fs
  | x, v => scalar x v

def MatchesItems (scalar : Value → Value → Prop) : List Value → List Value → Prop
  | [], ys => ys = []
  | x :: xs, ys => ∃ y rest, ys = y :: rest ∧ Matches scalar x y ∧ MatchesItems scalar xs rest

/-- Every entry has one under the same key to match it, and none is left over. -/
def MatchesEntries (scalar : Value → Value → Prop) : Entries → Entries → Prop
  | [], fs => fs = []
  | (k, v) :: es, fs => ∃ before w after, fs = before ++ (k, w) :: after ∧ Matches scalar v w ∧
      MatchesEntries scalar es (before ++ after)

end

def SameScalar : Value → Value → Prop
  | .null, .null => True
  | .bool a, .bool b => a = b
  | .int a, .int b => a = b
  | .real a, .real b => a.equal b
  | .text a, .text b => a = b
  | _, _ => False

/-- The same text, null twice, or numbers of one value, truth values counting as numbers. -/
def AlikeScalar : Value → Value → Prop
  | .null, .null => True
  | .text a, .text b => a = b
  | v, w => ∃ a b, v.number? = some a ∧ w.number? = some b ∧ a.equal b

/-- The same value with the same types at every level. -/
def Identical : Value → Value → Prop := Matches SameScalar

/-- The same value, whatever the types of the numbers in it. -/
def Alike : Value → Value → Prop := Matches AlikeScalar

/-- No scalar of another type is equal to this one. -/
def IsLone (x : Value) : Prop := ∀ w, AlikeScalar x w → SameScalar x w

mutual

def scalars : Value → List Value
  | .list xs => scalarsOfItems xs
  | .map es => scalarsOfEntries es
  | x => [x]

def scalarsOfItems : List Value → List Value
  | [] => []
  | x :: xs => scalars x ++ scalarsOfItems xs

def scalarsOfEntries : Entries → List Value
  | [] => []
  | (_, v) :: es => scalars v ++ scalarsOfEntries es

end

def innerScalars : Value → List Value
  | .list xs => scalarsOfItems xs
  | .map es => scalarsOfEntries es
  | _ => []

variable {scalar : Value → Value → Prop} {es fs : Entries}

/-! ## Entries -/

/-- Mappings match that are of one size, if each entry of the first is found in the second. -/
theorem matchesEntries_iff : ∀ {es fs : Entries}, (es.map Prod.fst).Nodup →
    (MatchesEntries scalar es fs ↔
      fs.length = es.length ∧ ∀ e ∈ es, ∃ w, (e.1, w) ∈ fs ∧ Matches scalar e.2 w)
  | [], fs, _ => by simp [MatchesEntries]
  | (k, v) :: es, fs, hnodup => by
    obtain ⟨hk, hnodup⟩ := List.nodup_cons.mp hnodup
    have hlength (before after : Entries) (w : Value) : (before ++ (k, w) :: after).length = ((k, v) :: es).length ↔
        (before ++ after).length = es.length := by
      simp only [List.length_append, List.length_cons]
      omega
    rw [MatchesEntries, List.forall_mem_cons]
    simp only [matchesEntries_iff hnodup]
    constructor
    · rintro ⟨before, w, after, rfl, hw, hsize, hrest⟩
      refine ⟨(hlength ..).mpr hsize, ⟨w, by simp, hw⟩, fun e he => ?_⟩
      obtain ⟨w', hmem, hw'⟩ := hrest e he
      refine ⟨w', ?_, hw'⟩
      rw [List.mem_append] at hmem ⊢
      exact hmem.imp_right (List.mem_cons_of_mem _)
    · rintro ⟨hsize, ⟨w, hmem, hw⟩, hrest⟩
      obtain ⟨before, after, rfl⟩ := List.append_of_mem hmem
      refine ⟨before, w, after, rfl, hw, (hlength ..).mp hsize, fun e he => ?_⟩
      obtain ⟨w', hmem', hw'⟩ := hrest e he
      have hne : e.1 ≠ k := by
        rintro rfl
        exact hk (List.mem_map.mpr ⟨e, he, rfl⟩)
      refine ⟨w', ?_, hw'⟩
      simpa [hne] using hmem'

theorem nodup_keys (h : es.TextKeyed) : (es.map Prod.fst).Nodup := by
  refine List.pairwise_map.mpr (h.distinct.imp_of_mem fun {e f} he _ hne heq => ?_)
  obtain ⟨s, hs⟩ := Entries.eq_text_of_isText (h.isText e he)
  rw [← heq, hs] at hne
  simp at hne

theorem perm_keys (hnodup : (fs.map Prod.fst).Nodup) (hlength : fs.length = es.length)
    (h : ∀ f ∈ fs, f.1 ∈ es.map Prod.fst) : (fs.map Prod.fst).Perm (es.map Prod.fst) := by
  have hsubset : fs.map Prod.fst ⊆ es.map Prod.fst := by
    rintro _ hk
    obtain ⟨f, hf, rfl⟩ := List.mem_map.mp hk
    exact h f hf
  exact (hnodup.subperm hsubset).perm_of_length_le (by simp [hlength])

/-- If as many keys lead from one mapping to another, they lead back. -/
theorem entries_lead_back {r : Value → Value → Prop} (hes : (es.map Prod.fst).Nodup)
    (hfs : (fs.map Prod.fst).Nodup) (hlength : fs.length = es.length)
    (h : ∀ f ∈ fs, ∃ v, (f.1, v) ∈ es ∧ r f.2 v) : ∀ e ∈ es, ∃ w, (e.1, w) ∈ fs ∧ r w e.2 := by
  intro e he
  have hkeys : (fs.map Prod.fst).Perm (es.map Prod.fst) := by
    refine perm_keys hfs hlength fun f hf => ?_
    obtain ⟨v, hmem, -⟩ := h f hf
    exact List.mem_map.mpr ⟨(f.1, v), hmem, rfl⟩
  obtain ⟨f, hf, hkey⟩ := List.mem_map.mp (hkeys.mem_iff.mpr (List.mem_map_of_mem he))
  obtain ⟨v, hmem, hr⟩ := h f hf
  have heq : (f.1, v) = e := List.inj_on_of_nodup_map hes hmem he hkey
  refine ⟨f.2, hkey ▸ hf, ?_⟩
  rw [← heq]
  exact hr

/-! ## Equality is likeness -/

theorem find?_key_eq_some_iff (h : es.TextKeyed) {k : Value} {e : Value × Value} :
    es.find? (fun f => k.equal f.1) = some e ↔ e ∈ es ∧ e.1 = k := by
  constructor
  · intro hfind
    have he := List.mem_of_find?_eq_some hfind
    obtain ⟨s, hs⟩ := Entries.eq_text_of_isText (h.isText e he)
    have hequal : k.equal e.1 := List.find?_some (p := fun f : Value × Value => k.equal f.1) hfind
    rw [hs] at hequal ⊢
    exact ⟨he, (eq_text_of_equal hequal).symm⟩
  · rintro ⟨he, rfl⟩
    obtain ⟨s, hs⟩ := Entries.eq_text_of_isText (h.isText e he)
    obtain ⟨before, after, rfl⟩ := List.append_of_mem he
    rw [List.find?_append, List.find?_eq_none.mpr, Option.none_or, List.find?_cons_of_pos]
    · simp [hs]
    · intro f hf
      have hfe := (List.pairwise_append.mp h.distinct).2.2 f hf e List.mem_cons_self
      rw [hs, ← equal_comm_of_key (a := .text s) rfl] at hfe
      simp [hs, hfe]

theorem equalEntries_iff (h : es.TextKeyed) : ∀ {fs : Entries},
    equalEntries fs es ↔ ∀ f ∈ fs, ∃ v, (f.1, v) ∈ es ∧ f.2.equal v
  | [] => by simp [equalEntries]
  | (k, w) :: fs => by
    rw [equalEntries, Bool.and_eq_true, equalEntries_iff h, List.forall_mem_cons]
    refine and_congr_left fun _ => ?_
    cases hfind : es.find? (fun f => k.equal f.1) with
    | none =>
      refine iff_of_false Bool.false_ne_true ?_
      rintro ⟨v, hmem, -⟩
      have := (find?_key_eq_some_iff h).mpr ⟨hmem, rfl⟩
      rw [hfind] at this
      cases this
    | some e =>
      obtain ⟨he, rfl⟩ := (find?_key_eq_some_iff h).mp hfind
      constructor
      · exact fun hequal => ⟨e.2, he, hequal⟩
      · rintro ⟨v, hmem, hequal⟩
        have heq : (e.1, v) = e := List.inj_on_of_nodup_map (nodup_keys h) hmem he rfl
        rw [← heq]
        exact hequal

theorem alikeScalar_number {a w : Value} {x : Number} (h : a.number? = some x) :
    AlikeScalar a w ↔ ∃ y, w.number? = some y ∧ x.equal y := by
  cases a <;> cases h <;> simp [AlikeScalar, number?]

theorem equal_number_iff {a w : Value} {x : Number} (h : a.number? = some x) :
    w.equal a ↔ AlikeScalar a w := by
  have hequal : a.equal w = Number.equalValue x w := by cases a <;> cases h <;> rfl
  rw [← equal_comm_of_number h, hequal, alikeScalar_number h, Number.equalValue]
  cases w.number? with
  | none => simp
  | some y => simp

theorem equalItems_iff_matches {xs ys : List Value} (h : ∀ x ∈ xs, ∀ v : Value, v.IsData → (v.equal x ↔ Alike x v))
    (hys : AreData ys) : equalItems ys xs ↔ MatchesItems AlikeScalar xs ys := by
  induction xs generalizing ys with
  | nil => cases ys <;> simp [equalItems, MatchesItems]
  | cons x xs ih =>
    rw [List.forall_mem_cons] at h
    cases ys with
    | nil => simp [equalItems, MatchesItems]
    | cons y ys =>
      rw [equalItems, Bool.and_eq_true, h.1 y hys.1, ih h.2 hys.2]
      simp [MatchesItems, Alike]

theorem equal_iff_alike {e v : Value} (he : e.IsJson) (hv : v.IsData) : v.equal e ↔ Alike e v := by
  induction he generalizing v with
  | null => cases v <;> simp [equal, Alike, Matches, AlikeScalar, number?, Number.equalValue]
  | bool b => exact equal_number_iff rfl
  | int n => exact equal_number_iff rfl
  | real hfinite => exact equal_number_iff rfl
  | text s =>
    cases v with
    | text t => simp [equal, Alike, Matches, AlikeScalar, eq_comm (a := s)]
    | _ => simp [equal, Alike, Matches, AlikeScalar, number?, Number.equalValue]
  | @list xs hxs ih =>
    cases v with
    | list ys =>
      change equalItems ys xs ↔ _
      rw [equalItems_iff_matches (fun x hx v hv => ih x hx hv) hv]
      simp [Alike, Matches]
    | _ => simp [equal, Alike, Matches, Number.equalValue, number?]
  | @map es hkeys hparts ih =>
    cases v with
    | map fs =>
      obtain ⟨hdistinct, hdata⟩ := isData_map_iff.mp hv
      have halike : Alike (.map es) (.map fs) ↔
          fs.length = es.length ∧ ∀ e ∈ es, ∃ w, (e.1, w) ∈ fs ∧ Alike e.2 w := by
        simp only [Alike, Matches, Value.map.injEq, exists_eq_left', ← matchesEntries_iff (nodup_keys hkeys)]
      have hequal : (Value.map fs).equal (.map es) ↔
          fs.length = es.length ∧ ∀ f ∈ fs, ∃ v, (f.1, v) ∈ es ∧ f.2.equal v := by
        rw [equal, Bool.and_eq_true, equalEntries_iff hkeys, beq_iff_eq]
      have hback {e : Value × Value} (he : e ∈ es) {w : Value} (hw : (e.1, w) ∈ fs) : w.equal e.2 ↔ Alike e.2 w :=
        ih e he (hdata _ hw).2.2
      rw [hequal, halike]
      -- when each entry of one mapping leads to one of the other, the others lead back, as there are as many
      refine and_congr_right fun hlength => ⟨fun h => ?_, fun h => ?_⟩
      · have htext : ∀ f ∈ fs, f.1.isText := by
          intro f hf
          obtain ⟨v, hmem, -⟩ := h f hf
          exact hkeys.isText (f.1, v) hmem
        have hlead := entries_lead_back (r := fun w v => w.equal v) (nodup_keys hkeys)
          (nodup_keys ⟨htext, hdistinct⟩) hlength h
        intro e he
        obtain ⟨w, hw, hequal⟩ := hlead e he
        exact ⟨w, hw, (hback he hw).mp hequal⟩
      · have hperm := perm_keys (nodup_keys hkeys) hlength.symm fun e he => by
          obtain ⟨w, hw, -⟩ := h e he
          exact List.mem_map.mpr ⟨(e.1, w), hw, rfl⟩
        refine entries_lead_back (r := fun v w => w.equal v) (hperm.nodup_iff.mp (nodup_keys hkeys))
          (nodup_keys hkeys) hlength.symm fun e he => ?_
        obtain ⟨w, hw, halike⟩ := h e he
        exact ⟨w, hw, (hback he hw).mpr halike⟩
    | _ => simp [equal, Alike, Matches, Number.equalValue, number?]

/-! ## Scalars inside a value -/

theorem mem_scalarsOfItems {s : Value} : ∀ {xs : List Value}, s ∈ scalarsOfItems xs ↔ ∃ x ∈ xs, s ∈ x.scalars
  | [] => by simp [scalarsOfItems]
  | x :: xs => by rw [scalarsOfItems, List.mem_append, mem_scalarsOfItems, List.exists_mem_cons_iff]

theorem mem_scalarsOfEntries {s : Value} : ∀ {es : Entries}, s ∈ scalarsOfEntries es ↔ ∃ e ∈ es, s ∈ e.2.scalars
  | [] => by simp [scalarsOfEntries]
  | (k, v) :: es => by rw [scalarsOfEntries, List.mem_append, mem_scalarsOfEntries, List.exists_mem_cons_iff]

theorem matches_map_iff (h : es.TextKeyed) : Matches scalar (.map es) (.map fs) ↔
    fs.length = es.length ∧ ∀ e ∈ es, ∃ w, (e.1, w) ∈ fs ∧ Matches scalar e.2 w := by
  simp only [Matches, Value.map.injEq, exists_eq_left', ← matchesEntries_iff (nodup_keys h)]

theorem matchesItems_imp {scalar' : Value → Value → Prop} {xs ys : List Value}
    (h : ∀ x ∈ xs, ∀ v, Matches scalar x v → Matches scalar' x v) (hxs : MatchesItems scalar xs ys) :
    MatchesItems scalar' xs ys := by
  induction xs generalizing ys with
  | nil => exact hxs
  | cons x xs ih =>
    rw [List.forall_mem_cons] at h
    obtain ⟨y, rest, rfl, hy, hrest⟩ := hxs
    exact ⟨y, rest, rfl, h.1 y hy, ih h.2 hrest⟩

/-- What holds between the scalars of a value and others decides what matches the value. -/
theorem matches_imp {scalar' : Value → Value → Prop} {e v : Value} (he : e.IsJson)
    (h : ∀ x ∈ e.scalars, ∀ w, scalar x w → scalar' x w) (hv : Matches scalar e v) : Matches scalar' e v := by
  induction he generalizing v with
  | null | bool _ | int _ | real _ | text _ => exact h _ List.mem_cons_self v hv
  | @list xs hxs ih =>
    obtain ⟨ys, rfl, hys⟩ := hv
    refine ⟨ys, rfl, matchesItems_imp (fun x hx v => ih x hx fun s hs => ?_) hys⟩
    exact h s (mem_scalarsOfItems.mpr ⟨x, hx, hs⟩)
  | @map es hkeys hparts ih =>
    obtain ⟨fs, rfl, -⟩ := id hv
    rw [matches_map_iff hkeys] at hv ⊢
    refine ⟨hv.1, fun e he => ?_⟩
    obtain ⟨w, hw, hmatch⟩ := hv.2 e he
    exact ⟨w, hw, ih e he (fun s hs => h s (mem_scalarsOfEntries.mpr ⟨e, he, hs⟩)) hmatch⟩

theorem alikeScalar_of_same {x w : Value} (h : SameScalar x w) : AlikeScalar x w := by
  cases x <;> cases w <;> simp_all [SameScalar, AlikeScalar, number?, Number.equal]

theorem alike_of_identical {e v : Value} (he : e.IsJson) (h : Identical e v) : Alike e v :=
  matches_imp he (fun _ _ _ => alikeScalar_of_same) h

theorem matchesItems_self : ∀ {xs : List Value}, (∀ x ∈ xs, Matches scalar x x) → MatchesItems scalar xs xs
  | [], _ => rfl
  | x :: xs, h => ⟨x, xs, rfl, h x List.mem_cons_self, matchesItems_self fun y hy => h y (List.mem_cons_of_mem x hy)⟩

theorem identical_self {e : Value} (he : e.IsJson) : Identical e e := by
  induction he with
  | null => trivial
  | bool _ | int _ | text _ => rfl
  | @real x hfinite =>
    cases x with
    | nan => cases hfinite
    | signed s r => simp [Identical, Matches, SameScalar, Binary64.equal]
  | list hxs ih => exact ⟨_, rfl, matchesItems_self ih⟩
  | map hkeys hparts ih =>
    exact (matches_map_iff hkeys).mpr ⟨rfl, fun e he => ⟨e.2, he, ih e he⟩⟩

theorem textKeyed_of_keys (h : es.TextKeyed) (hkeys : fs.map Prod.fst = es.map Prod.fst) : fs.TextKeyed := by
  have htext : ∀ k ∈ fs.map Prod.fst, k.isText := hkeys ▸ List.forall_mem_map.mpr h.isText
  have hdistinct : (fs.map Prod.fst).Pairwise fun k k' => k.equal k' = false :=
    hkeys ▸ List.pairwise_map.mpr h.distinct
  exact ⟨List.forall_mem_map.mp htext, List.pairwise_map.mp hdistinct⟩

theorem isData_of_textKeyed (h : es.TextKeyed) (hparts : ∀ e ∈ es, e.2.IsData) : (Value.map es).IsData := by
  refine isData_map_iff.mpr ⟨h.distinct, fun e he => ?_⟩
  obtain ⟨s, hs⟩ := Entries.eq_text_of_isText (h.isText e he)
  rw [hs]
  exact ⟨rfl, trivial, hparts e he⟩

theorem isData_of_isJson {e : Value} (he : e.IsJson) : e.IsData := by
  induction he with
  | null | bool _ | int _ | real _ | text _ => trivial
  | list hxs ih => exact areData_iff.mpr ih
  | map hkeys hparts ih => exact isData_of_textKeyed hkeys ih

theorem sameScalar_of_alike {x w : Value} (h : AlikeScalar x w) (htype : w.sameType x) : SameScalar x w := by
  cases x with
  | bool a =>
    cases w with
    | bool b => cases a <;> cases b <;> simp_all [SameScalar, AlikeScalar, number?, Number.equal]
    | _ => simp [sameType, typeName] at htype
  | _ => cases w <;> simp_all [sameType, typeName, SameScalar, AlikeScalar, number?, Number.equal]

/-- Numbers that are not whole are alone, and integers that are no truth value and no double. -/
theorem isLone_iff {x : Value} : x.IsLone ↔
    match x with
    | .bool _ => False
    | .int n => n ≠ 0 ∧ n ≠ 1 ∧ ∀ y : Binary64, ¬ y.equalsInt n
    | .real y => ∀ n, ¬ y.equalsInt n
    | _ => True := by
  cases x with
  | bool b =>
    refine iff_of_false (fun h => ?_) id
    exact h (.int (if b then 1 else 0)) ((alikeScalar_number rfl).mpr ⟨_, rfl, BEq.rfl⟩)
  | int n =>
    constructor
    · intro h
      refine ⟨?_, ?_, fun y hy => h (.real y) ((alikeScalar_number (x := .int n) rfl).mpr ⟨_, rfl, hy⟩)⟩
      · rintro rfl
        exact h (.bool false) ((alikeScalar_number rfl).mpr ⟨_, rfl, rfl⟩)
      · rintro rfl
        exact h (.bool true) ((alikeScalar_number rfl).mpr ⟨_, rfl, rfl⟩)
    · rintro ⟨hzero, hone, hreal⟩ w halike
      obtain ⟨b, hb, hequal⟩ := (alikeScalar_number rfl).mp halike
      cases w <;> cases hb
      -- the numbers equal to a truth value are zero and one
      · rename_i b
        cases b <;> simp [Number.equal] at hequal
        · exact absurd hequal hzero
        · exact absurd hequal hone
      · simpa [SameScalar, Number.equal] using hequal
      · exact absurd hequal (hreal _)
  | real y =>
    constructor
    · exact fun h n hn => h (.int n) ((alikeScalar_number (x := .real y) rfl).mpr ⟨_, rfl, hn⟩)
    · intro h w halike
      obtain ⟨b, hb, hequal⟩ := (alikeScalar_number rfl).mp halike
      cases w <;> cases hb
      · exact absurd hequal (h _)
      · exact absurd hequal (h _)
      · exact hequal
  | _ =>
    refine iff_of_true (fun w halike => ?_) trivial
    cases w <;> simp_all [AlikeScalar, SameScalar, number?]

theorem identical_of_alike {e v : Value} (he : e.IsJson) (htype : v.sameType e) (halike : Alike e v)
    (hlone : ∀ x ∈ e.innerScalars, x.IsLone) : Identical e v := by
  cases he with
  | null | bool _ | int _ | real _ | text _ => exact sameScalar_of_alike halike htype
  | list hxs => exact matches_imp (.list hxs) hlone halike
  | map hkeys hparts => exact matches_imp (.map hkeys hparts) hlone halike

theorem sameType_of_identical {e v : Value} (he : e.IsJson) (h : Identical e v) : v.sameType e := by
  have hscalar {x w : Value} (h : SameScalar x w) : w.sameType x := by
    cases x <;> cases w <;> first | rfl | exact h.elim
  cases he with
  | null | bool _ | int _ | real _ | text _ => exact hscalar h
  | list _ | map _ _ =>
    obtain ⟨_, rfl, -⟩ := h
    rfl

theorem scalars_of_innerScalars {e x : Value} (h : x ∈ e.innerScalars) : x ∈ e.scalars := by
  cases e with
  | list _ | map _ => exact h
  | _ => cases h

theorem exists_items_apart {xs : List Value} {y v : Value} (hxs : ∀ x ∈ xs, x.IsJson) (hy : y ∈ xs) (hv : v.IsData)
    (halike : Alike y v) (hapart : ¬ Identical y v) :
    ∃ ys, AreData ys ∧ MatchesItems AlikeScalar xs ys ∧ ¬ MatchesItems SameScalar xs ys := by
  induction xs with
  | nil => cases hy
  | cons x xs ih =>
    rw [List.forall_mem_cons] at hxs
    rcases List.mem_cons.mp hy with rfl | hy
    · refine ⟨v :: xs, ⟨hv, areData_iff.mpr fun x hx => isData_of_isJson (hxs.2 x hx)⟩, ?_, ?_⟩
      · have hself (x : Value) (hx : x ∈ xs) : Alike x x :=
          alike_of_identical (hxs.2 x hx) (identical_self (hxs.2 x hx))
        exact ⟨v, xs, rfl, halike, matchesItems_self hself⟩
      · rintro ⟨_, _, heq, hsame, -⟩
        cases heq
        exact hapart hsame
    · obtain ⟨ys, hys, halike, hapart⟩ := ih hxs.2 hy
      have hself := identical_self hxs.1
      refine ⟨x :: ys, ⟨isData_of_isJson hxs.1, hys⟩, ⟨x, ys, rfl, alike_of_identical hxs.1 hself, halike⟩, ?_⟩
      rintro ⟨_, _, heq, -, hsame⟩
      cases heq
      exact hapart hsame

theorem exists_entries_apart {f : Value × Value} {v : Value} (hkeys : es.TextKeyed) (hparts : ∀ e ∈ es, e.2.IsJson)
    (hf : f ∈ es) (hv : v.IsData) (halike : Alike f.2 v) (hapart : ¬ Identical f.2 v) :
    ∃ fs, (Value.map fs).IsData ∧ Alike (.map es) (.map fs) ∧ ¬ Identical (.map es) (.map fs) := by
  obtain ⟨before, after, rfl⟩ := List.append_of_mem hf
  have hkeysV : Entries.TextKeyed (before ++ (f.1, v) :: after) := textKeyed_of_keys hkeys (by simp)
  have hsides {e : Value × Value} (he : e ∈ before ++ after) : e ∈ before ++ f :: after := by
    rw [List.mem_append] at he ⊢
    exact he.imp_right (List.mem_cons_of_mem f)
  refine ⟨before ++ (f.1, v) :: after, ?_, ?_, ?_⟩
  · refine isData_of_textKeyed hkeysV fun e he => ?_
    rcases List.mem_append.mp he with he | he
    · exact isData_of_isJson (hparts e (List.mem_append_left _ he))
    · rcases List.mem_cons.mp he with rfl | he
      · exact hv
      · exact isData_of_isJson (hparts e (hsides (List.mem_append_right _ he)))
  · refine (matches_map_iff hkeys).mpr ⟨by simp, fun e he => ?_⟩
    have hself := alike_of_identical (hparts e he) (identical_self (hparts e he))
    rcases List.mem_append.mp he with he | he
    · exact ⟨e.2, List.mem_append_left _ he, hself⟩
    · rcases List.mem_cons.mp he with rfl | he
      · exact ⟨v, by simp, halike⟩
      · exact ⟨e.2, List.mem_append_right _ (List.mem_cons_of_mem _ he), hself⟩
  · intro hsame
    obtain ⟨w, hw, hsame⟩ := ((matches_map_iff hkeys).mp hsame).2 f hf
    have heq : (f.1, w) = (f.1, v) := List.inj_on_of_nodup_map (nodup_keys hkeysV) hw (by simp) rfl
    cases heq
    exact hapart hsame

/-- A scalar with a twin of another type makes room for a value that is alike and not identical. -/
theorem exists_alike_apart {e x w : Value} (he : e.IsJson) (hx : x ∈ e.scalars) (halike : AlikeScalar x w)
    (happart : ¬ SameScalar x w) :
    ∃ v, v.IsData ∧ Alike e v ∧ ¬ Identical e v ∧ (x ∈ e.innerScalars → v.sameType e) := by
  have hw : w.IsData := by
    cases w with
    | list _ | tuple _ | set _ | map _ => cases x <;> simp [AlikeScalar, number?] at halike
    | _ => trivial
  induction he with
  | null | bool _ | int _ | real _ | text _ =>
    obtain rfl := List.mem_singleton.mp hx
    exact ⟨w, hw, halike, happart, fun hinner => nomatch hinner⟩
  | list hxs ih =>
    obtain ⟨y, hy, hxy⟩ := mem_scalarsOfItems.mp hx
    obtain ⟨v, hv, hyv, hapart, -⟩ := ih y hy hxy
    obtain ⟨ys, hys, halike, hapart⟩ := exists_items_apart hxs hy hv hyv hapart
    refine ⟨.list ys, hys, ⟨ys, rfl, halike⟩, ?_, fun _ => rfl⟩
    rintro ⟨_, heq, hsame⟩
    cases heq
    exact hapart hsame
  | map hkeys hparts ih =>
    obtain ⟨f, hf, hxf⟩ := mem_scalarsOfEntries.mp hx
    obtain ⟨v, hv, hfv, hapart, -⟩ := ih f hf hxf
    obtain ⟨fs, hfs, halike, hapart⟩ := exists_entries_apart hkeys hparts hf hv hfv hapart
    exact ⟨.map fs, hfs, halike, hapart, fun _ => rfl⟩

end Value

end Scaffold
