import Scaffold.Value.Basic

/-!
# Entries of mappings

Lookups under text keys, mappings written entry by entry (`Entries.ofList`),
whose keys are distinct, and values without the mark of a missing one: no
lookup and no position of theirs gives that mark.
-/

namespace Scaffold

@[simp] theorem Value.equal_text (a b : String) : (Value.text a).equal (.text b) = (a == b) := by
  simp [Value.equal]

theorem Value.eq_text_of_equal {v : Value} {s : String} (h : v.equal (.text s) = true) : v = .text s := by
  cases v <;> simp_all [Value.equal, Value.Number.equalValue, Value.number?]

theorem Value.entries?_eq_some_iff {v : Value} {es : Entries} : v.entries? = some es ↔ v = .map es := by
  cases v <;> simp [Value.entries?]

theorem Value.field?_map {es : Entries} {key : String} :
    (Value.map es).field? key = es.getText? key := rfl

namespace Entries

@[simp] theorem getText?_nil (key : String) : getText? [] key = none := rfl

theorem getText?_cons_text (key' : String) (v : Value) (es : Entries) (key : String) :
    getText? ((.text key', v) :: es) key = if key' = key then some v else getText? es key := by
  by_cases h : key' = key
  · simp [getText?, get?, h]
  · simp [getText?, get?, h, beq_false_of_ne h]

theorem mem_of_getText? {es : Entries} {key : String} {v : Value} (h : es.getText? key = some v) :
    ∃ k, (k, v) ∈ es := by
  simp only [getText?, get?, Option.map_eq_some_iff] at h
  obtain ⟨e, he, rfl⟩ := h
  exact ⟨e.1, List.mem_of_find?_eq_some he⟩

/-- What a lookup under a text key finds stands under that very key. -/
theorem mem_text_of_getText? {es : Entries} {key : String} {v : Value}
    (h : es.getText? key = some v) : (.text key, v) ∈ es := by
  simp only [getText?, get?, Option.map_eq_some_iff] at h
  obtain ⟨e, he, rfl⟩ := h
  have hk : e.1 = .text key := Value.eq_text_of_equal (by simpa using List.find?_some he)
  rw [← hk]
  exact List.mem_of_find?_eq_some he

/-! ## Writing entries -/

/-- No key is equal to one that comes after it. -/
def Distinct (es : Entries) : Prop := es.Pairwise fun e f => e.1.equal f.1 = false

theorem distinct_of_nodup {α : Type} {key : α → String} {value : α → Value} {xs : List α}
    (h : (xs.map key).Nodup) : Distinct (xs.map fun x => (.text (key x), value x)) := by
  rw [Distinct, List.pairwise_map]
  refine List.Pairwise.imp (fun hne => ?_) (List.pairwise_map.mp h)
  simpa using hne

/-- What is written has its key and its value from an entry that was there or from the new one. -/
theorem mem_put {e : Value × Value} {k v : Value} : ∀ {es : Entries}, e ∈ put es k v →
    (e.1 = k ∨ ∃ f ∈ es, e.1 = f.1) ∧ (e.2 = v ∨ ∃ f ∈ es, e.2 = f.2)
  | [], he => by
    cases List.mem_singleton.mp he
    exact ⟨Or.inl rfl, Or.inl rfl⟩
  | (k', v') :: es, he => by
    unfold put at he
    split at he
    · rcases List.mem_cons.mp he with rfl | he
      · exact ⟨Or.inr ⟨(k', v'), List.mem_cons_self, rfl⟩, Or.inl rfl⟩
      · exact ⟨Or.inr ⟨e, List.mem_cons_of_mem _ he, rfl⟩, Or.inr ⟨e, List.mem_cons_of_mem _ he, rfl⟩⟩
    · rcases List.mem_cons.mp he with rfl | he
      · exact ⟨Or.inr ⟨_, List.mem_cons_self, rfl⟩, Or.inr ⟨_, List.mem_cons_self, rfl⟩⟩
      · obtain ⟨hkey, hvalue⟩ := mem_put he
        refine ⟨hkey.imp_right ?_, hvalue.imp_right ?_⟩
        · exact fun ⟨f, hf, h⟩ => ⟨f, List.mem_cons_of_mem _ hf, h⟩
        · exact fun ⟨f, hf, h⟩ => ⟨f, List.mem_cons_of_mem _ hf, h⟩

theorem key_of_mem_put {e : Value × Value} {k v : Value} {es : Entries} (h : e ∈ put es k v) :
    e.1 = k ∨ ∃ f ∈ es, e.1 = f.1 := (mem_put h).1

theorem put_distinct {k v : Value} : ∀ {es : Entries}, es.Distinct → (put es k v).Distinct
  | [], _ => List.pairwise_singleton _ _
  | (k', v') :: es, h => by
    obtain ⟨hhead, htail⟩ := List.pairwise_cons.mp h
    unfold put
    split
    · exact List.pairwise_cons.mpr ⟨hhead, htail⟩
    · rename_i hk
      refine List.pairwise_cons.mpr ⟨fun f hf => ?_, put_distinct htail⟩
      rcases key_of_mem_put hf with h | ⟨g, hg, h⟩
      · simpa [h] using hk
      · rw [h]
        exact hhead g hg

theorem put_of_fresh {k v : Value} : ∀ {es : Entries}, (∀ e ∈ es, e.1.equal k = false) →
    put es k v = es ++ [(k, v)]
  | [], _ => rfl
  | (k', v') :: es, h => by
    obtain ⟨hhead, htail⟩ := List.forall_mem_cons.mp h
    simp only [put, hhead, Bool.false_eq_true, if_false, put_of_fresh htail, List.cons_append]

theorem foldl_put_distinct {es out : Entries} (h : out.Distinct) :
    Distinct (es.foldl (fun m e => put m e.1 e.2) out) :=
  List.foldlRecOn (motive := Distinct) es _ h fun _ hm _ _ => put_distinct hm

theorem ofList_distinct (es : Entries) : (ofList es).Distinct := foldl_put_distinct List.Pairwise.nil

theorem foldl_put_of_distinct : ∀ {es out : Entries}, Distinct (out ++ es) →
    es.foldl (fun m e => put m e.1 e.2) out = out ++ es
  | [], out, _ => (List.append_nil out).symm
  | (k, v) :: es, out, h => by
    have fresh : ∀ e ∈ out, e.1.equal k = false := fun e he =>
      (List.pairwise_append.mp h).2.2 e he (k, v) List.mem_cons_self
    have hout : put out k v ++ es = out ++ (k, v) :: es := by
      rw [put_of_fresh fresh, List.append_assoc, List.cons_append, List.nil_append]
    rw [List.foldl_cons, foldl_put_of_distinct (hout ▸ h), hout]

theorem ofList_ofList (es : Entries) : ofList (ofList es) = ofList es :=
  foldl_put_of_distinct (ofList_distinct es)

theorem key_of_mem_foldl_put {e : Value × Value} {es out : Entries}
    (he : e ∈ es.foldl (fun m e => put m e.1 e.2) out) : ∃ f ∈ out ++ es, e.1 = f.1 := by
  refine List.foldlRecOn (motive := fun m : Entries => ∀ e ∈ m, ∃ f ∈ out ++ es, e.1 = f.1) es _
    (fun e he => ⟨e, List.mem_append_left _ he, rfl⟩) (fun m hm f hf e he => ?_) e he
  rcases key_of_mem_put he with hk | ⟨g, hg, hk⟩
  · exact ⟨f, List.mem_append_right _ hf, hk⟩
  · obtain ⟨f', hf', h⟩ := hm g hg
    exact ⟨f', hf', hk.trans h⟩

theorem key_of_mem_ofList {es : Entries} {e : Value × Value} (h : e ∈ ofList es) :
    ∃ f ∈ es, e.1 = f.1 := key_of_mem_foldl_put h

end Entries

theorem Value.field?_ofFields (key : String) : ∀ (fs : List (String × Value)),
    (Value.ofFields fs).field? key = fs.lookup key
  | [] => rfl
  | (key', v) :: fs => by
    have ih := Value.field?_ofFields key fs
    rw [Value.ofFields, Value.field?_map] at ih
    rw [Value.ofFields, Value.field?_map, List.map_cons, Entries.getText?_cons_text, ih,
      List.lookup_cons]
    by_cases h : key' = key
    · simp [h]
    · simp [h, beq_false_of_ne (Ne.symm h)]

namespace Value

mutual

def isPresent : Value → Bool
  | .missing => false
  | .list xs => arePresent xs
  | .tuple xs => arePresent xs
  | .set xs => arePresent xs
  | .map es => arePresentEntries es
  | _ => true

def arePresent : List Value → Bool
  | [] => true
  | x :: xs => isPresent x && arePresent xs

def arePresentEntries : Entries → Bool
  | [] => true
  | (k, v) :: es => isPresent k && isPresent v && arePresentEntries es

end

theorem arePresent_iff : ∀ {xs : List Value}, arePresent xs ↔ ∀ x ∈ xs, x.isPresent
  | [] => iff_of_true rfl (List.forall_mem_nil _)
  | x :: xs => by rw [arePresent, Bool.and_eq_true, arePresent_iff, List.forall_mem_cons]

theorem arePresentEntries_iff : ∀ {es : Entries}, arePresentEntries es ↔ ∀ e ∈ es, e.1.isPresent ∧ e.2.isPresent
  | [] => iff_of_true rfl (List.forall_mem_nil _)
  | (k, v) :: es => by
    rw [arePresentEntries, Bool.and_eq_true, Bool.and_eq_true, arePresentEntries_iff, List.forall_mem_cons]

theorem isPresent_items {v : Value} {xs : List Value} (h : v.isPresent) (hv : v.items? = some xs) :
    ∀ x ∈ xs, x.isPresent := by
  cases v <;> simp only [items?, Option.some.injEq, reduceCtorEq] at hv
  all_goals
    subst hv
    exact arePresent_iff.mp (by simpa [isPresent] using h)

theorem isPresent_field {v w : Value} {key : String} (h : v.isPresent)
    (hw : v.field? key = some w) : w.isPresent := by
  simp only [field?, Option.bind_eq_some_iff] at hw
  obtain ⟨es, hes, hw⟩ := hw
  cases v <;> simp only [entries?, Option.some.injEq, reduceCtorEq] at hes
  subst hes
  obtain ⟨k, hk⟩ := Entries.mem_of_getText? hw
  exact (arePresentEntries_iff.mp (by simpa [isPresent] using h) _ hk).2

end Value

end Scaffold
