import Mathlib.Data.List.Induction
import Scaffold.Proofs.Value.Entries
import Scaffold.Proofs.Value.Parts

/-!
# Writes in a row

A text key that writes in a row write is mapped to what is written last under
it, and any other one to what it was mapped to before (`Entries.getText?_putAll`).
A mapping with text keys is its keys in their order and what it maps them to, so
that the same writes made a second time change nothing (`Entries.putAll_putAll`).
-/

namespace Scaffold.Entries

/-! ## Lookups -/

theorem getText?_put (es : Entries) (s : String) (v : Value) (key : String) :
    (es.put (.text s) v).getText? key = if s = key then some v else es.getText? key := by
  induction es with
  | nil => exact getText?_cons_text s v [] key
  | cons e es ih =>
    obtain ⟨k, w⟩ := e
    by_cases hk : k.equal (.text s)
    · obtain rfl := Value.eq_text_of_equal hk
      rw [put, if_pos hk, getText?_cons_text, getText?_cons_text]
      split <;> rfl
    · rw [put, if_neg hk]
      simp only [getText?, get?, List.find?_cons] at ih ⊢
      by_cases hkey : k.equal (.text key)
      · have hne : s ≠ key := fun h => hk (h ▸ hkey)
        simp [hkey, hne]
      · simpa [hkey] using ih

def lastText? (writes : Entries) (key : String) : Option Value := getText? writes.reverse key

theorem lastText?_snoc (writes : Entries) (s : String) (v : Value) (key : String) :
    lastText? (writes ++ [(.text s, v)]) key = if s = key then some v else lastText? writes key := by
  rw [lastText?, List.reverse_append, List.reverse_singleton, List.singleton_append, getText?_cons_text, lastText?]

theorem putAll_append (es writes more : Entries) : es.putAll (writes ++ more) = (es.putAll writes).putAll more :=
  List.foldl_append

theorem eq_text_of_isText {k : Value} (h : k.isText) : ∃ s, k = .text s := by
  cases k <;> simp_all [Value.isText]

/-- **Last write wins.** -/
theorem getText?_putAll (es : Entries) {writes : Entries} (h : ∀ w ∈ writes, w.1.isText) (key : String) :
    (es.putAll writes).getText? key = (lastText? writes key).or (es.getText? key) := by
  induction writes using List.reverseRecOn with
  | nil => rfl
  | append_singleton writes w ih =>
    obtain ⟨hwrites, hw⟩ := List.forall_mem_append.mp h
    obtain ⟨k, v⟩ := w
    obtain ⟨s, rfl⟩ := eq_text_of_isText (hw _ List.mem_cons_self)
    have hput : es.putAll (writes ++ [(.text s, v)]) = (es.putAll writes).put (.text s) v := putAll_append ..
    rw [hput, getText?_put, lastText?_snoc, ih hwrites]
    split <;> rfl

theorem isSome_lastText? {writes : Entries} {key : String} {v : Value} (h : (.text key, v) ∈ writes) :
    (lastText? writes key).isSome := by
  simp only [lastText?, getText?, get?, Option.isSome_map, List.find?_isSome, List.mem_reverse]
  exact ⟨_, h, by simp⟩

/-! ## Mappings with text keys -/

structure TextKeyed (es : Entries) : Prop where
  isText : ∀ e ∈ es, e.1.isText
  distinct : es.Distinct

theorem textKeyed_of_gives {v : Value} {es : Entries} (h : v.GivesTextMap es) : TextKeyed es := by
  obtain ⟨fs, -, hfs, rfl⟩ := h
  refine ⟨fun e he => ?_, ofList_distinct fs⟩
  obtain ⟨f, hf, hk⟩ := key_of_mem_ofList he
  exact hk ▸ hfs f hf

theorem textKeyed_nil : TextKeyed [] := ⟨List.forall_mem_nil _, List.Pairwise.nil⟩

namespace TextKeyed
variable {es fs writes : Entries}

theorem gives (h : es.TextKeyed) : (Value.map es).GivesTextMap es :=
  ⟨es, rfl, h.isText, (@foldl_put_of_distinct es [] h.distinct).symm⟩

theorem putAll (h : es.TextKeyed) (hwrites : ∀ w ∈ writes, w.1.isText) : (es.putAll writes).TextKeyed := by
  refine ⟨fun e he => ?_, foldl_put_distinct h.distinct⟩
  obtain ⟨f, hf, hk⟩ := key_of_mem_foldl_put he
  rw [hk]
  exact (List.mem_append.mp hf).elim (h.isText f) (hwrites f)

theorem getText?_of_mem (h : es.TextKeyed) {key : String} {v : Value} (hv : (.text key, v) ∈ es) :
    es.getText? key = some v := by
  induction es with
  | nil => cases hv
  | cons e es ih =>
    obtain ⟨hhead, htail⟩ := List.pairwise_cons.mp h.distinct
    rcases List.mem_cons.mp hv with rfl | hv
    · rw [getText?_cons_text, if_pos rfl]
    · have hne : e.1.equal (.text key) = false := hhead _ hv
      rw [getText?, get?, List.find?_cons, hne]
      exact ih ⟨fun f hf => h.isText f (List.mem_cons_of_mem e hf), htail⟩ hv

theorem eq_of_getText?_eq (hes : es.TextKeyed) (hfs : fs.TextKeyed) (hkeys : es.map Prod.fst = fs.map Prod.fst)
    (h : ∀ key, es.getText? key = fs.getText? key) : es = fs := by
  have entry {es : Entries} (hes : es.TextKeyed) :
      ∀ e ∈ es, ∃ key, e.1 = .text key ∧ es.getText? key = some e.2 := fun e he => by
    obtain ⟨key, hkey⟩ := eq_text_of_isText (hes.isText e he)
    exact ⟨key, hkey, hes.getText?_of_mem (hkey ▸ he)⟩
  refine List.ext_getElem (by simpa using congrArg List.length hkeys) fun i hi hj => ?_
  obtain ⟨key, hkey, hv⟩ := entry hes _ (List.getElem_mem hi)
  obtain ⟨key', hkey', hv'⟩ := entry hfs _ (List.getElem_mem hj)
  have hi' : i < (es.map Prod.fst).length := by rwa [List.length_map]
  have hfst : es[i].1 = fs[i].1 := by
    simpa only [List.getElem_map] using List.getElem_of_eq hkeys hi'
  obtain rfl : key = key' := Value.text.inj (hkey.symm.trans (hfst.trans hkey'))
  exact Prod.ext hfst (Option.some.inj (hv.symm.trans ((h key).trans hv')))

end TextKeyed

/-! ## Writes made again -/

theorem keys_put_of_isSome {s : String} (v : Value) {es : Entries} (h : (es.getText? s).isSome) :
    (es.put (.text s) v).map Prod.fst = es.map Prod.fst := by
  induction es with
  | nil => cases h
  | cons e es ih =>
    obtain ⟨k, w⟩ := e
    by_cases hk : k.equal (.text s)
    · rw [put, if_pos hk, List.map_cons, List.map_cons]
    · have htail : (getText? es s).isSome := by
        simpa [getText?, get?, List.find?_cons, hk] using h
      rw [put, if_neg hk, List.map_cons, List.map_cons, ih htail]

theorem keys_putAll_of_isSome {writes es : Entries}
    (h : ∀ w ∈ writes, ∃ s, w.1 = .text s ∧ (es.getText? s).isSome) :
    (es.putAll writes).map Prod.fst = es.map Prod.fst := by
  induction writes using List.reverseRecOn with
  | nil => rfl
  | append_singleton writes w ih =>
    obtain ⟨hwrites, hw⟩ := List.forall_mem_append.mp h
    obtain ⟨k, v⟩ := w
    obtain ⟨s, rfl, hs⟩ := hw _ List.mem_cons_self
    have hstill : ((es.putAll writes).getText? s).isSome := by
      rw [getText?_putAll es fun w hw => by
        obtain ⟨t, ht, -⟩ := hwrites w hw
        rw [ht]; rfl]
      simp [hs]
    have hput : es.putAll (writes ++ [(.text s, v)]) = (es.putAll writes).put (.text s) v := putAll_append ..
    rw [hput, keys_put_of_isSome v hstill, ih hwrites]

theorem putAll_putAll {es writes : Entries} (hes : es.TextKeyed) (h : ∀ w ∈ writes, w.1.isText) :
    (es.putAll writes).putAll writes = es.putAll writes := by
  have hone := hes.putAll h
  refine (hone.putAll h).eq_of_getText?_eq hone (keys_putAll_of_isSome fun w hw => ?_) fun key => ?_
  · obtain ⟨k, v⟩ := w
    obtain ⟨s, rfl⟩ := eq_text_of_isText (h _ hw)
    refine ⟨s, rfl, ?_⟩
    rw [getText?_putAll es h, Option.isSome_or, isSome_lastText? hw, Bool.true_or]
  · rw [getText?_putAll _ h, getText?_putAll es h]
    cases lastText? writes key <;> rfl

end Scaffold.Entries
