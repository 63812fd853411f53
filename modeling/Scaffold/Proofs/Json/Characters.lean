import Scaffold.Proofs.Json.ReadBack
import Scaffold.Proofs.Number.Layout

/-!
# Control characters in JSON texts

Strings are written with their control characters escaped. So no control
character stands in the text of a JSON value but the line feeds around its
items (`Json.control_notMem_writeJson`).
-/

namespace Scaffold.Json

variable {control : Char} {st : JsonStyle} {depth : Nat}

theorem control_notMem (h : control.toNat < 32) {cs : List Char} (hcs : ∀ c ∈ cs, 32 ≤ c.toNat) : control ∉ cs :=
  fun hmem => absurd h (Nat.not_lt.mpr (hcs control hmem))

theorem control_notMem_numeral (h : control.toNat < 32) {cs : List Char} (hcs : Decimal.Numeral cs) : control ∉ cs := by
  intro hmem
  rcases hcs.chars control hmem with hdigit | hmark
  · rw [Text.isDigit_of_control h] at hdigit
    cases hdigit
  · exact control_notMem h (by decide) hmark

section
variable {c : Char} (hbreak : c ∉ [',', '\n', ' ']) (st : JsonStyle) (depth : Nat)
include hbreak

theorem notMem_lineBreak : c ∉ (st.lineBreak depth).toList := by
  simp only [List.mem_cons, List.not_mem_nil, or_false, not_or] at hbreak
  unfold JsonStyle.lineBreak
  split
  · simp [hbreak]
  · simp

theorem notMem_separator : c ∉ (st.separator depth).toList := by
  have hline := notMem_lineBreak hbreak st depth
  simp only [List.mem_cons, List.not_mem_nil, or_false, not_or] at hbreak
  unfold JsonStyle.separator
  split
  · simp [hbreak, hline]
  · simp [hbreak]

theorem notMem_enclose {opening closing : String} (hopening : c ∉ opening.toList) (hclosing : c ∉ closing.toList)
    {items : List String} (h : ∀ item ∈ items, c ∉ item.toList) :
    c ∉ (st.enclose depth opening closing items).toList := by
  have hitems : ∀ part ∈ items.map String.toList, c ∉ part := List.forall_mem_map.mpr h
  have hjoined := Text.notMem_intercalate _ (notMem_separator hbreak st (depth + 1)) hitems
  unfold JsonStyle.enclose
  split
  · simp [hopening, hclosing]
  · simp [hopening, hclosing, notMem_lineBreak hbreak, String.toList_intercalate, hjoined]

end

theorem control_notMem_writeJson (h : control.toNat < 32) (hfeed : control ≠ '\n') (hst : Keeps st) {v : Value}
    (hv : v.IsJson) {text : String} (htext : v.writeJson st depth = .ok text) : control ∉ text.toList := by
  have hbreak : control ∉ [',', '\n', ' '] := by
    have hblank : control ∉ [',', ' '] := control_notMem h (by decide)
    simp only [List.mem_cons, List.not_mem_nil, or_false, not_or] at hblank ⊢
    exact ⟨hblank.1, hfeed, hblank.2⟩
  induction hv generalizing depth text with
  | null =>
    cases htext
    exact control_notMem h (by decide)
  | bool b =>
    cases htext
    cases b <;> exact control_notMem h (by decide)
  | int n =>
    cases htext
    exact control_notMem_numeral h (Decimal.numeral_intText n)
  | real hfinite =>
    cases htext
    exact control_notMem_numeral h (Decimal.numeral_render st.numbers hfinite)
  | text s =>
    cases htext
    rw [hst.string]
    exact Text.control_notMem_jsonString h s
  | list hxs ih =>
    obtain ⟨texts, htexts, rfl⟩ := writeJson_list_eq_ok htext
    refine notMem_enclose hbreak st depth (control_notMem h (by decide)) (control_notMem h (by decide)) ?_
    exact forall_mem_of_forall₂ (forall₂_writeJsonItems htexts) fun x hx text => ih x hx
  | map hkeys hparts ih =>
    obtain ⟨texts, htexts, rfl⟩ := writeJson_map_eq_ok hst.sortKeys htext
    refine notMem_enclose hbreak st depth (control_notMem h (by decide)) (control_notMem h (by decide)) ?_
    refine forall_mem_of_forall₂ (forall₂_writeJsonEntries hst hkeys.isText htexts) fun e he text htext => ?_
    obtain ⟨key, written, -, hwritten, rfl⟩ := htext
    have hcolon : control ∉ ": ".toList := control_notMem h (by decide)
    rw [String.toList_append, String.toList_append, List.mem_append, List.mem_append]
    exact not_or.mpr ⟨not_or.mpr ⟨Text.control_notMem_jsonString h key, hcolon⟩, ih e he hwritten⟩

end Scaffold.Json
