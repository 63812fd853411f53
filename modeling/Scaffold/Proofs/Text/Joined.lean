import Mathlib.Data.List.Infix

/-!
# Joined texts

The parts of a joined text, behind the first of them, each follow a separator.
Each part stands in the text, and what stands behind it is nothing or begins
with a separator. Texts of one length keep their order with anything behind
them.
-/

namespace Scaffold.Text

variable (sep : List Char) {part : List Char}

theorem intercalate_cons_eq (first : List Char) : ∀ parts : List (List Char),
    sep.intercalate (first :: parts) = first ++ parts.flatMap (sep ++ ·)
  | [] => by simp
  | part :: parts => by
    rw [List.intercalate_cons_of_ne_nil (List.cons_ne_nil part parts), intercalate_cons_eq part parts,
      List.flatMap_cons, List.append_assoc, List.append_assoc]

theorem suffix_intercalate : ∀ {parts : List (List Char)}, part ∈ parts →
    ∃ behind, part ++ behind <:+ sep.intercalate parts ∧ (behind = [] ∨ sep <+: behind)
  | [_], h => by
    obtain rfl := List.mem_singleton.mp h
    exact ⟨[], by simp, Or.inl rfl⟩
  | first :: next :: parts, h => by
    rw [List.intercalate_cons_cons]
    rcases List.mem_cons.mp h with rfl | h
    · refine ⟨sep ++ sep.intercalate (next :: parts), ?_, Or.inr (List.prefix_append _ _)⟩
      rw [List.append_assoc]
    · obtain ⟨behind, hsuffix, hbehind⟩ := suffix_intercalate h
      exact ⟨behind, hsuffix.trans (List.suffix_append _ _), hbehind⟩

theorem infix_intercalate {parts : List (List Char)} (h : part ∈ parts) : part <:+: sep.intercalate parts := by
  obtain ⟨behind, hsuffix, -⟩ := suffix_intercalate sep h
  exact (List.prefix_append part behind).isInfix.trans hsuffix.isInfix

theorem last_suffix_intercalate (parts : List (List Char)) (last : List Char) :
    last <:+ sep.intercalate (parts ++ [last]) := by
  induction parts with
  | nil => simp
  | cons first parts ih =>
    rw [List.cons_append, List.intercalate_cons_of_ne_nil (by simp)]
    exact ih.trans (List.suffix_append _ _)

theorem notMem_intercalate {c : Char} (hsep : c ∉ sep) : ∀ {parts : List (List Char)}, (∀ part ∈ parts, c ∉ part) →
    c ∉ sep.intercalate parts
  | [], _ => List.not_mem_nil
  | first :: parts, h => by
    rw [List.forall_mem_cons] at h
    rw [intercalate_cons_eq, List.mem_append, List.mem_flatMap]
    rintro (hfirst | ⟨part, hpart, hc⟩)
    · exact h.1 hfirst
    · rcases List.mem_append.mp hc with hc | hc
      · exact hsep hc
      · exact h.2 part hpart hc

/-! ## Order -/

theorem append_lt_append {α : Type} [LT α] {xs ys : List α} (h : xs < ys) (hlength : xs.length = ys.length)
    (xs' ys' : List α) : xs ++ xs' < ys ++ ys' := by
  induction h with
  | nil => cases hlength
  | rel h => exact .rel h
  | cons _ ih => exact .cons (ih (Nat.succ.inj hlength))

end Scaffold.Text
