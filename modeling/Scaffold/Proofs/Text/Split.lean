import Mathlib.Algebra.GroupWithZero.Nat
import Mathlib.Data.List.Basic
import Scaffold.Text.Split

/-!
# Texts cut at a character and into lines

A text has one piece more than it has separators, and joined texts are cut into
the pieces of each. So joined texts are cut into themselves exactly when no
separator stands in one of them (`Text.split_intercalate_iff`). The lines of a
text with their breaks joined are the text; without them they keep every other
character.
-/

namespace Scaffold.Text

variable {sep : Char}

theorem split_ne_nil (sep : Char) : ∀ cs : List Char, split sep cs ≠ []
  | [] => by simp [split]
  | c :: cs => by
    unfold split
    split
    · simp
    · split <;> simp

theorem split_cons_of_ne {c : Char} (h : c ≠ sep) (cs : List Char) :
    ∃ piece pieces, split sep cs = piece :: pieces ∧ split sep (c :: cs) = (c :: piece) :: pieces := by
  obtain ⟨piece, pieces, hsplit⟩ := List.exists_cons_of_ne_nil (split_ne_nil sep cs)
  exact ⟨piece, pieces, hsplit, by rw [split, if_neg h, hsplit]⟩

theorem split_sep (xs ys : List Char) : split sep (xs ++ sep :: ys) = split sep xs ++ split sep ys := by
  induction xs with
  | nil => simp [split]
  | cons c xs ih =>
    by_cases h : c = sep
    · simp [split, h, ih]
    · obtain ⟨piece, pieces, hxs, hcons⟩ := split_cons_of_ne h xs
      rw [hcons, List.cons_append, split, if_neg h, ih, hxs]
      rfl

theorem split_of_notMem {xs : List Char} (h : sep ∉ xs) : split sep xs = [xs] := by
  induction xs with
  | nil => rfl
  | cons c xs ih =>
    rw [List.mem_cons, not_or] at h
    rw [split, if_neg (Ne.symm h.1), ih h.2]

theorem notMem_of_mem_split {piece : List Char} : ∀ {xs : List Char}, piece ∈ split sep xs → sep ∉ piece
  | [], h => by
    rw [split, List.mem_singleton] at h
    simp [h]
  | c :: xs, h => by
    by_cases hc : c = sep
    · rw [split, if_pos hc, List.mem_cons] at h
      rcases h with rfl | h
      · simp
      · exact notMem_of_mem_split h
    · obtain ⟨first, pieces, hxs, hcons⟩ := split_cons_of_ne hc xs
      rw [hcons, List.mem_cons] at h
      rcases h with rfl | h
      · have hmem : first ∈ split sep xs := by simp [hxs]
        simp [notMem_of_mem_split hmem, Ne.symm hc]
      · have hmem : piece ∈ split sep xs := by simp [hxs, h]
        exact notMem_of_mem_split hmem

/-- What is added behind the last separator belongs to the last piece. -/
theorem split_ending {ending : List Char} (h : sep ∉ ending) (xs : List Char) :
    split sep (xs ++ ending) =
      (split sep xs).dropLast ++ [(split sep xs).getLast (split_ne_nil sep xs) ++ ending] := by
  induction xs with
  | nil => simp [split, split_of_notMem h]
  | cons c xs ih =>
    by_cases hc : c = sep
    · obtain ⟨piece, pieces, hxs⟩ := List.exists_cons_of_ne_nil (split_ne_nil sep xs)
      simp only [List.cons_append, split, hc, if_true, ih, hxs]
      rfl
    · obtain ⟨piece, pieces, hxs, hcons⟩ := split_cons_of_ne hc xs
      simp only [List.cons_append, split, hc, if_false, ih, hxs]
      cases pieces <;> simp

theorem split_intercalate {sep : Char} : ∀ {parts : List (List Char)}, parts ≠ [] →
    split sep ([sep].intercalate parts) = parts.flatMap (split sep)
  | [part], _ => by simp
  | part :: part' :: parts, _ => by
    rw [List.intercalate_cons_cons, List.append_assoc, List.singleton_append, split_sep,
      split_intercalate (List.cons_ne_nil part' parts)]
    rfl

theorem length_split (sep : Char) (cs : List Char) : (split sep cs).length = cs.count sep + 1 := by
  induction cs with
  | nil => rfl
  | cons c cs ih =>
    by_cases h : c = sep
    · rw [split, if_pos h, h, List.length_cons, ih, List.count_cons_self]
    · obtain ⟨piece, pieces, hcs, hcons⟩ := split_cons_of_ne h cs
      rw [hcons, List.count_cons_of_ne h, ← ih, hcs]
      rfl

/-- Joined texts are cut where they were joined unless one of them has a separator. -/
theorem split_intercalate_iff {parts : List (List Char)} (hne : parts ≠ []) :
    split sep ([sep].intercalate parts) = parts ↔ ∀ part ∈ parts, sep ∉ part := by
  constructor
  · intro h part hpart
    rw [← h] at hpart
    exact notMem_of_mem_split hpart
  · intro h
    have hpieces : parts.flatMap (split sep) = parts.flatMap fun part => [part] :=
      List.flatMap_congr fun part hpart => split_of_notMem (h part hpart)
    rw [split_intercalate hne, hpieces, List.flatMap_singleton']

/-! ## Lines -/

theorem flatten_lineSpans (line cs : List Char) :
    ((lineSpans line cs).flatMap fun l => l.1 ++ l.2) = line.reverse ++ cs := by
  fun_induction lineSpans line cs with
  | case1 line hempty => simp [List.isEmpty_iff.mp hempty]
  | case2 line hempty => simp
  | case3 line rest ih => simp [ih]
  | case4 line c rest _ hbreak ih => simp [ih]
  | case5 line c rest _ hbreak ih => simp [ih]

theorem flatten_linesWithBreaks (s : String) : (linesWithBreaks s).flatMap String.toList = s.toList := by
  rw [linesWithBreaks, List.flatMap_map]
  simp only [String.toList_ofList]
  exact flatten_lineSpans [] s.toList

theorem count_lineSpans {d : Char} (hd : isLineBreak d = false) (line cs : List Char) :
    ((lineSpans line cs).map fun l => l.1.count d).sum = line.count d + cs.count d := by
  have hne {c : Char} (hc : isLineBreak c) : c ≠ d := fun heq => by simp [heq, hd] at hc
  fun_induction lineSpans line cs with
  | case1 line hline => simp [List.isEmpty_iff.mp hline]
  | case2 line hline => simp
  | case3 line rest ih => simp [ih, hne (c := '\r') rfl, hne (c := '\n') rfl]
  | case4 line c rest hnot hbreak ih => simp [ih, hne hbreak]
  | case5 line c rest hnot hbreak ih =>
    rw [ih, List.count_cons, List.count_cons]
    omega

end Scaffold.Text
