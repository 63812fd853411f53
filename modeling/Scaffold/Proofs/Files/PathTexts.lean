import Scaffold.Proofs.Files.Orderly
import Scaffold.Proofs.Text.Joined

/-!
# Paths read back from their texts

The segments of a path are what its text is cut into, and the slashes in front
tell its anchor, so a path is read back from its text (`FilePath.ofText_text`).
-/

namespace Scaffold.FilePath

theorem readSegments_intercalate {names : List String} (h : ∀ s ∈ names, isSegment s) :
    readSegments ("/".intercalate names).toList = names := by
  have hslash : ∀ part ∈ names.map String.toList, '/' ∉ part := by
    intro part hpart
    obtain ⟨s, hs, rfl⟩ := List.mem_map.mp hpart
    exact (isSegment_iff.mp ((String.ofList_toList (s := s)).symm ▸ h s hs)).2.2
  rw [String.toList_intercalate]
  cases names with
  | nil => decide
  | cons s names =>
    rw [readSegments, show "/".toList = ['/'] from rfl, (Text.split_intercalate_iff (by simp)).mpr hslash, List.map_map]
    simp only [Function.comp_def, String.ofList_toList, List.map_id']
    exact List.filter_eq_self.mpr h

theorem readSegments_anchorText (a : Anchor) (cs : List Char) :
    readSegments ((anchorText a).toList ++ cs) = readSegments cs := by
  cases a with
  | here => rfl
  | root => exact readSegments_slash [] cs
  | doubleRoot => exact (readSegments_slash [] ('/' :: cs)).trans (readSegments_slash [] cs)

theorem readAnchor_anchorText (a : Anchor) {cs : List Char} (h : cs.head? ≠ some '/') :
    readAnchor ((anchorText a).toList ++ cs) = a := by
  cases a with
  | here => exact readAnchor_of_head h
  | root =>
    cases cs with
    | nil => rfl
    | cons c cs =>
      have hc : c ≠ '/' := by simpa using h
      change readAnchor ('/' :: c :: cs) = .root
      simp [readAnchor, hc]
  | doubleRoot =>
    cases cs with
    | nil => rfl
    | cons c cs =>
      have hc : c ≠ '/' := by simpa using h
      change readAnchor ('/' :: '/' :: c :: cs) = .doubleRoot
      simp [readAnchor, hc]

theorem head?_intercalate {names : List String} (h : ∀ s ∈ names, isSegment s) :
    ("/".intercalate names).toList.head? ≠ some '/' := by
  cases names with
  | nil => simp
  | cons s names =>
    obtain ⟨hne, -, hslash⟩ := isSegment_iff.mp ((String.ofList_toList (s := s)).symm ▸ h s List.mem_cons_self)
    obtain ⟨c, cs, hcs⟩ := List.exists_cons_of_ne_nil hne
    rw [String.toList_intercalate, List.map_cons, Text.intercalate_cons_eq, hcs]
    rw [hcs] at hslash
    rw [List.mem_cons, not_or] at hslash
    simpa using Ne.symm hslash.1

theorem ofText_text (p : FilePath) : ofText p.text = p := by
  obtain ⟨a, names, hnames⟩ := p
  by_cases hdot : a = .here ∧ names = []
  · obtain ⟨rfl, rfl⟩ := hdot
    have hdots : ofText "." = ⟨.here, [], List.forall_mem_nil _⟩ := by decide
    rw [text, if_pos ⟨rfl, rfl⟩, hdots]
  · have htext : (text ⟨a, names, hnames⟩).toList = (anchorText a).toList ++ ("/".intercalate names).toList := by
      rw [text, if_neg hdot, String.toList_append]
    unfold ofText
    simp only [htext, mk.injEq]
    exact ⟨readAnchor_anchorText a (head?_intercalate hnames),
      (readSegments_anchorText a _).trans (readSegments_intercalate hnames)⟩

end Scaffold.FilePath
