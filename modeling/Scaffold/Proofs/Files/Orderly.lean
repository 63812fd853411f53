import Mathlib.Algebra.GroupWithZero.Nat
import Scaffold.Proofs.Files.Segments

/-!
# Trees with plain names

In an orderly tree every name is one segment of a path and leads to one node
of its folder, so each node has one path (`FilePath.foldl_append`). Folders lie
less deep than the tree is high (`FileTree.length_lt_height`).
-/

namespace Scaffold

namespace FileTree

mutual

/-- Whether every name in a tree is one segment of a path, and no two in a folder are the same. -/
def isOrderly : FileTree → Bool
  | .file _ => true
  | .folder es => (es.map Prod.fst).Nodup && areOrderly es

def areOrderly : List (String × FileTree) → Bool
  | [] => true
  | (name, n) :: es => isSegment name && n.isOrderly && areOrderly es

end

mutual

def size : FileTree → Nat
  | .file _ => 1
  | .folder es => sizeEntries es + 1

def sizeEntries : List (String × FileTree) → Nat
  | [] => 0
  | (_, n) :: es => size n + sizeEntries es

end

theorem areOrderly_iff : ∀ {es : List (String × FileTree)},
    areOrderly es ↔ ∀ e ∈ es, isSegment e.1 ∧ e.2.isOrderly
  | [] => by simp [areOrderly]
  | (name, n) :: es => by
    rw [areOrderly, Bool.and_eq_true, Bool.and_eq_true, areOrderly_iff, List.forall_mem_cons]

theorem isOrderly_folder_iff {es : List (String × FileTree)} : (FileTree.folder es).isOrderly ↔
    (es.map Prod.fst).Nodup ∧ ∀ e ∈ es, isSegment e.1 ∧ e.2.isOrderly := by
  rw [isOrderly, Bool.and_eq_true, decide_eq_true_iff, areOrderly_iff]

theorem lookup_eq_some_iff_mem {es : List (String × FileTree)} (h : (es.map Prod.fst).Nodup) {s : String}
    {n : FileTree} : es.lookup s = some n ↔ (s, n) ∈ es := by
  rw [List.lookup_eq_some_iff]
  constructor
  · rintro ⟨before, behind, rfl, -⟩
    simp
  · intro hmem
    obtain ⟨before, behind, rfl⟩ := List.append_of_mem hmem
    refine ⟨before, behind, rfl, fun e he => ?_⟩
    rw [List.map_append, List.nodup_append] at h
    simpa using (h.2.2 e.1 (List.mem_map_of_mem he) s List.mem_cons_self).symm

/-- Every node of an orderly tree is orderly, and its location is made of segments. -/
theorem isOrderly_at? : ∀ {l : Location} {n m : FileTree}, n.isOrderly → n.at? l = some m →
    m.isOrderly ∧ ∀ s ∈ l, isSegment s
  | [], n, m, hn, h => by
    cases h
    exact ⟨hn, List.forall_mem_nil _⟩
  | s :: l, .file _, m, _, h => by cases h
  | s :: l, .folder es, m, hn, h => by
    rw [at?_folder_cons] at h
    obtain ⟨child, hchild, h⟩ := Option.bind_eq_some_iff.mp h
    obtain ⟨hnodup, hes⟩ := isOrderly_folder_iff.mp hn
    obtain ⟨hs, horderly⟩ := hes _ ((lookup_eq_some_iff_mem hnodup).mp hchild)
    obtain ⟨hm, hl⟩ := isOrderly_at? horderly h
    exact ⟨hm, List.forall_mem_cons.mpr ⟨hs, hl⟩⟩

theorem height_le_of_mem : ∀ {es : List (String × FileTree)} {e : String × FileTree}, e ∈ es →
    e.2.height ≤ heightEntries es
  | (_, n) :: es, e, h => by
    rw [heightEntries]
    rcases List.mem_cons.mp h with rfl | h
    · exact Nat.le_max_left _ _
    · exact Nat.le_trans (height_le_of_mem h) (Nat.le_max_right _ _)

theorem length_lt_height : ∀ {l : Location} {n : FileTree} {es : List (String × FileTree)},
    n.at? l = some (.folder es) → l.length < n.height
  | [], n, es, h => by
    cases h
    exact Nat.succ_pos _
  | s :: l, .file _, es, h => by cases h
  | s :: l, .folder fs, es, h => by
    rw [at?_folder_cons] at h
    obtain ⟨child, hchild, h⟩ := Option.bind_eq_some_iff.mp h
    have hdeep := length_lt_height h
    obtain ⟨before, behind, rfl, -⟩ := List.lookup_eq_some_iff.mp hchild
    have hmem : (s, child) ∈ before ++ (s, child) :: behind := by simp
    have hheight := height_le_of_mem hmem
    rw [height, List.length_cons]
    exact Nat.succ_lt_succ (Nat.lt_of_lt_of_le hdeep hheight)

theorem sizeEntries_eq : ∀ es : List (String × FileTree), sizeEntries es = (es.map fun e => e.2.size).sum
  | [] => rfl
  | (_, n) :: es => by rw [sizeEntries, sizeEntries_eq es, List.map_cons, List.sum_cons]

end FileTree

namespace FilePath

theorem readSegments_segment {s : String} (h : isSegment s) : readSegments s.toList = [s] := by
  obtain ⟨-, -, hslash⟩ := isSegment_iff.mp ((String.ofList_toList (s := s)).symm ▸ h)
  rw [readSegments, Text.split_of_notMem hslash, List.map_singleton, String.ofList_toList]
  exact List.filter_eq_self.mpr fun _ hs => List.mem_singleton.mp hs ▸ h

theorem append_segment {s : String} (h : isSegment s) (p : FilePath) :
    (p.append s).anchor = p.anchor ∧ (p.append s).segments = p.segments ++ [s] := by
  obtain ⟨-, -, hslash⟩ := isSegment_iff.mp ((String.ofList_toList (s := s)).symm ▸ h)
  have hhead : s.toList.head? ≠ some '/' := fun hhead => hslash (List.mem_of_head? hhead)
  have hrelative : (ofText s).isAbsolute = false := by simp [isAbsolute, ofText, readAnchor_of_head hhead]
  unfold append join
  rw [if_neg (by simp [hrelative])]
  exact ⟨rfl, congrArg (p.segments ++ ·) (readSegments_segment h)⟩

theorem name_append_slash {s : String} (h : isSegment s) (p : FilePath) (folders : String) :
    (p.append (folders ++ "/" ++ s)).name = s := by
  have hlist : (folders ++ "/" ++ s).toList = folders.toList ++ '/' :: s.toList := by simp
  have hsegments : (ofText (folders ++ "/" ++ s)).segments = readSegments folders.toList ++ [s] := by
    rw [← readSegments_segment h, ← readSegments_slash, ← hlist]
    rfl
  unfold append join name
  split
  · rw [hsegments, List.getLast?_concat, Option.getD_some]
  · simp only [hsegments]
    rw [← List.append_assoc, List.getLast?_concat, Option.getD_some]

theorem foldl_append : ∀ {names : List String}, (∀ s ∈ names, isSegment s) → ∀ p : FilePath,
    (names.foldl append p).anchor = p.anchor ∧ (names.foldl append p).segments = p.segments ++ names
  | [], _, p => ⟨rfl, (List.append_nil _).symm⟩
  | s :: names, h, p => by
    obtain ⟨hs, hnames⟩ := List.forall_mem_cons.mp h
    obtain ⟨hanchor, hsegments⟩ := append_segment hs p
    obtain ⟨hrestAnchor, hrest⟩ := foldl_append hnames (p.append s)
    rw [List.foldl_cons, hrestAnchor, hrest, hanchor, hsegments, List.append_assoc]
    exact ⟨rfl, rfl⟩

end FilePath

end Scaffold
