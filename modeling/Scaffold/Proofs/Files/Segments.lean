import Mathlib.Data.List.Basic
import Scaffold.Proofs.Files.Occupants
import Scaffold.Proofs.Text.Split

/-!
# Segments of a path that is put together

A text is cut at its slashes, so texts joined by a slash have the segments of
both (`FilePath.readSegments_slash`), and what is added without a slash goes to the
last piece (`FilePath.readSegments_ending`).
-/

namespace Scaffold

namespace FilePath

theorem readSegments_slash (xs ys : List Char) :
    readSegments (xs ++ '/' :: ys) = readSegments xs ++ readSegments ys := by
  simp [readSegments, Text.split_sep]

/-- The segments of a text before its last slash, and what stands behind it. -/
def foldersOf (cs : List Char) : List String :=
  ((Text.split '/' cs).dropLast.map String.ofList).filter isSegment

def lastOf (cs : List Char) : List Char := (Text.split '/' cs).getLast (Text.split_ne_nil '/' cs)

theorem foldersOf_slash (xs ys : List Char) :
    foldersOf (xs ++ '/' :: ys) = readSegments xs ++ foldersOf ys := by
  rw [foldersOf, Text.split_sep, List.dropLast_append_of_ne_nil (Text.split_ne_nil '/' ys), List.map_append,
    List.filter_append]
  rfl

theorem lastOf_slash (xs ys : List Char) : lastOf (xs ++ '/' :: ys) = lastOf ys := by
  unfold lastOf
  simp only [Text.split_sep, List.getLast_append_of_ne_nil _ (Text.split_ne_nil '/' ys)]

theorem slash_notMem_lastOf (cs : List Char) : '/' ∉ lastOf cs :=
  Text.notMem_of_mem_split (List.getLast_mem _)

theorem isSegment_iff {cs : List Char} :
    isSegment (String.ofList cs) = true ↔ cs ≠ [] ∧ cs ≠ ['.'] ∧ '/' ∉ cs := by
  simp [isSegment, and_assoc]

theorem readSegments_eq (cs : List Char) :
    readSegments cs = foldersOf cs ++ [String.ofList (lastOf cs)].filter isSegment := by
  have hsplit : (Text.split '/' cs).dropLast ++ [lastOf cs] = Text.split '/' cs :=
    List.dropLast_append_getLast _
  rw [readSegments, foldersOf, ← List.filter_append, ← List.map_singleton, ← List.map_append, hsplit]

theorem readSegments_ending {ending : List Char} (hslash : '/' ∉ ending) (hlong : 1 < ending.length)
    (cs : List Char) :
    readSegments (cs ++ ending) = foldersOf cs ++ [String.ofList (lastOf cs ++ ending)] := by
  have hsegment : isSegment (String.ofList (lastOf cs ++ ending)) = true := by
    rw [isSegment_iff]
    refine ⟨?_, ?_, by simp [slash_notMem_lastOf, hslash]⟩
    · intro h
      simp [(List.append_eq_nil_iff.mp h).2] at hlong
    · intro h
      have := congrArg List.length h
      simp at this
      omega
  rw [readSegments, Text.split_ending hslash, List.map_append, List.filter_append, foldersOf]
  congr 1
  exact List.filter_eq_self.mpr fun s hs => by rw [List.mem_singleton.mp hs]; exact hsegment

/-! ## Joined paths -/

theorem readAnchor_of_head {cs : List Char} (h : cs.head? ≠ some '/') : readAnchor cs = .here := by
  unfold readAnchor
  split
  · simp at h
  · simp at h
  · simp at h
  · rfl

theorem resolve_append {folder : FilePath} {s : String} (h : s.toList.head? ≠ some '/') (here : Location) :
    (folder.append s).resolve here = (folder.resolve here).follow (readSegments s.toList) := by
  have hrelative : (ofText s).isAbsolute = false := by simp [isAbsolute, ofText, readAnchor_of_head h]
  unfold append join
  rw [if_neg (by simp [hrelative])]
  unfold resolve
  rw [← Location.follow_append]
  rfl

/-- Where a name stands that is begun by a text: its folder, and how the name begins. -/
def stemPlace (folder : FilePath) (here : Location) (stem : String) : Location × String :=
  ((folder.resolve here).follow (foldersOf stem.toList), String.ofList (lastOf stem.toList))

theorem head?_append_ne {stem ending : String} (hhead : stem.toList.head? ≠ some '/')
    (hslash : '/' ∉ ending.toList) : (stem ++ ending).toList.head? ≠ some '/' := by
  rw [String.toList_append]
  cases hstem : stem.toList with
  | nil => exact fun h => hslash (List.mem_of_head? h)
  | cons c cs =>
    rw [hstem] at hhead
    exact hhead

theorem resolve_ending {folder : FilePath} {stem ending : String} (hhead : stem.toList.head? ≠ some '/')
    (hslash : '/' ∉ ending.toList) (hlong : 2 < ending.toList.length) (here : Location) :
    (folder.append (stem ++ ending)).resolve here =
      (stemPlace folder here stem).1 ++ [(stemPlace folder here stem).2 ++ ending] := by
  have hlast : String.ofList (lastOf stem.toList ++ ending.toList) =
      String.ofList (lastOf stem.toList) ++ ending := by rw [String.ofList_append, String.ofList_toList]
  have hup : String.ofList (lastOf stem.toList) ++ ending ≠ ".." := by
    intro h
    have hlength := congrArg (fun s => s.toList.length) h
    simp at hlength
    omega
  rw [resolve_append (head?_append_ne hhead hslash), String.toList_append,
    readSegments_ending hslash (by omega), hlast, Location.follow_append,
    Location.follow_of_notMem (by simpa using hup.symm)]
  rfl

theorem stemPlace_slash {folder : FilePath} {inner : String} (hhead : inner.toList.head? ≠ some '/')
    (here : Location) :
    stemPlace folder here (inner ++ "/") = ((folder.append inner).resolve here, "") := by
  have hlist : (inner ++ "/").toList = inner.toList ++ '/' :: [] := String.toList_append
  have hfolders : foldersOf (inner ++ "/").toList = readSegments inner.toList := by
    rw [hlist, foldersOf_slash]
    exact List.append_nil _
  have hlast : lastOf (inner ++ "/").toList = [] := by
    rw [hlist, lastOf_slash]
    rfl
  rw [stemPlace, hfolders, hlast, resolve_append hhead]

end FilePath

end Scaffold
