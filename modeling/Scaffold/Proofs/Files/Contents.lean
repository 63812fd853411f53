import Scaffold.Proofs.Files.Edits

/-!
# What is written can be read

Where a disk has its current folder, a path to which a file can be written
leads to this file afterwards (`Disk.read_write`).
-/

namespace Scaffold

namespace FileTree

variable {root n : FileTree} {l : Location}

theorem isFolder_of_below {s : String} {l' : Location} (h : root.at? (l ++ s :: l') = some n) :
    ∃ es, root.at? l = some (.folder es) := by
  rw [at?_append, Option.bind_eq_some_iff] at h
  obtain ⟨m, hm, hn⟩ := h
  cases m with
  | file c => cases hn
  | folder es => exact ⟨es, hm⟩

theorem isFolder_dropLast (h : ∃ es, root.at? l = some (.folder es)) :
    ∃ es, root.at? l.dropLast = some (.folder es) := by
  obtain ⟨es, hes⟩ := h
  rcases List.eq_nil_or_concat l with rfl | ⟨l', s, rfl⟩
  · exact ⟨es, hes⟩
  · rw [List.concat_eq_append] at hes ⊢
    rw [List.dropLast_concat]
    exact isFolder_of_below hes

theorem at?_put_self (x : FileTree) (s : String) : ∀ {l : Location} {root : FileTree},
    (∃ es, root.at? l = some (.folder es)) → (root.put (l ++ [s]) x).at? (l ++ [s]) = some x
  | [], root, h => by
    obtain ⟨es, hes⟩ := h
    obtain rfl := Option.some.inj hes
    simp [put, at?_folder_cons, lookup_putEntry]
  | t :: l, root, h => by
    obtain ⟨es, hes⟩ := h
    cases root with
    | file c => cases hes
    | folder fs =>
      rw [at?_folder_cons, Option.bind_eq_some_iff] at hes
      obtain ⟨m, hm, hes⟩ := hes
      obtain ⟨u, l', hl⟩ := List.exists_cons_of_ne_nil (List.concat_ne_nil s l)
      rw [List.cons_append, hl]
      simp only [put, hm, at?_folder_cons, lookup_putEntry, if_true, Option.bind_some]
      rw [← hl]
      exact at?_put_self x s ⟨es, hes⟩

end FileTree

namespace Disk

variable {d d' : Disk} {p : FilePath} {c : Content} {made written : Location → Prop}

def Stands (d : Disk) : Prop := ∃ es, d.root.at? d.here = some (.folder es)

theorem Stands.start (h : d.Stands) (p : FilePath) : ∃ es, d.root.at? (d.start p) = some (.folder es) := by
  unfold Disk.start
  split
  · obtain ⟨es, hes⟩ := h
    cases hhere : d.here with
    | nil => exact ⟨es, hhere ▸ hes⟩
    | cons s l => exact FileTree.isFolder_of_below (l := []) (hhere ▸ hes)
  · exact h

theorem Edits.stands (h : Edits made written d d') (hd : d.Stands) : d'.Stands := by
  obtain ⟨es, hes⟩ := hd
  unfold Stands
  rw [h.here_eq]
  exact h.folder_stays hes

/-- A path that can be followed still can be after edits. -/
theorem Edits.follow_stays (h : Edits made written d d') : ∀ {names : List String} {l m : Location},
    follow d.root l names = .ok m → follow d'.root l names = .ok m
  | [], _, _, hf => hf
  | s :: names, l, m, hf => by
    unfold follow at hf ⊢
    split at hf
    · rename_i es hes
      obtain ⟨es', hes'⟩ := h.folder_stays hes
      rw [hes']
      by_cases hup : s = ".."
      · simp only [if_pos hup] at hf ⊢
        exact follow_stays h hf
      · simp only [if_neg hup] at hf ⊢
        by_cases hlong : nameLimit < s.utf8ByteSize
        · rw [if_pos hlong] at hf
          cases hf
        · rw [if_neg hlong] at hf ⊢
          split at hf
          · rename_i hlookup
            rw [← FileTree.at?_snoc hes] at hlookup
            rw [← FileTree.at?_snoc hes', if_pos (h.isSome_stays hlookup)]
            exact follow_stays h hf
          · cases hf
    · cases hf
    · cases hf

theorem isFolder_of_follow_up {root : FileTree} {l m : Location} (h : follow root l [".."] = .ok m) :
    ∃ es, root.at? m = some (.folder es) := by
  unfold follow at h
  split at h
  · rename_i es hes
    cases h
    exact FileTree.isFolder_dropLast ⟨es, hes⟩
  · cases h
  · cases h

/-- The place of a path to which a file can be written lies in a folder, under the path's last
segment. -/
theorem place_of_write (hd : d.Stands) {l : Location} (hl : d.place p = .ok l)
    (hfree : ∀ es, d.root.at? l ≠ some (.folder es)) : ∃ names s m es, p.segments = names ++ [s] ∧ s ≠ ".." ∧
      follow d.root (d.start p) names = .ok m ∧ d.root.at? m = some (.folder es) ∧ s.utf8ByteSize ≤ nameLimit ∧
      l = m ++ [s] := by
  rcases place_split hl with ⟨hlocate, hnone | ⟨names, hup⟩⟩ | ⟨names, s, m, es, hplace⟩
  · rw [locate, hnone] at hlocate
    obtain ⟨es, hes⟩ := hd.start p
    cases hlocate
    exact absurd hes (hfree es)
  · rw [locate, hup, follow_append] at hlocate
    cases hm : follow d.root (d.start p) names with
    | error cause =>
      rw [hm] at hlocate
      cases hlocate
    | ok m =>
      rw [hm] at hlocate
      obtain ⟨es, hes⟩ := isFolder_of_follow_up hlocate
      exact absurd hes (hfree es)
  · exact ⟨names, s, m, es, hplace⟩

theorem read_write (hd : d.Stands) (h : d.write p c = .ok d') : d'.read p = .ok c := by
  have hedits : Edits (fun _ => True) (fun _ => True) d d' := Edits.write .refl (fun _ _ => trivial) h
  unfold write at h
  split at h
  · cases h
  rename_i l hl
  split at h
  · cases h
  rename_i hfree
  cases h
  obtain ⟨names, s, m, es, hsegments, hup, hm, hes, hshort, rfl⟩ := place_of_write hd hl hfree
  have hput : (d.root.put (m ++ [s]) (.file c)).at? (m ++ [s]) = some (.file c) := FileTree.at?_put_self _ s ⟨es, hes⟩
  obtain ⟨es', hes'⟩ := hedits.folder_stays hes
  have hlocate : (d.put (m ++ [s]) (.file c)).locate p = .ok (m ++ [s]) := by
    have hlookup : (es'.lookup s).isSome := by
      rw [← FileTree.at?_snoc hes']
      exact Option.isSome_of_eq_some hput
    have hstart : (d.put (m ++ [s]) (.file c)).start p = d.start p := rfl
    rw [locate, hstart, hsegments, follow_append, hedits.follow_stays hm]
    change follow _ m [s] = _
    simp only [follow, hes', if_neg hup, if_neg (Nat.not_lt.mpr hshort), hlookup, if_true]
  rw [read, node, hlocate]
  simp only [put, hput]

end Disk

end Scaffold
