import Scaffold.Proofs.Files.Occupants

/-!
# What editing a disk changes

Whatever is made and written, folders come only to where nothing was, and
files only to where no folder was (`Disk.Edits`). So the occupant of a location
is as before, or a folder that was made there, or a file that was written
there (`Disk.Edits.occupant?_cases`). Folders are made at locations that a path passes
by, and a file is written where its path leads.
-/

namespace Scaffold

/-! ## Locations on the way of a path -/

namespace FilePath

variable {here l : Location} {p : FilePath}

/-- The path leads through a location, or to it. -/
def PassesBy (here : Location) (p : FilePath) (l : Location) : Prop :=
  ∃ names more, p.segments = names ++ more ∧ (p.origin here).follow names = l

/-- The path leads through a location and goes up somewhere behind it. -/
def ClimbsPast (here : Location) (p : FilePath) (l : Location) : Prop :=
  ∃ names more, p.segments = names ++ more ∧ ".." ∈ more ∧ (p.origin here).follow names = l

theorem passesBy_resolve (here : Location) (p : FilePath) : p.PassesBy here (p.resolve here) :=
  ⟨p.segments, [], (List.append_nil _).symm, rfl⟩

theorem PassesBy.of_parent (h : p.parent.PassesBy here l) : p.PassesBy here l := by
  obtain ⟨names, more, hsegments, hl⟩ := h
  refine ⟨names, more ++ p.segments.getLast?.toList, ?_, hl⟩
  rw [← List.append_assoc, ← hsegments]
  cases hlast : p.segments.getLast? with
  | none => rw [List.getLast?_eq_none_iff] at hlast; simp [parent, hlast]
  | some s => exact (List.dropLast_append_getLast? s hlast).symm

/-- A path that does not go up again comes nearer to its end with each segment. -/
theorem PassesBy.climbs_or_above (h : p.PassesBy here l) : p.ClimbsPast here l ∨ l <+: p.resolve here := by
  obtain ⟨names, more, hsegments, hl⟩ := h
  by_cases hup : ".." ∈ more
  · exact Or.inl ⟨names, more, hsegments, hup, hl⟩
  · right
    refine ⟨more, ?_⟩
    rw [← hl, ← Location.follow_of_notMem hup, ← Location.follow_append, ← hsegments]
    rfl

end FilePath

namespace Disk

/-! ## Edits -/

/-- A disk after some edits of another: folders made at locations where nothing was, and files
written at locations where no folder was. -/
inductive Edits (made written : Location → Prop) (d : Disk) : Disk → Prop
  | refl : Edits made written d d
  | folder {d' : Disk} {l : Location} (h : Edits made written d d') (hl : made l)
      (hnew : d'.root.occupant? l = none) : Edits made written d (d'.put l (.folder []))
  | file {d' : Disk} {l : Location} {c : Content} (h : Edits made written d d') (hl : written l)
      (hfree : d'.root.occupant? l ≠ some .folder) : Edits made written d (d'.put l (.file c))

namespace Edits

variable {made written : Location → Prop} {d d' : Disk}

theorem here_eq (h : Edits made written d d') : d'.here = d.here := by
  induction h with
  | refl => rfl
  | folder _ _ _ ih => exact ih
  | file _ _ _ ih => exact ih

theorem occupant?_cases (h : Edits made written d d') (l : Location) :
    d'.root.occupant? l = d.root.occupant? l ∨
      (made l ∧ d.root.occupant? l = none ∧ d'.root.occupant? l = some .folder) ∨
      written l ∧ d.root.occupant? l ≠ some .folder ∧ ∃ c, d'.root.occupant? l = some (.file c) := by
  induction h with
  | refl => exact Or.inl rfl
  | @folder d' l' _ hl hnew ih =>
    by_cases hne : l = l'
    · subst hne
      rcases FileTree.occupant?_put_self (.folder []) l d'.root with hput | hput
      · rcases ih with hsame | ⟨-, -, hfolder⟩ | ⟨-, -, c, hfile⟩
        · exact Or.inr (Or.inl ⟨hl, hsame ▸ hnew, hput⟩)
        · simp [hfolder] at hnew
        · simp [hfile] at hnew
      · rw [put, hput]; exact ih
    -- elsewhere the step changes nothing
    · have hfree : d'.root.occupant? l' ≠ some .folder := by simp [hnew]
      rw [put, FileTree.occupant?_put_of_ne FileTree.isBare_folder_nil hfree hne]
      exact ih
  | @file d' l' c _ hl hfree ih =>
    by_cases hne : l = l'
    · subst hne
      rcases FileTree.occupant?_put_self (.file c) l d'.root with hput | hput
      · rcases ih with hsame | ⟨-, -, hfolder⟩ | ⟨-, hbefore, -⟩
        · exact Or.inr (Or.inr ⟨hl, hsame ▸ hfree, c, hput⟩)
        · exact absurd hfolder hfree
        · exact Or.inr (Or.inr ⟨hl, hbefore, c, hput⟩)
      · rw [put, hput]; exact ih
    · rw [put, FileTree.occupant?_put_of_ne (FileTree.isBare_file c) hfree hne]
      exact ih

theorem folder_stays (h : Edits made written d d') {l : Location} {es : List (String × FileTree)}
    (hl : d.root.at? l = some (.folder es)) : ∃ es', d'.root.at? l = some (.folder es') := by
  have hfolder : d.root.occupant? l = some .folder := FileTree.occupant?_eq_folder_iff.mpr ⟨es, hl⟩
  rw [← FileTree.occupant?_eq_folder_iff]
  rcases h.occupant?_cases l with hsame | ⟨-, hnone, -⟩ | ⟨-, hfree, -⟩
  · rw [hsame, hfolder]
  · simp [hfolder] at hnone
  · exact absurd hfolder hfree

theorem file_stays (h : Edits made written d d') {l : Location} {c : Content}
    (hl : d.root.at? l = some (.file c)) : ∃ c', d'.root.at? l = some (.file c') := by
  have hfile := FileTree.occupant?_eq_file_iff.mpr hl
  rcases h.occupant?_cases l with hsame | ⟨-, hnone, -⟩ | ⟨-, -, c', hwritten⟩
  · exact ⟨c, FileTree.occupant?_eq_file_iff.mp (hsame.trans hfile)⟩
  · simp [hfile] at hnone
  · exact ⟨c', FileTree.occupant?_eq_file_iff.mp hwritten⟩

theorem isSome_stays (h : Edits made written d d') {l : Location} (hl : (d.root.at? l).isSome) :
    (d'.root.at? l).isSome := by
  obtain ⟨n, hn⟩ := Option.isSome_iff_exists.mp hl
  cases n with
  | file c => obtain ⟨c', hc⟩ := h.file_stays hn; simp [hc]
  | folder es => obtain ⟨es', hes⟩ := h.folder_stays hn; simp [hes]

/-- What keeps a path from being followed stays in the way, save names that are missing. -/
theorem follow_blocked (h : Edits made written d d') {cause : DiskCause} (hcause : cause ≠ .missing) :
    ∀ {names : List String} {l : Location},
      follow d.root l names = .error cause → follow d'.root l names = .error cause
  | [], l, hf => by
    cases hf
  | s :: names, l, hf => by
    unfold follow at hf ⊢
    split at hf
    · rename_i es hes
      obtain ⟨es', hes'⟩ := h.folder_stays hes
      rw [hes']
      split at hf
      · rename_i hs
        simp only [hs, if_true]
        exact follow_blocked h hcause hf
      · rename_i hs
        simp only [hs, if_false]
        split at hf
        · rename_i hlong
          rw [if_pos hlong]; exact hf
        · rename_i hlong
          rw [if_neg hlong]
          split at hf
          · rename_i hlookup
            rw [← FileTree.at?_snoc hes] at hlookup
            rw [← FileTree.at?_snoc hes', if_pos (h.isSome_stays hlookup)]
            exact follow_blocked h hcause hf
          -- what is missing is the one obstacle that edits can take away
          · cases hf
            exact absurd rfl hcause
    · rename_i c hc
      obtain ⟨c', hc'⟩ := h.file_stays hc
      rw [hc']; exact hf
    · cases hf
      exact absurd rfl hcause

end Edits

/-! ## Paths that lead to nothing -/

variable {d d' : Disk} {p : FilePath} {l : Location}

/-- The names go up behind a location where nothing is. -/
def ClimbsOverNothing (root : FileTree) (l : Location) (names : List String) : Prop :=
  ∃ before more, names = before ++ more ∧ ".." ∈ more ∧ root.occupant? (l.follow before) = none

theorem ClimbsOverNothing.cons {root : FileTree} {s : String} {names : List String}
    (h : ClimbsOverNothing root (l.follow [s]) names) : ClimbsOverNothing root l (s :: names) := by
  obtain ⟨before, more, rfl, hup, hnone⟩ := h
  refine ⟨s :: before, more, rfl, hup, ?_⟩
  rw [← List.singleton_append, Location.follow_append]
  exact hnone

theorem climbs_or_none {root : FileTree} {before : List String} (hnone : root.at? (l.follow before) = none)
    (more : List String) :
    ClimbsOverNothing root l (before ++ more) ∨ root.occupant? (l.follow (before ++ more)) = none := by
  by_cases hup : ".." ∈ more
  · exact Or.inl ⟨before, more, rfl, hup, FileTree.occupant?_eq_none_iff.mpr hnone⟩
  · right
    rw [Location.follow_append, Location.follow_of_notMem hup]
    exact FileTree.occupant?_eq_none_iff.mpr (FileTree.at?_append_of_none hnone more)

/-- Where a name is missing, either the names behind it go up again or nothing is at the end. -/
theorem climbs_of_missing {root : FileTree} : ∀ {names : List String} {l : Location},
    follow root l names = .error .missing →
      ClimbsOverNothing root l names ∨ root.occupant? (l.follow names) = none
  | [], l, h => by
    cases h
  | s :: names, l, h => by
    -- the walk goes on from the place that the first name leads to
    have step (hrest : follow root (l.follow [s]) names = .error .missing) :
        ClimbsOverNothing root l (s :: names) ∨ root.occupant? (l.follow (s :: names)) = none := by
      rw [← List.singleton_append, Location.follow_append]
      exact (climbs_of_missing hrest).imp_left ClimbsOverNothing.cons
    unfold follow at h
    split at h
    · rename_i es hes
      split at h
      · rename_i hs
        have hup : l.follow [s] = l.dropLast := by rw [Location.follow_cons, if_pos hs]; rfl
        exact step (hup ▸ h)
      · rename_i hs
        have hsnoc : l.follow [s] = l ++ [s] := by rw [Location.follow_cons, if_neg hs]; rfl
        split at h
        · cases h
        · split at h
          · exact step (hsnoc ▸ h)
          · rename_i hlookup
            rw [← FileTree.at?_snoc hes, Option.not_isSome_iff_eq_none, ← hsnoc] at hlookup
            exact climbs_or_none hlookup names
    · cases h
    · rename_i hnone
      rw [← List.nil_append (s :: names)]
      exact climbs_or_none hnone (s :: names)

/-- A path that led to nothing, and after some edits has a place: nothing was there, or the path
goes up behind a location where nothing was. -/
theorem Edits.climbs_of_absent {made written : Location → Prop} (h : Edits made written d d')
    (hp : d.node? p = .ok none) (hl : d'.place p = .ok l) : d.root.occupant? l = none ∨
      ∃ l', p.ClimbsPast d.here l' ∧ d.root.occupant? l' = none := by
  have hresolve : l = p.resolve d.here := by rw [← h.here_eq]; exact place_eq_ok hl
  -- nothing but a missing name keeps the path from being followed
  have hmissing : d.locate p = .error .missing ∨ d.root.occupant? l = none := by
    unfold node? node at hp
    cases hlocate : d.locate p with
    | ok m =>
      right
      have hm : l = m := hresolve.trans (locate_eq_ok hlocate).symm
      rw [hlocate] at hp
      cases hnode : d.root.at? m with
      | none => rw [hm]; exact FileTree.occupant?_eq_none_iff.mpr hnode
      | some n => simp [hnode] at hp
    | error cause =>
      left
      by_cases hcause : cause = .missing
      · rw [hcause]
      · have hblocked := h.follow_blocked hcause hlocate
        have horigin : d'.start p = d.start p := by unfold start; rw [h.here_eq]
        rcases place_cases hl with hl | ⟨names, s, m, es, hsegments, hs, hm, hes, hshort, -⟩
        · rw [locate, horigin, hblocked] at hl
          cases hl
        · change follow d'.root (d'.start p) names = .ok m at hm
          rw [hsegments, follow_append, ← horigin, hm] at hblocked
          change follow d'.root m [s] = _ at hblocked
          unfold follow at hblocked
          simp only [hes, hs, if_false, Nat.not_lt.mpr hshort] at hblocked
          split at hblocked
          · cases hblocked
          · cases hblocked
            exact absurd rfl hcause
  rcases hmissing with hmissing | hnone
  · rcases climbs_of_missing hmissing with ⟨before, more, hsegments, hup, hnone⟩ | hnone
    · exact Or.inr ⟨_, ⟨before, more, hsegments, hup, rfl⟩, hnone⟩
    · left
      rw [hresolve]; exact hnone
  · exact Or.inl hnone

/-! ## Making folders and writing files -/

namespace Edits

variable {made written : Location → Prop} {d₀ : Disk} {c : Content}

theorem makeFolder (h : Edits made written d₀ d) (hp : made (p.resolve d₀.here))
    (hd : d.makeFolder p = .ok d') : Edits made written d₀ d' := by
  unfold Disk.makeFolder at hd
  split at hd
  · cases hd
  · rename_i l hl
    split at hd
    · cases hd
    · rename_i hnone
      cases hd
      rw [Option.not_isSome_iff_eq_none] at hnone
      rw [← h.here_eq, ← place_eq_ok hl] at hp
      exact h.folder hp (FileTree.occupant?_eq_none_iff.mpr hnone)

theorem ensureFolder (h : Edits made written d₀ d) (hp : made (p.resolve d₀.here)) :
    Edits made written d₀ (d.ensureFolder p).1 := by
  unfold Disk.ensureFolder
  split
  · rename_i hd
    exact h.makeFolder hp hd
  · split
    · exact h
    · exact h

theorem ensureFoldersUpTo : ∀ (above : Nat) {d : Disk} {p : FilePath}, Edits made written d₀ d →
    (∀ l, p.PassesBy d₀.here l → made l) → Edits made written d₀ (Disk.ensureFoldersUpTo above d p).1
  | 0, _, p, h, hp => h.ensureFolder (hp _ (p.passesBy_resolve d₀.here))
  | above + 1, d, p, h, hp => by
    have hself := hp _ (p.passesBy_resolve d₀.here)
    have hparent := ensureFoldersUpTo above h fun l hl => hp l (FilePath.PassesBy.of_parent hl)
    unfold Disk.ensureFoldersUpTo
    split
    · split
      · rename_i heq
        rw [heq] at hparent
        exact hparent.ensureFolder hself
      · rename_i heq
        rw [heq] at hparent
        exact hparent
    · exact h.ensureFolder hself

theorem ensureFolders (h : Edits made written d₀ d) (hp : ∀ l, p.PassesBy d₀.here l → made l) :
    Edits made written d₀ (d.ensureFolders p).1 :=
  ensureFoldersUpTo _ h hp

theorem write (h : Edits made written d₀ d) (hp : ∀ l, d.place p = .ok l → written l)
    (hd : d.write p c = .ok d') : Edits made written d₀ d' := by
  unfold Disk.write at hd
  split at hd
  · cases hd
  · rename_i l hl
    split at hd
    · cases hd
    · rename_i hfree
      cases hd
      refine h.file (hp l hl) fun hfolder => ?_
      obtain ⟨es, hes⟩ := FileTree.occupant?_eq_folder_iff.mp hfolder
      exact hfree es hes

theorem writeWithFolders (h : Edits made written d₀ d)
    (hmade : ∀ l, p.PassesBy d₀.here l → made l)
    (hwritten : ∀ {d' l}, Edits made written d₀ d' → d'.place p = .ok l → written l) :
    Edits made written d₀ (d.writeWithFolders p c).1 := by
  have hfolders := h.ensureFolders fun l hl => hmade l (FilePath.PassesBy.of_parent hl)
  unfold Disk.writeWithFolders
  split
  · rename_i heq
    rw [heq] at hfolders
    exact hfolders
  · rename_i heq
    rw [heq] at hfolders
    split
    · rename_i hd
      exact hfolders.write (fun l hl => hwritten hfolders hl) hd
    · exact hfolders

end Edits

end Disk

end Scaffold
