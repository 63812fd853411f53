import Mathlib.Data.List.Basic
import Scaffold.Files.Disk

/-!
# What stands where on a disk

A location is taken by a file with its content or by a folder, whatever lies
in it. Putting a file or an empty folder where no folder is changes the
occupant of that location and of no other (`FileTree.occupant?_put_of_ne`). A path that
can be followed leads to the location that its segments name
(`Disk.place_eq_ok`).
-/

namespace Scaffold

inductive Occupant where
  | file (content : Content)
  | folder

namespace FileTree

def occupant : FileTree → Occupant
  | .file c => .file c
  | .folder _ => .folder

def occupant? (root : FileTree) (l : Location) : Option Occupant := (root.at? l).map occupant

/-! ## Entries of a folder -/

theorem lookup_putEntry (name s : String) (n : FileTree) (es : List (String × FileTree)) :
    (putEntry name n es).lookup s = if s = name then some n else es.lookup s := by
  induction es with
  | nil =>
    by_cases h : s = name
    · simp [putEntry, h]
    · simp [putEntry, List.lookup_cons, h, beq_false_of_ne h]
  | cons e es ih =>
    obtain ⟨k, m⟩ := e
    unfold putEntry
    by_cases hk : k = name
    · subst hk
      by_cases h : s = k
      · simp [h]
      · simp [List.lookup_cons, h, beq_false_of_ne h]
    · simp only [hk, if_false, List.lookup_cons]
      by_cases h : s = k
      · subst h; simp [hk]
      · simp [beq_false_of_ne h, ih]

@[simp] theorem at?_nil (n : FileTree) : n.at? [] = some n := rfl

theorem at?_folder_cons (es : List (String × FileTree)) (s : String) (l : Location) :
    (FileTree.folder es).at? (s :: l) = (es.lookup s).bind (·.at? l) := by
  rw [at?]
  cases h : es.lookup s <;> simp [child?, h]

theorem at?_append (n : FileTree) (l l' : Location) : n.at? (l ++ l') = (n.at? l).bind (·.at? l') := by
  induction l generalizing n with
  | nil => rfl
  | cons s l ih =>
    cases n with
    | file c => rfl
    | folder es =>
      rw [List.cons_append, at?_folder_cons, at?_folder_cons]
      cases es.lookup s with
      | none => rfl
      | some m => exact ih m

theorem at?_append_of_none {n : FileTree} {l : Location} (h : n.at? l = none) (l' : Location) :
    n.at? (l ++ l') = none := by
  rw [at?_append, h]; rfl

theorem at?_snoc {n : FileTree} {l : Location} {es : List (String × FileTree)}
    (h : n.at? l = some (.folder es)) (s : String) : n.at? (l ++ [s]) = es.lookup s := by
  rw [at?_append, h, Option.bind_some, at?_folder_cons]
  cases es.lookup s <;> rfl

/-! ## Occupants -/

theorem occupant?_eq_none_iff {n : FileTree} {l : Location} : n.occupant? l = none ↔ n.at? l = none := by
  simp [occupant?]

theorem occupant?_eq_folder_iff {n : FileTree} {l : Location} :
    n.occupant? l = some .folder ↔ ∃ es, n.at? l = some (.folder es) := by
  unfold occupant?
  rcases n.at? l with _ | ⟨c⟩ | ⟨es⟩ <;> simp [occupant]

theorem occupant?_eq_file_iff {n : FileTree} {l : Location} {c : Content} :
    n.occupant? l = some (.file c) ↔ n.at? l = some (.file c) := by
  unfold occupant?
  rcases n.at? l with _ | ⟨c'⟩ | ⟨es⟩ <;> simp [occupant]

def IsBare (n : FileTree) : Prop := ∀ s l, n.at? (s :: l) = none

theorem isBare_file (c : Content) : (FileTree.file c).IsBare := fun _ _ => rfl

theorem isBare_folder_nil : (FileTree.folder []).IsBare := fun _ _ => rfl

/-- What is put elsewhere does not count: where a folder stands nothing is put, and nothing lies
below what is put. -/
theorem occupant?_put_of_ne {x : FileTree} (hx : x.IsBare) : ∀ {l l' : Location} {root : FileTree},
    root.occupant? l ≠ some .folder → l' ≠ l → (root.put l x).occupant? l' = root.occupant? l'
  | [], [], _, _, hne => absurd rfl hne
  | [], s :: l', root, hfree, _ => by
    have hroot : root.at? (s :: l') = none := by
      cases root with
      | file c => rfl
      | folder es => exact absurd rfl hfree
    rw [put, occupant?, occupant?, hx, hroot]
  | _ :: _, _, .file c, _, _ => rfl
  | [s], [], .folder es, _, _ => rfl
  | [s], s' :: l', .folder es, hfree, hne => by
    simp only [put, occupant?, at?_folder_cons, lookup_putEntry]
    by_cases h : s' = s
    · subst h
      cases l' with
      | nil => exact absurd rfl hne
      | cons t l' =>
        -- a file has nothing below it, and neither has what takes its place
        rw [if_pos rfl, Option.bind_some, hx]
        cases hs : es.lookup s' with
        | none => rfl
        | some n =>
          cases n with
          | file c => rfl
          | folder es' => exact absurd (by simp [occupant?, at?_folder_cons, hs, occupant]) hfree
    · rw [if_neg h]
  | s :: t :: l, l', .folder es, hfree, hne => by
    simp only [put]
    cases hs : es.lookup s with
    | none => rfl
    | some n =>
      cases l' with
      | nil => rfl
      | cons s' l' =>
        simp only [occupant?, at?_folder_cons, lookup_putEntry]
        by_cases h : s' = s
        · subst h
          have hfree' : n.occupant? (t :: l) ≠ some .folder := by
            simpa [occupant?, at?_folder_cons, hs] using hfree
          rw [if_pos rfl, hs, Option.bind_some, Option.bind_some]
          exact occupant?_put_of_ne hx hfree' fun heq => hne (by rw [heq])
        · rw [if_neg h]

theorem occupant?_put_self (x : FileTree) : ∀ (l : Location) (root : FileTree),
    (root.put l x).occupant? l = some x.occupant ∨ (root.put l x).occupant? l = root.occupant? l
  | [], _ => Or.inl rfl
  | _ :: _, .file _ => Or.inr rfl
  | [s], .folder es => by
    left
    simp [put, occupant?, at?_folder_cons, lookup_putEntry]
  | s :: t :: l, .folder es => by
    simp only [put]
    cases hs : es.lookup s with
    | none => exact Or.inr rfl
    | some n =>
      simp only [occupant?, at?_folder_cons, lookup_putEntry, if_pos, hs, Option.bind_some]
      exact occupant?_put_self x (t :: l) n

end FileTree

/-! ## Following paths -/

namespace Location

@[simp] theorem follow_nil (l : Location) : l.follow [] = l := rfl

theorem follow_cons (l : Location) (s : String) (names : List String) :
    l.follow (s :: names) = follow (if s = ".." then l.dropLast else l ++ [s]) names := rfl

theorem follow_append (l : Location) (names more : List String) :
    l.follow (names ++ more) = (l.follow names).follow more := by
  simp [follow]

theorem follow_of_notMem {names : List String} (h : ".." ∉ names) (l : Location) :
    l.follow names = l ++ names := by
  induction names generalizing l with
  | nil => simp
  | cons s names ih =>
    rw [List.mem_cons, not_or] at h
    rw [follow_cons, if_neg (Ne.symm h.1), ih h.2, List.append_assoc, List.singleton_append]

end Location

def FilePath.origin (here : Location) (p : FilePath) : Location := if p.isAbsolute then [] else here

namespace Disk

variable {d : Disk} {p : FilePath}

theorem follow_eq_ok {root : FileTree} : ∀ {names : List String} {l l' : Location},
    follow root l names = .ok l' → l' = l.follow names
  | [], l, l', h => by
    cases h; rfl
  | s :: names, l, l', h => by
    rw [Location.follow_cons]
    unfold follow at h
    split at h
    · rename_i es _
      by_cases hs : s = ".."
      · rw [if_pos hs] at h ⊢
        exact follow_eq_ok h
      · rw [if_neg hs] at h ⊢
        split at h
        · cases h
        · split at h
          · exact follow_eq_ok h
          · cases h
    · cases h
    · cases h

theorem follow_append (root : FileTree) (names more : List String) (l : Location) :
    follow root l (names ++ more) = (follow root l names >>= fun l' => follow root l' more) := by
  induction names generalizing l with
  | nil => rfl
  | cons s names ih =>
    simp only [List.cons_append, follow]
    split
    · split
      · exact ih _
      · split
        · rfl
        · split
          · exact ih _
          · rfl
    · rfl
    · rfl

theorem locate_eq_ok {l : Location} (h : d.locate p = .ok l) : l = p.resolve d.here :=
  follow_eq_ok h

/-- The two ways to the place of a path: a path without a name at its end can be followed, or the
folder of its last segment can. -/
theorem place_split {l : Location} (h : d.place p = .ok l) :
    (d.locate p = .ok l ∧ (p.segments = [] ∨ ∃ names, p.segments = names ++ [".."])) ∨
      ∃ names s m es, p.segments = names ++ [s] ∧ s ≠ ".." ∧
        follow d.root (p.origin d.here) names = .ok m ∧ d.root.at? m = some (.folder es) ∧
        s.utf8ByteSize ≤ nameLimit ∧ l = m ++ [s] := by
  unfold place at h
  split at h
  · rename_i hlast
    exact Or.inl ⟨h, Or.inl (List.getLast?_eq_none_iff.mp hlast)⟩
  · rename_i hlast
    exact Or.inl ⟨h, Or.inr ⟨_, (List.dropLast_append_getLast? _ hlast).symm⟩⟩
  · rename_i s hs hlast
    right
    split at h
    · cases h
    · rename_i m hm
      split at h
      · rename_i es hes
        split at h
        · cases h
        · rename_i hlimit
          cases h
          have hsplit : p.segments.dropLast ++ [s] = p.segments := List.dropLast_append_getLast? s hlast
          exact ⟨_, s, m, es, hsplit.symm, hs, hm, hes, Nat.le_of_not_lt hlimit, rfl⟩
      · cases h
      · cases h

theorem place_cases {l : Location} (h : d.place p = .ok l) :
    d.locate p = .ok l ∨ ∃ names s m es, p.segments = names ++ [s] ∧ s ≠ ".." ∧
      follow d.root (p.origin d.here) names = .ok m ∧ d.root.at? m = some (.folder es) ∧
      s.utf8ByteSize ≤ nameLimit ∧ l = m ++ [s] :=
  (place_split h).imp_left And.left

theorem place_eq_ok {l : Location} (h : d.place p = .ok l) : l = p.resolve d.here := by
  rcases place_cases h with h | ⟨names, s, m, es, hsegments, hs, hm, -, -, rfl⟩
  · exact locate_eq_ok h
  · unfold FilePath.resolve
    rw [hsegments, Location.follow_append, Location.follow_cons, if_neg hs, follow_eq_ok hm]
    rfl

end Disk

end Scaffold
