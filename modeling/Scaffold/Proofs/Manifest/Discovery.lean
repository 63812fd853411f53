import Mathlib.Data.List.Lex
import Mathlib.Data.Prod.Lex
import Mathlib.Data.String.Basic
import Scaffold.Manifest.Loading
import Scaffold.Proofs.Files.Orderly
import Scaffold.Proofs.Text.Joined

/-!
# The manifest that is found

Level by level, the search holds all folders of one depth that no ignored
folder hides, sorted by their names (`Discovery.Level`). So what it finds is
the first of all candidates: by the place of its name among the names that are
tried, then by its depth, then by its folders (`Discovery.manifest_least`).
-/

namespace Scaffold

namespace Discovery

/-! ## One queue -/

/-- How many nodes there are in folders that are still to be searched. -/
def pending (queue : List Folder) : Nat := (queue.map fun f => (FileTree.folder f.2).size).sum

theorem pending_cons (f : Folder) (queue : List Folder) :
    pending (f :: queue) = (FileTree.folder f.2).size + pending queue := rfl

theorem pending_append (queue more : List Folder) : pending (queue ++ more) = pending queue + pending more := by
  rw [pending, List.map_append, List.sum_append]; rfl

theorem pending_filterMap_le {g : String × FileTree → Option Folder}
    (hg : ∀ e, ∀ f ∈ g e, (FileTree.folder f.2).size ≤ e.2.size) (es : List (String × FileTree)) :
    pending (es.filterMap g) ≤ (es.map fun e => e.2.size).sum := by
  induction es with
  | nil => exact Nat.le_refl _
  | cons e es ih =>
    rw [List.map_cons, List.sum_cons]
    cases he : g e with
    | none =>
      rw [List.filterMap_cons_none he]
      exact Nat.le_trans ih (Nat.le_add_left _ _)
    | some f =>
      rw [List.filterMap_cons_some he, pending_cons]
      exact Nat.add_le_add (hg e f he) ih

theorem pending_subfolders_lt (f : Folder) : pending (subfolders f) < (FileTree.folder f.2).size := by
  have hsorted := (List.mergeSort_perm f.2 fun a b => !(b.1 < a.1)).map fun e => e.2.size
  rw [FileTree.size, FileTree.sizeEntries_eq, ← hsorted.sum_nat]
  refine Nat.lt_succ_of_le (pending_filterMap_le ?_ _)
  rintro ⟨s, c | inner⟩ g hg
  · cases hg
  · dsimp only at hg
    split at hg
    · cases hg
    · cases hg
      exact Nat.le_refl _

/-- The search with one queue of folders: what is found in a folder is searched behind all that was
found before. It ends because each step takes a folder out of the tree. -/
def sweep (name : String) : List Folder → Option (List String)
  | [] => none
  | f :: queue => if holds name f then some (f.1 ++ [name]) else sweep name (queue ++ subfolders f)
termination_by queue => pending queue
decreasing_by
  rw [pending_append, pending_cons, Nat.add_comm]
  exact Nat.add_lt_add_right (pending_subfolders_lt f) _

theorem sweep_append (name : String) : ∀ fs queue : List Folder, sweep name (fs ++ queue) =
    match fs.find? (holds name) with
    | some f => some (f.1 ++ [name])
    | none => sweep name (queue ++ fs.flatMap subfolders)
  | [], queue => by simp
  | f :: fs, queue => by
    rw [List.cons_append, sweep, List.find?_cons]
    by_cases hf : holds name f
    · simp [hf]
    · simp only [hf]
      rw [List.append_assoc, sweep_append name fs, List.flatMap_cons, List.append_assoc]
      rfl

theorem mem_subfolders {f g : Folder} :
    g ∈ subfolders f ↔ ∃ s inner, (s, .folder inner) ∈ f.2 ∧ s ∉ ignored ∧ g = (f.1 ++ [s], inner) := by
  rw [subfolders, List.mem_filterMap]
  constructor
  · rintro ⟨⟨s, c | inner⟩, he, h⟩
    · cases h
    · by_cases hs : s ∈ ignored
      · simp [hs] at h
      · simp only [List.contains_iff_mem, hs, if_false, Option.some.injEq] at h
        exact ⟨s, inner, List.mem_mergeSort.mp he, hs, h.symm⟩
  · rintro ⟨s, inner, he, hs, rfl⟩
    exact ⟨(s, .folder inner), List.mem_mergeSort.mpr he, by simp [hs]⟩

theorem height_of_mem_subfolders {f g : Folder} (h : g ∈ subfolders f) :
    (FileTree.folder g.2).height < (FileTree.folder f.2).height := by
  obtain ⟨s, inner, he, -, rfl⟩ := mem_subfolders.mp h
  exact Nat.lt_succ_of_le (FileTree.height_le_of_mem he)

/-- **One queue.** The search level by level is the search with one queue, for as many levels as there
are folders. -/
theorem search_eq_sweep (name : String) : ∀ {levels : Nat} {fs : List Folder},
    (∀ f ∈ fs, (FileTree.folder f.2).height ≤ levels) → search name levels fs = sweep name fs
  | 0, [], _ => by rw [search, sweep]
  | 0, f :: fs, h => absurd (h f List.mem_cons_self) (by simp [FileTree.height])
  | levels + 1, fs, h => by
    have hdeeper : ∀ g ∈ fs.flatMap subfolders, (FileTree.folder g.2).height ≤ levels := by
      intro g hg
      obtain ⟨f, hf, hg⟩ := List.mem_flatMap.mp hg
      exact Nat.le_of_lt_succ (Nat.lt_of_lt_of_le (height_of_mem_subfolders hg) (h f hf))
    have hsweep := sweep_append name fs []
    rw [List.append_nil, List.nil_append] at hsweep
    have hbehind := search_eq_sweep name hdeeper
    rw [search, hsweep]
    cases fs.find? (holds name) with
    | some f => rfl
    | none => exact hbehind

/-! ## Levels -/

def spelling (folders : List String) : List (List Char) := folders.map String.toList

structure Level (root : FileTree) (depth : Nat) (fs : List Folder) : Prop where
  mem_iff (f : Folder) : f ∈ fs ↔
    f.1.length = depth ∧ (∀ s ∈ f.1, s ∉ ignored) ∧ root.at? f.1 = some (.folder f.2)
  sorted : fs.Pairwise fun f g => spelling f.1 < spelling g.1

theorem not_lt_iff (s t : String) : (!decide (t < s)) = true ↔ s.toList ≤ t.toList := by
  rw [Bool.not_eq_true', decide_eq_false_iff_not]
  exact not_lt (a := t.toList)

theorem sorted_subfolders {f : Folder} (h : (f.2.map Prod.fst).Nodup) :
    (subfolders f).Pairwise fun g g' => spelling g.1 < spelling g'.1 := by
  -- the names are all different, so they are strictly sorted
  have hsorted : (f.2.mergeSort fun a b => !(b.1 < a.1)).Pairwise fun a b => a.1.toList < b.1.toList := by
    have hle : (f.2.mergeSort fun a b => !(b.1 < a.1)).Pairwise fun a b => (!decide (b.1 < a.1)) = true := by
      refine List.pairwise_mergeSort (fun a b c hab hbc => ?_) (fun a b => ?_) f.2
      · rw [not_lt_iff] at hab hbc ⊢
        exact le_trans hab hbc
      · rw [Bool.or_eq_true, not_lt_iff, not_lt_iff]
        exact le_total _ _
    have hne : (f.2.mergeSort fun a b => !(b.1 < a.1)).Pairwise fun a b => a.1 ≠ b.1 := by
      have hperm := (List.mergeSort_perm f.2 fun a b => !(b.1 < a.1)).map Prod.fst
      exact List.pairwise_map.mp (hperm.nodup_iff.mpr h)
    refine hle.imp₂ (fun a b hab hne => ?_) hne
    exact lt_of_le_of_ne ((not_lt_iff _ _).mp hab) fun heq => hne (String.toList_injective heq)
  rw [subfolders, List.pairwise_filterMap]
  refine hsorted.imp ?_
  -- files and ignored folders are passed over
  rintro ⟨s, c | inner⟩ ⟨s', c' | inner'⟩ hlt g hg g' hg'
  · cases hg
  · cases hg
  · cases hg'
  · dsimp only at hg hg'
    split at hg
    · cases hg
    split at hg'
    · cases hg'
    cases hg
    cases hg'
    rw [spelling, spelling, List.map_append, List.map_append]
    exact List.append_left_lt (.rel hlt)

theorem Level.next {root : FileTree} {depth : Nat} {fs : List Folder} (hroot : root.isOrderly)
    (h : Level root depth fs) : Level root (depth + 1) (fs.flatMap subfolders) := by
  have hnodup {f : Folder} (hf : f ∈ fs) : (f.2.map Prod.fst).Nodup :=
    (FileTree.isOrderly_folder_iff.mp (FileTree.isOrderly_at? hroot ((h.mem_iff f).mp hf).2.2).1).1
  constructor
  · intro g
    rw [List.mem_flatMap]
    constructor
    · rintro ⟨f, hf, hg⟩
      obtain ⟨s, inner, he, hs, rfl⟩ := mem_subfolders.mp hg
      obtain ⟨hdepth, hseen, hat⟩ := (h.mem_iff f).mp hf
      refine ⟨by rw [List.length_append, hdepth]; rfl, ?_, ?_⟩
      · exact List.forall_mem_append.mpr ⟨hseen, List.forall_mem_singleton.mpr hs⟩
      · rw [FileTree.at?_snoc hat, FileTree.lookup_eq_some_iff_mem (hnodup hf)]
        exact he
    · rintro ⟨hdepth, hseen, hat⟩
      -- a folder this deep stands in one that the level before has
      obtain ⟨folders, inner⟩ := g
      rcases List.eq_nil_or_concat folders with rfl | ⟨above, s, rfl⟩
      · cases hdepth
      · rw [List.concat_eq_append] at hdepth hseen hat ⊢
        dsimp only at hdepth hseen hat
        obtain ⟨hseen, hs⟩ := List.forall_mem_append.mp hseen
        rw [FileTree.at?_append] at hat
        obtain ⟨n, hn, hat⟩ := Option.bind_eq_some_iff.mp hat
        cases n with
        | file c => cases hat
        | folder es =>
          have hf : (above, es) ∈ fs := by
            refine (h.mem_iff _).mpr ⟨?_, hseen, hn⟩
            simpa using hdepth
          rw [FileTree.at?_folder_cons] at hat
          obtain ⟨m, hm, hat⟩ := Option.bind_eq_some_iff.mp hat
          cases hat
          refine ⟨_, hf, mem_subfolders.mpr ⟨s, inner, ?_, hs s List.mem_cons_self, rfl⟩⟩
          exact (FileTree.lookup_eq_some_iff_mem (hnodup hf)).mp hm
  · refine List.pairwise_flatMap.mpr ⟨fun f hf => sorted_subfolders (hnodup hf), ?_⟩
    refine h.sorted.imp_of_mem fun {f f'} hf hf' hlt g hg g' hg' => ?_
    obtain ⟨s, inner, -, -, rfl⟩ := mem_subfolders.mp hg
    obtain ⟨s', inner', -, -, rfl⟩ := mem_subfolders.mp hg'
    -- folders of one level have paths of one length, so the first difference between them decides
    have hlength : (spelling f.1).length = (spelling f'.1).length := by
      rw [spelling, spelling, List.length_map, List.length_map, ((h.mem_iff f).mp hf).1,
        ((h.mem_iff f').mp hf').1]
    rw [spelling, spelling, List.map_append, List.map_append]
    exact Text.append_lt_append hlt hlength _ _

theorem level_start (es : List (String × FileTree)) : Level (.folder es) 0 [([], es)] := by
  refine ⟨fun f => ?_, List.pairwise_singleton _ _⟩
  rw [List.mem_singleton]
  constructor
  · rintro rfl
    exact ⟨rfl, List.forall_mem_nil _, rfl⟩
  · rintro ⟨hdepth, -, hat⟩
    obtain ⟨folders, inner⟩ := f
    obtain rfl := List.eq_nil_of_length_eq_zero hdepth
    cases hat
    rfl

/-! ## Files of a name -/

structure Lies (root : FileTree) (name : String) (folders : List String) : Prop where
  seen : ∀ s ∈ folders, s ∉ ignored
  file : ∃ content, root.at? (folders ++ [name]) = some (.file content)

def reach (folders : List String) : ℕ ×ₗ List (List Char) := toLex (folders.length, spelling folders)

theorem Lies.folder {root : FileTree} {name : String} {folders : List String} (h : Lies root name folders) :
    ∃ es, root.at? folders = some (.folder es) ∧ holds name (folders, es) := by
  obtain ⟨content, hfile⟩ := h.file
  rw [FileTree.at?_append] at hfile
  obtain ⟨n, hn, hfile⟩ := Option.bind_eq_some_iff.mp hfile
  cases n with
  | file c => cases hfile
  | folder es =>
    rw [FileTree.at?_folder_cons] at hfile
    obtain ⟨m, hm, hfile⟩ := Option.bind_eq_some_iff.mp hfile
    cases hfile
    exact ⟨es, hn, by rw [holds, hm]; rfl⟩

theorem lies_of_holds {root : FileTree} {name : String} {f : Folder} (hseen : ∀ s ∈ f.1, s ∉ ignored)
    (hat : root.at? f.1 = some (.folder f.2)) (h : holds name f) : Lies root name f.1 := by
  refine ⟨hseen, ?_⟩
  rw [FileTree.at?_snoc hat]
  rw [holds, Option.any_eq_true] at h
  obtain ⟨n, hn, hfile⟩ := h
  cases n with
  | file c => exact ⟨c, hn⟩
  | folder es => cases hfile

/-- What a search finds from a level on lies less deep than all other files of the name, or as deep and
before them; and a search that finds nothing passes no file. -/
theorem search_cases {root : FileTree} (hroot : root.isOrderly) (name : String) :
    ∀ (levels : Nat) {depth : Nat} {fs : List Folder}, Level root depth fs →
      (∃ folders, search name levels fs = some (folders ++ [name]) ∧ Lies root name folders ∧
        ∀ others, Lies root name others → depth ≤ others.length → others = folders ∨ reach folders < reach others) ∨
      search name levels fs = none ∧ ∀ others, Lies root name others → depth ≤ others.length →
        depth + levels ≤ others.length
  | 0, depth, fs, _ => Or.inr ⟨rfl, fun others _ hdeep => hdeep⟩
  | levels + 1, depth, fs, h => by
    cases hfind : fs.find? (holds name) with
    | some f =>
      left
      rw [search, hfind]
      obtain ⟨hf, before, behind, rfl, hbefore⟩ := List.find?_eq_some_iff_append.mp hfind
      obtain ⟨hdepth, hseen, hat⟩ := (h.mem_iff f).mp (by simp)
      refine ⟨f.1, rfl, lies_of_holds hseen hat hf, fun others hothers hdeep => ?_⟩
      rcases Nat.lt_or_eq_of_le hdeep with hdeep | hdeep
      · right
        exact Prod.Lex.toLex_lt_toLex.mpr (Or.inl (hdepth ▸ hdeep))
      · obtain ⟨es, hes, hholds⟩ := hothers.folder
        have hmem := (h.mem_iff (others, es)).mpr ⟨hdeep.symm, hothers.seen, hes⟩
        -- no folder before the one that was found holds the file
        rcases List.mem_append.mp hmem with hmem | hmem
        · have := hbefore _ hmem
          simp [hholds] at this
        · rcases List.mem_cons.mp hmem with heq | hmem
          · exact Or.inl (congrArg Prod.fst heq)
          · right
            have hlt := List.rel_of_pairwise_cons (List.pairwise_append.mp h.sorted).2.1 hmem
            exact Prod.Lex.toLex_lt_toLex.mpr (Or.inr ⟨hdepth.trans hdeep, hlt⟩)
    | none =>
      -- with nothing on this level, whatever there is lies deeper
      have hdeeper {others : List String} (hothers : Lies root name others) (hdeep : depth ≤ others.length) :
          depth + 1 ≤ others.length := by
        rcases Nat.lt_or_eq_of_le hdeep with hdeep | hdeep
        · exact hdeep
        · obtain ⟨es, hes, hholds⟩ := hothers.folder
          have hmem := (h.mem_iff (others, es)).mpr ⟨hdeep.symm, hothers.seen, hes⟩
          exact absurd hholds (List.find?_eq_none.mp hfind _ hmem)
      rw [search, hfind]
      rcases search_cases hroot name levels (h.next hroot) with
        ⟨folders, hfound, hlies, hfirst⟩ | ⟨hnone, hpassed⟩
      · exact Or.inl ⟨folders, hfound, hlies, fun others hothers hdeep => hfirst others hothers (hdeeper hothers hdeep)⟩
      · refine Or.inr ⟨hnone, fun others hothers hdeep => ?_⟩
        have := hpassed others hothers (hdeeper hothers hdeep)
        omega

/-! ## Candidates -/

/-- A file that may be a manifest: the names of the folders that lead to it, and its own. -/
structure Candidate where
  folders : List String
  name : String

namespace Candidate

/-- A candidate below a folder that no ignored folder hides. -/
structure IsBelow (c : Candidate) (es : List (String × FileTree)) : Prop
    extends Lies (.folder es) c.name c.folders where
  named : c.name ∈ candidates

/-- The place of its name in the order in which names are tried, its depth, and the names of its
folders by code points. -/
def rank (c : Candidate) : ℕ ×ₗ ℕ ×ₗ List (List Char) := toLex (candidates.idxOf c.name, reach c.folders)

structure IsFirst (c : Candidate) (es : List (String × FileTree)) : Prop extends c.IsBelow es where
  first : ∀ other : Candidate, other.IsBelow es → other = c ∨ c.rank < other.rank

end Candidate

theorem search_top (es : List (String × FileTree)) (h : (FileTree.folder es).isOrderly) (name : String) :
    (∃ folders, search name (FileTree.folder es).height [([], es)] = some (folders ++ [name]) ∧
      Lies (.folder es) name folders ∧
        ∀ others, Lies (.folder es) name others → others = folders ∨ reach folders < reach others) ∨
      search name (FileTree.folder es).height [([], es)] = none ∧ ∀ others, ¬ Lies (.folder es) name others := by
  rcases search_cases h name (FileTree.folder es).height (level_start es) with
    ⟨folders, hfound, hlies, hfirst⟩ | ⟨hnone, hpassed⟩
  · exact Or.inl ⟨folders, hfound, hlies, fun others hothers => hfirst others hothers (Nat.zero_le _)⟩
  · refine Or.inr ⟨hnone, fun others hothers => ?_⟩
    -- folders lie less deep than the search goes
    obtain ⟨inner, hinner, -⟩ := hothers.folder
    have hheight := FileTree.length_lt_height hinner
    have hdeep := hpassed others hothers (Nat.zero_le _)
    omega

theorem below?_cases {es : List (String × FileTree)} (h : (FileTree.folder es).isOrderly) :
    (∃ c : Candidate, below? es = some (c.folders ++ [c.name]) ∧ c.IsFirst es) ∨
      below? es = none ∧ ∀ c : Candidate, ¬ c.IsBelow es := by
  have hnames : candidates.Nodup := by decide
  cases hbelow : below? es with
  | none =>
    refine Or.inr ⟨rfl, fun c hc => ?_⟩
    have hsearch := List.findSome?_eq_none_iff.mp hbelow c.name hc.named
    rcases search_top es h c.name with ⟨folders, hfound, -⟩ | ⟨-, hnone⟩
    · rw [hfound] at hsearch
      cases hsearch
    · exact hnone c.folders hc.toLies
  | some names =>
    left
    obtain ⟨before, name, behind, hsplit, hsearch, hbefore⟩ := List.findSome?_eq_some_iff.mp hbelow
    rcases search_top es h name with ⟨folders, hfound, hlies, hfirst⟩ | ⟨hnone, -⟩
    · rw [hfound] at hsearch
      cases hsearch
      have hname : name ∈ candidates := by simp [hsplit]
      refine ⟨⟨folders, name⟩, rfl, ⟨hlies, hname⟩, ?_⟩
      rintro ⟨others, other⟩ ⟨hothers, hother⟩
      rw [hsplit] at hnames
      have hindex : candidates.idxOf name = before.length := by
        rw [hsplit, List.idxOf_append_of_notMem, List.idxOf_cons_self, Nat.add_zero]
        exact fun hmem => (List.nodup_append.mp hnames).2.2 name hmem name List.mem_cons_self rfl
      dsimp only at hothers hother
      by_cases hsame : other = name
      · subst hsame
        refine (hfirst others hothers).imp (fun heq => by rw [heq]) fun hlt => ?_
        exact Prod.Lex.toLex_lt_toLex.mpr (Or.inr ⟨rfl, hlt⟩)
      · right
        -- a name with an earlier place was searched for in vain
        have hlate : other ∉ before := by
          intro hmem
          rcases search_top es h other with ⟨folders', hfound', -⟩ | ⟨-, hnone⟩
          · have := hbefore other hmem
            rw [hfound'] at this
            cases this
          · exact hnone others hothers
        refine Prod.Lex.toLex_lt_toLex.mpr (Or.inl ?_)
        show candidates.idxOf name < candidates.idxOf other
        rw [hindex, hsplit, List.idxOf_append_of_notMem hlate, List.idxOf_cons_ne _ (Ne.symm hsame)]
        omega
    · rw [hnone] at hsearch
      cases hsearch

/-- **Discovery.** Below a folder the manifest is the first of all candidates, by the place of its
name among the names that are tried, then by its depth, and then by the names of its folders; without
a candidate there is a fault that names the folder. The search goes through one queue of folders. -/
theorem manifest_least {d : Disk} {start : FilePath} {es : List (String × FileTree)}
    (hstart : d.entries start = .ok es) (hes : (FileTree.folder es).isOrderly) :
    below? es = (candidates.findSome? fun name => sweep name [([], es)]) ∧
      ((∃ c : Candidate, c.IsFirst es ∧ ∃ p, manifest d start = .ok p ∧ p.anchor = start.anchor ∧
          p.segments = start.segments ++ (c.folders ++ [c.name])) ∨
        (∀ c : Candidate, ¬ c.IsBelow es) ∧
          manifest d start = .error (.refused (.notFound start) none)) := by
  constructor
  · have hheight : ∀ f ∈ [(([], es) : Folder)], (FileTree.folder f.2).height ≤ (FileTree.folder es).height := by
      simp
    unfold below?
    simp only [search_eq_sweep _ hheight]
  · unfold manifest manifest?
    rw [hstart]
    rcases below?_cases hes with ⟨c, hfound, hfirst⟩ | ⟨hnone, hnot⟩
    · left
      obtain ⟨content, hfile⟩ := hfirst.file
      have hpath := FilePath.foldl_append (FileTree.isOrderly_at? hes hfile).2 start
      refine ⟨c, hfirst, (c.folders ++ [c.name]).foldl FilePath.append start, ?_, hpath⟩
      simp only [Except.map, hfound, Option.map_some]
    · right
      refine ⟨hnot, ?_⟩
      simp only [Except.map, hnone, Option.map_none]

/-- A name that is tried earlier lies deeper, and an ignored folder hides an even earlier one. -/
theorem manifest_least_nested :
    let es : List (String × FileTree) := [
      ("b", .folder [(".manifest.yaml", .file (.bytes []))]),
      ("node_modules", .folder [(".manifest.json", .file (.bytes []))]),
      ("a", .folder [(".manifest.yaml", .file (.bytes []))]),
      ("manifest.json", .file (.bytes []))]
    let d : Disk := ⟨.folder [("project", .folder es)], []⟩
    let start := FilePath.ofText "project"
    d.entries start = .ok es ∧ (FileTree.folder es).isOrderly ∧
      Candidate.IsFirst ⟨["a"], ".manifest.yaml"⟩ es ∧
        manifest d start = .ok (.ofText "project/a/.manifest.yaml") := by
  intro es d start
  have hstart : d.entries start = .ok es := rfl
  have hes : (FileTree.folder es).isOrderly := by decide
  have hbelow : below? es = some ["a", ".manifest.yaml"] := by
    simp [es, below?, candidates, search, subfolders, holds, ignored, FileTree.height,
      FileTree.heightEntries, FileTree.isFile, FileTree.isFolder, List.mergeSort,
      List.MergeSort.Internal.splitInTwo, List.lookup_cons, -String.lt_iff_ltb]
  have hfound : manifest d start = .ok (.ofText "project/a/.manifest.yaml") := by
    unfold manifest manifest?
    rw [hstart]
    simp only [Except.map, hbelow, Option.map_some]
    rfl
  obtain ⟨-, ⟨⟨folders, name⟩, hfirst, p, hp, -, hsegments⟩ | ⟨-, hfault⟩⟩ := manifest_least hstart hes
  · obtain rfl := Except.ok.inj (hp.symm.trans hfound)
    have hsplit : ["project"] ++ (["a"] ++ [".manifest.yaml"]) = ["project"] ++ (folders ++ [name]) := hsegments
    obtain ⟨rfl, hname⟩ := List.append_inj' (List.append_cancel_left hsplit) rfl
    obtain rfl := List.singleton_inj.mp hname
    exact ⟨hstart, hes, hfirst, hfound⟩
  · cases hfound.symm.trans hfault

end Discovery

end Scaffold
