import Scaffold.Proofs.Generation.Artifacts
import Scaffold.Workspace.Plan

/-!
# Planned files

A plan has one entry for each path that was put into it, so it counts the
paths. Artifacts have files of their own as soon as their places are all
different (`Output.ownFiles_iff_nodup`).
-/

namespace Scaffold

/-! ## Plans -/

namespace FilePlan

theorem put_of_notMem {p : FilePath} : ∀ {plan : FilePlan} (text : String),
    p ∉ plan.map Prod.fst → plan.put p text = plan ++ [(p, text)]
  | [], _, _ => rfl
  | e :: plan, text, h => by
    rw [List.map_cons, List.mem_cons, not_or] at h
    rw [put, if_neg (Ne.symm h.1), put_of_notMem text h.2]
    rfl

theorem paths_put_of_mem {p : FilePath} : ∀ {plan : FilePlan} (text : String),
    p ∈ plan.map Prod.fst → (plan.put p text).map Prod.fst = plan.map Prod.fst
  | e :: plan, text, h => by
    by_cases he : e.1 = p
    · rw [put, if_pos he, List.map_cons, List.map_cons, he]
    · rw [put, if_neg he, List.map_cons, List.map_cons,
        paths_put_of_mem text ((List.mem_cons.mp h).resolve_left (Ne.symm he))]

theorem putAll_of_nodup {more : FilePlan} (h : (more.map Prod.fst).Nodup) : putAll [] more = more :=
  foldl_put_of_nodup put_of_notMem h

theorem putAll_cons (plan : FilePlan) (f : FilePath × String) (more : FilePlan) :
    plan.putAll (f :: more) = (plan.put f.1 f.2).putAll more := rfl

theorem mem_paths_put {p q : FilePath} {plan : FilePlan} {text : String} :
    p ∈ (plan.put q text).map Prod.fst ↔ p ∈ plan.map Prod.fst ∨ p = q := by
  by_cases hq : q ∈ plan.map Prod.fst
  · rw [paths_put_of_mem text hq]
    refine ⟨Or.inl, ?_⟩
    rintro (hp | rfl)
    · exact hp
    · exact hq
  · rw [put_of_notMem text hq]
    simp

theorem mem_paths_putAll {p : FilePath} : ∀ {more plan : FilePlan},
    p ∈ (plan.putAll more).map Prod.fst ↔ p ∈ (plan ++ more).map Prod.fst
  | [], plan => by rw [List.append_nil]; rfl
  | f :: more, plan => by
    rw [putAll_cons, mem_paths_putAll, List.map_append, List.map_append, List.mem_append, List.mem_append,
      mem_paths_put, List.map_cons, List.mem_cons, or_assoc]

theorem length_putAll_le : ∀ (more plan : FilePlan), (plan.putAll more).length ≤ plan.length + more.length
  | [], plan => Nat.le_refl _
  | f :: more, plan => by
    have hrest := length_putAll_le more (plan.put f.1 f.2)
    rw [putAll_cons, List.length_cons]
    by_cases hf : f.1 ∈ plan.map Prod.fst
    · have hsame := congrArg List.length (paths_put_of_mem f.2 hf)
      rw [List.length_map, List.length_map] at hsame
      omega
    · rw [put_of_notMem f.2 hf] at hrest ⊢
      rw [List.length_append, List.length_singleton] at hrest
      omega

theorem nodup_of_length_putAll : ∀ (more plan : FilePlan), (plan.map Prod.fst).Nodup →
    (plan.putAll more).length = plan.length + more.length → ((plan ++ more).map Prod.fst).Nodup
  | [], plan, hplan, _ => by rwa [List.append_nil]
  | f :: more, plan, hplan, h => by
    have hnew : f.1 ∉ plan.map Prod.fst := by
      intro hf
      have hsame := congrArg List.length (paths_put_of_mem f.2 hf)
      have hrest := length_putAll_le more (plan.put f.1 f.2)
      rw [List.length_map, List.length_map] at hsame
      rw [putAll_cons, List.length_cons] at h
      omega
    have hplan' : ((plan ++ [f]).map Prod.fst).Nodup := by
      rw [List.map_append]
      exact List.concat_eq_append ▸ hplan.concat hnew
    rw [putAll_cons, put_of_notMem f.2 hnew] at h
    rw [List.length_cons, Nat.add_comm more.length, ← Nat.add_assoc] at h
    have hrest := nodup_of_length_putAll more (plan ++ [f]) hplan'
      (by rwa [List.length_append, List.length_singleton])
    rwa [List.append_assoc, List.singleton_append] at hrest

theorem nodup_paths_put {p : FilePath} {plan : FilePlan} (text : String) (h : (plan.map Prod.fst).Nodup) :
    ((plan.put p text).map Prod.fst).Nodup := by
  by_cases hp : p ∈ plan.map Prod.fst
  · rwa [paths_put_of_mem text hp]
  · rw [put_of_notMem text hp, List.map_append]
    exact List.concat_eq_append ▸ h.concat hp

theorem nodup_paths_putAll : ∀ {more plan : FilePlan}, (plan.map Prod.fst).Nodup →
    ((plan.putAll more).map Prod.fst).Nodup
  | [], _, h => h
  | f :: more, plan, h => by
    rw [putAll_cons]
    exact nodup_paths_putAll (nodup_paths_put f.2 h)

/-! ## Parts of a plan -/

section
variable {keep : FilePath → Bool} {p : FilePath}

theorem filter_put_of_pos (hp : keep p) (text : String) : ∀ plan : FilePlan,
    (plan.put p text).filter (fun e => keep e.1) = put (plan.filter fun e => keep e.1) p text
  | [] => by simp [put, hp]
  | e :: plan => by
    by_cases he : e.1 = p
    · simp [put, he, hp]
    · by_cases hkeep : keep e.1 <;> simp [put, he, hkeep, filter_put_of_pos hp text plan]

theorem filter_put_of_neg (hp : ¬ keep p) (text : String) : ∀ plan : FilePlan,
    (plan.put p text).filter (fun e => keep e.1) = plan.filter fun e => keep e.1
  | [] => by simp [put, hp]
  | e :: plan => by
    by_cases he : e.1 = p
    · simp [put, he, hp]
    · simp [put, he, List.filter_cons, filter_put_of_neg hp text plan]

end

/-- To plan only some of the paths is to keep these of the whole plan. -/
theorem filter_putAll (keep : FilePath → Bool) : ∀ more plan : FilePlan,
    (plan.putAll more).filter (fun e => keep e.1) =
      putAll (plan.filter fun e => keep e.1) (more.filter fun e => keep e.1)
  | [], plan => rfl
  | f :: more, plan => by
    rw [putAll_cons, filter_putAll keep more, List.filter_cons]
    by_cases hf : keep f.1
    · rw [if_pos hf, putAll_cons, filter_put_of_pos hf]
    · rw [if_neg hf, filter_put_of_neg hf]

end FilePlan

/-! ## Artifacts and their files -/

namespace Output

/-- What a run has to write, empty texts among it. The types of the interface and of its endpoints
are one artifact. -/
def artifacts (o : Output) : List String :=
  [o.schema, o.validationSchemas, o.types ++ o.apiTypes, o.routes, o.requestSchemas, o.config,
    o.adminAssetsModule] ++
  o.adminAssets.map Prod.snd ++ o.admin.routes.map Prod.snd ++ o.admin.components.map Prod.snd ++
  [o.migrations, o.rollback]

/-- Each artifact has a file of its own: there are as many files as artifacts, all in different
places, and each text is planned for its path. -/
structure OwnFiles (o : Output) (folder : FilePath) (t : Moment) (here : Location) : Prop where
  count : ((o.plan folder t).paths.filter (· ≠ folder.append "__init__.py")).length =
    (o.artifacts.filter (· ≠ "")).length
  apart : ((o.plan folder t).paths.map (·.resolve here)).Nodup
  kept : ∀ f ∈ o.texts t, f.2 ≠ "" → (folder.append f.1, f.2) ∈ o.plan folder t

def entries (o : Output) (folder : FilePath) (t : Moment) : FilePlan :=
  ((o.texts t).filter (·.2 ≠ "")).map fun f => (folder.append f.1, f.2)

variable {o : Output} {folder : FilePath} {t : Moment} {here : Location}

theorem allTypes_eq_empty_iff : o.allTypes = "" ↔ o.types ++ o.apiTypes = "" := by
  unfold allTypes
  by_cases htypes : o.types = "" <;> by_cases hapi : o.apiTypes = "" <;> simp [htypes, hapi]

theorem length_entries : (o.entries folder t).length = (o.artifacts.filter (· ≠ "")).length := by
  have htypes : decide (o.allTypes ≠ "") = decide (o.types ++ o.apiTypes ≠ "") :=
    decide_eq_decide.mpr (not_congr allTypes_eq_empty_iff)
  rw [entries, List.length_map, ← List.countP_eq_length_filter, ← List.countP_eq_length_filter]
  unfold texts artifacts
  simp only [List.countP_append, List.countP_map, List.countP_cons, htypes]
  rfl

theorem plan_eq_or (o : Output) (folder : FilePath) (t : Moment) :
    o.plan folder t = FilePlan.putAll [] (o.entries folder t) ∨
      o.plan folder t =
        (FilePlan.putAll [] (o.entries folder t)).put (folder.append "__init__.py") packageMark := by
  unfold plan
  by_cases hmark : (FilePlan.putAll [] (o.entries folder t)).paths.any (·.suffix = ".py")
  · exact Or.inr (if_pos hmark)
  · exact Or.inl (if_neg hmark)

theorem filter_paths_plan (hfresh : folder.append "__init__.py" ∉ (o.entries folder t).map Prod.fst) :
    (o.plan folder t).paths.filter (· ≠ folder.append "__init__.py") =
      (FilePlan.putAll [] (o.entries folder t)).map Prod.fst := by
  have hput : folder.append "__init__.py" ∉ (FilePlan.putAll [] (o.entries folder t)).map Prod.fst :=
    fun hp => hfresh (FilePlan.mem_paths_putAll.mp hp)
  have hkept : ((FilePlan.putAll [] (o.entries folder t)).map Prod.fst).filter
      (· ≠ folder.append "__init__.py") = (FilePlan.putAll [] (o.entries folder t)).map Prod.fst :=
    List.filter_eq_self.mpr fun p hp => decide_eq_true fun h => hput (h ▸ hp)
  rcases o.plan_eq_or folder t with hplan | hplan
  · rw [hplan, FilePlan.paths, hkept]
  · rw [hplan, FilePlan.paths, FilePlan.put_of_notMem packageMark hput, List.map_append,
      List.filter_append, hkept]
    simp

theorem plan_of_nodup (hnodup : ((o.entries folder t).map Prod.fst).Nodup)
    (hfresh : folder.append "__init__.py" ∉ (o.entries folder t).map Prod.fst) :
    o.plan folder t = o.entries folder t ∨
      o.plan folder t = o.entries folder t ++ [(folder.append "__init__.py", packageMark)] := by
  have hall : FilePlan.putAll [] (o.entries folder t) = o.entries folder t :=
    FilePlan.putAll_of_nodup hnodup
  have hplan := o.plan_eq_or folder t
  rwa [hall, FilePlan.put_of_notMem packageMark hfresh] at hplan

/-- Artifacts have files of their own as soon as the places of their paths are different, and none
is that of the mark. -/
theorem ownFiles_iff_nodup
    (hmark : (folder.append "__init__.py").resolve here ∉ (o.entries folder t).map (·.1.resolve here)) :
    o.OwnFiles folder t here ↔ ((o.entries folder t).map (·.1.resolve here)).Nodup := by
  have hpaths : (o.entries folder t).map (·.1.resolve here) =
      ((o.entries folder t).map Prod.fst).map (·.resolve here) := by rw [List.map_map]; rfl
  have hfresh : folder.append "__init__.py" ∉ (o.entries folder t).map Prod.fst := by
    rw [hpaths] at hmark
    exact fun h => hmark (List.mem_map_of_mem h)
  have hcount := filter_paths_plan (o := o) hfresh
  constructor
  · intro h
    -- no path came up twice, as there are as many of them as texts
    have hlength : (FilePlan.putAll [] (o.entries folder t)).length = (o.entries folder t).length := by
      rw [length_entries, ← h.count, hcount, List.length_map]
    have hnodup : ((o.entries folder t).map Prod.fst).Nodup :=
      FilePlan.nodup_of_length_putAll _ [] List.nodup_nil (hlength.trans (Nat.zero_add _).symm)
    have hapart := h.apart
    rw [hpaths]
    rcases plan_of_nodup hnodup hfresh with hplan | hplan
    · rwa [hplan] at hapart
    · rw [hplan, FilePlan.paths, List.map_append, List.map_append] at hapart
      exact hapart.of_append_left
  · intro h
    have hnodup : ((o.entries folder t).map Prod.fst).Nodup := by
      rw [hpaths] at h
      exact h.of_map
    have hall : FilePlan.putAll [] (o.entries folder t) = o.entries folder t :=
      FilePlan.putAll_of_nodup hnodup
    have hplan := plan_of_nodup hnodup hfresh
    refine ⟨?_, ?_, fun f hf hne => ?_⟩
    · rw [hcount, hall, List.length_map, length_entries]
    · rw [hpaths] at h hmark
      rcases hplan with hplan | hplan
      · rwa [hplan]
      · rw [hplan, FilePlan.paths, List.map_append, List.map_append]
        exact List.concat_eq_append ▸ h.concat hmark
    · have hmem : (folder.append f.1, f.2) ∈ o.entries folder t :=
        List.mem_map.mpr ⟨f, List.mem_filter.mpr ⟨hf, decide_eq_true hne⟩, rfl⟩
      rcases hplan with hplan | hplan
      · rwa [hplan]
      · rw [hplan]
        exact List.mem_append_left _ hmem

end Output

end Scaffold
