import Mathlib.Data.List.Induction
import Mathlib.Data.List.Nodup
import Scaffold.Plugin.Registry

/-!
# The history of a registry

After any operations a registry holds the plugins whose registration no later
operation undid, in the order in which they were registered
(`Registry.holds_history`).
-/

namespace Scaffold.Registry

/-! ## Operations with their replies -/

def replay (r : Registry) : List Operation → Registry × List (Operation × Reply)
  | [] => (r, [])
  | o :: os => ((replay (r.perform o).1 os).1, (o, (r.perform o).2) :: (replay (r.perform o).1 os).2)

/-- Whether an operation took effect on a name: it was registered, it was removed, or all were. -/
def affects (name : String) : Operation × Reply → Bool
  | (.register p, .done) => p.name = name
  | (.unregister n, .removed true) => n = name
  | (.clear, _) => true
  | _ => false

def registered? : Operation × Reply → Option Plugin
  | (.register p, .done) => some p
  | _ => none

def latest? (name : String) (log : List (Operation × Reply)) : Option Plugin :=
  (log.reverse.find? (affects name)).bind registered?

def standing : List (Operation × Reply) → List Plugin
  | [] => []
  | entry :: later =>
    match registered? entry with
    | some p => if later.any (affects p.name) then standing later else p :: standing later
    | none => standing later

theorem replay_snoc (o : Operation) : ∀ (os : List Operation) (r : Registry), r.replay (os ++ [o]) =
    (((r.replay os).1.perform o).1, (r.replay os).2 ++ [(o, ((r.replay os).1.perform o).2)])
  | [], _ => rfl
  | o' :: os, r => by
    simp only [List.cons_append, replay, replay_snoc o os]

theorem map_fst_replay : ∀ (os : List Operation) (r : Registry), (r.replay os).2.map Prod.fst = os
  | [], _ => rfl
  | o :: os, r => by
    simp only [replay, List.map_cons, map_fst_replay os]

/-! ## One more operation -/

theorem affects_of_registered {entry : Operation × Reply} {p : Plugin} (h : registered? entry = some p)
    (name : String) : affects name entry = (p.name = name) := by
  unfold registered? at h
  split at h
  · cases h; simp [affects]
  · cases h

theorem standing_snoc (entry : Operation × Reply) (log : List (Operation × Reply)) :
    standing (log ++ [entry]) =
      (standing log).filter (fun p => !affects p.name entry) ++ (registered? entry).toList := by
  induction log with
  | nil =>
    cases h : registered? entry <;> simp [standing, h]
  | cons first log ih =>
    rw [List.cons_append, standing, standing]
    cases h : registered? first with
    | none => exact ih
    | some p =>
      simp only [List.any_append, List.any_cons, List.any_nil, Bool.or_false, Bool.or_eq_true]
      by_cases hlater : log.any (affects p.name)
      · simp [hlater, ih]
      · by_cases hentry : affects p.name entry <;> simp [hlater, hentry, ih]

theorem latest?_snoc (name : String) (entry : Operation × Reply) (log : List (Operation × Reply)) :
    latest? name (log ++ [entry]) = if affects name entry then registered? entry else latest? name log := by
  unfold latest?
  rw [List.reverse_append, List.reverse_singleton, List.singleton_append, List.find?_cons]
  by_cases h : affects name entry <;> simp [h]

theorem find?_standing (name : String) (log : List (Operation × Reply)) :
    (standing log).find? (·.name = name) = latest? name log := by
  induction log using List.reverseRecOn with
  | nil => rfl
  | append_singleton log entry ih =>
    -- of that name nothing is left but what the operation itself registers
    have hleft : ((standing log).filter fun p => !affects p.name entry).find? (·.name = name) =
        if affects name entry then none else latest? name log := by
      rw [List.find?_filter]
      by_cases h : affects name entry
      · rw [if_pos h]
        refine List.find?_eq_none.mpr fun p _ => ?_
        by_cases hp : p.name = name <;> simp [hp, h]
      · rw [if_neg h, ← ih]
        congr 1
        funext p
        by_cases hp : p.name = name <;> simp [hp, h]
    rw [standing_snoc, latest?_snoc, List.find?_append, hleft]
    cases hnew : registered? entry with
    | none => by_cases h : affects name entry <;> simp [h]
    | some p =>
      have haffects := affects_of_registered hnew name
      by_cases h : affects name entry <;> simp [h] at haffects <;> simp [h, haffects]

theorem register_mem_of_standing {p : Plugin} {log : List (Operation × Reply)} (h : p ∈ standing log) :
    .register p ∈ log.map Prod.fst := by
  induction log using List.reverseRecOn with
  | nil => cases h
  | append_singleton log entry ih =>
    rw [standing_snoc, List.mem_append] at h
    rw [List.map_append, List.mem_append]
    rcases h with h | h
    · exact Or.inl (ih (List.mem_filter.mp h).1)
    · right
      unfold registered? at h
      split at h
      · simp at h; simp [h]
      · cases h

/-! ## What is held -/

theorem lookup_keyed (name : String) (ps : List Plugin) :
    (ps.map fun p => (p.name, p)).lookup name = ps.find? (·.name = name) := by
  induction ps with
  | nil => rfl
  | cons p ps ih =>
    rw [List.map_cons, List.lookup_cons, List.find?_cons, ih]
    by_cases h : p.name = name
    · simp [h]
    · simp [h, beq_false_of_ne (Ne.symm h)]

theorem has_iff {r : Registry} {name : String} : r.has name ↔ name ∈ r.names := by
  unfold has get? names
  induction r.entries with
  | nil => simp
  | cons e es ih =>
    rw [List.lookup_cons, List.map_cons, List.mem_cons, ← ih]
    by_cases h : name = e.1
    · simp [h]
    · simp [h, beq_false_of_ne h]

theorem get?_of_mem {r : Registry} (hnodup : r.names.Nodup) {e : String × Plugin} (he : e ∈ r.entries) :
    r.get? e.1 = some e.2 := by
  obtain ⟨es⟩ := r
  unfold names at hnodup
  show es.lookup e.1 = some e.2
  induction es with
  | nil => cases he
  | cons first es ih =>
    rw [List.map_cons, List.nodup_cons] at hnodup
    rw [List.lookup_cons]
    rcases List.mem_cons.mp he with rfl | he
    · simp
    · have hne : e.1 ≠ first.1 := fun heq => hnodup.1 (heq ▸ List.mem_map_of_mem he)
      simp [beq_false_of_ne hne, ih hnodup.2 he]

theorem perform_register (r : Registry) (p : Plugin) : r.perform (.register p) =
    if p.name ∈ r.names then (r, .refused (.registered p.name)) else (⟨r.entries ++ [(p.name, p)]⟩, .done) := by
  unfold perform Registry.register
  by_cases h : p.name ∈ r.names
  · simp [h, has_iff.mpr h]
  · have hfree : ¬ r.has p.name := fun hhas => h (has_iff.mp hhas)
    simp [h, hfree]

/-- A registry holds the plugins of a log under their names, none of which is there twice. -/
structure Holds (r : Registry) (log : List (Operation × Reply)) : Prop where
  entries : r.entries = (standing log).map fun p => (p.name, p)
  nodup : r.names.Nodup

namespace Holds
variable {r : Registry} {log : List (Operation × Reply)} (h : Holds r log)

include h in
theorem names_eq : r.names = (standing log).map (·.name) := by
  rw [names, h.entries, List.map_map]; rfl

include h in
theorem plugins_eq : r.plugins = standing log := by
  rw [plugins, h.entries, List.map_map]; exact List.map_id _

include h in
theorem get?_eq (name : String) : r.get? name = latest? name log := by
  rw [get?, h.entries, lookup_keyed, find?_standing]

include h in
theorem register (p : Plugin) : Holds (r.perform (.register p)).1
    (log ++ [(.register p, (r.perform (.register p)).2)]) := by
  rw [perform_register]
  by_cases hp : p.name ∈ r.names
  · rw [if_pos hp]
    exact ⟨by rw [h.entries, standing_snoc]; simp [affects, registered?], h.nodup⟩
  · rw [if_neg hp]
    constructor
    · have hkept : ∀ q ∈ standing log, (!affects q.name (.register p, .done)) = true := by
        intro q hq
        have hq : q.name ∈ r.names := h.names_eq ▸ List.mem_map_of_mem hq
        simp only [affects, Bool.not_eq_true', decide_eq_false_iff_not]
        exact fun heq => hp (heq ▸ hq)
      simp [standing_snoc, List.filter_eq_self.mpr hkept, registered?, h.entries]
    · rw [names, List.map_append, List.map_singleton, ← List.concat_eq_append]
      exact h.nodup.concat hp

include h in
theorem unregister (name : String) : Holds (r.perform (.unregister name)).1
    (log ++ [(.unregister name, (r.perform (.unregister name)).2)]) := by
  constructor
  · have haffects (q : Plugin) (hq : q ∈ standing log) :
        (!affects q.name (.unregister name, .removed (r.has name))) = decide (q.name ≠ name) := by
      have hq : q.name ∈ r.names := h.names_eq ▸ List.mem_map_of_mem hq
      cases hhas : r.has name with
      | true => by_cases heq : q.name = name <;> simp [affects, heq, Ne.symm]
      | false =>
        have hne : q.name ≠ name := fun heq => by simp [has_iff.mpr (heq ▸ hq)] at hhas
        simp [affects, hne]
    simp [perform, Registry.unregister, standing_snoc, registered?, h.entries, List.filter_map,
      List.filter_congr haffects, Function.comp_def]
  · exact h.nodup.sublist (List.filter_sublist.map Prod.fst)

theorem clear (r : Registry) (log : List (Operation × Reply)) :
    Holds (r.perform .clear).1 (log ++ [(.clear, (r.perform .clear).2)]) := by
  constructor
  · rw [standing_snoc]; simp [perform, empty, affects, registered?]
  · exact List.nodup_nil

end Holds

theorem holds_perform {r : Registry} {log : List (Operation × Reply)} (h : Holds r log) (o : Operation) :
    Holds (r.perform o).1 (log ++ [(o, (r.perform o).2)]) := by
  cases o with
  | register p => exact h.register p
  | unregister name => exact h.unregister name
  | clear => exact Holds.clear r log

theorem holds_replay (os : List Operation) : Holds (empty.replay os).1 (empty.replay os).2 := by
  induction os using List.reverseRecOn with
  | nil => exact ⟨rfl, List.nodup_nil⟩
  | append_singleton os o ih =>
    rw [replay_snoc]
    exact holds_perform ih o

/-! ## The registry and its history -/

/-- **Registry.** After any operations the names are those whose latest effective operation registered
them, in the order of these registrations, each with the plugin that was registered then. A name that
is held cannot be registered, and only a name that is held can be removed. -/
theorem holds_history (operations : List Operation) :
    let r := (empty.replay operations).1
    let log := (empty.replay operations).2
    log.map Prod.fst = operations ∧ r.names.Nodup ∧
      r.plugins = standing log ∧ r.names = (standing log).map (·.name) ∧
      (∀ name, r.get? name = latest? name log) ∧
      (∀ name, r.has name = decide (name ∈ r.names)) ∧
      r.names.map r.get? = r.plugins.map some ∧
      (∀ p, r.perform (.register p) = if p.name ∈ r.names then (r, .refused (.registered p.name))
        else (⟨r.entries ++ [(p.name, p)]⟩, .done)) ∧
      ∀ name, (r.perform (.unregister name)).2 = .removed (decide (name ∈ r.names)) := by
  intro r log
  have h : Holds r log := holds_replay operations
  have hhas (name : String) : r.has name = decide (name ∈ r.names) := by
    rw [Bool.eq_iff_iff, decide_eq_true_iff]; exact has_iff
  refine ⟨map_fst_replay operations empty, h.nodup, h.plugins_eq, h.names_eq, h.get?_eq, hhas, ?_,
    perform_register r, fun name => ?_⟩
  · rw [names, plugins, List.map_map, List.map_map]
    exact List.map_congr_left fun e he => get?_of_mem h.nodup he
  · show Reply.removed (r.has name) = _
    rw [hhas]

/-- A name that is registered again after its removal comes last. -/
example :
    let plugin (name : String) : Plugin := ⟨name, "", none, fun _ _ => (name, .ok (.text ""))⟩
    (empty.replay [.register (plugin "a"), .register (plugin "b"), .register (plugin "a"), .unregister "a",
      .register (plugin "a")]).1.names = ["b", "a"] := by decide

end Scaffold.Registry
