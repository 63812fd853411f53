import Scaffold.Proofs.Plugin.History

/-!
# Runs over all plugins

A run over all plugins comes to the same as running each of them by its name
in turn: those that reject the manifest are left out with a warning, and the
first that fails ends the run (`Registry.runAll_eq_runs`).
-/

namespace Scaffold

/-- A plugin that goes by one name, whatever it is run on. -/
def Plugin.Steady (p : Plugin) : Prop := ∀ m options, (p.generate m options).1 = p.name

def Plugin.outcome (p : Plugin) (m : Manifest) (options : Value) : Except RegistryFault PluginResult :=
  match p.accepts m with
  | .error f => .error (.failure f)
  | .ok false => .error (.rejected p.name)
  | .ok true => (p.generate m options).2.mapError .failure

namespace Registry

/-! ## Outcomes by name -/

abbrev Outcomes := List (String × Except RegistryFault PluginResult)

/-- The failure of a plugin's own, as against its rejection of a manifest. -/
def failure? : Except RegistryFault PluginResult → Option PluginFailure
  | .error (.failure f) => some f
  | _ => none

def warning? : String × Except RegistryFault PluginResult → Option String
  | (name, .error (.rejected _)) => some (Console.message .warning (skipWarning name))
  | _ => none

namespace Outcomes

def results (os : Outcomes) : Results := os.filterMap fun o => o.2.toOption.map (o.1, ·)

def warnings (os : Outcomes) : String := String.join (os.filterMap warning?)

variable {name other : String} {os : Outcomes}

theorem warnings_nil : warnings [] = "" := rfl

theorem results_ok {x : PluginResult} : results ((name, .ok x) :: os) = (name, x) :: results os := rfl

theorem results_error {f : RegistryFault} : results ((name, .error f) :: os) = results os := rfl

theorem warnings_ok {x : PluginResult} : warnings ((name, .ok x) :: os) = warnings os := rfl

theorem warnings_rejected : warnings ((name, .error (.rejected other)) :: os) =
    Console.message .warning (skipWarning name) ++ warnings os := String.join_cons

end Outcomes

def outcomes (m : Manifest) (options : Value) (es : List (String × Plugin)) : Outcomes :=
  es.map fun e => (e.1, e.2.outcome m options)

theorem outcome_cases (p : Plugin) (m : Manifest) (options : Value) :
    (∃ x, p.outcome m options = .ok x) ∨ p.outcome m options = .error (.rejected p.name) ∨
      ∃ f, p.outcome m options = .error (.failure f) := by
  unfold Plugin.outcome
  cases p.accepts m with
  | error f => exact Or.inr (Or.inr ⟨f, rfl⟩)
  | ok accepted =>
    cases accepted with
    | false => exact Or.inr (Or.inl rfl)
    | true =>
      cases (p.generate m options).2 with
      | ok x => exact Or.inl ⟨x, rfl⟩
      | error f => exact Or.inr (Or.inr ⟨f, rfl⟩)

/-! ## One plugin -/

def KeepsNames (es : List (String × Plugin)) : Prop := ∀ e ∈ es, e.1 = e.2.name ∧ e.2.Steady

theorem rename_self {r : Registry} (h : KeepsNames r.entries) (name : String) : r.rename name name = r := by
  obtain ⟨es⟩ := r
  unfold rename
  congr 1
  refine (List.map_congr_left fun e he => ?_).trans (List.map_id es)
  obtain ⟨key, p⟩ := e
  obtain ⟨hkey, -⟩ := h _ he
  by_cases heq : key = name
  · subst heq
    have hkey : key = p.name := hkey
    simp [hkey]
  · simp [heq]

theorem run_eq {r : Registry} (h : KeepsNames r.entries) (hnodup : r.names.Nodup) (m : Manifest)
    (options : Value) {e : String × Plugin} (he : e ∈ r.entries) :
    r.run e.1 m options = (r, e.2.outcome m options) := by
  obtain ⟨hkey, hsteady⟩ := h e he
  unfold run Plugin.outcome
  rw [get?_of_mem hnodup he]
  simp only
  cases e.2.accepts m with
  | error f => rfl
  | ok accepted =>
    cases accepted with
    | false => simp [hkey]
    | true =>
      have hname := hsteady m options
      simp only [hname, hkey, rename_self h]

theorem fst_run {r : Registry} (h : KeepsNames r.entries) (hnodup : r.names.Nodup) (m : Manifest)
    (options : Value) (name : String) : (r.run name m options).1 = r := by
  by_cases hname : name ∈ r.names
  · obtain ⟨e, he, rfl⟩ := List.mem_map.mp hname
    rw [run_eq h hnodup m options he]
  · have hnone : r.get? name = none := by
      have hfree : ¬ r.has name := fun hhas => hname (has_iff.mp hhas)
      simpa [has] using hfree
    rw [run, hnone]

theorem Results.put_of_notMem {name : String} {x : PluginResult} : ∀ {results : Results},
    name ∉ results.map Prod.fst → results.put name x = results ++ [(name, x)]
  | [], _ => rfl
  | (n, y) :: results, h => by
    rw [List.map_cons, List.mem_cons, not_or] at h
    rw [put, if_neg (Ne.symm h.1), put_of_notMem h.2]; rfl

section
variable {m : Manifest} {options : Value} {s : Run} (hr : KeepsNames s.registry.entries)
include hr

theorem runEach_cons {e : String × Plugin} (he : e.1 = e.2.name ∧ e.2.Steady) (rest : List (String × Plugin)) :
    runEach m options s (e :: rest) =
      match e.2.outcome m options with
      | .ok x => runEach m options { s with results := s.results.put e.1 x } rest
      | .error (.failure f) => (s, some (.failure f))
      | .error _ =>
        runEach m options
          { s with printed := s.printed ++ Console.message .warning (skipWarning e.1) } rest := by
  obtain ⟨key, p⟩ := e
  obtain ⟨hkey, hsteady⟩ := he
  obtain rfl : key = p.name := hkey
  have hname : (p.generate m options).1 = p.name := hsteady m options
  conv_lhs => rw [runEach]
  unfold Plugin.outcome
  cases p.accepts m with
  | error f => rfl
  | ok accepted =>
    cases accepted with
    | false => rfl
    | true =>
      simp only [hname, rename_self hr]
      cases (p.generate m options).2 <;> rfl

omit hr in
theorem notMem_of_nodup {results : Results} {e : String × Plugin} {es : List (String × Plugin)}
    (h : (results.map Prod.fst ++ (e :: es).map Prod.fst).Nodup) : e.1 ∉ results.map Prod.fst :=
  fun hmem => (List.nodup_append.mp h).2.2 e.1 hmem e.1 List.mem_cons_self rfl

/-- Plugins that do not fail leave their results and warnings behind. -/
theorem runEach_append (rest : List (String × Plugin)) {es : List (String × Plugin)} (hes : KeepsNames es)
    (hnodup : (s.results.map Prod.fst ++ es.map Prod.fst).Nodup)
    (hok : ∀ o ∈ outcomes m options es, failure? o.2 = none) :
    runEach m options s (es ++ rest) = runEach m options ⟨s.registry,
      s.printed ++ (outcomes m options es).warnings, s.results ++ (outcomes m options es).results⟩ rest := by
  induction es generalizing s with
  | nil =>
    have hnone : s.results ++ Outcomes.results [] = s.results := List.append_nil s.results
    rw [outcomes, List.map_nil, Outcomes.warnings_nil, String.append_empty, hnone]; rfl
  | cons e es ih =>
    obtain ⟨he, hes⟩ := List.forall_mem_cons.mp hes
    rw [outcomes, List.map_cons] at hok ⊢
    obtain ⟨hfirst, hok⟩ := List.forall_mem_cons.mp hok
    rw [List.cons_append, runEach_cons hr he]
    rcases outcome_cases e.2 m options with ⟨x, hx⟩ | hx | ⟨f, hx⟩
    -- a name without a result is added behind the others
    · have hfresh := Results.put_of_notMem (x := x) (notMem_of_nodup hnodup)
      have hnodup' : ((s.results ++ [(e.1, x)]).map Prod.fst ++ es.map Prod.fst).Nodup := by
        simpa using hnodup
      have hrest := ih (s := ⟨s.registry, s.printed, s.results ++ [(e.1, x)]⟩) hr hes hnodup' hok
      simp only [hx, hfresh, Outcomes.results_ok, Outcomes.warnings_ok]
      rw [hrest, List.append_assoc]; rfl
    · have hnodup' : (s.results.map Prod.fst ++ es.map Prod.fst).Nodup :=
        hnodup.sublist (List.Sublist.append_left (List.sublist_cons_self _ _) _)
      have hrest (printed : String) := ih (s := ⟨s.registry, printed, s.results⟩) hr hes hnodup' hok
      simp only [hx, Outcomes.results_error, Outcomes.warnings_rejected]
      rw [hrest, String.append_assoc]; rfl
    · simp [hx, failure?] at hfirst

/-- The first plugin that fails ends the run, whatever comes behind. -/
theorem runEach_failure (rest : List (String × Plugin)) {es : List (String × Plugin)} {e : String × Plugin}
    {f : PluginFailure} (hes : KeepsNames (es ++ [e])) (hnodup : (s.results.map Prod.fst ++ es.map Prod.fst).Nodup)
    (hok : ∀ o ∈ outcomes m options es, failure? o.2 = none) (hf : e.2.outcome m options = .error (.failure f)) :
    runEach m options s (es ++ e :: rest) = (⟨s.registry, s.printed ++ (outcomes m options es).warnings,
      s.results ++ (outcomes m options es).results⟩, some (.failure f)) := by
  obtain ⟨hes, he⟩ := List.forall_mem_append.mp hes
  rw [runEach_append hr (e :: rest) hes hnodup hok]
  generalize s.printed ++ _ = printed, s.results ++ _ = results
  rw [runEach_cons (s := ⟨s.registry, printed, results⟩) hr (he e List.mem_cons_self), hf]

end

/-- What a run prints and gives does not depend on what else is registered. -/
theorem runEach_registry (m : Manifest) (options : Value) (es : List (String × Plugin)) (r r' : Registry)
    (printed : String) (results : Results) :
    let s := runEach m options ⟨r, printed, results⟩ es
    let s' := runEach m options ⟨r', printed, results⟩ es
    s.1.printed = s'.1.printed ∧ s.1.results = s'.1.results ∧ s.2 = s'.2 := by
  induction es generalizing r r' printed results with
  | nil => exact ⟨rfl, rfl, rfl⟩
  | cons e es ih =>
    unfold runEach
    cases e.2.accepts m with
    | error f => exact ⟨rfl, rfl, rfl⟩
    | ok accepted =>
      cases accepted with
      | false => exact ih r r' _ results
      | true =>
        simp only
        cases (e.2.generate m options).2 with
        | error f => exact ⟨rfl, rfl, rfl⟩
        | ok x => exact ih (r.rename _ _) (r'.rename _ _) printed _

/-! ## All plugins -/

theorem keepsNames_replay {operations : List Operation}
    (h : ∀ p, .register p ∈ operations → p.Steady) : KeepsNames (empty.replay operations).1.entries := by
  intro e he
  rw [(holds_replay operations).entries] at he
  obtain ⟨p, hp, rfl⟩ := List.mem_map.mp he
  have hmem := register_mem_of_standing hp
  rw [map_fst_replay] at hmem
  exact ⟨rfl, h p hmem⟩

theorem outcomes_eq {r : Registry} (h : KeepsNames r.entries) (hnodup : r.names.Nodup) (m : Manifest)
    (options : Value) : (r.names.map fun n => (n, (r.run n m options).2)) = outcomes m options r.entries := by
  rw [names, List.map_map]
  refine List.map_congr_left fun e he => ?_
  simp [run_eq h hnodup m options he]

theorem outcomes_eq_append {m : Manifest} {options : Value} {es : List (String × Plugin)} {before behind : Outcomes}
    {n : String} {f : PluginFailure} (h : outcomes m options es = before ++ (n, .error (.failure f)) :: behind) :
    ∃ es₁ e es₂, es = es₁ ++ e :: es₂ ∧ outcomes m options es₁ = before ∧
      e.2.outcome m options = .error (.failure f) := by
  obtain ⟨es₁, rest, rfl, hbefore, hrest⟩ := List.map_eq_append_iff.mp h
  obtain ⟨e, es₂, rfl, he, -⟩ := List.map_eq_cons_iff.mp hrest
  exact ⟨es₁, e, es₂, rfl, hbefore, (Prod.ext_iff.mp he).2⟩

/-- **Runs over all plugins.** Where no plugin fails by itself, a run over all has the results of those
that accept the manifest and a warning for each of the others, in order. Otherwise it ends with the
failure of the first that fails, and what is registered behind that one makes no difference. -/
theorem runAll_eq_runs {operations : List Operation} (h : ∀ p, .register p ∈ operations → p.Steady)
    (m : Manifest) (options : Value) :
    let r := (empty.replay operations).1
    let runs : Outcomes := r.names.map fun n => (n, (r.run n m options).2)
    (∀ n, (r.run n m options).1 = r) ∧
      (∀ o ∈ runs, (∃ x, o.2 = .ok x) ∨ o.2 = .error (.rejected o.1) ∨ ∃ f, o.2 = .error (.failure f)) ∧
      ((∀ o ∈ runs, failure? o.2 = none) →
        r.runAll m options = (⟨r, runs.warnings, runs.results⟩, none)) ∧
      ∀ before n f behind, runs = before ++ (n, .error (.failure f)) :: behind →
        (∀ o ∈ before, failure? o.2 = none) →
        r.runAll m options = (⟨r, Outcomes.warnings before, Outcomes.results before⟩, some (.failure f)) ∧
        ∀ others, let s := runAll ⟨r.entries.take (before.length + 1) ++ others⟩ m options
          s.1.printed = Outcomes.warnings before ∧ s.1.results = Outcomes.results before ∧
            s.2 = some (.failure f) := by
  intro r runs
  have hnodup : r.names.Nodup := (holds_replay operations).nodup
  have hkeeps : KeepsNames r.entries := keepsNames_replay h
  have hruns : runs = outcomes m options r.entries := outcomes_eq hkeeps hnodup m options
  refine ⟨fst_run hkeeps hnodup m options, ?_, ?_, ?_⟩
  · rw [hruns]
    intro o ho
    obtain ⟨e, he, rfl⟩ := List.mem_map.mp ho
    rw [(hkeeps e he).1]
    exact outcome_cases e.2 m options
  · rw [hruns]
    intro hok
    have hall := runEach_append (s := ⟨r, "", []⟩) hkeeps [] hkeeps hnodup hok
    rw [List.append_nil, String.empty_append, List.nil_append] at hall
    exact hall
  · intro before n f behind hsplit hok
    rw [hruns] at hsplit
    obtain ⟨es, e, rest, hentries, rfl, hf⟩ := outcomes_eq_append hsplit
    have hcut : KeepsNames (es ++ [e]) := fun x hx => hkeeps x (by rw [hentries]; simp at hx ⊢; tauto)
    have hnames : (es.map Prod.fst).Nodup := by
      rw [names, hentries, List.map_append] at hnodup
      exact (List.nodup_append.mp hnodup).1
    have hrun (rest : List (String × Plugin)) :=
      runEach_failure (s := ⟨r, "", []⟩) hkeeps rest hcut hnames hok hf
    simp only [String.empty_append, List.nil_append] at hrun
    refine ⟨?_, fun others => ?_⟩
    · unfold runAll
      rw [hentries, hrun rest]
    -- whatever entries stand behind the one that fails, the run stops there
    · have htake : r.entries.take ((outcomes m options es).length + 1) ++ others = es ++ e :: others := by
        rw [hentries, outcomes, List.length_map, List.append_cons, List.take_left' (by simp), List.append_assoc]; rfl
      have hsame := runEach_registry m options (es ++ e :: others) ⟨es ++ e :: others⟩ r "" []
      rw [hrun others] at hsame
      rw [htake]
      exact hsame

/-- The one that rejects the manifest is warned about, and the one behind the failure is not run. -/
theorem runAll_eq_runs_broken :
    let plugin (name : String) (gate : Option (Manifest → Except PluginFailure Bool))
      (result : Except PluginFailure PluginResult) : Plugin := ⟨name, "", gate, fun _ _ => (name, result)⟩
    let operations : List Operation := [
      .register (plugin "docs" none (.ok (.text "endpoints"))),
      .register (plugin "shy" (some fun _ => .ok false) (.ok (.text "nothing"))),
      .register (plugin "broken" none (.error (.failed "no disk"))),
      .register (plugin "late" none (.ok (.text "late")))]
    let m : Manifest := ⟨"shop", "Shop", "1", .unset, [], .unset⟩
    let r := (empty.replay operations).1
    (∀ p, .register p ∈ operations → p.Steady) ∧
      r.runAll m .null = (⟨r, Console.message .warning (skipWarning "shy"), [("docs", .text "endpoints")]⟩,
        some (.failure (.failed "no disk"))) := by
  intro plugin operations m r
  have hsteady : ∀ p, .register p ∈ operations → p.Steady := by
    intro p hp
    simp only [operations, List.mem_cons, Operation.register.injEq, List.not_mem_nil, or_false] at hp
    rcases hp with rfl | rfl | rfl | rfl <;> exact fun _ _ => rfl
  refine ⟨hsteady, ?_⟩
  have hfailed := ((runAll_eq_runs hsteady m .null).2.2.2
    [("docs", .ok (.text "endpoints")), ("shy", .error (.rejected "shy"))] "broken" (.failed "no disk")
    [("late", .ok (.text "late"))] rfl (by simp [failure?])).1
  rw [Outcomes.warnings_ok, Outcomes.warnings_rejected, Outcomes.warnings_nil, String.append_empty] at hfailed
  exact hfailed

end Registry

end Scaffold
