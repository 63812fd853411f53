import Mathlib.Data.List.Induction
import Scaffold.Proofs.Generation.Completion

/-!
# Groups asked for and groups skipped

To ask for some groups, in any order and repeatedly, comes to the same as to
skip all others: both runs make the same pieces under the keys of these groups,
or both fail (`Manifest.generate_agrees`).
-/

namespace Scaffold

namespace Group

def keys : Group → List String
  | .schema => ["schema", "validation_schemas"]
  | .types => ["types", "api_types"]
  | .routes => ["routes", "request_schemas"]
  | .config => ["config"]
  | .migrations => ["migrations", "rollback"]
  | .admin => ["admin", "admin_assets", "admin_assets_module"]

theorem keys_of_run {m : Manifest} {t : Moment} {g : Group} {ps : List Piece} (h : g.run m t = .ok ps) :
    ps.map Piece.key = g.keys := by
  cases g with
  | types => cases h; rfl
  | schema | config | migrations =>
    obtain ⟨_, -, h⟩ := bind_eq_ok.mp h
    cases h; rfl
  | routes =>
    obtain ⟨_, -, h⟩ := bind_eq_ok.mp h
    obtain ⟨_, -, h⟩ := bind_eq_ok.mp h
    cases h; rfl
  | admin =>
    obtain ⟨_, -, h⟩ := bind_eq_ok.mp h
    obtain ⟨_, -, h⟩ := bind_eq_ok.mp h
    obtain ⟨_, -, h⟩ := bind_eq_ok.mp h
    cases h; rfl

theorem keys_apart {g g' : Group} (h : g ≠ g') : g.keys.Disjoint g'.keys := by
  have hall : ∀ g ∈ all, ∀ g' ∈ all, g ≠ g' → ∀ k ∈ g.keys, k ∉ g'.keys := by decide
  exact fun k hk hk' => hall g (mem_all g) g' (mem_all g') h k hk hk'

theorem nodup_keys {gs : List Group} (h : gs.Nodup) : (gs.flatMap keys).Nodup := by
  refine List.nodup_flatMap.mpr ⟨fun g _ => ?_, h.imp fun hne => keys_apart hne⟩
  cases g <;> decide

theorem eraseDups_snoc (gs : List Group) (g : Group) :
    (gs ++ [g]).eraseDups = if g ∈ gs then gs.eraseDups else gs.eraseDups ++ [g] := by
  rw [List.eraseDups_append]
  by_cases h : g ∈ gs <;> simp [List.removeAll, h, List.eraseDups_cons]

theorem nodup_eraseDups (gs : List Group) : gs.eraseDups.Nodup := by
  induction gs using List.reverseRecOn with
  | nil => simp
  | append_singleton gs g ih =>
    rw [eraseDups_snoc]
    by_cases h : g ∈ gs
    · rw [if_pos h]; exact ih
    · rw [if_neg h, ← List.concat_eq_append]
      exact ih.concat fun hg => h (List.mem_eraseDups.mp hg)

end Group

/-! ## The pieces of an output -/

namespace Output

theorem keys_pieces (o : Output) : o.pieces.map Piece.key = Group.all.flatMap Group.keys := rfl

theorem key_mem (p : Piece) : p.key ∈ Group.all.flatMap Group.keys := by
  cases p <;> simp [Piece.key, Group.all, Group.keys]

theorem pieces_put (o : Output) (p : Piece) :
    (o.put p).pieces = o.pieces.map fun q => if q.key = p.key then p else q := by
  cases p <;> rfl

theorem mem_pieces_foldl_put {q : Piece} : ∀ {ps : List Piece} {o : Output}, q ∈ (ps.foldl put o).pieces →
    q ∈ ps ∨ q ∈ o.pieces ∧ q.key ∉ ps.map Piece.key
  | [], _, h => Or.inr ⟨h, List.not_mem_nil⟩
  | p :: ps, o, h => by
    rw [List.foldl_cons] at h
    rcases mem_pieces_foldl_put h with h | ⟨h, hkey⟩
    · exact Or.inl (List.mem_cons_of_mem p h)
    · rw [pieces_put] at h
      obtain ⟨q', hq', rfl⟩ := List.mem_map.mp h
      by_cases heq : q'.key = p.key
      · left; simp [heq]
      · rw [if_neg heq] at hkey ⊢
        right; simp [hq', heq, hkey]

theorem mem_pieces_of_mem {p : Piece} {ps : List Piece} (hnodup : (ps.map Piece.key).Nodup) (hp : p ∈ ps)
    (o : Output) : p ∈ (ps.foldl put o).pieces := by
  have hkey := key_mem p
  rw [← keys_pieces (ps.foldl put o)] at hkey
  obtain ⟨q, hq, hqkey⟩ := List.mem_map.mp hkey
  rcases mem_pieces_foldl_put hq with hmem | ⟨-, hnot⟩
  · rwa [List.inj_on_of_nodup_map hnodup hp hmem hqkey.symm]
  · exact absurd (hqkey ▸ List.mem_map_of_mem hp) hnot

end Output

namespace Manifest

theorem putPiece_of_notMem {p : Piece} : ∀ {ps : List Piece}, p.key ∉ ps.map Piece.key → putPiece ps p = ps ++ [p]
  | [], _ => rfl
  | q :: ps, h => by
    rw [List.map_cons, List.mem_cons, not_or] at h
    rw [putPiece, if_neg (Ne.symm h.1), putPiece_of_notMem h.2]; rfl

theorem putPiece_of_mem {p : Piece} : ∀ {ps : List Piece}, (ps.map Piece.key).Nodup → p ∈ ps → putPiece ps p = ps
  | q :: ps, hnodup, h => by
    rw [List.map_cons, List.nodup_cons] at hnodup
    rw [putPiece]
    rcases List.mem_cons.mp h with rfl | h
    · rw [if_pos rfl]
    · have hne : q.key ≠ p.key := fun heq => hnodup.1 (heq ▸ List.mem_map_of_mem h)
      rw [if_neg hne, putPiece_of_mem hnodup.2 h]

theorem foldl_putPiece_of_nodup : ∀ {qs ps : List Piece}, ((ps ++ qs).map Piece.key).Nodup →
    qs.foldl putPiece ps = ps ++ qs
  | [], ps, _ => (List.append_nil ps).symm
  | q :: qs, ps, h => by
    have hnew : q.key ∉ ps.map Piece.key := by
      rw [List.map_append, List.nodup_append] at h
      exact fun hmem => h.2.2 q.key hmem q.key List.mem_cons_self rfl
    rw [List.foldl_cons, putPiece_of_notMem hnew, List.append_cons ps q qs]
    exact foldl_putPiece_of_nodup (List.append_cons ps q qs ▸ h)

theorem foldl_putPiece_of_subset {ps : List Piece} (hnodup : (ps.map Piece.key).Nodup) :
    ∀ {qs : List Piece}, qs ⊆ ps → qs.foldl putPiece ps = ps
  | [], _ => rfl
  | q :: qs, h => by
    obtain ⟨hq, hqs⟩ := List.cons_subset.mp h
    rw [List.foldl_cons, putPiece_of_mem hnodup hq, foldl_putPiece_of_subset hnodup hqs]

section
variable {made : Group → List Piece}

theorem map_key_flatMap {gs : List Group} (h : ∀ g ∈ gs, (made g).map Piece.key = g.keys) :
    (gs.flatMap made).map Piece.key = gs.flatMap Group.keys := by
  rw [List.map_flatMap]
  exact List.flatMap_congr h

/-- A group that is asked for again puts its pieces where they are. -/
theorem foldl_groups {gs : List Group} (h : ∀ g ∈ gs, (made g).map Piece.key = g.keys) :
    gs.foldl (fun ps g => (made g).foldl putPiece ps) [] = gs.eraseDups.flatMap made := by
  induction gs using List.reverseRecOn with
  | nil => simp
  | append_singleton gs g ih =>
    obtain ⟨hgs, hg⟩ := List.forall_mem_append.mp h
    rw [List.foldl_append, ih hgs, Group.eraseDups_snoc]
    have hkeys (gs' : List Group) (hsub : gs' ⊆ gs ++ [g]) := map_key_flatMap fun g' hg' => h g' (hsub hg')
    by_cases hmem : g ∈ gs
    · rw [if_pos hmem]
      refine foldl_putPiece_of_subset ?_ fun p hp => List.mem_flatMap.mpr ⟨g, List.mem_eraseDups.mpr hmem, hp⟩
      rw [hkeys _ fun g' hg' => List.mem_append_left _ (List.mem_eraseDups.mp hg')]
      exact Group.nodup_keys (Group.nodup_eraseDups gs)
    · have hsnoc : (gs.eraseDups ++ [g]).Nodup := by
        have := Group.nodup_eraseDups (gs ++ [g])
        rwa [Group.eraseDups_snoc, if_neg hmem] at this
      rw [if_neg hmem, List.flatMap_append, List.flatMap_singleton]
      refine foldl_putPiece_of_nodup ?_
      have hflat : gs.eraseDups.flatMap made ++ made g = (gs.eraseDups ++ [g]).flatMap made := by simp
      rw [hflat, hkeys]
      · exact Group.nodup_keys hsnoc
      · intro g' hg'
        simpa using hg'

end

/-! ## Runs -/

def runTarget (m : Manifest) (t : Moment) (target : Value) : Except GenerationFault (List Piece) := do
  (← targetGroup target).run m t

theorem generate_eq (m : Manifest) (targets : List Value) (t : Moment) : m.generate targets t =
    targets.foldlM (fun ps target => do return (← m.runTarget t target).foldl putPiece ps) [] := by
  unfold generate runTarget
  congr 1
  funext ps target
  cases targetGroup target <;> rfl

theorem runTarget_name (m : Manifest) (t : Moment) (g : Group) : m.runTarget t (.text g.name) = g.run m t := by
  cases g <;> rfl

theorem runTarget_unknown (m : Manifest) (t : Moment) {u : String} (h : u ∉ Group.names) :
    m.runTarget t (.text u) = .error (.unknownTarget u) := by
  have hnone : Group.ofName? u = none := by
    refine List.find?_eq_none.mpr fun g hg hname => h ?_
    exact List.mem_map.mpr ⟨g, hg, of_decide_eq_true hname⟩
  unfold runTarget targetGroup
  simp only [Value.text?, Option.bind_some, hnone]
  rfl

theorem foldlM_ok {ε α β γ : Type} {run : α → Except ε γ} (put : β → γ → β) {made : α → γ} :
    ∀ {xs : List α} (b : β), (∀ x ∈ xs, run x = .ok (made x)) →
      xs.foldlM (fun b x => do return put b (← run x)) b = .ok (xs.foldl (fun b x => put b (made x)) b)
  | [], _, _ => rfl
  | x :: xs, b, h => by
    obtain ⟨hx, hxs⟩ := List.forall_mem_cons.mp h
    rw [List.foldlM_cons, hx]
    exact foldlM_ok put (put b (made x)) hxs

theorem foldlM_error {ε α β γ : Type} {run : α → Except ε γ} (put : β → γ → β) {xs : List α} (b : β)
    (h : ¬ ∀ x ∈ xs, (run x).isOk) : ∃ fault, xs.foldlM (fun b x => do return put b (← run x)) b = .error fault := by
  rcases foldlM_run_cases run put xs b with ⟨-, -, hall⟩ | ⟨-, -, -, fault, -, -, -, hfault⟩
  · exact absurd hall h
  · exact ⟨fault, hfault⟩

theorem generate_groups (m : Manifest) (t : Moment) (gs : List Group) :
    m.generate (gs.map fun g => .text g.name) t =
      gs.foldlM (fun ps g => do return (← g.run m t).foldl putPiece ps) [] := by
  rw [generate_eq, List.foldlM_map]
  simp only [runTarget_name]

/-- The groups before an unknown name run first. -/
theorem generate_unknown (m : Manifest) (t : Moment) (before : List Group) {u : String} (h : u ∉ Group.names)
    (behind : List Value) :
    let run := m.generate (before.map (fun g => .text g.name) ++ .text u :: behind) t
    ((∀ g ∈ before, (g.run m t).isOk) ∧ run = .error (.unknownTarget u)) ∨
      ∃ gs g gs' fault, before = gs ++ g :: gs' ∧ (∀ g ∈ gs, (g.run m t).isOk) ∧ g.run m t = .error fault ∧
        run = .error fault := by
  intro run
  have hrun : run = m.generate (before.map fun g => .text g.name) t >>= fun ps =>
      (.text u :: behind).foldlM (fun ps target => do return (← m.runTarget t target).foldl putPiece ps) ps := by
    rw [generate_eq, ← List.foldlM_append, ← generate_eq]
  rw [generate_groups] at hrun
  rcases foldlM_run_cases (Group.run m t) (fun ps new => new.foldl putPiece ps) before [] with
    ⟨ps, hps, hall⟩ | ⟨gs, g, gs', fault, hbefore, hgs, hg, hfault⟩
  · left
    rw [hps] at hrun
    refine ⟨hall, hrun.trans ?_⟩
    show List.foldlM _ ps _ = _
    rw [List.foldlM_cons, runTarget_unknown m t h]; rfl
  · right
    rw [hfault] at hrun
    exact ⟨gs, g, gs', fault, hbefore, hgs, hg, hrun⟩

/-- **Groups asked for.** A run of the groups that are not skipped, asked for in any order and repeatedly,
and a run that skips the others both fail or both succeed. Then the first has the pieces of its groups, which
the second has too, beside nothing but empty ones. An unknown name ends a run unless a group before it did. -/
theorem generate_agrees (m : Manifest) (t : Moment) :
    (∀ skip names, skippedNames skip = .ok names → ∀ asked : List Group, (∀ g, g ∈ asked ↔ g.name ∉ names) →
      let asking := m.generate (asked.map fun g => .text g.name) t
      let skipping := skippedNames skip >>= fun names => m.generateAll names t
      (∃ ps o, asking = .ok ps ∧ skipping = .ok o ∧ ps.map Piece.key = asked.eraseDups.flatMap Group.keys ∧
        (∀ p ∈ ps, p ∈ o.pieces) ∧ ∀ p ∈ o.pieces, p.key ∉ ps.map Piece.key → p ∈ Output.empty.pieces) ∨
      ∃ fault fault', asking = .error fault ∧ skipping = .error fault') ∧
    ∀ (before : List Group) u (behind : List Value), u ∉ Group.names →
      let run := m.generate (before.map (fun g => .text g.name) ++ .text u :: behind) t
      ((∀ g ∈ before, (g.run m t).isOk) ∧ run = .error (.unknownTarget u)) ∨
        ∃ gs g gs' fault, before = gs ++ g :: gs' ∧ (∀ g ∈ gs, (g.run m t).isOk) ∧ g.run m t = .error fault ∧
          run = .error fault := by
  refine ⟨fun skip names hskip asked hasked => ?_, fun before u behind hu => generate_unknown m t before hu behind⟩
  intro asking skipping
  have hasking : asking = _ := generate_groups m t asked
  have hskipping : skipping = m.generateAll names t := by
    show skippedNames skip >>= _ = _
    rw [hskip]; rfl
  have hsame {g : Group} : g ∈ (Group.all.filter fun g => !names.contains g.name) ↔ g ∈ asked :=
    name_notMem_iff.trans (hasked g).symm
  unfold generateAll at hskipping
  -- either every group asked for can be made, or both runs stop at one that cannot
  by_cases hall : ∀ g ∈ asked, (g.run m t).isOk
  · left
    let made (g : Group) : List Piece := (g.run m t).toOption.getD []
    have hmade : ∀ g ∈ asked, g.run m t = .ok (made g) := by
      intro g hg
      obtain ⟨ps, hps⟩ := isOk_iff.mp (hall g hg)
      simp [made, hps, Except.toOption]
    have hkeys : ∀ g ∈ asked, (made g).map Piece.key = g.keys := fun g hg => Group.keys_of_run (hmade g hg)
    rw [foldlM_ok _ _ hmade, foldl_groups hkeys] at hasking
    rw [foldlM_ok _ _ fun g hg => hmade g (hsame.mp hg), ← List.foldl_flatMap] at hskipping
    -- one run follows the order asked for and the other that of all groups
    have hmem {p : Piece} : p ∈ (Group.all.filter fun g => !names.contains g.name).flatMap made ↔
        p ∈ asked.eraseDups.flatMap made := by
      simp only [List.mem_flatMap, hsame, List.mem_eraseDups]
    have hnodup : (((Group.all.filter fun g => !names.contains g.name).flatMap made).map Piece.key).Nodup := by
      rw [map_key_flatMap fun g hg => hkeys g (hsame.mp hg)]
      have hall : Group.all.Nodup := by decide
      exact Group.nodup_keys (hall.filter _)
    refine ⟨_, _, hasking, hskipping, ?_, fun p hp => ?_, fun p hp hkey => ?_⟩
    · exact map_key_flatMap fun g hg => hkeys g (List.mem_eraseDups.mp hg)
    · exact Output.mem_pieces_of_mem hnodup (hmem.mpr hp) Output.empty
    · rcases Output.mem_pieces_foldl_put hp with hp | ⟨hp, -⟩
      · exact absurd (List.mem_map_of_mem (hmem.mp hp)) hkey
      · exact hp
  · right
    obtain ⟨fault, hfault⟩ := foldlM_error (fun ps new => new.foldl putPiece ps) [] hall
    obtain ⟨fault', hfault'⟩ := foldlM_error (fun o ps => ps.foldl Output.put o) Output.empty
      (fun hok => hall fun g hg => hok g (hsame.mpr hg))
    exact ⟨fault, fault', hasking.trans hfault, hskipping.trans hfault'⟩

/-- Groups asked for twice, with names to skip of which one is there twice and one is no group's. -/
theorem generate_agrees_shop :
    let title : Value := .ofFields [("name", .text "title"), ("kind", .text "string")]
    let raw : Value := .ofFields [("id", .text "shop"), ("name", .text "Shop"), ("version", .text "1"),
      ("entities", .list [.ofFields [("name", .text "Item"), ("fields", .list [title])]])]
    let t : Moment := ⟨⟨2024, 1, 1⟩, 0, 0, 0, 0, none⟩
    let names := ["schema", "admin", "routes", "pages", "config", "admin"]
    let asked : List Group := [.migrations, .types, .migrations]
    ∃ m ps o, validate raw = .ok m ∧ skippedNames (.ofTexts names) = .ok names ∧ (∀ g, g ∈ asked ↔ g.name ∉ names) ∧
      m.generate (asked.map fun g => .text g.name) t = .ok ps ∧ m.generateAll names t = .ok o ∧
      ps.map Piece.key = ["migrations", "rollback", "types", "api_types"] ∧ (∀ p ∈ ps, p ∈ o.pieces) ∧
      "pages" ∉ Group.names ∧
      m.generate [.text "types", .text "pages", .text "config"] t = .error (.unknownTarget "pages") := by
  intro title raw t names asked
  obtain ⟨m, hm, hmade⟩ : ∃ m, validate raw = .ok m ∧ (m.generate (asked.map fun g => .text g.name) t).isOk :=
    ⟨_, rfl, rfl⟩
  have hskip : skippedNames (.ofTexts names) = .ok names := rfl
  have hasked : ∀ g, g ∈ asked ↔ g.name ∉ names := by
    intro g
    cases g <;> decide
  have hunknown : "pages" ∉ Group.names := by decide
  obtain ⟨hagree, hends⟩ := generate_agrees m t
  rcases hagree _ _ hskip asked hasked with ⟨ps, o, hps, ho, hkeys, hmem, -⟩ | ⟨fault, -, hfault, -⟩
  · refine ⟨m, ps, o, hm, hskip, hasked, hps, ho, hkeys.trans (by decide), hmem, hunknown, ?_⟩
    rcases hends [.types] "pages" [.text "config"] hunknown with ⟨-, hrun⟩ | ⟨gs, g, gs', fault, hgs, -, hg, -⟩
    · exact hrun
    · obtain rfl : g = .types := by
        have hmem : g ∈ [Group.types] := by rw [hgs]; simp
        simpa using hmem
      cases hg
  · rw [hfault] at hmade
    cases hmade

end Manifest

end Scaffold
