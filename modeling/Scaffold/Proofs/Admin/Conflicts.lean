import Mathlib.Data.List.Induction
import Mathlib.Data.List.Nodup
import Scaffold.Proofs.Generation.Filled

/-!
# Conflicts of page names

Admin pages are refused for the first entity whose name in lower case is that of
an entity before it, and both are named (`Admin.pages_eq_error_iff`). So there
are pages exactly when no two names are the same in lower case.
-/

namespace Scaffold.Admin

def lowerNames (es : List Entity) : List String := es.map fun e => Text.lower e.name

/-- `e` is the first entity whose name in lower case occurs before it, where `other` has it. -/
def Conflict (es : List Entity) (e other : Entity) : Prop :=
  ∃ before behind, es = before ++ e :: behind ∧ (lowerNames before).Nodup ∧ other ∈ before ∧
    Text.lower other.name = Text.lower e.name

theorem Conflict.append {es : List Entity} {e other : Entity} (h : Conflict es e other) (more : List Entity) :
    Conflict (es ++ more) e other := by
  obtain ⟨before, behind, rfl, hrest⟩ := h
  exact ⟨before, behind ++ more, by simp, hrest⟩

theorem exists_conflict {es : List Entity} (h : ¬ (lowerNames es).Nodup) : ∃ e other, Conflict es e other := by
  induction es using List.reverseRecOn with
  | nil => exact absurd List.nodup_nil h
  | append_singleton before e ih =>
    by_cases hbefore : (lowerNames before).Nodup
    · have hmem : Text.lower e.name ∈ lowerNames before := by
        by_contra hnew
        refine h ?_
        rw [lowerNames, List.map_append, List.map_singleton, ← List.concat_eq_append]
        exact List.Nodup.concat hnew hbefore
      obtain ⟨other, hother, hlower⟩ := List.mem_map.mp hmem
      exact ⟨e, other, before, [], rfl, hbefore, hother, hlower⟩
    · obtain ⟨e', other, hconflict⟩ := ih hbefore
      exact ⟨e', other, hconflict.append [e]⟩

/-- Entities without a conflict among them or with the owners before them own their page names too. -/
theorem addPages_append {before : List Entity} : ∀ {owners : List (String × String)} {pages : Pages},
    (owners.map Prod.fst ++ lowerNames before).Nodup → ∀ rest, ∃ pages',
      addPages owners pages (before ++ rest) =
        addPages (owners ++ before.map fun b => (b.pageName, b.name)) pages' rest := by
  induction before with
  | nil => exact fun _ rest => ⟨_, by rw [List.map_nil, List.append_nil]; rfl⟩
  | cons b before ih =>
    intro owners pages h rest
    rcases addPages_cons owners pages b (before ++ rest) with ⟨other, hother, -⟩ | ⟨-, pages', heq⟩
    · -- an owner of the page name of `b` would have it twice
      have hb : b.pageName ∈ lowerNames (b :: before) := List.mem_cons_self
      exact absurd rfl ((List.nodup_append.mp h).2.2 _ (List.mem_map_of_mem hother) _ hb)
    · have hrest : ((owners ++ [(b.pageName, b.name)]).map Prod.fst ++ lowerNames before).Nodup := by
        simpa [lowerNames, Entity.pageName] using h
      obtain ⟨pages'', hpages⟩ := @ih _ pages' hrest rest
      exact ⟨pages'', by rw [List.cons_append, heq, hpages, List.map_cons, List.append_assoc]; rfl⟩

theorem addPages_conflict {e : Entity} {rest : List Entity} {owners : List (String × String)} {pages : Pages}
    {other : String} (h : (owners.map Prod.fst).Nodup) (hother : (e.pageName, other) ∈ owners) :
    addPages owners pages (e :: rest) = .error (.conflict e.name other) := by
  rcases addPages_cons owners pages e rest with ⟨other', hother', heq⟩ | ⟨hnew, -⟩
  · have hsame := List.inj_on_of_nodup_map h hother hother' rfl
    rw [heq, (Prod.mk.inj hsame).2]
  · exact absurd (List.mem_map_of_mem hother) hnew

theorem pages_of_conflict {m : Manifest} {e other : Entity} (h : Conflict m.entities e other) :
    pages m = .error (.conflict e.name other.name) := by
  obtain ⟨before, behind, hm, hbefore, hother, hlower⟩ := h
  obtain ⟨pages', hpages⟩ := @addPages_append before [] .empty hbefore (e :: behind)
  rw [pages, hm, hpages]
  refine addPages_conflict ?_ ?_
  · simpa [lowerNames, Entity.pageName, Function.comp_def] using hbefore
  · exact List.mem_map.mpr ⟨other, hother, congrArg (·, other.name) hlower⟩

/-! ## Refused pages -/

theorem isOk_pages_iff {m : Manifest} :
    (pages m).isOk ↔ (m.entities.map fun e => Text.lower e.name).Nodup := by
  constructor
  · intro hok
    by_contra hnames
    obtain ⟨e, other, hconflict⟩ := exists_conflict hnames
    rw [pages_of_conflict hconflict] at hok
    cases hok
  · intro hnames
    obtain ⟨pages', hpages⟩ := @addPages_append m.entities [] .empty hnames []
    rw [List.append_nil] at hpages
    rw [pages, hpages]
    rfl

theorem pages_eq_error_iff {m : Manifest} {fault : PageFault} : pages m = .error fault ↔
    ∃ e other, Conflict m.entities e other ∧ fault = .conflict e.name other.name := by
  constructor
  · intro h
    obtain ⟨e, other, hconflict⟩ : ∃ e other, Conflict m.entities e other := by
      refine exists_conflict fun hnames => ?_
      have hok := isOk_pages_iff.mpr hnames
      rw [h] at hok
      cases hok
    exact ⟨e, other, hconflict, Except.error.inj (h.symm.trans (pages_of_conflict hconflict))⟩
  · rintro ⟨e, other, hconflict, rfl⟩
    exact pages_of_conflict hconflict

/-- Where names are distinct, it is only in case that those of refused pages differ. -/
theorem pages_eq_error {m : Manifest} {fault : PageFault} (hnames : (m.entities.map (·.name)).Nodup)
    (h : pages m = .error fault) : ∃ e ∈ m.entities, ∃ other ∈ m.entities,
      fault = .conflict e.name other.name ∧ e.name ≠ other.name ∧
        Text.lower e.name = Text.lower other.name := by
  obtain ⟨e, other, ⟨before, behind, hm, -, hother, hlower⟩, rfl⟩ := pages_eq_error_iff.mp h
  refine ⟨e, by simp [hm], other, by simp [hm, hother], rfl, ?_, hlower.symm⟩
  rw [hm, List.map_append, List.nodup_append] at hnames
  exact fun hname => hnames.2.2 other.name (List.mem_map_of_mem hother) e.name (by simp) hname.symm

end Scaffold.Admin
