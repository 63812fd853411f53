import Mathlib.Data.List.Nodup
import Scaffold.Manifest.Keys

/-!
# The key of an entity

The key is looked for twice: among all fields by kind, and among scalar fields
by kind and then by name. Both searches end with the same name
(`isPrimaryKey_eq`, `needsSyntheticKey_iff`), whatever stands between the
fields. What a client may write is all scalar fields but a key of a kind that
identifies (`writableFields_cases`).
-/

namespace Scaffold.Entity

theorem primaryKey_eq (e : Entity) : e.primaryKey =
    match e.scalarFields.find? (·.kind.isIdentity) with
    | some f => f.name
    | none => "id" := by
  unfold primaryKey scalarFields
  induction e.fields with
  | nil => rfl
  | cons f fields ih =>
    cases f with
    | relation f => simpa [Field.isIdentity, Field.scalar?] using ih
    | scalar f =>
      by_cases hf : f.kind.isIdentity
      · simp [Field.isIdentity, Field.scalar?, Field.name, Field.info, hf]
      · simpa [Field.isIdentity, Field.scalar?, hf] using ih

theorem scalarNames_sublist (e : Entity) :
    List.Sublist (e.scalarFields.map fun f => f.name) (e.fields.map (·.name)) := by
  unfold scalarFields
  induction e.fields with
  | nil => exact List.Sublist.slnil
  | cons f fields ih =>
    cases f with
    | scalar f => exact ih.cons_cons f.name
    | relation f => exact ih.cons f.name

theorem writableNames_sublist (e : Entity) :
    List.Sublist (e.writableFields.map fun f => f.name) (e.fields.map (·.name)) := by
  have h : List.Sublist e.writableFields e.scalarFields := by
    unfold writableFields
    split
    · exact List.filter_sublist
    · exact List.Sublist.refl _
  exact (h.map _).trans e.scalarNames_sublist

/-! ## The declared key -/

variable {e : Entity} {k f : ScalarField}

theorem keyField?_eq_some (h : e.keyField? = some k) : k ∈ e.scalarFields ∧ k.name = e.primaryKey := by
  rw [primaryKey_eq]
  rw [keyField?, Option.or_eq_some_iff] at h
  rcases h with hfind | ⟨hnone, hfind⟩
  · rw [hfind]
    exact ⟨List.mem_of_find?_eq_some hfind, rfl⟩
  · rw [hnone]
    exact ⟨List.mem_of_find?_eq_some hfind, by simpa using List.find?_some hfind⟩

theorem keyField?_eq_none (h : e.keyField? = none) :
    e.primaryKey = "id" ∧ ∀ f ∈ e.scalarFields, f.name ≠ "id" := by
  rw [keyField?, Option.or_eq_none_iff] at h
  refine ⟨by rw [primaryKey_eq, h.1], fun f hf => ?_⟩
  simpa using List.find?_eq_none.mp h.2 f hf

/-- The two searches for the key agree: of the scalar fields, those with its name are keys. -/
theorem isPrimaryKey_eq (hf : f ∈ e.scalarFields) : e.isPrimaryKey f = decide (f.name = e.primaryKey) := by
  unfold isPrimaryKey
  cases hkey : e.keyField? with
  | none =>
    obtain ⟨hid, hnames⟩ := keyField?_eq_none hkey
    exact (decide_eq_false (hid ▸ hnames f hf)).symm
  | some k => exact congrArg (fun name => decide (f.name = name)) (keyField?_eq_some hkey).2

theorem needsSyntheticKey_iff : e.needsSyntheticKey ↔ ∀ f ∈ e.scalarFields, f.name ≠ e.primaryKey := by
  unfold needsSyntheticKey
  cases hkey : e.keyField? with
  | none =>
    obtain ⟨hid, hnames⟩ := keyField?_eq_none hkey
    exact iff_of_true rfl (hid ▸ hnames)
  | some k =>
    obtain ⟨hk, hname⟩ := keyField?_eq_some hkey
    exact iff_of_false (by simp) fun h => h k hk hname

theorem exists_split (h : (e.fields.map (·.name)).Nodup) (hk : k ∈ e.scalarFields) :
    ∃ before after, e.scalarFields = before ++ k :: after ∧ ∀ f ∈ before ++ after, f.name ≠ k.name := by
  have hnames := h.sublist e.scalarNames_sublist
  obtain ⟨before, after, hsplit⟩ := List.append_of_mem hk
  refine ⟨before, after, hsplit, fun f hf hname => ?_⟩
  have hmem : k.name ∈ (before ++ after).map (·.name) := hname ▸ List.mem_map_of_mem hf
  rw [hsplit, List.map_append, List.map_cons, List.nodup_middle, ← List.map_append] at hnames
  exact (List.nodup_cons.mp hnames).1 hmem

/-! ## Writable fields -/

theorem writableFields_eq (e : Entity) : e.writableFields =
    if e.serverAssignsKey then e.scalarFields.filter fun f => f.name ≠ e.primaryKey
    else e.scalarFields := by
  have hfilter : (e.scalarFields.filter fun f => !e.isPrimaryKey f) =
      e.scalarFields.filter fun f => f.name ≠ e.primaryKey :=
    List.filter_congr fun f hf => by rw [isPrimaryKey_eq hf, decide_not]
  rw [writableFields, hfilter]

/-- A key that the application makes up is left out, and nothing else is. -/
theorem writableFields_cases (h : (e.fields.map (·.name)).Nodup) :
    (∃ before k after, e.scalarFields = before ++ k :: after ∧ k.name = e.primaryKey ∧
        k.kind.isIdentity ∧ e.writableFields = before ++ after) ∨
      ((∀ k ∈ e.scalarFields, k.name = e.primaryKey → k.kind.isIdentity = false) ∧
        e.writableFields = e.scalarFields) := by
  rw [writableFields_eq]
  cases hkey : e.keyField? with
  | none =>
    have hsynthetic := needsSyntheticKey_iff.mp (by rw [needsSyntheticKey, hkey]; rfl)
    refine Or.inr ⟨fun k hk hname => absurd hname (hsynthetic k hk), ?_⟩
    split
    · exact List.filter_eq_self.mpr fun f hf => decide_eq_true (hsynthetic f hf)
    · rfl
  | some k =>
    obtain ⟨hk, hname⟩ := keyField?_eq_some hkey
    obtain ⟨before, after, hsplit, hothers⟩ := exists_split h hk
    -- only a key that the server assigns is left out
    by_cases hid : k.kind.isIdentity
    · have hkeep : ∀ f ∈ before ++ after, decide (f.name ≠ e.primaryKey) = true :=
        fun f hf => decide_eq_true (hname ▸ hothers f hf)
      refine Or.inl ⟨before, k, after, hsplit, hname, hid, ?_⟩
      rw [if_pos (by rw [serverAssignsKey, hkey]; exact hid), hsplit, List.filter_append,
        List.filter_cons_of_neg (by simp [hname]), ← List.filter_append, List.filter_eq_self.mpr hkeep]
    · refine Or.inr ⟨fun f hf hfname => ?_, ?_⟩
      · have hfk : f = k :=
          List.inj_on_of_nodup_map (h.sublist e.scalarNames_sublist) hf hk (hfname.trans hname.symm)
        rw [hfk]
        exact Bool.eq_false_iff.mpr hid
      · rw [if_neg]
        rw [serverAssignsKey, hkey]
        exact hid

end Scaffold.Entity
