import Scaffold.Proofs.Generation.Filled
import Scaffold.Proofs.Manifest.Kept
import Scaffold.Proofs.Manifest.Validation
import Scaffold.Proofs.Page.Parts
import Scaffold.Proofs.Value.LaidOut
import Scaffold.Proofs.Value.Loaded

/-!
# The manifest in the settings module

The settings module binds the manifest to a literal. Where the manifest has
neither a date nor a moment nor a double that is not finite in it, that literal
evaluates to a value equal to the manifest; otherwise it has a name that the
module does not have (`AppSettings.manifest_evaluates`).
-/

namespace Scaffold

/-! ## What is kept of data is data -/

namespace Value

theorem isData_field {v w : Value} {key : String} (h : v.IsData) (hw : v.field? key = some w) : w.IsData := by
  obtain ⟨es, hes, hget⟩ := Option.bind_eq_some_iff.mp hw
  rw [entries?_eq_some_iff] at hes
  rw [hes] at h
  exact ((isData_map_iff.mp h).2 _ (Entries.mem_text_of_getText? hget)).2.2

section
variable {v : Value} (h : v.IsData)
include h

theorem isData_items : ∀ x ∈ v.items?.getD [], x.IsData := by
  cases v with
  | list xs | tuple xs => exact areData_iff.mp h
  | _ => exact List.forall_mem_nil _

theorem isData_keepItems {keep : Value → Value} (hkeep : ∀ w : Value, w.IsData → (keep w).IsData) :
    (keepItems keep v).IsData :=
  areData_iff.mpr (List.forall_mem_map.mpr fun x hx => hkeep x (isData_items h x hx))

theorem isData_keepMap : (keepMap v).IsData := by
  refine isData_ofList ?_
  cases v with
  | map es => exact (isData_map_iff.mp h).2
  | _ => exact List.forall_mem_nil _

theorem isData_keep {parts : List (String × (Value → Value))} (hnodup : (parts.map Prod.fst).Nodup)
    (hparts : ∀ part ∈ parts, ∀ w : Value, w.IsData → (part.2 w).IsData) : (v.keep parts).IsData := by
  have hdistinct : (v.keptFields parts).Pairwise fun a b => a.1 ≠ b.1 := by
    refine List.pairwise_filterMap.mpr ((List.pairwise_map.mp hnodup).imp ?_)
    intro part part' hne a ha b hb
    obtain ⟨w, -, rfl⟩ := Option.map_eq_some_iff.mp ha
    obtain ⟨w', -, rfl⟩ := Option.map_eq_some_iff.mp hb
    exact hne
  refine isData_map_iff.mpr
    ⟨List.pairwise_map.mpr (hdistinct.imp fun hne => ?_), List.forall_mem_map.mpr fun a ha => ?_⟩
  · rw [equal_text]
    exact beq_false_of_ne hne
  · obtain ⟨part, hpart, ha⟩ := List.mem_filterMap.mp ha
    obtain ⟨w, hw, rfl⟩ := Option.map_eq_some_iff.mp ha
    exact ⟨rfl, trivial, hparts part hpart w (isData_field h hw)⟩

end

theorem isData_unchanged {keys : List String} : ∀ part ∈ unchanged keys, ∀ w : Value, w.IsData → (part.2 w).IsData := by
  intro part hpart w hw
  obtain ⟨key, -, rfl⟩ := List.mem_map.mp hpart
  exact hw

end Value

theorem Relation.isData_kept {v : Value} (h : v.IsData) : (Relation.kept v).IsData :=
  Value.isData_keep h (by decide) Value.isData_unchanged

theorem Field.isData_kept {v : Value} (h : v.IsData) : (Field.kept v).IsData := by
  unfold Field.kept
  split
  · refine Value.isData_keep h (by decide) (List.forall_mem_append.mpr ⟨Value.isData_unchanged, ?_⟩)
    exact List.forall_mem_cons.mpr ⟨fun _ hw => hw, List.forall_mem_singleton.mpr fun _ => Relation.isData_kept⟩
  · refine Value.isData_keep h (by decide) (List.forall_mem_append.mpr ⟨Value.isData_unchanged, ?_⟩)
    exact List.forall_mem_singleton.mpr fun _ hw => hw

theorem Entity.isData_kept {v : Value} (h : v.IsData) : (Entity.kept v).IsData := by
  refine Value.isData_keep h (by decide) (List.forall_mem_append.mpr ⟨Value.isData_unchanged, ?_⟩)
  exact List.forall_mem_singleton.mpr fun _ hw => Value.isData_keepItems hw fun _ => Field.isData_kept

theorem Manifest.isData_kept {v : Value} (h : v.IsData) : (Manifest.kept v).IsData := by
  refine Value.isData_keep h (by decide) (List.forall_mem_append.mpr ⟨Value.isData_unchanged, ?_⟩)
  refine List.forall_mem_cons.mpr ⟨fun _ => Value.isData_keepMap, List.forall_mem_cons.mpr ⟨fun _ hw => ?_, ?_⟩⟩
  · exact Value.isData_keepItems hw fun _ => Entity.isData_kept
  · exact List.forall_mem_singleton.mpr fun _ => Value.isData_keepMap

theorem Manifest.isData_toValue {raw : Value} {m : Manifest} (hraw : raw.IsData) (h : validate raw = .ok m) :
    m.toValue.IsData := by
  rw [← (validate_eq_ok_iff.mp h).1.kept_eq]
  exact isData_kept hraw

namespace AppSettings

/-! ## The text of the module -/

/-- What stands before the literal of the manifest: no name but those of annotations is imported. -/
def opening (m : Manifest) : String :=
  "\"\"\"Application configuration.\n\n" ++ m.sourceBanner ++ "\n\"\"\"\n\n" ++
    "from __future__ import annotations\n\nfrom typing import Any\n\n" ++ "MANIFEST: dict[str, Any] = "

theorem fillAll_opening (m : Manifest) : Node.fillAll (Scope.ofEntries (context m)) (Page.configModule.take 7) =
    .ok (opening m ++ manifestLiteral m ++ "\n") := by
  refine (Node.fillAll_text (Node.fillAll_put rfl (Node.fillAll_text (Node.fillAll_text (Node.fillAll_text
    (Node.fillAll_put rfl (Node.fillAll_text rfl))))))).trans (congrArg Except.ok ?_)
  have hdocs : String.join (["\"\"\"Application configuration.", ""].map (· ++ "\n")) =
      "\"\"\"Application configuration.\n\n" := by decide +kernel
  have himports (rest : String) : "\n" ++ (String.join (["\"\"\"", "", "from __future__ import annotations", "",
      "from typing import Any", ""].map (· ++ "\n")) ++ rest) =
      "\n\"\"\"\n\n" ++ ("from __future__ import annotations\n\nfrom typing import Any\n\n" ++ rest) := by
    rw [← String.append_assoc, ← String.append_assoc]
    exact congrArg (· ++ rest) (by decide +kernel)
  unfold opening
  generalize m.sourceBanner = banner, manifestLiteral m = written
  rw [hdocs, himports]
  simp only [String.append_assoc, String.append_empty]

theorem text_eq (m : Manifest) : ∃ rest, text m = .ok (opening m ++ manifestLiteral m ++ "\n" ++ rest) := by
  obtain ⟨t, ht⟩ := isOk_iff.mp (isOk_text m)
  have hsplit : Node.fillAll (Scope.ofEntries (context m))
      (Page.configModule.take 7 ++ Page.configModule.drop 7) = .ok t := ht
  obtain ⟨front, rest, hfront, -, rfl⟩ := Node.fillAll_append_eq_ok.mp hsplit
  rw [fillAll_opening] at hfront
  cases hfront
  exact ⟨rest, ht⟩

/-! ## The value of the literal -/

theorem evaluate_manifestLiteral {m : Manifest} (h : m.toValue.IsData) :
    (m.toValue.selfContained = true → ∃ w, Expression.evaluate (manifestLiteral m) = some w ∧ w.equal m.toValue) ∧
    (m.toValue.selfContained = false → Expression.evaluate (manifestLiteral m) = none) := by
  have hends := Expression.ends_nil
  have hevaluate : Expression.evaluate (manifestLiteral m) =
      Expression.State.eval ⟨[], .start⟩ ((m.toValue.layout 0 0).toList ++ []) := by
    rw [List.append_nil]
    rfl
  rw [hevaluate]
  rcases Expression.evaluates_layout h 0 0 with ⟨hcontained, w, hagrees, hreads⟩ | ⟨hcontained, hfails⟩
  · refine ⟨fun _ => ⟨w, ?_, hagrees.1⟩, fun hfalse => ?_⟩
    · rw [hreads [] [] hends, Expression.eval_nil]
    · rw [hcontained] at hfalse
      cases hfalse
  · refine ⟨fun htrue => ?_, fun _ => hfails [] [] hends⟩
    rw [hcontained] at htrue
    cases htrue

/-- **Settings modules.** Of a manifest that was read from a JSON or a YAML text and is valid, the module has
the literal behind the name of the manifest. It evaluates to a value equal to the manifest if that is
self-contained, and to none at all if it is not. -/
theorem manifest_evaluates {text : List Char} {raw : Value} {m : Manifest}
    (hread : Json.read text = .ok raw ∨ Yaml.read text = .ok raw) (h : Manifest.validate raw = .ok m) :
    (∃ rest, AppSettings.text m = .ok (opening m ++ manifestLiteral m ++ "\n" ++ rest)) ∧
    (m.toValue.selfContained = true → ∃ w, Expression.evaluate (manifestLiteral m) = some w ∧ w.equal m.toValue) ∧
    (m.toValue.selfContained = false → Expression.evaluate (manifestLiteral m) = none) := by
  have hraw : raw.IsData := hread.elim Json.isData_of_read Yaml.isData_of_read
  exact ⟨text_eq m, evaluate_manifestLiteral (Manifest.isData_toValue hraw h)⟩

/-- Sets, bytes, nested mappings and a text that goes over two lines are read back. -/
theorem manifest_evaluates_shop :
    let text := ("id: shop\nname: Shop\nversion: '1'\n" ++
      "generators: \x7btags: !!set \x7bnew, old\x7d, key: !!binary aGk=, sizes: \x7b7: [1, [2, 3]]\x7d,\n" ++
      "  note: the quick brown fox jumps over the lazy dog and the lazy dog sleeps on and on and on\x7d\n" ++
      "entities: [\x7bname: Item, fields: [\x7bname: code, kind: string\x7d]\x7d]\n").toList
    ∃ raw m w, Yaml.read text = .ok raw ∧ Manifest.validate raw = .ok m ∧
      Expression.evaluate (manifestLiteral m) = some w ∧ w.equal m.toValue := by
  -- the characters of a literal are at hand, those of texts put together have to be decoded
  rw [String.toList_append, String.toList_append, String.toList_append, String.toList_ofList, String.toList_ofList,
    String.toList_ofList, String.toList_ofList]
  intro text
  obtain ⟨raw, hread, m, hm, hcontained⟩ : ∃ raw ∈ (Yaml.read text).toOption,
      ∃ m ∈ (Manifest.validate raw).toOption, m.toValue.selfContained = true := by decide +kernel
  rw [mem_toOption] at hread hm
  obtain ⟨-, hevaluates, -⟩ := manifest_evaluates (.inr hread) hm
  obtain ⟨w, hw, hequal⟩ := hevaluates hcontained
  exact ⟨raw, m, w, hread, hm, hw, hequal⟩

/-- The literal of a date names a module that is not imported. -/
theorem date_without_value :
    let text := ("id: shop\nname: Shop\nversion: '1'\n" ++
      "entities: [\x7bname: Item, fields: [\x7bname: sold, kind: date, default: 2024-01-31\x7d]\x7d]\n").toList
    ∃ raw m, Yaml.read text = .ok raw ∧ Manifest.validate raw = .ok m ∧
      ¬ ∃ w, Expression.evaluate (manifestLiteral m) = some w ∧ w.equal m.toValue := by
  rw [String.toList_append, String.toList_ofList, String.toList_ofList]
  intro text
  obtain ⟨raw, hread, m, hm, hcontained⟩ : ∃ raw ∈ (Yaml.read text).toOption,
      ∃ m ∈ (Manifest.validate raw).toOption, m.toValue.selfContained = false := by decide +kernel
  rw [mem_toOption] at hread hm
  have hnone := (evaluate_manifestLiteral (Manifest.isData_toValue (Yaml.isData_of_read hread) hm)).2 hcontained
  refine ⟨raw, m, hread, hm, ?_⟩
  rw [hnone]
  exact fun ⟨w, hw, _⟩ => nomatch hw

end AppSettings

end Scaffold
