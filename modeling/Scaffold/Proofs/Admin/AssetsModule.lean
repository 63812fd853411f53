import Scaffold.Proofs.Generation.Artifacts
import Scaffold.Proofs.Generation.Notes
import Scaffold.Proofs.Value.Brackets

/-!
# The module of assets

The assets are packed into a literal that goes over many lines. It evaluates to
them, whatever is in their texts (`Admin.assetsModule_evaluates`).
-/

namespace Scaffold.Admin

open Expression (Bracket)

/-! ## The literal -/

def assetFields (f : String × String) : List (String × String) :=
  [("content_type", contentType f.1), ("body", f.2)]

def assetValue (f : String × String) : Value := .ofFields ((assetFields f).map fun x => (x.1, .text x.2))

def assetLiteral (f : String × String) : List Char :=
  Bracket.ofMap.terminated "\n        ".toList
    ((assetFields f).map fun x => (Text.literal x.1).toList ++ ':' :: ' ' :: (Text.literal x.2).toList)
    "\n    ".toList

def assetsLiteral (files : TextFiles) : List Char :=
  Bracket.ofMap.terminated "\n    ".toList
    (files.map fun f => (Text.literal ("/" ++ f.1)).toList ++ ':' :: ' ' :: assetLiteral f) "\n".toList

theorem reads_assetLiteral (f : String × String) : Expression.Reads (assetLiteral f) (assetValue f) := by
  have hkeys : ((assetFields f).map Prod.fst).Nodup := (by decide : ["content_type", "body"].Nodup)
  exact Expression.reads_fields (by decide) (by decide) hkeys fun x _ => Expression.reads_literal x.2

theorem reads_assetsLiteral {files : TextFiles} (h : (files.map Prod.fst).Nodup) :
    Expression.Reads (assetsLiteral files) (.ofFields (files.map fun f => ("/" ++ f.1, assetValue f))) := by
  have hkeys : (files.map fun f => "/" ++ f.1).Nodup := by
    have hrooted : ((files.map Prod.fst).map ("/" ++ ·)).Nodup := h.map fun s s' heq => by simpa using heq
    rwa [List.map_map] at hrooted
  exact Expression.reads_fields (by decide) (by decide) hkeys fun f _ => reads_assetLiteral f

/-! ## The text of the module -/

theorem flatMap_assetLines (f : String × String) :
    ((assetLines f.1 f.2).map String.toList).flatMap (['\n'] ++ ·) =
      "\n    ".toList ++ ((Text.literal ("/" ++ f.1)).toList ++ ':' :: ' ' :: assetLiteral f ++ [',']) := by
  have htype : Text.literal "content_type" = "'content_type'" := by decide
  have hbody : Text.literal "body" = "'body'" := by decide
  simp [assetLines, assetLiteral, assetFields, Bracket.terminated, Bracket.ofMap, htype, hbody]

theorem intercalate_assetLines (files : TextFiles) : "\n" ++ "\n".intercalate ("" :: "ADMIN_ASSETS = \x7b" ::
      (files.flatMap (fun f => assetLines f.1 f.2) ++ ["\x7d", ""])) =
    "\n\nADMIN_ASSETS = " ++ String.ofList (assetsLiteral files) ++ "\n" := by
  have hlines : ((files.flatMap fun f => assetLines f.1 f.2).map String.toList).flatMap (['\n'] ++ ·) =
      files.flatMap fun f =>
        "\n    ".toList ++ ((Text.literal ("/" ++ f.1)).toList ++ ':' :: ' ' :: assetLiteral f ++ [',']) := by
    rw [List.map_flatMap, List.flatMap_assoc]
    exact List.flatMap_congr fun f _ => flatMap_assetLines f
  rw [← String.toList_inj, String.toList_append, String.toList_intercalate]
  simp only [List.map_cons, List.map_append, List.map_nil]
  have hfeed : "\n".toList = ['\n'] := rfl
  rw [Text.intercalate_cons_eq, List.flatMap_cons, List.flatMap_append, hfeed, hlines]
  simp [assetsLiteral, Bracket.terminated, Bracket.ofMap, List.flatMap_map]

/-- **The module of assets.** It is always written, and the literal in it evaluates to the assets in their
order, each under its path behind a slash, with its type and with the very text of the asset. -/
theorem assetsModule_evaluates (m : Manifest) : ∃ files written, assets m = .ok files ∧
    files.map Prod.fst = ["admin/index.html", "admin/admin.js", "admin/styles.css"] ∧
    assetsModule m = .ok (m.documented "Admin static assets." ("\n\nADMIN_ASSETS = " ++ written ++ "\n")) ∧
    Expression.evaluate written = some (.ofFields (files.map fun f =>
      ("/" ++ f.1, .ofFields [("content_type", .text (contentType f.1)), ("body", .text f.2)]))) := by
  obtain ⟨files, hfiles⟩ := isOk_iff.mp (isOk_assets m)
  obtain ⟨hpaths, -⟩ := assets_eq_ok hfiles
  refine ⟨files, String.ofList (assetsLiteral files), hfiles, hpaths, ?_, ?_⟩
  · rw [assetsModule, hfiles]
    refine congrArg Except.ok ?_
    rw [← intercalate_assetLines]
    exact Manifest.intercalate_documented (by decide) _ _
  · have hnodup : (files.map Prod.fst).Nodup := by
      rw [hpaths]
      decide
    have hreads := reads_assetsLiteral hnodup
    rw [Expression.evaluate, String.toList_ofList, ← List.append_nil (assetsLiteral files),
      hreads [] [] Expression.ends_nil, Expression.eval_nil]
    rfl

end Scaffold.Admin
